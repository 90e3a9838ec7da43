import Mathlib.Data.List.Flatten
import TypedModules.Definitions
import TypedModules.Proofs.Declared.Names
import TypedModules.Proofs.Ty.Function

/-!
# Formed declarations

A library tells the definitions of each module.  Definitions are formed in a library if no id
has two declarations, every declaration knows its module, and each type that is written in
one is formed where its type parameters are in scope.  Then what is derived from declarations
is formed as well: adapters, and all signatures.
-/

namespace TypedModules

/-- The definitions of modules. -/
abbrev Library := ModuleId → Option Definitions

namespace Library

/-- With how many arguments an entity is a type. -/
def Arity (library : Library) (entity : Entity) (n : Nat) : Prop :=
  ∃ definitions kind header, library entity.module = some definitions
    ∧ definitions.typeHeader? kind entity.id = some header ∧ header.typeParams.length = n

/-- Where the given type parameters are in scope. -/
def scopeOf (library : Library) (typeParams : List TypeParam) : TyScope :=
  ⟨library.Arity, (·.name ∈ typeParams.map (·.name))⟩

/-- Where any type parameter may be in scope. -/
def openScope (library : Library) : TyScope :=
  ⟨library.Arity, fun _ => True⟩

/-- Where no type parameter is in scope. -/
def closedScope (library : Library) : TyScope :=
  ⟨library.Arity, fun _ => False⟩

/-- Whether a library tells all that another one tells. -/
def Extends (library other : Library) : Prop :=
  ∀ id definitions, other id = some definitions → library id = some definitions

theorem Extends.refl (library : Library) :
  library.Extends library
  := fun _ _ => id

theorem Extends.arity {library other : Library} (h : library.Extends other) {entity : Entity}
    {n : Nat} (harity : other.Arity entity n) :
  library.Arity entity n
  := by
  obtain ⟨definitions, kind, header, hd, hheader, rfl⟩ := harity
  exact ⟨definitions, kind, header, h _ _ hd, hheader, rfl⟩

end Library

/-! ### What declares an id -/

/-- The ids that definitions declare or derive, each with what it is. -/
def Definitions.entries (definitions : Definitions) : List (EntityId × EntityKind) :=
  definitions.functions.map (fun f => (f.id, .function))
    ++ (definitions.structs.map (fun s => (s.id, .struct))
    ++ (definitions.interfaces.flatMap (fun i => [(i.id, .interface), (i.adapterId, .adapter)])
    ++ (definitions.unions.flatMap (fun u =>
        (u.id, .union) :: u.options.map (fun o => (u.id.child o.name, .option))
          ++ [(u.whenId, .when)])
    ++ definitions.opaques.map fun o => (o.id, .opaqueType))))

/-- Whether no id has two declarations. -/
def Definitions.Distinct (definitions : Definitions) : Prop :=
  (definitions.entries.map (·.1)).Nodup

/-- Whether a struct is formed. -/
structure StructHeader.Formed (library : Library) (header : StructHeader) : Prop where
  params : (header.typeParams.map (·.name)).Nodup
  names : (header.members.map (·.name)).Nodup
  members : ∀ m ∈ header.members, m.type.Formed (library.scopeOf header.typeParams) 0

/-- Whether a method is formed where the type parameters of its interface are in scope. -/
structure Method.Formed (library : Library) (typeParams : List TypeParam) (method : Method) :
    Prop where
  params : ((typeParams ++ method.typeParams).map (·.name)).Nodup
  args : ∀ a ∈ method.args, a.type.Formed (library.scopeOf (typeParams ++ method.typeParams)) 0
  output : method.output.Formed (library.scopeOf (typeParams ++ method.typeParams)) 0

/-- Whether an interface is formed. -/
structure Interface.Formed (library : Library) (interface : Interface) : Prop where
  params : (interface.typeParams.map (·.name)).Nodup
  names : (interface.methods.map (·.name)).Nodup
  methods : ∀ m ∈ interface.methods, m.Formed library interface.typeParams

/-- Whether a union is formed. -/
structure Union.Formed (library : Library) (union : Union) : Prop where
  params : (union.typeParams.map (·.name)).Nodup
  names : (union.options.map (·.name)).Nodup
  options : ∀ o ∈ union.options, ∀ type, o.type = some type →
    type.Formed (library.scopeOf union.typeParams) 0

/-- Whether a signature is formed. -/
structure Signature.Formed (library : Library) (signature : Signature) : Prop where
  params : (signature.typeParams.map (·.name)).Nodup
  args : ∀ a ∈ signature.args, a.Formed (library.scopeOf signature.typeParams) 0
  output : signature.output.Formed (library.scopeOf signature.typeParams) 0

/-- Whether the definitions of a module are formed in a library. -/
structure Definitions.Formed (library : Library) (id : ModuleId) (definitions : Definitions) :
    Prop where
  distinct : definitions.Distinct
  structs : ∀ s ∈ definitions.structs, s.module = id ∧ s.Formed library
  interfaces : ∀ i ∈ definitions.interfaces, i.module = id ∧ i.Formed library
  unions : ∀ u ∈ definitions.unions, u.module = id ∧ u.Formed library
  functions : ∀ f ∈ definitions.functions, f.Formed library

/-- Whether all definitions that a library tells are formed in it. -/
def Library.Formed (library : Library) : Prop :=
  ∀ id definitions, library id = some definitions → definitions.Formed library id

section Extends

variable {library other : Library} (h : library.Extends other)

include h

theorem Ty.Formed.extend {type : Ty} {typeParams more : List TypeParam} {allowed : Nat}
    (htype : type.Formed (other.scopeOf typeParams) allowed) (hsub : typeParams ⊆ more) :
  type.Formed (library.scopeOf more) allowed
  := htype.mono (fun _ _ => h.arity) (fun _ hp => List.map_subset _ hsub hp) (Nat.le_refl _)

theorem StructHeader.Formed.extend {header : StructHeader} (hs : header.Formed other) :
  header.Formed library
  := ⟨hs.params, hs.names, fun m hm => (hs.members m hm).extend h (List.Subset.refl _)⟩

theorem Method.Formed.extend {typeParams : List TypeParam} {method : Method}
    (hm : method.Formed other typeParams) :
  method.Formed library typeParams
  := ⟨hm.params, fun a ha => (hm.args a ha).extend h (List.Subset.refl _),
    hm.output.extend h (List.Subset.refl _)⟩

theorem Interface.Formed.extend {interface : Interface} (hi : interface.Formed other) :
  interface.Formed library
  := ⟨hi.params, hi.names, fun m hm => (hi.methods m hm).extend h⟩

theorem Union.Formed.extend {union : Union} (hu : union.Formed other) :
  union.Formed library
  := ⟨hu.params, hu.names,
    fun o ho type e => (hu.options o ho type e).extend h (List.Subset.refl _)⟩

theorem Signature.Formed.extend {signature : Signature} (hs : signature.Formed other) :
  signature.Formed library
  := ⟨hs.params, fun a ha => (hs.args a ha).extend h (List.Subset.refl _),
    hs.output.extend h (List.Subset.refl _)⟩

/-- Definitions stay formed in a library that tells more. -/
theorem Definitions.Formed.extend {id : ModuleId} {definitions : Definitions}
    (hd : definitions.Formed other id) :
  definitions.Formed library id
  := ⟨hd.distinct, fun s hs => ⟨(hd.structs s hs).1, (hd.structs s hs).2.extend h⟩,
    fun i hi => ⟨(hd.interfaces i hi).1, (hd.interfaces i hi).2.extend h⟩,
    fun u hu => ⟨(hd.unions u hu).1, (hd.unions u hu).2.extend h⟩,
    fun f hf => (hd.functions f hf).extend h⟩

end Extends

/-! ### Finding what is declared -/

/-- An item is found under its id if no other has that id. -/
theorem find?_of_nodup {α β : Type} [BEq β] [LawfulBEq β] {idOf : α → β} {items : List α}
    (h : (items.map idOf).Nodup) {item : α} (hitem : item ∈ items) :
  items.find? (idOf · == idOf item) = some item
  := by
  obtain ⟨found, hfound⟩ : ∃ found, items.find? (idOf · == idOf item) = some found :=
    Option.ne_none_iff_exists'.mp (find?_ne_none idOf hitem)
  have hid : idOf found = idOf item := by simpa using List.find?_some hfound
  rw [hfound, List.inj_on_of_nodup_map h (List.mem_of_find?_eq_some hfound) hitem hid]

/-- One member of each of some lists, in order, is a part of all of them. -/
theorem map_sublist_flatMap {α β : Type} {parts : α → List β} {part : α → β} (items : List α)
    (hpart : ∀ a, part a ∈ parts a) :
  (items.map part).Sublist (items.flatMap parts)
  := by
  rw [List.map_eq_flatMap]
  exact List.Sublist.flatMap_right items fun a _ => List.singleton_sublist.mpr (hpart a)

/-- If lists made of the items of a list are distinct as a whole, then so is one member of
each. -/
theorem nodup_map_of_flatMap {α β : Type} {items : List α} {parts : α → List β} {part : α → β}
    (h : (items.flatMap parts).Nodup) (hpart : ∀ a, part a ∈ parts a) :
  (items.map part).Nodup
  := h.sublist (map_sublist_flatMap items hpart)

theorem EntityId.eq_child_of_parent? {id parent : EntityId} (h : id.parent? = some parent) :
  id = parent.child id.last
  := by
  obtain ⟨segments⟩ := id
  have hsegments : segments ≠ [] := by
    rintro rfl
    cases h
  have hparent : parent = ⟨segments.dropLast⟩ := by
    unfold EntityId.parent? at h
    split at h
    · cases h
    · cases h
      rfl
  have hlast : segments.getLastD "" = segments.getLast hsegments := by
    rw [List.getLastD_eq_getLast?, List.getLast?_eq_some_getLast hsegments, Option.getD_some]
  simp only [hparent, EntityId.child, EntityId.last, hlast, List.dropLast_concat_getLast]

namespace Definitions.Distinct

variable {definitions : Definitions}

/-- An id is one thing only. -/
theorem kind_unique (h : definitions.Distinct) {entity : EntityId}
    {kind kind' : EntityKind} (hkind : (entity, kind) ∈ definitions.entries)
    (hkind' : (entity, kind') ∈ definitions.entries) :
  kind = kind'
  := congrArg Prod.snd (List.inj_on_of_nodup_map h hkind hkind' rfl)

/-- The ids of each kind of declaration are distinct among themselves. -/
theorem nodup_parts (h : definitions.Distinct) :
  (definitions.functions.map (·.id)).Nodup ∧ (definitions.structs.map (·.id)).Nodup
    ∧ (definitions.interfaces.map (·.id)).Nodup
    ∧ (definitions.interfaces.map (·.adapterId)).Nodup ∧ (definitions.unions.map (·.id)).Nodup
  := by
  simp only [Distinct, entries, List.map_append, List.map_map, List.map_flatMap,
    List.nodup_append] at h
  obtain ⟨hfunctions, ⟨hstructs, ⟨hinterfaces, ⟨hunions, -⟩, -⟩, -⟩, -⟩ := h
  exact ⟨hfunctions, hstructs, nodup_map_of_flatMap hinterfaces (by simp),
    nodup_map_of_flatMap hinterfaces (by simp), nodup_map_of_flatMap hunions (by simp)⟩

theorem struct?_of_mem (h : definitions.Distinct) {header : StructHeader}
    (hmem : header ∈ definitions.structs) :
  definitions.struct? header.id = some header
  := find?_of_nodup h.nodup_parts.2.1 hmem

theorem interface?_of_mem (h : definitions.Distinct) {interface : Interface}
    (hmem : interface ∈ definitions.interfaces) :
  definitions.interface? interface.id = some interface
  := find?_of_nodup h.nodup_parts.2.2.1 hmem

theorem adapterOwner?_of_mem (h : definitions.Distinct) {interface : Interface}
    (hmem : interface ∈ definitions.interfaces) :
  definitions.adapterOwner? interface.adapterId = some interface
  := find?_of_nodup h.nodup_parts.2.2.2.1 hmem

theorem union?_of_mem (h : definitions.Distinct) {union : Union}
    (hmem : union ∈ definitions.unions) :
  definitions.union? union.id = some union
  := find?_of_nodup h.nodup_parts.2.2.2.2 hmem

theorem function?_of_mem (h : definitions.Distinct) {signature : Signature}
    (hmem : signature ∈ definitions.functions) :
  definitions.function? signature.id = some signature
  := find?_of_nodup h.nodup_parts.1 hmem

end Definitions.Distinct

namespace Definitions

variable {definitions : Definitions} {id : EntityId}

theorem struct?_eq_some {header : StructHeader} (h : definitions.struct? id = some header) :
  header ∈ definitions.structs ∧ header.id = id
  := ⟨List.mem_of_find?_eq_some h, by simpa using List.find?_some h⟩

theorem interface?_eq_some {interface : Interface}
    (h : definitions.interface? id = some interface) :
  interface ∈ definitions.interfaces ∧ interface.id = id
  := ⟨List.mem_of_find?_eq_some h, by simpa using List.find?_some h⟩

theorem adapterOwner?_eq_some {interface : Interface}
    (h : definitions.adapterOwner? id = some interface) :
  interface ∈ definitions.interfaces ∧ interface.adapterId = id
  := ⟨List.mem_of_find?_eq_some h, by simpa using List.find?_some h⟩

theorem union?_eq_some {union : Union} (h : definitions.union? id = some union) :
  union ∈ definitions.unions ∧ union.id = id
  := ⟨List.mem_of_find?_eq_some h, by simpa using List.find?_some h⟩

theorem opaque?_eq_some {type : Opaque} (h : definitions.opaque? id = some type) :
  type ∈ definitions.opaques ∧ type.id = id
  := ⟨List.mem_of_find?_eq_some h, by simpa using List.find?_some h⟩

theorem function?_eq_some {signature : Signature}
    (h : definitions.function? id = some signature) :
  signature ∈ definitions.functions ∧ signature.id = id
  := ⟨List.mem_of_find?_eq_some h, by simpa using List.find?_some h⟩

theorem unionOf?_eq_some {union : Union} (h : definitions.unionOf? id = some union) :
  union ∈ definitions.unions ∧ id = union.id.child id.last
  := by
  obtain ⟨parent, hparent, hunion⟩ := Option.bind_eq_some_iff.mp h
  obtain ⟨hmem, rfl⟩ := union?_eq_some hunion
  exact ⟨hmem, EntityId.eq_child_of_parent? hparent⟩

/-- The signatures that definitions bring along: that of a function, and those of what goes with a
struct, an interface or a union. -/
inductive Brings (definitions : Definitions) : EntityKind → Signature → Prop
  | native {signature : Signature} :
    signature ∈ definitions.functions → Brings definitions .native signature
  | function {signature : Signature} :
    signature ∈ definitions.functions → Brings definitions .function signature
  | struct {header : StructHeader} :
    header ∈ definitions.structs → Brings definitions .struct header.constructor
  | interface {interface : Interface} :
    interface ∈ definitions.interfaces →
    Brings definitions .interface interface.instanceConstructor
  | adapter {interface : Interface} :
    interface ∈ definitions.interfaces →
    Brings definitions .adapter interface.adapterConstructor
  | option {union : Union} {option : UnionOption} :
    union ∈ definitions.unions → option ∈ union.options →
    Brings definitions .option (union.optionConstructor option)
  | when {union : Union} :
    union ∈ definitions.unions → Brings definitions .when union.whenSignature

/-- A signature that is found is one of those that are brought along. -/
theorem brings_of_signature? {kind : EntityKind} {signature : Signature}
    (h : definitions.signature? kind id = some signature) :
  definitions.Brings kind signature
  := by
  cases kind <;>
    simp only [signature?, Option.map_eq_some_iff, Option.bind_eq_some_iff, reduceCtorEq] at h
  case native => exact .native (function?_eq_some h).1
  case function => exact .function (function?_eq_some h).1
  case struct =>
    obtain ⟨s, hs, rfl⟩ := h
    exact .struct (struct?_eq_some hs).1
  case interface =>
    obtain ⟨i, hi, rfl⟩ := h
    exact .interface (interface?_eq_some hi).1
  case adapter =>
    obtain ⟨i, hi, rfl⟩ := h
    exact .adapter (adapterOwner?_eq_some hi).1
  case option =>
    obtain ⟨u, hu, o, ho, rfl⟩ := h
    exact .option (unionOf?_eq_some hu).1 (List.mem_of_find?_eq_some ho)
  case when =>
    obtain ⟨u, hu, rfl⟩ := h
    exact .when (unionOf?_eq_some hu).1

/-- The named types that definitions declare: their kinds, their ids and their headers. -/
inductive HasType (definitions : Definitions) : EntityKind → EntityId → TypeHeader → Prop
  | struct {header : StructHeader} :
    header ∈ definitions.structs →
    HasType definitions .struct header.id ⟨header.typeParams, false⟩
  | interface {interface : Interface} :
    interface ∈ definitions.interfaces →
    HasType definitions .interface interface.id ⟨interface.typeParams, false⟩
  | adapter {interface : Interface} :
    interface ∈ definitions.interfaces →
    HasType definitions .adapter interface.adapterId ⟨interface.adapterParams, false⟩
  | union {union : Union} :
    union ∈ definitions.unions →
    HasType definitions .union union.id ⟨union.typeParams, false⟩
  | opaqueType {type : Opaque} :
    type ∈ definitions.opaques →
    HasType definitions .opaqueType type.id ⟨type.typeParams, type.isReference⟩

/-- A header that is found is that of a named type which is declared. -/
theorem hasType_of_typeHeader? {kind : EntityKind} {header : TypeHeader}
    (h : definitions.typeHeader? kind id = some header) :
  definitions.HasType kind id header
  := by
  cases kind <;> simp only [typeHeader?, Option.map_eq_some_iff, reduceCtorEq] at h
  case struct =>
    obtain ⟨s, hs, rfl⟩ := h
    obtain ⟨hmem, rfl⟩ := struct?_eq_some hs
    exact .struct hmem
  case interface =>
    obtain ⟨i, hi, rfl⟩ := h
    obtain ⟨hmem, rfl⟩ := interface?_eq_some hi
    exact .interface hmem
  case adapter =>
    obtain ⟨i, hi, rfl⟩ := h
    obtain ⟨hmem, rfl⟩ := adapterOwner?_eq_some hi
    exact .adapter hmem
  case union =>
    obtain ⟨u, hu, rfl⟩ := h
    obtain ⟨hmem, rfl⟩ := union?_eq_some hu
    exact .union hmem
  case opaqueType =>
    obtain ⟨o, ho, rfl⟩ := h
    obtain ⟨hmem, rfl⟩ := opaque?_eq_some ho
    exact .opaqueType hmem

/-- A type that is found is declared under its kind. -/
theorem mem_entries_of_typeHeader? {kind : EntityKind} {header : TypeHeader}
    (h : definitions.typeHeader? kind id = some header) :
  (id, kind) ∈ definitions.entries
  := by
  simp only [entries, List.mem_append, List.mem_map, List.mem_flatMap, Prod.mk.injEq]
  cases hasType_of_typeHeader? h with
  | @struct s hmem => exact .inr (.inl ⟨s, hmem, rfl, rfl⟩)
  | @interface i hmem | @adapter i hmem => exact .inr (.inr (.inl ⟨i, hmem, by simp⟩))
  | @union u hmem => exact .inr (.inr (.inr (.inl ⟨u, hmem, by simp⟩)))
  | @opaqueType o hmem => exact .inr (.inr (.inr (.inr ⟨o, hmem, rfl, rfl⟩)))

end Definitions

/-- A type that is declared as one kind is not found as another. -/
theorem Definitions.Distinct.typeHeader?_eq_none {definitions : Definitions}
    (h : definitions.Distinct) {id : EntityId} {kind : EntityKind} {header : TypeHeader}
    (hheader : definitions.typeHeader? kind id = some header) (other : EntityKind)
    (hother : other ≠ kind) :
  definitions.typeHeader? other id = none
  := by
  rw [Option.eq_none_iff_forall_ne_some]
  intro header' hheader'
  exact hother (h.kind_unique (mem_entries_of_typeHeader? hheader')
    (mem_entries_of_typeHeader? hheader))

/-- An entity takes as many arguments as its declaration has parameters, whatever kind of
declaration it is. -/
theorem Library.Arity.length_eq {library : Library} {entity : Entity} {n : Nat}
    (h : library.Arity entity n) {definitions : Definitions} {kind : EntityKind}
    {header : TypeHeader} (hd : library entity.module = some definitions)
    (hdistinct : definitions.Distinct)
    (hheader : definitions.typeHeader? kind entity.id = some header) :
  n = header.typeParams.length
  := by
  obtain ⟨definitions', kind', header', hd', hheader', rfl⟩ := h
  rw [hd, Option.some.injEq] at hd'
  subst hd'
  have hkind := hdistinct.kind_unique (Definitions.mem_entries_of_typeHeader? hheader)
    (Definitions.mem_entries_of_typeHeader? hheader')
  subst hkind
  rw [hheader, Option.some.injEq] at hheader'
  rw [hheader']

end TypedModules
