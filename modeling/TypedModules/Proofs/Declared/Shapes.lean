import TypedModules.Proofs.Declared.Native
import TypedModules.Proofs.Typing.Judgement

/-!
# What a library tells of an entity

The members of the values of an entity, the interface or the union that an entity is, and what
is declared as a function.  In a formed library an entity is one thing only.
-/

namespace TypedModules
namespace Library

/-- Whether a library declares what is seen as a function. -/
inductive Declares (library : Library) (entry : Visible) : Prop
  | native :
    entry.entity.module = nativeModule →
    entry.kind = .native ∨ entry.kind = .struct →
    Declares library entry
  | definitions {definitions : Definitions} :
    entry.entity.module.isNative = false →
    library entry.entity.module = some definitions →
    (entry.entity.id, entry.kind) ∈ definitions.entries →
    entry.kind ≠ .native →
    Declares library entry

/-- A library that tells more declares what another one declares. -/
theorem Declares.extend {library other : Library} (h : library.Extends other)
    {entry : Visible} (hdeclares : other.Declares entry) :
  library.Declares entry
  := by
  cases hdeclares with
  | native hmodule hkind => exact .native hmodule hkind
  | definitions hnative hd hentry hkind => exact .definitions hnative (h _ _ hd) hentry hkind

/-- The struct that an entity is, or the adapter. -/
def shape? (library : Library) (entity : Entity) : Option StructHeader :=
  (library entity.module).bind fun definitions =>
    (definitions.struct? entity.id).or
      ((definitions.adapterOwner? entity.id).map (·.adapter))

/-- The interface that an entity is. -/
def interface? (library : Library) (entity : Entity) : Option Interface :=
  (library entity.module).bind (·.interface? entity.id)

/-- The union that an entity is. -/
def union? (library : Library) (entity : Entity) : Option Union :=
  (library entity.module).bind (·.union? entity.id)

/-- Whether an entity is declared as a kind. -/
def HasKind (library : Library) (entity : Entity) (kind : EntityKind) : Prop :=
  ∃ definitions, library entity.module = some definitions
    ∧ (entity.id, kind) ∈ definitions.entries

variable {library : Library} {entity : Entity}

/-- An entity is one thing only. -/
theorem HasKind.unique (hformed : library.Formed) {kind kind' : EntityKind}
    (h : library.HasKind entity kind) (h' : library.HasKind entity kind') :
  kind = kind'
  := by
  obtain ⟨definitions, hd, hentry⟩ := h
  obtain ⟨definitions', hd', hentry'⟩ := h'
  rw [hd, Option.some.injEq] at hd'
  subst hd'
  exact (hformed _ _ hd).distinct.kind_unique hentry hentry'

theorem HasKind.of_typeHeader? {definitions : Definitions} {kind : EntityKind}
    {header : TypeHeader} (hd : library entity.module = some definitions)
    (h : definitions.typeHeader? kind entity.id = some header) :
  library.HasKind entity kind
  := ⟨definitions, hd, Definitions.mem_entries_of_typeHeader? h⟩

theorem hasKind_string (hnative : library nativeModule = some nativeDefinitions) :
  library.HasKind Native.string.entity .opaqueType
  := ⟨nativeDefinitions, hnative, by decide +kernel⟩

theorem hasKind_listBuilder (hnative : library nativeModule = some nativeDefinitions) :
  library.HasKind Native.listBuilder.entity .opaqueType
  := ⟨nativeDefinitions, hnative, by decide +kernel⟩

/-! ### Structs and adapters -/

section Shape

variable {header : StructHeader}

theorem exists_of_shape? (h : library.shape? entity = some header) :
  ∃ definitions, library entity.module = some definitions
    ∧ (definitions.struct? entity.id = some header
      ∨ ∃ interface, definitions.adapterOwner? entity.id = some interface
        ∧ interface.adapter = header)
  := by
  obtain ⟨definitions, hd, h⟩ := Option.bind_eq_some_iff.mp h
  refine ⟨definitions, hd, ?_⟩
  obtain h | ⟨-, h⟩ := Option.or_eq_some_iff.mp h
  · exact .inl h
  · exact .inr (Option.map_eq_some_iff.mp h)

theorem hasKind_of_shape? (h : library.shape? entity = some header) :
  library.HasKind entity .struct ∨ library.HasKind entity .adapter
  := by
  obtain ⟨definitions, hd, h | ⟨interface, h, -⟩⟩ := exists_of_shape? h
  · exact .inl (.of_typeHeader? hd (by rw [Definitions.typeHeader?, h, Option.map_some]))
  · exact .inr (.of_typeHeader? hd (by rw [Definitions.typeHeader?, h, Option.map_some]))

theorem formed_shape? (hformed : library.Formed) (h : library.shape? entity = some header) :
  header.Formed library ∧ library.Arity entity header.typeParams.length
  := by
  obtain ⟨definitions, hd, hstruct | ⟨interface, howner, rfl⟩⟩ := exists_of_shape? h
  · have hmem := (Definitions.struct?_eq_some hstruct).1
    refine ⟨((hformed _ _ hd).structs header hmem).2, definitions, .struct,
      ⟨header.typeParams, false⟩, hd, ?_, rfl⟩
    rw [Definitions.typeHeader?, hstruct, Option.map_some]
  · have hmem := (Definitions.adapterOwner?_eq_some howner).1
    refine ⟨((hformed _ _ hd).interfaces interface hmem).2.adapter, definitions, .adapter,
      ⟨interface.adapterParams, false⟩, hd, ?_, rfl⟩
    rw [Definitions.typeHeader?, howner, Option.map_some]

theorem shape?_of_struct? {definitions : Definitions}
    (hd : library entity.module = some definitions)
    (h : definitions.struct? entity.id = some header) :
  library.shape? entity = some header
  := by
  rw [shape?, hd, Option.bind_some, h, Option.some_or]

theorem shape?_of_adapterOwner? (hformed : library.Formed) {definitions : Definitions}
    {interface : Interface} (hd : library entity.module = some definitions)
    (h : definitions.adapterOwner? entity.id = some interface) :
  library.shape? entity = some interface.adapter
  := by
  have hnone : definitions.struct? entity.id = none := by
    rw [Option.eq_none_iff_forall_ne_some]
    intro header hheader
    have hstruct : library.HasKind entity .struct :=
      .of_typeHeader? hd (by rw [Definitions.typeHeader?, hheader, Option.map_some])
    have hadapter : library.HasKind entity .adapter :=
      .of_typeHeader? hd (by rw [Definitions.typeHeader?, h, Option.map_some])
    exact absurd (hstruct.unique hformed hadapter) (by decide)
  rw [shape?, hd, Option.bind_some, hnone, Option.none_or, h, Option.map_some]

/-- A struct that is declared is told of under its own entity. -/
theorem shape?_of_mem (hformed : library.Formed) {id : ModuleId} {definitions : Definitions}
    (hd : library id = some definitions) (hmem : header ∈ definitions.structs) :
  library.shape? header.entity = some header
  := by
  have hdefinitions := hformed _ _ hd
  obtain ⟨rfl, -⟩ := hdefinitions.structs header hmem
  exact shape?_of_struct? hd (hdefinitions.distinct.struct?_of_mem hmem)

/-- An adapter is told of under its own entity if its interface is declared. -/
theorem shape?_adapter_of_mem (hformed : library.Formed) {id : ModuleId}
    {definitions : Definitions} (hd : library id = some definitions) {interface : Interface}
    (hmem : interface ∈ definitions.interfaces) :
  library.shape? interface.adapterEntity = some interface.adapter
  := by
  have hdefinitions := hformed _ _ hd
  obtain ⟨rfl, -⟩ := hdefinitions.interfaces interface hmem
  exact shape?_of_adapterOwner? hformed hd (hdefinitions.distinct.adapterOwner?_of_mem hmem)

end Shape

/-! ### Interfaces and unions -/

/-- An interface that is declared is told of under its own entity. -/
theorem interface?_of_mem (hformed : library.Formed) {id : ModuleId} {definitions : Definitions}
    (hd : library id = some definitions) {interface : Interface}
    (hmem : interface ∈ definitions.interfaces) :
  library.interface? interface.entity = some interface
  := by
  have hdefinitions := hformed _ _ hd
  obtain ⟨rfl, -⟩ := hdefinitions.interfaces interface hmem
  rw [interface?, Interface.entity, hd, Option.bind_some,
    hdefinitions.distinct.interface?_of_mem hmem]

/-- A union that is declared is told of under its own entity. -/
theorem union?_of_mem (hformed : library.Formed) {id : ModuleId} {definitions : Definitions}
    (hd : library id = some definitions) {union : Union} (hmem : union ∈ definitions.unions) :
  library.union? union.entity = some union
  := by
  have hdefinitions := hformed _ _ hd
  obtain ⟨rfl, -⟩ := hdefinitions.unions union hmem
  rw [union?, Union.entity, hd, Option.bind_some, hdefinitions.distinct.union?_of_mem hmem]

theorem hasKind_of_interface? {interface : Interface}
    (h : library.interface? entity = some interface) :
  library.HasKind entity .interface
  := by
  obtain ⟨definitions, hd, h⟩ := Option.bind_eq_some_iff.mp h
  exact .of_typeHeader? hd (by rw [Definitions.typeHeader?, h, Option.map_some])

theorem formed_interface? (hformed : library.Formed) {interface : Interface}
    (h : library.interface? entity = some interface) :
  interface.Formed library ∧ library.Arity entity interface.typeParams.length
  := by
  obtain ⟨definitions, hd, h⟩ := Option.bind_eq_some_iff.mp h
  refine ⟨((hformed _ _ hd).interfaces interface (Definitions.interface?_eq_some h).1).2,
    definitions, .interface, ⟨interface.typeParams, false⟩, hd, ?_, rfl⟩
  rw [Definitions.typeHeader?, h, Option.map_some]

theorem hasKind_of_union? {union : Union} (h : library.union? entity = some union) :
  library.HasKind entity .union
  := by
  obtain ⟨definitions, hd, h⟩ := Option.bind_eq_some_iff.mp h
  exact .of_typeHeader? hd (by rw [Definitions.typeHeader?, h, Option.map_some])

theorem formed_union? (hformed : library.Formed) {union : Union}
    (h : library.union? entity = some union) :
  union.Formed library ∧ library.Arity entity union.typeParams.length
  := by
  obtain ⟨definitions, hd, h⟩ := Option.bind_eq_some_iff.mp h
  refine ⟨((hformed _ _ hd).unions union (Definitions.union?_eq_some h).1).2,
    definitions, .union, ⟨union.typeParams, false⟩, hd, ?_, rfl⟩
  rw [Definitions.typeHeader?, h, Option.map_some]

/-- An entity takes as many arguments as what it is has parameters. -/
theorem Arity.unique (hformed : library.Formed) {n m : Nat} (h : library.Arity entity n)
    (h' : library.Arity entity m) :
  n = m
  := by
  obtain ⟨definitions, kind, header, hd, hheader, rfl⟩ := h'
  exact h.length_eq hd (hformed _ _ hd).distinct hheader

/-- What stands under a name in the values of a named type is a member or a method. -/
theorem HasMember.cases {isReference : Bool} {written : Reference} {args : List Ty} {name : String}
    {type : Ty} (h : library.HasMember (.named isReference entity written args) name type) :
  (∃ header, library.shape? entity = some header ∧ header.memberType? args name = some type)
    ∨ ∃ interface, library.interface? entity = some interface
      ∧ interface.methodType? args name = some type
  := by
  obtain ⟨_, _, _, _, definitions, heq, hd, hmember⟩ := h
  cases heq
  have hfound : ∀ {found : Option Ty}, MemberLookup.ofMember? found = .found type →
      found = some type := by
    intro found h
    cases found <;> cases h
    rfl
  unfold Definitions.memberType at hmember
  cases hstruct : definitions.struct? entity.id with
  | some header =>
    simp only [hstruct] at hmember
    exact .inl ⟨header, shape?_of_struct? hd hstruct, hfound hmember⟩
  | none =>
  cases hadapter : definitions.adapterOwner? entity.id with
  | some interface =>
    simp only [hstruct, hadapter] at hmember
    refine .inl ⟨interface.adapter, ?_, hfound hmember⟩
    rw [shape?, hd, Option.bind_some, hstruct, Option.none_or, hadapter, Option.map_some]
  | none =>
    simp only [hstruct, hadapter] at hmember
    cases hinterface : definitions.interface? entity.id with
    | some interface =>
      simp only [hinterface] at hmember
      refine .inr ⟨interface, ?_, hfound hmember⟩
      rw [interface?, hd, Option.bind_some, hinterface]
    | none =>
      simp only [hinterface] at hmember
      cases hmember

end Library
end TypedModules
