import TypedModules.Check.Member
import TypedModules.Proofs.Declared.Native
import TypedModules.Proofs.Renamed.Ty

/-!
# Renaming modules in declarations

What is derived from a declaration, such as its signature or its adapter, is derived from the
declaration with its modules renamed, with its modules renamed.  Definitions mirror others if each
id stands in them for what it stands for in the others, renamed; then they say the same about
every id.
-/

namespace TypedModules

variable {σ : Renaming}

/-! ### Declarations -/

/-- The argument with the modules in its type renamed. -/
def Argument.rename (σ : Renaming) (arg : Argument) : Argument :=
  ⟨arg.name, arg.type.rename σ⟩

@[simp]
theorem Argument.name_rename (arg : Argument) :
  (arg.rename σ).name = arg.name
  := rfl

@[simp]
theorem Argument.type_rename (arg : Argument) :
  (arg.rename σ).type = arg.type.rename σ
  := rfl

@[simp]
theorem Argument.rename_refl (arg : Argument) :
  arg.rename .refl = arg
  := by
  simp [rename]

/-- The signature with its modules renamed. -/
def Signature.rename (σ : Renaming) (signature : Signature) : Signature :=
  ⟨signature.id, signature.typeParams, signature.args.map (Ty.rename σ),
    signature.output.rename σ⟩

/-- The header of a struct with its modules renamed. -/
def StructHeader.rename (σ : Renaming) (header : StructHeader) : StructHeader :=
  { header with
    module := σ.module header.module
    members := header.members.map (Argument.rename σ) }

/-- The method with its modules renamed. -/
def Method.rename (σ : Renaming) (method : Method) : Method :=
  ⟨method.name, method.typeParams, method.args.map (Argument.rename σ), method.output.rename σ⟩

/-- The interface with its modules renamed. -/
def Interface.rename (σ : Renaming) (interface : Interface) : Interface :=
  { interface with
    module := σ.module interface.module
    methods := interface.methods.map (Method.rename σ) }

/-- The option with its modules renamed. -/
def UnionOption.rename (σ : Renaming) (option : UnionOption) : UnionOption :=
  ⟨option.name, option.type.map (Ty.rename σ)⟩

/-- The union with its modules renamed. -/
def Union.rename (σ : Renaming) (union : Union) : Union :=
  { union with
    module := σ.module union.module
    options := union.options.map (UnionOption.rename σ) }

/-- The header of a function with its modules renamed. -/
def FunctionHeader.rename (σ : Renaming) (header : FunctionHeader) : FunctionHeader :=
  { header with
    module := σ.module header.module
    args := header.args.map (Argument.rename σ)
    output := header.output.rename σ }

theorem declaredType_rename (isReference : Bool) (module : ModuleId) (id : EntityId)
    (typeParams : List TypeParam) :
  declaredType isReference (σ.module module) id typeParams
    = (declaredType isReference module id typeParams).rename σ
  := by
  simp [declaredType, Ty.rename, Entity.rename, Function.comp_def]

@[simp]
theorem Signature.functionType_rename (signature : Signature) :
  (signature.rename σ).functionType = signature.functionType.rename σ
  := FunctionType.ofSignature_rename _ _ _

@[simp]
theorem Signature.rename_refl (signature : Signature) :
  signature.rename .refl = signature
  := by
  rw [rename, map_eq_self fun arg _ => arg.rename_refl, Ty.rename_refl]

namespace StructHeader

@[simp]
theorem id_rename (header : StructHeader) :
  (header.rename σ).id = header.id
  := rfl

@[simp]
theorem rename_refl (header : StructHeader) :
  header.rename .refl = header
  := by
  rw [rename, map_eq_self fun member _ => member.rename_refl, Renaming.module_refl]

@[simp]
theorem constructor_rename (header : StructHeader) :
  (header.rename σ).constructor = header.constructor.rename σ
  := by
  have htype : (header.rename σ).type = header.type.rename σ := declaredType_rename _ _ _ _
  have hmembers : (header.rename σ).members.map (·.type)
      = (header.members.map (·.type)).map (Ty.rename σ) := by
    simp [rename, Function.comp_def]
  have houtput : (if header.isRestricted then .tryOf (header.type.rename σ)
      else header.type.rename σ)
        = (if header.isRestricted then .tryOf header.type else header.type).rename σ := by
    split <;> simp [Ty.rename]
  rw [constructor, htype, hmembers]
  exact congrArg (Signature.mk _ _ _) houtput

end StructHeader

@[simp]
theorem Method.functionType_rename (method : Method) :
  (method.rename σ).functionType = method.functionType.rename σ
  := by
  simp [functionType, rename, ← FunctionType.ofSignature_rename, Function.comp_def]

theorem Method.adapterType_rename (method : Method) (data : Ty) :
  (method.rename σ).adapterType (data.rename σ) = (method.adapterType data).rename σ
  := by
  simp [adapterType, rename, ← FunctionType.toTy_rename, ← FunctionType.ofSignature_rename,
    Function.comp_def]

@[simp]
theorem Method.rename_refl (method : Method) :
  method.rename .refl = method
  := by
  rw [rename, map_eq_self fun arg _ => arg.rename_refl, Ty.rename_refl]

namespace Interface

@[simp]
theorem id_rename (interface : Interface) :
  (interface.rename σ).id = interface.id
  := rfl

@[simp]
theorem rename_refl (interface : Interface) :
  interface.rename .refl = interface
  := by
  rw [rename, map_eq_self fun method _ => method.rename_refl, Renaming.module_refl]

@[simp]
theorem adapter_rename (interface : Interface) :
  (interface.rename σ).adapter = interface.adapter.rename σ
  := by
  have hmember : ∀ method : Method,
      (method.rename σ).adapterType (.param interface.dataParam)
        = (method.adapterType (.param interface.dataParam)).rename σ :=
    fun method => method.adapterType_rename (.param interface.dataParam)
  have hmembers : (interface.methods.map (Method.rename σ)).map (fun method =>
        (⟨method.name, method.adapterType (.param interface.dataParam)⟩ : Argument))
      = (interface.methods.map fun method =>
        ⟨method.name, method.adapterType (.param interface.dataParam)⟩).map
          (Argument.rename σ) := by
    rw [List.map_map, List.map_map]
    apply List.map_congr_left
    intro method _
    exact congrArg (Argument.mk method.name) (hmember method)
  exact congrArg (fun members => (⟨_, _, _, members, _, _⟩ : StructHeader)) hmembers

@[simp]
theorem adapterConstructor_rename (interface : Interface) :
  (interface.rename σ).adapterConstructor = interface.adapterConstructor.rename σ
  := by
  rw [adapterConstructor, adapter_rename, StructHeader.constructor_rename, adapterConstructor]

@[simp]
theorem instanceConstructor_rename (interface : Interface) :
  (interface.rename σ).instanceConstructor = interface.instanceConstructor.rename σ
  := by
  have htype : (interface.rename σ).type = interface.type.rename σ := declaredType_rename _ _ _ _
  have hadapter : (interface.rename σ).adapter.type = interface.adapter.type.rename σ := by
    rw [adapter_rename]
    exact declaredType_rename _ _ _ _
  simp only [instanceConstructor, htype, hadapter]
  rfl

end Interface

@[simp]
theorem UnionOption.rename_refl (option : UnionOption) :
  option.rename .refl = option
  := by
  obtain ⟨name, _ | type⟩ := option <;> simp [rename]

namespace Union

@[simp]
theorem rename_refl (union : Union) :
  union.rename .refl = union
  := by
  rw [rename, map_eq_self fun option _ => option.rename_refl, Renaming.module_refl]

theorem type_rename (union : Union) :
  (union.rename σ).type = union.type.rename σ
  := declaredType_rename _ _ _ _

theorem option?_rename (union : Union) (name : String) :
  (union.rename σ).option? name = (union.option? name).map (UnionOption.rename σ)
  := by
  rw [option?, rename, List.find?_map]
  rfl

@[simp]
theorem optionConstructor_rename (union : Union) (option : UnionOption) :
  (union.rename σ).optionConstructor (option.rename σ)
    = (union.optionConstructor option).rename σ
  := by
  have hargs : (option.type.map (Ty.rename σ)).toList = option.type.toList.map (Ty.rename σ) := by
    cases option.type <;> rfl
  simp only [optionConstructor, type_rename, UnionOption.rename, hargs]
  rfl

theorem handlerType_rename (union : Union) (option : UnionOption) :
  (union.rename σ).handlerType (option.rename σ) = (union.handlerType option).rename σ
  := by
  have hargs : (option.type.map (Ty.rename σ)).toList = option.type.toList.map (Ty.rename σ) := by
    cases option.type <;> rfl
  simp only [handlerType, UnionOption.rename, hargs, Ty.rename, Ty.renameAll_eq_map]
  rfl

@[simp]
theorem whenSignature_rename (union : Union) :
  (union.rename σ).whenSignature = union.whenSignature.rename σ
  := by
  have hhandlers : (union.rename σ).options.map (union.rename σ).handlerType
      = (union.options.map union.handlerType).map (Ty.rename σ) := by
    simp [rename, Function.comp_def, ← handlerType_rename]
  simp only [whenSignature, type_rename, hhandlers]
  rfl

end Union

@[simp]
theorem FunctionHeader.signature_rename (header : FunctionHeader) :
  (header.rename σ).signature = header.signature.rename σ
  := by
  simp [signature, Signature.rename, rename, Function.comp_def]

@[simp]
theorem FunctionHeader.rename_refl (header : FunctionHeader) :
  header.rename .refl = header
  := by
  rw [rename, map_eq_self fun arg _ => arg.rename_refl, Ty.rename_refl, Renaming.module_refl]

/-! ### Definitions -/

/-- Whether each id stands in the second definitions for what it stands for in the first,
renamed. -/
structure Definitions.Mirrors (σ : Renaming) (definitions others : Definitions) : Prop where
  struct? : ∀ id, others.struct? id = (definitions.struct? id).map (StructHeader.rename σ)
  interface? : ∀ id, others.interface? id = (definitions.interface? id).map (Interface.rename σ)
  adapterOwner? : ∀ id,
    others.adapterOwner? id = (definitions.adapterOwner? id).map (Interface.rename σ)
  union? : ∀ id, others.union? id = (definitions.union? id).map (Union.rename σ)
  opaque? : ∀ id, others.opaque? id = definitions.opaque? id
  function? : ∀ id, others.function? id = (definitions.function? id).map (Signature.rename σ)

/-- Definitions that name none of the renamed modules mirror themselves. -/
theorem Definitions.mirrors_self {definitions : Definitions}
    (hstructs : ∀ s ∈ definitions.structs, s.rename σ = s)
    (hinterfaces : ∀ i ∈ definitions.interfaces, i.rename σ = i)
    (hunions : ∀ u ∈ definitions.unions, u.rename σ = u)
    (hfunctions : ∀ f ∈ definitions.functions, f.rename σ = f) :
  definitions.Mirrors σ definitions
  := by
  have hfound : ∀ {α : Type} {items : List α} {rename : α → α} {p : α → Bool},
      (∀ item ∈ items, rename item = item) →
        items.find? p = (items.find? p).map rename := by
    intro α items rename p hfixed
    cases hfind : items.find? p with
    | none => rfl
    | some item => rw [Option.map_some, hfixed item (List.mem_of_find?_eq_some hfind)]
  exact {
    struct? := fun _ => hfound hstructs
    interface? := fun _ => hfound hinterfaces
    adapterOwner? := fun _ => hfound hinterfaces
    union? := fun _ => hfound hunions
    opaque? := fun _ => rfl
    function? := fun _ => hfound hfunctions }

theorem Definitions.mirrors_refl (definitions : Definitions) :
  definitions.Mirrors .refl definitions
  := mirrors_self (by simp) (by simp) (by simp) (by simp)

/-- What looking up a name comes to, with its modules renamed. -/
def MemberLookup.rename (σ : Renaming) : MemberLookup → MemberLookup
  | found type => found (type.rename σ)
  | unknown => unknown
  | notFollowable => notFollowable

theorem MemberLookup.rename_ofMember? (type : Option Ty) :
  (ofMember? type).rename σ = ofMember? (type.map (Ty.rename σ))
  := by
  cases type <;> rfl

theorem StructHeader.memberType?_rename (header : StructHeader) (args : List Ty) (name : String) :
  (header.rename σ).memberType? (args.map (Ty.rename σ)) name
    = (header.memberType? args name).map (Ty.rename σ)
  := by
  simp only [memberType?, rename, List.find?_map, Option.map_map]
  congr 1
  funext member
  simp

theorem Interface.methodType?_rename (interface : Interface) (args : List Ty) (name : String) :
  (interface.rename σ).methodType? (args.map (Ty.rename σ)) name
    = (interface.methodType? args name).map (Ty.rename σ)
  := by
  simp only [methodType?, rename, List.find?_map, Option.map_map]
  congr 1
  funext method
  simp

namespace Definitions.Mirrors

variable {definitions others : Definitions} (h : definitions.Mirrors σ others)
include h

theorem unionOf? (id : EntityId) :
  others.unionOf? id = (definitions.unionOf? id).map (Union.rename σ)
  := by
  unfold Definitions.unionOf?
  cases id.parent? with
  | none => rfl
  | some parent => exact h.union? parent

/-- What is callable has the same signature, renamed. -/
theorem signature? (kind : EntityKind) (id : EntityId) :
  others.signature? kind id = (definitions.signature? kind id).map (Signature.rename σ)
  := by
  cases kind with
  | native | function => exact h.function? id
  | struct => simp [Definitions.signature?, h.struct?, Function.comp_def]
  | interface => simp [Definitions.signature?, h.interface?, Function.comp_def]
  | adapter => simp [Definitions.signature?, h.adapterOwner?, Function.comp_def]
  | when => simp [Definitions.signature?, h.unionOf?, Function.comp_def]
  | union | opaqueType => rfl
  | option =>
    simp only [Definitions.signature?, h.unionOf?]
    cases definitions.unionOf? id with
    | none => rfl
    | some union =>
      simp only [Option.map_some, Option.bind_some, union.option?_rename, Option.map_map]
      congr 1
      funext option
      exact union.optionConstructor_rename option

/-- What is a type has the same header. -/
theorem typeHeader? (kind : EntityKind) (id : EntityId) :
  others.typeHeader? kind id = definitions.typeHeader? kind id
  := by
  cases kind with
  | native | function | option | when => rfl
  | struct =>
    simp only [Definitions.typeHeader?, h.struct?, Option.map_map]
    rfl
  | interface =>
    simp only [Definitions.typeHeader?, h.interface?, Option.map_map]
    rfl
  | adapter =>
    simp only [Definitions.typeHeader?, h.adapterOwner?, Option.map_map]
    rfl
  | union =>
    simp only [Definitions.typeHeader?, h.union?, Option.map_map]
    rfl
  | opaqueType => simp only [Definitions.typeHeader?, h.opaque?]

/-- What has members has the same ones, renamed. -/
theorem memberType (id : EntityId) (args : List Ty) (name : String) :
  others.memberType id (args.map (Ty.rename σ)) name
    = (definitions.memberType id args name).rename σ
  := by
  simp only [Definitions.memberType, h.struct?, h.adapterOwner?, h.interface?]
  cases definitions.struct? id with
  | some header =>
    simp only [Option.map_some, header.memberType?_rename, MemberLookup.rename_ofMember?]
  | none =>
    cases definitions.adapterOwner? id with
    | some interface =>
      simp only [Option.map_some, Option.map_none, interface.adapter_rename,
        StructHeader.memberType?_rename, MemberLookup.rename_ofMember?]
    | none =>
      cases definitions.interface? id with
      | some interface =>
        simp only [Option.map_some, Option.map_none, interface.methodType?_rename,
          MemberLookup.rename_ofMember?]
      | none => rfl

end Definitions.Mirrors

section Formed

variable {library : Library} (hfixed : ∀ entity n, library.Arity entity n →
  σ.module entity.module = entity.module)
include hfixed

theorem Argument.rename_of_formed {arg : Argument} {typeParams : List TypeParam}
    (h : arg.type.Formed (library.scopeOf typeParams) 0) :
  arg.rename σ = arg
  := by
  rw [rename, Ty.rename_of_formed h hfixed]

theorem StructHeader.rename_of_formed {header : StructHeader} (h : header.Formed library)
    (hmodule : σ.module header.module = header.module) :
  header.rename σ = header
  := by
  have hmembers : header.members.map (Argument.rename σ) = header.members :=
    map_eq_self fun m hm => Argument.rename_of_formed hfixed (h.members m hm)
  rw [rename, hmembers, hmodule]

theorem Method.rename_of_formed {method : Method} {typeParams : List TypeParam}
    (h : method.Formed library typeParams) :
  method.rename σ = method
  := by
  have hargs : method.args.map (Argument.rename σ) = method.args :=
    map_eq_self fun a ha => Argument.rename_of_formed hfixed (h.args a ha)
  rw [rename, hargs, Ty.rename_of_formed h.output hfixed]

theorem Interface.rename_of_formed {interface : Interface} (h : interface.Formed library)
    (hmodule : σ.module interface.module = interface.module) :
  interface.rename σ = interface
  := by
  have hmethods : interface.methods.map (Method.rename σ) = interface.methods :=
    map_eq_self fun m hm => Method.rename_of_formed hfixed (h.methods m hm)
  rw [rename, hmethods, hmodule]

theorem Union.rename_of_formed {union : Union} (h : union.Formed library)
    (hmodule : σ.module union.module = union.module) :
  union.rename σ = union
  := by
  have hoption : ∀ option ∈ union.options, option.rename σ = option := by
    rintro ⟨name, _ | type⟩ hmem
    · rfl
    · rw [UnionOption.rename, Option.map_some,
        Ty.rename_of_formed (h.options _ hmem type rfl) hfixed]
  rw [rename, map_eq_self hoption, hmodule]

theorem Signature.rename_of_formed {signature : Signature} (h : signature.Formed library) :
  signature.rename σ = signature
  := by
  have hargs : signature.args.map (Ty.rename σ) = signature.args :=
    map_eq_self fun a ha => Ty.rename_of_formed (h.args a ha) hfixed
  rw [rename, hargs, Ty.rename_of_formed h.output hfixed]

/-- Formed definitions mirror themselves where neither their module is renamed nor any that they
refer to. -/
theorem Definitions.Formed.mirrors_self {definitions : Definitions} {id : ModuleId}
    (h : definitions.Formed library id) (hid : σ.module id = id) :
  definitions.Mirrors σ definitions
  := by
  apply Definitions.mirrors_self
  · intro s hs
    obtain ⟨rfl, hformed⟩ := h.structs s hs
    exact StructHeader.rename_of_formed hfixed hformed hid
  · intro i hi
    obtain ⟨rfl, hformed⟩ := h.interfaces i hi
    exact Interface.rename_of_formed hfixed hformed hid
  · intro u hu
    obtain ⟨rfl, hformed⟩ := h.unions u hu
    exact Union.rename_of_formed hfixed hformed hid
  · intro f hf
    exact Signature.rename_of_formed hfixed (h.functions f hf)

end Formed

end TypedModules
