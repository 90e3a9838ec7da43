import TypedModules.Proofs.Typing.Occurring

/-!
# The types of an accepted module

`Module.Occurs` lists the types that occur in a module: those of the signatures that its
declarations bring along, those of members, methods and options, and those in the trees of its
bodies.  In an accepted module they mention no other type parameters than those of the declaration
around them, and no internal parameters from outside of their own function types: `well_scoped`.
No reference type hides inside a value type, nor behind a function that holds a reference:
`shows_references`.
-/

namespace TypedModules

open Check Ty

/-- Whether a type occurs in a module, in a declaration with the given type parameters; those of a
method come after those of its interface. -/
inductive Module.Occurs (module : Module) : List TypeParam → Ty → Prop
  | argument {kind : EntityKind} {id : EntityId} {signature : Signature} {type : Ty} :
    module.definitions.signature? kind id = some signature →
    type ∈ signature.args →
    Occurs module signature.typeParams type
  | output {kind : EntityKind} {id : EntityId} {signature : Signature} :
    module.definitions.signature? kind id = some signature →
    Occurs module signature.typeParams signature.output
  | member {struct : Struct} {member : Argument} :
    struct ∈ module.structs →
    member ∈ struct.members →
    Occurs module struct.typeParams member.type
  | adapterMember {interface : Interface} {member : Argument} :
    interface ∈ module.interfaces →
    member ∈ interface.adapter.members →
    Occurs module interface.adapterParams member.type
  | methodArgument {interface : Interface} {method : Method} {argument : Argument} :
    interface ∈ module.interfaces →
    method ∈ interface.methods →
    argument ∈ method.args →
    Occurs module (interface.typeParams ++ method.typeParams) argument.type
  | methodOutput {interface : Interface} {method : Method} :
    interface ∈ module.interfaces →
    method ∈ interface.methods →
    Occurs module (interface.typeParams ++ method.typeParams) method.output
  | option {union : Union} {option : UnionOption} {type : Ty} :
    union ∈ module.unions →
    option ∈ union.options →
    option.type = some type →
    Occurs module union.typeParams type
  | body {function : Function} {type : Ty} :
    function ∈ module.functions →
    type ∈ function.body.types →
    Occurs module function.typeParams type
  | requires {struct : Struct} {block : Block} {type : Ty} :
    struct ∈ module.structs →
    struct.requires = some block →
    type ∈ block.types →
    Occurs module struct.typeParams type

/-! ### Bodies -/

section Bodies

variable {number : Nat} {context : Context} {name : ModuleName} {dependencies : List Module}
  {module : Module}

/-- A block that passes where the types of the visible variables are proper has proper types. -/
theorem Checked.proper_block (h : Checked number context name dependencies module)
    (haccepted : Accepted module) {typeParams : List TypeParam} {site : Site} {vars : Variables}
    (hvars : ∀ v ∈ vars, v.type.Proper (module.library.exactly typeParams) 0)
    {written : SourceBlock} {block : Block}
    (hp : (checkBlock ((Setting.ofBodies number context dependencies module).within typeParams) site
      vars written).Passes block) :
  block.Proper (module.library.exactly typeParams)
  := (carries_proper ((h.within haccepted).within typeParams) haccepted.clean).of_block site vars
    written hp hvars

end Bodies

namespace Accepted

variable {module : Module} (h : Accepted module)

include h

theorem proper_body {function : Function} (hfunction : function ∈ module.functions) :
  function.body.Proper (module.library.exactly function.typeParams)
  := by
  obtain ⟨number, context, name, dependencies, -, hchecked⟩ := h.checked
  obtain ⟨written, hpasses, -⟩ := hchecked.passes_body hfunction
  have hsignature := h.proper_definitions.functions function.signature (List.mem_map_of_mem hfunction)
  exact hchecked.proper_block h
    (fun v hv => hsignature.args v.type (List.mem_map_of_mem hv)) hpasses

theorem proper_requires {struct : Struct} (hstruct : struct ∈ module.structs) {block : Block}
    (hblock : struct.requires = some block) :
  block.Proper (module.library.exactly struct.typeParams)
  := by
  obtain ⟨number, context, name, dependencies, -, hchecked⟩ := h.checked
  obtain ⟨written, hpasses, -⟩ := hchecked.passes_requires hstruct hblock
  have hmembers := h.proper_definitions.members struct.toStructHeader (List.mem_map_of_mem hstruct)
  exact hchecked.proper_block h (fun v hv => (hmembers v hv).proper) hpasses

/-- At every expression in the bodies of an accepted module the types are as they should be. -/
theorem properHere {part : Expr} (hpart : part ∈ module.parts) :
  ∃ typeParams, part.ProperHere (module.library.exactly typeParams)
  := by
  obtain hpart | hpart := List.mem_append.mp hpart
  · obtain ⟨function, hfunction, hpart⟩ := List.mem_flatMap.mp hpart
    exact ⟨_, (h.proper_body hfunction).parts part hpart⟩
  · obtain ⟨struct, hstruct, hpart⟩ := List.mem_flatMap.mp hpart
    obtain ⟨block, hblock, hpart⟩ := List.mem_flatMap.mp hpart
    exact ⟨_, (h.proper_requires hstruct (Option.mem_toList.mp hblock)).parts part hpart⟩

end Accepted

theorem Block.Proper.types {scope : TyScope} {block : Block} (h : block.Proper scope) :
  ∀ type ∈ block.types, type.Proper scope 0
  := by
  intro type htype
  obtain htype | htype := List.mem_append.mp htype
  · exact h.lets type htype
  · obtain ⟨part, hpart, htype⟩ := List.mem_flatMap.mp htype
    exact (h.parts part hpart).types type htype

/-! ### All types -/

/-- Every type that occurs in an accepted module is proper. -/
theorem Accepted.proper {module : Module} (h : Accepted module) {typeParams : List TypeParam}
    {type : Ty} (hoccurs : module.Occurs typeParams type) :
  type.Proper (module.library.exactly typeParams) 0
  := by
  have hproper := h.proper_definitions
  cases hoccurs with
  | argument hsignature htype => exact (h.proper_signature hsignature).args _ htype
  | output hsignature => exact (h.proper_signature hsignature).output
  | member hstruct hmember =>
    exact (hproper.members _ (List.mem_map_of_mem hstruct) _ hmember).proper
  | adapterMember hinterface hmember => exact (hproper.adapterMember hinterface _ hmember).proper
  | methodArgument hinterface hmethod hargument =>
    exact (hproper.methods _ hinterface _ hmethod).1 _ hargument
  | methodOutput hinterface hmethod => exact (hproper.methods _ hinterface _ hmethod).2
  | option hunion hoption htype => exact (hproper.options _ hunion _ hoption _ htype).proper
  | body hfunction htype => exact (h.proper_body hfunction).types _ htype
  | requires hstruct hblock htype => exact (h.proper_requires hstruct hblock).types _ htype

/-- In an accepted module every type that occurs is formed: its internal parameters belong to its
own function types, and its named parameters are those of the declaration around it, each with its
constraint. -/
theorem well_scoped {module : Module} (h : Accepted module) {typeParams : List TypeParam}
    {type : Ty} (hoccurs : module.Occurs typeParams type) :
  type.Formed (module.library.exactly typeParams) 0
  := (h.proper hoccurs).formed

/-- A context with a generic function that calls a generic function.  `last(items: List<T>): Try<T>`,
for any `T`, is what `List.last` makes of `items`; the type argument of the call is not written. -/
def lastContext : Context where
  functions := [{
      id := ⟨["last"]⟩
      typeParams := [⟨"T", none⟩]
      args := [⟨"items", .list (.named false ⟨none, ⟨["T"]⟩⟩ [] none), none⟩]
      output := .tryOf (.named false ⟨none, ⟨["T"]⟩⟩ [] none)
      body := .mk [.bare (.call ⟨none, ⟨["List", "last"]⟩⟩ [.variable "items" none] [] none)] none
      annotations := []
      location := none }]

/-- In `last`, the type that is inferred for the parameter of `List.last` is the parameter of
`last`. -/
theorem well_scoped_last :
  ∃ (module : Module) (type : Ty), Accepted module ∧ module.Occurs [⟨"T", none⟩] type
    ∧ type.same (.param ⟨"T", none⟩) = true
    ∧ type.Formed (module.library.exactly [⟨"T", none⟩]) 0
  := by
  have hchosen : (validate 0 lastContext ⟨"example", "last"⟩ [] {}).module?.any (fun module =>
      module.functions.any fun function => function.typeParams == [⟨"T", none⟩]
        && function.body.types.any fun type => type.same (.param ⟨"T", none⟩)) = true := by
    decide +kernel
  obtain ⟨module, warnings, h, hchosen⟩ := Verdict.exists_success hchosen
  simp only [List.any_eq_true, Bool.and_eq_true, beq_iff_eq] at hchosen
  obtain ⟨function, hfunction, hparams, type, htype, hsame⟩ := hchosen
  have haccepted := Accepted.alone h
  have hoccurs := hparams ▸ Module.Occurs.body hfunction htype
  exact ⟨module, type, haccepted, hoccurs, hsame, well_scoped haccepted hoccurs⟩

/-! ### References -/

/-- Whether reference types show wherever there are references. -/
structure Module.ShowsReferences (module : Module) : Prop where
  /-- No reference type stands in a list, in a `Try` or among the arguments of a named type. -/
  types : ∀ typeParams type, module.Occurs typeParams type → type.Clean
  members : ∀ struct ∈ module.structs, ∀ member ∈ struct.members, member.type.isReference = false
  adapters : ∀ interface ∈ module.interfaces, ∀ member ∈ interface.adapter.members,
    member.type.isReference = false
  options : ∀ union ∈ module.unions, ∀ option ∈ union.options, ∀ type, option.type = some type →
    type.isReference = false
  /-- No reference type is chosen for a type parameter. -/
  chosen : ∀ part ∈ module.parts, ∀ type ∈ part.node.chosen, type.isReference = false
  /-- What captures or binds a reference is one. -/
  holders : ∀ part ∈ module.parts, part.node.holdsReference = true → part.type.isReference = true

/-- In an accepted module reference types show wherever there are references. -/
theorem shows_references {module : Module} (h : Accepted module) :
  module.ShowsReferences
  := by
  have hproper := h.proper_definitions
  constructor
  case types => exact fun _ _ hoccurs => (h.proper hoccurs).clean
  case members =>
    exact fun struct hstruct member hmember =>
      (hproper.members struct.toStructHeader (List.mem_map_of_mem hstruct) member hmember).value
  case adapters =>
    exact fun interface hinterface member hmember =>
      (hproper.adapterMember hinterface member hmember).value
  case options =>
    exact fun union hunion option hoption type htype =>
      (hproper.options union hunion option hoption type htype).value
  case chosen =>
    intro part hpart
    obtain ⟨_, hhere⟩ := h.properHere hpart
    exact hhere.chosen
  case holders =>
    intro part hpart
    obtain ⟨_, hhere⟩ := h.properHere hpart
    exact hhere.holds

/-- A context with a function that binds a builder, and binds what it gets once more.
`main(): Natural` puts a new builder into `builder`, and into `filled` the function that appends 3 to
it; it calls `filled`, and returns the size of the list that `builder` builds. -/
def filledContext : Context where
  functions := [{
      id := ⟨["main"]⟩
      typeParams := []
      args := []
      output := .natural
      body := .mk [
        .assign "builder" none
          (.call ⟨none, ⟨["ListBuilder", "create"]⟩⟩ [] [.integer] none) none,
        .assign "filled" none
          (.bindValue (.bind ⟨none, ⟨["ListBuilder", "append"]⟩⟩
            [some (.variable "builder" none), none] [some .integer] none)
            [some (.literal .integer "3" none)] [] none) none,
        .bare (.callValue (.variable "filled" none) [] [] none),
        .bare (.call ⟨none, ⟨["List", "size"]⟩⟩
          [.call ⟨none, ⟨["ListBuilder", "build"]⟩⟩ [.variable "builder" none] [] none] [] none)]
        none
      annotations := []
      location := none }]

/-- In `main`, the function that is put into `filled` is a reference. -/
theorem shows_references_filled :
  ∃ module : Module, Accepted module ∧ module.ShowsReferences
    ∧ ∃ part ∈ module.parts, part.node.holdsReference = true ∧ part.type.isReference = true
  := by
  have hholds : (validate 0 filledContext ⟨"example", "filled"⟩ [] {}).module?.any (fun module =>
      module.parts.any (·.node.holdsReference)) = true := by
    decide +kernel
  obtain ⟨module, warnings, h, hholds⟩ := Verdict.exists_success hholds
  rw [List.any_eq_true] at hholds
  obtain ⟨part, hpart, hholds⟩ := hholds
  have hshows := shows_references (Accepted.alone h)
  exact ⟨module, Accepted.alone h, hshows, part, hpart, hholds, hshows.holders part hpart hholds⟩

end TypedModules
