import TypedModules.Proofs.Eval.Linking
import TypedModules.Proofs.Sound.Requests
import TypedModules.Proofs.Typing.Restrict

/-!
# The realm of a module

A program makes two sorts of bindings: those of entities that are declared, and those of closures
that stand in well typed bodies.  Before a slot is filled, one of an entity can be called as its
signature says with types chosen for its parameters, and one of a closure as the closure says with
types assigned to the parameters around it: `Library.Makes`.  A program may be given other
bindings by its guests.  All of them together can be called in the realm of a module.
-/

namespace TypedModules

open Check

/-- Surroundings in which a reference may stand for whatever a library declares. -/
def Library.surroundings (library : Library) : Surroundings where
  resolves _ entry := library.Declares entry
  library := library

/-- Whether a library makes a binding that can be called, with no slot filled. -/
inductive Library.Makes (library : Library) : Binding → List Ty → Ty → Prop
  | entity {entry : Visible} {signature : Signature} {chosen : List Ty} :
    library.Declares entry →
    library.signature? entry = some signature →
    chosen.length = signature.typeParams.length →
    (∀ c ∈ chosen, c.Formed library.closedScope 0) →
    Makes library (.mk (.entity entry.entity) (List.replicate signature.args.length none) [])
      (signature.functionType.ground chosen).args (signature.functionType.ground chosen).output
  | closure {closure : Closure} {σ : Assignment} :
    closure.body.Typed library.surroundings (closure.args ++ closure.captures) →
    closure.body.type.same closure.output = true →
    σ.Formed library.closedScope →
    Makes library
      (.mk (.closure closure)
        (List.replicate (closure.args ++ closure.captures).length none) [])
      ((closure.args ++ closure.captures).map fun a => a.type.assign σ) (closure.output.assign σ)

/-- A binding is made with a slot for each value, and all of them open. -/
theorem Library.Makes.slots {library : Library} {binding : Binding} {types : List Ty}
    {output : Ty} (h : library.Makes binding types output) :
  binding.slots = List.replicate types.length none
  := by
  cases h with
  | entity => simp [Binding.slots, Signature.functionType]
  | closure => simp [Binding.slots]

theorem Library.Makes.counted {library : Library} {binding : Binding} {types : List Ty}
    {output : Ty} (h : library.Makes binding types output) :
  binding.openSlots = types.length
  := by
  simp [Binding.openSlots, h.slots, List.countP_replicate]

/-- Bindings that a program is given from outside: in which worlds they can be called with values
of which types, for a value of which type. -/
structure Guests where
  callable : World → Binding → List Ty → Ty → Prop
  counted : ∀ {world binding types output}, callable world binding types output →
    binding.openSlots = types.length
  lasting : ∀ {world later binding types output}, world <+: later →
    callable world binding types output → callable later binding types output

/-- No bindings. -/
def Guests.none : Guests where
  callable _ _ _ _ := False
  counted := False.elim
  lasting _ := id

theorem Module.library_native (module : Module) :
  module.library nativeModule = some nativeDefinitions
  := if_pos (beq_self_eq_true nativeModule)

/-- The realm of an accepted module with guests. -/
def Accepted.realm {module : Module} (h : Accepted module) (guests : Guests) : Realm where
  library := module.library
  formed := h.formed
  native := module.library_native
  callable world binding types output :=
    guests.callable world binding types output ∨ module.library.Makes binding types output
  counted h := h.elim guests.counted Library.Makes.counted
  lasting hgrows h := h.imp_left (guests.lasting hgrows)

/-- What a program may end with although it is well typed: a failure that was assumed to be a
success, or a literal that a `requires` block refuses. -/
inductive EvalCause.Tolerated : EvalCause → Prop
  | assumed : Tolerated .assumedFailure
  | refused (type literal : String) : Tolerated (.requiresFailed type literal)

namespace Realm

/-- Whether requests are answered as their types say: calls of what is declared, applications of
bindings, and literals. -/
structure Serves (realm : Realm) (ask : Request → Eval Value) : Prop where
  call : ∀ {world entry signature chosen args}, realm.library.Declares entry →
    realm.library.signature? entry = some signature →
    realm.Choice signature.typeParams.length chosen →
    realm.InhabitAll world args (signature.functionType.ground chosen).args →
    realm.Yields EvalCause.Tolerated world (ask (.call entry.entity args))
      (signature.functionType.ground chosen).output
  apply : realm.Answers EvalCause.Tolerated ask
  literal : ∀ {world type form text σ}, type.Formed realm.library.openScope 0 →
    realm.library.HasForm type form → form.accepts text = true →
    σ.Formed realm.library.closedScope →
    realm.Yields EvalCause.Tolerated world (ask (.literal type text)) (type.assign σ)

/-- Whether whatever the library of a realm makes can be called. -/
def Hosts (realm : Realm) : Prop :=
  ∀ {world binding types output}, realm.library.Makes binding types output →
    realm.callable world binding types output

end Realm

/-! ### Bodies -/

/-- The surroundings of the bodies of a module hold nothing that another module does not declare
which reaches it. -/
theorem Checked.extends_surroundings {number : Nat} {context : Context} {name : ModuleName}
    {dependencies : List Module} {module : Module}
    (h : Checked number context name dependencies module) (haccepted : Accepted module)
    (hdependencies : ∀ d ∈ dependencies, Accepted d) {library : Library}
    (hlibrary : library.Extends module.library) :
  library.surroundings.Extends (context.surroundings dependencies module)
  := ⟨fun _ _ hresolves => (h.declares haccepted hdependencies hresolves).extend hlibrary,
    hlibrary⟩

/-- The bodies of a module are well typed where everything is visible that is declared in a module
which reaches it. -/
theorem Accepted.typed {module other : Module} (h : Accepted module)
    (hother : other = module ∨ other ∈ module.reachable) :
  other.Typed module.library.surroundings
  := by
  have haccepted : Accepted other := h.of_reached hother
  obtain ⟨number, context, name, dependencies, hdependencies, hchecked⟩ := haccepted.checked
  have hextends := hchecked.extends_surroundings haccepted hdependencies
    fun _ _ hd => definitionsOf?_of_mem h hother hd
  have htyped := hchecked.typed haccepted
  constructor
  case functions =>
    intro function hfunction
    obtain ⟨hbody, hsame⟩ := htyped.functions function hfunction
    exact ⟨hbody.extend hextends, hsame⟩
  case requires =>
    intro struct hstruct block hblock
    obtain ⟨hbody, hsame⟩ := htyped.requires struct hstruct block hblock
    exact ⟨hbody.extend hextends, hsame⟩

/-! ### Structs -/

/-- Whether a struct is as its header says: it has a `requires` block if its values are
restricted, and the block tells whether members satisfy it. -/
structure Struct.Typed (around : Surroundings) (struct : Struct) : Prop where
  restricted : struct.isRestricted = struct.requires.isSome
  requires : ∀ block, struct.requires = some block →
    block.Typed around struct.members ∧ block.type.same .boolean = true

/-- The values of a checked struct are restricted if it has a `requires` block. -/
theorem Checked.restricted {number : Nat} {context : Context} {name : ModuleName}
    {dependencies : List Module} {module : Module}
    (h : Checked number context name dependencies module) {struct : Struct}
    (hstruct : struct ∈ module.structs) :
  struct.isRestricted = struct.requires.isSome
  := by
  obtain ⟨index, hindex⟩ := List.mem_iff_getElem?.mp hstruct
  obtain ⟨declared, hdeclared, hbody⟩ := exists_related_getElem? h.structs hindex
  obtain ⟨declared', hdeclared', hheader⟩ := exists_related_getElem? h.structHeaders hindex
  obtain rfl : declared = declared' := Option.some.inj (hdeclared.symm.trans hdeclared')
  obtain ⟨-, -, _, -, e⟩ := passes_checkStructHeader.mp hheader
  have hrestricted : declared.requires.isSome = struct.isRestricted :=
    congrArg StructHeader.isRestricted e
  exact hrestricted.symm.trans (isSome_eq_of_rel (requires_of_checkStructBody hbody))

/-- Every struct that a program finds is as its header says. -/
theorem Accepted.typed_struct {program : Program} (h : Accepted program.module) {entity : Entity}
    {struct : Struct} (hstruct : program.struct? entity = some struct) :
  struct.Typed program.module.library.surroundings
  := by
  unfold Program.struct? at hstruct
  split at hstruct
  next =>
    obtain ⟨header, hheader, rfl⟩ := Option.map_eq_some_iff.mp hstruct
    have hplain : ∀ header ∈ nativeDefinitions.structs, header.isRestricted = false := by
      decide +kernel
    constructor
    case restricted => exact hplain header (Definitions.struct?_eq_some hheader).1
    case requires =>
      intro block hblock
      cases hblock
  next =>
    obtain ⟨module, hmodule, hfound⟩ := Option.bind_eq_some_iff.mp hstruct
    obtain ⟨hmem, -⟩ := Module.mem_of_find? hmodule
    have hstruct := List.mem_of_find?_eq_some hfound
    constructor
    case restricted =>
      obtain ⟨_, _, _, _, -, hchecked⟩ := (h.find? hmodule).checked
      exact hchecked.restricted hstruct
    case requires => exact (h.typed hmem).requires struct hstruct

/-- A program finds every struct that its library tells. -/
theorem Program.exists_struct? {program : Program} {entity : Entity} {definitions : Definitions}
    (hd : program.module.library entity.module = some definitions) {header : StructHeader}
    (hheader : definitions.struct? entity.id = some header) :
  ∃ struct, program.struct? entity = some struct ∧ struct.toStructHeader = header
  := by
  unfold Module.library Module.definitionsOf? at hd
  unfold Program.struct?
  split at hd
  next hnative =>
    cases hd
    exact ⟨{ header with requires := none }, by rw [if_pos hnative, hheader, Option.map_some], rfl⟩
  next hnative =>
    obtain ⟨module, hmodule, rfl⟩ := Option.map_eq_some_iff.mp hd
    rw [definitions_struct?] at hheader
    obtain ⟨struct, hstruct, rfl⟩ := Option.map_eq_some_iff.mp hheader
    exact ⟨struct, by rw [if_neg hnative, hmodule, Option.bind_some, hstruct], rfl⟩

end TypedModules
