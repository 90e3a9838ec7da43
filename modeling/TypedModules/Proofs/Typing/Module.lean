import TypedModules.Proofs.Typing.Check

/-!
# Accepted modules are well typed

All bodies of a module that checking makes are well typed by the judgement, where references
stand for what the module sees and the library tells what the module says: `Checked.typed`.
-/

namespace TypedModules

open Check

/-- The surroundings of the bodies of a module that a check makes of a context with direct
dependencies. -/
def Context.surroundings (context : Context) (dependencies : List Module) (module : Module) :
    Surroundings where
  resolves reference entry :=
    (Scope.ofModule module.id context context.duplicateIds dependencies).resolve .function
      reference = .ok entry
  library := module.library

section Checked

variable {number : Nat} {context : Context} {name : ModuleName} {dependencies : List Module}
  {module : Module}

theorem Checked.within (h : Checked number context name dependencies module)
    (haccepted : Accepted module) :
  (Setting.ofBodies number context dependencies module).Within
    (context.surroundings dependencies module)
  := by
  constructor
  case resolves => exact fun _ _ hresolve => hresolve
  case library =>
    intro id definitions hd
    rwa [h.definitions?_ofBodies] at hd
  case formed => exact haccepted.formed
  case types => exact h.typesIn_ofBodies haccepted

/-- The arguments of a checked function have distinct names and formed types. -/
theorem Checked.formed_args (h : Checked number context name dependencies module)
    (haccepted : Accepted module) {function : Function} (hfunction : function ∈ module.functions) :
  Variables.Formed module.library function.args
  := by
  obtain ⟨declared, -, hp⟩ := exists_related_left h.functionHeaders hfunction
  have hformed := (formed_checkFunctionHeader (h.typesIn_ofModule haccepted) hp).2
  obtain ⟨-, hnames, args, hargs, output, -, e⟩ := passes_checkFunctionHeader.mp hp
  have he : function.args = args := (congrArg FunctionHeader.args e).symm
  constructor
  case names =>
    rw [map_eq_map_of_related hargs fun _ _ h => h.2] at hnames
    exact he ▸ hnames
  case types =>
    intro a ha
    exact (hformed.args a.type (List.mem_map_of_mem ha)).open

/-- The members of a checked struct have distinct names and formed types. -/
theorem Checked.formed_members (h : Checked number context name dependencies module)
    (haccepted : Accepted module) {struct : Struct} (hstruct : struct ∈ module.structs) :
  Variables.Formed module.library struct.members
  := by
  obtain ⟨declared, -, hp⟩ := exists_related_left h.structHeaders hstruct
  have hformed := (formed_checkStructHeader (h.typesIn_ofModule haccepted) hp).2
  exact ⟨hformed.names, fun m hm => (hformed.members m hm).open⟩

/-- The body of a checked function passes where the arguments are visible. -/
theorem Checked.passes_body (h : Checked number context name dependencies module)
    {function : Function} (hfunction : function ∈ module.functions) :
  ∃ written, (checkBlock
      ((Setting.ofBodies number context dependencies module).within function.typeParams)
      ⟨(Setting.ofBodies number context dependencies module).number, function.entity, []⟩
      function.args written).Passes function.body
    ∧ function.body.type.same function.output = true
  := by
  obtain ⟨declared, -, hp⟩ := exists_related_left h.functions hfunction
  exact ⟨declared.body, body_of_checkFunctionBody hp⟩

theorem Checked.typed_function (h : Checked number context name dependencies module)
    (haccepted : Accepted module) {function : Function} (hfunction : function ∈ module.functions) :
  function.body.Typed (context.surroundings dependencies module) function.args
    ∧ function.body.type.same function.output = true
  := by
  obtain ⟨written, hpasses, hsame⟩ := h.passes_body hfunction
  exact ⟨typed_checkBlock ((h.within haccepted).within _) _ _
    (h.formed_args haccepted hfunction) written hpasses, hsame⟩

/-- The `requires` block of a checked struct passes where the members are visible. -/
theorem Checked.passes_requires (h : Checked number context name dependencies module)
    {struct : Struct} (hstruct : struct ∈ module.structs) {block : Block}
    (hblock : struct.requires = some block) :
  ∃ written, (checkBlock
      ((Setting.ofBodies number context dependencies module).within struct.typeParams)
      ⟨(Setting.ofBodies number context dependencies module).number, struct.entity, []⟩
      struct.members written).Passes block
    ∧ block.type.same .boolean = true
  := by
  obtain ⟨declared, -, hp⟩ := exists_related_left h.structs hstruct
  have hrequires := requires_of_checkStructBody hp
  rw [hblock] at hrequires
  generalize declared.requires = requires at hrequires
  cases hrequires with
  | some hpasses => exact ⟨_, hpasses⟩

theorem Checked.typed_requires (h : Checked number context name dependencies module)
    (haccepted : Accepted module) {struct : Struct} (hstruct : struct ∈ module.structs)
    {block : Block} (hblock : struct.requires = some block) :
  block.Typed (context.surroundings dependencies module) struct.members
    ∧ block.type.same .boolean = true
  := by
  obtain ⟨written, hpasses, hsame⟩ := h.passes_requires hstruct hblock
  exact ⟨typed_checkBlock ((h.within haccepted).within _) _ _
    (h.formed_members haccepted hstruct) written hpasses, hsame⟩

/-- Every body of a checked module is well typed. -/
theorem Checked.typed (h : Checked number context name dependencies module)
    (haccepted : Accepted module) :
  module.Typed (context.surroundings dependencies module)
  := ⟨fun _ hfunction => h.typed_function haccepted hfunction,
    fun _ hstruct _ hblock => h.typed_requires haccepted hstruct hblock⟩

/-- Every body of a module that is accepted on accepted dependencies is well typed: whatever
stands in its typed trees, at any depth, has the type that the judgement gives it. -/
theorem typed_of_validate {config : SinkConfig} {warnings : List Diagnostic}
    (hdependencies : ∀ d ∈ dependencies, Accepted d)
    (h : validate number context name dependencies config = .success module warnings) :
  module.Typed (context.surroundings dependencies module)
  := (checked_of_passes (passes_of_validate h)).typed (.intro hdependencies h)

end Checked

/-- The module of a successful verdict. -/
def Verdict.module? : Verdict → Option Module
  | success module _ => some module
  | failure _ _ => none

/-- A verdict is a success if something holds of its module. -/
theorem Verdict.exists_success {verdict : Verdict} {P : Module → Bool}
    (h : verdict.module?.any P = true) :
  ∃ module warnings, verdict = .success module warnings ∧ P module = true
  := by
  cases verdict with
  | success module warnings => exact ⟨module, warnings, rfl, h⟩
  | failure => cases h

/-- A module is accepted if it passes without dependencies. -/
theorem Accepted.alone {number : Nat} {context : Context} {name : ModuleName} {config : SinkConfig}
    {module : Module} {warnings : List Diagnostic}
    (h : validate number context name [] config = .success module warnings) :
  Accepted module
  := .intro (by simp) h

/-- A context with two functions.  `pick(b: Boolean, n: Integer): Integer` calls, for `n`, a
closure that captures both arguments and returns `n` or its own argument, as `b` says;
`double(n: Integer): Integer` adds `n` to itself. -/
def pickContext : Context where
  functions := [{
      id := ⟨["pick"]⟩
      typeParams := []
      args := [⟨"b", .boolean, none⟩, ⟨"n", .integer, none⟩]
      output := .integer
      body := .mk [.bare (.callValue
        (.closure [⟨"m", .integer, none⟩] .integer
          (.mk [.bare (.ifThen (.variable "b" none) (.mk [.bare (.variable "n" none)] none)
            (.mk [.bare (.variable "m" none)] none) none)] none) none)
        [.variable "n" none] [] none)] none
      annotations := []
      location := none },
    { id := ⟨["double"]⟩
      typeParams := []
      args := [⟨"n", .integer, none⟩]
      output := .integer
      body := .mk [.bare (.call ⟨none, ⟨["Integer", "plus"]⟩⟩
        [.variable "n" none, .variable "n" none] [] none)] none
      annotations := []
      location := none }]

theorem exists_pick :
  ∃ module warnings, validate 0 pickContext ⟨"example", "pick"⟩ [] {} = .success module warnings
  := by
  have haccepted : (validate 0 pickContext ⟨"example", "pick"⟩ [] {}).module?.any
      (fun _ => true) = true := by
    decide +kernel
  obtain ⟨module, warnings, h, -⟩ := Verdict.exists_success haccepted
  exact ⟨module, warnings, h⟩

theorem typed_pick :
  ∃ module warnings, (∀ d ∈ ([] : List Module), Accepted d)
    ∧ validate 0 pickContext ⟨"example", "pick"⟩ [] {} = .success module warnings
    ∧ module.Typed (pickContext.surroundings [] module)
  := by
  obtain ⟨module, warnings, h⟩ := exists_pick
  have hnone : ∀ d ∈ ([] : List Module), Accepted d := fun _ hd => nomatch hd
  exact ⟨module, warnings, hnone, h, typed_of_validate hnone h⟩

end TypedModules
