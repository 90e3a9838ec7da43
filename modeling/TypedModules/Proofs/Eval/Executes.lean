import TypedModules.Proofs.Eval.Contained
import TypedModules.Proofs.Typing.Induction

/-!
# What a run executes

A run answers a request from a store.  It comes to all requests that it asks for on the way, to the
bodies that these requests enter, and to the expressions and blocks in the bodies that are
evaluated, each with the environment and the store that are there by then: `Program.Executes` says
which statements it executes in this way.  Where a run starts within a containment, it comes to
nothing outside of it: `Program.Executes.contained`.
-/

namespace TypedModules

/-! ### Requests -/

/-- Whether an evaluation that starts with a store asks for something when a store is left.  It
does if it breaks off with what is left there as soon as the answer there breaks off. -/
def Asks (run : (Request → Eval Value) → Eval Value) (ask : Request → Eval Value) (start : Store)
    (request : Request) (store : Store) : Prop :=
  ∀ (other : Request → Eval Value) (left : Store),
    (∀ r s, r ≠ request ∨ s ≠ store → (other r).outcome s = (ask r).outcome s) →
    (other request).outcome store = (.error .outOfFuel, left) →
    (run other).outcome start = (.error .outOfFuel, left)

/-- Whether a run that answers a request from a store with some fuel comes to a request, with the
fuel and the store that are left there. -/
inductive Program.Serves (program : Program) (fuel : Nat) (request : Request) (store : Store) :
    Nat → Request → Store → Prop
  | start : Serves program fuel request store fuel request store
  | asks {depth : Nat} {served next : Request} {before after : Store} :
    Serves program fuel request store (depth + 1) served before →
    Asks (program.step depth · served) (program.answer depth) before next after →
    Serves program fuel request store depth next after

/-! ### Bodies -/

/-- Whether answering a request from a store runs a body whose arguments have the given values,
with the store that is there by then. -/
inductive Program.Enters (program : Program) (ask : Request → Eval Value) :
    Request → Store → List Argument → Block → List Value → Store → Prop
  | function {entity : Entity} {module : Module} {function : Function} {values : List Value}
      {store : Store} :
    entity.module.isNative = false →
    program.module.find? entity.module = some module →
    module.function? entity.id = some function →
    program.override? entity = none →
    function.args.length = values.length →
    Enters program ask (.call entity values) store function.args function.body values store
  | construct {entity : Entity} {module : Module} {struct : Struct} {requires : Block}
      {values : List Value} {store : Store} :
    entity.module.isNative = false →
    program.module.find? entity.module = some module →
    module.function? entity.id = none →
    module.struct? entity.id = some struct →
    struct.requires = some requires →
    struct.members.length = values.length →
    Enters program ask (.call entity values) store struct.members requires values store
  | literal {isReference : Bool} {entity : Entity} {written : Reference} {args : List Ty}
      {struct : Struct} {member : Argument} {requires : Block} {text : String} {value : Value}
      {store after : Store} :
    entity ≠ Native.string.entity →
    program.struct? entity = some struct →
    struct.members = [member] →
    struct.requires = some requires →
    (ask (.literal (member.type.substitute (.ofParams struct.typeParams args)) text)).outcome store
      = (.ok value, after) →
    Enters program ask (.literal (.named isReference entity written args) text) store
      struct.members requires [value] after
  | closure {binding filled : Binding} {args values : List Value} {closure : Closure}
      {store : Store} :
    binding.fill? (args.map some) = some filled →
    filled.arguments? = some values →
    filled.target = .closure closure →
    (closure.args ++ closure.captures).length = values.length →
    Enters program ask (.apply binding args) store (closure.args ++ closure.captures) closure.body
      values store

/-! ### Trees -/

/-- Whether evaluating a tree in an environment and from a store comes to a tree, in an environment
and with the store that is there by then. -/
inductive Tree.Comes (ask : Request → Eval Value) (root : Tree) (env : Environment)
    (store : Store) : Tree → Environment → Store → Prop
  | root : Comes ask root env store root env store
  | operand {type : Ty} {aliasing : Aliasing} {node : Node} {inner : Environment}
      {before after : Store} {firsts rest : List Expr} {operand : Expr} {values : List Value} :
    Comes ask root env store (.expr (.mk type aliasing node)) inner before →
    node.operands = firsts ++ operand :: rest →
    (evalExprs ask inner firsts).outcome before = (.ok values, after) →
    Comes ask root env store (.expr operand) inner after
  | arm {type : Ty} {aliasing : Aliasing} {condition : Expr} {thenBlock elseBlock : Block}
      {inner : Environment} {before after : Store} {holds : Bool} :
    Comes ask root env store (.expr (.mk type aliasing (.ifThen condition thenBlock elseBlock)))
      inner before →
    (condition.eval ask inner).outcome before = (.ok (.boolean holds), after) →
    Comes ask root env store (.block (if holds then thenBlock else elseBlock)) inner after
  | statement {block : Block} {inner inside : Environment} {before after : Store}
      {firsts rest : List Stmt} {statement : Stmt} :
    Comes ask root env store (.block block) inner before →
    block.statements = firsts ++ statement :: rest →
    (execStmts ask inner.push firsts).outcome before = (.ok inside, after) →
    Comes ask root env store (.expr statement.value) inside after
  | last {block : Block} {inner inside : Environment} {before after : Store} :
    Comes ask root env store (.block block) inner before →
    (execStmts ask inner.push block.statements).outcome before = (.ok inside, after) →
    Comes ask root env store (.expr block.last) inside after

/-- Whether a run that answers a request from a store with some fuel executes a statement: with the
fuel that is left there, in an environment and with a store. -/
inductive Program.Executes (program : Program) (fuel : Nat) (request : Request) (store : Store) :
    Nat → Stmt → Environment → Store → Prop
  | intro {depth : Nat} {served : Request} {args : List Argument} {body block : Block}
      {values : List Value} {at₁ at₂ at₃ before : Store} {env inside : Environment}
      {firsts rest : List Stmt} {statement : Stmt} :
    program.Serves fuel request store (depth + 1) served at₁ →
    program.Enters (program.answer depth) served at₁ args body values at₂ →
    Tree.Comes (program.answer depth) (.block body)
      (.ofBindings ((args.map (·.name)).zip values)) at₂ (.block block) env at₃ →
    block.statements = firsts ++ statement :: rest →
    (execStmts (program.answer depth) env.push firsts).outcome at₃ = (.ok inside, before) →
    Executes program fuel request store depth statement inside before

/-! ### Within a containment -/

theorem Discipline.Keeps.ok {discipline : Discipline} {α : Type} {world : discipline.World}
    {run : Eval α} {wanted : discipline.World → α → Prop} (h : discipline.Keeps world run wanted)
    {store after : Store} (hfits : discipline.fits world store) {a : α}
    (hok : run.outcome store = (.ok a, after)) :
  ∃ later, discipline.grows world later ∧ discipline.fits later after ∧ wanted later a
  := by
  have hkeeps := h store hfits
  rw [hok] at hkeeps
  exact hkeeps

namespace Containment

variable {containment : Containment} {world : containment.World} {ask : Request → Eval Value}
  {start store after : Store} {request : Request}

/-- What an evaluation asks for it asks for within the containment, if it keeps to the containment
whenever its answers do, and if some store fits no world. -/
theorem asked_of_asks {run : (Request → Eval Value) → Eval Value}
    {wanted : containment.World → Value → Prop} (hask : containment.Answers ask)
    (hrun : ∀ other, containment.Answers other → containment.Keeps world (run other) wanted)
    (hbad : ∃ left, ∀ later, ¬containment.fits later left) (hfits : containment.fits world start)
    (h : Asks run ask start request store) :
  ∃ later, containment.fits later store ∧ containment.Asked later request
  := by
  classical
  obtain ⟨left, hleft⟩ := hbad
  by_contra hnone
  -- the answer may break off with any store where nothing is asked for within the containment
  let other : Request → Eval Value := fun r s =>
    if r = request ∧ s = store then (.error .outOfFuel, left) else ask r s
  have hother : containment.Answers other := by
    intro later r hasked s hs
    by_cases e : r = request ∧ s = store
    · obtain ⟨rfl, rfl⟩ := e
      exact absurd ⟨later, hs, hasked⟩ hnone
    · have hsame : (other r).outcome s = (ask r).outcome s := if_neg e
      rw [hsame]
      exact hask later r hasked s hs
  obtain ⟨later, -, hlater, -⟩ := hrun other hother start hfits
  rw [h other left (fun r s hne => if_neg (not_and_or.mpr hne)) (if_pos ⟨rfl, rfl⟩)] at hlater
  exact hleft later hlater

variable {program : Program} {fuel depth : Nat} {served : Request}

/-- A run comes to no request outside the containment. -/
theorem asked_of_serves (hhosts : containment.Hosts program)
    (hbad : ∃ left, ∀ later, ¬containment.fits later left)
    (hfits : containment.fits world store) (hasked : containment.Asked world request)
    (h : program.Serves fuel request store depth served after) :
  ∃ later, containment.fits later after ∧ containment.Asked later served
  := by
  induction h with
  | start => exact ⟨world, hfits, hasked⟩
  | @asks depth served next before after _ hasks ih =>
    obtain ⟨later, hbefore, hserved⟩ := ih
    exact asked_of_asks (answers_program hhosts depth)
      (fun other hother => answers_step hhosts hother depth later served hserved) hbad hbefore hasks

/-- A body with its arguments that is run for a program: one of its modules, or that of a closure
that may be contained. -/
inductive Bodies (containment : Containment) (program : Program) : List Argument → Block → Prop
  | function {id : ModuleId} {module : Module} {function : Function} :
    program.module.find? id = some module →
    function ∈ module.functions →
    Bodies containment program function.args function.body
  | requires {id : ModuleId} {module : Module} {struct : Struct} {block : Block} :
    program.module.find? id = some module →
    struct ∈ module.structs →
    struct.requires = some block →
    Bodies containment program struct.members block
  | closure {closure : Closure} :
    containment.closures closure →
    Bodies containment program (closure.args ++ closure.captures) closure.body

theorem Hosts.runs (hhosts : containment.Hosts program) {args : List Argument} {body : Block}
    (h : containment.Bodies program args body) :
  containment.Runs args body
  := by
  cases h with
  | function hmodule hmem => exact hhosts.functions hmodule _ hmem
  | requires hmodule hmem hblock => exact hhosts.requires hmodule _ hmem _ hblock
  | closure hclosure => exact hhosts.closures _ hclosure

/-- What a request within the containment enters is a body that is run, with values within the
containment. -/
theorem bodies_of_enters (hask : containment.Answers ask) (hlenient : containment.Lenient)
    {args : List Argument} {body : Block} {values : List Value}
    (hfits : containment.fits world store) (hasked : containment.Asked world request)
    (h : program.Enters ask request store args body values after) :
  ∃ later, containment.fits later after ∧ (∀ v ∈ values, containment.holds later v)
    ∧ args.length = values.length ∧ containment.Bodies program args body
  := by
  cases h with
  | function hnative hmodule hfunction hoverride hlength =>
    have hmem := List.mem_of_find?_eq_some hfunction
    exact ⟨world, hfits, hasked, hlength, .function hmodule hmem⟩
  | construct hnative hmodule hnone hstruct hrequires hlength =>
    have hmem := List.mem_of_find?_eq_some hstruct
    exact ⟨world, hfits, hasked, hlength, .requires hmodule hmem hrequires⟩
  | literal hstring hstruct hmembers hrequires hvalue =>
    obtain ⟨later, -, hlater, hholds⟩ :=
      (hask world (.literal _ _) (hlenient.literals _ _)).ok hfits hvalue
    obtain ⟨id, module, hmodule, hmem⟩ := exists_mem_of_struct? hstruct hrequires
    exact ⟨later, hlater, List.forall_mem_singleton.mpr hholds, by rw [hmembers]; rfl,
      .requires hmodule hmem hrequires⟩
  | closure hfill harguments htarget hlength =>
    have hfilled := holds_fill? hasked.1 (by simpa using hasked.2) hfill
    rw [holds_function] at hfilled
    rw [Binding.arguments?, mapM_id_eq_some] at harguments
    refine ⟨world, hfits, fun v hv => hfilled.2 v ?_, hlength, .closure (hfilled.1 _ htarget)⟩
    exact harguments ▸ List.mem_map_of_mem hv

/-! ### Variables -/

/-- Whether all variables have values with the property, or may be undefined. -/
def BindsAll (containment : Containment) (world : containment.World) (env : Environment) : Prop :=
  ∀ name, containment.Binds world env name

theorem BindsAll.grow {env : Environment} (h : containment.BindsAll world env)
    {later : containment.World} (hgrows : containment.grows world later) :
  containment.BindsAll later env
  := fun name => (h name).grow hgrows

theorem BindsAll.push {env : Environment} (h : containment.BindsAll world env) :
  containment.BindsAll world env.push
  := fun name => (h name).push

theorem BindsAll.define {env : Environment} {name : String} {value : Value}
    (h : containment.BindsAll world env) (hvalue : containment.holds world value) :
  containment.BindsAll world (env.define name value)
  := fun other => .define hvalue fun _ => h other

/-- The variables of a call have the values that it was given. -/
theorem bindsAll_ofBindings (hallows : ∀ cause, containment.allows cause) {names : List String}
    {values : List Value} (h : ∀ v ∈ values, containment.holds world v) :
  containment.BindsAll world (.ofBindings (names.zip values))
  := fun _ => ⟨fun value hvalue => h value (Environment.mem_of_lookup?_ofBindings hvalue),
    fun _ => hallows _⟩

theorem keeps_exec_all (hask : containment.Answers ask) (htolerant : containment.Tolerant)
    {statement : Stmt} {env : Environment} (henv : containment.BindsAll world env)
    (hwrites : containment.Writes statement.value.parts) :
  containment.Keeps world (statement.exec ask env) fun later env => containment.BindsAll later env
  := by
  have hvalue := (evaluates hask htolerant).1 statement.value world env (fun name _ => henv name)
    hwrites
  cases statement with
  | assign name type value =>
    exact hvalue.bind fun later hgrows v hv => Discipline.keeps_pure ((henv.grow hgrows).define hv)
  | bare value => exact hvalue.bind fun later hgrows _ _ => Discipline.keeps_pure (henv.grow hgrows)

theorem keeps_execStmts_all (hask : containment.Answers ask) (htolerant : containment.Tolerant)
    {statements : List Stmt} {env : Environment} (henv : containment.BindsAll world env)
    (hwrites : ∀ s ∈ statements, containment.Writes s.value.parts) :
  containment.Keeps world (execStmts ask env statements) fun later env =>
    containment.BindsAll later env
  := by
  induction statements generalizing world env with
  | nil => exact Discipline.keeps_pure henv
  | cons statement rest ih =>
    rw [List.forall_mem_cons] at hwrites
    exact (keeps_exec_all hask htolerant henv hwrites.1).bind fun later _ env henv =>
      ih henv hwrites.2

/-! ### Trees -/

theorem Writes.operand {type : Ty} {aliasing : Aliasing} {node : Node}
    (h : containment.Writes (Expr.mk type aliasing node).parts) {operand : Expr}
    (hoperand : operand ∈ node.operands) :
  containment.Writes operand.parts
  := fun part hpart => h part
    (List.mem_cons_of_mem _ (mem_partsOfNode.mpr (.inl ⟨operand, hoperand, hpart⟩)))

theorem Writes.block {type : Ty} {aliasing : Aliasing} {node : Node}
    (h : containment.Writes (Expr.mk type aliasing node).parts) {block : Block}
    (hblock : block ∈ node.blocks) :
  containment.Writes block.parts
  := fun part hpart => h part
    (List.mem_cons_of_mem _ (mem_partsOfNode.mpr (.inr ⟨block, hblock, hpart⟩)))

theorem Writes.statement {block : Block} (h : containment.Writes block.parts) {statement : Stmt}
    (hstatement : statement ∈ block.statements) :
  containment.Writes statement.value.parts
  := fun part hpart => h part (mem_partsOfBlock.mpr (.inl ⟨statement, hstatement, hpart⟩))

theorem Writes.last {block : Block} (h : containment.Writes block.parts) :
  containment.Writes block.last.parts
  := fun part hpart => h part (mem_partsOfBlock.mpr (.inr hpart))

/-- The statements before one of a block lead to an environment within the containment. -/
theorem bindsAll_of_execStmts (hask : containment.Answers ask) (htolerant : containment.Tolerant)
    {block : Block} (hwrites : containment.Writes block.parts) {firsts : List Stmt}
    (hfirsts : firsts ⊆ block.statements) {env inside : Environment}
    (henv : containment.BindsAll world env) (hfits : containment.fits world store)
    (h : (execStmts ask env.push firsts).outcome store = (.ok inside, after)) :
  ∃ later, containment.fits later after ∧ containment.BindsAll later inside
  := by
  have hkeeps := keeps_execStmts_all hask htolerant henv.push
    fun s hs => hwrites.statement (hfirsts hs)
  obtain ⟨later, -, hlater, hinside⟩ := hkeeps.ok hfits h
  exact ⟨later, hlater, hinside⟩

/-- Evaluating a tree within the containment comes to nothing outside of it. -/
theorem bindsAll_of_comes (hask : containment.Answers ask) (htolerant : containment.Tolerant)
    {root tree : Tree} {env inner : Environment} (hwrites : containment.Writes root.parts)
    (henv : containment.BindsAll world env) (hfits : containment.fits world store)
    (h : root.Comes ask env store tree inner after) :
  containment.Writes tree.parts
    ∧ ∃ later, containment.fits later after ∧ containment.BindsAll later inner
  := by
  induction h with
  | root => exact ⟨hwrites, world, hfits, henv⟩
  | @operand _ _ node _ _ _ firsts rest operand values _ hoperands hvalues ih =>
    obtain ⟨hwrites, later, hbefore, hinner⟩ := ih
    have hmem : ∀ e ∈ firsts ++ operand :: rest, e ∈ node.operands := fun e he => hoperands ▸ he
    have hkeeps := @keeps_evalExprs _ later ask firsts _
      (fun e _ => (evaluates hask htolerant).1 e) (fun name _ => hinner name) fun part hpart => by
        obtain ⟨e, he, hpart⟩ := mem_partsOfExprs.mp hpart
        exact hwrites.operand (hmem e (List.mem_append_left _ he)) part hpart
    obtain ⟨last, hgrows, hlast, -⟩ := hkeeps.ok hbefore hvalues
    exact ⟨hwrites.operand (hmem operand (by simp)), last, hlast, hinner.grow hgrows⟩
  | @arm _ _ condition thenBlock elseBlock _ _ _ holds _ hcondition ih =>
    obtain ⟨hwrites, later, hbefore, hinner⟩ := ih
    have hkeeps := (evaluates hask htolerant).1 condition later _ (fun name _ => hinner name)
      (hwrites.operand (List.mem_singleton.mpr rfl))
    obtain ⟨last, hgrows, hlast, -⟩ := hkeeps.ok hbefore hcondition
    refine ⟨hwrites.block ?_, last, hlast, hinner.grow hgrows⟩
    cases holds <;> simp [Node.blocks]
  | statement _ hstatements hfirsts ih =>
    obtain ⟨hwrites, later, hbefore, hinner⟩ := ih
    exact ⟨hwrites.statement (by simp [hstatements]),
      bindsAll_of_execStmts hask htolerant hwrites (by simp [hstatements]) hinner hbefore hfirsts⟩
  | last _ hall ih =>
    obtain ⟨hwrites, later, hbefore, hinner⟩ := ih
    exact ⟨hwrites.last,
      bindsAll_of_execStmts hask htolerant hwrites (List.Subset.refl _) hinner hbefore hall⟩

end Containment

/-- A run that starts within a containment, in which evaluation may end for any reason, executes
statements within it: what variables stand for and what builders hold has the property. -/
theorem Program.Executes.contained {containment : Containment} {program : Program} {fuel : Nat}
    {request : Request} {store : Store} {depth : Nat} {statement : Stmt} {env : Environment}
    {before : Store} (h : program.Executes fuel request store depth statement env before)
    (hhosts : containment.Hosts program) (hlenient : containment.Lenient)
    (hallows : ∀ cause, containment.allows cause)
    (hbad : ∃ left, ∀ world, ¬containment.fits world left) {world : containment.World}
    (hfits : containment.fits world store) (hasked : containment.Asked world request) :
  ∃ later, containment.fits later before ∧ containment.BindsAll later env
  := by
  obtain ⟨hserves, henters, hcomes, hstatements, hfirsts⟩ := h
  obtain ⟨_, hfits, hasked⟩ := Containment.asked_of_serves hhosts hbad hfits hasked hserves
  have hask := Containment.answers_program hhosts depth
  obtain ⟨_, hfits, hvalues, -, hbody⟩ :=
    Containment.bodies_of_enters hask hlenient hfits hasked henters
  have hroot : containment.Writes (Tree.block _).parts := (hhosts.runs hbody).writes
  obtain ⟨hwrites, _, hfits, henv⟩ := Containment.bindsAll_of_comes hask hhosts.tolerant hroot
    (Containment.bindsAll_ofBindings hallows hvalues) hfits hcomes
  exact Containment.bindsAll_of_execStmts hask hhosts.tolerant hwrites (by simp [hstatements]) henv
    hfits hfirsts

end TypedModules
