import TypedModules.Eval.Interpreter
import TypedModules.Proofs.Eval.Environment
import TypedModules.Proofs.Native.Contained
import TypedModules.Proofs.Typing.Free

/-!
# Evaluation keeps to containments

The value of an expression is made of the values of its free variables, of what these values and
the store contain, and of answers.  So evaluation keeps to a containment where the free variables
have the property and the closures that are written in the expression may be contained, whether
the expression is well typed or not.  Hence so does all that a program answers, provided that its
own bodies and those of the closures that may be contained have no other free variables than their
arguments: `Containment.answers_program`.
-/

namespace TypedModules

/-- Whether a cause is about what is written, a variable or a literal, and not about values. -/
def EvalCause.isWritten : EvalCause → Bool
  | undefinedVariable _ => true
  | invalidLiteral _ _ _ => true
  | _ => false

namespace Environment

/-- Where the variables are those of a call, they stand for the values that it was given. -/
theorem mem_of_lookup?_ofBindings {names : List String} {values : List Value} {name : String}
    {value : Value} (h : (ofBindings (names.zip values)).lookup? name = some value) :
  value ∈ values
  := by
  have hlookup : (names.zip values).reverse.lookup name = some value := by
    simpa [ofBindings, lookup?] using h
  obtain ⟨before, after, hsplit, -⟩ := List.lookup_eq_some_iff.mp hlookup
  have hmem : (name, value) ∈ (names.zip values).reverse := by simp [hsplit]
  exact (List.of_mem_zip (List.mem_reverse.mp hmem)).2

theorem not_mem_of_lookup?_ofBindings {names : List String} {values : List Value} {name : String}
    (hlength : names.length = values.length)
    (h : (ofBindings (names.zip values)).lookup? name = none) :
  name ∉ names
  := by
  have hlookup : (names.zip values).reverse.lookup name = none := by
    simpa [ofBindings, lookup?] using h
  intro hname
  rw [← List.map_fst_zip (Nat.le_of_eq hlength)] at hname
  obtain ⟨entry, hentry, rfl⟩ := List.mem_map.mp hname
  simpa using List.lookup_eq_none_iff.mp hlookup entry (List.mem_reverse.mpr hentry)

end Environment

namespace Containment

variable {containment : Containment} {world : containment.World}

/-- Whether a variable has a value with the property, or may be undefined. -/
def Binds (containment : Containment) (world : containment.World) (env : Environment)
    (name : String) : Prop :=
  (∀ value, env.lookup? name = some value → containment.holds world value)
    ∧ (env.lookup? name = none → containment.allows (.undefinedVariable name))

theorem Binds.grow {env : Environment} {name : String} (h : containment.Binds world env name)
    {after : containment.World} (hgrows : containment.grows world after) :
  containment.Binds after env name
  := ⟨fun value hvalue => containment.lasting hgrows value (h.1 value hvalue), h.2⟩

theorem Binds.push {env : Environment} {name : String} (h : containment.Binds world env name) :
  containment.Binds world env.push name
  := by
  unfold Binds
  rw [Environment.lookup?_push]
  exact h

theorem reads_get {env : Environment} {name : String} (h : containment.Binds world env name) :
  containment.Reads (env.get name) fun value => containment.holds world value
  := by
  unfold Environment.get
  split
  next value hvalue => exact reads_pure (h.1 value hvalue)
  next hnone => exact reads_fail (h.2 hnone)

/-- Whether the closures that are written in a tree may be contained, and the literals asked
for. -/
def Writes (containment : Containment) (parts : List Expr) : Prop :=
  ∀ part ∈ parts, (∀ closure, part.node = .closure closure → containment.closures closure)
    ∧ ∀ text, part.node = .literal text → containment.literals part.type text

/-- Whether evaluation may end for any reason but an undefined variable or a text that is no
literal. -/
def Tolerant (containment : Containment) : Prop :=
  ∀ cause : EvalCause, cause.isWritten = false → containment.allows cause

theorem Tolerant.reads_checkArity (h : containment.Tolerant) {name : String} {expected got : Nat} :
  containment.Reads (.checkArity name expected got) fun _ => expected = got
  := Containment.reads_checkArity fun _ => h _ rfl

/-! ### Expressions -/

section Expressions

variable {ask : Request → Eval Value} (hask : containment.Answers ask)
  (htolerant : containment.Tolerant)

include htolerant in
theorem reads_callee {value : Value} (h : containment.holds world value) :
  containment.Reads value.callee fun binding => containment.holds world (.function binding)
  := by
  cases value
  case function => exact reads_pure h
  all_goals exact reads_fail (htolerant _ rfl)

theorem holds_member? {value member : Value} {name : String}
    (h : containment.holds world value) (hmember : value.member? name = some member) :
  containment.holds world member
  := by
  cases value <;> simp only [Value.member?, reduceCtorEq] at hmember
  case struct header members =>
    obtain ⟨index, -, hget⟩ := Option.bind_eq_some_iff.mp hmember
    exact (holds_struct.mp h).2 _ (List.mem_of_getElem? hget)
  case object interface methods =>
    obtain ⟨binding, hbinding, rfl⟩ := Option.map_eq_some_iff.mp hmember
    obtain ⟨index, -, hget⟩ := Option.bind_eq_some_iff.mp hbinding
    exact holds_object.mp h _ (List.mem_of_getElem? hget)

include htolerant in
theorem reads_follow {value : Value} (h : containment.holds world value) (name : String) :
  containment.Reads (value.follow name) fun member => containment.holds world member
  := by
  unfold Value.follow
  split
  next member hmember => exact reads_pure (holds_member? h hmember)
  next => exact reads_fail (htolerant _ rfl)

theorem mem_fillSlots {slots values : List (Option Value)} {value : Value}
    (h : some value ∈ Binding.fillSlots slots values) :
  some value ∈ slots ∨ some value ∈ values
  := by
  induction slots generalizing values with
  | nil => cases h
  | cons slot rest ih =>
    cases slot with
    | some filled =>
      obtain e | h := List.mem_cons.mp h
      · exact .inl (e ▸ List.mem_cons_self)
      · exact (ih h).imp_left (List.mem_cons_of_mem _)
    | none =>
      cases values with
      | nil =>
        have h := (List.mem_cons.mp h).resolve_left nofun
        exact (ih h).imp_left (List.mem_cons_of_mem _)
      | cons first others =>
        obtain e | h := List.mem_cons.mp h
        · exact .inr (e ▸ List.mem_cons_self)
        · exact (ih h).imp (List.mem_cons_of_mem _) (List.mem_cons_of_mem _)

theorem holds_fill? {binding filled : Binding} {values : List (Option Value)}
    (h : containment.holds world (.function binding))
    (hvalues : ∀ v, some v ∈ values → containment.holds world v)
    (hfill : binding.fill? values = some filled) :
  containment.holds world (.function filled)
  := by
  unfold Binding.fill? at hfill
  split at hfill <;> cases hfill
  rw [holds_function] at h ⊢
  exact ⟨h.1, fun v hv => (mem_fillSlots hv).elim (h.2 v) (hvalues v)⟩

include htolerant in
theorem reads_fill {binding : Binding} {values : List (Option Value)}
    (h : containment.holds world (.function binding))
    (hvalues : ∀ v, some v ∈ values → containment.holds world v) :
  containment.Reads (binding.fill values) fun filled => containment.holds world (.function filled)
  := by
  unfold Binding.fill
  split
  next filled hfill => exact reads_pure (holds_fill? h hvalues hfill)
  next => exact reads_fail (htolerant _ rfl)

/-- A closure is made of the variables that it captures. -/
theorem reads_bind {closure : Closure} {env : Environment} (hclosure : containment.closures closure)
    (h : ∀ c ∈ closure.captures, containment.Binds world env c.name) :
  containment.Reads (closure.bind env) fun binding => containment.holds world (.function binding)
  := by
  refine (reads_mapM fun c hc => reads_get (h c hc)).bind fun values hvalues => reads_pure ?_
  rw [holds_function]
  constructor
  · rintro found hfound
    cases hfound
    exact hclosure
  · intro v hv
    simp only [Binding.slots, List.mem_append, List.mem_map, reduceCtorEq, and_false, exists_false,
      Option.some.injEq, exists_eq_right, false_or] at hv
    exact hvalues v hv

/-- What keeps to the containment if the free variables of a tree have the property and its
closures may be contained, in every environment and larger world. -/
def Evaluates (containment : Containment) (free : List String) (parts : List Expr)
    (run : Environment → Eval Value) : Prop :=
  ∀ world env, (∀ name ∈ free, containment.Binds world env name) → containment.Writes parts →
    containment.Keeps world (run env) containment.holds

theorem keeps_evalExprs {exprs : List Expr} {env : Environment}
    (ih : ∀ e ∈ exprs, containment.Evaluates e.free e.parts fun env => e.eval ask env)
    (henv : ∀ name ∈ freeOfExprs exprs, containment.Binds world env name)
    (hwrites : containment.Writes (partsOfExprs exprs)) :
  containment.Keeps world (evalExprs ask env exprs) fun after values =>
    ∀ v ∈ values, containment.holds after v
  := by
  induction exprs generalizing world with
  | nil => exact Discipline.keeps_pure fun _ hv => nomatch hv
  | cons expr rest ihRest =>
    rw [List.forall_mem_cons] at ih
    simp only [freeOfExprs, partsOfExprs, List.mem_append] at henv hwrites
    have hfirst := ih.1 world env (fun name hname => henv name (.inl hname))
      fun part hpart => hwrites part (List.mem_append_left _ hpart)
    refine hfirst.bind fun after hgrows value hvalue => ?_
    have hrest := ihRest ih.2 (fun name hname => (henv name (.inr hname)).grow hgrows)
      fun part hpart => hwrites part (List.mem_append_right _ hpart)
    refine hrest.bind fun last hlast values hvalues => Discipline.keeps_pure ?_
    exact List.forall_mem_cons.mpr ⟨containment.lasting hlast value hvalue, hvalues⟩

theorem keeps_evalSlots {slots : List (Option Expr)} {env : Environment}
    (ih : ∀ e, some e ∈ slots → containment.Evaluates e.free e.parts fun env => e.eval ask env)
    (henv : ∀ name ∈ freeOfSlots slots, containment.Binds world env name)
    (hwrites : containment.Writes (partsOfSlots slots)) :
  containment.Keeps world (evalSlots ask env slots) fun after values =>
    ∀ v, some v ∈ values → containment.holds after v
  := by
  induction slots generalizing world with
  | nil => exact Discipline.keeps_pure fun _ hv => nomatch hv
  | cons slot rest ihRest =>
    have ihRest' := fun {world} => @ihRest world fun e he => ih e (List.mem_cons_of_mem _ he)
    cases slot with
    | none =>
      exact (ihRest' henv hwrites).bind fun _ _ values hvalues =>
        Discipline.keeps_pure (by simpa using hvalues)
    | some expr =>
      simp only [freeOfSlots, partsOfSlots, List.mem_append] at henv hwrites
      have hfirst := ih expr List.mem_cons_self world env (fun name hname => henv name (.inl hname))
        fun part hpart => hwrites part (List.mem_append_left _ hpart)
      refine hfirst.bind fun after hgrows value hvalue => ?_
      have hrest := ihRest' (fun name hname => (henv name (.inr hname)).grow hgrows)
        fun part hpart => hwrites part (List.mem_append_right _ hpart)
      refine hrest.bind fun last hlast values hvalues => Discipline.keeps_pure fun v hv => ?_
      rw [List.mem_cons, Option.some.injEq] at hv
      obtain rfl | hv := hv
      · exact containment.lasting hlast v hvalue
      · exact hvalues v hv

/-- A declared variable has its value, the others have theirs. -/
theorem Binds.define {env : Environment} {name other : String} {value : Value}
    (hvalue : containment.holds world value)
    (h : other ≠ name → containment.Binds world env other) :
  containment.Binds world (env.define name value) other
  := by
  unfold Binds
  rw [Environment.lookup?_define]
  split
  next => exact ⟨fun _ e => Option.some.inj e ▸ hvalue, nofun⟩
  next hne => exact h hne

theorem keeps_exec {statement : Stmt} {env : Environment} {after : List String}
    (ih : containment.Evaluates statement.value.free statement.value.parts
      fun env => statement.value.eval ask env)
    (henv : ∀ name ∈ statement.value.free, containment.Binds world env name)
    (hafter : ∀ name ∈ after, Variables.has statement.declared name = false →
      containment.Binds world env name)
    (hwrites : containment.Writes statement.value.parts) :
  containment.Keeps world (statement.exec ask env) fun later env =>
    ∀ name ∈ after, containment.Binds later env name
  := by
  cases statement with
  | assign name type value =>
    refine (ih world env henv hwrites).bind fun later hgrows v hv => Discipline.keeps_pure ?_
    refine fun other hother => .define hv fun hne => (hafter other hother ?_).grow hgrows
    simpa [Stmt.declared, Variables.has] using Ne.symm hne
  | bare value =>
    refine (ih world env henv hwrites).bind fun later hgrows _ _ => Discipline.keeps_pure ?_
    exact fun other hother => (hafter other hother rfl).grow hgrows

theorem keeps_execStmts {statements : List Stmt} {after : List String} {env : Environment}
    (ih : ∀ s ∈ statements, containment.Evaluates s.value.free s.value.parts
      fun env => s.value.eval ask env)
    (henv : ∀ name ∈ freeOfStmts after statements, containment.Binds world env name)
    (hwrites : containment.Writes (partsOfStmts statements)) :
  containment.Keeps world (execStmts ask env statements) fun later env =>
    ∀ name ∈ after, containment.Binds later env name
  := by
  induction statements generalizing world env with
  | nil => exact Discipline.keeps_pure henv
  | cons statement rest ihRest =>
    rw [List.forall_mem_cons] at ih
    have hfirst : containment.Keeps world (statement.exec ask env) fun later env =>
        ∀ name ∈ freeOfStmts after rest, containment.Binds later env name := by
      refine keeps_exec ih.1 (fun name hname => henv name (mem_freeOfStmts.mpr (.inl hname)))
        (fun name hname hnew => henv name (mem_freeOfStmts.mpr (.inr ⟨hname, hnew⟩)))
        fun part hpart => hwrites part ?_
      exact mem_partsOfStmts.mpr ⟨statement, List.mem_cons_self, hpart⟩
    refine hfirst.bind fun later _ env' henv' => ihRest ih.2 henv' fun part hpart => hwrites part ?_
    obtain ⟨s, hs, hpart⟩ := mem_partsOfStmts.mp hpart
    exact mem_partsOfStmts.mpr ⟨s, List.mem_cons_of_mem _ hs, hpart⟩

include hask htolerant in
/-- Every tree keeps to the containment. -/
theorem evaluates :
  (∀ expr : Expr, containment.Evaluates expr.free expr.parts fun env => expr.eval ask env)
    ∧ ∀ block : Block, containment.Evaluates block.free block.parts fun env => block.eval ask env
  := by
  apply tree_induction
  case name =>
    intro type aliasing name world env henv _
    exact (reads_get (henv name (List.mem_singleton.mpr rfl))).keeps_self
  case literal =>
    intro type aliasing text world env _ hwrites
    exact hask world (.literal type text) ((hwrites _ List.mem_cons_self).2 text rfl)
  case list =>
    intro type aliasing items element ih world env henv hwrites
    have hitems := keeps_evalExprs ih henv fun part hpart =>
      hwrites part (List.mem_cons_of_mem _ hpart)
    exact hitems.bind fun _ _ _ hvalues => Discipline.keeps_pure (holds_list.mpr hvalues)
  case follow =>
    intro type aliasing receiver member ih world env henv hwrites
    have hreceiver := ih world env henv fun part hpart =>
      hwrites part (List.mem_cons_of_mem _ hpart)
    exact hreceiver.bind fun _ _ _ hvalue => (reads_follow htolerant hvalue member).keeps_self
  case call =>
    intro type aliasing function entity args chosen ih world env henv hwrites
    have hargs := keeps_evalExprs ih henv fun part hpart =>
      hwrites part (List.mem_cons_of_mem _ hpart)
    exact hargs.bind fun after _ values hvalues => hask after (.call entity values) hvalues
  case callValue =>
    intro type aliasing function args chosen ih ihs world env henv hwrites
    have hfunction := ih world env (fun name hname => henv name (List.mem_append_left _ hname))
      fun part hpart => hwrites part (List.mem_cons_of_mem _ (List.mem_append_left _ hpart))
    refine hfunction.bind fun after hgrows value hvalue => ?_
    refine (reads_callee htolerant hvalue).keeps fun binding hbinding => ?_
    have hargs := keeps_evalExprs ihs
      (fun name hname => (henv name (List.mem_append_right _ hname)).grow hgrows)
      fun part hpart => hwrites part (List.mem_cons_of_mem _ (List.mem_append_right _ hpart))
    exact hargs.bind fun last hlast values hvalues => hask.apply hbinding hlast hvalues
  case bind =>
    intro type aliasing function entity slots chosen ih world env henv hwrites
    have hslots := keeps_evalSlots ih henv fun part hpart =>
      hwrites part (List.mem_cons_of_mem _ hpart)
    refine hslots.bind fun _ _ values hvalues => Discipline.keeps_pure ?_
    exact holds_function.mpr ⟨nofun, hvalues⟩
  case bindValue =>
    intro type aliasing function slots chosen ih ihs world env henv hwrites
    have hfunction := ih world env (fun name hname => henv name (List.mem_append_left _ hname))
      fun part hpart => hwrites part (List.mem_cons_of_mem _ (List.mem_append_left _ hpart))
    refine hfunction.bind fun after hgrows value hvalue => ?_
    refine (reads_callee htolerant hvalue).keeps fun binding hbinding => ?_
    have hslots := keeps_evalSlots ihs
      (fun name hname => (henv name (List.mem_append_right _ hname)).grow hgrows)
      fun part hpart => hwrites part (List.mem_cons_of_mem _ (List.mem_append_right _ hpart))
    refine hslots.bind fun last hlast values hvalues => ?_
    have hfill := reads_fill htolerant (containment.lasting hlast _ hbinding) hvalues
    exact hfill.keeps fun _ hfilled => Discipline.keeps_pure hfilled
  case ifThen =>
    intro type aliasing condition thenBlock elseBlock ih ihThen ihElse world env henv hwrites
    have hcondition := ih world env (fun name hname => henv name (List.mem_append_left _ hname))
      fun part hpart => hwrites part (List.mem_cons_of_mem _ (List.mem_append_left _ hpart))
    refine hcondition.bind fun after hgrows value _ => reads_asBoolean.keeps fun holds _ => ?_
    have harms : ∀ name ∈ thenBlock.free ++ elseBlock.free, containment.Binds after env name :=
      fun name hname => (henv name (List.mem_append_right _ hname)).grow hgrows
    have hparts : containment.Writes (thenBlock.parts ++ elseBlock.parts) := fun part hpart =>
      hwrites part (List.mem_cons_of_mem _ (List.mem_append_right _ hpart))
    apply Discipline.keeps_ite
    · exact fun _ => ihThen after env (fun name hname => harms name (List.mem_append_left _ hname))
        fun part hpart => hparts part (List.mem_append_left _ hpart)
    · exact fun _ => ihElse after env (fun name hname => harms name (List.mem_append_right _ hname))
        fun part hpart => hparts part (List.mem_append_right _ hpart)
  case closure =>
    intro type aliasing site args captures output body _ world env henv hwrites
    have hclosure := (hwrites _ List.mem_cons_self).1 _ rfl
    refine (reads_bind hclosure fun c hc => henv c.name (List.mem_map_of_mem hc)).keeps ?_
    exact fun _ hbinding => Discipline.keeps_pure hbinding
  case block =>
    intro statements last ih ihLast world env henv hwrites
    have hstatements := keeps_execStmts ih (fun name hname => (henv name hname).push)
      fun part hpart => hwrites part (List.mem_append_left _ hpart)
    refine hstatements.bind fun after _ env' henv' => ?_
    exact ihLast after env' henv' fun part hpart => hwrites part (List.mem_append_right _ hpart)

end Expressions

/-! ### Bodies -/

/-- Whether a body may be run with values for arguments: it has no other free variables, unless
undefined variables are allowed, the closures that it writes may be contained, and the literals
asked for. -/
structure Runs (containment : Containment) (args : List Argument) (body : Block) : Prop where
  bound : ∀ name ∈ body.free, name ∉ args.map (·.name) →
    containment.allows (.undefinedVariable name)
  writes : containment.Writes body.parts

/-- What is run for a program: the bodies of its modules, and those of the closures that may be
contained. -/
structure RunsAll (containment : Containment) (program : Program) : Prop where
  tolerant : containment.Tolerant
  closures : ∀ closure, containment.closures closure →
    containment.Runs (closure.args ++ closure.captures) closure.body
  functions : ∀ {id module}, program.module.find? id = some module →
    ∀ function ∈ module.functions, containment.Runs function.args function.body
  requires : ∀ {id module}, program.module.find? id = some module →
    ∀ struct ∈ module.structs, ∀ block, struct.requires = some block →
      containment.Runs struct.members block

/-- Whether all that is run for a program may be run, all struct values may be made, and the
literals that may be asked for are decoded within the containment. -/
structure Hosts (containment : Containment) (program : Program) : Prop
    extends containment.RunsAll program where
  structs : ∀ header members, containment.structs header members
  decodes : ∀ {ask : Request → Eval Value}, containment.Answers ask → ∀ {world type text},
    containment.literals type text →
    containment.Keeps world (decode program ask type text) containment.holds

theorem Runs.binds {args : List Argument} {body : Block} (h : containment.Runs args body)
    {values : List Value} (hlength : args.length = values.length)
    (hvalues : ∀ v ∈ values, containment.holds world v) :
  ∀ name ∈ body.free,
    containment.Binds world (.ofBindings ((args.map (·.name)).zip values)) name
  := by
  intro name hname
  constructor
  · exact fun value hvalue => hvalues value (Environment.mem_of_lookup?_ofBindings hvalue)
  · intro hnone
    apply h.bound name hname
    exact Environment.not_mem_of_lookup?_ofBindings (by simpa using hlength) hnone

end Containment

/-! ### Struct values -/

/-- Whether members pass the `requires` block of a struct from a store, if it has one. -/
def Struct.Passes (ask : Request → Eval Value) (struct : Struct) (members : List Value)
    (store : Store) : Prop :=
  ∀ requires, struct.requires = some requires → ∃ after,
    (satisfies ask struct.toStructHeader requires members).outcome store = (.ok true, after)

/-- Whether answering a request from a store makes a struct value. -/
inductive Program.Builds (program : Program) (ask : Request → Eval Value) :
    Request → Store → StructHeader → List Value → Prop
  | native {entity : Entity} {header : StructHeader} {members : List Value} {store : Store} :
    entity.module.isNative = true →
    nativeDefinitions.struct? entity.id = some header →
    Builds program ask (.call entity members) store header members
  | construct {entity : Entity} {module : Module} {struct : Struct} {members : List Value}
      {store : Store} :
    entity.module.isNative = false →
    program.module.find? entity.module = some module →
    module.function? entity.id = none →
    module.struct? entity.id = some struct →
    struct.members.length = members.length →
    struct.Passes ask members store →
    Builds program ask (.call entity members) store struct.toStructHeader members
  | adapter {entity : Entity} {module : Module} {interface : Interface} {members : List Value}
      {store : Store} :
    entity.module.isNative = false →
    program.module.find? entity.module = some module →
    module.function? entity.id = none →
    module.struct? entity.id = none →
    module.interface? entity.id = none →
    module.adapterOwner? entity.id = some interface →
    Builds program ask (.call entity members) store interface.adapter members
  | literal {isReference : Bool} {entity : Entity} {written : Reference} {args : List Ty}
      {struct : Struct} {member : Argument} {text : String} {value : Value} {store after : Store} :
    entity ≠ Native.string.entity →
    program.struct? entity = some struct →
    struct.members = [member] →
    (ask (.literal (member.type.substitute (.ofParams struct.typeParams args)) text)).outcome store
      = (.ok value, after) →
    struct.Passes ask [value] after →
    Builds program ask (.literal (.named isReference entity written args) text) store
      struct.toStructHeader [value]

namespace Containment

variable {containment : Containment} {world : containment.World}

section Entities

variable {ask : Request → Eval Value} (hask : containment.Answers ask)

theorem keeps_callBody (htolerant : containment.Tolerant) {args : List Argument} {body : Block}
    {values : List Value} (hask : containment.Answers ask) (hbody : containment.Runs args body)
    (hlength : args.length = values.length) (h : ∀ v ∈ values, containment.holds world v) :
  containment.Keeps world (callBody ask args body values) containment.holds
  := (evaluates hask htolerant).2 body world _ (hbody.binds hlength h) hbody.writes

theorem keeps_satisfies (htolerant : containment.Tolerant) {header : StructHeader}
    {requires : Block} {members : List Value} (hask : containment.Answers ask)
    (hbody : containment.Runs header.members requires)
    (hlength : header.members.length = members.length)
    (h : ∀ v ∈ members, containment.holds world v) :
  containment.Keeps world (satisfies ask header requires members) fun _ _ => True
  := (keeps_callBody htolerant hask hbody hlength h).bind fun _ _ _ _ => reads_asBoolean.keeps_self

variable {program : Program} (hruns : containment.RunsAll program) {args : List Value}
  (h : ∀ a ∈ args, containment.holds world a)

include hask hruns h

theorem keeps_callFunction {function : Function}
    (hbody : containment.Runs function.args function.body) :
  containment.Keeps world (callFunction ask function args) containment.holds
  := hruns.tolerant.reads_checkArity.keeps fun _ hlength =>
    keeps_callBody hruns.tolerant hask hbody hlength h

/-- The constructor of a struct makes a value whose members pass the `requires` block. -/
theorem keepsAt_construct {struct : Struct} {store : Store} (hfits : containment.fits world store)
    (hrequires : ∀ block, struct.requires = some block → containment.Runs struct.members block)
    (hstructs : struct.members.length = args.length → struct.Passes ask args store →
      containment.structs struct.toStructHeader args) :
  containment.KeepsAt world store (construct ask struct args) containment.holds
  := by
  refine hruns.tolerant.reads_checkArity.keepsAt hfits fun _ hlength => ?_
  have hvalue : struct.Passes ask args store →
      containment.holds world (.struct struct.toStructHeader args) :=
    fun hpasses => holds_struct.mpr ⟨hstructs hlength hpasses, h⟩
  dsimp only
  split
  next hnone =>
    have hpasses : struct.Passes ask args store := fun _ hsome => nomatch hnone ▸ hsome
    exact (Discipline.keeps_pure (hvalue hpasses)).at hfits
  next requires hblock =>
    have hholds := keeps_satisfies hruns.tolerant hask (hrequires requires hblock) hlength h
    refine (hholds.at hfits).bind fun holds left houtcome after hgrows hafter _ => ?_
    cases holds with
    | false => exact (Discipline.keeps_pure holds_failure).at hafter
    | true =>
      have hpasses : struct.Passes ask args store := by
        intro block hsome
        rw [hblock] at hsome
        cases hsome
        exact ⟨left, houtcome⟩
      exact (Discipline.keeps_pure
        (holds_success.mpr (containment.lasting hgrows _ (hvalue hpasses)))).at hafter

omit hask hruns h in
theorem mem_fillFirst? {slots filled : List (Option Value)} {value v : Value}
    (h : Binding.fillFirst? value slots = some filled) (hv : some v ∈ filled) :
  v = value ∨ some v ∈ slots
  := by
  induction slots generalizing filled with
  | nil => cases h
  | cons slot rest ih =>
    cases slot with
    | none =>
      cases h
      exact (List.mem_cons.mp hv).imp Option.some.inj (List.mem_cons_of_mem _)
    | some first =>
      obtain ⟨others, hothers, rfl⟩ := Option.map_eq_some_iff.mp h
      obtain hv | hv := List.mem_cons.mp hv
      · exact .inr (hv ▸ List.mem_cons_self)
      · exact (ih hothers hv).imp_right (List.mem_cons_of_mem _)

omit hask h in
theorem reads_bindMethod {data member : Value} (hdata : containment.holds world data)
    (hmember : containment.holds world member) :
  containment.Reads (bindMethod data member) fun method =>
    containment.holds world (.function method)
  := by
  refine (reads_asBinding hmember).bind fun binding hbinding => ?_
  rw [holds_function] at hbinding
  split
  next bound hbound =>
    obtain ⟨slots, hslots, rfl⟩ := Option.map_eq_some_iff.mp hbound
    refine reads_pure (holds_function.mpr ⟨hbinding.1, fun v hv => ?_⟩)
    obtain rfl | hv := mem_fillFirst? hslots hv
    · exact hdata
    · exact hbinding.2 v hv
  next => exact reads_fail (hruns.tolerant _ rfl)

omit hask in
theorem reads_constructInstance {interface : Interface} :
  containment.Reads (constructInstance interface args) fun value => containment.holds world value
  := by
  unfold constructInstance
  split
  next data header members =>
    simp only [List.forall_mem_cons, holds_struct] at h
    have hmethods := reads_mapM fun member hmember =>
      reads_bindMethod hruns h.1 (h.2.1.2 member hmember)
    exact hmethods.bind fun methods hmethods => reads_pure (holds_object.mpr hmethods)
  next => exact reads_mismatch
  next => exact reads_fail (hruns.tolerant _ rfl)

omit hask in
theorem reads_constructOption {union : Union} {name : String} :
  containment.Reads (constructOption union name args) fun value => containment.holds world value
  := by
  unfold constructOption
  split
  next =>
    refine hruns.tolerant.reads_checkArity.bind fun _ _ => reads_pure ?_
    exact holds_union.mpr fun v hv => h v (List.mem_of_mem_head? hv)
  next => exact reads_fail (hruns.tolerant _ rfl)

theorem keeps_distinguish {union : Union} :
  containment.Keeps world (distinguish ask union args) containment.holds
  := by
  refine hruns.tolerant.reads_checkArity.keeps fun _ _ => ?_
  split
  next option payload handlers _ =>
    rw [List.forall_mem_cons, holds_union] at h
    split
    next handler hhandler =>
      refine (reads_asBinding (h.2 _ (List.mem_of_getElem? hhandler))).keeps fun f hf => ?_
      exact hask.apply hf (containment.refl world) fun v hv => h.1 v (Option.mem_toList.mp hv)
    next => exact Discipline.keeps_fail (hruns.tolerant _ rfl)
  next => exact Discipline.keeps_fail (hruns.tolerant _ rfl)

theorem keeps_native {function : NativeFunction} {fuel : Nat} :
  containment.Keeps world (function.run ask fuel args) containment.holds
  := NativeFunction.keeps_run hask fuel (fun _ _ => hruns.tolerant _ rfl) h

theorem keepsAt_evalNative {fuel : Nat} {entity : Entity} {store : Store}
    (hfits : containment.fits world store)
    (hstructs : ∀ header, nativeDefinitions.struct? entity.id = some header →
      containment.structs header args) :
  containment.KeepsAt world store (evalNative ask fuel entity args) containment.holds
  := by
  unfold evalNative
  split
  next header hheader =>
    exact keepsAt_construct hask hruns h hfits nofun fun _ _ => hstructs header hheader
  next =>
    split
    next => exact (keeps_native hask hruns h).at hfits
    next => exact (Discipline.keeps_fail (hruns.tolerant _ rfl)).at hfits

theorem keepsAt_evalEntity {fuel : Nat} {entity : Entity} {store : Store}
    (hfits : containment.fits world store)
    (hbuilds : ∀ header members, program.Builds ask (.call entity args) store header members →
      containment.structs header members) :
  containment.KeepsAt world store (evalEntity program ask fuel entity args) containment.holds
  := by
  unfold evalEntity
  split
  next hnative =>
    exact keepsAt_evalNative hask hruns h hfits fun header hheader =>
      hbuilds header args (.native hnative hheader)
  next hdeclared =>
    rw [Bool.not_eq_true] at hdeclared
    split
    next module hmodule =>
      unfold evalDeclared
      split
      next function hfunction =>
        split
        next => exact (keeps_native hask hruns h).at hfits
        next =>
          have hmem := List.mem_of_find?_eq_some hfunction
          exact (keeps_callFunction hask hruns h (hruns.functions hmodule function hmem)).at hfits
      next hfunction =>
        split
        next struct hstruct =>
          have hmem := List.mem_of_find?_eq_some hstruct
          refine keepsAt_construct hask hruns h hfits (hruns.requires hmodule struct hmem) ?_
          exact fun hlength hpasses => hbuilds struct.toStructHeader args
            (.construct hdeclared hmodule hfunction hstruct hlength hpasses)
        next hstruct =>
          split
          next => exact (reads_constructInstance hruns h).keeps_self.at hfits
          next hinterface =>
            split
            next interface howner =>
              have hstructs := hbuilds interface.adapter args
                (.adapter hdeclared hmodule hfunction hstruct hinterface howner)
              refine hruns.tolerant.reads_checkArity.keepsAt hfits fun _ _ => ?_
              exact (Discipline.keeps_pure (holds_struct.mpr ⟨hstructs, h⟩)).at hfits
            next =>
              split
              next =>
                exact (Discipline.keeps_ite (fun _ => keeps_distinguish hask hruns h)
                  fun _ => (reads_constructOption hruns h).keeps_self).at hfits
              next => exact (Discipline.keeps_fail (hruns.tolerant _ rfl)).at hfits
    next => exact (Discipline.keeps_fail (hruns.tolerant _ rfl)).at hfits

end Entities

/-! ### Answers -/

section Answers

variable {ask : Request → Eval Value} (hask : containment.Answers ask) {program : Program}

omit hask in
/-- A struct with a `requires` block is one of a module. -/
theorem exists_mem_of_struct? {entity : Entity} {struct : Struct} {block : Block}
    (h : program.struct? entity = some struct) (hblock : struct.requires = some block) :
  ∃ id module, program.module.find? id = some module ∧ struct ∈ module.structs
  := by
  unfold Program.struct? at h
  split at h
  next =>
    obtain ⟨header, -, rfl⟩ := Option.map_eq_some_iff.mp h
    cases hblock
  next =>
    obtain ⟨module, hmodule, hstruct⟩ := Option.bind_eq_some_iff.mp h
    exact ⟨_, module, hmodule, List.mem_of_find?_eq_some hstruct⟩

theorem RunsAll.requires_of_struct? (hruns : containment.RunsAll program) {entity : Entity}
    {struct : Struct} (h : program.struct? entity = some struct) :
  ∀ block, struct.requires = some block → containment.Runs struct.members block
  := by
  intro block hblock
  obtain ⟨id, module, hmodule, hmem⟩ := exists_mem_of_struct? h hblock
  exact hruns.requires hmodule struct hmem block hblock

theorem reads_primitiveLiteral (hlenient : containment.Lenient) {type : Ty} {literal : String}
    {value : Option Value} (h : ∀ v, value = some v → containment.holds world v) :
  containment.Reads (primitiveLiteral type literal value) fun v => containment.holds world v
  := by
  unfold primitiveLiteral
  split
  next v => exact reads_pure (h v rfl)
  next => exact reads_fail (hlenient.invalid _ _ _)

include hask

theorem keepsAt_decodeStruct (htolerant : containment.Tolerant) {struct : Struct}
    {member : Argument} {args : List Ty} {literal : String} {store : Store}
    (hfits : containment.fits world store)
    (hrequires : ∀ block, struct.requires = some block → containment.Runs struct.members block)
    (hmember : struct.members = [member])
    (hliteral : containment.literals (member.type.substitute (.ofParams struct.typeParams args))
      literal)
    (hstructs : ∀ value after,
      (ask (.literal (member.type.substitute (.ofParams struct.typeParams args)) literal)).outcome
        store = (.ok value, after) →
      struct.Passes ask [value] after → containment.structs struct.toStructHeader [value]) :
  containment.KeepsAt world store (decodeStruct ask struct member args literal) containment.holds
  := by
  have hvalue := (hask world (.literal _ literal) hliteral).at hfits
  refine hvalue.bind fun value between hvalue after _ hbetween hholds => ?_
  have hmembers : ∀ v ∈ [value], containment.holds after v := List.forall_mem_singleton.mpr hholds
  have hresult : struct.Passes ask [value] between → ∀ {later}, containment.grows after later →
      containment.holds later (.struct struct.toStructHeader [value]) :=
    fun hpasses _ hgrows =>
      holds_struct.mpr ⟨hstructs value between hvalue hpasses, lasting_all hgrows hmembers⟩
  dsimp only
  split
  next requires hblock =>
    have hlength : struct.members.length = [value].length := by simp [hmember]
    have hholds := keeps_satisfies htolerant hask (hrequires requires hblock) hlength hmembers
    refine (hholds.at hbetween).bind fun holds left houtcome later hgrows hlater _ => ?_
    cases holds with
    | false =>
      have hfail : containment.Keeps later
          (Eval.fail (.requiresFailed struct.id.text literal) : Eval PUnit) fun _ _ => False :=
        Discipline.keeps_fail (htolerant _ rfl)
      exact (hfail.bind fun _ _ _ hfalse => hfalse.elim).at hlater
    | true =>
      have hpasses : struct.Passes ask [value] between := by
        intro block hsome
        rw [hblock] at hsome
        cases hsome
        exact ⟨left, houtcome⟩
      exact (Discipline.keeps_pure (hresult hpasses hgrows)).at hlater
  next hnone =>
    have hpasses : struct.Passes ask [value] between :=
      fun requires hsome => absurd hsome (hnone requires)
    exact (Discipline.keeps_pure (hresult hpasses (containment.refl after))).at hbetween

theorem keepsAt_decode (hruns : containment.RunsAll program) (hlenient : containment.Lenient)
    {type : Ty} {literal : String} {store : Store} (hfits : containment.fits world store)
    (hbuilds : ∀ header members, program.Builds ask (.literal type literal) store header members →
      containment.structs header members) :
  containment.KeepsAt world store (decode program ask type literal) containment.holds
  := by
  have hnumber : ∀ {α : Type} (o : Option α) (make : α → Value),
      (∀ a, containment.holds world (make a)) →
      ∀ v, o.map make = some v → containment.holds world v := by
    intro α o make hmake v hv
    obtain ⟨a, -, rfl⟩ := Option.map_eq_some_iff.mp hv
    exact hmake a
  have hform : ∀ {type : Ty},
      containment.KeepsAt world store (failNoForm type literal) containment.holds :=
    fun {_} => (Discipline.keeps_fail (hlenient.invalid _ _ _)).at hfits
  unfold decode
  cases type <;> dsimp only
  case integer =>
    exact (reads_primitiveLiteral hlenient (hnumber _ _ holds_integer)).keeps_self.at hfits
  case natural =>
    exact (reads_primitiveLiteral hlenient (hnumber _ _ holds_natural)).keeps_self.at hfits
  case boolean =>
    exact (reads_primitiveLiteral hlenient (hnumber _ _ holds_boolean)).keeps_self.at hfits
  case list element =>
    split
    next => exact (Discipline.keeps_fail (hlenient.invalid _ _ _)).at hfits
    next items _ =>
      have hitems := @Discipline.keeps_mapM _ _ _ world (fun item => ask (.literal element item))
        items (fun world _ => containment.holds world) (fun hgrows _ => containment.lasting hgrows)
        fun after _ item _ => hask after (.literal element item) (hlenient.literals _ _)
      refine (hitems.bind fun _ _ values hvalues => ?_).at hfits
      refine Discipline.keeps_pure (holds_list.mpr fun v hv => ?_)
      exact (exists_related_left hvalues hv).elim fun _ h => h.2
  case tryOf inner =>
    unfold decodeTry
    have hfailure : containment.Keeps world (pure .failure) containment.holds :=
      Discipline.keeps_pure holds_failure
    refine (Discipline.keeps_ite (fun _ => hfailure) fun _ => ?_).at hfits
    split
    next =>
      exact (hask world (.literal inner _) (hlenient.literals _ _)).bind fun _ _ _ hv =>
        Discipline.keeps_pure (holds_success.mpr hv)
    next => exact Discipline.keeps_fail (hlenient.invalid _ _ _)
  case named isReference entity written args =>
    split
    next => exact (Discipline.keeps_pure (holds_string literal)).at hfits
    next hentity =>
      split
      next => exact hform
      next struct hstruct =>
        split
        next member hmember =>
          refine keepsAt_decodeStruct hask hruns.tolerant hfits (hruns.requires_of_struct? hstruct)
            hmember (hlenient.literals _ _) fun value after hvalue hpasses => ?_
          exact hbuilds _ _ (.literal hentity hstruct hmember hvalue hpasses)
        next => exact hform
  all_goals exact hform

omit hask in
/-- Where any text may be asked for as a literal and all struct values may be made, it is enough
that all bodies may be run. -/
theorem RunsAll.lenient (hruns : containment.RunsAll program) (hlenient : containment.Lenient)
    (hstructs : ∀ header members, containment.structs header members) :
  containment.Hosts program
  := { hruns with
    structs := hstructs
    decodes := fun hask _ _ _ _ _ hfits =>
      keepsAt_decode hask hruns hlenient hfits fun _ _ _ => hstructs _ _ }

variable (hruns : containment.RunsAll program)

include hruns

theorem keeps_applyBinding {binding : Binding} {args : List Value}
    (hbinding : containment.holds world (.function binding))
    (h : ∀ a ∈ args, containment.holds world a) :
  containment.Keeps world (applyBinding ask binding args) containment.holds
  := by
  refine (reads_fill hruns.tolerant hbinding (by simpa using h)).keeps fun filled hfilled => ?_
  rw [holds_function] at hfilled
  split
  next => exact Discipline.keeps_fail (hruns.tolerant _ rfl)
  next values hvalues =>
    have hslots : ∀ v ∈ values, containment.holds world v := by
      intro v hv
      rw [Binding.arguments?, mapM_id_eq_some] at hvalues
      exact hfilled.2 v (hvalues ▸ List.mem_map_of_mem hv)
    split
    next entity htarget => exact hask world (.call entity values) hslots
    next closure htarget =>
      have hbody := hruns.closures closure (hfilled.1 closure htarget)
      exact hruns.tolerant.reads_checkArity.keeps fun _ hlength =>
        keeps_callBody hruns.tolerant hask hbody hlength hslots

/-- One step of evaluation from a store keeps to the containment if the answers that it asks for do
and the struct values that it makes may be made. -/
theorem keepsAt_step (hlenient : containment.Lenient) {request : Request} {store : Store}
    (hfits : containment.fits world store) (hasked : containment.Asked world request)
    (hbuilds : ∀ header members, program.Builds ask request store header members →
      containment.structs header members) (fuel : Nat) :
  containment.KeepsAt world store (program.step fuel ask request) containment.holds
  := by
  cases request with
  | call entity args => exact (keepsAt_evalEntity hask hruns hasked hfits hbuilds).inFrame
  | apply binding args => exact (keeps_applyBinding hask hruns hasked.1 hasked.2).at hfits
  | literal type text => exact keepsAt_decode hask hruns hlenient hfits hbuilds

omit hask hruns

variable (hhosts : containment.Hosts program)

include hhosts

/-- One step of evaluation keeps to the containment if the answers that it asks for do. -/
theorem answers_step (hask : containment.Answers ask) (fuel : Nat) :
  containment.Answers (program.step fuel ask)
  := by
  intro world request hasked
  cases request with
  | call entity args =>
    exact fun _ hfits => (keepsAt_evalEntity hask hhosts.toRunsAll hasked hfits
      fun _ _ _ => hhosts.structs _ _).inFrame
  | apply binding args => exact keeps_applyBinding hask hhosts.toRunsAll hasked.1 hasked.2
  | literal type text => exact hhosts.decodes hask hasked

/-- All that a program answers keeps to the containment. -/
theorem answers_program (fuel : Nat) :
  containment.Answers (program.answer fuel)
  := by
  induction fuel with
  | zero => exact fun _ _ _ => Discipline.keeps_outOfFuel
  | succ fuel ih => exact answers_step hhosts ih fuel

end Answers

end Containment
end TypedModules
