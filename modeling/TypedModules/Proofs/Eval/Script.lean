import Mathlib.Data.Fintype.EquivFin
import TypedModules.Proofs.Eval.Closures
import TypedModules.Proofs.Eval.Contained
import TypedModules.Proofs.Eval.Dispatch
import TypedModules.Proofs.Typing.Induction

/-!
# Evaluation asks for one thing after another

What an evaluation does between two requests depends on nothing but the answers so far: neither on
the store, nor on anything else about the answers.  So it follows a `Script`, which tells what is
asked for first and, for each answer, how it goes on.  `Scripted` is read along everything of which
evaluations are made, from expressions and native functions up to the answer to a request that is
no call of a function of list builders: `scripted_body`.
-/

namespace TypedModules

/-- What an evaluation does: it ends, or asks for something and goes on with the answer. -/
inductive Script (α : Type) where
  | done (result : Except Halt α)
  | ask (request : Request) (next : Value → Script α)

namespace Script

variable {α β : Type}

/-- The evaluation that follows a script.  It ends when an answer does. -/
def run (ask : Request → Eval Value) : Script α → Eval α
  | .done result => fun store => (result, store)
  | .ask request next => do
    let answer ← ask request
    (next answer).run ask

/-- What is asked for, each with the store that is there by then, in order: nothing more is after
an answer that is no value. -/
def asked (ask : Request → Eval Value) : Script α → Store → List (Request × Store)
  | .done _, _ => []
  | .ask request next, store =>
    (request, store) :: match (ask request).outcome store with
      | (.ok answer, after) => (next answer).asked ask after
      | (.error _, _) => []

/-- The script that goes on with another once it ends with a value. -/
def bind (next : α → Script β) : Script α → Script β
  | .done (.ok a) => next a
  | .done (.error halt) => .done (.error halt)
  | .ask request after => .ask request fun answer => (after answer).bind next

theorem run_bind (ask : Request → Eval Value) (script : Script α) (next : α → Script β) :
  (script.bind next).run ask = script.run ask >>= fun a => (next a).run ask
  := by
  induction script with
  | done result => cases result <;> rfl
  | ask request after ih =>
    simp only [bind, run, bind_assoc]
    congr
    funext answer
    exact ih answer

theorem outcome_run_ask (ask : Request → Eval Value) (request : Request)
    (next : Value → Script α) (store : Store) :
  ((Script.ask request next).run ask).outcome store = match (ask request).outcome store with
    | (.ok answer, after) => ((next answer).run ask).outcome after
    | (.error halt, after) => (.error halt, after)
  := by
  rw [run, Discipline.outcome_bind]
  rcases (ask request).outcome store with ⟨_ | _, _⟩ <;> rfl

/-- Nothing matters about the answers but those to what is asked for. -/
theorem outcome_run_congr {ask other : Request → Eval Value} {script : Script α} {store : Store}
    (h : ∀ p ∈ script.asked ask store, (other p.1).outcome p.2 = (ask p.1).outcome p.2) :
  (script.run other).outcome store = (script.run ask).outcome store
  := by
  induction script generalizing store with
  | done result => rfl
  | ask request next ih =>
    rw [asked, List.forall_mem_cons] at h
    rw [outcome_run_ask, outcome_run_ask, h.1]
    rcases e : (ask request).outcome store with ⟨_ | answer, after⟩
    · rfl
    · rw [e] at h
      apply ih answer h.2

/-- A store at which nothing of a list is asked for. -/
theorem exists_fresh (asked : List (Request × Store)) :
  ∃ store : Store, ∀ p ∈ asked, p.2 ≠ store
  := by
  classical
  have hinfinite : Infinite Store := by
    apply Infinite.of_injective fun n : Nat => (⟨Array.replicate n #[]⟩ : Store)
    intro m n h
    simpa [Store.next] using congrArg Store.next h
  obtain ⟨store, hstore⟩ := Infinite.exists_notMem_finset (asked.map Prod.snd).toFinset
  use store
  rintro p hp rfl
  exact hstore (by simpa using ⟨p.1, hp⟩)

/-- What ends at once does not do the same as what asks for something. -/
theorem exists_run_done_ne (result : Except Halt α) (request : Request)
    (next : Value → Script α) :
  ∃ answers, (done result).run answers ≠ (ask request next).run answers
  := by
  use fun _ _ => (.error .outOfFuel, ⟨#[#[]]⟩)
  exact fun h => nomatch (Prod.mk.inj (congrFun h {})).2

/-- What is asked for first is told apart by answers that leave stores of their own. -/
theorem request_eq_of_run_eq {request request' : Request} {next next' : Value → Script α}
    (h : ∀ answers, (ask request next).run answers = (ask request' next').run answers) :
  request = request'
  := by
  classical
  by_contra hne
  let left : Request → Store := fun r => if r = request then {} else ⟨#[#[]]⟩
  have hleft : left request = left request' :=
    (Prod.mk.inj (congrFun (h fun r _ => (.error .outOfFuel, left r)) {})).2
  simp only [left, if_pos, if_neg (Ne.symm hne)] at hleft
  cases hleft

/-- What follows the first answer is the same, as that answer may be given at a store that is not
there any more. -/
theorem run_next_eq_of_run_eq {request : Request} {next next' : Value → Script α}
    (h : ∀ answers, (ask request next).run answers = (ask request next').run answers)
    (answer : Value) (answers : Request → Eval Value) :
  (next answer).run answers = (next' answer).run answers
  := by
  classical
  funext store
  obtain ⟨fresh, hfresh⟩ := exists_fresh
    ((next answer).asked answers store ++ (next' answer).asked answers store)
  rw [List.forall_mem_append] at hfresh
  let other : Request → Eval Value := fun r s =>
    if s = fresh then (.ok answer, store) else answers r s
  have hother : ∀ next : Value → Script α,
      (∀ p ∈ (next answer).asked answers store, p.2 ≠ fresh) →
      ((ask request next).run other).outcome fresh
        = ((next answer).run answers).outcome store := by
    intro next hnext
    have hanswer : (other request).outcome fresh = (.ok answer, store) := if_pos rfl
    rw [outcome_run_ask, hanswer]
    exact outcome_run_congr fun p hp => if_neg (hnext p hp)
  calc ((next answer).run answers).outcome store
    _ = ((ask request next).run other).outcome fresh := (hother next hfresh.1).symm
    _ = ((ask request next').run other).outcome fresh := by rw [h other]
    _ = ((next' answer).run answers).outcome store := hother next' hfresh.2

/-- An evaluation follows one script only. -/
theorem eq_of_run_eq {script other : Script α}
    (h : ∀ answers, script.run answers = other.run answers) :
  script = other
  := by
  induction script generalizing other with
  | done result =>
    cases other with
    | done result' =>
      have hresult := congrFun (h fun _ => throw .outOfFuel) {}
      exact congrArg done (Prod.mk.inj hresult).1
    | ask request' next' =>
      obtain ⟨answers, hne⟩ := exists_run_done_ne result request' next'
      exact absurd (h answers) hne
  | ask request next ih =>
    cases other with
    | done result' =>
      obtain ⟨answers, hne⟩ := exists_run_done_ne result' request next
      exact absurd (h answers).symm hne
    | ask request' next' =>
      obtain rfl := request_eq_of_run_eq h
      congr
      funext answer
      apply ih answer (run_next_eq_of_run_eq h answer)

theorem asked_bind (answers : Request → Eval Value) (script : Script α) (next : α → Script β)
    (store : Store) :
  (script.bind next).asked answers store
    = script.asked answers store ++ match (script.run answers).outcome store with
      | (.ok a, after) => (next a).asked answers after
      | (.error _, _) => []
  := by
  induction script generalizing store with
  | done result => cases result <;> rfl
  | ask request after ih =>
    rw [bind, asked, asked, outcome_run_ask, List.cons_append]
    rcases (answers request).outcome store with ⟨_ | answer, left⟩
    · rfl
    · exact congrArg ((request, store) :: ·) (ih answer left)

end Script

/-- Whether an evaluation follows a script, whatever the answers are. -/
def Scripted {α : Type} (run : (Request → Eval Value) → Eval α) : Prop :=
  ∃ script : Script α, ∀ ask, run ask = script.run ask

/-- Whether an evaluation that starts with a store asks for what is listed, each with the store
that is there by then, and for nothing else. -/
def AsksFor {α : Type} (run : (Request → Eval Value) → Eval α) (ask : Request → Eval Value)
    (store : Store) (asked : List (Request × Store)) : Prop :=
  ∃ script : Script α, (∀ ask, run ask = script.run ask) ∧ script.asked ask store = asked

section Scripted

variable {α β : Type}

theorem Scripted.exists_asksFor {run : (Request → Eval Value) → Eval α} (h : Scripted run)
    (ask : Request → Eval Value) (store : Store) :
  ∃ asked, AsksFor run ask store asked
  := by
  obtain ⟨script, hscript⟩ := h
  use script.asked ask store, script, hscript

theorem AsksFor.unique {run : (Request → Eval Value) → Eval α} {ask : Request → Eval Value}
    {store : Store} {asked asked' : List (Request × Store)} (h : AsksFor run ask store asked)
    (h' : AsksFor run ask store asked') :
  asked = asked'
  := by
  obtain ⟨script, hscript, rfl⟩ := h
  obtain ⟨script', hscript', rfl⟩ := h'
  rw [Script.eq_of_run_eq fun ask => (hscript ask).symm.trans (hscript' ask)]

theorem scripted_pure (a : α) :
  Scripted fun _ => pure a
  := ⟨.done (.ok a), fun _ => rfl⟩

theorem scripted_fail (cause : EvalCause) :
  Scripted fun _ => (.fail cause : Eval α)
  := ⟨.done (.error (.error { cause := cause })), fun _ => rfl⟩

theorem scripted_outOfFuel :
  Scripted fun _ => (throw .outOfFuel : Eval α)
  := ⟨.done (.error .outOfFuel), fun _ => rfl⟩

theorem scripted_ask (request : Request) :
  Scripted fun ask => ask request
  := ⟨.ask request fun answer => .done (.ok answer), fun ask => (bind_pure (ask request)).symm⟩

theorem Scripted.bind {first : (Request → Eval Value) → Eval α}
    {next : α → (Request → Eval Value) → Eval β} (h : Scripted first)
    (hnext : ∀ a, Scripted (next a)) :
  Scripted fun ask => first ask >>= fun a => next a ask
  := by
  obtain ⟨script, hscript⟩ := h
  choose scripts hscripts using hnext
  use script.bind scripts
  intro ask
  simp only [Script.run_bind, hscript, hscripts]

theorem Scripted.ite {c : Prop} [Decidable c] {yes no : (Request → Eval Value) → Eval α}
    (hyes : Scripted yes) (hno : Scripted no) :
  Scripted fun ask => if c then yes ask else no ask
  := by
  by_cases h : c
  · simpa only [if_pos h] using hyes
  · simpa only [if_neg h] using hno

theorem scripted_mapM {run : α → (Request → Eval Value) → Eval β} {items : List α}
    (h : ∀ item ∈ items, Scripted (run item)) :
  Scripted fun ask => items.mapM fun item => run item ask
  := by
  induction items with
  | nil => exact scripted_pure []
  | cons item rest ih =>
    rw [List.forall_mem_cons] at h
    simp only [List.mapM_cons]
    exact h.1.bind fun b => (ih h.2).bind fun bs => scripted_pure (b :: bs)

/-! ### Reading -/

/-- The containment that forbids nothing. -/
def Containment.free : Containment :=
  Watch.containment {
    closures := fun _ => True
    allows := fun _ => True
    mismatch := fun _ _ => trivial
    member := fun _ _ => trivial
    assumed := trivial }

theorem Containment.holds_free {world : free.World} (value : Value) :
  free.holds world value
  := (holds_of_forall fun _ => trivial).1 value

theorem Containment.runsAll_free (program : Program) :
  free.RunsAll program
  := by
  have hruns : ∀ {args : List Argument} {body : Block}, free.Runs args body :=
    fun {_ _} => ⟨fun _ _ _ => trivial, fun _ _ => ⟨fun _ _ => trivial, fun _ _ => trivial⟩⟩
  constructor
  case tolerant => exact fun _ _ => trivial
  case closures => exact fun _ _ => hruns
  case functions => exact fun _ _ _ => hruns
  case requires => exact fun _ _ _ _ _ => hruns

/-- What reads no more than its values asks for nothing. -/
theorem scripted_of_reads {run : Eval α} {wanted : α → Prop}
    (h : Containment.free.Reads run wanted) :
  Scripted fun _ => run
  := by
  obtain ⟨a, rfl, -⟩ | ⟨cause, rfl, -⟩ := h
  · exact scripted_pure a
  · exact scripted_fail cause

end Scripted

section Readings

variable {value : Value}

theorem scripted_asBoolean :
  Scripted fun _ => value.asBoolean
  := scripted_of_reads Containment.reads_asBoolean

theorem scripted_asNatural :
  Scripted fun _ => value.asNatural
  := scripted_of_reads Containment.reads_asNatural

theorem scripted_asList :
  Scripted fun _ => value.asList
  := scripted_of_reads (@Containment.reads_asList _ () _ (Containment.holds_free _))

theorem scripted_asBinding :
  Scripted fun _ => value.asBinding
  := scripted_of_reads (@Containment.reads_asBinding _ () _ (Containment.holds_free _))

theorem scripted_callee :
  Scripted fun _ => value.callee
  := scripted_of_reads
    (@Containment.reads_callee _ () (fun _ _ => trivial) _ (Containment.holds_free _))

theorem scripted_checkArity (name : String) (expected got : Nat) :
  Scripted fun _ => Eval.checkArity name expected got
  := scripted_of_reads (Containment.reads_checkArity fun _ => trivial)

theorem scripted_fill (binding : Binding) (values : List (Option Value)) :
  Scripted fun _ => binding.fill values
  := scripted_of_reads (@Containment.reads_fill _ () (fun _ _ => trivial) _ _
    (Containment.holds_free _) fun _ _ => Containment.holds_free _)

theorem Containment.binds_free {world : free.World} (env : Environment) (name : String) :
  free.Binds world env name
  := ⟨fun _ _ => holds_free _, fun _ => trivial⟩

end Readings

/-! ### Expressions -/

theorem scripted_evalExprs {exprs : List Expr} {env : Environment}
    (h : ∀ e ∈ exprs, Scripted fun ask => e.eval ask env) :
  Scripted fun ask => evalExprs ask env exprs
  := by
  induction exprs with
  | nil => exact scripted_pure []
  | cons expr rest ih =>
    rw [List.forall_mem_cons] at h
    exact h.1.bind fun value => (ih h.2).bind fun values => scripted_pure (value :: values)

theorem scripted_evalSlots {slots : List (Option Expr)} {env : Environment}
    (h : ∀ e, some e ∈ slots → Scripted fun ask => e.eval ask env) :
  Scripted fun ask => evalSlots ask env slots
  := by
  induction slots with
  | nil => exact scripted_pure []
  | cons slot rest ih =>
    have hrest := ih fun e he => h e (List.mem_cons_of_mem _ he)
    cases slot with
    | none => exact hrest.bind fun values => scripted_pure (none :: values)
    | some expr =>
      refine (h expr List.mem_cons_self).bind fun value => hrest.bind fun values => ?_
      exact scripted_pure (some value :: values)

theorem scripted_execStmts {statements : List Stmt} {env : Environment}
    (h : ∀ s ∈ statements, ∀ env, Scripted fun ask => s.value.eval ask env) :
  Scripted fun ask => execStmts ask env statements
  := by
  induction statements generalizing env with
  | nil => exact scripted_pure env
  | cons statement rest ih =>
    rw [List.forall_mem_cons] at h
    have hfirst : Scripted fun ask => statement.exec ask env := by
      cases statement with
      | assign name type value => exact (h.1 env).bind fun v => scripted_pure (env.define name v)
      | bare value => exact (h.1 env).bind fun _ => scripted_pure env
    exact hfirst.bind fun env => ih h.2

/-- The evaluation of an expression or a block follows a script. -/
theorem scripted_eval :
  (∀ (expr : Expr) (env : Environment), Scripted fun ask => expr.eval ask env)
    ∧ ∀ (block : Block) (env : Environment), Scripted fun ask => block.eval ask env
  := by
  apply tree_induction
  case name =>
    exact fun type aliasing name env =>
      scripted_of_reads (@Containment.reads_get _ () _ _ (Containment.binds_free env name))
  case literal => exact fun type aliasing text env => scripted_ask (.literal type text)
  case list =>
    intro type aliasing items element ih env
    exact (scripted_evalExprs fun e he => ih e he env).bind fun values =>
      scripted_pure _
  case follow =>
    intro type aliasing receiver member ih env
    exact (ih env).bind fun value => scripted_of_reads
      (@Containment.reads_follow _ () (fun _ _ => trivial) _ (Containment.holds_free _) member)
  case call =>
    intro type aliasing function entity args chosen ih env
    exact (scripted_evalExprs fun e he => ih e he env).bind fun values =>
      scripted_ask (.call entity values)
  case callValue =>
    intro type aliasing function args chosen ih ihs env
    refine (ih env).bind fun value => scripted_callee.bind fun binding => ?_
    exact (scripted_evalExprs fun e he => ihs e he env).bind fun values =>
      scripted_ask (.apply binding values)
  case bind =>
    intro type aliasing function entity slots chosen ih env
    exact (scripted_evalSlots fun e he => ih e he env).bind fun values =>
      scripted_pure _
  case bindValue =>
    intro type aliasing function slots chosen ih ihs env
    refine (ih env).bind fun value => scripted_callee.bind fun binding => ?_
    refine (scripted_evalSlots fun e he => ihs e he env).bind fun values => ?_
    exact (scripted_fill binding values).bind fun filled => scripted_pure _
  case ifThen =>
    intro type aliasing condition thenBlock elseBlock ih ihThen ihElse env
    refine (ih env).bind fun value => scripted_asBoolean.bind fun holds => ?_
    exact (ihThen env).ite (ihElse env)
  case closure =>
    intro type aliasing site args captures output body _ env
    have hbind := @Containment.reads_bind Containment.free () (.mk site args captures output body)
      env trivial fun c _ => Containment.binds_free env c.name
    exact (scripted_of_reads hbind).bind fun binding => scripted_pure _
  case block =>
    intro statements last ih ihLast env
    exact (scripted_execStmts ih).bind fun env => ihLast env

/-! ### Native functions -/

namespace NativeFunction

section Loops

variable (f : Binding) {items : List Value} {value : Value}

theorem scripted_apply (args : List Value) :
  Scripted fun ask => ask (.apply f args)
  := scripted_ask (.apply f args)

theorem scripted_mapItems :
  Scripted fun ask => mapItems (ask <| .apply f ·) items
  := by
  induction items with
  | nil => exact scripted_pure []
  | cons item rest ih =>
    exact (scripted_apply f [item]).bind fun first => ih.bind fun others =>
      scripted_pure (first :: others)

theorem scripted_flatMapItems :
  Scripted fun ask => flatMapItems (ask <| .apply f ·) items
  := by
  induction items with
  | nil => exact scripted_pure []
  | cons item rest ih =>
    refine (scripted_apply f [item]).bind fun list => scripted_asList.bind fun first => ?_
    exact ih.bind fun others => scripted_pure (first ++ others)

theorem scripted_filterItems :
  Scripted fun ask => filterItems (ask <| .apply f ·) items
  := by
  induction items with
  | nil => exact scripted_pure []
  | cons item rest ih =>
    refine (scripted_apply f [item]).bind fun value => scripted_asBoolean.bind fun keep => ?_
    exact ih.bind fun kept => scripted_pure (if keep then item :: kept else kept)

theorem scripted_reduceItems :
  Scripted fun ask => reduceItems (ask <| .apply f ·) value items
  := by
  induction items generalizing value with
  | nil => exact scripted_pure value
  | cons item rest ih => exact (scripted_apply f [value, item]).bind fun _ => ih

theorem scripted_iterate {n : Nat} :
  Scripted fun ask => iterate (ask <| .apply f ·) n value
  := by
  induction n generalizing value with
  | zero => exact scripted_pure value
  | succ n ih => exact (scripted_apply f [value]).bind fun _ => ih

theorem scripted_search (holds : Binding) {fuel : Nat} :
  Scripted fun ask => search (ask <| .apply f ·) (ask <| .apply holds ·) fuel value
  := by
  induction fuel generalizing value with
  | zero => exact scripted_outOfFuel
  | succ fuel ih =>
    refine (scripted_apply holds [value]).bind fun found => scripted_asBoolean.bind fun stop => ?_
    exact (scripted_pure value).ite ((scripted_apply f [value]).bind fun _ => ih)

end Loops

theorem not_isHigherOrder {function : NativeFunction} (h : function.isBuilder = true) :
  function.isHigherOrder = false
  := by
  cases function <;> first | rfl | cases h

/-- What a native function that calls no others makes of its arguments is up to them alone. -/
theorem run_congr {function : NativeFunction} (h : function.isHigherOrder = false)
    (ask other : Request → Eval Value) (fuel fuel' : Nat) (args : List Value) :
  function.run ask fuel args = function.run other fuel' args
  := by
  cases function
  case listMap | listFlatMap | listFilter | listReduce => cases h
  case tryMap | tryFlatMap | sequenceGet | sequenceFirst => cases h
  all_goals rfl

/-- The value of a native function follows a script, if the function has nothing to do with list
builders. -/
theorem scripted_run (fuel : Nat) {function : NativeFunction} (h : function.isBuilder = false)
    (args : List Value) :
  Scripted fun ask => function.run ask fuel args
  := by
  have hholds : ∀ a ∈ args, Containment.free.holds () a := fun _ _ => Containment.holds_free _
  by_cases hhigher : function.isHigherOrder = false
  · have hreads := reads_run (fun _ => throw .outOfFuel) fuel h hhigher (fun _ _ => trivial) hholds
    simp only [run_congr hhigher _ (fun _ => throw .outOfFuel) fuel fuel]
    exact scripted_of_reads hreads
  have htwo : ∀ function : NativeFunction, Scripted fun _ => function.twoArguments args :=
    fun _ => scripted_of_reads (reads_twoArguments hholds fun _ _ => trivial)
  have hlist : ∀ function : NativeFunction, Scripted fun _ => function.listAndFunction args :=
    fun _ => scripted_of_reads (reads_listAndFunction hholds fun _ _ => trivial)
  have htry : ∀ function : NativeFunction, Scripted fun _ => function.tryAndFunction args :=
    fun _ => scripted_of_reads (reads_tryAndFunction hholds fun _ _ => trivial)
  have hparts : ∀ sequence, Scripted fun _ => sequenceParts sequence := fun sequence =>
    scripted_of_reads (@reads_sequenceParts _ () sequence (Containment.holds_free _))
  cases function
  case listMap =>
    exact (hlist _).bind fun (items, f) => (scripted_mapItems f).bind fun _ => scripted_pure _
  case listFlatMap =>
    exact (hlist _).bind fun (items, f) => (scripted_flatMapItems f).bind fun _ => scripted_pure _
  case listFilter =>
    exact (hlist _).bind fun (items, f) => (scripted_filterItems f).bind fun _ => scripted_pure _
  case listReduce =>
    refine (scripted_of_reads (reads_threeArguments hholds fun _ _ => trivial)).bind ?_
    exact fun (list, start, f) => scripted_asBinding.bind fun f => scripted_asList.bind fun items =>
      scripted_reduceItems f
  case tryMap =>
    refine (htry _).bind fun (value, f) => ?_
    cases value with
    | none => exact scripted_pure _
    | some v => exact (scripted_apply f [v]).bind fun _ => scripted_pure _
  case tryFlatMap =>
    refine (htry _).bind fun (value, f) => ?_
    cases value with
    | none => exact scripted_pure _
    | some v => exact scripted_apply f [v]
  case sequenceGet =>
    exact (htwo _).bind fun (sequence, n) => (hparts sequence).bind fun (base, next) =>
      scripted_asNatural.bind fun n => scripted_iterate next
  case sequenceFirst =>
    exact (htwo _).bind fun (sequence, holds) => (hparts sequence).bind fun (base, next) =>
      scripted_asBinding.bind fun holds => scripted_search next holds
  case builderCreate | builderAppend | builderAppendAll | builderBuild => cases h
  all_goals exact absurd rfl hhigher

end NativeFunction

/-! ### Programs -/

theorem scripted_callBody (args : List Argument) (body : Block) (values : List Value) :
  Scripted fun ask => callBody ask args body values
  := scripted_eval.2 body _

theorem scripted_satisfies (header : StructHeader) (requires : Block) (members : List Value) :
  Scripted fun ask => satisfies ask header requires members
  := (scripted_eval.2 requires _).bind fun _ => scripted_asBoolean

theorem scripted_construct (struct : Struct) (args : List Value) :
  Scripted fun ask => construct ask struct args
  := by
  refine (scripted_checkArity _ _ _).bind fun _ => ?_
  cases struct.requires with
  | none => exact scripted_pure _
  | some requires =>
    exact (scripted_satisfies _ requires args).bind fun holds =>
      (scripted_pure _).ite (scripted_pure _)

theorem scripted_distinguish (union : Union) (args : List Value) :
  Scripted fun ask => distinguish ask union args
  := by
  unfold distinguish
  refine (scripted_checkArity _ _ _).bind fun _ => ?_
  split
  next option payload handlers =>
    split
    next handler _ =>
      exact scripted_asBinding.bind fun f => NativeFunction.scripted_apply f payload.toList
    next => exact scripted_fail _
  next => exact scripted_fail _

/-- The native function that is run for calls of an entity. -/
def Program.native? (program : Program) (entity : Entity) : Option NativeFunction :=
  if entity.module.isNative then
    if (nativeDefinitions.struct? entity.id).isSome then none else NativeFunction.ofId? entity.id
  else
    (program.module.find? entity.module).bind fun module =>
      (module.function? entity.id).bind fun _ => program.override? entity

theorem evalEntity_of_native? {program : Program} {entity : Entity} {function : NativeFunction}
    (h : program.native? entity = some function) (ask : Request → Eval Value) (fuel : Nat)
    (args : List Value) :
  evalEntity program ask fuel entity args = function.run ask fuel args
  := by
  unfold Program.native? at h
  unfold evalEntity evalNative evalDeclared
  split at h
  next hnative =>
    split at h
    next => cases h
    next hstruct =>
      rw [Option.not_isSome_iff_eq_none] at hstruct
      rw [if_pos hnative, hstruct, h]
  next hnative =>
    obtain ⟨module, hmodule, h⟩ := Option.bind_eq_some_iff.mp h
    obtain ⟨own, hown, h⟩ := Option.bind_eq_some_iff.mp h
    simp only [if_neg hnative, hmodule, hown, h]

theorem Program.native?_entity (program : Program) (function : NativeFunction) :
  program.native? function.entity = some function
  := by
  have hstruct : (nativeDefinitions.struct? function.entity.id).isSome = false := by
    cases function <;> decide +kernel
  have hnative : function.entity.module.isNative = true :=
    show nativeModule.isNative = true by decide
  rw [native?, if_pos hnative, hstruct]
  exact function.ofId?_id

/-- Calling a native function by its entity is running it, but that an error leaves the entity. -/
theorem answer_native (program : Program) (fuel : Nat) (function : NativeFunction)
    (args : List Value) :
  program.answer (fuel + 1) (.call function.entity args)
    = .inFrame function.entity (program.runNative fuel function args)
  := by
  show Eval.inFrame function.entity (evalEntity program _ fuel function.entity args) = _
  rw [evalEntity_of_native? (program.native?_entity function)]
  rfl

/-- The evaluation of an entity follows a script, unless a native function that has to do with list
builders is run. -/
theorem scripted_evalEntity {program : Program} (fuel : Nat) {entity : Entity}
    (h : ∀ function, program.native? entity = some function → function.isBuilder = false)
    (args : List Value) :
  Scripted fun ask => evalEntity program ask fuel entity args
  := by
  have hholds : ∀ a ∈ args, Containment.free.holds () a := fun _ _ => Containment.holds_free _
  by_cases hnative : ∃ function, program.native? entity = some function
  · obtain ⟨function, hfunction⟩ := hnative
    simp only [evalEntity_of_native? hfunction]
    exact NativeFunction.scripted_run fuel (h function hfunction) args
  have hruns := Containment.runsAll_free program
  unfold Program.native? at hnative
  unfold evalEntity evalNative evalDeclared evalUnion
  split
  next hmodule =>
    rw [if_pos hmodule] at hnative
    split
    next => exact scripted_construct _ args
    next hstruct =>
      split
      next function hfunction => exact absurd ⟨function, by simp [hstruct, hfunction]⟩ hnative
      next => exact scripted_fail _
  next hmodule =>
    rw [if_neg hmodule] at hnative
    split
    next module hfind =>
      split
      next function hfunction =>
        split
        next native hoverride =>
          exact absurd ⟨native, by simp [hfind, hfunction, hoverride]⟩ hnative
        next =>
          exact (scripted_checkArity _ _ _).bind fun _ =>
            scripted_callBody function.args function.body args
      split
      next struct _ => exact scripted_construct struct args
      split
      next => exact scripted_of_reads (Containment.reads_constructInstance hruns hholds)
      split
      next => exact (scripted_checkArity _ _ _).bind fun _ => scripted_pure _
      split
      next union _ =>
        exact (scripted_distinguish union args).ite
          (scripted_of_reads (Containment.reads_constructOption hruns hholds))
      next => exact scripted_fail _
    next => exact scripted_fail _

theorem scripted_applyBinding (binding : Binding) (args : List Value) :
  Scripted fun ask => applyBinding ask binding args
  := by
  refine (scripted_fill binding _).bind fun filled => ?_
  split
  next => exact scripted_fail _
  next values _ =>
    split
    next entity _ => exact scripted_ask (.call entity values)
    next closure _ =>
      exact (scripted_checkArity _ _ _).bind fun _ => scripted_callBody _ _ values

theorem scripted_decodeStruct (struct : Struct) (member : Argument) (args : List Ty)
    (literal : String) :
  Scripted fun ask => decodeStruct ask struct member args literal
  := by
  refine (scripted_ask _).bind fun value => ?_
  cases struct.requires with
  | none => exact scripted_pure _
  | some requires =>
    refine (scripted_satisfies _ requires [value]).bind fun holds => ?_
    cases holds with
    | false => exact scripted_fail _
    | true => exact scripted_pure _

theorem scripted_primitiveLiteral (type : Ty) (literal : String) (value : Option Value) :
  Scripted fun _ => primitiveLiteral type literal value
  := by
  cases value with
  | none => exact scripted_fail _
  | some value => exact scripted_pure value

theorem scripted_decode (program : Program) (type : Ty) (literal : String) :
  Scripted fun ask => decode program ask type literal
  := by
  unfold decode
  cases type <;> dsimp only
  case integer | natural | boolean => exact scripted_primitiveLiteral _ _ _
  case list element =>
    split
    next => exact scripted_fail _
    next items _ =>
      exact (scripted_mapM fun item _ => scripted_ask (.literal element item)).bind fun values =>
        scripted_pure _
  case tryOf inner =>
    unfold decodeTry
    refine (scripted_pure _).ite ?_
    split
    next text _ =>
      exact (scripted_ask (.literal inner (String.ofList text))).bind fun value => scripted_pure _
    next => exact scripted_fail _
  case named isReference entity written args =>
    refine (scripted_pure _).ite ?_
    split
    next => exact scripted_fail _
    next struct _ =>
      split
      next member _ => exact scripted_decodeStruct struct member args literal
      next => exact scripted_fail _
  all_goals exact scripted_fail _

/-- What answers a request, before it is recorded which entity an error leaves. -/
def Program.body (program : Program) (fuel : Nat) (ask : Request → Eval Value) :
    Request → Eval Value
  | .call entity args => evalEntity program ask fuel entity args
  | .apply binding args => applyBinding ask binding args
  | .literal type text => TypedModules.decode program ask type text

/-- What is recorded as an error leaves the answer to a request. -/
def Request.frame {α : Type} : Request → Eval α → Eval α
  | .call entity _, run => .inFrame entity run
  | _, run => run

theorem Program.step_eq (program : Program) (fuel : Nat) (ask : Request → Eval Value)
    (request : Request) :
  program.step fuel ask request = request.frame (program.body fuel ask request)
  := by
  cases request <;> rfl

/-- The function of list builders that answers a request, and what it is given. -/
def Program.builderCall? (program : Program) : Request → Option (NativeFunction × List Value)
  | .call entity args => ((program.native? entity).filter (·.isBuilder)).map (·, args)
  | _ => none

theorem Program.builderCall?_eq_some {program : Program} {request : Request}
    {function : NativeFunction} {args : List Value} :
  program.builderCall? request = some (function, args) ↔ function.isBuilder = true
    ∧ ∃ entity, request = .call entity args ∧ program.native? entity = some function
  := by
  cases request with
  | call entity values =>
    constructor
    · intro h
      obtain ⟨found, hfound, he⟩ := Option.map_eq_some_iff.mp h
      cases he
      rw [Option.filter_eq_some_iff] at hfound
      exact ⟨hfound.2, entity, rfl, hfound.1⟩
    · rintro ⟨hbuilder, _, he, hnative⟩
      cases he
      simp [builderCall?, hnative, hbuilder]
  | apply binding values => simp [builderCall?]
  | literal type text => simp [builderCall?]

/-- What a function of list builders makes of its arguments is up to them and the store alone. -/
theorem Program.body_of_builderCall? {program : Program} {request : Request}
    {function : NativeFunction} {args : List Value}
    (h : program.builderCall? request = some (function, args)) (fuel : Nat)
    (ask other : Request → Eval Value) (fuel' : Nat) :
  program.body fuel ask request = function.run other fuel' args
  := by
  obtain ⟨hbuilder, entity, rfl, hnative⟩ := builderCall?_eq_some.mp h
  rw [body, evalEntity_of_native? hnative,
    NativeFunction.run_congr (NativeFunction.not_isHigherOrder hbuilder) ask other fuel fuel']

/-- The answer to a request follows a script, unless it is a call of a function of list builders. -/
theorem scripted_body {program : Program} (fuel : Nat) {request : Request}
    (h : program.builderCall? request = none) :
  Scripted fun ask => program.body fuel ask request
  := by
  cases request with
  | call entity args =>
    apply scripted_evalEntity
    intro function hfunction
    simpa [Program.builderCall?, hfunction, Option.filter_eq_none_iff] using h
  | apply binding args => exact scripted_applyBinding binding args
  | literal type text => exact scripted_decode program type text

end TypedModules
