import TypedModules.Proofs.Eval.Staged
import TypedModules.Proofs.Sound.Realm
import TypedModules.Proofs.Value.Alike

/-!
# Bindings of bindings

A binding of a function may be bound further, which binds some of the slots and chooses some of the
type parameters that it has left open.  What is made in two stages has the type of what one binding
makes that binds the slots and chooses the type parameters of both, and calls the same with the same
in its slots, as far as the order does not matter in which what stands in the slots is evaluated:
`bind_in_stages`.

What is bound further keeps the type arguments of the first stage, so the two are the same only if
the second stage chooses none (`forgotten_choice`).
-/

namespace TypedModules

/-! ### Combined entries -/

section Combine

variable {α β : Type}

theorem map_combine (f : α → β) (entries later : List (Option α)) :
  (combine entries later).map (·.map f) = combine (entries.map (·.map f)) (later.map (·.map f))
  := by
  induction entries, later using combine.induct with
  | case1 later => rfl
  | case2 a entries later ih => simp [combine, ih]
  | case3 entries entry later ih => simp [combine, ih]
  | case4 entries => simp [combine]

theorem mem_combine {entries later : List (Option α)} {entry : Option α}
    (h : entry ∈ combine entries later) :
  entry ∈ entries ∨ entry ∈ later
  := by
  induction entries, later using combine.induct with
  | case1 later => exact .inr h
  | case2 a entries later ih =>
    obtain rfl | h := List.mem_cons.mp h
    · exact .inl List.mem_cons_self
    · exact (ih h).imp_left (List.mem_cons_of_mem _)
  | case3 entries first later ih =>
    obtain rfl | h := List.mem_cons.mp h
    · exact .inr List.mem_cons_self
    · exact (ih h).imp (List.mem_cons_of_mem _) (List.mem_cons_of_mem _)
  | case4 entries => exact .inl h

/-- Entries that are filled as their items want it still are after open ones are filled as the
items want it that are left. -/
theorem forall₂_combine {wanted : α → β → Prop} {entries later : List (Option α)} {items : List β}
    (h : List.Forall₂ (fun entry item => ∀ a, entry = some a → wanted a item) entries items)
    (hlater : List.Forall₂ (fun entry item => ∀ a, entry = some a → wanted a item) later
      (FunctionType.unbound entries items)) :
  List.Forall₂ (fun entry item => ∀ a, entry = some a → wanted a item) (combine entries later)
    items
  := by
  induction h generalizing later with
  | nil => simpa [combine] using hlater
  | @cons entry item entries items hentry hrest ih =>
    cases entry with
    | some a => exact .cons hentry (ih (by simpa using hlater))
    | none =>
      rw [FunctionType.unbound_none] at hlater
      cases hlater with
      | cons hfirst hlater => exact .cons hfirst (ih hlater)

/-- Filling slots is combining them with what they are filled with, if there is something for
each open one. -/
theorem fillSlots_eq_combine {slots values : List (Option Value)}
    (h : values.length = slots.countP (·.isNone)) :
  Binding.fillSlots slots values = combine slots values
  := by
  induction slots, values using Binding.fillSlots.induct with
  | case1 values =>
    rw [List.countP_nil, List.length_eq_zero_iff] at h
    simp [Binding.fillSlots, combine, h]
  | case2 value slots values ih => rw [Binding.fillSlots, combine, ih (by simpa using h)]
  | case3 slots first values ih => rw [Binding.fillSlots, combine, ih (by simpa using h)]
  | case4 slots ih => simp at h

/-- Where nothing is added, the entries stay as they are. -/
theorem combine_of_none {entries later : List (Option α)}
    (hcount : later.length = entries.countP (·.isNone)) (h : ∀ entry ∈ later, entry = none) :
  combine entries later = entries
  := by
  induction entries, later using combine.induct with
  | case1 later => exact List.length_eq_zero_iff.mp hcount
  | case2 a entries later ih => rw [combine, ih (by simpa using hcount) h]
  | case3 entries entry later ih =>
    rw [List.forall_mem_cons] at h
    rw [combine, h.1, ih (by simpa using hcount) h.2]
  | case4 entries => rfl

/-- Combined choices are the same as those before exactly if nothing is added. -/
theorem sameOptions_combine {chosen later : List (Option Ty)}
    (h : later.length = Ty.openCount chosen) :
  Ty.sameOptions chosen (combine chosen later) = true ↔ ∀ choice ∈ later, choice = none
  := by
  rw [Ty.sameOptions_iff]
  induction chosen, later using combine.induct with
  | case1 later =>
    obtain rfl : later = [] := List.length_eq_zero_iff.mp h
    simp [combine]
  | case2 type chosen later ih => simpa [combine] using ih (by simpa using h)
  | case3 chosen choice later ih =>
    have ih := ih (by simpa using h)
    cases choice <;> simp [combine, ih]
  | case4 chosen => simp at h

end Combine

/-! ### The type of what is bound in stages -/

/-- What is bound of a function type in two stages may be bound at once. -/
theorem FunctionType.Binds.combine {library : Library} {function between : FunctionType}
    {chosen later supplied more : List (Option Ty)} {first second : Ty}
    (hformed : function.toTy.Formed library.openScope 0)
    (hfirst : function.Binds library chosen supplied first)
    (hbetween : first.function? = some between)
    (hsecond : between.Binds library later more second) :
  later.length = Ty.openCount chosen ∧ more.length = supplied.countP (·.isNone)
    ∧ function.Binds library (combine chosen later) (combine supplied more) second
  := by
  obtain rfl : (function.rebindTypes chosen).rebindArgs supplied = between := by
    rw [hfirst.output, Ty.function?_toTy] at hbetween
    exact Option.some.inj hbetween
  have hlater : later.length = Ty.openCount chosen := by
    rw [hsecond.count, rebindArgs, rebindTypes_eq hformed]
    exact length_unbound hfirst.count
  have hstages : ((function.rebindTypes chosen).rebindArgs supplied).rebindTypes later
      = (function.rebindTypes (TypedModules.combine chosen later)).rebindArgs supplied := by
    rw [rebindTypes_rebindArgs,
      rebindTypes_rebindTypes hformed hfirst.count hfirst.formed hlater]
  have hslots := hsecond.slots
  rw [hstages] at hslots
  have hmore : more.length = supplied.countP (·.isNone) := by
    rw [hslots.length_eq]
    refine length_unbound ?_
    rw [hfirst.slots.length_eq, length_args_rebindTypes, length_args_rebindTypes]
  refine ⟨hlater, hmore, ?_, ?_, ?_, ?_⟩
  · rw [length_combine hlater, hfirst.count]
  · intro type htype
    exact (mem_combine htype).elim (hfirst.formed type) (hsecond.formed type)
  · refine forall₂_combine ?_ hslots
    -- the slots that the first stage fills depend on nothing that the second chooses
    rw [← rebindTypes_rebindTypes hformed hfirst.count hfirst.formed hlater]
    rw [rebindTypes_eq (formed_rebindTypes hformed hfirst.count hfirst.formed),
      List.forall₂_map_right_iff]
    refine hfirst.slots.imp fun entry slot hentry value hvalue => ?_
    obtain ⟨hsame, hbindable⟩ := hentry value hvalue
    rw [(Ty.formed_all_iff.mpr hbindable).instantiate_eq]
    exact ⟨hsame, hbindable⟩
  · rw [hsecond.output, hstages, rebindArgs_rebindArgs]

/-! ### Evaluation in another order -/

section Order

variable {ask : Request → Eval Value} {env : Environment}

/-- Whether the order does not matter in which two computations are made. -/
def Eval.Commutes {α β : Type} (first : Eval α) (second : Eval β) : Prop :=
  ∀ {γ : Type} (next : α → β → Eval γ),
    (do let a ← first; let b ← second; next a b) = do let b ← second; let a ← first; next a b

/-- What makes no difference for each expression in slots makes none for all of them. -/
theorem commutes_evalSlots {α : Type} {run : Eval α} {slots : List (Option Expr)}
    (h : ∀ expr, some expr ∈ slots → (expr.eval ask env).Commutes run) :
  (evalSlots ask env slots).Commutes run
  := by
  intro γ next
  induction slots generalizing γ with
  | nil => simp [evalSlots]
  | cons slot slots ih =>
    have ih := @ih fun expr hexpr => h expr (List.mem_cons_of_mem _ hexpr)
    cases slot with
    | none => simpa [evalSlots] using ih fun values a => next (none :: values) a
    | some expr =>
      simp only [evalSlots, bind_assoc, pure_bind]
      calc (do
              let value ← expr.eval ask env
              let values ← evalSlots ask env slots
              let a ← run
              next (some value :: values) a)
          = (do
              let value ← expr.eval ask env
              let a ← run
              let values ← evalSlots ask env slots
              next (some value :: values) a) :=
            bind_congr fun value => ih fun values a => next (some value :: values) a
        _ = (do
              let a ← run
              let value ← expr.eval ask env
              let values ← evalSlots ask env slots
              next (some value :: values) a) := h expr List.mem_cons_self _

/-- Only what is evaluated in another order need not depend on it: where a slot is filled later and
one behind it earlier. -/
def Independent (ask : Request → Eval Value) (env : Environment) :
    (slots more : List (Option Expr)) → Prop
  | none :: slots, some expr :: more =>
    (∀ earlier, some earlier ∈ slots → (earlier.eval ask env).Commutes (expr.eval ask env))
      ∧ Independent ask env slots more
  | none :: slots, none :: more => Independent ask env slots more
  | some _ :: slots, more => Independent ask env slots more
  | [], _ => True
  | none :: _, [] => True

/-- Slots that are filled in two stages may be evaluated at once. -/
theorem evalSlots_combine {slots more : List (Option Expr)} (h : Independent ask env slots more) :
  evalSlots ask env (combine slots more) = do
    let values ← evalSlots ask env slots
    let rest ← evalSlots ask env more
    return combine values rest
  := by
  induction slots, more using combine.induct with
  | case1 more => simp [combine, evalSlots]
  | case2 expr slots more ih =>
    simp [combine, evalSlots, ih (by simpa [Independent] using h)]
  | case3 slots slot more ih =>
    cases slot with
    | none => simp [combine, evalSlots, ih (by simpa [Independent] using h)]
    | some expr =>
      obtain ⟨hfirst, hrest⟩ := h
      simp only [combine, evalSlots, ih hrest, bind_assoc, pure_bind]
      exact (commutes_evalSlots hfirst fun values value => do
        let rest ← evalSlots ask env more
        return some value :: combine values rest).symm
  | case4 slots => simp [combine, evalSlots]

/-- Only what values can be found for slots matters of what is done with them. -/
theorem evalSlots_bind_congr {α : Type} {slots : List (Option Expr)}
    {f g : List (Option Value) → Eval α}
    (h : ∀ values, values.length = slots.length →
      values.countP (·.isNone) = slots.countP (·.isNone) → f values = g values) :
  evalSlots ask env slots >>= f = evalSlots ask env slots >>= g
  := by
  induction slots generalizing f g with
  | nil => simpa [evalSlots] using h [] rfl rfl
  | cons slot slots ih =>
    cases slot with
    | none =>
      simp only [evalSlots, bind_assoc, pure_bind]
      refine ih fun values hlength hopen => h _ ?_ ?_
      · simpa using hlength
      · simpa using hopen
    | some expr =>
      simp only [evalSlots, bind_assoc, pure_bind]
      refine bind_congr fun value => ih fun values hlength hopen => h _ ?_ ?_
      · simpa using hlength
      · simpa using hopen

/-- What is bound in two stages has in its slots what both put there, and the type arguments of
the first. -/
theorem eval_bindValue_bind {slots more : List (Option Expr)} {chosen later : List (Option Ty)}
    {inner outer : Ty} {aliasing : Aliasing} {reference : Reference} {entity : Entity}
    (h : more.length = slots.countP (·.isNone)) :
  (Node.bindValue (.mk inner aliasing (.bind reference entity slots chosen)) more later).eval
      ask env outer = do
    let values ← evalSlots ask env slots
    let rest ← evalSlots ask env more
    return .function (.mk (.entity entity) (combine values rest) chosen)
  := by
  simp only [Node.eval, Expr.eval, bind_assoc, pure_bind, Value.callee]
  refine evalSlots_bind_congr fun values _ hopen => evalSlots_bind_congr fun rest hlength _ => ?_
  have hrest : rest.length = values.countP (·.isNone) := by rw [hlength, h, hopen]
  have hfill : (Binding.mk (.entity entity) values chosen).fill? rest
      = some (.mk (.entity entity) (combine values rest) chosen) :=
    Binding.fill?_eq_some.mpr ⟨hrest, by rw [← fillSlots_eq_combine hrest]; rfl⟩
  simp [Binding.fill, hfill]

end Order

/-! ### Staged bindings -/

section Staged

variable {module : Module} {vars : Variables} {reference : Reference} {entity : Entity}
  {slots more : List (Option Expr)} {chosen later : List (Option Ty)} {inner outer : Ty}
  {aliasing aliasing' : Aliasing}

/-- A typed binding that is bound further chooses and fills what is open, and what it makes at once
is typed alike. -/
theorem typed_combine (haccepted : Accepted module)
    (htyped : (Expr.mk outer aliasing (.bindValue (.mk inner aliasing'
      (.bind reference entity slots chosen)) more later)).Typed module.library.surroundings vars) :
  later.length = Ty.openCount chosen ∧ more.length = slots.countP (·.isNone)
    ∧ (Expr.mk outer aliasing (.bind reference entity (combine slots more)
      (combine chosen later))).Typed module.library.surroundings vars
  := by
  simp only [Expr.Typed, Node.Typed, slotsTyped_iff] at htyped
  obtain ⟨houter, ⟨-, hslots, entry, signature, hresolves, hentity, hsignature, hfirst⟩, hmore,
    between, hbetween, hsecond⟩ := htyped
  have hformed : signature.functionType.toTy.Formed module.library.openScope 0 :=
    (haccepted.formed.signature hsignature).open
  obtain ⟨hlater, hcount, hbinds⟩ := hfirst.combine hformed hbetween hsecond
  refine ⟨hlater, by simpa [List.countP_map, Function.comp_def] using hcount, ?_⟩
  simp only [Expr.Typed, Node.Typed, slotsTyped_iff]
  refine ⟨houter, ?_, entry, signature, hresolves, hentity, hsignature, ?_⟩
  · exact fun expr hexpr => (mem_combine hexpr).elim (hslots expr) (hmore expr)
  · rwa [map_combine]

/-- What is bound in two stages, in the bodies of an accepted module or anywhere else where what its
library declares is visible, may be bound at once as the types go.  The evaluation in two stages
evaluates what the first puts into slots and then what the second does, and makes a binding of the
same entity with all of these in their slots; where the order does not matter to that, these are the
slots of the binding that is made at once.  The type arguments are those of the first stage alone,
so that the two bindings are the same exactly if the second chooses none. -/
theorem bind_in_stages (haccepted : Accepted module)
    (htyped : (Expr.mk outer aliasing (.bindValue (.mk inner aliasing'
      (.bind reference entity slots chosen)) more later)).Typed module.library.surroundings vars) :
  (Expr.mk outer aliasing (.bind reference entity (combine slots more)
      (combine chosen later))).Typed module.library.surroundings vars
    ∧ (∀ ask env, (Expr.mk outer aliasing (.bindValue (.mk inner aliasing'
          (.bind reference entity slots chosen)) more later)).eval ask env = do
        let values ← evalSlots ask env slots
        let rest ← evalSlots ask env more
        return .function (.mk (.entity entity) (combine values rest) chosen))
    ∧ (∀ ask env, Independent ask env slots more →
        ∃ run : Eval (List (Option Value)),
          (Expr.mk outer aliasing (.bindValue (.mk inner aliasing'
              (.bind reference entity slots chosen)) more later)).eval ask env
            = (do return .function (.mk (.entity entity) (← run) chosen))
          ∧ (Expr.mk outer aliasing (.bind reference entity (combine slots more)
              (combine chosen later))).eval ask env
            = (do return .function (.mk (.entity entity) (← run) (combine chosen later))))
    ∧ (∀ values, (Binding.mk (.entity entity) values chosen).same
          (.mk (.entity entity) values (combine chosen later)) = true
        ↔ ∀ choice ∈ later, choice = none)
    ∧ ((∀ choice ∈ later, choice = none) → combine chosen later = chosen)
  := by
  obtain ⟨hlater, hmore, hsingle⟩ := typed_combine haccepted htyped
  have hstaged : ∀ ask env, (Expr.mk outer aliasing (.bindValue (.mk inner aliasing'
      (.bind reference entity slots chosen)) more later)).eval ask env = do
        let values ← evalSlots ask env slots
        let rest ← evalSlots ask env more
        return .function (.mk (.entity entity) (combine values rest) chosen) :=
    fun ask env => by rw [Expr.eval, eval_bindValue_bind hmore]
  refine ⟨hsingle, hstaged, ?_, ?_, combine_of_none hlater⟩
  · intro ask env hindependent
    refine ⟨evalSlots ask env (combine slots more), ?_, ?_⟩
    · simp [hstaged, evalSlots_combine hindependent]
    · simp only [Expr.eval, Node.eval]
  · intro values
    have hslots : sameSlots values values = true :=
      sameSlots_iff_forall₂.mpr (List.forall₂_same.mpr fun _ _ =>
        rel_self_iff.mpr fun value _ => equivalence_same.refl value)
    simp [Binding.same, Target.same_refl, hslots, sameOptions_combine hlater]

end Staged

/-- A function that takes two integers and binds them both to what compares data. -/
def comparingFunction (name : String) (made : SourceExpr) : SourceFunction where
  id := ⟨[name]⟩
  typeParams := []
  args := [⟨"low", .integer, none⟩, ⟨"high", .integer, none⟩]
  output := .function false [] [] .boolean none
  body := .mk [.bare made] none
  annotations := []
  location := none

/-- A context that declares three functions that bind both arguments of `Data.equals` and choose
`Integer` for its type parameter: `once` at once, and `early` and `late` in two stages, of which
the first and the second chooses the type. -/
def comparingContext : Context where
  functions :=
    let low : SourceExpr := .variable "low" none
    let high : SourceExpr := .variable "high" none
    let equals : Reference := .ofId ⟨["Data", "equals"]⟩
    [ comparingFunction "once" (.bind equals [some low, some high] [some .integer] none),
      comparingFunction "early"
        (.bindValue (.bind equals [none, some high] [some .integer] none) [some low] [] none),
      comparingFunction "late"
        (.bindValue (.bind equals [none, none] [none] none) [some low, some high] [some .integer]
          none)]

/-- Whether an expression binds the variables `high` and `low` in two stages, as `early` does. -/
def Expr.isEarly : Expr → Bool
  | .mk _ _ (.bindValue (.mk _ _ (.bind _ _ [none, some (.mk _ _ (.variable high))] [some _]))
      [some (.mk _ _ (.variable low))] []) => low == "low" && high == "high"
  | _ => false

/-- What is low is bound last by `early`, and evaluated first where it is bound at once. -/
theorem bind_in_stages_early :
  ∃ (module : Module) (vars : Variables) (staged single : Expr), Accepted module
    ∧ staged.Typed module.library.surroundings vars
    ∧ single.Typed module.library.surroundings vars ∧ single.type = staged.type
    ∧ ∃ binding : Binding, binding.slots = [some (.integer 1), some (.integer 3)]
      ∧ ∀ ask, staged.eval ask (.ofBindings [("low", .integer 1), ("high", .integer 3)])
          = pure (.function binding)
        ∧ single.eval ask (.ofBindings [("low", .integer 1), ("high", .integer 3)])
          = pure (.function binding)
  := by
  have hearly : (validate 0 comparingContext ⟨"example", "comparing"⟩ [] {}).module?.any
      (·.functions.any (·.body.last.isEarly)) = true := by
    decide +kernel
  obtain ⟨module, warnings, h, hearly⟩ := Verdict.exists_success hearly
  obtain ⟨function, hfunction, hearly⟩ := List.any_eq_true.mp hearly
  have haccepted : Accepted module := Accepted.alone h
  have htyped := ((haccepted.typed (.inl rfl)).functions function hfunction).1
  cases hbody : function.body with
  | mk statements last =>
  rw [hbody, Block.Typed] at htyped
  rw [hbody, Block.last] at hearly
  unfold Expr.isEarly at hearly
  split at hearly
  case h_2 => cases hearly
  next outer aliasing inner aliasing' reference entity highType highAliasing high type lowType
      lowAliasing low =>
    simp only [Bool.and_eq_true, beq_iff_eq] at hearly
    obtain ⟨rfl, rfl⟩ := hearly
    let env : Environment := .ofBindings [("low", .integer 1), ("high", .integer 3)]
    have hlow : env.get "low" = pure (.integer 1) := rfl
    have hhigh : env.get "high" = pure (.integer 3) := rfl
    obtain ⟨hsingle, hstaged, hruns, -, hchosen⟩ := bind_in_stages haccepted htyped.2
    refine ⟨module, _, _, _, haccepted, htyped.2, hsingle, rfl,
      .mk (.entity entity) [some (.integer 1), some (.integer 3)] [some type], rfl,
      fun ask => ?_⟩
    have hindependent : Independent ask env
        [none, some (.mk highType highAliasing (.variable "high"))]
        [some (.mk lowType lowAliasing (.variable "low"))] := by
      simp [Independent, Eval.Commutes, Expr.eval, Node.eval, hlow]
    obtain ⟨run, hrun, hrun'⟩ := hruns ask env hindependent
    rw [hchosen (fun _ h => nomatch h)] at hrun'
    have hvalue := hstaged ask env
    simp only [evalSlots, Expr.eval, Node.eval, hlow, hhigh, pure_bind, combine] at hvalue
    exact ⟨hvalue, (hrun'.trans hrun.symm).trans hvalue⟩

/-- Whether evaluations that leave nothing behind end with functions that have the same target and the
same in their slots, and are not the same. -/
def forgets : (once late : Except Halt Value × Store) → Bool
  | (.ok (.function first), ⟨⟨[]⟩⟩), (.ok (.function second), ⟨⟨[]⟩⟩) =>
    first.target.same second.target && sameSlots first.slots second.slots && !first.same second
  | _, _ => false

/-- What `late` makes calls the same as what `once` makes, with the same in its slots and of the
same type, but it is not the same. -/
theorem forgotten_choice :
  ∃ (program : Program) (once late : Function) (env : Environment) (first second : Binding),
    Accepted program.module ∧ once ∈ program.module.functions ∧ late ∈ program.module.functions
    ∧ once.output.same late.output = true
    ∧ (once.body.eval (program.answer 1) env).outcome {} = (.ok (.function first), {})
    ∧ (late.body.eval (program.answer 1) env).outcome {} = (.ok (.function second), {})
    ∧ first.target.same second.target = true ∧ sameSlots first.slots second.slots = true
    ∧ first.same second = false
  := by
  let env : Environment := .ofBindings [("low", .integer 1), ("high", .integer 3)]
  have hforgets : (validate 0 comparingContext ⟨"example", "comparing"⟩ [] {}).module?.any
      (fun module => module.functions.any fun once => module.functions.any fun late =>
        once.id == ⟨["once"]⟩ && late.id == ⟨["late"]⟩ && once.output.same late.output
          && forgets ((once.body.eval (Program.answer { module := module } 1) env).outcome {})
            ((late.body.eval (Program.answer { module := module } 1) env).outcome {})) = true := by
    decide +kernel
  obtain ⟨module, warnings, h, hforgets⟩ := Verdict.exists_success hforgets
  simp only [List.any_eq_true, Bool.and_eq_true] at hforgets
  obtain ⟨once, honce, late, hlate, ⟨-, houtput⟩, hforgets⟩ := hforgets
  unfold forgets at hforgets
  split at hforgets
  case h_2 => cases hforgets
  next first second hfirst hsecond =>
    simp only [Bool.and_eq_true, Bool.not_eq_true'] at hforgets
    obtain ⟨⟨htarget, hslots⟩, hsame⟩ := hforgets
    exact ⟨{ module := module }, once, late, env, first, second, Accepted.alone h, honce, hlate,
      houtput, hfirst, hsecond, htarget, hslots, hsame⟩

end TypedModules
