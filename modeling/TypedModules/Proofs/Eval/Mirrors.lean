import TypedModules.Proofs.Eval.Determined
import TypedModules.Proofs.Value.Pairing

/-!
# Evaluations that mirror others

An evaluation is mirrored by others, one for each amount of fuel, if these settle on an outcome
that agrees with its own up to the numbers of list builders, unless it runs out of fuel itself.
How much fuel the others need is left open.  A `Mirror` says which errors agree, and what is
minded of the builders on the right while both go on.  `Mirror.Simulates` is read along everything
of which evaluations are made.
-/

namespace TypedModules

/-- Whether evaluations with different fuel all have an outcome from a store, from some fuel
on. -/
def Settles {α : Type} (run : Nat → Eval α) (store : Store) (outcome : Except Halt α × Store) :
    Prop :=
  ∃ enough, ∀ fuel, enough ≤ fuel → (run fuel).outcome store = outcome

/-- Whether two evaluations both end with related values, or both with errors that agree. -/
inductive EndsAlike {α β : Type} (errors : EvalError → EvalError → Prop) (related : α → β → Prop) :
    Except Halt α → Except Halt β → Prop
  | ok {a : α} {b : β} : related a b → EndsAlike errors related (.ok a) (.ok b)
  | error {e e' : EvalError} : errors e e' →
    EndsAlike errors related (.error (.error e)) (.error (.error e'))

theorem EndsAlike.imp {α β : Type} {errors : EvalError → EvalError → Prop}
    {related related' : α → β → Prop} {result : Except Halt α} {other : Except Halt β}
    (h : EndsAlike errors related result other) (himp : ∀ a b, related a b → related' a b) :
  EndsAlike errors related' result other
  := by
  cases h with
  | ok hab => exact .ok (himp _ _ hab)
  | error herrors => exact .error herrors

theorem EndsAlike.ends {α β : Type} {errors : EvalError → EvalError → Prop}
    {related : α → β → Prop} {result : Except Halt α} {other : Except Halt β}
    (h : EndsAlike errors related result other) :
  other ≠ .error .outOfFuel
  := by
  cases h <;> nofun

/-- Which errors agree, and what is minded of the builders of the right store where builders are
paired.  It stays so when both stores get a builder, and when the right one gets more items of which
it has all the builders. -/
structure Mirror where
  errors : EvalError → EvalError → Prop
  minds : Pairing → Store → Prop
  errors_new : ∀ cause, errors { cause := cause } { cause := cause }
  errors_leaving : ∀ {e e'} entity, errors e e' → errors (e.leaving entity) (e'.leaving entity)
  minds_create : ∀ {pairing store}, store.next = pairing.right → minds pairing store →
    minds pairing.create store.create
  minds_append : ∀ {pairing store m n items}, store.next = pairing.right → pairing.pairs m n →
    (∀ item ∈ items, ∃ v : Value, v.Like pairing item) → minds pairing store →
    minds pairing (store.append n items)

namespace Mirror

/-- Whether two stores agree where builders are paired, with what is minded. -/
structure Fits (mirror : Mirror) (pairing : Pairing) (store other : Store) : Prop
    extends store.Like pairing other where
  minded : mirror.minds pairing other

/-- Whether evaluations settle from a store on what agrees with an outcome. -/
def Follows {α β : Type} (mirror : Mirror) (pairing : Pairing)
    (related : Pairing → α → β → Prop) (outcome : Except Halt α × Store) (others : Nat → Eval β)
    (start : Store) : Prop :=
  ∃ later last, later.Extends pairing ∧ Settles others start last
    ∧ EndsAlike mirror.errors (related later) outcome.1 last.1 ∧ mirror.Fits later outcome.2 last.2

/-- Whether an evaluation is mirrored by others, from all stores that agree. -/
def Simulates {α β : Type} (mirror : Mirror) (pairing : Pairing) (run : Eval α)
    (others : Nat → Eval β) (related : Pairing → α → β → Prop) : Prop :=
  ∀ store start, mirror.Fits pairing store start →
    (run.outcome store).1 ≠ .error .outOfFuel →
    mirror.Follows pairing related (run.outcome store) others start

variable {mirror : Mirror} {pairing : Pairing} {α β γ δ : Type}

theorem simulates_pure {a : α} {b : β} {related : Pairing → α → β → Prop}
    (h : related pairing a b) :
  mirror.Simulates pairing (pure a) (fun _ => pure b) related
  := fun _ start hfits _ => ⟨pairing, (.ok b, start), .refl pairing, ⟨0, fun _ _ => rfl⟩, .ok h,
    hfits⟩

theorem simulates_fail {cause : EvalCause} {related : Pairing → α → β → Prop} :
  mirror.Simulates pairing (.fail cause) (fun _ => .fail cause) related
  := fun _ start hfits _ => ⟨pairing, (.error (.error { cause := cause }), start), .refl pairing,
    ⟨0, fun _ _ => rfl⟩, .error (mirror.errors_new cause), hfits⟩

theorem simulates_outOfFuel {others : Nat → Eval β} {related : Pairing → α → β → Prop} :
  mirror.Simulates pairing (throw .outOfFuel) others related
  := fun _ _ _ hends => absurd rfl hends

/-- Evaluations one after another are mirrored by others one after another. -/
theorem Simulates.bind {run : Eval α} {others : Nat → Eval β} {next : α → Eval γ}
    {nexts : Nat → β → Eval δ} {between : Pairing → α → β → Prop}
    {related : Pairing → γ → δ → Prop} (h : mirror.Simulates pairing run others between)
    (hnext : ∀ later, later.Extends pairing → ∀ a b, between later a b →
      mirror.Simulates later (next a) (fun fuel => nexts fuel b) related) :
  mirror.Simulates pairing (run >>= next) (fun fuel => others fuel >>= nexts fuel) related
  := by
  intro store start hfits hends
  have hfirst := h store start hfits
  rw [Discipline.outcome_bind] at hends ⊢
  rcases e : run.outcome store with ⟨halt | a, middle⟩ <;> rw [e] at hends hfirst
  · -- what fails first decides both
    have hfails : (.error halt : Except Halt α) ≠ .error .outOfFuel := by
      rintro ⟨⟩
      exact hends rfl
    obtain ⟨later, ⟨result, last⟩, hlater, ⟨enough, hsettles⟩, hresult, hlast⟩ := hfirst hfails
    cases hresult with
    | @error _ e' herrors =>
      refine ⟨later, (.error (.error e'), last), hlater, ⟨enough, fun fuel hfuel => ?_⟩,
        .error herrors, hlast⟩
      rw [Discipline.outcome_bind, hsettles fuel hfuel]
  · obtain ⟨later, ⟨result, last⟩, hlater, ⟨enough, hsettles⟩, hresult, hlast⟩ := hfirst nofun
    cases hresult with
    | @ok _ b hab =>
      obtain ⟨latest, outcome, hlatest, ⟨enough', hsettles'⟩, hresult', hlast'⟩ :=
        hnext later hlater a b hab middle last hlast hends
      refine ⟨latest, outcome, hlatest.trans hlater, ⟨max enough enough', fun fuel hfuel => ?_⟩,
        hresult', hlast'⟩
      rw [Discipline.outcome_bind, hsettles fuel (by omega)]
      exact hsettles' fuel (by omega)

theorem Simulates.imp {run : Eval α} {others : Nat → Eval β}
    {related related' : Pairing → α → β → Prop} (h : mirror.Simulates pairing run others related)
    (himp : ∀ later, later.Extends pairing → ∀ a b, related later a b → related' later a b) :
  mirror.Simulates pairing run others related'
  := by
  intro store start hfits hends
  obtain ⟨later, last, hlater, hsettles, hresult, hlast⟩ := h store start hfits hends
  exact ⟨later, last, hlater, hsettles, hresult.imp (himp later hlater), hlast⟩

/-- What agrees inside the evaluation of an entity agrees as it leaves. -/
theorem Simulates.inFrame {run : Eval α} {others : Nat → Eval β}
    {related : Pairing → α → β → Prop} (entity : Entity)
    (h : mirror.Simulates pairing run others related) :
  mirror.Simulates pairing (.inFrame entity run) (fun fuel => .inFrame entity (others fuel)) related
  := by
  intro store start hfits hends
  have hrun := h store start hfits
  unfold Follows
  rw [outcome_inFrame] at hends ⊢
  rcases e : run.outcome store with ⟨(error | _) | a, after⟩ <;> rw [e] at hends hrun
  · obtain ⟨later, ⟨result, last⟩, hlater, ⟨enough, hsettles⟩, hresult, hlast⟩ := hrun nofun
    cases hresult with
    | @error _ e' herrors =>
      refine ⟨later, (.error (.error (e'.leaving entity)), last), hlater,
        ⟨enough, fun fuel hfuel => ?_⟩, .error (mirror.errors_leaving entity herrors), hlast⟩
      rw [outcome_inFrame, hsettles fuel hfuel]
  · exact absurd rfl hends
  · obtain ⟨later, ⟨result, last⟩, hlater, ⟨enough, hsettles⟩, hresult, hlast⟩ := hrun nofun
    cases hresult with
    | @ok _ b hab =>
      refine ⟨later, (.ok b, last), hlater, ⟨enough, fun fuel hfuel => ?_⟩, .ok hab, hlast⟩
      rw [outcome_inFrame, hsettles fuel hfuel]

/-- What the others are with little fuel does not matter. -/
theorem Simulates.of_eventually {run : Eval α} {others others' : Nat → Eval β}
    {related : Pairing → α → β → Prop}
    (heq : ∃ enough, ∀ fuel, enough ≤ fuel → others fuel = others' fuel)
    (h : mirror.Simulates pairing run others' related) :
  mirror.Simulates pairing run others related
  := by
  obtain ⟨least, heq⟩ := heq
  intro store start hfits hends
  obtain ⟨later, last, hlater, ⟨enough, hsettles⟩, hresult, hlast⟩ := h store start hfits hends
  refine ⟨later, last, hlater, ⟨max least enough, fun fuel hfuel => ?_⟩, hresult, hlast⟩
  rw [heq fuel (by omega)]
  exact hsettles fuel (by omega)

/-- Others that need one more unit of fuel settle as well. -/
theorem Simulates.of_succ {run : Eval α} {others : Nat → Eval β}
    {related : Pairing → α → β → Prop}
    (h : mirror.Simulates pairing run (fun fuel => others (fuel + 1)) related) :
  mirror.Simulates pairing run others related
  := by
  intro store start hfits hends
  obtain ⟨later, last, hlater, ⟨enough, hsettles⟩, hresult, hlast⟩ := h store start hfits hends
  refine ⟨later, last, hlater, ⟨enough + 1, fun fuel hfuel => ?_⟩, hresult, hlast⟩
  obtain ⟨less, rfl⟩ : ∃ less, fuel = less + 1 := ⟨fuel - 1, by omega⟩
  exact hsettles less (by omega)

/-- A change of both stores is mirrored if the changed stores agree. -/
theorem simulates_modify {change change' : Store → Store}
    (h : ∀ store start, mirror.Fits pairing store start →
      mirror.Fits pairing (change store) (change' start)) :
  mirror.Simulates pairing (modify change) (fun _ => modify change') fun later _ _ =>
    later = pairing
  := fun store start hfits _ => ⟨pairing, (.ok ⟨⟩, change' start), .refl pairing,
    ⟨0, fun _ _ => rfl⟩, .ok rfl, h store start hfits⟩

/-- Whether what is related where builders are paired stays related while the pairing grows. -/
def Lasting (related : Pairing → α → β → Prop) : Prop :=
  ∀ {later earlier : Pairing}, later.Extends earlier →
    ∀ a b, related earlier a b → related later a b

theorem Lasting.all {related : Pairing → α → β → Prop} (h : Lasting related) :
  Lasting fun pairing => List.Forall₂ (related pairing)
  := fun hlater _ _ hlists => hlists.imp (h hlater)

/-- What is evaluated for related items, one after another. -/
theorem simulates_mapM {run : α → Eval β} {others : Nat → γ → Eval δ}
    {items : Pairing → α → γ → Prop} {related : Pairing → β → δ → Prop} {as : List α} {cs : List γ}
    (hitems : Lasting items) (hrelated : Lasting related)
    (h : ∀ later, later.Extends pairing → ∀ a c, items later a c →
      mirror.Simulates later (run a) (fun fuel => others fuel c) related)
    (hlists : List.Forall₂ (items pairing) as cs) :
  mirror.Simulates pairing (as.mapM run) (fun fuel => cs.mapM (others fuel))
    fun later => List.Forall₂ (related later)
  := by
  induction as generalizing pairing cs with
  | nil =>
    cases hlists
    exact simulates_pure .nil
  | cons a rest ih =>
    obtain _ | ⟨hac, hrest⟩ := hlists
    simp only [List.mapM_cons]
    refine (h pairing (.refl pairing) a _ hac).bind fun later hlater b d hbd => ?_
    have hlists := hitems.all hlater _ _ hrest
    refine (ih (fun last hlast => h last (hlast.trans hlater)) hlists).bind ?_
    exact fun last hlast bs ds hbds => simulates_pure (.cons (hrelated hlast _ _ hbd) hbds)

/-! ### Readings -/

/-- Whether two evaluations read no more than values and agree: they have related results, or end
with one cause, and leave the store as it is. -/
def Agree (run : Eval α) (other : Eval β) (related : α → β → Prop) : Prop :=
  (∃ a b, run = pure a ∧ other = pure b ∧ related a b)
    ∨ ∃ cause, run = .fail cause ∧ other = .fail cause

section Agree

variable {run : Eval α} {other : Eval β} {between : α → β → Prop}

theorem agree_pure {a : α} {b : β} {related : α → β → Prop} (h : related a b) :
  Agree (pure a) (pure b) related
  := .inl ⟨a, b, rfl, rfl, h⟩

theorem agree_fail {cause : EvalCause} {related : α → β → Prop} :
  Agree (.fail cause) (.fail cause) related
  := .inr ⟨cause, rfl, rfl⟩

theorem Agree.bind {next : α → Eval γ} {next' : β → Eval δ} {related : γ → δ → Prop}
    (h : Agree run other between) (hnext : ∀ a b, between a b → Agree (next a) (next' b) related) :
  Agree (run >>= next) (other >>= next') related
  := by
  obtain ⟨a, b, rfl, rfl, hab⟩ | ⟨cause, rfl, rfl⟩ := h
  · rw [pure_bind, pure_bind]
    exact hnext a b hab
  · rw [Containment.fail_bind, Containment.fail_bind]
    exact agree_fail

/-- What follows readings that agree is mirrored where builders are paired as before. -/
theorem Agree.simulates {next : α → Eval γ} {nexts : Nat → β → Eval δ}
    {related : Pairing → γ → δ → Prop} (h : Agree run other between)
    (hnext : ∀ a b, between a b →
      mirror.Simulates pairing (next a) (fun fuel => nexts fuel b) related) :
  mirror.Simulates pairing (run >>= next) (fun fuel => other >>= nexts fuel) related
  := by
  obtain ⟨a, b, rfl, rfl, hab⟩ | ⟨cause, rfl, rfl⟩ := h
  · simp only [pure_bind]
    exact hnext a b hab
  · exact simulates_fail

/-- A reading by itself is mirrored by one that agrees. -/
theorem Agree.simulates_self {related : Pairing → α → β → Prop}
    (h : Agree run other (related pairing)) :
  mirror.Simulates pairing run (fun _ => other) related
  := by
  obtain ⟨a, b, rfl, rfl, hab⟩ | ⟨cause, rfl, rfl⟩ := h
  · exact simulates_pure hab
  · exact simulates_fail

theorem agree_checkArity {name : String} {expected got got' : Nat} (h : got = got') :
  Agree (.checkArity name expected got) (.checkArity name expected got') fun _ _ => expected = got
  := by
  subst h
  unfold Eval.checkArity
  split
  next e => exact agree_pure e
  next => exact agree_fail

theorem agree_mapM {run : α → Eval β} {other : γ → Eval δ} {items : α → γ → Prop}
    {related : β → δ → Prop} {as : List α} {cs : List γ}
    (h : ∀ a c, items a c → Agree (run a) (other c) related) (hlists : List.Forall₂ items as cs) :
  Agree (as.mapM run) (cs.mapM other) (List.Forall₂ related)
  := by
  induction hlists with
  | nil => exact agree_pure .nil
  | cons hac _ ih =>
    rw [List.mapM_cons, List.mapM_cons]
    exact (h _ _ hac).bind fun b d hbd => ih.bind fun bs ds hbds => agree_pure (.cons hbd hbds)

end Agree

/-! ### Reading values -/

section Values

variable {v w : Value}

theorem agree_mismatch {expected : String} {related : α → β → Prop}
    (h : v.kindName = w.kindName) :
  Agree (v.mismatch expected) (w.mismatch expected) related
  := by
  unfold Value.mismatch
  rw [h]
  exact agree_fail

variable (h : v.Like pairing w)

include h

theorem agree_asInteger :
  Agree v.asInteger w.asInteger Eq
  := by
  cases h
  case integer => exact agree_pure rfl
  all_goals exact agree_mismatch rfl

theorem agree_asNatural :
  Agree v.asNatural w.asNatural Eq
  := by
  cases h
  case natural => exact agree_pure rfl
  all_goals exact agree_mismatch rfl

theorem agree_asBoolean :
  Agree v.asBoolean w.asBoolean Eq
  := by
  cases h
  case boolean => exact agree_pure rfl
  all_goals exact agree_mismatch rfl

theorem agree_asList :
  Agree v.asList w.asList (ValuesLike pairing)
  := by
  cases h
  case list h => exact agree_pure h
  all_goals exact agree_mismatch rfl

theorem agree_asTry :
  Agree v.asTry w.asTry (Option.Rel (Value.Like pairing))
  := by
  cases h
  case success h => exact agree_pure (.some h)
  case failure => exact agree_pure .none
  all_goals exact agree_mismatch rfl

theorem agree_asBinding :
  Agree v.asBinding w.asBinding (Binding.Like pairing)
  := by
  cases h
  case function h => exact agree_pure h
  all_goals exact agree_mismatch rfl

theorem agree_asBuilder :
  Agree v.asBuilder w.asBuilder pairing.pairs
  := by
  cases h
  case builder h => exact agree_pure h
  all_goals exact agree_mismatch rfl

end Values

/-! ### Requests -/

/-- Whether two requests agree up to the numbers of the builders that are paired. -/
inductive RequestLike (pairing : Pairing) : Request → Request → Prop
  | call (entity : Entity) {args others : List Value} :
    ValuesLike pairing args others →
    RequestLike pairing (.call entity args) (.call entity others)
  | apply {f g : Binding} {args others : List Value} :
    f.Like pairing g →
    ValuesLike pairing args others →
    RequestLike pairing (.apply f args) (.apply g others)
  | literal (type : Ty) (text : String) :
    RequestLike pairing (.literal type text) (.literal type text)

theorem RequestLike.symm {request other : Request} (h : RequestLike pairing request other) :
  RequestLike pairing.symm other request
  := by
  cases h with
  | call entity hargs => exact .call entity (ValuesLike.symm hargs)
  | apply hfg hargs => exact .apply (Binding.Like.symm hfg) (ValuesLike.symm hargs)
  | literal type text => exact .literal type text

/-- Whether answers are mirrored by others, for all requests that agree. -/
def Answers (mirror : Mirror) (ask : Request → Eval Value)
    (asks : Nat → Request → Eval Value) : Prop :=
  ∀ pairing request other, RequestLike pairing request other →
    mirror.Simulates pairing (ask request) (fun fuel => asks fuel other) Value.Like

end Mirror
end TypedModules
