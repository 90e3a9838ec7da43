import Mathlib.Data.List.Forall2
import TypedModules.Proofs.Alias.Region
import TypedModules.Proofs.Eval.Closures
import TypedModules.Proofs.Ty.Same

/-!
# Values that are alike

Two values are alike if they are built in the same way and what stands at the same place in both
is alike: the headers of structs, interfaces, unions, what bindings call, and list builders.  What
of these is alike is left open, so that the sameness which the program itself decides is one such
relation (`same_iff`), and agreement up to the numbers of builders is another.  A value is alike to
itself if all that it contains is (`alike_self_iff`), so that a property of what values contain is
a likeness as well.
-/

namespace TypedModules

open Relation

/-- Which headers, interfaces, unions, targets and builders are alike. -/
structure Likeness where
  headers : StructHeader → StructHeader → Prop
  interfaces : Interface → Interface → Prop
  unions : Union → Union → Prop
  targets : Target → Target → Prop
  builders : Nat → Nat → Prop

mutual

/-- Whether two values are built in the same way of what is alike. -/
inductive Value.Alike (likeness : Likeness) : Value → Value → Prop
  | integer (n : Int) : Value.Alike likeness (.integer n) (.integer n)
  | natural (n : Nat) : Value.Alike likeness (.natural n) (.natural n)
  | boolean (b : Bool) : Value.Alike likeness (.boolean b) (.boolean b)
  | list {as bs : List Value} :
    List.Forall₂ (Value.Alike likeness) as bs →
    Value.Alike likeness (.list as) (.list bs)
  | success {v w : Value} :
    Value.Alike likeness v w →
    Value.Alike likeness (.success v) (.success w)
  | failure : Value.Alike likeness .failure .failure
  | string (text : String) : Value.Alike likeness (.string text) (.string text)
  | struct {a b : StructHeader} {as bs : List Value} :
    likeness.headers a b →
    List.Forall₂ (Value.Alike likeness) as bs →
    Value.Alike likeness (.struct a as) (.struct b bs)
  | object {a b : Interface} {as bs : List Binding} :
    likeness.interfaces a b →
    List.Forall₂ (Binding.Alike likeness) as bs →
    Value.Alike likeness (.object a as) (.object b bs)
  | union {a b : Union} (option : Nat) {p q : Option Value} :
    likeness.unions a b →
    Option.Rel (Value.Alike likeness) p q →
    Value.Alike likeness (.union a option p) (.union b option q)
  | function {f g : Binding} :
    Binding.Alike likeness f g →
    Value.Alike likeness (.function f) (.function g)
  | builder {m n : Nat} :
    likeness.builders m n →
    Value.Alike likeness (.builder m) (.builder n)

/-- Whether two bindings call what is alike and have the same slots open and the same types
chosen, with alike values in the others. -/
inductive Binding.Alike (likeness : Likeness) : Binding → Binding → Prop
  | mk {a b : Target} {as bs : List (Option Value)} {cs ds : List (Option Ty)} :
    likeness.targets a b →
    List.Forall₂ (Option.Rel (Value.Alike likeness)) as bs →
    Ty.sameOptions cs ds = true →
    Binding.Alike likeness (.mk a as cs) (.mk b bs ds)

end

/-- Induction over values and bindings that are alike. -/
theorem alike_induction {likeness : Likeness} {P : Value → Value → Prop}
    {Q : Binding → Binding → Prop}
    (integer : ∀ n, P (.integer n) (.integer n)) (natural : ∀ n, P (.natural n) (.natural n))
    (boolean : ∀ b, P (.boolean b) (.boolean b))
    (list : ∀ as bs, List.Forall₂ P as bs → P (.list as) (.list bs))
    (success : ∀ v w, P v w → P (.success v) (.success w)) (failure : P .failure .failure)
    (string : ∀ text, P (.string text) (.string text))
    (struct : ∀ a b as bs, likeness.headers a b → List.Forall₂ P as bs →
      P (.struct a as) (.struct b bs))
    (object : ∀ a b as bs, likeness.interfaces a b → List.Forall₂ Q as bs →
      P (.object a as) (.object b bs))
    (union : ∀ a b option p q, likeness.unions a b → Option.Rel P p q →
      P (.union a option p) (.union b option q))
    (function : ∀ f g, Q f g → P (.function f) (.function g))
    (builder : ∀ m n, likeness.builders m n → P (.builder m) (.builder n))
    (binding : ∀ a b as bs cs ds, likeness.targets a b → List.Forall₂ (Option.Rel P) as bs →
      Ty.sameOptions cs ds = true → Q (.mk a as cs) (.mk b bs ds)) :
  (∀ v w, v.Alike likeness w → P v w) ∧ ∀ f g, f.Alike likeness g → Q f g
  := by
  have key : ∀ v w, v.Alike likeness w → P v w := fun v w h =>
    @Value.Alike.rec likeness (fun v w _ => P v w) (fun f g _ => Q f g)
      (fun as bs _ => List.Forall₂ P as bs) (fun as bs _ => List.Forall₂ Q as bs)
      (fun p q _ => Option.Rel P p q) (fun as bs _ => List.Forall₂ (Option.Rel P) as bs)
      integer natural boolean (fun _ => list _ _) (fun _ => success _ _) failure string
      (fun h _ => struct _ _ _ _ h) (fun h _ => object _ _ _ _ h)
      (fun option _ _ h _ => union _ _ option _ _ h) (fun _ => function _ _) (builder _ _)
      (fun h _ hchosen hslots => binding _ _ _ _ _ _ h hslots hchosen) .nil (fun _ _ => .cons)
      .nil (fun _ _ => .cons) (fun _ => .some) .none .nil (fun _ _ => .cons) v w h
  refine ⟨key, ?_⟩
  rintro _ _ ⟨htarget, hslots, hchosen⟩
  exact binding _ _ _ _ _ _ htarget (hslots.imp fun _ _ h => rel_imp h key) hchosen

/-! ### Likenesses compared -/

namespace Likeness

/-- Whether all that is alike in one sense is alike in another. -/
structure Implies (first second : Likeness) : Prop where
  headers : ∀ a b, first.headers a b → second.headers a b
  interfaces : ∀ a b, first.interfaces a b → second.interfaces a b
  unions : ∀ a b, first.unions a b → second.unions a b
  targets : ∀ a b, first.targets a b → second.targets a b
  builders : ∀ m n, first.builders m n → second.builders m n

/-- The likeness read from right to left. -/
def symm (likeness : Likeness) : Likeness where
  headers a b := likeness.headers b a
  interfaces a b := likeness.interfaces b a
  unions a b := likeness.unions b a
  targets a b := likeness.targets b a
  builders m n := likeness.builders n m

/-- One likeness after another. -/
def comp (first second : Likeness) : Likeness where
  headers a c := ∃ b, first.headers a b ∧ second.headers b c
  interfaces a c := ∃ b, first.interfaces a b ∧ second.interfaces b c
  unions a c := ∃ b, first.unions a b ∧ second.unions b c
  targets a c := ∃ b, first.targets a b ∧ second.targets b c
  builders m k := ∃ n, first.builders m n ∧ second.builders n k

end Likeness

section Compared

variable {first second : Likeness}

theorem alike_imp (himp : first.Implies second) :
  (∀ v w : Value, v.Alike first w → v.Alike second w)
    ∧ ∀ f g : Binding, f.Alike first g → f.Alike second g
  := by
  apply alike_induction
  case integer => exact .integer
  case natural => exact .natural
  case boolean => exact .boolean
  case list => exact fun _ _ => .list
  case success => exact fun _ _ => .success
  case failure => exact .failure
  case string => exact .string
  case struct => exact fun a b _ _ h => .struct (himp.headers a b h)
  case object => exact fun a b _ _ h => .object (himp.interfaces a b h)
  case union => exact fun a b option _ _ h => .union option (himp.unions a b h)
  case function => exact fun _ _ => .function
  case builder => exact fun m n h => .builder (himp.builders m n h)
  case binding => exact fun a b _ _ _ _ h => .mk (himp.targets a b h)

theorem alike_symm :
  (∀ v w : Value, v.Alike first w → w.Alike first.symm v)
    ∧ ∀ f g : Binding, f.Alike first g → g.Alike first.symm f
  := by
  apply alike_induction
  case integer => exact .integer
  case natural => exact .natural
  case boolean => exact .boolean
  case list => exact fun _ _ h => .list h.flip
  case success => exact fun _ _ => .success
  case failure => exact .failure
  case string => exact .string
  case struct => exact fun _ _ _ _ h hs => .struct h hs.flip
  case object => exact fun _ _ _ _ h hs => .object h hs.flip
  case union => exact fun _ _ option _ _ h hpq => .union option h (rel_flip hpq)
  case function => exact fun _ _ => .function
  case builder => exact fun _ _ h => .builder h
  case binding =>
    exact fun _ _ _ _ _ _ h hs hchosen =>
      .mk h (hs.flip.imp fun _ _ => rel_flip) (Ty.sameOptions_symm hchosen)

/-- What is alike to what is alike to others is alike to these. -/
theorem alike_comp :
  (∀ v w : Value, v.Alike first w → ∀ u, w.Alike second u → v.Alike (first.comp second) u)
    ∧ ∀ f g : Binding, f.Alike first g → ∀ e, g.Alike second e → f.Alike (first.comp second) e
  := by
  apply alike_induction
  case integer | natural | boolean | failure | string =>
    intros
    rename_i h
    cases h
    constructor
  case list =>
    rintro as bs h _ ⟨⟩
    exact .list (related_trans h ‹_› fun _ _ _ _ h h' => h _ h')
  case success =>
    rintro _ _ h _ ⟨⟩
    exact .success (h _ ‹_›)
  case struct =>
    rintro _ _ _ _ h hs _ ⟨⟩
    exact .struct ⟨_, h, ‹_›⟩ (related_trans hs ‹_› fun _ _ _ _ h h' => h _ h')
  case object =>
    rintro _ _ _ _ h hs _ ⟨⟩
    exact .object ⟨_, h, ‹_›⟩ (related_trans hs ‹_› fun _ _ _ _ h h' => h _ h')
  case union =>
    rintro _ _ option _ _ h hpq _ ⟨⟩
    exact .union option ⟨_, h, ‹_›⟩ (rel_comp hpq ‹_› fun _ _ _ h h' => h _ h')
  case function =>
    rintro _ _ h _ ⟨⟩
    exact .function (h _ ‹_›)
  case builder =>
    rintro _ _ h _ ⟨⟩
    exact .builder ⟨_, h, ‹_›⟩
  case binding =>
    rintro _ _ _ _ _ _ h hs hchosen _ ⟨h', hs', hchosen'⟩
    refine .mk ⟨_, h, h'⟩ (related_trans hs hs' fun _ _ _ _ h h' => ?_)
      (Ty.sameOptions_trans hchosen hchosen')
    exact rel_comp h h' fun _ _ _ h h' => h _ h'

end Compared

/-! ### Likeness to itself -/

/-- Whether what a value is apart from its parts is alike to itself. -/
def Likeness.Admits (likeness : Likeness) : Value → Prop
  | .struct header _ => likeness.headers header header
  | .object interface _ => likeness.interfaces interface interface
  | .union union _ _ => likeness.unions union union
  | .function binding => likeness.targets binding.target binding.target
  | .builder number => likeness.builders number number
  | _ => True

/-- Induction over the parts of values. -/
theorem part_induction {P : Value → Prop} (step : ∀ value, (∀ part ∈ value.parts, P part) → P value)
    (value : Value) :
  P value
  := by
  revert value
  refine (value_induction (Q := fun binding => P (.function binding)) ?integer ?natural ?boolean
    ?list ?success ?failure ?string ?struct ?object ?union ?function ?builder ?binding).1
  case list | struct =>
    intros
    exact step _ ‹_›
  case success => exact fun value h => step _ (by simpa [Value.parts])
  case object => exact fun interface methods h => step _ (by simpa [Value.parts])
  case union => exact fun union option payload h => step _ (by simpa [Value.parts])
  case function => exact fun _ h => h
  case binding =>
    intro target slots chosen h
    exact step _ (by simpa [Value.parts, Binding.slots, List.reduceOption_mem_iff])
  all_goals
    intros
    exact step _ fun _ hpart => absurd hpart List.not_mem_nil

section Self

variable {likeness : Likeness} {value : Value}

theorem rel_self_iff {α : Type} {R : α → α → Prop} {a : Option α} :
  Option.Rel R a a ↔ ∀ b, a = some b → R b b
  := by
  cases a with
  | none => simp
  | some a => simp

theorem Binding.alike_self_iff {binding : Binding} :
  binding.Alike likeness binding
    ↔ likeness.targets binding.target binding.target
      ∧ ∀ value, some value ∈ binding.slots → value.Alike likeness value
  := by
  obtain ⟨target, slots, chosen⟩ := binding
  constructor
  · rintro ⟨htarget, hslots, -⟩
    rw [List.forall₂_same] at hslots
    exact ⟨htarget, fun value hvalue => rel_self_iff.mp (hslots _ hvalue) value rfl⟩
  · rintro ⟨htarget, hslots⟩
    refine .mk htarget (List.forall₂_same.mpr fun slot hslot => ?_) (Ty.sameOptions_refl chosen)
    rw [rel_self_iff]
    rintro value rfl
    exact hslots value hslot

theorem Value.alike_self_iff_parts :
  value.Alike likeness value
    ↔ likeness.Admits value ∧ ∀ part ∈ value.parts, part.Alike likeness part
  := by
  constructor
  · intro h
    cases h with
    | list h => exact ⟨trivial, List.forall₂_same.mp h⟩
    | success h => exact ⟨trivial, by simpa [parts]⟩
    | struct hheader h => exact ⟨hheader, List.forall₂_same.mp h⟩
    | object hinterface h =>
      refine ⟨hinterface, ?_⟩
      simpa [parts] using fun method hmethod =>
        Alike.function (List.forall₂_same.mp h method hmethod)
    | union option hunion h =>
      refine ⟨hunion, ?_⟩
      simpa [parts] using rel_self_iff.mp h
    | function h =>
      rw [Binding.alike_self_iff] at h
      exact ⟨h.1, by simpa [parts, List.reduceOption_mem_iff] using h.2⟩
    | builder h => exact ⟨h, by simp [parts]⟩
    | _ => exact ⟨trivial, by simp [parts]⟩
  · rintro ⟨hself, hparts⟩
    cases value with
    | integer => exact .integer _
    | natural => exact .natural _
    | boolean => exact .boolean _
    | list items => exact .list (List.forall₂_same.mpr hparts)
    | success value => exact .success (hparts value (List.mem_singleton.mpr rfl))
    | failure => exact .failure
    | string => exact .string _
    | struct header members => exact .struct hself (List.forall₂_same.mpr hparts)
    | object interface methods =>
      refine .object hself (List.forall₂_same.mpr fun method hmethod => ?_)
      have h := hparts (.function method) (List.mem_map_of_mem hmethod)
      cases h
      assumption
    | union union option payload =>
      refine .union option hself (rel_self_iff.mpr fun value hvalue => ?_)
      exact hparts value (by simpa [parts] using hvalue)
    | function binding =>
      refine .function (Binding.alike_self_iff.mpr ⟨hself, fun value hvalue => ?_⟩)
      exact hparts value (by simpa [parts, List.reduceOption_mem_iff] using hvalue)
    | builder => exact .builder hself

/-- A value is alike to itself exactly if all that it contains is. -/
theorem Value.alike_self_iff :
  value.Alike likeness value ↔ ∀ part, value.Contains part → likeness.Admits part
  := by
  constructor
  · intro h part hpart
    have hself : part.Alike likeness part := by
      induction hpart with
      | refl => exact h
      | tail _ hstep ih => exact (alike_self_iff_parts.mp ih).2 _ hstep
    exact (alike_self_iff_parts.mp hself).1
  · intro h
    induction value using part_induction with
    | step value ih =>
      rw [alike_self_iff_parts]
      exact ⟨h value .refl, fun part hpart => ih part hpart fun deep hdeep =>
        h deep (.head hpart hdeep)⟩

end Self

/-! ### Sameness -/

/-- The likeness that the program decides: by the entities of headers, interfaces and unions, by
the sites of closures, and by the numbers of builders. -/
def sameness : Likeness where
  headers a b := a.entity = b.entity
  interfaces a b := a.entity = b.entity
  unions a b := a.entity = b.entity
  targets a b := a.same b = true
  builders m n := m = n

theorem sameValues_iff_forall₂ {as bs : List Value} :
  sameValues as bs = true ↔ List.Forall₂ (fun v w => v.same w = true) as bs
  := by
  induction as generalizing bs with
  | nil => cases bs <;> simp [sameValues]
  | cons a rest ih => cases bs <;> simp [sameValues, ih]

theorem sameBindings_iff_forall₂ {as bs : List Binding} :
  sameBindings as bs = true ↔ List.Forall₂ (fun f g => f.same g = true) as bs
  := by
  induction as generalizing bs with
  | nil => cases bs <;> simp [sameBindings]
  | cons a rest ih => cases bs <;> simp [sameBindings, ih]

theorem sameSlots_iff_forall₂ {as bs : List (Option Value)} :
  sameSlots as bs = true ↔ List.Forall₂ (Option.Rel fun v w => v.same w = true) as bs
  := by
  induction as generalizing bs with
  | nil => cases bs <;> simp [sameSlots]
  | cons a rest ih =>
    cases bs with
    | nil => cases a <;> simp [sameSlots]
    | cons b others => cases a <;> cases b <;> simp [sameSlots, ih]

theorem same_of_alike :
  (∀ v w : Value, v.Alike sameness w → v.same w = true)
    ∧ ∀ f g : Binding, f.Alike sameness g → f.same g = true
  := by
  apply alike_induction
  case list =>
    intro as bs h
    rw [Value.same, sameValues_iff_forall₂]
    exact h
  case struct =>
    intro a b as bs h hs
    rw [Value.same, Bool.and_eq_true, beq_iff_eq, sameValues_iff_forall₂]
    exact ⟨h, hs⟩
  case object =>
    intro a b as bs h hs
    rw [Value.same, Bool.and_eq_true, beq_iff_eq, sameBindings_iff_forall₂]
    exact ⟨h, hs⟩
  case union =>
    intro a b option p q h hpq
    have hentity : a.entity = b.entity := h
    cases hpq with
    | some hvw => simp [Value.same, hentity, hvw]
    | none => simp [Value.same, hentity]
  case binding =>
    intro a b as bs cs ds h hs hchosen
    rw [Binding.same, Bool.and_eq_true, Bool.and_eq_true, sameSlots_iff_forall₂]
    exact ⟨⟨h, hs⟩, hchosen⟩
  case success => exact fun v w h => by rwa [Value.same]
  case function => exact fun f g h => by rwa [Value.same]
  case builder => exact fun m n h => by rwa [Value.same, beq_iff_eq]
  all_goals
    intros
    simp [Value.same]

theorem alike_of_same :
  (∀ v w : Value, v.same w = true → v.Alike sameness w)
    ∧ ∀ f g : Binding, f.same g = true → f.Alike sameness g
  := by
  apply value_induction
  case list =>
    intro items ih w h
    cases w <;> simp only [Value.same, Bool.false_eq_true] at h
    rw [sameValues_iff_forall₂] at h
    exact .list (related_of_mem h ih)
  case success =>
    intro value ih w h
    cases w <;> simp only [Value.same, Bool.false_eq_true] at h
    exact .success (ih _ h)
  case struct =>
    intro header members ih w h
    cases w <;> simp only [Value.same, Bool.false_eq_true, Bool.and_eq_true, beq_iff_eq] at h
    rw [sameValues_iff_forall₂] at h
    exact .struct h.1 (related_of_mem h.2 ih)
  case object =>
    intro interface methods ih w h
    cases w <;> simp only [Value.same, Bool.false_eq_true, Bool.and_eq_true, beq_iff_eq] at h
    rw [sameBindings_iff_forall₂] at h
    exact .object h.1 (related_of_mem h.2 ih)
  case union =>
    intro union option payload ih w h
    cases w <;> try simp [Value.same] at h
    rename_i other index payload'
    cases payload <;> cases payload' <;>
      simp only [Value.same, Bool.false_eq_true, Bool.and_eq_true, beq_iff_eq] at h
    · obtain ⟨hunion, rfl⟩ := h
      exact .union option hunion .none
    · obtain ⟨⟨hunion, rfl⟩, hvalue⟩ := h
      exact .union option hunion (.some (ih _ rfl _ hvalue))
  case function =>
    intro binding ih w h
    cases w <;> simp only [Value.same, Bool.false_eq_true] at h
    exact .function (ih _ h)
  case binding =>
    rintro target slots chosen ih ⟨target', slots', chosen'⟩ h
    rw [Binding.same, Bool.and_eq_true, Bool.and_eq_true, sameSlots_iff_forall₂] at h
    obtain ⟨⟨htarget, hslots⟩, hchosen⟩ := h
    refine .mk htarget (related_of_mem hslots ?_) hchosen
    rintro _ hslot _ (h | _)
    · exact .some (ih _ hslot _ h)
    · exact .none
  all_goals
    intros
    rename_i w h
    cases w <;> simp only [Value.same, Bool.false_eq_true, beq_iff_eq] at h
    subst_vars
    constructor
  case builder => exact rfl

/-- The sameness that the program decides is a likeness. -/
theorem same_iff {v w : Value} :
  v.same w = true ↔ v.Alike sameness w
  := ⟨alike_of_same.1 v w, same_of_alike.1 v w⟩

theorem Target.same_refl (target : Target) :
  target.same target = true
  := by
  cases target <;> simp [same]

theorem Target.same_symm {a b : Target} (h : a.same b = true) :
  b.same a = true
  := by
  cases a <;> cases b <;> simp only [same, Bool.false_eq_true, beq_iff_eq] at h ⊢ <;> exact h.symm

theorem Target.same_trans {a b c : Target} (h : a.same b = true) (h' : b.same c = true) :
  a.same c = true
  := by
  cases a <;> cases b <;> simp only [same, Bool.false_eq_true, beq_iff_eq] at h <;>
    cases c <;> simp only [same, Bool.false_eq_true, beq_iff_eq] at h' ⊢ <;> exact h.trans h'

/-- Sameness of values is an equivalence. -/
theorem equivalence_same :
  Equivalence fun v w : Value => v.same w = true
  := by
  constructor
  case refl =>
    intro value
    rw [same_iff, Value.alike_self_iff]
    intro part _
    cases part with
    | function binding => exact binding.target.same_refl
    | struct | object | union | builder => rfl
    | _ => trivial
  case symm =>
    intro v w h
    rw [same_iff] at h ⊢
    have himp : sameness.symm.Implies sameness :=
      ⟨fun _ _ => Eq.symm, fun _ _ => Eq.symm, fun _ _ => Eq.symm, fun _ _ => Target.same_symm,
        fun _ _ => Eq.symm⟩
    exact (alike_imp himp).1 w v (alike_symm.1 v w h)
  case trans =>
    intro v w u h h'
    rw [same_iff] at h h' ⊢
    refine (alike_imp ?_).1 v u (alike_comp.1 v w h u h')
    constructor
    case targets => exact fun _ _ ⟨_, h, h'⟩ => Target.same_trans h h'
    all_goals exact fun _ _ ⟨_, h, h'⟩ => Eq.trans h h'

end TypedModules
