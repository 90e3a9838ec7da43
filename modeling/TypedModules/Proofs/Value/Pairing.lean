import TypedModules.Proofs.Value.Alike

/-!
# Values up to the numbers of list builders

Two evaluations create list builders of their own.  A pairing says which builder of the one
corresponds to which of the other, and relates values that agree up to this: `Value.Like`.  While
both go on a pairing grows by builders that are new on both sides (`Pairing.Extends`), so that
values stay related.  The sameness of values is kept (`Value.Like.same_eq`), for a builder is
paired with one builder at most, on either side.
-/

namespace TypedModules

/-- Which builder of a store corresponds to which of another, where the stores have `left` and
`right` builders. -/
structure Pairing where
  left : Nat
  right : Nat
  pairs : Nat → Nat → Prop
  bounded : ∀ {m n}, pairs m n → m < left ∧ n < right
  unique : ∀ {m n m' n'}, pairs m n → pairs m' n' → (m = m' ↔ n = n')

namespace Pairing

/-- No builder is paired. -/
def none (left right : Nat) : Pairing where
  left := left
  right := right
  pairs _ _ := False
  bounded := False.elim
  unique := False.elim

/-- Every builder is paired with itself. -/
def same (count : Nat) : Pairing where
  left := count
  right := count
  pairs m n := m = n ∧ m < count
  bounded := by rintro m _ ⟨rfl, h⟩; exact ⟨h, h⟩
  unique := by rintro m _ m' _ ⟨rfl, -⟩ ⟨rfl, -⟩; exact Iff.rfl

/-- The pairing read from right to left. -/
def symm (pairing : Pairing) : Pairing where
  left := pairing.right
  right := pairing.left
  pairs m n := pairing.pairs n m
  bounded h := (pairing.bounded h).symm
  unique h h' := (pairing.unique h h').symm

/-- One pairing after another. -/
def comp (first second : Pairing) : Pairing where
  left := first.left
  right := second.right
  pairs m k := ∃ n, first.pairs m n ∧ second.pairs n k
  bounded := fun ⟨_, h, h'⟩ => ⟨(first.bounded h).1, (second.bounded h').2⟩
  unique := fun ⟨_, h₁, h₁'⟩ ⟨_, h₂, h₂'⟩ => (first.unique h₁ h₂).trans (second.unique h₁' h₂')

/-- The pairing after both stores have got a new builder. -/
def create (pairing : Pairing) : Pairing where
  left := pairing.left + 1
  right := pairing.right + 1
  pairs m n := pairing.pairs m n ∨ m = pairing.left ∧ n = pairing.right
  bounded := by
    rintro m n (h | ⟨rfl, rfl⟩)
    · have hbounded := pairing.bounded h
      omega
    · omega
  unique := by
    rintro m n m' n' (h | ⟨rfl, rfl⟩) (h' | ⟨rfl, rfl⟩)
    · exact pairing.unique h h'
    · have hbounded := pairing.bounded h
      omega
    · have hbounded := pairing.bounded h'
      omega
    · simp

/-- Whether a pairing goes on where another ends: it pairs the builders that the other one pairs,
and otherwise only builders that are new in both stores. -/
structure Extends (later earlier : Pairing) : Prop where
  left : earlier.left ≤ later.left
  right : earlier.right ≤ later.right
  old : ∀ {m n}, earlier.pairs m n → later.pairs m n
  new : ∀ {m n}, later.pairs m n → earlier.pairs m n ∨ earlier.left ≤ m ∧ earlier.right ≤ n

theorem Extends.refl (pairing : Pairing) :
  pairing.Extends pairing
  := ⟨Nat.le_refl _, Nat.le_refl _, id, .inl⟩

theorem Extends.trans {first second third : Pairing} (h : third.Extends second)
    (h' : second.Extends first) :
  third.Extends first
  := by
  constructor
  case left => exact Nat.le_trans h'.left h.left
  case right => exact Nat.le_trans h'.right h.right
  case old => exact fun hpair => h.old (h'.old hpair)
  case new =>
    intro m n hpair
    obtain hpair | ⟨hm, hn⟩ := h.new hpair
    · exact h'.new hpair
    · exact .inr ⟨Nat.le_trans h'.left hm, Nat.le_trans h'.right hn⟩

theorem extends_create (pairing : Pairing) :
  pairing.create.Extends pairing
  := by
  constructor
  case left => exact Nat.le_succ _
  case right => exact Nat.le_succ _
  case old => exact .inl
  case new =>
    rintro m n (h | ⟨rfl, rfl⟩)
    · exact .inl h
    · exact .inr ⟨Nat.le_refl _, Nat.le_refl _⟩

/-- What goes on from a pairing, followed by what goes on from the stores on its right as they
were, goes on from the pairing. -/
theorem Extends.comp {pairing first second : Pairing} (h : first.Extends pairing)
    (h' : second.Extends (.same pairing.right)) :
  (first.comp second).Extends pairing
  := by
  constructor
  case left => exact h.left
  case right => exact h'.right
  case old => exact fun {m n} hpair => ⟨n, h.old hpair, h'.old ⟨rfl, (pairing.bounded hpair).2⟩⟩
  case new =>
    rintro m k ⟨n, hfirst, hsecond⟩
    obtain hpair | ⟨hm, hn⟩ := h.new hfirst
    · have hkept : second.pairs n n := h'.old ⟨rfl, (pairing.bounded hpair).2⟩
      obtain rfl := (second.unique hkept hsecond).mp rfl
      exact .inl hpair
    · obtain ⟨-, hlt⟩ | ⟨-, hk⟩ := h'.new hsecond
      · exact absurd hlt (Nat.not_lt.mpr hn)
      · exact .inr ⟨hm, hk⟩

/-- Being the same but for builders, which have to be paired. -/
def likeness (pairing : Pairing) : Likeness where
  headers := Eq
  interfaces := Eq
  unions := Eq
  targets := Eq
  builders := pairing.pairs

end Pairing

/-- Whether two values agree up to the numbers of the builders that are paired. -/
abbrev Value.Like (pairing : Pairing) (v w : Value) : Prop :=
  v.Alike pairing.likeness w

/-- Whether two bindings agree up to the numbers of the builders that are paired. -/
abbrev Binding.Like (pairing : Pairing) (f g : Binding) : Prop :=
  f.Alike pairing.likeness g

/-- Whether two lists of values agree up to the numbers of the builders that are paired. -/
abbrev ValuesLike (pairing : Pairing) : List Value → List Value → Prop :=
  List.Forall₂ (Value.Like pairing)

/-- Whether two lists of slots are open at the same places and agree at the others. -/
abbrev SlotsLike (pairing : Pairing) : List (Option Value) → List (Option Value) → Prop :=
  List.Forall₂ (Option.Rel (Value.Like pairing))

section Like

variable {pairing later : Pairing} {v w : Value}

theorem likeness_implies (h : later.Extends pairing) :
  pairing.likeness.Implies later.likeness
  := ⟨fun _ _ => id, fun _ _ => id, fun _ _ => id, fun _ _ => id, fun _ _ => h.old⟩

theorem Value.Like.extend (h : later.Extends pairing) (hlike : v.Like pairing w) :
  v.Like later w
  := (alike_imp (likeness_implies h)).1 v w hlike

theorem Binding.Like.extend (h : later.Extends pairing) {f g : Binding}
    (hlike : f.Like pairing g) :
  f.Like later g
  := (alike_imp (likeness_implies h)).2 f g hlike

theorem ValuesLike.extend (h : later.Extends pairing) {vs ws : List Value}
    (hlike : ValuesLike pairing vs ws) :
  ValuesLike later vs ws
  := hlike.imp fun _ _ hvw => hvw.extend h

theorem SlotsLike.extend (h : later.Extends pairing) {vs ws : List (Option Value)}
    (hlike : SlotsLike pairing vs ws) :
  SlotsLike later vs ws
  := hlike.imp fun _ _ hvw => rel_imp hvw fun _ _ hvw => hvw.extend h

theorem likeness_symm_implies (pairing : Pairing) :
  pairing.likeness.symm.Implies pairing.symm.likeness
  := ⟨fun _ _ => Eq.symm, fun _ _ => Eq.symm, fun _ _ => Eq.symm, fun _ _ => Eq.symm, fun _ _ => id⟩

theorem Value.Like.symm (h : v.Like pairing w) :
  w.Like pairing.symm v
  := (alike_imp (likeness_symm_implies pairing)).1 w v (alike_symm.1 v w h)

theorem Binding.Like.symm {f g : Binding} (h : f.Like pairing g) :
  g.Like pairing.symm f
  := (alike_imp (likeness_symm_implies pairing)).2 g f (alike_symm.2 f g h)

theorem ValuesLike.symm {vs ws : List Value} (h : ValuesLike pairing vs ws) :
  ValuesLike pairing.symm ws vs
  := h.flip.imp fun _ _ hvw => Value.Like.symm hvw

theorem Value.Like.comp {other : Pairing} {u : Value} (h : v.Like pairing w)
    (h' : w.Like other u) :
  v.Like (pairing.comp other) u
  := by
  refine (alike_imp ?_).1 v u (alike_comp.1 v w h u h')
  constructor
  case builders => exact fun _ _ => id
  all_goals exact fun _ _ ⟨_, h, h'⟩ => h.trans h'

/-- Values agree in their kind. -/
theorem Value.Like.kindName (h : v.Like pairing w) :
  v.kindName = w.kindName
  := by
  cases h <;> rfl

/-- The sameness of two values carries over to those with which they agree. -/
theorem Value.Like.same {v' w' : Value} (h : v.Like pairing w) (h' : v'.Like pairing w')
    (hsame : v.same v' = true) :
  w.same w' = true
  := by
  rw [same_iff] at hsame ⊢
  have hback := alike_symm.1 v w h
  refine (alike_imp ?_).1 w w' (alike_comp.1 w v' (alike_comp.1 w v hback v' hsame) w' h')
  constructor
  case builders =>
    rintro m n ⟨k', ⟨k, hk, rfl⟩, hk'⟩
    exact (pairing.unique hk hk').mp rfl
  all_goals
    rintro a b ⟨_, ⟨_, rfl, h⟩, rfl⟩
    exact h

/-- Whether two values are the same does not depend on the numbers of builders. -/
theorem Value.Like.same_eq {v' w' : Value} (h : v.Like pairing w) (h' : v'.Like pairing w') :
  v.same v' = w.same w'
  := Bool.eq_iff_iff.mpr ⟨h.same h', h.symm.same h'.symm⟩

end Like

/-! ### Stores -/

/-- Whether two stores have as many builders as a pairing says, and the builders that are paired
hold values that agree. -/
structure Store.Like (pairing : Pairing) (store other : Store) : Prop where
  left : store.next = pairing.left
  right : other.next = pairing.right
  items : ∀ {m n}, pairing.pairs m n → ValuesLike pairing (store.items m) (other.items n)

namespace Store.Like

variable {pairing : Pairing} {store other : Store}

theorem none (store other : Store) :
  store.Like (.none store.next other.next) other
  := ⟨rfl, rfl, False.elim⟩

theorem symm (h : store.Like pairing other) :
  other.Like pairing.symm store
  := ⟨h.right, h.left, fun hpair => ValuesLike.symm (h.items hpair)⟩

theorem comp {later : Pairing} {last : Store} (h : store.Like pairing other)
    (h' : other.Like later last) :
  store.Like (pairing.comp later) last
  := ⟨h.left, h'.right, fun ⟨_, hpair, hpair'⟩ =>
    related_trans (h.items hpair) (h'.items hpair') fun _ _ _ _ hvw hwu => hvw.comp hwu⟩

theorem create (h : store.Like pairing other) :
  store.create.Like pairing.create other.create
  := by
  constructor
  case left => simp [h.left, Pairing.create]
  case right => simp [h.right, Pairing.create]
  case items =>
    rintro m n (hpair | ⟨rfl, rfl⟩)
    · simpa using ValuesLike.extend pairing.extends_create (h.items hpair)
    · rw [items_create, items_create, items_of_le _ (Nat.le_of_eq h.left),
        items_of_le _ (Nat.le_of_eq h.right)]
      exact .nil

theorem append (h : store.Like pairing other) {m n : Nat} (hpair : pairing.pairs m n)
    {vs ws : List Value} (hlike : ValuesLike pairing vs ws) :
  (store.append m vs).Like pairing (other.append n ws)
  := by
  have hbounded := pairing.bounded hpair
  rw [← h.left, ← h.right] at hbounded
  constructor
  case left => simp [h.left]
  case right => simp [h.right]
  case items =>
    intro m' n' hpair'
    by_cases e : m' = m
    · obtain rfl := e
      obtain rfl := (pairing.unique hpair' hpair).mp rfl
      rw [items_append _ _ _ hbounded.1, items_append _ _ _ hbounded.2]
      exact List.rel_append (h.items hpair') hlike
    · have e' : n' ≠ n := fun e' => e ((pairing.unique hpair' hpair).mpr e')
      rw [items_append_of_ne _ _ e, items_append_of_ne _ _ e']
      exact h.items hpair'

end Store.Like
end TypedModules
