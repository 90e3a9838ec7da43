import TypedModules.Value.Basic

/-!
# The store of list builders

List builders are the only values that change.  The store holds what has been appended to
each of them, by its number.
-/

namespace TypedModules

/-- The items appended to each list builder so far. -/
structure Store where
  contents : Array (Array Value) := #[]
deriving Inhabited

namespace Store

/-- The items appended to a builder. -/
def items (store : Store) (number : Nat) : List Value :=
  (store.contents.getD number #[]).toList

/-- The number of items appended to a builder. -/
def size (store : Store) (number : Nat) : Nat :=
  (store.contents.getD number #[]).size

/-- The number of the next builder. -/
def next (store : Store) : Nat :=
  store.contents.size

/-- The store with a new builder, to which nothing has been appended. -/
def create (store : Store) : Store :=
  ⟨store.contents.push #[]⟩

/-- The store after items have been appended to a builder. -/
def append (store : Store) (number : Nat) (items : List Value) : Store :=
  ⟨store.contents.modify number (· ++ items.toArray)⟩

@[simp]
theorem next_create (store : Store) :
  store.create.next = store.next + 1
  := by
  simp [create, next]

@[simp]
theorem next_append (store : Store) (number : Nat) (more : List Value) :
  (store.append number more).next = store.next
  := by
  simp [append, next]

/-- A number that no builder has stands for nothing. -/
theorem items_of_le (store : Store) {number : Nat} (h : store.next ≤ number) :
  store.items number = []
  := by
  simp only [next] at h
  simp [items, Nat.not_lt.mpr h]

@[simp]
theorem items_create (store : Store) (number : Nat) :
  store.create.items number = store.items number
  := by
  obtain hlt | rfl | hgt := Nat.lt_trichotomy number store.next
  · simp only [next] at hlt
    simp [create, items, Array.getElem?_push, Nat.ne_of_lt hlt]
  · rw [items_of_le store (Nat.le_refl _)]
    simp [create, items, next]
  · rw [items_of_le store (Nat.le_of_lt hgt), items_of_le store.create]
    rwa [next_create]

theorem items_append (store : Store) (number : Nat) (more : List Value)
    (h : number < store.next) :
  (store.append number more).items number = store.items number ++ more
  := by
  simp only [next] at h
  simp [append, items, h, Array.getElem_modify]

theorem items_append_of_ne (store : Store) {number target : Nat} (more : List Value)
    (h : number ≠ target) :
  (store.append target more).items number = store.items number
  := by
  simp [append, items, Array.getElem?_modify, Ne.symm h]

/-- Appending adds nothing but what is appended. -/
theorem mem_items_append {store : Store} {number target : Nat} {more : List Value} {item : Value}
    (h : item ∈ (store.append target more).items number) :
  item ∈ store.items number ∨ item ∈ more
  := by
  by_cases e : number = target
  · subst e
    obtain hlt | hle := Nat.lt_or_ge number store.next
    · rwa [items_append store number more hlt, List.mem_append] at h
    · rw [items_of_le _ (by simpa using hle)] at h
      exact absurd h List.not_mem_nil
  · rw [items_append_of_ne store more e] at h
    exact .inl h

end Store
end TypedModules
