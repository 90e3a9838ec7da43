import Mathlib.Data.List.Forall2
import Mathlib.Data.List.Nodup

/-!
# Lists of related and of mapped items

Facts about lists whose items are related position by position, about lists of items of which some
may be absent, about lists of distinct items and what is left of a list without its repetitions, and
about lists that a function leaves as they are.
-/

namespace TypedModules

section Related

variable {α β : Type} {R : α → β → Prop} {as : List α} {bs : List β}

theorem exists_related_right (h : List.Forall₂ R as bs) {a : α} (ha : a ∈ as) :
  ∃ b ∈ bs, R a b
  := by
  induction h with
  | nil => cases ha
  | cons hR _ ih =>
    obtain _ | ⟨_, ha⟩ := ha
    · exact ⟨_, List.mem_cons_self, hR⟩
    · obtain ⟨b, hb, hR⟩ := ih ha
      exact ⟨b, List.mem_cons_of_mem _ hb, hR⟩

theorem exists_related_left (h : List.Forall₂ R as bs) {b : β} (hb : b ∈ bs) :
  ∃ a ∈ as, R a b
  := exists_related_right h.flip hb

/-- What follows from being related holds of all items on the right. -/
theorem forall_of_related {P : β → Prop} (h : List.Forall₂ R as bs) (hP : ∀ a b, R a b → P b) :
  ∀ b ∈ bs, P b
  := by
  intro b hb
  obtain ⟨a, -, hab⟩ := exists_related_left h hb
  exact hP a b hab

theorem forall_some_of_related {as : List (Option α)} {bs : List (Option β)} {P : β → Prop}
    (h : List.Forall₂ (Option.Rel R) as bs) (hP : ∀ a b, R a b → P b) :
  ∀ b, some b ∈ bs → P b
  := by
  intro b hb
  obtain ⟨_, -, hab⟩ := exists_related_left h hb
  cases hab with
  | some hab => exact hP _ b hab

theorem isSome_eq_of_rel {a : Option α} {b : Option β} (h : Option.Rel R a b) :
  a.isSome = b.isSome
  := by
  cases h <;> rfl

theorem rel_cases {a : Option α} {b : Option β} (h : Option.Rel R a b) :
  (a = none ∧ b = none) ∨ ∃ a' b', a = some a' ∧ b = some b' ∧ R a' b'
  := by
  cases h with
  | some hab => exact .inr ⟨_, _, rfl, rfl, hab⟩
  | none => exact .inl ⟨rfl, rfl⟩

theorem rel_imp {S : α → β → Prop} {a : Option α} {b : Option β} (h : Option.Rel R a b)
    (himp : ∀ a b, R a b → S a b) :
  Option.Rel S a b
  := by
  cases h with
  | some hab => exact .some (himp _ _ hab)
  | none => exact .none

theorem rel_flip {a : Option α} {b : Option β} (h : Option.Rel R a b) :
  Option.Rel (flip R) b a
  := by
  cases h with
  | some hab => exact .some hab
  | none => exact .none

theorem rel_comp {γ : Type} {S : β → γ → Prop} {T : α → γ → Prop} {a : Option α} {b : Option β}
    {c : Option γ} (h : Option.Rel R a b) (h' : Option.Rel S b c)
    (hcomp : ∀ a b c, R a b → S b c → T a c) :
  Option.Rel T a c
  := by
  cases h with
  | some hab =>
    obtain ⟨hbc⟩ | _ := h'
    exact .some (hcomp _ _ _ hab hbc)
  | none =>
    cases h'
    exact .none

theorem rel_map {γ δ : Type} {S : γ → δ → Prop} {f : α → γ} {g : β → δ} {a : Option α}
    {b : Option β} (h : Option.Rel R a b) (hmap : ∀ a b, R a b → S (f a) (g b)) :
  Option.Rel S (a.map f) (b.map g)
  := by
  cases h with
  | some hab => exact .some (hmap _ _ hab)
  | none => exact .none

theorem rel_bind_same {γ : Type} {c : Option γ} {f : γ → Option α} {g : γ → Option β}
    (h : ∀ c, Option.Rel R (f c) (g c)) :
  Option.Rel R (c.bind f) (c.bind g)
  := by
  cases c with
  | none => exact .none
  | some c => exact h c

theorem rel_getElem? (h : List.Forall₂ R as bs) (n : Nat) :
  Option.Rel R as[n]? bs[n]?
  := by
  induction h generalizing n with
  | nil => exact .none
  | cons hab _ ih =>
    cases n with
    | zero => exact .some hab
    | succ n => exact ih n

theorem rel_getLast? (h : List.Forall₂ R as bs) :
  Option.Rel R as.getLast? bs.getLast?
  := by
  rw [List.getLast?_eq_getElem?, List.getLast?_eq_getElem?, h.length_eq]
  exact rel_getElem? h _

theorem exists_related_getElem? (h : List.Forall₂ R as bs) {index : Nat} {b : β}
    (hb : bs[index]? = some b) :
  ∃ a, as[index]? = some a ∧ R a b
  := by
  have hrel := rel_getElem? h index
  rw [hb] at hrel
  generalize as[index]? = found at hrel
  cases hrel with
  | some hR => exact ⟨_, rfl, hR⟩

/-- What is related to others item by item is related in every way that follows for its items. -/
theorem related_of_mem {S : α → β → Prop} (h : List.Forall₂ R as bs)
    (himp : ∀ a ∈ as, ∀ b, R a b → S a b) :
  List.Forall₂ S as bs
  := ((List.forall₂_and_left _ _).mpr ⟨himp, h⟩).imp fun _ b h => h.1 b h.2

theorem related_and {S : α → β → Prop} (h : List.Forall₂ R as bs) (h' : List.Forall₂ S as bs) :
  List.Forall₂ (fun a b => R a b ∧ S a b) as bs
  := by
  induction h with
  | nil => exact .nil
  | cons hR _ ih =>
    obtain _ | ⟨hS, h'⟩ := h'
    exact .cons ⟨hR, hS⟩ (ih h')

theorem map_eq_map_of_related {γ : Type} {f : α → γ} {g : β → γ} (h : List.Forall₂ R as bs)
    (heq : ∀ a b, R a b → f a = g b) :
  as.map f = bs.map g
  := by
  induction h with
  | nil => rfl
  | cons hR _ ih => rw [List.map_cons, List.map_cons, heq _ _ hR, ih]

theorem flatMap_eq_flatMap_of_related {γ : Type} {f : α → List γ} {g : β → List γ}
    (h : List.Forall₂ R as bs) (heq : ∀ a b, R a b → f a = g b) :
  as.flatMap f = bs.flatMap g
  := by
  rw [List.flatMap_def, List.flatMap_def, map_eq_map_of_related h heq]

/-- What is related to what is related to others is related to these. -/
theorem related_trans {γ : Type} {S : β → γ → Prop} {T : α → γ → Prop} {cs : List γ}
    (h : List.Forall₂ R as bs) (h' : List.Forall₂ S bs cs)
    (htrans : ∀ a b, ∀ c ∈ cs, R a b → S b c → T a c) :
  List.Forall₂ T as cs
  := by
  induction h generalizing cs with
  | nil =>
    cases h'
    exact .nil
  | cons hR _ ih =>
    obtain _ | ⟨hS, h'⟩ := h'
    exact .cons (htrans _ _ _ List.mem_cons_self hR hS)
      (ih h' fun a b c hc => htrans a b c (List.mem_cons_of_mem _ hc))

end Related

/-- A list of optional items has an item everywhere if it is made of items. -/
theorem mapM_id_eq_some {α : Type} {entries : List (Option α)} {items : List α} :
  entries.mapM id = some items ↔ entries = items.map some
  := by
  induction entries generalizing items with
  | nil => cases items <;> simp
  | cons entry rest ih =>
    cases entry <;> cases items <;> simp [Option.bind_eq_some_iff, ih, and_comm]

/-- A list of optional items none of which is absent is made of items. -/
theorem exists_map_some {α : Type} {entries : List (Option α)}
    (h : entries.countP (·.isNone) = 0) :
  ∃ items : List α, entries = items.map some
  := by
  induction entries with
  | nil => exact ⟨[], rfl⟩
  | cons entry rest ih =>
    cases entry with
    | none => simp at h
    | some item =>
      obtain ⟨items, rfl⟩ := ih (by simpa using h)
      exact ⟨item :: items, rfl⟩

/-- A list of optional items has an item everywhere exactly if it does after these are mapped. -/
theorem mapM_id_map {α β : Type} (f : α → β) (entries : List (Option α)) :
  (entries.map (Option.map f)).mapM id = (entries.mapM id).map (List.map f)
  := by
  induction entries with
  | nil => rfl
  | cons entry rest ih =>
    rw [List.map_cons, List.mapM_cons, List.mapM_cons, ih]
    cases entry with
    | none => rfl
    | some item => cases rest.mapM id <;> rfl

section EraseDups

variable {α : Type} [BEq α]

/-- What holds of the empty list, and of a list if it holds of what is left without the first item
and its repetitions, holds of all lists. -/
theorem eraseDups_induction {P : List α → Prop} (nil : P [])
    (cons : ∀ item rest, P (rest.filter fun other => !other == item) → P (item :: rest))
    (items : List α) :
  P items
  := by
  induction hlength : items.length using Nat.strongRecOn generalizing items with
  | ind n ih =>
    cases items with
    | nil => exact nil
    | cons item rest =>
      apply cons
      refine ih _ ?_ _ rfl
      rw [← hlength, List.length_cons]
      exact Nat.lt_succ_of_le (List.length_filter_le _ _)

theorem eraseDups_sublist (items : List α) :
  items.eraseDups.Sublist items
  := by
  induction items using eraseDups_induction with
  | nil => exact .slnil
  | cons item rest ih =>
    rw [List.eraseDups_cons]
    exact (ih.trans List.filter_sublist).cons_cons item

variable [LawfulBEq α]

/-- What is left of a list without repetitions is distinct. -/
theorem nodup_eraseDups (items : List α) :
  items.eraseDups.Nodup
  := by
  induction items using eraseDups_induction with
  | nil => exact List.nodup_nil
  | cons item rest ih =>
    rw [List.eraseDups_cons, List.nodup_cons, List.mem_eraseDups]
    exact ⟨by simp, ih⟩

theorem eraseDups_of_nodup {items : List α} (h : items.Nodup) :
  items.eraseDups = items
  := by
  induction items with
  | nil => rfl
  | cons item rest ih =>
    obtain ⟨hitem, hrest⟩ := List.nodup_cons.mp h
    have hkept : (rest.filter fun other => !other == item) = rest := by
      rw [List.filter_eq_self]
      intro other hother
      have hne : other ≠ item := fun e => hitem (e ▸ hother)
      simpa using hne
    rw [List.eraseDups_cons, hkept, ih hrest]

/-- It makes no difference whether repetitions are dropped before items or after them. -/
theorem filter_eraseDups (p : α → Bool) (items : List α) :
  items.eraseDups.filter p = (items.filter p).eraseDups
  := by
  induction items using eraseDups_induction with
  | nil => rfl
  | cons item rest ih =>
    rw [List.eraseDups_cons, List.filter_cons, List.filter_cons, ih, List.filter_filter]
    cases hp : p item with
    | true =>
      rw [if_pos rfl, if_pos rfl, List.eraseDups_cons, List.filter_filter]
      simp only [Bool.and_comm]
    | false =>
      have hother : ∀ other, (p other && !other == item) = p other := by
        intro other
        by_cases h : other = item
        · simp [h, hp]
        · simp [h]
      simp [hother]

end EraseDups

/-- Some item of a list is found under the key of each. -/
theorem find?_ne_none {α β : Type} [BEq β] [ReflBEq β] {items : List α} (keyOf : α → β) {item : α}
    (h : item ∈ items) :
  items.find? (keyOf · == keyOf item) ≠ none
  := by
  rw [ne_eq, List.find?_eq_none]
  exact fun hnone => hnone item h BEq.rfl

/-- Where the keys are distinct, the first item with the key of an item is that item. -/
theorem findIdx?_of_nodup {α β : Type} [BEq β] [LawfulBEq β] {keyOf : α → β} {items : List α}
    (hdistinct : (items.map keyOf).Nodup) {index : Nat} {item : α}
    (h : items[index]? = some item) :
  items.findIdx? (keyOf · == keyOf item) = some index
  := by
  obtain ⟨hindex, rfl⟩ := List.getElem?_eq_some_iff.mp h
  rw [List.findIdx?_eq_some_iff_getElem]
  refine ⟨hindex, by simp, fun other hother => ?_⟩
  have hne := List.pairwise_iff_getElem.mp hdistinct other index
    (by simpa using Nat.lt_trans hother hindex) (by simpa using hindex) hother
  simpa using hne

/-- A list has an item under a key for each that a list in another order has, as long as the keys
are distinct. -/
theorem find?_of_perm {α β : Type} [BEq β] [LawfulBEq β] {keyOf : α → β} {items others : List α}
    (h : items.Perm others) (hdistinct : (items.map keyOf).Nodup) (key : β) :
  others.find? (keyOf · == key) = items.find? (keyOf · == key)
  := by
  have hunique : ∀ a ∈ items, ∀ b ∈ items, keyOf a = keyOf b → a = b := fun a ha b hb =>
    List.inj_on_of_nodup_map hdistinct ha hb
  cases hfound : items.find? (keyOf · == key) with
  | none =>
    rw [List.find?_eq_none] at hfound ⊢
    exact fun item hitem => hfound item (h.mem_iff.mpr hitem)
  | some item =>
    have hitem := List.mem_of_find?_eq_some hfound
    have hkey : keyOf item = key := by simpa using List.find?_some hfound
    cases hother : others.find? (keyOf · == key) with
    | none =>
      rw [List.find?_eq_none] at hother
      exact absurd (by simpa using hkey) (hother item (h.mem_iff.mp hitem))
    | some other =>
      have hmem := h.mem_iff.mpr (List.mem_of_find?_eq_some hother)
      have hkey' : keyOf other = key := by simpa using List.find?_some hother
      rw [hunique other hmem item hitem (hkey'.trans hkey.symm)]

/-- In mapped items in another order what is found under a key is what is found among the items,
mapped, if keys are kept. -/
theorem find?_of_perm_map {α β : Type} [BEq β] [LawfulBEq β] {keyOf : α → β} {f : α → α}
    {items others : List α} (h : others.Perm (items.map f)) (hkey : ∀ a, keyOf (f a) = keyOf a)
    (hdistinct : (items.map keyOf).Nodup) (key : β) :
  others.find? (keyOf · == key) = (items.find? (keyOf · == key)).map f
  := by
  have hmapped : ((items.map f).map keyOf).Nodup := by
    simpa only [List.map_map, Function.comp_def, hkey] using hdistinct
  rw [find?_of_perm h.symm hmapped, List.find?_map]
  simp only [Function.comp_def, hkey]

/-- A list of items that a function leaves as they are is left as it is. -/
theorem map_eq_self {α : Type} {f : α → α} {items : List α} (h : ∀ item ∈ items, f item = item) :
  items.map f = items
  := by
  rw [List.map_congr_left h, List.map_id']

theorem map_eq_self_iff {α : Type} {f : α → α} {items : List α} :
  items.map f = items ↔ ∀ item ∈ items, f item = item
  := by
  refine ⟨fun h => ?_, map_eq_self⟩
  exact List.map_inj_left.mp (h.trans (List.map_id' items).symm)

end TypedModules
