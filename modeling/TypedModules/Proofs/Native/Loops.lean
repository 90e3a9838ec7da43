import TypedModules.Native.Run
import TypedModules.Proofs.Eval.Keeps

/-!
# The loops of native functions

What native functions do with one item after another keeps to a discipline if each turn does.
What is wanted of the items has to stay true while the world grows.
-/

namespace TypedModules
namespace NativeFunction

variable {discipline : Discipline}

/-- Whether what is wanted of values stays true while the world grows. -/
def Lasting {α : Type} (wanted : discipline.World → α → Prop) : Prop :=
  ∀ {first second}, discipline.grows first second → ∀ a, wanted first a → wanted second a

variable {world : discipline.World} {item result : discipline.World → Value → Prop}
  {apply : List Value → Eval Value} {items : List Value}

theorem Lasting.all {α : Type} {wanted : discipline.World → α → Prop} (h : Lasting wanted) :
  Lasting fun world (as : List α) => ∀ a ∈ as, wanted world a
  := fun hgrows _ has a ha => h hgrows a (has a ha)

theorem keeps_flatten (hresult : Lasting result)
    (hread : ∀ after, discipline.grows world after → ∀ v ∈ items,
      discipline.Keeps after v.asList fun last vs => ∀ v ∈ vs, result last v) :
  discipline.Keeps world (flatten items) fun after vs => ∀ v ∈ vs, result after v
  := by
  induction items generalizing world with
  | nil => exact Discipline.keeps_pure fun _ hv => nomatch hv
  | cons list rest ih =>
    apply (hread world (discipline.refl world) list List.mem_cons_self).bind
    intro after hafter firsts hfirsts
    have hrest := ih fun last hlast v hv =>
      hread last (discipline.trans hafter hlast) v (List.mem_cons_of_mem _ hv)
    apply hrest.bind
    intro last hlast others hothers
    exact Discipline.keeps_pure
      (List.forall_mem_append.mpr ⟨hresult.all hlast _ hfirsts, hothers⟩)

section Apply

variable (hitem : Lasting item)

include hitem

theorem keeps_mapItems (hresult : Lasting result)
    (happly : ∀ after, discipline.grows world after → ∀ v, item after v →
      discipline.Keeps after (apply [v]) result)
    (h : ∀ v ∈ items, item world v) :
  discipline.Keeps world (mapItems apply items) fun after vs => ∀ v ∈ vs, result after v
  := by
  induction items generalizing world with
  | nil => exact Discipline.keeps_pure fun _ hv => nomatch hv
  | cons first rest ih =>
    rw [List.forall_mem_cons] at h
    apply (happly world (discipline.refl world) first h.1).bind
    intro after hafter mapped hmapped
    have hrest := ih (fun last hlast => happly last (discipline.trans hafter hlast))
      (hitem.all hafter _ h.2)
    apply hrest.bind
    intro last hlast others hothers
    exact Discipline.keeps_pure
      (List.forall_mem_cons.mpr ⟨hresult hlast _ hmapped, hothers⟩)

theorem keeps_flatMapItems (hresult : Lasting result)
    (happly : ∀ after, discipline.grows world after → ∀ v, item after v →
      discipline.Keeps after (apply [v] >>= Value.asList) fun last vs => ∀ v ∈ vs, result last v)
    (h : ∀ v ∈ items, item world v) :
  discipline.Keeps world (flatMapItems apply items) fun after vs => ∀ v ∈ vs, result after v
  := by
  induction items generalizing world with
  | nil => exact Discipline.keeps_pure fun _ hv => nomatch hv
  | cons first rest ih =>
    rw [List.forall_mem_cons] at h
    rw [flatMapItems, ← bind_assoc]
    apply (happly world (discipline.refl world) first h.1).bind
    intro after hafter mapped hmapped
    have hrest := ih (fun last hlast => happly last (discipline.trans hafter hlast))
      (hitem.all hafter _ h.2)
    apply hrest.bind
    intro last hlast others hothers
    exact Discipline.keeps_pure
      (List.forall_mem_append.mpr ⟨hresult.all hlast _ hmapped, hothers⟩)

theorem keeps_filterItems
    (happly : ∀ after, discipline.grows world after → ∀ v, item after v →
      discipline.Keeps after (apply [v] >>= Value.asBoolean) fun _ _ => True)
    (h : ∀ v ∈ items, item world v) :
  discipline.Keeps world (filterItems apply items) fun after vs => ∀ v ∈ vs, item after v
  := by
  induction items generalizing world with
  | nil => exact Discipline.keeps_pure fun _ hv => nomatch hv
  | cons first rest ih =>
    rw [List.forall_mem_cons] at h
    rw [filterItems, ← bind_assoc]
    apply (happly world (discipline.refl world) first h.1).bind
    intro after hafter keep _
    have hrest := ih (fun last hlast => happly last (discipline.trans hafter hlast))
      (hitem.all hafter _ h.2)
    apply hrest.bind
    intro last hlast kept hkept
    apply Discipline.keeps_pure
    split
    · exact List.forall_mem_cons.mpr ⟨hitem (discipline.trans hafter hlast) _ h.1, hkept⟩
    · exact hkept

theorem keeps_reduceItems {value : Value}
    (happly : ∀ after, discipline.grows world after → ∀ v w, result after v → item after w →
      discipline.Keeps after (apply [v, w]) result)
    (hvalue : result world value) (h : ∀ v ∈ items, item world v) :
  discipline.Keeps world (reduceItems apply value items) result
  := by
  induction items generalizing world value with
  | nil => exact Discipline.keeps_pure hvalue
  | cons first rest ih =>
    rw [List.forall_mem_cons] at h
    apply (happly world (discipline.refl world) value first hvalue h.1).bind
    intro after hafter next hnext
    exact ih (fun last hlast => happly last (discipline.trans hafter hlast)) hnext
      (hitem.all hafter _ h.2)

end Apply

theorem keeps_iterate (n : Nat) {value : Value}
    (happly : ∀ after, discipline.grows world after → ∀ v, item after v →
      discipline.Keeps after (apply [v]) item)
    (h : item world value) :
  discipline.Keeps world (iterate apply n value) item
  := by
  induction n generalizing world value with
  | zero => exact Discipline.keeps_pure h
  | succ n ih =>
    apply (happly world (discipline.refl world) value h).bind
    intro after hafter next hnext
    exact ih (fun last hlast => happly last (discipline.trans hafter hlast)) hnext

theorem keeps_search {holds : List Value → Eval Value} (fuel : Nat) {value : Value}
    (hitem : Lasting item)
    (happly : ∀ after, discipline.grows world after → ∀ v, item after v →
      discipline.Keeps after (apply [v]) item)
    (hholds : ∀ after, discipline.grows world after → ∀ v, item after v →
      discipline.Keeps after (holds [v] >>= Value.asBoolean) fun _ _ => True)
    (h : item world value) :
  discipline.Keeps world (search apply holds fuel value) item
  := by
  induction fuel generalizing world value with
  | zero => exact Discipline.keeps_outOfFuel
  | succ fuel ih =>
    rw [search, ← bind_assoc]
    apply (hholds world (discipline.refl world) value h).bind
    intro after hafter found _
    apply Discipline.keeps_ite
    · exact fun _ => Discipline.keeps_pure (hitem hafter _ h)
    · intro _
      apply (happly after hafter value (hitem hafter _ h)).bind
      intro last hlast next hnext
      have hlater : ∀ {later}, discipline.grows last later → discipline.grows world later :=
        fun hlater => discipline.trans (discipline.trans hafter hlast) hlater
      exact ih (fun later h => happly later (hlater h)) (fun later h => hholds later (hlater h))
        hnext

end NativeFunction
end TypedModules
