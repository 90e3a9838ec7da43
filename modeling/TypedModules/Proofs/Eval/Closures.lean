import TypedModules.Proofs.Eval.Containment

/-!
# The closures in values

`Value.Holds` says of every closure in a value, at any depth, that it has a property.  A `Watch`
asks this of all that the store holds and tells with which causes evaluation may end.  It is a
containment in which every struct value and every builder may be contained.
-/

namespace TypedModules

/-- Induction over values and bindings. -/
theorem value_induction {P : Value → Prop} {Q : Binding → Prop}
    (integer : ∀ n, P (.integer n)) (natural : ∀ n, P (.natural n))
    (boolean : ∀ b, P (.boolean b))
    (list : ∀ items, (∀ v ∈ items, P v) → P (.list items))
    (success : ∀ value, P value → P (.success value)) (failure : P .failure)
    (string : ∀ text, P (.string text))
    (struct : ∀ header members, (∀ m ∈ members, P m) → P (.struct header members))
    (object : ∀ interface methods, (∀ m ∈ methods, Q m) → P (.object interface methods))
    (union : ∀ union option payload, (∀ v, payload = some v → P v) →
      P (.union union option payload))
    (function : ∀ binding, Q binding → P (.function binding))
    (builder : ∀ number, P (.builder number))
    (binding : ∀ target slots chosen, (∀ v, some v ∈ slots → P v) →
      Q (.mk target slots chosen)) :
  (∀ value, P value) ∧ ∀ binding, Q binding
  := by
  have key : ∀ value, P value :=
    @Value.rec P Q (fun values => ∀ v ∈ values, P v) (fun bindings => ∀ b ∈ bindings, Q b)
      (fun payload => ∀ v, payload = some v → P v) (fun slots => ∀ v, some v ∈ slots → P v)
      integer natural boolean list success failure string struct object union function builder
      binding
      (fun _ h => nomatch h) (fun _ _ h hs => List.forall_mem_cons.mpr ⟨h, hs⟩)
      (fun _ h => nomatch h) (fun _ _ h hs => List.forall_mem_cons.mpr ⟨h, hs⟩)
      (fun _ h => nomatch h) (fun _ h _ e => Option.some.inj e ▸ h)
      (fun _ h => nomatch h)
      (fun _ _ h hs v hv => (List.mem_cons.mp hv).elim (fun e => h v e.symm) (hs v))
  exact ⟨key, fun | .mk target slots chosen => binding target slots chosen fun v _ => key v⟩

/-- Whether what a binding calls has a property if it is a closure. -/
def Target.Holds (P : Closure → Prop) : Target → Prop
  | .entity _ => True
  | .closure c => P c

mutual

/-- Whether every closure in a value has a property. -/
def Value.Holds (P : Closure → Prop) : Value → Prop
  | .integer _ => True
  | .natural _ => True
  | .boolean _ => True
  | .list items => ValuesHold P items
  | .success value => value.Holds P
  | .failure => True
  | .string _ => True
  | .struct _ members => ValuesHold P members
  | .object _ methods => BindingsHold P methods
  | .union _ _ none => True
  | .union _ _ (some payload) => payload.Holds P
  | .function binding => binding.Holds P
  | .builder _ => True

/-- Whether every closure in a binding has a property. -/
def Binding.Holds (P : Closure → Prop) : Binding → Prop
  | .mk target slots _ => target.Holds P ∧ SlotsHold P slots

/-- Whether every closure in values has a property. -/
def ValuesHold (P : Closure → Prop) : List Value → Prop
  | [] => True
  | value :: rest => value.Holds P ∧ ValuesHold P rest

/-- Whether every closure in bindings has a property. -/
def BindingsHold (P : Closure → Prop) : List Binding → Prop
  | [] => True
  | binding :: rest => binding.Holds P ∧ BindingsHold P rest

/-- Whether every closure in slots has a property. -/
def SlotsHold (P : Closure → Prop) : List (Option Value) → Prop
  | [] => True
  | none :: rest => SlotsHold P rest
  | some value :: rest => value.Holds P ∧ SlotsHold P rest

end

section Holds

variable {P Q : Closure → Prop}

@[simp]
theorem valuesHold_iff {values : List Value} :
  ValuesHold P values ↔ ∀ value ∈ values, value.Holds P
  := by
  induction values with
  | nil => simp [ValuesHold]
  | cons value rest ih => simp [ValuesHold, ih]

@[simp]
theorem bindingsHold_iff {bindings : List Binding} :
  BindingsHold P bindings ↔ ∀ binding ∈ bindings, binding.Holds P
  := by
  induction bindings with
  | nil => simp [BindingsHold]
  | cons binding rest ih => simp [BindingsHold, ih]

@[simp]
theorem slotsHold_iff {slots : List (Option Value)} :
  SlotsHold P slots ↔ ∀ value, some value ∈ slots → value.Holds P
  := by
  induction slots with
  | nil => simp [SlotsHold]
  | cons slot rest ih => cases slot <;> simp [SlotsHold, ih]

theorem Binding.holds_iff {binding : Binding} :
  binding.Holds P
    ↔ binding.target.Holds P ∧ ∀ value, some value ∈ binding.slots → value.Holds P
  := by
  cases binding
  simp [Binding.Holds, Binding.target, Binding.slots]

theorem Target.Holds.imp (himp : ∀ c, P c → Q c) {target : Target} (h : target.Holds P) :
  target.Holds Q
  := by
  cases target with
  | entity => trivial
  | closure c => exact himp c h

/-- What each closure with one property has, the closures in values have with it. -/
theorem holds_imp (himp : ∀ c, P c → Q c) :
  (∀ value : Value, value.Holds P → value.Holds Q)
    ∧ ∀ binding : Binding, binding.Holds P → binding.Holds Q
  := by
  apply value_induction
  case list | struct =>
    intros
    simp_all [Value.Holds]
  case object =>
    intros
    simp_all [Value.Holds]
  case success => exact fun _ ih => ih
  case function => exact fun _ ih => ih
  case union =>
    intro union option payload ih h
    cases payload with
    | none => trivial
    | some value => exact ih value rfl h
  case binding =>
    intro target slots chosen ih h
    rw [Binding.holds_iff] at h ⊢
    exact ⟨h.1.imp himp, fun v hv => ih v hv (h.2 v hv)⟩
  all_goals intros; trivial

theorem Value.Holds.imp (himp : ∀ c, P c → Q c) {value : Value} (h : value.Holds P) :
  value.Holds Q
  := (holds_imp himp).1 value h

theorem Binding.Holds.imp (himp : ∀ c, P c → Q c) {binding : Binding} (h : binding.Holds P) :
  binding.Holds Q
  := (holds_imp himp).2 binding h

/-- What every closure has, the closures in values have. -/
theorem holds_of_forall (h : ∀ c, P c) :
  (∀ value : Value, value.Holds P) ∧ ∀ binding : Binding, binding.Holds P
  := by
  apply value_induction
  case list | struct =>
    intros
    simpa [Value.Holds]
  case object =>
    intros
    simpa [Value.Holds]
  case success => exact fun _ ih => ih
  case function => exact fun _ ih => ih
  case union =>
    intro union option payload ih
    cases payload with
    | none => trivial
    | some value => exact ih value rfl
  case binding =>
    intro target slots chosen ih
    rw [Binding.holds_iff]
    refine ⟨?_, ih⟩
    cases target with
    | entity => trivial
    | closure c => exact h c
  all_goals intros; trivial

end Holds

/-! ### The discipline -/

/-- Whether every closure that a store holds has a property. -/
def Store.Holds (P : Closure → Prop) (store : Store) : Prop :=
  ∀ number, ∀ value ∈ store.items number, value.Holds P

theorem Store.Holds.imp {P Q : Closure → Prop} (himp : ∀ c, P c → Q c) {store : Store}
    (h : store.Holds P) :
  store.Holds Q
  := fun number value hvalue => (h number value hvalue).imp himp

theorem Store.Holds.create {P : Closure → Prop} {store : Store} (h : store.Holds P) :
  store.create.Holds P
  := fun number value hvalue => h number value (by simpa using hvalue)

theorem Store.Holds.append {P : Closure → Prop} {store : Store} (h : store.Holds P)
    {target : Nat} {items : List Value} (hitems : ∀ item ∈ items, item.Holds P) :
  (store.append target items).Holds P
  := fun number value hvalue => (Store.mem_items_append hvalue).elim (h number value) (hitems value)

/-- What is watched while something is evaluated: a property of closures, and the causes with
which it may end, among them those of reading a value of another kind. -/
structure Watch where
  closures : Closure → Prop
  allows : EvalCause → Prop
  mismatch : ∀ expected got, allows (.typeMismatch expected got)
  member : ∀ name kind, allows (.undefinedMember name kind)
  assumed : allows .assumedFailure

/-- The discipline in which every closure that the store holds has the watched property, and
evaluation ends with no cause but those that are allowed. -/
def Watch.discipline (watch : Watch) : Discipline where
  World := Unit
  grows _ _ := True
  refl _ := trivial
  trans _ _ := trivial
  fits _ store := store.Holds watch.closures
  allows := watch.allows

/-- Whether an evaluation keeps to what is watched. -/
def Eval.Holds {α : Type} (watch : Watch) (run : Eval α) (wanted : α → Prop) : Prop :=
  watch.discipline.Keeps () run fun _ => wanted

/-- Whether every closure in what is asked for has a property. -/
def Request.Holds (P : Closure → Prop) : Request → Prop
  | .call _ args => ∀ arg ∈ args, arg.Holds P
  | .apply binding args => binding.Holds P ∧ ∀ arg ∈ args, arg.Holds P
  | .literal _ _ => True

theorem Request.Holds.imp {P Q : Closure → Prop} (himp : ∀ c, P c → Q c) {request : Request}
    (h : request.Holds P) :
  request.Holds Q
  := by
  cases request with
  | call => exact fun arg harg => (h arg harg).imp himp
  | apply => exact ⟨h.1.imp himp, fun arg harg => (h.2 arg harg).imp himp⟩
  | literal => trivial

/-- What a value is itself and its parts decide about the closures in it. -/
theorem Value.holds_iff_parts {P : Closure → Prop} {value : Value} :
  value.Holds P
    ↔ (∀ closure, value.closure? = some closure → P closure)
      ∧ (∀ header members, value.struct? = some (header, members) → True)
      ∧ (∀ number, value.builder? = some number → True)
      ∧ ∀ part ∈ value.parts, part.Holds P
  := by
  cases value with
  | union union option payload => cases payload <;> simp [Holds, closure?, parts]
  | object interface methods => simp [Holds, closure?, parts]
  | function binding =>
    obtain ⟨target, slots, chosen⟩ := binding
    cases target <;>
      simp [Holds, Binding.Holds, Target.Holds, closure?, parts, Binding.slots,
        List.reduceOption_mem_iff]
  | _ => simp [Holds, closure?, parts]

/-- What is watched is a containment, in which every struct value and every builder may be
contained. -/
def Watch.containment (watch : Watch) : Containment where
  toDiscipline := watch.discipline
  closures := watch.closures
  structs _ _ := True
  literals _ _ := True
  builders _ _ := True
  holds _ value := value.Holds watch.closures
  holds_iff := Value.holds_iff_parts
  lasting _ _ h := h
  create hfits := ⟨(), trivial, hfits.create, trivial⟩
  append hfits _ hitems := hfits.append hitems
  items hfits _ := hfits _
  mismatch := watch.mismatch
  member := watch.member
  assumed := watch.assumed

end TypedModules
