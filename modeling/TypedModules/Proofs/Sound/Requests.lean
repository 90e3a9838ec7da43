import TypedModules.Proofs.Eval.Keeps
import TypedModules.Proofs.Value.Bindings

/-!
# Typed evaluation

Evaluation that keeps to types starts with a store whose list builders hold inhabitants of the
types that the world gives them, and ends with such a store, with an inhabitant of a type, or
with an error of a cause that is allowed.
-/

namespace TypedModules
namespace Realm

/-- Whether the list builders in a store are those of a world and hold what it says. -/
structure Fits (realm : Realm) (world : World) (store : Store) : Prop where
  count : store.next = world.length
  items : ∀ number type, world[number]? = some type →
    ∀ item ∈ store.items number, realm.Inhabits world type item

/-- The discipline in which stores fit the world, and evaluation ends with no cause but those that
are allowed. -/
def discipline (realm : Realm) (allows : EvalCause → Prop) : Discipline where
  World := World
  grows := List.IsPrefix
  refl := List.prefix_refl
  trans := List.IsPrefix.trans
  fits := realm.Fits
  allows := allows

/-- Whether an evaluation keeps to types from a world on, where `wanted` says which values are
wanted in which world. -/
def Keeps {α : Type} (realm : Realm) (allows : EvalCause → Prop) (world : World) (run : Eval α)
    (wanted : World → α → Prop) : Prop :=
  (realm.discipline allows).Keeps world run wanted

/-- Whether an evaluation yields inhabitants of a type. -/
def Yields (realm : Realm) (allows : EvalCause → Prop) (world : World) (run : Eval Value)
    (type : Ty) : Prop :=
  realm.Keeps allows world run fun after value => realm.Inhabits after type value

/-- Whether every binding that is applied to inhabitants of the types of its arguments yields an
inhabitant of the type of its result. -/
def Answers (realm : Realm) (allows : EvalCause → Prop) (ask : Request → Eval Value) : Prop :=
  ∀ world binding types output args, realm.Applies world binding types output →
    realm.InhabitAll world args types →
    realm.Yields allows world (ask (.apply binding args)) output

section Keeps

variable {realm : Realm} {allows : EvalCause → Prop} {world : World} {α β : Type}

theorem keeps_pure {a : α} {wanted : World → α → Prop} (h : wanted world a) :
  realm.Keeps allows world (pure a) wanted
  := Discipline.keeps_pure h

theorem yields_pure {value : Value} {type : Ty} (h : realm.Inhabits world type value) :
  realm.Yields allows world (pure value) type
  := Discipline.keeps_pure h

theorem keeps_fail {cause : EvalCause} {wanted : World → α → Prop} (h : allows cause) :
  realm.Keeps allows world (.fail cause) wanted
  := Discipline.keeps_fail h

theorem Keeps.bind {run : Eval α} {next : α → Eval β} {between : World → α → Prop}
    {wanted : World → β → Prop} (h : realm.Keeps allows world run between)
    (hnext : ∀ after, world <+: after → ∀ a, between after a →
      realm.Keeps allows after (next a) wanted) :
  realm.Keeps allows world (run >>= next) wanted
  := Discipline.Keeps.bind h hnext

theorem Keeps.imp {run : Eval α} {wanted wanted' : World → α → Prop}
    (h : realm.Keeps allows world run wanted)
    (himp : ∀ after, world <+: after → ∀ a, wanted after a → wanted' after a) :
  realm.Keeps allows world run wanted'
  := Discipline.Keeps.imp h himp

theorem keeps_ite {c : Prop} [Decidable c] {yes no : Eval α} {wanted : World → α → Prop}
    (hyes : c → realm.Keeps allows world yes wanted) (hno : ¬c → realm.Keeps allows world no wanted) :
  realm.Keeps allows world (if c then yes else no) wanted
  := Discipline.keeps_ite hyes hno

/-- More causes may be allowed. -/
theorem Keeps.allow {allows' : EvalCause → Prop} {run : Eval α} {wanted : World → α → Prop}
    (h : realm.Keeps allows world run wanted) (himp : ∀ cause, allows cause → allows' cause) :
  realm.Keeps allows' world run wanted
  := by
  intro store hfits
  obtain ⟨after, hgrows, hafter, hends⟩ := h store hfits
  refine ⟨after, hgrows, hafter, ?_⟩
  rcases e : (run.outcome store).1 with halt | a <;> rw [e] at hends
  · cases halt with
    | error error => exact himp _ hends
    | outOfFuel => trivial
  · exact hends

/-- What yields inhabitants of a type yields inhabitants of every type that is the same. -/
theorem Yields.same {run : Eval Value} {type type' : Ty} (h : realm.Yields allows world run type)
    (hsame : type.same type' = true) :
  realm.Yields allows world run type'
  := Keeps.imp h fun _ _ _ hvalue => hvalue.same hsame

theorem Answers.allow {allows' : EvalCause → Prop} {ask : Request → Eval Value}
    (h : realm.Answers allows ask) (himp : ∀ cause, allows cause → allows' cause) :
  realm.Answers allows' ask
  := fun world binding types output args hbinding hargs =>
    Keeps.allow (h world binding types output args hbinding hargs) himp

/-- What follows an evaluation that yields inhabitants of a type may rely on the type. -/
theorem Yields.bind {run : Eval Value} {type : Ty} {next : Value → Eval β}
    {wanted : World → β → Prop} (h : realm.Yields allows world run type)
    (hnext : ∀ after, world <+: after → ∀ value, realm.Inhabits after type value →
      realm.Keeps allows after (next value) wanted) :
  realm.Keeps allows world (run >>= next) wanted
  := Keeps.bind h hnext

end Keeps

/-! ### The store -/

section Store

variable {realm : Realm} {world : World} {store : Store}

/-- A new builder may hold items of any type. -/
theorem Fits.create (h : realm.Fits world store) (type : Ty) :
  realm.Fits (world ++ [type]) store.create
  := by
  have hgrows : world <+: world ++ [type] := List.prefix_append world [type]
  constructor
  case count => simp [h.count]
  case items =>
    intro number found hfound item hitem
    rw [Store.items_create] at hitem
    obtain hlt | hle := Nat.lt_or_ge number store.next
    · rw [List.getElem?_append_left (h.count ▸ hlt)] at hfound
      exact (h.items number found hfound item hitem).grow hgrows
    · rw [store.items_of_le hle] at hitem
      exact absurd hitem List.not_mem_nil

/-- A builder may be given more items of its type. -/
theorem Fits.append (h : realm.Fits world store) {target : Nat} {type : Ty}
    (htype : world[target]? = some type) {more : List Value}
    (hmore : ∀ item ∈ more, realm.Inhabits world type item) :
  realm.Fits world (store.append target more)
  := by
  constructor
  case count => simpa using h.count
  case items =>
    intro number found hfound item hitem
    by_cases e : number = target
    · subst e
      rw [htype, Option.some.injEq] at hfound
      subst hfound
      have hlt : number < store.next := h.count ▸ (List.getElem?_eq_some_iff.mp htype).1
      rw [store.items_append number more hlt, List.mem_append] at hitem
      obtain hitem | hitem := hitem
      · exact h.items number type htype item hitem
      · exact hmore item hitem
    · rw [store.items_append_of_ne more e] at hitem
      exact h.items number found hfound item hitem

end Store

/-! ### The forms of inhabitants -/

section Forms

variable {realm : Realm} {world : World} {value : Value} {isReference : Bool} {entity : Entity}
  {written : Reference} {args : List Ty}

theorem Inhabits.exists_integer (h : realm.Inhabits world .integer value) :
  ∃ n, value = .integer n
  := by
  cases h
  exact ⟨_, rfl⟩

theorem Inhabits.exists_natural (h : realm.Inhabits world .natural value) :
  ∃ n, value = .natural n
  := by
  cases h
  exact ⟨_, rfl⟩

theorem Inhabits.exists_boolean (h : realm.Inhabits world .boolean value) :
  ∃ b, value = .boolean b
  := by
  cases h
  exact ⟨_, rfl⟩

theorem Inhabits.exists_list {element : Ty} (h : realm.Inhabits world (.list element) value) :
  ∃ items, value = .list items ∧ ∀ item ∈ items, realm.Inhabits world element item
  := by
  cases h with
  | list hitems => exact ⟨_, rfl, hitems⟩

theorem Inhabits.exists_try {inner : Ty} (h : realm.Inhabits world (.tryOf inner) value) :
  value = .failure ∨ ∃ v, value = .success v ∧ realm.Inhabits world inner v
  := by
  cases h with
  | failure => exact .inl rfl
  | success hv => exact .inr ⟨_, rfl, hv⟩

/-- The kinds of the named types whose values have the form of a value. -/
def kindsOf : Value → List EntityKind
  | .string _ | .builder _ => [.opaqueType]
  | .struct _ _ => [.struct, .adapter]
  | .object _ _ => [.interface]
  | .union _ _ _ => [.union]
  | _ => []

/-- A named type is declared as one of the kinds that the form of its values tells. -/
theorem Inhabits.mem_kindsOf {kind : EntityKind}
    (h : realm.Inhabits world (.named isReference entity written args) value)
    (hkind : realm.library.HasKind entity kind) :
  kind ∈ kindsOf value
  := by
  have hunique := fun {other} (hother : realm.library.HasKind entity other) =>
    hkind.unique realm.formed hother
  cases h with
  | string =>
    rw [hunique (Library.hasKind_string realm.native)]
    exact List.mem_cons_self
  | builder =>
    rw [hunique (Library.hasKind_listBuilder realm.native)]
    exact List.mem_cons_self
  | struct hshape =>
    obtain hother | hother := Library.hasKind_of_shape? hshape
    · rw [hunique hother]
      exact List.mem_cons_self
    · rw [hunique hother]
      exact List.mem_cons_of_mem _ List.mem_cons_self
  | object hinterface =>
    rw [hunique (Library.hasKind_of_interface? hinterface)]
    exact List.mem_cons_self
  | union hunion =>
    rw [hunique (Library.hasKind_of_union? hunion)]
    exact List.mem_cons_self

theorem Inhabits.exists_string
    (h : realm.Inhabits world (.named isReference Native.string.entity written args) value) :
  ∃ text, value = .string text
  := by
  have hkind := h.mem_kindsOf (Library.hasKind_string realm.native)
  have hdistinct : Native.string.entity ≠ Native.listBuilder.entity := by decide
  generalize Native.string.entity = entity at h hdistinct
  cases h with
  | string text => exact ⟨text, rfl⟩
  | builder => exact absurd rfl hdistinct
  | _ => simp [kindsOf] at hkind

theorem Inhabits.exists_builder {item : Ty}
    (h : realm.Inhabits world (.named isReference Native.listBuilder.entity written [item]) value) :
  ∃ number found, value = .builder number ∧ world[number]? = some found ∧ item.same found = true
  := by
  have hkind := h.mem_kindsOf (Library.hasKind_listBuilder realm.native)
  have hdistinct : Native.string.entity ≠ Native.listBuilder.entity := by decide
  generalize Native.listBuilder.entity = entity at h hdistinct
  cases h with
  | string => exact absurd rfl hdistinct
  | builder hfound hsame => exact ⟨_, _, rfl, hfound, hsame⟩
  | _ => simp [kindsOf] at hkind

/-- A function without type parameters of its own is a binding that can be applied. -/
theorem Inhabits.exists_function {args : List Ty} {output : Ty}
    (h : realm.Inhabits world (.function isReference [] args output) value) :
  ∃ binding, value = .function binding ∧ realm.Applies world binding args output
  := by
  obtain ⟨binding, hvalue, h⟩ :=
    (@inhabits_toTy_iff realm world ⟨isReference, [], args, output⟩ value).mp h
  exact ⟨binding, hvalue, h [] ⟨rfl, fun _ hc => absurd hc List.not_mem_nil⟩⟩

/-- The values of a struct or an adapter hold inhabitants of the types of its members. -/
theorem Inhabits.exists_struct {header : StructHeader}
    (hshape : realm.library.shape? entity = some header)
    (h : realm.Inhabits world (.named isReference entity written args) value) :
  ∃ members, value = .struct header members ∧ realm.InhabitAll world members
    (header.members.map fun m => m.type.substitute (.ofParams header.typeParams args))
  := by
  have hkind := (Library.hasKind_of_shape? hshape).imp h.mem_kindsOf h.mem_kindsOf
  cases h with
  | struct hshape' hlength hmembers =>
    rw [hshape, Option.some.injEq] at hshape'
    subst hshape'
    exact ⟨_, rfl, inhabitAll_map_iff.mpr ⟨hlength, hmembers⟩⟩
  | _ => simp [kindsOf] at hkind

/-- The values of an interface hold inhabitants of the types of its methods. -/
theorem Inhabits.exists_object {interface : Interface}
    (hinterface : realm.library.interface? entity = some interface)
    (h : realm.Inhabits world (.named isReference entity written args) value) :
  ∃ methods, value = .object interface methods
    ∧ realm.InhabitAll world (methods.map .function) (interface.methods.map fun m =>
      m.functionType.toTy.substitute (.ofParams interface.typeParams args))
  := by
  have hkind := h.mem_kindsOf (Library.hasKind_of_interface? hinterface)
  cases h with
  | object hinterface' hlength hmethods =>
    rw [hinterface, Option.some.injEq] at hinterface'
    subst hinterface'
    refine ⟨_, rfl, inhabitAll_map_iff.mpr ⟨by simpa using hlength, ?_⟩⟩
    rw [List.zip_map_right, List.forall_mem_map]
    exact hmethods
  | _ => simp [kindsOf] at hkind

/-- The values of a union hold an inhabitant of the type of their option, if it has one. -/
theorem Inhabits.exists_union {union : Union}
    (hunion : realm.library.union? entity = some union)
    (h : realm.Inhabits world (.named isReference entity written args) value) :
  ∃ index option payload, value = .union union index payload
    ∧ union.options[index]? = some option
    ∧ realm.InhabitAll world payload.toList
      (option.type.toList.map fun type => type.substitute (.ofParams union.typeParams args))
  := by
  have hkind := h.mem_kindsOf (Library.hasKind_of_union? hunion)
  cases h with
  | union hunion' hoption hlength hpayload =>
    rw [hunion, Option.some.injEq] at hunion'
    subst hunion'
    exact ⟨_, _, _, rfl, hoption, inhabitAll_map_iff.mpr ⟨hlength, hpayload⟩⟩
  | _ => simp [kindsOf] at hkind

end Forms

end Realm
end TypedModules
