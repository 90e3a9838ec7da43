import Mathlib.Data.Finset.Card
import Mathlib.Logic.Relation
import TypedModules.Proofs.Faithful.Module
import TypedModules.Proofs.Literal.Classified

/-!
# The traversals of types come to an end

The check for plain data and the walk along a chain of literals unfold structs and unions, and what
they come upon may be larger than what they come from: a struct `Growing<T>` may have a member of
the type `Growing<List<T>>`.  Here both are given by the bodies of recursions, without a bound on
their depth, and such a recursion returns if its calls are nested up to some depth only: `Returns`.
The check keeps the entities that it is unfolding in one set, from which it removes them on the way
back.

Both return because a call that unfolds nothing is about a smaller type, and one that unfolds an
entity leaves fewer that may still be unfolded: a lexicographic order on calls.  Hence the bounds
of `Setting.isData` and `Setting.literalForm` are never reached (`traversals_end`).
-/

namespace TypedModules

/-! ### Recursions without a bound -/

section Recursion

variable {α β : Type}

/-- The recursion with a body, as far as it gets without nesting more than `depth` calls. -/
def unrolled (body : (α → Option β) → α → Option β) : (depth : Nat) → α → Option β
  | 0 => fun _ => none
  | depth + 1 => body (unrolled body depth)

/-- Whether the recursion with a body returns a result for a call. -/
def Returns (body : (α → Option β) → α → Option β) (call : α) (result : β) : Prop :=
  ∃ enough, ∀ depth, enough ≤ depth → unrolled body depth call = some result

variable {body : (α → Option β) → α → Option β} {call : α} {result : β}

theorem Returns.unique {other : β} (h : Returns body call result)
    (hother : Returns body call other) :
  result = other
  := by
  obtain ⟨enough, h⟩ := h
  obtain ⟨enough', hother⟩ := hother
  have hmax := h _ (Nat.le_max_left enough enough')
  rw [hother _ (Nat.le_max_right enough enough')] at hmax
  exact (Option.some.inj hmax).symm

theorem Returns.iff_eq (h : Returns body call result) {other : β} :
  Returns body call other ↔ other = result
  := by
  constructor
  · exact fun hother => hother.unique h
  · rintro rfl
    exact h

/-- A call returns what the body makes of the calls in it. -/
theorem Returns.of_body (enough : Nat)
    (h : ∀ depth, enough ≤ depth → body (unrolled body depth) call = some result) :
  Returns body call result
  := by
  refine ⟨enough + 1, fun depth hdepth => ?_⟩
  obtain ⟨depth, rfl⟩ : ∃ n, depth = n + 1 := ⟨depth - 1, by omega⟩
  exact h depth (by omega)

/-- A call that is handed on returns what the other returns. -/
theorem Returns.of_eq {other : α} (hbody : ∀ next, body next call = next other)
    (h : Returns body other result) :
  Returns body call result
  := by
  obtain ⟨enough, h⟩ := h
  exact .of_body enough fun depth hdepth => (hbody _).trans (h depth hdepth)

/-- A call without calls in it returns. -/
theorem Returns.of_some (hbody : ∀ next, body next call = some result) :
  Returns body call result
  := .of_body 0 fun _ _ => hbody _

end Recursion

namespace Setting

/-- The check of one type after another, up to the first that is no plain data; `next` checks each
of them. -/
def checkInTurn (next : List Entity × Ty → Option (Bool × List Entity)) (visiting : List Entity) :
    (types : List Ty) → Option (Bool × List Entity)
  | [] => some (true, visiting)
  | type :: rest => do
    let (answer, left) ← next (visiting, type)
    if answer then checkInTurn next left rest else return (false, left)

/-- The body of the check for plain data: from the set of the entities that are being unfolded and a
type, the answer and the set afterwards. -/
def dataBody (setting : Setting) (next : List Entity × Ty → Option (Bool × List Entity))
    (call : List Entity × Ty) : Option (Bool × List Entity) :=
  let (visiting, type) := call
  match type with
  | .integer => some (true, visiting)
  | .natural => some (true, visiting)
  | .boolean => some (true, visiting)
  | .list element => next (visiting, element)
  | .tryOf inner => next (visiting, inner)
  | .function _ _ _ _ => some (false, visiting)
  | .named isReference entity _ args =>
    if isReference then some (false, visiting)
    else
      match setting.definitions? entity.module with
      | none => some (false, visiting)
      | some definitions =>
        match definitions.opaque? entity.id with
        | some type =>
          if type.isReference then some (false, visiting) else checkInTurn next visiting args
        | none =>
          if visiting.contains entity then some (true, visiting)
          else
            match setting.parts? entity args with
            | none => some (false, (entity :: visiting).erase entity)
            | some parts => do
              let (answer, left) ← checkInTurn next (entity :: visiting) parts
              return (answer, left.erase entity)
  | .param p => some (p.typeClass == some .data, visiting)
  | .internal _ => some (false, visiting)

/-- The body of the walk along a chain: from the set of the structs that were passed and a type, the
form at the end of the chain, or why there is none. -/
def literalBody (setting : Setting)
    (next : List Entity × Ty → Option (Except LiteralFault LiteralForm))
    (turn : List Entity × Ty) : Option (Except LiteralFault LiteralForm) :=
  let (seen, type) := turn
  match type with
  | .integer => some (.ok .integer)
  | .natural => some (.ok .natural)
  | .boolean => some (.ok .boolean)
  | .named _ entity _ args =>
    if entity = stringEntity then some (.ok .string)
    else
      match setting.onlyMember? entity args with
      | none => some (.error .noForm)
      | some member =>
        if seen.contains entity then some (.error (.cycle entity))
        else next (entity :: seen, member)
  | _ => some (.error .noForm)

/-! ### Calls -/

/-- Which calls of the check for plain data a call may make itself; a call is about a type, while
some entities are being unfolded. -/
inductive Checks (setting : Setting) : (call next : List Entity × Ty) → Prop
  | list {visiting : List Entity} {element : Ty} :
    Checks setting (visiting, .list element) (visiting, element)
  | tryOf {visiting : List Entity} {inner : Ty} :
    Checks setting (visiting, .tryOf inner) (visiting, inner)
  | arg {visiting : List Entity} {isReference : Bool} {entity : Entity} {written : Reference}
      {args : List Ty} {arg : Ty} :
    arg ∈ args →
    Checks setting (visiting, .named isReference entity written args) (visiting, arg)
  | part {visiting : List Entity} {isReference : Bool} {entity : Entity} {written : Reference}
      {args parts : List Ty} {part : Ty} :
    entity ∉ visiting →
    setting.parts? entity args = some parts →
    part ∈ parts →
    Checks setting (visiting, .named isReference entity written args) (entity :: visiting, part)

/-- Which turn of the walk along a chain comes after another; a turn is about a type, after some
structs. -/
inductive Walks (setting : Setting) : (turn next : List Entity × Ty) → Prop
  | member {seen : List Entity} {isReference : Bool} {entity : Entity} {written : Reference}
      {args : List Ty} {member : Ty} :
    entity ∉ seen →
    setting.onlyMember? entity args = some member →
    Walks setting (seen, .named isReference entity written args) (entity :: seen, member)

variable {setting : Setting}

theorem checkInTurn_congr {next next' : List Entity × Ty → Option (Bool × List Entity)}
    {visiting : List Entity} {types : List Ty}
    (hnext : ∀ type ∈ types, next (visiting, type) = next' (visiting, type))
    (hleft : ∀ type ∈ types, ∀ answer left,
      next (visiting, type) = some (answer, left) → left = visiting) :
  checkInTurn next visiting types = checkInTurn next' visiting types
  := by
  induction types with
  | nil => rfl
  | cons type rest ih =>
    obtain ⟨htype, hrest⟩ := List.forall_mem_cons.mp hnext
    obtain ⟨hleft, hrestLeft⟩ := List.forall_mem_cons.mp hleft
    rw [checkInTurn, checkInTurn, ← htype]
    cases hanswer : next (visiting, type) with
    | none => rfl
    | some result =>
      obtain ⟨answer, left⟩ := result
      obtain rfl := hleft answer left hanswer
      cases answer with
      | true => exact ih hrest hrestLeft
      | false => rfl

/-- The check asks for nothing but its calls, as long as these leave the set as it was. -/
theorem dataBody_congr {call : List Entity × Ty}
    {next next' : List Entity × Ty → Option (Bool × List Entity)}
    (hnext : ∀ inner, setting.Checks call inner → next inner = next' inner)
    (hleft : ∀ inner answer left, setting.Checks call inner →
      next inner = some (answer, left) → left = inner.1) :
  setting.dataBody next call = setting.dataBody next' call
  := by
  obtain ⟨visiting, type⟩ := call
  cases type with
  | integer | natural | boolean | function | param | internal => rfl
  | list element => exact hnext _ .list
  | tryOf inner => exact hnext _ .tryOf
  | named isReference entity written args =>
    have hargs : checkInTurn next visiting args = checkInTurn next' visiting args :=
      checkInTurn_congr (fun _ harg => hnext _ (.arg harg))
        fun _ harg _ _ => hleft _ _ _ (.arg harg)
    have hparts : entity ∉ visiting → ∀ parts, setting.parts? entity args = some parts →
        checkInTurn next (entity :: visiting) parts
          = checkInTurn next' (entity :: visiting) parts := fun hnew parts hshape =>
      checkInTurn_congr (fun _ hpart => hnext _ (.part hnew hshape hpart))
        fun _ hpart _ _ => hleft _ _ _ (.part hnew hshape hpart)
    simp only [dataBody, hargs]
    by_cases hmem : entity ∈ visiting
    · simp [hmem]
    · cases hshape : setting.parts? entity args with
      | none => rfl
      | some parts => simp only [hparts hmem parts hshape]

/-- The walk asks for nothing but its next turn. -/
theorem literalBody_congr {turn : List Entity × Ty}
    {next next' : List Entity × Ty → Option (Except LiteralFault LiteralForm)}
    (hnext : ∀ later, setting.Walks turn later → next later = next' later) :
  setting.literalBody next turn = setting.literalBody next' turn
  := by
  obtain ⟨seen, type⟩ := turn
  cases type with
  | named isReference entity written args =>
    simp only [literalBody]
    cases honly : setting.onlyMember? entity args with
    | none => rfl
    | some member =>
      by_cases hmem : entity ∈ seen
      · simp [hmem]
      · simp only [hnext _ (.member hmem honly)]
  | _ => rfl

/-- The only member of a struct is its part, so what the walk goes to the check goes to as well. -/
theorem Walks.checks {turn next : List Entity × Ty} (h : setting.Walks turn next) :
  setting.Checks turn next
  := by
  cases h with
  | member hnew honly => exact .part hnew (parts?_of_onlyMember? honly) List.mem_cons_self

/-- How many structs and unions are left that may still be unfolded. -/
def remaining (setting : Setting) (visiting : List Entity) : Nat :=
  (setting.shapes.toFinset \ visiting.toFinset).card

theorem remaining_nil_le (setting : Setting) :
  setting.remaining [] ≤ setting.shapeCount
  := by
  rw [remaining, List.toFinset_nil, Finset.sdiff_empty, ← length_shapes]
  exact List.toFinset_card_le setting.shapes

/-- Unfolding an entity leaves fewer. -/
theorem remaining_cons_lt {visiting : List Entity} {entity : Entity} (hnew : entity ∉ visiting)
    (hshape : entity ∈ setting.shapes) :
  setting.remaining (entity :: visiting) < setting.remaining visiting
  := by
  rw [remaining, remaining, List.toFinset_cons, Finset.sdiff_insert]
  apply Finset.card_erase_lt_of_mem
  simpa using ⟨hshape, hnew⟩

/-- The order in which calls get smaller: fewer entities are left to be unfolded, or as many and the
type is smaller. -/
theorem Checks.lex {call next : List Entity × Ty} (h : setting.Checks call next) :
  Prod.Lex (· < ·) (· < ·) (setting.remaining next.1, sizeOf next.2)
    (setting.remaining call.1, sizeOf call.2)
  := by
  cases h with
  | list | tryOf =>
    apply Prod.Lex.right
    simp
  | arg harg =>
    apply Prod.Lex.right
    have := List.sizeOf_lt_of_mem harg
    simp only [Ty.named.sizeOf_spec]
    omega
  | part hnew hparts _ => exact Prod.Lex.left _ _ (remaining_cons_lt hnew (mem_shapes hparts))

/-- Calls do not go on for ever. -/
theorem wellFounded_checks (setting : Setting) :
  WellFounded fun next call => setting.Checks call next
  := Subrelation.wf Checks.lex
    (InvImage.wf (fun call : List Entity × Ty => (setting.remaining call.1, sizeOf call.2))
      (Prod.lex Nat.lt_wfRel Nat.lt_wfRel).wf)

theorem wellFounded_walks (setting : Setting) :
  WellFounded fun next turn => setting.Walks turn next
  := Subrelation.wf Walks.checks setting.wellFounded_checks

/-- Along calls, what is being unfolded is told apart and can be reached. -/
theorem Checks.visiting {call next : List Entity × Ty}
    (h : Relation.ReflTransGen setting.Checks call next) (hnodup : call.1.Nodup)
    (hshapes : call.1 ⊆ setting.shapes) :
  next.1.Nodup ∧ next.1 ⊆ setting.shapes
  := by
  induction h with
  | refl => exact ⟨hnodup, hshapes⟩
  | tail _ hnext ih =>
    cases hnext with
    | list | tryOf | arg => exact ih
    | part hnew hparts _ =>
      exact ⟨List.nodup_cons.mpr ⟨hnew, ih.1⟩, List.cons_subset.mpr ⟨mem_shapes hparts, ih.2⟩⟩

/-! ### The recursions return -/

/-- If each type of a list is checked and leaves the set as it was, then so are all of them. -/
theorem exists_checkInTurn {visiting : List Entity} {types : List Ty} {answer : Ty → Bool}
    (h : ∀ type ∈ types, Returns setting.dataBody (visiting, type) (answer type, visiting)) :
  ∃ enough, ∀ depth, enough ≤ depth →
    checkInTurn (unrolled setting.dataBody depth) visiting types
      = some (types.all answer, visiting)
  := by
  induction types with
  | nil => exact ⟨0, fun _ _ => rfl⟩
  | cons type rest ih =>
    obtain ⟨⟨enough, htype⟩, hrest⟩ := List.forall_mem_cons.mp h
    obtain ⟨enough', hrest⟩ := ih hrest
    refine ⟨max enough enough', fun depth hdepth => ?_⟩
    rw [checkInTurn, htype depth (by omega), List.all_cons]
    cases answer type with
    | true => exact hrest depth (by omega)
    | false => rfl

theorem isDataWithin_named {bound : Nat} {visiting : List Entity} {entity : Entity}
    {written : Reference} {args : List Ty} :
  setting.isDataWithin (bound + 1) visiting (.named false entity written args)
    = match setting.opaque? entity with
      | some type => !type.isReference && args.all (setting.isDataWithin (bound + 1) visiting)
      | none => visiting.contains entity ||
        match setting.parts? entity args with
        | some parts => parts.all (setting.isDataWithin bound (entity :: visiting))
        | none => false
  := by
  rw [isDataWithin, isDataBy, areDataBy_eq_all]
  rfl

/-- Of a named type, the check is right if it is right of the arguments and, should the entity be
unfolded, of its parts. -/
theorem returns_named {visiting : List Entity} {bound : Nat} {isReference : Bool} {entity : Entity}
    {written : Reference} {args : List Ty}
    (hvisiting : ∀ entity ∈ visiting, ∃ args, (setting.parts? entity args).isSome)
    (hargs : ∀ arg ∈ args, Returns setting.dataBody (visiting, arg)
      (setting.isDataWithin (bound + 1) visiting arg, visiting))
    (hparts : entity ∉ visiting → ∀ parts, setting.parts? entity args = some parts →
      ∀ part ∈ parts, Returns setting.dataBody (entity :: visiting, part)
        (setting.isDataWithin bound (entity :: visiting) part, entity :: visiting)) :
  Returns setting.dataBody (visiting, .named isReference entity written args)
    (setting.isDataWithin (bound + 1) visiting (.named isReference entity written args), visiting)
  := by
  cases isReference with
  | true => exact .of_some fun _ => rfl
  | false =>
    rw [isDataWithin_named]
    cases hdefinitions : setting.definitions? entity.module with
    | none =>
      have hnone : ∀ args, setting.parts? entity args = none := by
        intro args
        rw [parts?, hdefinitions, Option.bind_none]
      -- what is being unfolded has parts, so this entity is not among it
      have hnew : entity ∉ visiting := by
        intro hmem
        obtain ⟨args, hsome⟩ := hvisiting entity hmem
        rw [hnone] at hsome
        cases hsome
      exact .of_some fun _ => by simp [dataBody, opaque?, hdefinitions, hnone, hnew]
    | some definitions =>
      have hfound : setting.opaque? entity = definitions.opaque? entity.id := by
        rw [opaque?, hdefinitions, Option.bind_some]
      rw [hfound]
      cases hnative : definitions.opaque? entity.id with
      | some type =>
        obtain ⟨enough, hall⟩ := exists_checkInTurn hargs
        refine .of_body enough fun depth hdepth => ?_
        cases hreference : type.isReference with
        | true => simp [dataBody, hdefinitions, hnative, hreference]
        | false => simp [dataBody, hdefinitions, hnative, hreference, hall depth hdepth]
      | none =>
        by_cases hmem : entity ∈ visiting
        · exact .of_some fun _ => by simp [dataBody, hdefinitions, hnative, hmem]
        · cases hshape : setting.parts? entity args with
          | none => exact .of_some fun _ => by simp [dataBody, hdefinitions, hnative, hmem, hshape]
          | some parts =>
            obtain ⟨enough, hall⟩ := exists_checkInTurn (hparts hmem parts hshape)
            refine .of_body enough fun depth hdepth => ?_
            simp [dataBody, hdefinitions, hnative, hmem, hshape, hall depth hdepth]

/-- The check returns the answer of the one with a bound, if that may go deep enough, and leaves
the set as it was. -/
theorem returns_data (call : List Entity × Ty)
    (hvisiting : ∀ entity ∈ call.1, ∃ args, (setting.parts? entity args).isSome) {bound : Nat}
    (hbound : setting.remaining call.1 < bound) :
  Returns setting.dataBody call (setting.isDataWithin bound call.1 call.2, call.1)
  := by
  induction call using setting.wellFounded_checks.induction generalizing bound with
  | h call ih =>
    obtain ⟨visiting, type⟩ := call
    obtain ⟨bound, rfl⟩ : ∃ n, bound = n + 1 := ⟨bound - 1, by omega⟩
    dsimp only at hvisiting hbound ⊢
    cases type with
    | integer | natural | boolean | function | param | internal => exact .of_some fun _ => rfl
    | list element =>
      exact .of_eq (fun _ => rfl) (ih (visiting, element) .list hvisiting hbound)
    | tryOf inner =>
      exact .of_eq (fun _ => rfl) (ih (visiting, inner) .tryOf hvisiting hbound)
    | named isReference entity written args =>
      refine returns_named hvisiting
        (fun arg harg => ih (visiting, arg) (.arg harg) hvisiting hbound)
        fun hnew parts hparts part hpart => ?_
      have hless := remaining_cons_lt hnew (mem_shapes hparts)
      have hleft : setting.remaining (entity :: visiting) < bound := by omega
      exact ih (entity :: visiting, part) (.part hnew hparts hpart)
        (List.forall_mem_cons.mpr ⟨⟨args, by rw [hparts, Option.isSome_some]⟩, hvisiting⟩) hleft

/-- The walk returns what the one with a bound does, if that may go deep enough. -/
theorem returns_literal (turn : List Entity × Ty) {bound : Nat}
    (hbound : setting.remaining turn.1 < bound) :
  Returns setting.literalBody turn (setting.literalFormWithin bound turn.1 turn.2)
  := by
  induction turn using setting.wellFounded_walks.induction generalizing bound with
  | h turn ih =>
    obtain ⟨seen, type⟩ := turn
    obtain ⟨bound, rfl⟩ : ∃ n, bound = n + 1 := ⟨bound - 1, by omega⟩
    dsimp only at hbound ⊢
    cases type with
    | named isReference entity written args =>
      rw [literalFormWithin]
      by_cases hentity : entity = stringEntity
      · rw [if_pos hentity]
        exact .of_some fun _ => by simp [literalBody, hentity]
      · rw [if_neg hentity]
        cases honly : setting.onlyMember? entity args with
        | none => exact .of_some fun _ => by simp [literalBody, hentity, honly]
        | some member =>
          by_cases hmem : entity ∈ seen
          · exact .of_some fun _ => by simp [literalBody, hentity, honly, hmem]
          · have hless := remaining_cons_lt hmem (mem_shapes (parts?_of_onlyMember? honly))
            have hleft : setting.remaining (entity :: seen) < bound := by omega
            have hnext := ih (entity :: seen, member) (.member hmem honly) hleft
            simp only [List.contains_iff_mem, hmem, if_false]
            exact .of_eq (fun _ => by simp [literalBody, hentity, honly, hmem]) hnext
    | _ => exact .of_some fun _ => rfl

end Setting

/-! ### Validation -/

/-- Whether the traversals of the types that a module can see come to an end. -/
structure Setting.TraversalsEnd (setting : Setting) : Prop where
  /-- The check for plain data asks for nothing but its calls, as long as these leave the set as it
  was. -/
  calls : ∀ (call : List Entity × Ty) (next next' : List Entity × Ty → Option (Bool × List Entity)),
    (∀ inner, setting.Checks call inner → next inner = next' inner) →
    (∀ inner answer left, setting.Checks call inner →
      next inner = some (answer, left) → left = inner.1) →
    setting.dataBody next call = setting.dataBody next' call
  /-- The walk along a chain asks for nothing but its next turn. -/
  turns : ∀ (turn : List Entity × Ty)
    (next next' : List Entity × Ty → Option (Except LiteralFault LiteralForm)),
    (∀ later, setting.Walks turn later → next later = next' later) →
    setting.literalBody next turn = setting.literalBody next' turn
  /-- No call of the check makes calls that go on for ever, whatever is being unfolded. -/
  checks : WellFounded fun next call => setting.Checks call next
  /-- No turn of a walk is followed by others for ever. -/
  walks : WellFounded fun next turn => setting.Walks turn next
  /-- What is unfolded along a path of calls is unfolded once, and is one of the structs and
  unions that the module can reach. -/
  unfolded : ∀ type visiting inner,
    Relation.ReflTransGen setting.Checks ([], type) (visiting, inner) →
    visiting.Nodup ∧ visiting ⊆ setting.shapes
  /-- So are the structs that a walk passes. -/
  passed : ∀ type seen last, Relation.ReflTransGen setting.Walks ([], type) (seen, last) →
    seen.Nodup ∧ seen ⊆ setting.shapes
  /-- The check returns, with an empty set, the answer of the one with a bound. -/
  data : ∀ type result,
    Returns setting.dataBody ([], type) result ↔ result = (setting.isData type, [])
  /-- The walk returns what the one with a bound does. -/
  literal : ∀ type result,
    Returns setting.literalBody ([], type) result ↔ result = setting.literalForm type

theorem Setting.traversals (setting : Setting) :
  setting.TraversalsEnd
  where
    calls _ _ _ := dataBody_congr
    turns _ _ _ := literalBody_congr
    checks := setting.wellFounded_checks
    walks := setting.wellFounded_walks
    unfolded _ _ _ h := Checks.visiting h List.nodup_nil (List.nil_subset _)
    passed _ _ _ h :=
      Checks.visiting (Relation.ReflTransGen.mono (fun _ _ => Walks.checks) _ _ h) List.nodup_nil
        (List.nil_subset _)
    data type _ :=
      (returns_data ([], type) (by simp) (Nat.lt_succ_of_le setting.remaining_nil_le)).iff_eq
    literal type _ :=
      (returns_literal ([], type)
        (Nat.lt_succ_of_le (Nat.le_succ_of_le setting.remaining_nil_le))).iff_eq

/-- Every sink records an error of a log that has one. -/
theorem errors_emitAll_ne_nil {log : List Diagnostic} (h : Check.hasError log = true)
    (config : SinkConfig) :
  ((Sink.empty config).emitAll log).errors ≠ []
  := by
  intro hnone
  have hfirst := Sink.head?_errors_emitAll config log
  rw [hnone, List.head?_nil, eq_comm, List.find?_eq_none] at hfirst
  obtain ⟨diagnostic, hmem, herror⟩ := List.any_eq_true.mp h
  exact hfirst diagnostic hmem herror

/-- Whether a verdict is a module, or errors of which there is one at least. -/
def Verdict.IsResult : Verdict → Prop
  | .success _ _ => True
  | .failure errors _ => errors ≠ []

/-- Whatever structs and unions a module declares and can reach, the traversals of its types end,
and the check of a module ends with a result. -/
theorem traversals_end :
  (∀ setting : Setting, setting.TraversalsEnd)
    ∧ ∀ number context name dependencies config,
      (validate number context name dependencies config).IsResult
  := by
  refine ⟨Setting.traversals, fun number context name dependencies config => ?_⟩
  unfold validate
  cases herror : Check.hasError (checkModule number context name dependencies).runFromStart.2 with
  | true =>
    simp only [Sink.hasErrors_emitAll, herror]
    split
    next h => cases h
    next => exact errors_emitAll_ne_nil herror config
  | false =>
    obtain ⟨module, hpasses⟩ := (loud_checkModule number context name dependencies).resolve_left
      (ne_true_of_eq_false herror)
    have hresult : (checkModule number context name dependencies).runFromStart.1 = some module :=
      hpasses.2
    simp only [Sink.hasErrors_emitAll, herror, hresult]
    trivial

/-- The setting of a module that declares the struct `Growing<T>`, with a `Growing<List<T>>`. -/
def growingSetting : Setting :=
  let module : ModuleId := ⟨⟨"example", "growing"⟩, "1"⟩
  let param : TypeParam := ⟨"T", none⟩
  let rest : Ty :=
    .named false ⟨module, ⟨["Growing"]⟩⟩ (.ofId ⟨["Growing"]⟩) [.list (.param param)]
  { (default : Setting) with
    module := module
    own := { structs := [⟨⟨["Growing"]⟩, module, [param], [⟨"rest", rest⟩], false, []⟩] } }

/-- The type `Growing` with an argument. -/
def growingSetting.type (arg : Ty) : Ty :=
  .named false ⟨growingSetting.module, ⟨["Growing"]⟩⟩ (.ofId ⟨["Growing"]⟩) [arg]

/-- Every struct that unfolding `Growing<Integer>` leads to has a larger argument than the one
before, but the first is the last to be unfolded. -/
example : growingSetting.isData (growingSetting.type .integer) = true
    ∧ growingSetting.literalForm (growingSetting.type .integer)
      = .error (.cycle ⟨growingSetting.module, ⟨["Growing"]⟩⟩) :=
  ⟨rfl, rfl⟩

end TypedModules
