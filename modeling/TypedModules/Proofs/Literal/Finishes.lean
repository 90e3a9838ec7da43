import Mathlib
import TypedModules.Eval.Tests
import TypedModules.Proofs.Eval.Equal
import TypedModules.Proofs.Literal.Chain
import TypedModules.Proofs.Literal.Written
import TypedModules.Proofs.Renamed.Module

/-!
# Literals whose decoding finishes

A literal is decoded by decoding others: that of a list by its items, that of a success by what
stands inside it, and that of a struct with one member as it is, by the type of the member.  Items
and what stands inside a success are shorter texts, so decoding finishes unless it comes to a type
that is unwrapped from struct to struct for ever, as a struct is that has itself as its only member
(`literal_finishes`).  Of such a type decoding never finishes, whatever the text is.
-/

namespace TypedModules

/-! ### Evaluations that finish -/

/-- Whether evaluations settle from a store, on what is not a lack of fuel. -/
def Finishes {α : Type} (run : Nat → Eval α) (store : Store) : Prop :=
  ∃ outcome, Settles run store outcome ∧ outcome.1 ≠ .error .outOfFuel

section Finishes

variable {α β : Type} {store : Store}

theorem finishes_pure (a : α) :
  Finishes (fun _ => pure a) store
  := ⟨(.ok a, store), ⟨0, fun _ _ => rfl⟩, nofun⟩

theorem finishes_fail (cause : EvalCause) :
  Finishes (fun _ => (.fail cause : Eval α)) store
  := ⟨(.error (.error { cause := cause }), store), ⟨0, fun _ _ => rfl⟩, nofun⟩

/-- Evaluations that finish may be followed by others that finish after each value. -/
theorem Finishes.bind {run : Nat → Eval α} {next : Nat → α → Eval β} (h : Finishes run store)
    (hnext : ∀ a after, Settles run store (.ok a, after) →
      Finishes (fun fuel => next fuel a) after) :
  Finishes (fun fuel => run fuel >>= next fuel) store
  := by
  obtain ⟨⟨result, after⟩, ⟨enough, hsettles⟩, hends⟩ := h
  cases result with
  | error halt =>
    refine ⟨(.error halt, after), ⟨enough, fun fuel hfuel => ?_⟩, fun e => hends ?_⟩
    · rw [Discipline.outcome_bind, hsettles fuel hfuel]
    · cases e
      rfl
  | ok a =>
    obtain ⟨outcome, ⟨enough', hsettles'⟩, hends'⟩ := hnext a after ⟨enough, hsettles⟩
    refine ⟨outcome, ⟨max enough enough', fun fuel hfuel => ?_⟩, hends'⟩
    rw [Discipline.outcome_bind, hsettles fuel (by omega)]
    exact hsettles' fuel (by omega)

/-- What is evaluated for items, one after another. -/
theorem finishes_mapM {run : Nat → α → Eval β} {items : List α}
    (h : ∀ item ∈ items, ∀ store, Finishes (fun fuel => run fuel item) store) (store : Store) :
  Finishes (fun fuel => items.mapM (run fuel)) store
  := by
  induction items generalizing store with
  | nil => exact finishes_pure []
  | cons item rest ih =>
    rw [List.forall_mem_cons] at h
    simp only [List.mapM_cons]
    exact (h.1 store).bind fun b after _ =>
      (ih h.2 after).bind fun bs _ _ => finishes_pure (b :: bs)

/-- Evaluations that need one more unit of fuel finish as well. -/
theorem Finishes.of_succ {run : Nat → Eval α} (h : Finishes (fun fuel => run (fuel + 1)) store) :
  Finishes run store
  := by
  obtain ⟨outcome, ⟨enough, hsettles⟩, hends⟩ := h
  refine ⟨outcome, ⟨enough + 1, fun fuel hfuel => ?_⟩, hends⟩
  obtain ⟨less, rfl⟩ : ∃ less, fuel = less + 1 := ⟨fuel - 1, by omega⟩
  exact hsettles less (by omega)

/-- What never ends is not followed by anything. -/
theorem Diverges.bind {run : Nat → Eval α} (h : Diverges run store) (next : Nat → α → Eval β) :
  Diverges (fun fuel => run fuel >>= next fuel) store
  := by
  intro fuel
  rw [Discipline.outcome_bind]
  have hfuel := h fuel
  rcases e : (run fuel).outcome store with ⟨halt | a, after⟩ <;> rw [e] at hfuel <;> cases hfuel
  rfl

end Finishes

/-! ### Texts inside texts -/

namespace Text

theorem length_skipBlanks_le (cs : List Char) :
  (skipBlanks cs).length ≤ cs.length
  := (cs.dropWhile_sublist isBlank).length_le

theorem length_trimEnd_le (cs : List Char) :
  (trimEnd cs).length ≤ cs.length
  := by
  rw [trimEnd, List.length_reverse, ← @List.length_reverse _ cs]
  exact length_skipBlanks_le cs.reverse

theorem length_trim_le (cs : List Char) :
  (trim cs).length ≤ cs.length
  := Nat.le_trans (length_trimEnd_le _) (length_skipBlanks_le cs)

end Text

namespace ListText

/-- What a scan finds behind a text is as long as what it finds and the text. -/
theorem length_passed {first : List Char} {found : Except Fault (List Char × List Char)}
    {text after : List Char} (h : passed first found = .ok (text, after)) :
  ∃ rest, found = .ok (rest, after) ∧ text.length = first.length + rest.length
  := by
  obtain ⟨rest, hfound, rfl⟩ := exists_of_passed h
  exact ⟨rest, hfound, List.length_append⟩

/-- The quote that closes an item is part of neither text. -/
theorem length_quoted {quote : Char} {cs text after : List Char}
    (h : quoted quote cs = .ok (text, after)) :
  text.length + after.length < cs.length
  := by
  fun_induction quoted quote cs generalizing text after with
  | case1 | case2 => cases h
  | case3 c rest ih | case5 c rest hplain hescape hquote ih =>
    obtain ⟨inner, hfound, hlength⟩ := @length_passed [c] _ _ _ h
    have := ih hfound
    simp only [List.length_cons, List.length_nil] at hlength ⊢
    omega
  | case4 rest hplain hescape =>
    cases h
    simp

/-- A nested list is found as it is written. -/
theorem length_nested {depth : Nat} {open? : Option Char} {cs text after : List Char}
    (h : nested depth open? cs = .ok (text, after)) :
  text.length + after.length = cs.length
  := by
  fun_induction nested depth open? cs generalizing text after with
  | case1 | case2 => cases h
  | case3 depth quote c rest _ ih =>
    obtain ⟨inner, hfound, hlength⟩ := @length_passed ['\\', c] _ _ _ h
    have := ih hfound
    simp only [List.length_cons, List.length_nil] at hlength ⊢
    omega
  | case8 =>
    cases h
    simp [Nat.add_comm]
  | case4 | case5 | case6 | case7 | case9 | case10 =>
    rename_i ih
    obtain ⟨inner, hfound, hlength⟩ := @length_passed [_] _ _ _ h
    have := ih _ _ hfound
    simp only [List.length_cons, List.length_nil] at hlength ⊢
    omega

/-- An item and what comes after it are no longer than both. -/
theorem length_item {cs text after : List Char} (h : item cs = .ok (text, after)) :
  text.length + after.length ≤ cs.length
  := by
  unfold item at h
  split at h
  next => cases h
  next => exact Nat.le_of_eq (length_nested h)
  next => exact Nat.le_succ_of_le (Nat.le_of_lt (length_quoted h))
  next => exact Nat.le_succ_of_le (Nat.le_of_lt (length_quoted h))
  next =>
    cases h
    have hbare := congrArg List.length (List.takeWhile_append_dropWhile (p := (· != ',')) (l := cs))
    have htrim := Text.length_trimEnd_le (cs.takeWhile (· != ','))
    rw [List.length_append] at hbare
    omega

theorem length_items {fuel : Nat} {cs : List Char} {texts : List (List Char)}
    (h : items fuel cs = .ok texts) :
  ∀ text ∈ texts, text.length ≤ cs.length
  := by
  induction fuel generalizing cs texts with
  | zero => cases h
  | succ fuel ih =>
    have hskip := Text.length_skipBlanks_le cs
    unfold items at h
    split at h
    next => cases h
    next first after hitem =>
      have hfirst := length_item hitem
      have hafter := Text.length_skipBlanks_le after
      split at h
      next =>
        cases h
        rintro _ (_ | ⟨_, ⟨⟩⟩)
        omega
      next c rest hrest =>
        split at h
        next =>
          obtain ⟨others, hothers, rfl⟩ := exists_of_map_eq_ok h
          rw [hrest, List.length_cons] at hafter
          rw [List.forall_mem_cons]
          refine ⟨by omega, fun text htext => ?_⟩
          have := ih hothers text htext
          omega
        next => cases h

/-- The items of a list literal are shorter than the literal, because of its brackets. -/
theorem length_of_mem_parse {literal : String} {texts : List String}
    (h : parse literal = .ok texts) {text : String} (hmem : text ∈ texts) :
  text.length < literal.length
  := by
  unfold parse at h
  split at h
  next => cases h
  next cs hinside =>
    have hcs : cs.length < literal.length := by
      have htrim := Text.length_trim_le literal.toList
      unfold inside at hinside
      split at hinside
      next rest hrest =>
        split_ifs at hinside with hlast
        cases hinside
        rw [hrest, List.length_cons, String.length_toList] at htrim
        rw [List.length_dropLast]
        omega
      next => cases hinside
    split_ifs at h with hempty
    · cases h
      cases hmem
    · obtain ⟨texts, hitems, rfl⟩ := exists_of_map_eq_ok h
      obtain ⟨item, hitem, rfl⟩ := List.mem_map.mp hmem
      rw [String.length_ofList]
      exact Nat.lt_of_le_of_lt (length_items hitems item hitem) hcs
end ListText

/-- What stands inside a success is shorter than the text. -/
theorem length_insideSuccess {text value : List Char} (h : insideSuccess? text = some value) :
  value.length < text.length
  := by
  rw [insideSuccess?] at h
  dsimp only at h
  split_ifs at h with hopening hclosing
  cases h
  have hlength := (List.isPrefixOf_iff_prefix.mp hopening).length_le
  rw [List.length_dropLast, List.length_drop]
  have : "success(".toList.length = 8 := rfl
  omega
/-! ### What decoding opens -/

namespace Program

/-- The struct with one member that a type unwraps, and the type of the member. -/
def wrapper? (program : Program) : Ty → Option (Struct × Ty)
  | .named _ entity _ args =>
    if entity = Native.string.entity then none
    else
      (program.struct? entity).bind fun struct =>
        match struct.members with
        | [member] => some (struct, member.type.substitute (.ofParams struct.typeParams args))
        | _ => none
  | _ => none

/-- Whether a type is unwrapped to another. -/
def Unwraps (program : Program) (type member : Ty) : Prop :=
  ∃ struct, program.wrapper? type = some (struct, member)

/-- Whether a type is unwrapped from struct to struct for ever. -/
def Endless (program : Program) (type : Ty) : Prop :=
  ∀ last, Relation.ReflTransGen program.Unwraps type last → ∃ next, program.Unwraps last next

/-- Whether the decoding of a text as a type may come to the decoding of another text. -/
inductive Opens (program : Program) : (type : Ty) → (text : String) → Ty → String → Prop
  | refl (type : Ty) (text : String) : Opens program type text type text
  | struct {type member inner : Ty} {text inside : String} :
    program.Unwraps type member →
    Opens program member text inner inside →
    Opens program type text inner inside
  | item {element inner : Ty} {text item inside : String} {items : List String} :
    ListText.parse text = .ok items →
    item ∈ items →
    Opens program element item inner inside →
    Opens program (.list element) text inner inside
  | success {value inner : Ty} {text inside : String} {held : List Char} :
    insideSuccess? (Text.trim text.toList) = some held →
    Opens program value (String.ofList held) inner inside →
    Opens program (.tryOf value) text inner inside

/-- Whether the `requires` blocks finish that the decoding of a text may ask, each for the values to
which the member of its struct is decoded. -/
def RequiresFinish (program : Program) (type : Ty) (text : String) : Prop :=
  ∀ inner inside struct member, program.Opens type text inner inside →
    program.wrapper? inner = some (struct, member) →
    ∀ before value after,
      Settles (fun fuel => program.decode fuel member inside) before (.ok value, after) →
      Finishes (fun fuel => struct.judge (program.answer fuel) value) after

/-- Whether decoding a text as a type may come to a type only that is unwrapped to its end, and to
`requires` blocks only that finish. -/
structure Harmless (program : Program) (type : Ty) (text : String) : Prop where
  ends : ∀ inner inside, program.Opens type text inner inside → ¬program.Endless inner
  requires : program.RequiresFinish type text

variable {program : Program}

theorem Harmless.of_opens {type type' : Ty} {text text' : String}
    (h : program.Harmless type text)
    (hopens : ∀ inner inside, program.Opens type' text' inner inside →
      program.Opens type text inner inside) :
  program.Harmless type' text'
  := ⟨fun inner inside hinner => h.ends inner inside (hopens inner inside hinner),
    fun inner inside struct member hinner =>
      h.requires inner inside struct member (hopens inner inside hinner)⟩

theorem Unwraps.unique {type member member' : Ty} (h : program.Unwraps type member)
    (h' : program.Unwraps type member') :
  member = member'
  := by
  obtain ⟨struct, h⟩ := h
  obtain ⟨struct', h'⟩ := h'
  rw [h] at h'
  cases h'
  rfl

theorem Endless.of_unwraps {type member : Ty} (h : program.Endless type)
    (hmember : program.Unwraps type member) :
  program.Endless member
  := fun last hlast => h last (hlast.head hmember)

/-- A struct with one member is decoded as that member is, if it allows the result. -/
theorem decode_wrapper {type member : Ty} {struct : Struct}
    (h : program.wrapper? type = some (struct, member)) (ask : Request → Eval Value)
    (text : String) :
  TypedModules.decode program ask type text = (do
    let value ← ask (.literal member text)
    let allows ← struct.judge ask value
    if allows then return .struct struct.toStructHeader [value]
    else .fail (.requiresFailed struct.id.text text))
  := by
  cases type with
  | named isReference entity written args =>
    rw [wrapper?] at h
    split_ifs at h with hentity
    obtain ⟨found, hstruct, h⟩ := Option.bind_eq_some_iff.mp h
    split at h
    next only honly =>
      cases h
      simp only [TypedModules.decode, if_neg hentity, hstruct, honly]
      exact decodeStruct_eq ask struct only args text
    next => cases h
  | _ => cases h

/-! ### Decoding what ends -/

theorem finishes_primitiveLiteral (type : Ty) (text : String) (value : Option Value)
    (store : Store) :
  Finishes (fun _ => primitiveLiteral type text value) store
  := by
  cases value with
  | none => exact finishes_fail _
  | some value => exact finishes_pure value

/-- Decoding finishes as a type that is not unwrapped, if the decoding of shorter texts does. -/
theorem Harmless.finishes_of_end {type : Ty} {text : String} (h : program.Harmless type text)
    (hend : program.wrapper? type = none)
    (hshorter : ∀ type' text', text'.length < text.length → program.Harmless type' text' →
      ∀ store, Finishes (fun fuel => program.decode fuel type' text') store)
    (store : Store) :
  Finishes (fun fuel => program.decode fuel type text) store
  := by
  apply Finishes.of_succ
  simp only [program.decode_succ]
  cases type with
  | integer | natural | boolean => exact finishes_primitiveLiteral _ text _ store
  | function | param | internal => exact finishes_fail _
  | list element =>
    simp only [TypedModules.decode]
    cases hparse : ListText.parse text with
    | error => exact finishes_fail _
    | ok items =>
      refine (finishes_mapM (fun item hitem => ?_) store).bind fun values _ _ => finishes_pure _
      exact hshorter element item (ListText.length_of_mem_parse hparse hitem)
        (h.of_opens fun _ _ hinner => .item hparse hitem hinner)
  | tryOf value =>
    simp only [TypedModules.decode, decodeTry]
    split_ifs
    · exact finishes_pure _
    · cases hinside : insideSuccess? (Text.trim text.toList) with
      | none => exact finishes_fail _
      | some held =>
        have hlength : (String.ofList held).length < text.length := by
          have htrim := Text.length_trim_le text.toList
          have hheld := length_insideSuccess hinside
          rw [String.length_toList] at htrim
          rw [String.length_ofList]
          omega
        exact (hshorter value _ hlength (h.of_opens fun _ _ hinner => .success hinside hinner)
          store).bind fun inner _ _ => finishes_pure _
  | named isReference entity written args =>
    rw [wrapper?] at hend
    simp only [TypedModules.decode]
    split_ifs at hend ⊢ with hentity
    · exact finishes_pure _
    · cases hstruct : program.struct? entity with
      | none => exact finishes_fail _
      | some struct =>
        rw [hstruct, Option.bind_some] at hend
        rcases hmembers : struct.members with _ | ⟨member, _ | ⟨second, rest⟩⟩
        · simp only [hmembers]
          exact finishes_fail _
        · rw [hmembers] at hend
          cases hend
        · simp only [hmembers]
          exact finishes_fail _

/-- Decoding finishes as a struct, if it finishes as its member and its `requires` block does. -/
theorem Harmless.finishes_of_wrapper {type member : Ty} {text : String} {struct : Struct}
    (h : program.Harmless type text) (hwrapper : program.wrapper? type = some (struct, member))
    (hmember : ∀ store, Finishes (fun fuel => program.decode fuel member text) store)
    (store : Store) :
  Finishes (fun fuel => program.decode fuel type text) store
  := by
  apply Finishes.of_succ
  simp only [program.decode_succ, decode_wrapper hwrapper]
  refine (hmember store).bind fun value after hvalue => ?_
  refine (h.requires _ _ _ _ (.refl type text) hwrapper store value after hvalue).bind ?_
  intro allows last _
  cases allows with
  | true => exact finishes_pure _
  | false => exact finishes_fail _

/-- Decoding finishes of what is harmless. -/
theorem Harmless.finishes {type : Ty} {text : String} (h : program.Harmless type text)
    (store : Store) :
  Finishes (fun fuel => program.decode fuel type text) store
  := by
  induction hlength : text.length using Nat.strongRecOn generalizing type text store with
  | ind length ih =>
    subst hlength
    obtain ⟨last, hpath, hend⟩ : ∃ last, Relation.ReflTransGen program.Unwraps type last
        ∧ ¬∃ next, program.Unwraps last next := by
      simpa [Endless] using h.ends _ _ (.refl type text)
    -- along the chain the text stays as it is, at its end it becomes shorter
    induction hpath using Relation.ReflTransGen.head_induction_on generalizing store with
    | refl =>
      have hnone : program.wrapper? last = none := by
        by_contra hsome
        obtain ⟨⟨struct, member⟩, hwrapper⟩ := Option.ne_none_iff_exists'.mp hsome
        exact hend ⟨member, struct, hwrapper⟩
      exact h.finishes_of_end hnone (fun type' text' hshorter hharmless store =>
        ih _ hshorter hharmless store rfl) store
    | head hfirst _ ihMember =>
      obtain ⟨struct, hwrapper⟩ := hfirst
      exact h.finishes_of_wrapper hwrapper (fun store => ihMember
        (h.of_opens fun _ _ hinner => .struct ⟨struct, hwrapper⟩ hinner) store) store

/-! ### Decoding what never ends -/

theorem diverges_decode {type : Ty} {text : String} {store : Store}
    (h : Diverges (fun fuel => TypedModules.decode program (program.answer fuel) type text) store) :
  Diverges (fun fuel => program.decode fuel type text) store
  := by
  intro fuel
  cases fuel with
  | zero => rfl
  | succ fuel => exact h fuel

/-- A struct is decoded for ever if its member is. -/
theorem Unwraps.diverges {type member : Ty} (h : program.Unwraps type member) {text : String}
    {store : Store} (hmember : Diverges (fun fuel => program.decode fuel member text) store) :
  Diverges (fun fuel => program.decode fuel type text) store
  := by
  obtain ⟨struct, hwrapper⟩ := h
  apply diverges_decode
  simp only [decode_wrapper hwrapper]
  exact hmember.bind _

/-- A type that is unwrapped for ever is decoded for ever, whatever the text. -/
theorem Endless.diverges {type : Ty} (h : program.Endless type) (text : String) (store : Store) :
  Diverges (fun fuel => program.decode fuel type text) store
  := by
  intro fuel
  induction fuel generalizing type store with
  | zero => rfl
  | succ fuel ih =>
    obtain ⟨member, struct, hwrapper⟩ := h type .refl
    have hmember := h.of_unwraps ⟨struct, hwrapper⟩
    have hfuel : ((program.answer fuel (.literal member text)).outcome store).1
        = .error .outOfFuel := ih hmember store
    show ((program.decode (fuel + 1) type text).outcome store).1 = _
    rw [program.decode_succ, decode_wrapper hwrapper, Discipline.outcome_bind]
    rcases e : (program.answer fuel (.literal member text)).outcome store with ⟨halt | a, after⟩ <;>
      rw [e] at hfuel <;> cases hfuel
    rfl

/-- Where decoding may come to a type that is unwrapped for ever, it never finishes for some
text: the same type is met again at a text that is written for it. -/
theorem Opens.exists_diverges {type inner : Ty} {text inside : String}
    (h : program.Opens type text inner inside) (hendless : program.Endless inner) :
  ∃ text, ∀ store, Diverges (fun fuel => program.decode fuel type text) store
  := by
  induction h with
  | refl type text => exact ⟨text, hendless.diverges text⟩
  | struct hunwraps _ ih =>
    obtain ⟨text, htext⟩ := ih hendless
    exact ⟨text, fun store => hunwraps.diverges (htext store)⟩
  | @item element _ _ _ _ _ _ _ _ ih =>
    obtain ⟨item, hitem⟩ := ih hendless
    refine ⟨String.ofList (ListText.bracketed (ListText.joined [ListText.inQuotes item.toList])),
      fun store => diverges_decode ?_⟩
    have hparse := ListText.parse_bracketed (.cons (ListText.writes_inQuotes item.toList) .nil)
    simp only [TypedModules.decode, hparse, List.map_cons, List.map_nil, String.ofList_toList,
      List.mapM_cons]
    exact ((hitem store).bind _).bind _
  | @success value _ _ _ _ _ _ ih =>
    obtain ⟨held, hheld⟩ := ih hendless
    refine ⟨String.ofList ("success(".toList ++ (held.toList ++ [')'])),
      fun store => diverges_decode ?_⟩
    simp only [TypedModules.decode, decodeTry_ofList, String.ofList_toList]
    exact (hheld store).bind _

end Program

/-- How decoding a literal ends.  It finishes, with a value or with an error, where it cannot come
to a type that is unwrapped for ever and the `requires` blocks that it asks finish.  Of a type that
is unwrapped for ever it never does; and where it can come to such a type, there is a text for which
it never does. -/
theorem literal_finishes (program : Program) (type : Ty) :
  (∀ text, (∀ inner inside, program.Opens type text inner inside → ¬program.Endless inner) →
      program.RequiresFinish type text →
      ∀ store, Finishes (fun fuel => program.decode fuel type text) store)
    ∧ (program.Endless type →
      ∀ text store, Diverges (fun fuel => program.decode fuel type text) store)
    ∧ ((∃ text inner inside, program.Opens type text inner inside ∧ program.Endless inner) →
      ∃ text, ∀ store, Diverges (fun fuel => program.decode fuel type text) store)
  := by
  refine ⟨fun text hends hrequires => Program.Harmless.finishes ⟨hends, hrequires⟩,
    Program.Endless.diverges, ?_⟩
  rintro ⟨text, inner, inside, hopens, hendless⟩
  exact hopens.exists_diverges hendless

/-! ### What is harmless -/

namespace Program

variable {program : Program}

/-- A text of a type that opens nothing else is harmless. -/
theorem harmless_natural (text : String) :
  program.Harmless .natural text
  := by
  have hopened : ∀ inner inside, program.Opens .natural text inner inside → inner = .natural := by
    rintro inner inside (_ | ⟨⟨_, hwrapper⟩, _⟩)
    · rfl
    · cases hwrapper
  refine ⟨fun inner inside hopens hendless => ?_,
    fun inner inside struct member hopens hwrapper => ?_⟩
  · obtain rfl := hopened inner inside hopens
    obtain ⟨_, _, hwrapper⟩ := hendless _ .refl
    cases hwrapper
  · obtain rfl := hopened inner inside hopens
    cases hwrapper

/-- A struct without a `requires` block is as harmless as its member. -/
theorem Harmless.struct {type member : Ty} {text : String} {struct : Struct}
    (h : program.Harmless member text) (hwrapper : program.wrapper? type = some (struct, member))
    (hrequires : struct.requires = none) :
  program.Harmless type text
  := by
  have hopened : ∀ inner inside, program.Opens type text inner inside →
      (inner = type ∧ inside = text) ∨ program.Opens member text inner inside := by
    rintro inner inside (_ | ⟨hunwraps, hinner⟩ | _ | _)
    · exact .inl ⟨rfl, rfl⟩
    · exact .inr (hunwraps.unique ⟨struct, hwrapper⟩ ▸ hinner)
    · cases hwrapper
    · cases hwrapper
  refine ⟨fun inner inside hinner hendless => ?_,
    fun inner inside found held hinner hfound before value after hvalue => ?_⟩
  · obtain ⟨rfl, rfl⟩ | hinner := hopened inner inside hinner
    · exact h.ends _ _ (.refl _ _) (hendless.of_unwraps ⟨struct, hwrapper⟩)
    · exact h.ends inner inside hinner hendless
  · obtain ⟨rfl, rfl⟩ | hinner := hopened inner inside hinner
    · rw [hwrapper] at hfound
      cases hfound
      simp only [Struct.judge, hrequires]
      exact finishes_pure true
    · exact h.requires inner inside found held hinner hfound before value after hvalue

end Program

/-! ### A struct that holds itself -/

/-- A context with the structs `Loop`, which has a `Loop` as its only member, and `Count`, with a
natural number, and with the function `one(loop: Loop): Integer`, which has a test case. -/
def loopContext : Context where
  functions := [{
      id := ⟨["one"]⟩
      typeParams := []
      args := [⟨"loop", .named false (.ofId ⟨["Loop"]⟩) [] none, none⟩]
      output := .integer
      body := .mk [.bare (.literal .integer "1" none)] none
      annotations := [⟨⟨["Test"]⟩, [.list [.literal "1"], .literal "1"]⟩]
      location := none }]
  structs := [{
      id := ⟨["Loop"]⟩
      typeParams := []
      members := [⟨"value", .named false (.ofId ⟨["Loop"]⟩) [] none⟩]
      requires := none
      annotations := []
      location := none },
    { id := ⟨["Count"]⟩
      typeParams := []
      members := [⟨"value", .natural⟩]
      requires := none
      annotations := []
      location := none }]

/-- The struct of a module with a name, as a type. -/
def ModuleId.structTy (id : ModuleId) (name : String) : Ty :=
  .named false ⟨id, ⟨[name]⟩⟩ (.ofId ⟨[name]⟩) []

/-- The function of the module that `loopContext` makes. -/
def loopModule.one (id : ModuleId) : Function where
  id := ⟨["one"]⟩
  module := id
  typeParams := []
  args := [⟨"loop", id.structTy "Loop"⟩]
  output := .integer
  body := .mk [] (.mk .integer .notAliased (.literal "1"))
  annotations := [⟨⟨["Test"]⟩, [.list [.literal "1"], .literal "1"]⟩]

/-- The module that `loopContext` makes. -/
def loopModule (id : ModuleId) : Module where
  id := id
  functions := [loopModule.one id]
  structs := [
    ⟨⟨⟨["Loop"]⟩, id, [], [⟨"value", id.structTy "Loop"⟩], false, []⟩, none⟩,
    ⟨⟨⟨["Count"]⟩, id, [], [⟨"value", .natural⟩], false, []⟩, none⟩]
  interfaces := []
  unions := []
  reachable := []

namespace loopModule

/-- The context passes, under whatever id. -/
theorem checkRounds_loop (id : ModuleId) (behind : Bool) :
  checkRounds (.ofModule 0 id loopContext []) (Scope.unique loopContext loopContext.duplicateIds)
    behind = (some (loopModule id), [])
  := by
  cbv

theorem exists_accepted :
  ∃ id, Accepted (loopModule id)
  := by
  obtain ⟨id, h⟩ : ∃ id, validate 0 loopContext ⟨"example", "loop"⟩ [] {}
      = .success (loopModule id) [] :=
    ⟨_, validate_of_checkRounds (by cbv) (checkRounds_loop _)⟩
  exact ⟨id, .alone h⟩

variable {id : ModuleId} (hnative : id.isNative = false)
include hnative

theorem wrapper?_structTy {name : String} {struct : Struct} {member : Argument}
    (hstruct : (loopModule id).struct? ⟨[name]⟩ = some struct)
    (hmember : struct.members = [member]) :
  Program.wrapper? { module := loopModule id } (id.structTy name)
    = some (struct, member.type.substitute (.ofParams struct.typeParams []))
  := by
  have hentity : (⟨id, ⟨[name]⟩⟩ : Entity) ≠ Native.string.entity := by
    intro e
    obtain rfl : id = Native.string.entity.module := congrArg Entity.module e
    exact absurd hnative (by decide)
  have hself : (loopModule id).find? id = some (loopModule id) := (loopModule id).find?_self
  rw [ModuleId.structTy, Program.wrapper?, if_neg hentity, Program.struct?]
  simp [hnative, hself, hstruct, hmember]

theorem endless_loop :
  Program.Endless { module := loopModule id } (id.structTy "Loop")
  := by
  have hwrapper := @wrapper?_structTy id hnative "Loop" _ _ rfl rfl
  intro last hlast
  have hloop : last = id.structTy "Loop" := by
    induction hlast with
    | refl => rfl
    | tail _ hstep ih =>
      subst ih
      exact hstep.unique ⟨_, hwrapper⟩
  exact hloop ▸ ⟨_, _, hwrapper⟩

end loopModule

/-- Literals of `Count` are decoded, those of `Loop` never are. -/
theorem literal_finishes_count :
  ∃ (program : Program) (count loop : Ty), Accepted program.module
    ∧ program.Harmless count "5"
    ∧ (∀ store, Finishes (fun fuel => program.decode fuel count "5") store)
    ∧ program.Endless loop
    ∧ (∀ store, Diverges (fun fuel => program.decode fuel loop "1") store)
    ∧ ∃ text, ∀ store, Diverges (fun fuel => program.decode fuel (.list loop) text) store
  := by
  obtain ⟨id, haccepted⟩ := loopModule.exists_accepted
  have hnative : id.isNative = false := haccepted.not_native
  have hcount : Program.Harmless { module := loopModule id } (id.structTy "Count") "5" :=
    (Program.harmless_natural "5").struct
      (@loopModule.wrapper?_structTy id hnative "Count" _ _ rfl rfl) rfl
  have hendless := loopModule.endless_loop hnative
  have hitems : ListText.parse "[1]" = .ok ["1"] := rfl
  exact ⟨{ module := loopModule id }, id.structTy "Count", id.structTy "Loop", haccepted, hcount,
    (literal_finishes _ _).1 "5" hcount.ends hcount.requires, hendless,
    (literal_finishes _ _).2.1 hendless "1", (literal_finishes _ _).2.2
      ⟨"[1]", _, "1", .item hitems List.mem_cons_self (.refl _ _), hendless⟩⟩

/-- The test case of `one` is accepted, although its literal is decoded for ever. -/
theorem unfinished_loop :
  ∃ module, Accepted module
    ∧ ∀ fuel, Program.runTests { module := module } fuel = [⟨⟨["one"]⟩, 0, .unfinished⟩]
  := by
  obtain ⟨id, haccepted⟩ := loopModule.exists_accepted
  refine ⟨loopModule id, haccepted, fun fuel => ?_⟩
  have hfunctions : (loopModule id).testFunctions = [loopModule.one id] := by
    rw [Module.testFunctions]
    exact List.mergeSort_singleton _
  have hcases : (loopModule id).cases = [⟨loopModule.one id, 0, ["1"], "1"⟩] := by
    rw [Module.cases, hfunctions]
    rfl
  have hendless := @loopModule.endless_loop id haccepted.not_native
  have hargs : ∀ literal : Ty × String → Eval Value,
      literal (id.structTy "Loop", "1")
        = Program.decode { module := loopModule id } fuel (id.structTy "Loop") "1" →
      (Program.isolated ([(id.structTy "Loop", "1")].mapM literal)).1 = .error .outOfFuel := by
    intro literal hliteral
    rw [List.mapM_cons, hliteral]
    exact (hendless.diverges "1" {}).bind (fun _ value => do
      return value :: (← [].mapM literal)) fuel
  simp only [Program.runTests, hcases, List.map_cons, List.map_nil, Program.runCase,
    loopModule.one, List.zip_cons_cons, List.zip_nil_right]
  rw [hargs _ rfl]
  rfl

end TypedModules
