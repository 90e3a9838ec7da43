import TypedModules.Literal.ListText
import TypedModules.Proofs.Literal.Text
import TypedModules.Value.Basic

/-!
# Literals as they are written

A value of a type with literals is written as one of them: numbers in decimal digits, a list
between brackets with each item between quotes, where a backslash stands before what would end
the item, and a struct with one member as that member.  An item that is a list may also stand
without quotes.  A list literal is split back into the texts of its items, whatever is in these.

The main statements are `ListText.parse_bracketed`, `parseNatural?_repr` and `parseInteger?_repr`.
-/

namespace TypedModules

/-! ### Trimmed text -/

namespace Text

theorem skipBlanks_cons {c : Char} (h : isBlank c = false) (cs : List Char) :
  skipBlanks (c :: cs) = c :: cs
  := List.dropWhile_cons_of_neg (by simp [h])

/-- What neither starts nor ends with a blank is not trimmed. -/
theorem trim_of_ends {first last : Char} (hfirst : isBlank first = false)
    (hlast : isBlank last = false) (middle : List Char) :
  trim (first :: (middle ++ [last])) = first :: (middle ++ [last])
  := by
  have hreverse : (first :: (middle ++ [last])).reverse
      = last :: (middle.reverse ++ [first]) := by simp
  rw [trim, skipBlanks_cons hfirst, trimEnd, hreverse, skipBlanks_cons hlast, ← hreverse,
    List.reverse_reverse]

end Text

namespace ListText

/-! ### Quoted items -/

/-- A text with a backslash before each character that would end the item or escape another. -/
def escape (text : List Char) : List Char :=
  text.flatMap fun c => if c = '\\' ∨ c = '"' then ['\\', c] else [c]

/-- A text as an item between quotes. -/
def inQuotes (text : List Char) : List Char :=
  '"' :: (escape text ++ ['"'])

theorem escape_cons (c : Char) (text : List Char) :
  escape (c :: text) = (if c = '\\' ∨ c = '"' then ['\\', c] else [c]) ++ escape text
  := List.flatMap_cons

/-- What is between quotes is read back, up to the quote that closes it. -/
theorem quoted_escape (text after : List Char) :
  quoted '"' (escape text ++ '"' :: after) = .ok (text, after)
  := by
  induction text with
  | nil => simp [escape, quoted]
  | cons c text ih =>
    rw [escape_cons, List.append_assoc]
    split
    next hspecial =>
      show quoted '"' ('\\' :: c :: (escape text ++ '"' :: after)) = _
      rw [quoted, ih]
      rfl
    next hplain =>
      rw [not_or] at hplain
      show quoted '"' (c :: (escape text ++ '"' :: after)) = _
      rw [quoted.eq_4 _ _ _ (fun e _ => hplain.1 e) (fun _ _ e _ => hplain.1 e),
        if_neg hplain.2, ih]
      rfl

theorem item_inQuotes (text after : List Char) :
  item (inQuotes text ++ after) = .ok (text, after)
  := by
  rw [inQuotes, List.cons_append, List.append_assoc]
  exact quoted_escape text after

/-! ### Nested lists -/

/-- What a scan finds, with a text before it over which the scan has passed. -/
def passed (text : List Char) (found : Except Fault (List Char × List Char)) :
    Except Fault (List Char × List Char) :=
  found.map fun (rest, after) => (text ++ rest, after)

@[simp]
theorem passed_nil (found : Except Fault (List Char × List Char)) :
  passed [] found = found
  := by
  cases found <;> rfl

@[simp]
theorem passed_passed (first second : List Char) (found : Except Fault (List Char × List Char)) :
  passed first (passed second found) = passed (first ++ second) found
  := by
  cases found <;> simp [passed, Except.map]

theorem exists_of_map_eq_ok {α β ε : Type} {f : α → β} {found : Except ε α} {b : β}
    (h : found.map f = .ok b) :
  ∃ a, found = .ok a ∧ f a = b
  := by
  cases found with
  | error => cases h
  | ok a => exact ⟨a, rfl, Except.ok.inj h⟩

/-- What is found by a scan that has passed over a text starts with it. -/
theorem exists_of_passed {first text after : List Char}
    {found : Except Fault (List Char × List Char)} (h : passed first found = .ok (text, after)) :
  ∃ rest, found = .ok (rest, after) ∧ text = first ++ rest
  := by
  obtain ⟨⟨rest, _⟩, hfound, e⟩ := exists_of_map_eq_ok h
  cases e
  exact ⟨rest, hfound, rfl⟩

/-- Whether a scan for the closing bracket passes over a text, at whatever depth inside a list. -/
def Balanced (text : List Char) : Prop :=
  ∀ depth after, 1 ≤ depth →
    nested depth none (text ++ after) = passed text (nested depth none after)

theorem balanced_nil :
  Balanced []
  := fun _ _ _ => (passed_nil _).symm

theorem Balanced.append {first second : List Char} (hfirst : Balanced first)
    (hsecond : Balanced second) :
  Balanced (first ++ second)
  := by
  intro depth after hdepth
  rw [List.append_assoc, hfirst _ _ hdepth, hsecond _ _ hdepth, passed_passed]

/-- A character that is neither a quote nor a bracket is passed over. -/
theorem balanced_char {c : Char} (hquote : c ≠ '"' ∧ c ≠ '\'') (hbracket : c ≠ '[' ∧ c ≠ ']') :
  Balanced [c]
  := by
  intro depth after _
  rw [List.singleton_append, nested.eq_def]
  simp only [hquote.1, hquote.2, hbracket.1, hbracket.2, decide_false, Bool.or_self,
    Bool.false_eq_true, if_false]
  rfl

theorem nested_quote (depth : Nat) (after : List Char) :
  nested depth none ('"' :: after) = passed ['"'] (nested depth (some '"') after)
  := by
  rw [nested.eq_def]
  rfl

theorem nested_unquote (depth : Nat) (after : List Char) :
  nested depth (some '"') ('"' :: after) = passed ['"'] (nested depth none after)
  := by
  rw [nested.eq_def]
  rfl

/-- Between quotes, the scan passes over an escaped text. -/
theorem nested_escape (text after : List Char) (depth : Nat) :
  nested depth (some '"') (escape text ++ after)
    = passed (escape text) (nested depth (some '"') after)
  := by
  induction text with
  | nil => exact (passed_nil _).symm
  | cons c text ih =>
    rw [escape_cons, ← passed_passed, ← ih]
    split
    next hspecial =>
      show nested depth (some '"') ('\\' :: c :: (escape text ++ after)) = _
      rw [nested.eq_def]
      rfl
    next hplain =>
      rw [not_or] at hplain
      show nested depth (some '"') (c :: (escape text ++ after)) = _
      rw [nested.eq_def]
      simp only [if_neg hplain.1, if_neg hplain.2]
      rfl

theorem balanced_inQuotes (text : List Char) :
  Balanced (inQuotes text)
  := by
  intro depth after _
  rw [inQuotes, List.cons_append, List.append_assoc, nested_quote, nested_escape,
    List.singleton_append, nested_unquote, passed_passed, passed_passed]
  rfl

/-- A text between brackets. -/
def bracketed (text : List Char) : List Char :=
  '[' :: (text ++ [']'])

theorem nested_opening (depth : Nat) (after : List Char) :
  nested depth none ('[' :: after) = passed ['['] (nested (depth + 1) none after)
  := by
  rw [nested.eq_def]
  rfl

theorem nested_closing (depth : Nat) (after : List Char) :
  nested depth none (']' :: after)
    = if depth ≤ 1 then .ok ([']'], after) else passed [']'] (nested (depth - 1) none after)
  := by
  rw [nested.eq_def]
  rfl

theorem Balanced.bracketed {text : List Char} (h : Balanced text) :
  Balanced (bracketed text)
  := by
  intro depth after hdepth
  rw [ListText.bracketed, List.cons_append, List.append_assoc, nested_opening,
    h _ _ (by omega), List.singleton_append, nested_closing, if_neg (by omega),
    Nat.add_sub_cancel, passed_passed, passed_passed]
  rfl

/-- A list between brackets is an item as it stands. -/
theorem item_bracketed {text : List Char} (h : Balanced text) (after : List Char) :
  item (bracketed text ++ after) = .ok (bracketed text, after)
  := by
  show nested 0 none ('[' :: ((text ++ [']']) ++ after)) = _
  rw [nested_opening, List.append_assoc, h _ _ (Nat.le_refl _), List.singleton_append,
    nested_closing, if_pos (Nat.le_refl _)]
  rfl

/-! ### Items between commas -/

/-- Whether what is written is one item, with a text. -/
structure Writes (written text : List Char) : Prop where
  visible : ∃ first rest, written = first :: rest ∧ Text.isBlank first = false
  item : ∀ after, item (written ++ after) = .ok (text, after)
  balanced : Balanced written

theorem writes_inQuotes (text : List Char) :
  Writes (inQuotes text) text
  := ⟨⟨_, _, rfl, by decide⟩, item_inQuotes text, balanced_inQuotes text⟩

theorem writes_bracketed {text : List Char} (h : Balanced text) :
  Writes (bracketed text) (bracketed text)
  := ⟨⟨_, _, rfl, by decide⟩, item_bracketed h, h.bracketed⟩

/-- Texts with a comma and a space between them. -/
def joined (texts : List (List Char)) : List Char :=
  [',', ' '].intercalate texts

theorem joined_cons_cons (first second : List Char) (rest : List (List Char)) :
  joined (first :: second :: rest) = first ++ ',' :: ' ' :: joined (second :: rest)
  := by
  simp [joined, List.intercalate_cons_cons]

theorem joined_singleton (text : List Char) :
  joined [text] = text
  := by
  simp [joined]

/-- Items between commas are passed over. -/
theorem balanced_joined {written texts : List (List Char)}
    (h : List.Forall₂ Writes written texts) :
  Balanced (joined written)
  := by
  have hcomma : Balanced [',', ' '] :=
    (@balanced_char ',' (by decide) (by decide)).append
      (@balanced_char ' ' (by decide) (by decide))
  induction h with
  | nil => exact balanced_nil
  | @cons first _ rest _ hfirst hrest ih =>
    cases hrest with
    | nil =>
      rw [joined_singleton]
      exact hfirst.balanced
    | cons =>
      rw [joined_cons_cons]
      exact hfirst.balanced.append (hcomma.append ih)

theorem Writes.skipBlanks {written text : List Char} (h : Writes written text)
    (after : List Char) :
  Text.skipBlanks (written ++ after) = written ++ after
  := by
  obtain ⟨first, rest, rfl, hfirst⟩ := h.visible
  exact Text.skipBlanks_cons hfirst _

/-- The texts of items between commas are read back, after blanks. -/
theorem items_joined {written texts : List (List Char)} (h : List.Forall₂ Writes written texts)
    (hne : written ≠ []) {fuel : Nat} (hfuel : written.length ≤ fuel) (cs : List Char)
    (hcs : Text.skipBlanks cs = joined written) :
  items fuel cs = .ok texts
  := by
  induction h generalizing fuel cs with
  | nil => exact absurd rfl hne
  | @cons first text rest texts hfirst hrest ih =>
    obtain ⟨fuel, rfl⟩ : ∃ n, fuel = n + 1 := ⟨fuel - 1, by simp at hfuel; omega⟩
    rw [items, hcs]
    cases hrest with
    | nil =>
      have hitem := hfirst.item []
      rw [List.append_nil] at hitem
      rw [joined_singleton, hitem]
      rfl
    | @cons second _ rest _ hsecond hrest =>
      have hspace : Text.skipBlanks (' ' :: joined (second :: rest)) = joined (second :: rest) := by
        have hblank : Text.isBlank ' ' = true := by decide
        rw [Text.skipBlanks, List.dropWhile_cons_of_pos hblank]
        cases rest with
        | nil =>
          have hskip := hsecond.skipBlanks []
          rwa [List.append_nil, ← joined_singleton second] at hskip
        | cons =>
          rw [joined_cons_cons]
          exact hsecond.skipBlanks _
      have ih := @ih (by simp) fuel (by simpa using hfuel) _ hspace
      rw [joined_cons_cons, hfirst.item]
      dsimp only
      rw [Text.skipBlanks_cons (by decide)]
      simp only [if_true, ih]
      rfl

theorem length_le_length_joined {written texts : List (List Char)}
    (h : List.Forall₂ Writes written texts) :
  written.length ≤ (joined written).length
  := by
  induction h with
  | nil => simp
  | @cons first _ rest _ hfirst hrest ih =>
    obtain ⟨c, cs, rfl, -⟩ := hfirst.visible
    cases hrest with
    | nil => simp [joined_singleton]
    | cons =>
      rw [joined_cons_cons]
      simp at ih ⊢
      omega

/-- A list literal is split into the texts of its items. -/
theorem parse_bracketed {written texts : List (List Char)} (h : List.Forall₂ Writes written texts) :
  parse (String.ofList (bracketed (joined written))) = .ok (texts.map String.ofList)
  := by
  have hinside : inside (bracketed (joined written)) = .ok (joined written) := by
    rw [inside, bracketed, Text.trim_of_ends (by decide) (by decide)]
    simp
  rw [parse, String.toList_ofList, hinside]
  dsimp only
  have hlength := length_le_length_joined h
  cases h with
  | nil => rfl
  | @cons first text rest texts hfirst hrest =>
    have hskip : Text.skipBlanks (joined (first :: rest)) = joined (first :: rest) := by
      cases rest with
      | nil =>
        have hskip := hfirst.skipBlanks []
        rwa [List.append_nil, ← joined_singleton first] at hskip
      | cons =>
        rw [joined_cons_cons]
        exact hfirst.skipBlanks _
    have hne : (joined (first :: rest)).isEmpty = false := by
      rw [List.isEmpty_eq_false_iff, ← List.length_pos_iff]
      simp at hlength
      omega
    rw [hskip, hne, items_joined (.cons hfirst hrest) (by simp) (by omega) _ hskip]
    rfl

end ListText

/-! ### Successes -/

/-- What is between the parentheses of a success is found again. -/
theorem insideSuccess?_eq (text : List Char) :
  insideSuccess? ("success(".toList ++ (text ++ [')'])) = some text
  := by
  rw [insideSuccess?, if_pos (List.isPrefixOf_iff_prefix.mpr (List.prefix_append _ _)),
    List.drop_left, if_pos (List.getLast?_concat), List.dropLast_concat]

/-- A success is decoded as what stands between its parentheses. -/
theorem decodeTry_ofList (ask : Request → Eval Value) (inner : Ty) (text : List Char) :
  decodeTry ask inner (String.ofList ("success(".toList ++ (text ++ [')'])))
    = return .success (← ask (.literal inner (String.ofList text)))
  := by
  have htrim : Text.trim ("success(".toList ++ (text ++ [')']))
      = "success(".toList ++ (text ++ [')']) := by
    have hends := @Text.trim_of_ends 's' ')' (by decide) (by decide)
      (['u', 'c', 'c', 'e', 's', 's', '('] ++ text)
    rw [List.append_assoc] at hends
    exact hends
  have hother : "success(".toList ++ (text ++ [')']) ≠ "failure".toList := by
    intro e
    have hhead : some 's' = some 'f' := congrArg List.head? e
    exact absurd hhead (by decide)
  rw [decodeTry, String.toList_ofList, htrim, if_neg hother, insideSuccess?_eq]

/-! ### Numbers -/

theorem head_toDigits {n : Nat} (h : 0 < n) :
  ∃ first rest, Nat.toDigits 10 n = first :: rest ∧ first ≠ '0'
  := by
  induction n using Nat.strongRecOn with
  | ind n ih =>
    by_cases hsmall : n < 10
    · refine ⟨_, _, Nat.toDigits_of_lt_base hsmall, fun e => ?_⟩
      have hchar := Nat.toNat_digitChar_of_lt_ten hsmall
      rw [e, show '0'.toNat = 48 from rfl] at hchar
      omega
    · obtain ⟨first, rest, hdigits, hfirst⟩ := ih (n / 10) (by omega) (by omega)
      refine ⟨first, rest ++ [(n % 10).digitChar], ?_, hfirst⟩
      rw [Nat.toDigits_of_base_le (by omega) (by omega), hdigits, List.cons_append]

theorem isDecimal_toDigits (n : Nat) :
  isDecimal (Nat.toDigits 10 n) = true
  := by
  obtain rfl | h := Nat.eq_zero_or_pos n
  · decide
  · obtain ⟨first, rest, hdigits, hfirst⟩ := head_toDigits h
    have hall : ∀ c ∈ first :: rest, c.isDigit = true := by
      rw [← hdigits]
      exact fun c => Nat.isDigit_of_mem_toDigits (by omega) (by omega)
    rw [List.forall_mem_cons] at hall
    rw [hdigits, isDecimal.eq_3 _ _ fun e _ => hfirst e]
    simpa [hfirst, hall.1] using hall.2

theorem ofDigits_toDigits (n : Nat) :
  ofDigits (Nat.toDigits 10 n) = n
  := Nat.ofDigitChars_toDigits (by omega) (by omega)

theorem isDecimal_repr (n : Nat) :
  isDecimal (toString n).toList = true
  := by
  rw [Nat.toString_eq_repr, Nat.toList_repr]
  exact isDecimal_toDigits n

/-- The number that the digits of a natural number write is that number. -/
theorem parseNatural?_repr (n : Nat) :
  parseNatural? (toString n).toList = some n
  := by
  rw [parseNatural?, if_pos (isDecimal_repr n), Nat.toString_eq_repr, Nat.toList_repr,
    ofDigits_toDigits]

/-- The number that the digits of an integer write, with its sign, is that number. -/
theorem parseInteger?_repr (n : Int) :
  parseInteger? (toString n).toList = some n
  := by
  cases n with
  | ofNat n =>
    have hsign : ∀ rest, Nat.toDigits 10 n = '-' :: rest → False := by
      intro rest h
      have hdigit : '-'.isDigit = true :=
        isDigit_of_isDecimal (isDecimal_toDigits n) _ (h ▸ List.mem_cons_self)
      exact absurd hdigit (by decide)
    show parseInteger? n.repr.toList = _
    rw [Nat.toList_repr, parseInteger?, isSignedDecimal.eq_2 _ hsign,
      if_pos (isDecimal_toDigits n), ofDigits_toDigits]
    · rfl
    · exact hsign
  | negSucc n =>
    obtain ⟨first, rest, hdigits, hfirst⟩ := head_toDigits (Nat.succ_pos n)
    have hzero : (Nat.toDigits 10 (n + 1) != ['0']) = true := by
      rw [hdigits]
      simp [hfirst]
    show parseInteger? ("-" ++ (n + 1).repr).toList = _
    rw [String.toList_append, Nat.toList_repr]
    have hminus : "-".toList = ['-'] := rfl
    rw [hminus, List.singleton_append, parseInteger?, isSignedDecimal, isDecimal_toDigits, hzero]
    simp only [Bool.and_self, if_true, ofDigits_toDigits]
    rfl

theorem isSignedDecimal_repr (n : Int) :
  isSignedDecimal (toString n).toList = true
  := by
  have hparse := parseInteger?_repr n
  unfold parseInteger? at hparse
  split at hparse
  next h => exact h
  next => cases hparse

end TypedModules
