import Mathlib.Data.List.TakeWhile
import TypedModules.Proofs.Literal.Written

/-!
# The grammar of list literals

A list literal stands between brackets, and is made of items with a comma between any two and
blanks around each.  An item is a list in which brackets match, a text between quotes, or bare
text; and there may be no item where one should be.  A literal is split into items in one way
(`Splits.unique`), and the scanner finds them unless the last of them is missing: `parse_eq_ok`.
-/

namespace TypedModules

/-! ### Blanks around a text -/

namespace Text

/-- Whether a text is made of blanks. -/
def Blank (cs : List Char) : Prop :=
  ∀ c ∈ cs, isBlank c = true

theorem Blank.append {first second : List Char} (hfirst : Blank first) (hsecond : Blank second) :
  Blank (first ++ second)
  := by
  intro c hc
  rcases List.mem_append.mp hc with hc | hc
  · apply hfirst c hc
  · apply hsecond c hc

theorem skipBlanks_append {blanks : List Char} (h : Blank blanks) (cs : List Char) :
  skipBlanks (blanks ++ cs) = skipBlanks cs
  := List.dropWhile_append_of_pos h

theorem skipBlanks_eq_nil {cs : List Char} :
  skipBlanks cs = [] ↔ Blank cs
  := List.dropWhile_eq_nil_iff

theorem skipBlanks_append_of_not_blank {cs : List Char} (h : ¬Blank cs) (after : List Char) :
  skipBlanks (cs ++ after) = skipBlanks cs ++ after
  := by
  rw [← skipBlanks_eq_nil] at h
  rw [skipBlanks, List.dropWhile_append, if_neg]
  · rfl
  · rwa [List.isEmpty_iff]

/-- What follows the blanks at the start of a text starts with none. -/
theorem not_blank_of_skipBlanks {cs rest : List Char} {c : Char} (h : skipBlanks cs = c :: rest) :
  isBlank c = false
  := by
  have hhead := List.head?_dropWhile_not isBlank cs
  rw [show cs.dropWhile isBlank = c :: rest from h] at hhead
  exact hhead

theorem exists_skipBlanks (cs : List Char) :
  ∃ blanks, Blank blanks ∧ cs = blanks ++ skipBlanks cs
  := by
  use cs.takeWhile isBlank
  constructor
  · intro c hc
    apply List.mem_takeWhile_imp hc
  · symm
    apply List.takeWhile_append_dropWhile

theorem trimEnd_append {blanks : List Char} (h : Blank blanks) (cs : List Char) :
  trimEnd (cs ++ blanks) = trimEnd cs
  := by
  have hreverse : Blank blanks.reverse := fun c hc => h c (List.mem_reverse.mp hc)
  rw [trimEnd, List.reverse_append, skipBlanks_append hreverse]
  rfl

theorem exists_trimEnd (cs : List Char) :
  ∃ blanks, Blank blanks ∧ cs = trimEnd cs ++ blanks
  := by
  obtain ⟨blanks, hblanks, h⟩ := exists_skipBlanks cs.reverse
  use blanks.reverse
  constructor
  · intro c hc
    apply hblanks c (List.mem_reverse.mp hc)
  · rw [trimEnd, ← List.reverse_append, ← h, List.reverse_reverse]

theorem trimEnd_trimEnd (cs : List Char) :
  trimEnd (trimEnd cs) = trimEnd cs
  := by
  obtain ⟨blanks, hblanks, h⟩ := exists_trimEnd cs
  conv_rhs => rw [h, trimEnd_append hblanks]

theorem exists_trim (cs : List Char) :
  ∃ before after, Blank before ∧ Blank after ∧ cs = before ++ (trim cs ++ after)
  := by
  obtain ⟨before, hbefore, h⟩ := exists_skipBlanks cs
  obtain ⟨after, hafter, h'⟩ := exists_trimEnd (skipBlanks cs)
  exact ⟨before, after, hbefore, hafter, h.trans (congrArg (before ++ ·) h')⟩

/-- Blanks around a text do not count. -/
theorem trim_padded {before after : List Char} (hbefore : Blank before) (hafter : Blank after)
    (cs : List Char) :
  trim (before ++ (cs ++ after)) = trim cs
  := by
  rw [trim, skipBlanks_append hbefore]
  by_cases h : Blank cs
  · rw [skipBlanks_append h, skipBlanks_eq_nil.mpr hafter, trim, skipBlanks_eq_nil.mpr h]
  · rw [skipBlanks_append_of_not_blank h, trimEnd_append hafter]
    rfl

end Text

namespace ListText

open Text

/-! ### Items -/

/-- The quotes between which a text may stand. -/
def IsQuote (c : Char) : Prop :=
  c = '"' ∨ c = '\''

/-- What stands between quotes, and the text that it means.  A backslash stands before a character
that means itself; any other character means itself unless it is the quote. -/
inductive Escaped (quote : Char) : List Char → List Char → Prop
  | nil : Escaped quote [] []
  | plain {c : Char} {written text : List Char} :
    c ≠ quote → c ≠ '\\' →
    Escaped quote written text →
    Escaped quote (c :: written) (c :: text)
  | escape {c : Char} {written text : List Char} :
    Escaped quote written text →
    Escaped quote ('\\' :: c :: written) (c :: text)

/-- Whether each bracket of a text has its partner in it.  Brackets between quotes do not count,
and each quote has its partner as well. -/
inductive Matched : List Char → Prop
  | nil : Matched []
  | plain {c : Char} {rest : List Char} :
    ¬IsQuote c → c ≠ '[' → c ≠ ']' →
    Matched rest →
    Matched (c :: rest)
  | quoted {quote : Char} {written text rest : List Char} :
    IsQuote quote →
    Escaped quote written text →
    Matched rest →
    Matched (quote :: (written ++ quote :: rest))
  | nested {inner rest : List Char} :
    Matched inner →
    Matched rest →
    Matched ('[' :: (inner ++ ']' :: rest))

/-- An item of a list literal: as it is written, and the text that it means. -/
@[ext]
structure Item where
  written : List Char
  text : List Char
deriving DecidableEq

namespace Item

/-- Nothing, where an item should be. -/
def missing : Item :=
  ⟨[], []⟩

/-- Which items there are.  A list is kept as it is written, quotes and backslashes are dropped, and
bare text has no comma and neither starts with a bracket or a quote nor starts or ends with a
blank. -/
inductive Formed : Item → Prop
  | missing : Formed missing
  | nested {inner : List Char} :
    Matched inner →
    Formed ⟨bracketed inner, bracketed inner⟩
  | quoted {quote : Char} {written text : List Char} :
    IsQuote quote →
    Escaped quote written text →
    Formed ⟨quote :: (written ++ [quote]), text⟩
  | bare {first : Char} {rest : List Char} :
    first ≠ '[' → ¬IsQuote first →
    ',' ∉ first :: rest →
    trim (first :: rest) = first :: rest →
    Formed ⟨first :: rest, first :: rest⟩

end Item

/-- Whether what is written is an item with blanks around it. -/
def Padded (written item : List Char) : Prop :=
  ∃ before after, Blank before ∧ Blank after ∧ written = before ++ (item ++ after)

/-- Whether items are written with a comma between any two.  Each of them may be missing. -/
inductive Listed : List Char → List Item → Prop
  | last {written : List Char} {item : Item} :
    item.Formed →
    Padded written item.written →
    Listed written [item]
  | cons {written rest : List Char} {item : Item} {items : List Item} :
    item.Formed →
    Padded written item.written →
    Listed rest items →
    Listed (written ++ ',' :: rest) (item :: items)

/-- Whether a list literal is made of items, of none if there are blanks only between its
brackets. -/
def Splits (literal : List Char) (items : List Item) : Prop :=
  ∃ inner, trim literal = bracketed inner
    ∧ (Blank inner ∧ items = [] ∨ ¬Blank inner ∧ Listed inner items)

/-! ### Scanning quotes -/

theorem IsQuote.ne_backslash {quote : Char} (h : IsQuote quote) :
  quote ≠ '\\'
  := by
  rcases h with rfl | rfl <;> decide

theorem IsQuote.not_blank {quote : Char} (h : IsQuote quote) :
  isBlank quote = false
  := by
  rcases h with rfl | rfl <;> decide

theorem quoted_plain {quote c : Char} (hquote : c ≠ quote) (hescape : c ≠ '\\')
    (rest : List Char) :
  quoted quote (c :: rest) = passed [c] (quoted quote rest)
  := by
  rw [quoted.eq_4 _ _ _ (fun e _ => hescape e) (fun _ _ e _ => hescape e), if_neg hquote]
  rfl

theorem quoted_quote {quote : Char} (h : quote ≠ '\\') (rest : List Char) :
  quoted quote (quote :: rest) = .ok ([], rest)
  := by
  rw [quoted.eq_4 _ _ _ (fun e _ => h e) (fun _ _ e _ => h e), if_pos rfl]

/-- What is between quotes is read up to the quote that closes it. -/
theorem Escaped.quoted {quote : Char} {written text : List Char} (h : Escaped quote written text)
    (hquote : quote ≠ '\\') (after : List Char) :
  quoted quote (written ++ quote :: after) = .ok (text, after)
  := by
  induction h with
  | nil => apply quoted_quote hquote
  | plain hne hescape _ ih => rw [List.cons_append, quoted_plain hne hescape, ih]; rfl
  | escape _ ih =>
    rw [List.cons_append, List.cons_append, ListText.quoted, ih]
    rfl

/-- What a scan finds between quotes is written there. -/
theorem escaped_of_quoted {quote : Char} {cs text after : List Char}
    (h : quoted quote cs = .ok (text, after)) :
  ∃ written, Escaped quote written text ∧ cs = written ++ quote :: after
  := by
  fun_induction ListText.quoted quote cs generalizing text after with
  | case1 | case2 => cases h
  | case3 c rest ih =>
    obtain ⟨inner, hfound, rfl⟩ := @exists_of_passed [c] _ _ _ h
    obtain ⟨written, hwritten, rfl⟩ := ih hfound
    exact ⟨'\\' :: c :: written, .escape hwritten, rfl⟩
  | case4 rest =>
    cases h
    exact ⟨[], .nil, rfl⟩
  | case5 c rest hlone hescape hne ih =>
    obtain ⟨inner, hfound, rfl⟩ := @exists_of_passed [c] _ _ _ h
    obtain ⟨written, hwritten, rfl⟩ := ih hfound
    refine ⟨c :: written, .plain hne ?_ hwritten, rfl⟩
    rintro rfl
    cases written with
    | nil => exact hescape quote after rfl rfl
    | cons d written => exact hescape d (written ++ quote :: after) rfl rfl

/-! ### Scanning brackets -/

theorem nested_plain {c : Char} (hquote : ¬IsQuote c) (hopening : c ≠ '[') (hclosing : c ≠ ']')
    (depth : Nat) (rest : List Char) :
  nested depth none (c :: rest) = passed [c] (nested depth none rest)
  := by
  rw [IsQuote, not_or] at hquote
  rw [nested.eq_def]
  simp only [hquote.1, hquote.2, hopening, hclosing, decide_false, Bool.or_self,
    Bool.false_eq_true, if_false]
  rfl

theorem nested_open {quote : Char} (h : IsQuote quote) (depth : Nat) (rest : List Char) :
  nested depth none (quote :: rest) = passed [quote] (nested depth (some quote) rest)
  := by
  rcases h with rfl | rfl <;> rw [nested.eq_def] <;> rfl

/-- Between quotes, a scan for the closing bracket passes over what is meant. -/
theorem Escaped.nested {quote : Char} {written text : List Char} (h : Escaped quote written text)
    (hquote : quote ≠ '\\') (depth : Nat) (after : List Char) :
  nested depth (some quote) (written ++ quote :: after)
    = passed (written ++ [quote]) (nested depth none after)
  := by
  induction h with
  | nil =>
    rw [List.nil_append, ListText.nested.eq_def]
    simp only [if_neg hquote, if_true]
    rfl
  | @plain c written text hne hescape _ ih =>
    rw [List.cons_append, ListText.nested.eq_def]
    simp only [if_neg hescape, if_neg hne]
    rw [ih]
    apply passed_passed [c]
  | @escape c written text _ ih =>
    rw [List.cons_append, List.cons_append, ListText.nested.eq_def]
    simp only [if_true]
    rw [ih]
    apply passed_passed ['\\', c]

/-- A text in which brackets match is passed over inside a list. -/
theorem Matched.balanced {text : List Char} (h : Matched text) :
  Balanced text
  := by
  induction h with
  | nil => apply balanced_nil
  | @plain c rest hquote hopening hclosing _ ih =>
    intro depth after hdepth
    rw [List.cons_append, nested_plain hquote hopening hclosing, ih depth after hdepth]
    apply passed_passed [c]
  | @quoted quote written text rest hquote hwritten _ ih =>
    intro depth after hdepth
    rw [List.cons_append, List.append_assoc, List.cons_append, nested_open hquote,
      hwritten.nested hquote.ne_backslash, ih depth after hdepth, passed_passed, passed_passed]
    simp
  | @nested inner rest _ _ ih ih' =>
    have happend : '[' :: (inner ++ ']' :: rest) = bracketed inner ++ rest := by
      simp [bracketed]
    rw [happend]
    apply ih.bracketed.append ih'

/-- Whether a text closes so many brackets around it, the last of them at its end. -/
inductive Closes : Nat → List Char → Prop
  | one {inner : List Char} :
    Matched inner →
    Closes 1 (inner ++ [']'])
  | more {depth : Nat} {inner rest : List Char} :
    Matched inner →
    Closes depth rest →
    Closes (depth + 1) (inner ++ ']' :: rest)

/-- What brackets match with may stand before what closes the brackets around it. -/
theorem Closes.prepend {depth : Nat} {text first : List Char} (h : Closes depth text)
    (hfirst : ∀ inner, Matched inner → Matched (first ++ inner)) :
  Closes depth (first ++ text)
  := by
  cases h with
  | one hinner =>
    rw [← List.append_assoc]
    apply Closes.one (hfirst _ hinner)
  | more hinner hrest =>
    rw [← List.append_assoc]
    apply Closes.more (hfirst _ hinner) hrest

theorem Closes.opening {depth : Nat} {text : List Char} (h : Closes (depth + 1) text)
    (hdepth : 1 ≤ depth) :
  Closes depth ('[' :: text)
  := by
  cases h with
  | one => omega
  | @more _ inner rest hinner hrest =>
    have happend : '[' :: (inner ++ ']' :: rest) = bracketed inner ++ rest := by
      simp [bracketed]
    rw [happend]
    apply hrest.prepend
    intro other hother
    have hboth : bracketed inner ++ other = '[' :: (inner ++ ']' :: other) := by
      simp [bracketed]
    rw [hboth]
    apply Matched.nested hinner hother

/-- Whether a text closes so many brackets around it, after the quote inside which it starts. -/
def ClosesFrom (depth : Nat) : Option Char → List Char → Prop
  | none, text => Closes depth text
  | some quote, text => ∃ written inner rest, Escaped quote written inner
    ∧ text = written ++ quote :: rest ∧ Closes depth rest

/-- What a scan for closing brackets finds is written there and closes them. -/
theorem closes_of_nested {depth : Nat} {open? : Option Char} {cs text after : List Char}
    (h : nested depth open? cs = .ok (text, after)) (hdepth : 1 ≤ depth) :
  cs = text ++ after ∧ ClosesFrom depth open? text
  := by
  fun_induction ListText.nested depth open? cs generalizing text after with
  | case1 | case2 => cases h
  | case3 depth quote c rest _ ih =>
    obtain ⟨found, hfound, rfl⟩ := @exists_of_passed ['\\', c] _ _ _ h
    obtain ⟨rfl, written, inner, rest, hwritten, rfl, hrest⟩ := ih hfound hdepth
    exact ⟨rfl, _, _, _, .escape hwritten, rfl, hrest⟩
  | case4 depth rest quote _ hquote =>
    rename_i ih
    obtain ⟨found, hfound, rfl⟩ := @exists_of_passed [quote] _ _ _ h
    obtain ⟨rfl, hcloses⟩ := ih _ _ hfound hdepth
    exact ⟨rfl, _, _, _, .nil, rfl, hcloses⟩
  | case5 depth c rest _ quote hescape hne =>
    rename_i ih
    obtain ⟨found, hfound, rfl⟩ := @exists_of_passed [c] _ _ _ h
    obtain ⟨rfl, written, inner, rest, hwritten, rfl, hrest⟩ := ih _ _ hfound hdepth
    exact ⟨rfl, _, _, _, .plain hne hescape hwritten, rfl, hrest⟩
  | case6 depth quote rest _ hquote =>
    rename_i ih
    obtain ⟨found, hfound, rfl⟩ := @exists_of_passed [quote] _ _ _ h
    obtain ⟨rfl, written, inner, rest, hwritten, rfl, hrest⟩ := ih _ _ hfound hdepth
    have hisQuote : IsQuote quote := by simpa [IsQuote] using hquote
    refine ⟨rfl, ?_⟩
    have happend : [quote] ++ (written ++ quote :: rest)
        = quote :: (written ++ [quote]) ++ rest := by
      simp
    rw [happend]
    apply hrest.prepend
    intro other hother
    have hboth : quote :: (written ++ [quote]) ++ other = quote :: (written ++ quote :: other) := by
      simp
    rw [hboth]
    apply Matched.quoted hisQuote hwritten hother
  | case7 depth rest _ hquote =>
    rename_i ih
    obtain ⟨found, hfound, rfl⟩ := @exists_of_passed ['['] _ _ _ h
    obtain ⟨rfl, hcloses⟩ := ih _ _ hfound (by omega)
    exact ⟨rfl, hcloses.opening hdepth⟩
  | case8 depth rest _ hle =>
    cases h
    obtain rfl : depth = 1 := by omega
    exact ⟨rfl, @Closes.one [] .nil⟩
  | case9 depth rest _ hlt hquote hopening =>
    rename_i ih
    obtain ⟨found, hfound, rfl⟩ := @exists_of_passed [']'] _ _ _ h
    obtain ⟨rfl, hcloses⟩ := ih _ _ hfound (by omega)
    obtain ⟨depth, rfl⟩ : ∃ less, depth = less + 1 := ⟨depth - 1, by omega⟩
    exact ⟨rfl, @Closes.more _ [] _ .nil hcloses⟩
  | case10 depth c rest _ hquote hopening hclosing =>
    rename_i ih
    obtain ⟨found, hfound, rfl⟩ := @exists_of_passed [c] _ _ _ h
    obtain ⟨rfl, hcloses⟩ := ih _ _ hfound hdepth
    have hplain : ¬IsQuote c := by simpa [IsQuote] using hquote
    exact ⟨rfl, hcloses.prepend fun _ => .plain hplain hopening hclosing⟩

/-- A list that a scan finds is written there, and brackets match in it. -/
theorem matched_of_nested {cs text after : List Char}
    (h : nested 0 none ('[' :: cs) = .ok (text, after)) :
  ∃ inner, Matched inner ∧ text = bracketed inner ∧ '[' :: cs = text ++ after
  := by
  rw [nested_opening] at h
  obtain ⟨found, hfound, rfl⟩ := exists_of_passed h
  obtain ⟨rfl, hcloses⟩ := closes_of_nested hfound (Nat.le_refl 1)
  generalize hdepth : 0 + 1 = depth at hcloses
  cases hcloses with
  | one hinner => exact ⟨_, hinner, rfl, rfl⟩
  | more _ hrest =>
    obtain rfl := Nat.succ.inj hdepth
    cases hrest

/-! ### Scanning an item -/

theorem not_blank_of_trim {first : Char} {rest : List Char}
    (h : trim (first :: rest) = first :: rest) :
  isBlank first = false
  := by
  obtain ⟨blanks, -, hskip⟩ := exists_trimEnd (skipBlanks (first :: rest))
  rw [← trim, h] at hskip
  apply not_blank_of_skipBlanks hskip

theorem item_bare {first : Char} (hopening : first ≠ '[') (hquote : ¬IsQuote first)
    (rest : List Char) :
  item (first :: rest) = .ok (bare (first :: rest))
  := by
  rw [IsQuote, not_or] at hquote
  unfold item
  split
  next h => cases h
  next h =>
    cases h
    exact absurd rfl hopening
  next h =>
    cases h
    exact absurd rfl hquote.1
  next h =>
    cases h
    exact absurd rfl hquote.2
  next => rfl

/-- Bare text is read up to the next comma, or to the end. -/
theorem bare_append {text after : List Char} (h : ',' ∉ text)
    (hafter : after = [] ∨ ∃ rest, after = ',' :: rest) :
  bare (text ++ after) = (trimEnd text, after)
  := by
  have hplain : ∀ c ∈ text, (c != ',') = true := by
    intro c hc
    rw [bne_iff_ne]
    rintro rfl
    exact h hc
  have hstops : after.takeWhile (· != ',') = [] ∧ after.dropWhile (· != ',') = after := by
    rcases hafter with rfl | ⟨rest, rfl⟩ <;> simp
  rw [bare, List.takeWhile_append_of_pos hplain, List.dropWhile_append_of_pos hplain, hstops.1,
    hstops.2, List.append_nil]

theorem not_mem_of_blank {blanks : List Char} (h : Blank blanks) :
  ',' ∉ blanks
  := fun hcomma => absurd (h ',' hcomma) (by decide)

theorem skipBlanks_of_stops {after : List Char} (h : after = [] ∨ ∃ rest, after = ',' :: rest) :
  skipBlanks after = after
  := by
  rcases h with rfl | ⟨rest, rfl⟩
  · rfl
  · apply skipBlanks_cons (by decide)

namespace Item

variable {item : Item}

/-- What is written as an item starts neither with a blank nor with a comma. -/
theorem Formed.visible (h : item.Formed) (hne : item ≠ .missing) :
  ∃ first rest, item.written = first :: rest ∧ isBlank first = false ∧ first ≠ ','
  := by
  cases h with
  | missing => exact absurd rfl hne
  | nested => exact ⟨_, _, rfl, by decide, by decide⟩
  | quoted hquote =>
    refine ⟨_, _, rfl, hquote.not_blank, ?_⟩
    rcases hquote with rfl | rfl <;> decide
  | bare _ _ hcomma htrim =>
    refine ⟨_, _, rfl, not_blank_of_trim htrim, ?_⟩
    rintro rfl
    exact hcomma List.mem_cons_self

/-- No blanks stand at the ends of an item. -/
theorem Formed.trim_written (h : item.Formed) :
  trim item.written = item.written
  := by
  cases h with
  | missing => rfl
  | nested => apply trim_of_ends (by decide) (by decide)
  | quoted hquote => apply trim_of_ends hquote.not_blank hquote.not_blank
  | bare _ _ _ htrim => exact htrim

/-- An item is read up to where it ends, if a comma or nothing but blanks follows it. -/
theorem Formed.scan (h : item.Formed) (hne : item ≠ .missing) {blanks after : List Char}
    (hblanks : Blank blanks) (hafter : after = [] ∨ ∃ rest, after = ',' :: rest) :
  ∃ left, ListText.item (item.written ++ (blanks ++ after)) = .ok (item.text, left)
    ∧ skipBlanks left = after
  := by
  have hskip : skipBlanks (blanks ++ after) = after := by
    rw [skipBlanks_append hblanks, skipBlanks_of_stops hafter]
  cases h with
  | missing => exact absurd rfl hne
  | nested hinner => exact ⟨_, item_bracketed hinner.balanced _, hskip⟩
  | @quoted quote written text hquote hwritten =>
    refine ⟨_, ?_, hskip⟩
    have hquoted := hwritten.quoted hquote.ne_backslash (blanks ++ after)
    rw [List.cons_append, List.append_assoc, List.singleton_append, ← hquoted]
    rcases hquote with rfl | rfl <;> rfl
  | @bare first rest hopening hquote hcomma htrim =>
    refine ⟨after, ?_, skipBlanks_of_stops hafter⟩
    have hend : trimEnd (first :: rest) = first :: rest := by
      conv_rhs => rw [← htrim, trim, skipBlanks_cons (not_blank_of_trim htrim)]
    have hcommas : ',' ∉ first :: rest ++ blanks := by
      rw [List.mem_append, not_or]
      exact ⟨hcomma, not_mem_of_blank hblanks⟩
    have hbare := bare_append hcommas hafter
    rw [trimEnd_append hblanks, hend] at hbare
    rw [← List.append_assoc, ← hbare]
    apply item_bare hopening hquote

end Item

/-- Bare text that starts with neither a blank nor a comma is an item, with blanks after it. -/
theorem formed_of_bare {first : Char} {rest text after : List Char} (hopening : first ≠ '[')
    (hquote : ¬IsQuote first) (hcomma : first ≠ ',') (hblank : isBlank first = false)
    (h : bare (first :: rest) = (text, after)) :
  Item.Formed ⟨text, text⟩ ∧ text ≠ []
    ∧ ∃ blanks, Blank blanks ∧ first :: rest = text ++ (blanks ++ after)
  := by
  obtain ⟨htext, rfl⟩ := Prod.mk.inj h
  obtain ⟨blanks, hblanks, hend⟩ := exists_trimEnd ((first :: rest).takeWhile (· != ','))
  rw [htext] at hend
  have hsplit : first :: rest = text ++ (blanks ++ (first :: rest).dropWhile (· != ',')) := by
    rw [← List.append_assoc, ← hend, List.takeWhile_append_dropWhile]
  have hcommas : ',' ∉ text := by
    intro hmem
    have hmem : ',' ∈ (first :: rest).takeWhile (· != ',') := by
      rw [hend]
      apply List.mem_append_left blanks hmem
    exact absurd (List.mem_takeWhile_imp hmem) (by decide)
  have hstart : first :: rest.takeWhile (· != ',') = text ++ blanks := by
    rw [← hend]
    simp [hcomma]
  cases text with
  | nil =>
    have hmem : first ∈ blanks := by
      rw [List.nil_append] at hstart
      rw [← hstart]
      apply List.mem_cons_self
    exact absurd (hblanks first hmem) (by simp [hblank])
  | cons c more =>
    obtain rfl : first = c := List.head_eq_of_cons_eq hstart
    have htrim : trim (first :: more) = first :: more := by
      rw [trim, skipBlanks_cons hblank, ← htext, trimEnd_trimEnd]
    exact ⟨.bare hopening hquote hcommas htrim, List.cons_ne_nil _ _, blanks, hblanks, hsplit⟩

/-- An item that is found, after blanks, is written there, with blanks after it.  If none is, a
comma stands there. -/
theorem exists_item {cs text after : List Char}
    (h : item (skipBlanks cs) = .ok (text, after)) :
  ∃ it : Item, it.Formed ∧ it.text = text
    ∧ (∃ blanks, Blank blanks ∧ skipBlanks cs = it.written ++ (blanks ++ after))
    ∧ (it = .missing → ∃ rest, after = ',' :: rest)
  := by
  generalize hcs : skipBlanks cs = visible at h
  unfold item at h
  split at h
  next => cases h
  next rest =>
    obtain ⟨inner, hinner, rfl, happend⟩ := matched_of_nested h
    exact ⟨_, .nested hinner, rfl, ⟨[], nofun, happend⟩, nofun⟩
  next rest =>
    obtain ⟨written, hwritten, rfl⟩ := escaped_of_quoted h
    exact ⟨_, .quoted (.inl rfl) hwritten, rfl, ⟨[], nofun, by simp⟩, nofun⟩
  next rest =>
    obtain ⟨written, hwritten, rfl⟩ := escaped_of_quoted h
    exact ⟨_, .quoted (.inr rfl) hwritten, rfl, ⟨[], nofun, by simp⟩, nofun⟩
  next hnil hopening hdouble hsingle =>
    obtain ⟨first, rest, rfl⟩ := List.exists_cons_of_ne_nil hnil
    have hbare : bare (first :: rest) = (text, after) := Except.ok.inj h
    have hfirst := not_blank_of_skipBlanks hcs
    by_cases hcomma : first = ','
    · obtain rfl := hcomma
      have hnone : bare (',' :: rest) = ([], ',' :: rest) :=
        bare_append List.not_mem_nil (.inr ⟨rest, rfl⟩)
      obtain ⟨rfl, rfl⟩ := Prod.mk.inj (hnone.symm.trans hbare)
      exact ⟨.missing, .missing, rfl, ⟨[], nofun, rfl⟩, fun _ => ⟨rest, rfl⟩⟩
    · have hquote : ¬IsQuote first := by
        rintro (rfl | rfl)
        · exact hdouble rest rfl
        · exact hsingle rest rfl
      have hnested : first ≠ '[' := fun e => hopening rest (by rw [e])
      obtain ⟨hformed, hne, hsplit⟩ := formed_of_bare hnested hquote hcomma hfirst hbare
      exact ⟨_, hformed, rfl, hsplit, fun e => absurd (congrArg Item.written e) hne⟩

/-! ### Scanning items -/

section Padded

variable {item : Item} {written : List Char}

/-- An item with blanks around it is read, with a comma after it. -/
theorem scan_padded (h : item.Formed) (hpadded : Padded written item.written) (rest : List Char) :
  ∃ left, ListText.item (skipBlanks (written ++ ',' :: rest)) = .ok (item.text, left)
    ∧ skipBlanks left = ',' :: rest
  := by
  obtain ⟨before, after, hbefore, hafter, rfl⟩ := hpadded
  rw [List.append_assoc, skipBlanks_append hbefore, List.append_assoc]
  by_cases hne : item = .missing
  · subst hne
    rw [show Item.missing.written = [] from rfl, List.nil_append, skipBlanks_append hafter,
      skipBlanks_cons (by decide)]
    have hbare : bare (',' :: rest) = ([], ',' :: rest) :=
      bare_append List.not_mem_nil (.inr ⟨rest, rfl⟩)
    refine ⟨',' :: rest, ?_, skipBlanks_cons (by decide) rest⟩
    rw [item_bare (by decide) (by simp [IsQuote]), hbare]
    rfl
  · obtain ⟨first, more, hfirst, hblank, -⟩ := h.visible hne
    have hscan := h.scan hne hafter (.inr ⟨rest, rfl⟩)
    rw [hfirst] at hscan ⊢
    rwa [List.cons_append, skipBlanks_cons hblank]

/-- An item with blanks around it is read, with nothing after it. -/
theorem scan_padded_last (h : item.Formed) (hne : item ≠ .missing)
    (hpadded : Padded written item.written) :
  ∃ left, ListText.item (skipBlanks written) = .ok (item.text, left) ∧ skipBlanks left = []
  := by
  obtain ⟨before, after, hbefore, hafter, rfl⟩ := hpadded
  obtain ⟨first, more, hfirst, hblank, -⟩ := h.visible hne
  have hscan := h.scan hne hafter (.inl rfl)
  rw [List.append_nil] at hscan
  rw [skipBlanks_append hbefore]
  rw [hfirst] at hscan ⊢
  rwa [List.cons_append, skipBlanks_cons hblank]

theorem Padded.trim (h : item.Formed) (hpadded : Padded written item.written) :
  Text.trim written = item.written
  := by
  obtain ⟨before, after, hbefore, hafter, rfl⟩ := hpadded
  rw [trim_padded hbefore hafter, h.trim_written]

theorem Padded.blank (h : Padded written []) :
  Blank written
  := by
  obtain ⟨before, after, hbefore, hafter, rfl⟩ := h
  apply hbefore.append hafter

end Padded

/-- Items with commas between them are read, unless the last of them is missing. -/
theorem items_of_listed {cs : List Char} {list : List Item} (h : Listed cs list) {fuel : Nat}
    (hfuel : list.length ≤ fuel) :
  items fuel cs = if list.getLast? = some .missing then .error .missingItem
    else .ok (list.map Item.text)
  := by
  induction h generalizing fuel with
  | @last written item hitem hpadded =>
    obtain ⟨fuel, rfl⟩ := Nat.exists_eq_add_of_le' hfuel
    rw [List.length_singleton, items, List.getLast?_singleton]
    split_ifs with hmissing
    · obtain rfl := Option.some.inj hmissing
      rw [skipBlanks_eq_nil.mpr hpadded.blank]
      rfl
    · have hne : item ≠ .missing := fun e => hmissing (congrArg some e)
      obtain ⟨left, hscan, hleft⟩ := scan_padded_last hitem hne hpadded
      rw [hscan]
      dsimp only
      rw [hleft]
      rfl
  | @cons written rest item list hitem hpadded hrest ih =>
    obtain ⟨fuel, rfl⟩ := Nat.exists_eq_add_of_le' hfuel
    have hlast : (item :: list).getLast? = list.getLast? := by
      cases hrest <;> rfl
    obtain ⟨left, hscan, hleft⟩ := scan_padded hitem hpadded rest
    have ih := @ih (fuel + list.length) (Nat.le_add_left _ _)
    rw [List.length_cons, ← Nat.add_assoc, items, hscan]
    dsimp only
    rw [hleft]
    dsimp only
    rw [if_pos rfl, ih, hlast]
    split_ifs <;> rfl

/-- What is read as items is written as items with commas between them, the last of which is not
missing. -/
theorem listed_of_items {fuel : Nat} {cs : List Char} {texts : List (List Char)}
    (h : items fuel cs = .ok texts) :
  ∃ list, Listed cs list ∧ list.getLast? ≠ some .missing ∧ list.map Item.text = texts
  := by
  induction fuel generalizing cs texts with
  | zero => cases h
  | succ fuel ih =>
    rw [items] at h
    split at h
    next => cases h
    next text after hitem =>
      obtain ⟨item, hformed, rfl, ⟨blanks, hblanks, hwritten⟩, hmissing⟩ := exists_item hitem
      obtain ⟨before, hbefore, hcs⟩ := exists_skipBlanks cs
      obtain ⟨between, hbetween, hafter⟩ := exists_skipBlanks after
      rw [hwritten] at hcs
      split at h
      next hend =>
        cases h
        rw [hend, List.append_nil] at hafter
        obtain rfl := hafter
        refine ⟨[item], ?_, ?_, rfl⟩
        · apply Listed.last hformed ⟨before, _, hbefore, hblanks.append hbetween, hcs⟩
        · intro e
          obtain ⟨rest, hrest⟩ := hmissing (Option.some.inj e)
          rw [hrest, skipBlanks_cons (by decide)] at hend
          cases hend
      next c rest hnext =>
        split_ifs at h with hcomma
        · obtain rfl := hcomma
          obtain ⟨others, hothers, rfl⟩ := exists_of_map_eq_ok h
          obtain ⟨list, hlist, hlast, rfl⟩ := ih hothers
          have hsplit : cs = (before ++ (item.written ++ (blanks ++ between))) ++ ',' :: rest := by
            rw [hcs, hafter, hnext]
            simp
          refine ⟨item :: list, ?_, ?_, rfl⟩
          · rw [hsplit]
            apply Listed.cons hformed ⟨before, _, hbefore, hblanks.append hbetween, rfl⟩ hlist
          · cases hlist <;> exact hlast

/-- A text is split into items in one way. -/
theorem Listed.unique {cs : List Char} {list others : List Item} (h : Listed cs list)
    (hothers : Listed cs others) :
  list = others
  := by
  -- a scan of the first item tells whether a comma follows it, and what is behind the comma
  have hends : ∀ {written rest : List Char} {item other : Item}, item.Formed → other.Formed →
      Padded (written ++ ',' :: rest) item.written → Padded written other.written → False := by
    intro written rest item other hitem hother hpadded hpadded'
    by_cases hne : item = .missing
    · subst hne
      have hblank := hpadded.blank ',' (List.mem_append_right _ List.mem_cons_self)
      exact absurd hblank (by decide)
    · obtain ⟨left, hscan, hleft⟩ := scan_padded_last hitem hne hpadded
      obtain ⟨left', hscan', hleft'⟩ := scan_padded hother hpadded' rest
      rw [hscan] at hscan'
      obtain ⟨-, rfl⟩ := Prod.mk.inj (Except.ok.inj hscan')
      rw [hleft] at hleft'
      cases hleft'
  have hsame : ∀ {written : List Char} {item other : Item}, item.Formed → other.Formed →
      Padded written item.written → Padded written other.written → item = other := by
    intro written item other hitem hother hpadded hpadded'
    obtain ⟨left, hscan, -⟩ := scan_padded hitem hpadded []
    obtain ⟨left', hscan', -⟩ := scan_padded hother hpadded' []
    rw [hscan] at hscan'
    apply Item.ext
    · rw [← hpadded.trim hitem, hpadded'.trim hother]
    · exact (Prod.mk.inj (Except.ok.inj hscan')).1
  induction h generalizing others with
  | @last written item hitem hpadded =>
    cases hothers with
    | last hother hpadded' => rw [hsame hitem hother hpadded hpadded']
    | cons hother hpadded' _ => exact (hends hitem hother hpadded hpadded').elim
  | @cons written rest item list hitem hpadded hrest ih =>
    generalize hcs : written ++ ',' :: rest = cs at hothers
    cases hothers with
    | last hother hpadded' =>
      subst hcs
      exact (hends hother hitem hpadded' hpadded).elim
    | @cons written' rest' other others hother hpadded' hothers =>
      obtain ⟨left, hscan, hleft⟩ := scan_padded hitem hpadded rest
      obtain ⟨left', hscan', hleft'⟩ := scan_padded hother hpadded' rest'
      rw [hcs, hscan'] at hscan
      obtain ⟨-, rfl⟩ := Prod.mk.inj (Except.ok.inj hscan)
      rw [hleft] at hleft'
      obtain rfl := List.tail_eq_of_cons_eq hleft'
      obtain rfl := List.append_cancel_right hcs
      rw [hsame hitem hother hpadded hpadded', ih hothers]

/-! ### Scanning literals -/

/-- The text that an item means. -/
def Item.meaning (item : Item) : String :=
  String.ofList item.text

theorem inside_eq_ok {literal inner : List Char} :
  inside literal = .ok inner ↔ trim literal = bracketed inner
  := by
  constructor
  · intro h
    unfold inside at h
    split at h
    next rest hrest =>
      split_ifs at h with hlast
      cases h
      rw [hrest, bracketed, List.dropLast_append_getLast? _ hlast]
    next => cases h
  · intro h
    rw [inside, h, bracketed]
    simp

theorem Listed.length_le {cs : List Char} {list : List Item} (h : Listed cs list) :
  list.length ≤ cs.length + 1
  := by
  induction h with
  | last => simp
  | cons _ _ _ ih =>
    rw [List.length_cons, List.length_append, List.length_cons]
    omega

theorem Splits.unique {literal : List Char} {list others : List Item} (h : Splits literal list)
    (hothers : Splits literal others) :
  list = others
  := by
  obtain ⟨inner, htrim, h⟩ := h
  obtain ⟨inner', htrim', hothers⟩ := hothers
  rw [htrim] at htrim'
  obtain rfl : inner = inner' := List.append_cancel_right (List.tail_eq_of_cons_eq htrim')
  rcases h with ⟨hblank, rfl⟩ | ⟨hblank, hlist⟩
  · rcases hothers with ⟨-, rfl⟩ | ⟨hblank', -⟩
    · rfl
    · exact absurd hblank hblank'
  · rcases hothers with ⟨hblank', -⟩ | ⟨-, hlist'⟩
    · exact absurd hblank' hblank
    · apply hlist.unique hlist'

/-- A literal that is made of items is read as their texts, unless the last item is missing. -/
theorem parse_of_splits {literal : String} {list : List Item} (h : Splits literal.toList list) :
  parse literal = if list.getLast? = some .missing then .error .missingItem
    else .ok (list.map Item.meaning)
  := by
  obtain ⟨inner, htrim, h⟩ := h
  rw [parse, inside_eq_ok.mpr htrim]
  dsimp only
  rcases h with ⟨hblank, rfl⟩ | ⟨hblank, hlist⟩
  · rw [skipBlanks_eq_nil.mpr hblank]
    rfl
  · have hvisible : (skipBlanks inner).isEmpty = false := by
      rwa [List.isEmpty_eq_false_iff, ne_eq, skipBlanks_eq_nil]
    rw [hvisible, if_neg Bool.false_ne_true, items_of_listed hlist hlist.length_le]
    split_ifs
    · rfl
    · simp [Except.map, Item.meaning]

/-- What is read as a list literal is made of items, the last of which is not missing. -/
theorem splits_of_parse {literal : String} {texts : List String} (h : parse literal = .ok texts) :
  ∃ list, Splits literal.toList list ∧ list.getLast? ≠ some .missing
    ∧ list.map Item.meaning = texts
  := by
  unfold parse at h
  split at h
  next => cases h
  next inner hinside =>
    have htrim := inside_eq_ok.mp hinside
    split_ifs at h with hempty
    · cases h
      rw [List.isEmpty_iff, skipBlanks_eq_nil] at hempty
      exact ⟨[], ⟨inner, htrim, .inl ⟨hempty, rfl⟩⟩, nofun, rfl⟩
    · obtain ⟨found, hfound, rfl⟩ := exists_of_map_eq_ok h
      obtain ⟨list, hlist, hlast, rfl⟩ := listed_of_items hfound
      rw [List.isEmpty_iff, skipBlanks_eq_nil] at hempty
      exact ⟨list, ⟨inner, htrim, .inr ⟨hempty, hlist⟩⟩, hlast, by simp [Item.meaning]⟩

theorem parse_eq_ok {literal : String} {texts : List String} :
  parse literal = .ok texts ↔ ∃ list, Splits literal.toList list
    ∧ list.getLast? ≠ some .missing ∧ list.map Item.meaning = texts
  := by
  constructor
  · apply splits_of_parse
  · rintro ⟨list, hlist, hlast, rfl⟩
    rw [parse_of_splits hlist, if_neg hlast]

end ListText

end TypedModules
