import TypedModules.Eval.Literal
import TypedModules.Proofs.Eval.Containment

/-!
# Texts that are literals

A text that is a literal of a form has no blanks at its ends, unless it is a string, and denotes a
value of that form as it stands.
-/

namespace TypedModules

/-! ### Blanks -/

namespace Text

theorem skipBlanks_eq_self {cs : List Char} (h : ∀ c ∈ cs, isBlank c = false) :
  skipBlanks cs = cs
  := by
  cases cs with
  | nil => rfl
  | cons c cs => rw [skipBlanks, List.dropWhile_cons_of_neg (by simp [h c List.mem_cons_self])]

theorem trim_eq_self {cs : List Char} (h : ∀ c ∈ cs, isBlank c = false) :
  trim cs = cs
  := by
  have hreverse : ∀ c ∈ cs.reverse, isBlank c = false := fun c hc => h c (List.mem_reverse.mp hc)
  rw [trim, skipBlanks_eq_self h, trimEnd, skipBlanks_eq_self hreverse, List.reverse_reverse]

theorem isBlank_of_isDigit {c : Char} (h : c.isDigit = true) :
  isBlank c = false
  := by
  have hblanks : ∀ b ∈ blanks, b.isDigit = false := by simp [blanks]
  rw [← Bool.not_eq_true]
  intro hblank
  exact absurd h (by simp [hblanks c (List.contains_iff_mem.mp hblank)])

end Text

theorem isDigit_of_isDecimal {cs : List Char} (h : isDecimal cs = true) :
  ∀ c ∈ cs, c.isDigit = true
  := by
  unfold isDecimal at h
  split at h
  next => cases h
  next => simp
  next first rest _ =>
    simp only [Bool.and_eq_true, List.all_eq_true] at h
    exact List.forall_mem_cons.mpr ⟨h.1.2, h.2⟩

theorem not_blank_of_isDecimal {cs : List Char} (h : isDecimal cs = true) :
  ∀ c ∈ cs, Text.isBlank c = false
  := fun c hc => Text.isBlank_of_isDigit (isDigit_of_isDecimal h c hc)

theorem not_blank_of_isSignedDecimal {cs : List Char} (h : isSignedDecimal cs = true) :
  ∀ c ∈ cs, Text.isBlank c = false
  := by
  unfold isSignedDecimal at h
  split at h
  next digits =>
    rw [Bool.and_eq_true] at h
    exact List.forall_mem_cons.mpr ⟨by decide, not_blank_of_isDecimal h.1⟩
  next => exact not_blank_of_isDecimal h

/-- A literal that is no text of a string has no blanks. -/
theorem LiteralForm.trim_of_accepts {form : LiteralForm} (hform : form ≠ .string) {text : String}
    (h : form.accepts text = true) :
  Text.trim text.toList = text.toList
  := by
  apply Text.trim_eq_self
  cases form with
  | integer => exact not_blank_of_isSignedDecimal h
  | natural => exact not_blank_of_isDecimal h
  | boolean =>
    rw [accepts, Bool.or_eq_true, beq_iff_eq, beq_iff_eq] at h
    obtain rfl | rfl := h
    · simp [Text.isBlank, Text.blanks]
    · simp [Text.isBlank, Text.blanks]
  | string => exact absurd rfl hform

/-! ### What literals denote -/

theorem exists_parseInteger? {text : List Char} (h : isSignedDecimal text = true) :
  ∃ n, parseInteger? text = some n
  := by
  unfold parseInteger?
  rw [if_pos h]
  split
  · exact ⟨_, rfl⟩
  · exact ⟨_, rfl⟩

theorem exists_parseBoolean? {text : String} (h : LiteralForm.boolean.accepts text = true) :
  ∃ b, parseBoolean? text.toList = some b
  := by
  rw [LiteralForm.accepts, Bool.or_eq_true, beq_iff_eq, beq_iff_eq] at h
  obtain rfl | rfl := h
  · exact ⟨true, rfl⟩
  · exact ⟨false, rfl⟩

/-- The value that a text denotes as a literal of a form, as it stands. -/
def LiteralForm.value? (form : LiteralForm) (text : String) : Option Value :=
  match form with
  | integer => (parseInteger? text.toList).map .integer
  | natural => (parseNatural? text.toList).map .natural
  | boolean => (parseBoolean? text.toList).map .boolean
  | string => some (.string text)

/-- A literal of a form denotes a value. -/
theorem LiteralForm.exists_value? {form : LiteralForm} {text : String}
    (h : form.accepts text = true) :
  ∃ value, form.value? text = some value
  := by
  cases form with
  | integer =>
    obtain ⟨n, hn⟩ := exists_parseInteger? h
    exact ⟨.integer n, by rw [value?, hn, Option.map_some]⟩
  | natural =>
    have hn : parseNatural? text.toList = some (ofDigits text.toList) := if_pos h
    exact ⟨.natural _, by rw [value?, hn, Option.map_some]⟩
  | boolean =>
    obtain ⟨b, hb⟩ := exists_parseBoolean? h
    exact ⟨.boolean b, by rw [value?, hb, Option.map_some]⟩
  | string => exact ⟨.string text, rfl⟩

/-- What a literal denotes is neither made of values nor refers to any. -/
theorem LiteralForm.atom_of_value? {form : LiteralForm} {text : String} {value : Value}
    (h : form.value? text = some value) :
  value.closure? = none ∧ value.struct? = none ∧ value.builder? = none ∧ value.parts = []
  := by
  cases form with
  | string =>
    cases h
    exact ⟨rfl, rfl, rfl, rfl⟩
  | _ =>
    obtain ⟨_, -, rfl⟩ := Option.map_eq_some_iff.mp h
    exact ⟨rfl, rfl, rfl, rfl⟩

end TypedModules
