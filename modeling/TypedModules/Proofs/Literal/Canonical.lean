import Mathlib.Logic.Equiv.Defs
import TypedModules.Proofs.Literal.Chain
import TypedModules.Proofs.Literal.Classified
import TypedModules.Proofs.Literal.Written
import TypedModules.Value.Display

/-!
# Number literals are canonical

Each number has one literal, the text that displays it: `isDecimal` and `isSignedDecimal` hold of
the displays of numbers and of nothing else, and reading undoes displaying
(`parseNatural?_eq_some`, `parseInteger?_eq_some`).  Integers and natural numbers are handled
alike, so what follows for the literals of either is said of `Numerals` (`numbers_canonical`).
-/

namespace TypedModules

/-! ### Digits -/

theorem digitValue_of_isDigit {c : Char} (h : c.isDigit = true) :
  digitValue c < 10 ∧ (digitValue c).digitChar = c
  := by
  have hzero : '0'.toNat = 48 := rfl
  have hnine : '9'.toNat = 57 := rfl
  obtain ⟨hlow, hhigh⟩ := Char.isDigit_iff_toNat.mp h
  have hvalue : digitValue c < 10 := by
    rw [digitValue]
    omega
  refine ⟨hvalue, Char.toNat_inj.mp ?_⟩
  rw [Nat.toNat_digitChar_of_lt_ten hvalue, digitValue]
  omega

/-- Reading more digits after a number that is not zero appends them to its own. -/
theorem toDigits_foldl {digits : List Char} (hdigits : ∀ c ∈ digits, c.isDigit = true) {n : Nat}
    (hn : 0 < n) :
  Nat.toDigits 10 (digits.foldl (fun n c => 10 * n + digitValue c) n)
    = Nat.toDigits 10 n ++ digits
  := by
  induction digits generalizing n with
  | nil => simp
  | cons c rest ih =>
    obtain ⟨hc, hrest⟩ := List.forall_mem_cons.mp hdigits
    obtain ⟨hvalue, hchar⟩ := digitValue_of_isDigit hc
    have hlast : Nat.toDigits 10 (10 * n + digitValue c) = Nat.toDigits 10 n ++ [c] := by
      rw [← Nat.toDigits_append_toDigits (by omega) hn hvalue, Nat.toDigits_of_lt_base hvalue,
        hchar]
    rw [List.foldl_cons, ih hrest (by omega), hlast, List.append_assoc, List.singleton_append]

/-- Digits without a leading zero are those of the number that they write. -/
theorem toDigits_ofDigits {digits : List Char} (h : isDecimal digits = true) :
  Nat.toDigits 10 (ofDigits digits) = digits
  := by
  unfold isDecimal at h
  split at h
  next => cases h
  next => decide
  next first rest _ =>
    simp only [Bool.and_eq_true, bne_iff_ne, List.all_eq_true] at h
    obtain ⟨⟨hfirst, hdigit⟩, hrest⟩ := h
    obtain ⟨hvalue, hchar⟩ := digitValue_of_isDigit hdigit
    have hpos : 0 < digitValue first := by
      by_contra hzero
      rw [Nat.not_lt, Nat.le_zero] at hzero
      rw [hzero] at hchar
      exact hfirst hchar.symm
    rw [ofDigits, List.foldl_cons, Nat.mul_zero, Nat.zero_add, toDigits_foldl hrest hpos,
      Nat.toDigits_of_lt_base hvalue, hchar, List.singleton_append]

/-- A natural number is read from its display only. -/
theorem parseNatural?_eq_some {text : List Char} {n : Nat} :
  parseNatural? text = some n ↔ text = (toString n).toList
  := by
  constructor
  · intro h
    obtain ⟨hdecimal, hn⟩ := Option.ite_none_right_eq_some.mp h
    rw [← Option.some.inj hn, Nat.toString_eq_repr, Nat.toList_repr, toDigits_ofDigits hdecimal]
  · rintro rfl
    exact parseNatural?_repr n

/-- An integer is read from its display only. -/
theorem parseInteger?_eq_some {text : List Char} {n : Int} :
  parseInteger? text = some n ↔ text = (toString n).toList
  := by
  constructor
  · intro h
    obtain ⟨hsigned, hn⟩ := Option.ite_none_right_eq_some.mp h
    unfold isSignedDecimal at hsigned
    split at hsigned
    next digits =>
      simp only [Bool.and_eq_true, bne_iff_ne] at hsigned
      obtain ⟨hdecimal, hnonzero⟩ := hsigned
      obtain ⟨m, hm⟩ : ∃ m, ofDigits digits = m + 1 := by
        refine Nat.exists_eq_succ_of_ne_zero fun hzero => hnonzero ?_
        rw [← toDigits_ofDigits hdecimal, hzero]
        rfl
      simp only [hm, Option.some.injEq] at hn
      subst hn
      show '-' :: digits = ("-" ++ (m + 1).repr).toList
      rw [← hm, String.toList_append, Nat.toList_repr, toDigits_ofDigits hdecimal]
      rfl
    next hsign =>
      split at hn
      next digits => exact absurd rfl (hsign digits)
      next =>
        rw [← Option.some.inj hn]
        show text = (ofDigits text).repr.toList
        rw [Nat.toList_repr, toDigits_ofDigits hsigned]
  · rintro rfl
    exact parseInteger?_repr n

theorem isSome_parseNatural? (text : List Char) :
  (parseNatural? text).isSome = isDecimal text
  := by
  rw [parseNatural?]
  cases isDecimal text <;> rfl

theorem isSome_parseInteger? (text : List Char) :
  (parseInteger? text).isSome = isSignedDecimal text
  := by
  cases h : isSignedDecimal text with
  | true =>
    obtain ⟨n, hn⟩ := exists_parseInteger? h
    rw [hn]
    rfl
  | false => simp [parseInteger?, h]

/-! ### Kinds of numbers -/

/-- A kind of numbers with literals: how their type is written, what it is, and how its literals
are told, read and displayed. -/
structure Numerals (N : Type) where
  written : SourceTy
  type : Ty
  form : LiteralForm
  read? : List Char → Option N
  display : N → String
  value : N → Value

/-- The integers. -/
def integers : Numerals Int :=
  ⟨.integer, .integer, .integer, parseInteger?, toString, .integer⟩

/-- The natural numbers. -/
def naturals : Numerals Nat :=
  ⟨.natural, .natural, .natural, parseNatural?, toString, .natural⟩

namespace Numerals

variable {N : Type} {numerals : Numerals N}

/-- What a kind of numbers has to be for its literals to be canonical: its type is known to the
check and to the interpreter, and the text that a number is read from is its display. -/
structure Lawful (numerals : Numerals N) : Prop where
  checkTy_eq : ∀ setting, checkTy setting numerals.written = pure numerals.type
  ownForm?_eq : numerals.type.ownForm? = some numerals.form
  literalForm_eq : ∀ setting : Setting, setting.literalForm numerals.type = numerals.type.ending
  decode_eq : ∀ program ask literal,
    decode program ask numerals.type literal
      = primitiveLiteral numerals.type literal
          ((numerals.read? (Text.trim literal.toList)).map numerals.value)
  text_eq : ∀ store n, (numerals.value n).text store = numerals.display n
  value_injective : Function.Injective numerals.value
  trim_of_accepts : ∀ text, numerals.form.accepts text = true →
    Text.trim text.toList = text.toList
  accepts_eq : ∀ text, numerals.form.accepts text = (numerals.read? text.toList).isSome
  read?_eq_some : ∀ text n, numerals.read? text = some n ↔ text = (numerals.display n).toList

theorem lawful_integers :
  integers.Lawful
  where
    checkTy_eq _ := rfl
    ownForm?_eq := rfl
    literalForm_eq _ := rfl
    decode_eq _ _ _ := rfl
    text_eq _ _ := rfl
    value_injective _ _ h := Value.integer.inj h
    trim_of_accepts _ := LiteralForm.trim_of_accepts (by decide)
    accepts_eq text := (isSome_parseInteger? text.toList).symm
    read?_eq_some _ _ := parseInteger?_eq_some

theorem lawful_naturals :
  naturals.Lawful
  where
    checkTy_eq _ := rfl
    ownForm?_eq := rfl
    literalForm_eq _ := rfl
    decode_eq _ _ _ := rfl
    text_eq _ _ := rfl
    value_injective _ _ h := Value.natural.inj h
    trim_of_accepts _ := LiteralForm.trim_of_accepts (by decide)
    accepts_eq text := (isSome_parseNatural? text.toList).symm
    read?_eq_some _ _ := parseNatural?_eq_some

/-- A text is a literal of a number if and only if it displays one. -/
theorem Lawful.accepts_iff (h : numerals.Lawful) {text : String} :
  numerals.form.accepts text = true ↔ ∃ n, text = numerals.display n
  := by
  simp only [h.accepts_eq, Option.isSome_iff_exists, h.read?_eq_some, String.toList_inj]

theorem Lawful.accepts_display (h : numerals.Lawful) (n : N) :
  numerals.form.accepts (numerals.display n) = true
  := h.accepts_iff.mpr ⟨n, rfl⟩

theorem Lawful.read?_display (h : numerals.Lawful) (n : N) :
  numerals.read? (numerals.display n).toList = some n
  := (h.read?_eq_some _ n).mpr rfl

/-- Decoding ends with the number that the text displays, or with an error. -/
theorem Lawful.outcome_decode (h : numerals.Lawful) (program : Program) (fuel : Nat)
    (store : Store) (text : String) :
  (program.decode (fuel + 1) numerals.type text).outcome store
    = match numerals.read? (Text.trim text.toList) with
      | some n => (.ok (numerals.value n), store)
      | none => (.error (.error ⟨.invalidLiteral text numerals.type.text
          "not accepted by the type's literal validator", []⟩), store)
  := by
  rw [program.decode_succ, h.decode_eq]
  cases numerals.read? (Text.trim text.toList) <;> rfl

/-- The numbers and the texts that are accepted as their literals correspond to each other. -/
def Lawful.literals (h : numerals.Lawful) : N ≃ {text // numerals.form.accepts text = true} where
  toFun n := ⟨numerals.display n, h.accepts_display n⟩
  invFun text := (numerals.read? text.1.toList).get (h.accepts_eq text.1 ▸ text.2)
  left_inv n := Option.get_of_eq_some _ (h.read?_display n)
  right_inv text := by
    apply Subtype.ext
    rw [← String.toList_inj]
    exact ((h.read?_eq_some _ _).mp (Option.some_get _).symm).symm

/-- What it means that the literals of a kind of numbers are canonical. -/
structure Canonical (numerals : Numerals N) : Prop where
  /-- The values of the kind are displayed as the numbers are. -/
  displayed : ∀ store n, (numerals.value n).text store = numerals.display n
  /-- An expression that writes a literal is accepted if and only if the text displays a number,
  and rejected with one error otherwise. -/
  checked : ∀ setting site vars text location behind,
    let check := checkExpr setting site vars (.literal numerals.written text location)
    (check behind = (some (.mk numerals.type .notAliased (.literal text)), [])
        ↔ ∃ n, text = numerals.display n)
      ∧ (check.FailsWith behind [] .rejectedLiteral ↔ ¬∃ n, text = numerals.display n)
  /-- A text is decoded to a number if and only if it displays the number between blanks, and
  refused if it displays none. -/
  decoded : ∀ (program : Program) fuel store text,
    (∀ n, (program.decode (fuel + 1) numerals.type text).outcome store
          = (.ok (numerals.value n), store)
        ↔ Text.trim text.toList = (numerals.display n).toList)
      ∧ ((program.decode (fuel + 1) numerals.type text).outcome store
          = (.error (.error ⟨.invalidLiteral text numerals.type.text
              "not accepted by the type's literal validator", []⟩), store)
        ↔ ¬∃ n, Text.trim text.toList = (numerals.display n).toList)
  /-- Displaying a number and decoding an accepted text are inverse to each other. -/
  inverse : ∃ literals : N ≃ {text // numerals.form.accepts text = true},
    (∀ n, (literals n).1 = numerals.display n)
      ∧ ∀ (program : Program) fuel store text,
        (program.decode (fuel + 1) numerals.type text.1).outcome store
          = (.ok (numerals.value (literals.symm text)), store)

theorem Lawful.checked (h : numerals.Lawful) (setting : Setting) (site : Site) (vars : Variables)
    (text : String) (location : Option Location) (behind : Bool) :
  let check := checkExpr setting site vars (.literal numerals.written text location)
  (check behind = (some (.mk numerals.type .notAliased (.literal text)), [])
      ↔ ∃ n, text = numerals.display n)
    ∧ (check.FailsWith behind [] .rejectedLiteral ↔ ¬∃ n, text = numerals.display n)
  := by
  have htype : checkTy setting numerals.written behind = (some numerals.type, []) := by
    rw [h.checkTy_eq]
    rfl
  have hjudges := judges_of_ending htype (h.literalForm_eq setting) text location
  rw [h.ownForm?_eq, Check.Judges] at hjudges
  rw [checkExpr, ← h.accepts_iff]
  split at hjudges
  next haccepts =>
    refine ⟨iff_of_true hjudges haccepts, iff_of_false ?_ (not_not_intro haccepts)⟩
    rintro ⟨error, -, -, hrun⟩
    rw [hjudges] at hrun
    cases hrun
  next hrejects =>
    refine ⟨iff_of_false ?_ hrejects, iff_of_true hjudges hrejects⟩
    intro hrun
    obtain ⟨error, -, -, hfails⟩ := hjudges
    rw [hrun] at hfails
    cases hfails

theorem Lawful.decoded (h : numerals.Lawful) (program : Program) (fuel : Nat) (store : Store)
    (text : String) :
  (∀ n, (program.decode (fuel + 1) numerals.type text).outcome store
        = (.ok (numerals.value n), store)
      ↔ Text.trim text.toList = (numerals.display n).toList)
    ∧ ((program.decode (fuel + 1) numerals.type text).outcome store
        = (.error (.error ⟨.invalidLiteral text numerals.type.text
            "not accepted by the type's literal validator", []⟩), store)
      ↔ ¬∃ n, Text.trim text.toList = (numerals.display n).toList)
  := by
  simp only [h.outcome_decode, ← h.read?_eq_some]
  cases numerals.read? (Text.trim text.toList) with
  | none => simp
  | some n => simp [h.value_injective.eq_iff]

theorem Lawful.outcome_decode_literal (h : numerals.Lawful) (program : Program) (fuel : Nat)
    (store : Store) (text : {text // numerals.form.accepts text = true}) :
  (program.decode (fuel + 1) numerals.type text.1).outcome store
    = (.ok (numerals.value (h.literals.symm text)), store)
  := by
  have hread : numerals.read? text.1.toList = some (h.literals.symm text) :=
    (Option.some_get _).symm
  rw [h.outcome_decode, h.trim_of_accepts _ text.2, hread]

theorem Lawful.canonical (h : numerals.Lawful) :
  numerals.Canonical
  where
    displayed := h.text_eq
    checked := h.checked
    decoded := h.decoded
    inverse := ⟨h.literals, fun _ => rfl, h.outcome_decode_literal⟩

end Numerals

/-- The literals of the integers are their displays, those of the natural numbers too: as
expressions just these are accepted, between blanks just these are decoded, each to the number that
it displays, and no number has two. -/
theorem numbers_canonical :
  integers.Canonical ∧ naturals.Canonical
  := ⟨Numerals.lawful_integers.canonical, Numerals.lawful_naturals.canonical⟩

end TypedModules
