import Mathlib.Computability.Language
import TypedModules.Proofs.Name.Segments

/-!
# Parts of module names

The group and the name of a module are texts of the grammar
`[0-9a-zA-Z]+([_.-][0-9a-zA-Z]+)*`.  The check of a part goes along its characters and remembers
only whether a letter or digit has to come next.  Either way it accepts what the grammar leaves
open: a whole part, or what may follow a letter or digit of one (`continues_iff`).  So a module name
is made of exactly the texts of the grammar, and as none of them holds a colon, its text tells its
two parts apart (`module_name_exact`).
-/

namespace TypedModules

open scoped Computability

/-! ### The grammar -/

/-- The texts of one character that has a property. -/
def Text.oneOf (p : Char → Prop) : Language Char :=
  {text | ∃ c, text = [c] ∧ p c}

namespace NamePart

/-- The letters and digits `[0-9a-zA-Z]`. -/
def alphanumeric : Language Char :=
  Text.oneOf fun c => '0' ≤ c ∧ c ≤ '9' ∨ 'a' ≤ c ∧ c ≤ 'z' ∨ 'A' ≤ c ∧ c ≤ 'Z'

/-- The separators `[_.-]`. -/
def separator : Language Char :=
  Text.oneOf fun c => c = '_' ∨ c = '.' ∨ c = '-'

/-- The runs `[0-9a-zA-Z]+`. -/
def run : Language Char :=
  alphanumeric * alphanumeric∗

/-- The parts `[0-9a-zA-Z]+([_.-][0-9a-zA-Z]+)*`. -/
def whole : Language Char :=
  run * (separator * run)∗

/-- What may follow a letter or digit of a part. -/
def rest : Language Char :=
  alphanumeric∗ * (separator * run)∗

end NamePart

/-- Whether a text is a part of a module name. -/
def IsNamePart (part : String) : Prop :=
  part.toList ∈ NamePart.whole

/-! ### What the grammar leaves open -/

namespace Text

variable {p : Char → Prop} {language : Language Char} {c : Char} {cs : List Char}

theorem cons_mem_oneOf_mul :
  c :: cs ∈ oneOf p * language ↔ p c ∧ cs ∈ language
  := by
  rw [Language.mem_mul]
  constructor
  · rintro ⟨_, ⟨first, rfl, hp⟩, others, hothers, h⟩
    obtain ⟨rfl, rfl⟩ := List.cons.inj h
    use hp, hothers
  · rintro ⟨hp, hcs⟩
    use [c], ⟨c, rfl, hp⟩, cs, hcs
    rfl

theorem nil_not_mem_oneOf_mul :
  [] ∉ oneOf p * language
  := by
  rw [Language.mem_mul]
  rintro ⟨_, ⟨first, rfl, -⟩, others, -, h⟩
  cases h

end Text

namespace NamePart

variable {c : Char} {cs : List Char}

theorem whole_eq :
  whole = alphanumeric * rest
  := mul_assoc alphanumeric alphanumeric∗ (separator * run)∗

theorem rest_eq :
  rest = 1 + separator * whole + alphanumeric * rest
  := calc
    rest = (1 + alphanumeric * alphanumeric∗) * (separator * run)∗ := by
      rw [Language.one_add_self_mul_kstar_eq_kstar, rest]
    _ = (separator * run)∗ + alphanumeric * rest := by
      rw [add_mul, one_mul, mul_assoc, rest]
    _ = 1 + separator * run * (separator * run)∗ + alphanumeric * rest := by
      rw [Language.one_add_self_mul_kstar_eq_kstar]
    _ = 1 + separator * whole + alphanumeric * rest := by
      rw [mul_assoc separator, whole]

theorem nil_not_mem_whole :
  [] ∉ whole
  := by
  rw [whole_eq]
  apply Text.nil_not_mem_oneOf_mul

theorem nil_mem_rest :
  [] ∈ rest
  := by
  rw [rest_eq, Language.mem_add, Language.mem_add]
  left
  left
  apply Language.nil_mem_one

theorem isNameChar_iff :
  isNameChar c = true ↔ '0' ≤ c ∧ c ≤ '9' ∨ 'a' ≤ c ∧ c ≤ 'z' ∨ 'A' ≤ c ∧ c ≤ 'Z'
  := by
  have hrange : ∀ a b : Char,
      (decide (c.val ≥ a.val) && decide (c.val ≤ b.val)) = true ↔ a ≤ c ∧ c ≤ b := by
    intro a b
    rw [Bool.and_eq_true, decide_eq_true_iff, decide_eq_true_iff]
    rfl
  have hdigit : c.isDigit = true ↔ '0' ≤ c ∧ c ≤ '9' := hrange '0' '9'
  have hlower : c.isLower = true ↔ 'a' ≤ c ∧ c ≤ 'z' := hrange 'a' 'z'
  have hupper : c.isUpper = true ↔ 'A' ≤ c ∧ c ≤ 'Z' := decide_eq_true_iff
  change (c.isUpper || c.isLower || c.isDigit) = true ↔ _
  rw [Bool.or_eq_true, Bool.or_eq_true, hupper, hlower, hdigit, or_comm, @or_comm ('A' ≤ c ∧ c ≤ 'Z')]

theorem isNameSeparator_iff :
  isNameSeparator c = true ↔ c = '_' ∨ c = '.' ∨ c = '-'
  := by
  simp only [isNameSeparator, Bool.or_eq_true, beq_iff_eq, or_assoc]

theorem cons_mem_whole :
  c :: cs ∈ whole ↔ isNameChar c = true ∧ cs ∈ rest
  := by
  rw [whole_eq, alphanumeric, Text.cons_mem_oneOf_mul, isNameChar_iff]

theorem cons_mem_rest :
  c :: cs ∈ rest
    ↔ isNameSeparator c = true ∧ cs ∈ whole ∨ isNameChar c = true ∧ cs ∈ rest
  := by
  have hone : c :: cs ∉ (1 : Language Char) := List.cons_ne_nil c cs
  conv_lhs => rw [rest_eq]
  rw [Language.mem_add, Language.mem_add, or_iff_right hone, separator, alphanumeric,
    Text.cons_mem_oneOf_mul, Text.cons_mem_oneOf_mul, isNameChar_iff, isNameSeparator_iff]

/-- No separator is a letter or digit. -/
theorem isNameChar_of_separator (h : isNameSeparator c = true) :
  isNameChar c = false
  := by
  obtain rfl | rfl | rfl := isNameSeparator_iff.mp h <;> rfl

/-- Where a letter or digit has to come next, the check accepts whole parts, and else what may
follow a letter or digit of a part. -/
theorem continues_iff (cs : List Char) :
  (continuesNamePart true cs = true ↔ cs ∈ whole)
    ∧ (continuesNamePart false cs = true ↔ cs ∈ rest)
  := by
  induction cs with
  | nil => simp [continuesNamePart, nil_not_mem_whole, nil_mem_rest]
  | cons c cs ih =>
    obtain ⟨ihWhole, ihRest⟩ := ih
    rw [cons_mem_whole, cons_mem_rest, continuesNamePart, continuesNamePart, ← ihWhole, ← ihRest]
    cases hchar : isNameChar c with
    | false => simp
    | true =>
      have hseparator : isNameSeparator c = false := by
        by_contra h
        rw [isNameChar_of_separator (eq_true_of_ne_false h)] at hchar
        cases hchar
      simp [hseparator]

theorem isNamePart_iff (part : String) :
  isNamePart part = true ↔ IsNamePart part
  := (continues_iff part.toList).1

/-- Neither a part nor what may follow a letter or digit of one holds a colon. -/
theorem colon_not_mem {cs : List Char} :
  (cs ∈ whole → ':' ∉ cs) ∧ (cs ∈ rest → ':' ∉ cs)
  := by
  induction cs with
  | nil => simp
  | cons c cs ih =>
    have hcolon : isNameChar c = true ∨ isNameSeparator c = true → ':' ≠ c := by
      rintro (h | h) rfl <;> cases h
    simp only [cons_mem_whole, cons_mem_rest, List.mem_cons, not_or]
    constructor
    · rintro ⟨hchar, hcs⟩
      use hcolon (.inl hchar), ih.2 hcs
    · rintro (⟨hseparator, hcs⟩ | ⟨hchar, hcs⟩)
      · use hcolon (.inr hseparator), ih.1 hcs
      · use hcolon (.inl hchar), ih.2 hcs

end NamePart

/-! ### Module names -/

namespace ModuleName

variable {group module : String}

theorem ofParts_eq_ok {name : ModuleName} :
  ModuleName.ofParts group module = .ok name
    ↔ name = ⟨group, module⟩ ∧ IsNamePart group ∧ IsNamePart module
  := by
  rw [← NamePart.isNamePart_iff, ← NamePart.isNamePart_iff, ModuleName.ofParts]
  cases isNamePart group <;> cases isNamePart module <;> simp [eq_comm]

theorem ofParts_eq_error {error : NameError} :
  ModuleName.ofParts group module = .error error
    ↔ ¬IsNamePart group ∧ error = .invalidModuleName "group" group
      ∨ IsNamePart group ∧ ¬IsNamePart module ∧ error = .invalidModuleName "module" module
  := by
  rw [← NamePart.isNamePart_iff, ← NamePart.isNamePart_iff, ModuleName.ofParts]
  cases isNamePart group <;> cases isNamePart module <;> simp [eq_comm]

/-- The text of a module name is cut at its colon into the two parts. -/
theorem split_text {name : ModuleName} (hgroup : IsNamePart name.group)
    (hmodule : IsNamePart name.module) :
  Text.split ':' name.text = [name.group, name.module]
  := by
  have htext : name.text = Text.join (String.ofList [':']) [name.group, name.module] := by
    simp [text, Text.join, String.intercalate_cons_cons]
  rw [htext, Text.split_join (List.cons_ne_nil _ _), Text.flatMap_split_eq_self]
  simp only [List.forall_mem_cons]
  use NamePart.colon_not_mem.1 hgroup, NamePart.colon_not_mem.1 hmodule
  simp

end ModuleName

/-- A group and a module make a module name exactly if both are texts of the grammar, and the name
has these two parts.  Otherwise the group is blamed if it is not a text of the grammar, and the
module if the group is.  Two module names that have one text have the same parts. -/
theorem module_name_exact (group module : String) :
  (∀ name, ModuleName.ofParts group module = .ok name
      ↔ name = ⟨group, module⟩ ∧ IsNamePart group ∧ IsNamePart module)
    ∧ (∀ error, ModuleName.ofParts group module = .error error
      ↔ ¬IsNamePart group ∧ error = .invalidModuleName "group" group
        ∨ IsNamePart group ∧ ¬IsNamePart module ∧ error = .invalidModuleName "module" module)
    ∧ ∀ group' module' name name', ModuleName.ofParts group module = .ok name →
      ModuleName.ofParts group' module' = .ok name' → name.text = name'.text →
      group = group' ∧ module = module'
  := by
  use fun _ => ModuleName.ofParts_eq_ok, fun _ => ModuleName.ofParts_eq_error
  intro group' module' name name' h h' htext
  obtain ⟨rfl, hgroup, hmodule⟩ := ModuleName.ofParts_eq_ok.mp h
  obtain ⟨rfl, hgroup', hmodule'⟩ := ModuleName.ofParts_eq_ok.mp h'
  have hsplit := congrArg (Text.split ':') htext
  rw [@ModuleName.split_text ⟨group, module⟩ hgroup hmodule,
    @ModuleName.split_text ⟨group', module'⟩ hgroup' hmodule'] at hsplit
  simpa using hsplit

/-- Separators stand alone between runs, and letters and digits are ASCII.  Only the name of
`my-group` and `mod_1.x` has the text `my-group:mod_1.x`. -/
theorem module_name_exact_group :
  ModuleName.ofParts "my-group" "mod_1.x" = .ok ⟨"my-group", "mod_1.x"⟩
    ∧ IsNamePart "my-group" ∧ IsNamePart "mod_1.x"
    ∧ ModuleName.ofParts "double__sep" "trailing-"
      = .error (.invalidModuleName "group" "double__sep")
    ∧ ¬IsNamePart "double__sep"
    ∧ ModuleName.ofParts "my-group" "é" = .error (.invalidModuleName "module" "é")
    ∧ ¬IsNamePart "é"
    ∧ ∀ group' module' name', ModuleName.ofParts group' module' = .ok name' →
      name'.text = "my-group:mod_1.x" → group' = "my-group" ∧ module' = "mod_1.x"
  := by
  have hok : ModuleName.ofParts "my-group" "mod_1.x" = .ok ⟨"my-group", "mod_1.x"⟩ := rfl
  have hgroup : ModuleName.ofParts "double__sep" "trailing-"
      = .error (.invalidModuleName "group" "double__sep") := rfl
  have hmodule : ModuleName.ofParts "my-group" "é" = .error (.invalidModuleName "module" "é") := rfl
  obtain ⟨haccepted, -, hunique⟩ := module_name_exact "my-group" "mod_1.x"
  obtain ⟨-, hparts⟩ := (haccepted _).mp hok
  use hok, hparts.1, hparts.2, hgroup
  constructor
  · obtain ⟨h, -⟩ | ⟨-, -, h⟩ := ((module_name_exact "double__sep" "trailing-").2.1 _).mp hgroup
    · apply h
    · simp at h
  use hmodule
  constructor
  · obtain ⟨h, -⟩ | ⟨-, h, -⟩ := ((module_name_exact "my-group" "é").2.1 _).mp hmodule
    · apply absurd hparts.1 h
    · apply h
  · intro group' module' name' h' htext
    obtain ⟨rfl, rfl⟩ := hunique group' module' _ name' hok h' htext.symm
    use rfl

end TypedModules
