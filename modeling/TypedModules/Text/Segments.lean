/-!
# Segmented text

Text cut into segments at a separating character, and segments joined again with a
separating text.  Cutting never yields the empty list: a text without the separator
is its own only segment.
-/

namespace TypedModules.Text

/-- The segments of `cs` between occurrences of `sep`. -/
def splitChars (sep : Char) : List Char → List (List Char)
  | [] => [[]]
  | c :: rest =>
    if c = sep then
      [] :: splitChars sep rest
    else
      match splitChars sep rest with
      | [] => [[c]]
      | first :: others => (c :: first) :: others

/-- The segments of `text` between occurrences of `sep`. -/
def split (sep : Char) (text : String) : List String :=
  (splitChars sep text.toList).map String.ofList

/-- The texts one after another, with `sep` between neighbours. -/
def join (sep : String) (texts : List String) : String :=
  sep.intercalate texts

/-- The texts one after another, with a comma and a space between neighbours. -/
def commaList (texts : List String) : String :=
  join ", " texts

theorem splitChars_ne_nil (sep : Char) (cs : List Char) :
  splitChars sep cs ≠ []
  := by
  induction cs with
  | nil => simp [splitChars]
  | cons c rest _ =>
    unfold splitChars
    split
    · simp
    · split <;> simp

/-- A text without the separator is its own only segment. -/
theorem splitChars_of_not_mem {sep : Char} {cs : List Char} (h : sep ∉ cs) :
  splitChars sep cs = [cs]
  := by
  induction cs with
  | nil => rfl
  | cons c rest ih =>
    simp only [List.mem_cons, not_or] at h
    have hc : c ≠ sep := fun e => h.1 e.symm
    simp [splitChars, hc, ih h.2]

end TypedModules.Text
