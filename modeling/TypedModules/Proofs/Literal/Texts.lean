import TypedModules.Proofs.Literal.Chain
import TypedModules.Proofs.Literal.Grammar

/-!
# Lists of texts

Any text is a literal of a text, so a list of texts is decoded exactly if its literal is split into
items: `list_texts_exact`.  An item that is missing is taken for the empty text, unless it is the
last one (`missing_item_read`).
-/

namespace TypedModules

/-- The type of texts, as a reference writes it. -/
def Ty.texts (written : Reference) : Ty :=
  .named false stringEntity written []

/-- A list of texts. -/
def Value.texts (texts : List String) : Value :=
  .list (texts.map .string)

theorem Value.texts_injective :
  Function.Injective Value.texts
  := by
  intro first second h
  apply List.map_injective_iff.mpr _ (Value.list.inj h)
  intro a b h
  apply Value.string.inj h

/-- How decoding ends for what is no literal of a type. -/
def refusedLiteral (type : Ty) (literal reason : String) : Halt :=
  .error { cause := .invalidLiteral literal type.text reason }

section Texts

variable (program : Program) (written : Reference) (literal : String) (fuel : Nat) (store : Store)

theorem outcome_mapM_texts (items : List String) :
  (items.mapM fun item => program.decode (fuel + 1) (.texts written) item).outcome store
    = (.ok (items.map .string), store)
  := by
  induction items with
  | nil => rfl
  | cons item rest ih =>
    have hitem : program.decode (fuel + 1) (.texts written) item = pure (.string item) := by
      rw [program.decode_succ]
      apply decode_eq_pure (.string false written []) rfl rfl
    rw [List.mapM_cons, hitem, pure_bind, Discipline.outcome_bind, ih]
    rfl

/-- The outcome of decoding a list of texts is that of splitting the literal. -/
theorem outcome_decode_texts :
  (program.decode (fuel + 2) (.list (.texts written)) literal).outcome store
    = match ListText.parse literal with
      | .ok items => (.ok (.texts items), store)
      | .error fault =>
        (.error (refusedLiteral (.list (.texts written)) literal fault.message), store)
  := by
  rw [program.decode_succ, decode]
  cases ListText.parse literal with
  | error fault => rfl
  | ok items =>
    have hitems := outcome_mapM_texts program written fuel store items
    simp only [Program.decode] at hitems
    dsimp only
    rw [Discipline.outcome_bind, hitems]
    rfl

open ListText in
/-- A list of texts is decoded exactly if the literal is made of items of which the last is not
missing, to the texts that the items mean, and an item that is missing means the empty text.  So
literals of which no item is missing are decoded exactly to what their items mean; a literal whose
last item is missing is refused; and what is not decoded is refused as no literal. -/
theorem list_texts_exact :
  let outcome := (program.decode (fuel + 2) (.list (.texts written)) literal).outcome store
  (∀ texts, outcome = (.ok (.texts texts), store)
      ↔ ∃ items, Splits literal.toList items ∧ items.getLast? ≠ some .missing
        ∧ items.map Item.meaning = texts)
    ∧ (∀ texts, (∃ items, Splits literal.toList items ∧ .missing ∉ items
          ∧ items.map Item.meaning = texts)
      ↔ outcome = (.ok (.texts texts), store)
        ∧ ∀ items, Splits literal.toList items → .missing ∉ items)
    ∧ (∀ items, Splits literal.toList items → items.getLast? = some .missing →
      outcome = (.error (refusedLiteral (.list (.texts written)) literal
        "expected an item after ','"), store))
    ∧ ((∃ texts, outcome = (.ok (.texts texts), store))
      ∨ ∃ fault : Fault, outcome
        = (.error (refusedLiteral (.list (.texts written)) literal fault.message), store))
  := by
  intro outcome
  have hread : ∀ texts, outcome = (.ok (.texts texts), store) ↔ parse literal = .ok texts := by
    intro texts
    unfold outcome
    rw [outcome_decode_texts]
    cases parse literal with
    | error fault => simp
    | ok items => simp [Value.texts_injective.eq_iff]
  have hexact := fun texts => (hread texts).trans parse_eq_ok
  refine ⟨hexact, fun texts => ⟨?_, ?_⟩, ?_, ?_⟩
  · rintro ⟨items, hitems, hmissing, rfl⟩
    constructor
    · have hlast : items.getLast? ≠ some .missing := fun e => hmissing (List.mem_of_getLast? e)
      exact (hexact _).mpr ⟨items, hitems, hlast, rfl⟩
    · intro others hothers
      rwa [hothers.unique hitems]
  · rintro ⟨houtcome, hnone⟩
    obtain ⟨items, hitems, -, htexts⟩ := (hexact texts).mp houtcome
    exact ⟨items, hitems, hnone items hitems, htexts⟩
  · intro items hitems hlast
    unfold outcome
    rw [outcome_decode_texts, parse_of_splits hitems, if_pos hlast]
    rfl
  · unfold outcome
    rw [outcome_decode_texts]
    cases parse literal with
    | error fault => exact .inr ⟨fault, rfl⟩
    | ok items => exact .inl ⟨items, rfl⟩

end Texts

/-! ### Items of each kind -/

namespace ListText

theorem padded_self (written : List Char) :
  Padded written written
  := ⟨[], [], nofun, nofun, by simp⟩

theorem padded_spaces (written : List Char) :
  Padded (' ' :: (written ++ [' '])) written
  := by
  have hspace : Text.Blank [' '] := by simp [Text.Blank, Text.isBlank, Text.blanks]
  exact ⟨[' '], [' '], hspace, hspace, rfl⟩

/-- The nested list `[1, ']']`. -/
def nestedItem : Item :=
  ⟨"[1, ']']".toList, "[1, ']']".toList⟩

/-- The text `b"c` between quotes. -/
def quotedItem : Item :=
  ⟨"\"b\\\"c\"".toList, "b\"c".toList⟩

/-- The bare text `a b`. -/
def bareItem : Item :=
  ⟨"a b".toList, "a b".toList⟩

theorem formed_nestedItem :
  nestedItem.Formed
  := by
  have hquoted : Matched ['\'', ']', '\''] :=
    .quoted (.inr rfl) (.plain (by decide) (by decide) .nil) .nil
  apply @Item.Formed.nested ('1' :: ',' :: ' ' :: ['\'', ']', '\''])
  apply Matched.plain (by simp [IsQuote]) (by decide) (by decide)
  apply Matched.plain (by simp [IsQuote]) (by decide) (by decide)
  apply Matched.plain (by simp [IsQuote]) (by decide) (by decide) hquoted

theorem formed_quotedItem :
  quotedItem.Formed
  := by
  apply @Item.Formed.quoted '"' ('b' :: '\\' :: '"' :: ['c']) _ (.inl rfl)
  apply Escaped.plain (by decide) (by decide)
  apply Escaped.escape
  apply Escaped.plain (by decide) (by decide) .nil

theorem formed_bareItem :
  bareItem.Formed
  := by
  apply @Item.Formed.bare 'a' [' ', 'b']
  · decide
  · simp [IsQuote]
  · decide
  · decide

theorem splits_kinds :
  Splits "[[1, ']'], \"b\\\"c\" ,a b]".toList [nestedItem, quotedItem, bareItem]
  := by
  refine ⟨nestedItem.written ++ ',' :: (' ' :: (quotedItem.written ++ [' '])
    ++ ',' :: bareItem.written), by decide,
    .inr ⟨fun h => absurd (h '[' (by decide)) (by decide), ?_⟩⟩
  apply Listed.cons formed_nestedItem (padded_self _)
  apply Listed.cons formed_quotedItem (padded_spaces _)
  apply Listed.last formed_bareItem (padded_self _)

end ListText

open ListText in
/-- A list literal with an item of each kind is decoded, and refused with a comma after the last
of them. -/
theorem list_texts_exact_kinds :
  Splits "[[1, ']'], \"b\\\"c\" ,a b]".toList [nestedItem, quotedItem, bareItem]
    ∧ Splits "[a b,]".toList [bareItem, .missing]
    ∧ ∀ (program : Program) (written : Reference) (fuel : Nat) (store : Store),
      (program.decode (fuel + 2) (.list (.texts written))
            "[[1, ']'], \"b\\\"c\" ,a b]").outcome store
          = (.ok (.texts ["[1, ']']", "b\"c", "a b"]), store)
        ∧ (program.decode (fuel + 2) (.list (.texts written)) "[a b,]").outcome store
          = (.error (refusedLiteral (.list (.texts written)) "[a b,]"
            "expected an item after ','"), store)
  := by
  have hlast : Splits "[a b,]".toList [bareItem, .missing] := by
    refine ⟨bareItem.written ++ ',' :: [], by decide,
      .inr ⟨fun h => absurd (h 'a' (by decide)) (by decide), ?_⟩⟩
    apply Listed.cons formed_bareItem (padded_self _)
    apply Listed.last .missing (padded_self _)
  refine ⟨splits_kinds, hlast, fun program written fuel store => ⟨?_, ?_⟩⟩
  · apply ((list_texts_exact program written _ fuel store).1 _).mpr
    exact ⟨_, splits_kinds, by decide, by decide⟩
  · apply (list_texts_exact program written _ fuel store).2.2.1 _ hlast rfl

open ListText in
/-- An item that is missing between two commas is read as the empty text. -/
theorem missing_item_read :
  (¬∃ items, Splits "[a b,,a b]".toList items ∧ .missing ∉ items)
    ∧ ∀ (program : Program) (written : Reference) (fuel : Nat) (store : Store),
      (program.decode (fuel + 2) (.list (.texts written)) "[a b,,a b]").outcome store
        = (.ok (.texts ["a b", "", "a b"]), store)
  := by
  have hsplits : Splits "[a b,,a b]".toList [bareItem, .missing, bareItem] := by
    refine ⟨bareItem.written ++ ',' :: ([] ++ ',' :: bareItem.written), by decide,
      .inr ⟨fun h => absurd (h 'a' (by decide)) (by decide), ?_⟩⟩
    apply Listed.cons formed_bareItem (padded_self _)
    apply Listed.cons .missing (padded_self _)
    apply Listed.last formed_bareItem (padded_self _)
  constructor
  · rintro ⟨items, hitems, hmissing⟩
    obtain rfl := hitems.unique hsplits
    exact hmissing (by decide)
  · intro program written fuel store
    rw [outcome_decode_texts, parse_of_splits hsplits, if_neg (by decide)]
    rfl

end TypedModules
