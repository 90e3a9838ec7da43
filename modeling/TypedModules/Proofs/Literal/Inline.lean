import TypedModules.Proofs.Literal.Texts

/-!
# Lists inside lists

A list literal may stand as an item of another one.  The item is then read up to the bracket that
closes it, and that is the bracket at the end of the literal exactly if quotes and brackets match in
between: `lists_nest_inline`.  They do unless bare text has some of them (`unclosed_apostrophe`).
-/

namespace TypedModules

namespace ListText

open Text

/-! ### Literals that close -/

/-- Whether the brackets around a list literal are partners. -/
def Closed (literal : List Char) : Prop :=
  ∃ inner, Matched inner ∧ trim literal = bracketed inner

/-- Whether quotes and brackets are in an item only as its own: it is a list, or stands between
quotes, or there are none. -/
def Item.Delimited (item : Item) : Prop :=
  (∃ first, item.written.head? = some first ∧ (first = '[' ∨ IsQuote first))
    ∨ ∀ c ∈ item.written, ¬IsQuote c ∧ c ≠ '[' ∧ c ≠ ']'

theorem matched_of_plain {text : List Char}
    (h : ∀ c ∈ text, ¬IsQuote c ∧ c ≠ '[' ∧ c ≠ ']') :
  Matched text
  := by
  induction text with
  | nil => apply Matched.nil
  | cons c text ih =>
    obtain ⟨⟨hquote, hopening, hclosing⟩, hrest⟩ := List.forall_mem_cons.mp h
    apply Matched.plain hquote hopening hclosing (ih hrest)

theorem Matched.append {first second : List Char} (hfirst : Matched first)
    (hsecond : Matched second) :
  Matched (first ++ second)
  := by
  induction hfirst with
  | nil => exact hsecond
  | plain hquote hopening hclosing _ ih =>
    apply Matched.plain hquote hopening hclosing ih
  | quoted hquote hwritten _ ih =>
    rw [List.cons_append, List.append_assoc, List.cons_append]
    apply Matched.quoted hquote hwritten ih
  | nested hinner _ _ ih =>
    rw [List.cons_append, List.append_assoc, List.cons_append]
    apply Matched.nested hinner ih

theorem Blank.matched {blanks : List Char} (h : Blank blanks) :
  Matched blanks
  := by
  apply matched_of_plain
  intro c hc
  have hblank := h c hc
  refine ⟨?_, ?_, ?_⟩
  · intro hquote
    exact absurd hblank (by simp [hquote.not_blank])
  all_goals
    rintro rfl
    exact absurd hblank (by decide)

theorem Item.Formed.matched {item : Item} (h : item.Formed) (hdelimited : item.Delimited) :
  Matched item.written
  := by
  cases h with
  | missing => apply Matched.nil
  | nested hinner => apply Matched.nested hinner .nil
  | quoted hquote hwritten => apply Matched.quoted hquote hwritten .nil
  | bare hopening hquote =>
    rcases hdelimited with ⟨c, hfirst, hown⟩ | hplain
    · obtain rfl := Option.some.inj hfirst
      rcases hown with hown | hown
      · exact absurd hown hopening
      · exact absurd hown hquote
    · apply matched_of_plain hplain

theorem Padded.matched {written item : List Char} (h : Padded written item)
    (hitem : Matched item) :
  Matched written
  := by
  obtain ⟨before, after, hbefore, hafter, rfl⟩ := h
  apply (Blank.matched hbefore).append (hitem.append (Blank.matched hafter))

theorem Listed.matched {cs : List Char} {list : List Item} (h : Listed cs list)
    (hdelimited : ∀ item ∈ list, item.Delimited) :
  Matched cs
  := by
  induction h with
  | last hitem hpadded =>
    apply hpadded.matched (hitem.matched (hdelimited _ List.mem_cons_self))
  | cons hitem hpadded _ ih =>
    obtain ⟨hfirst, hothers⟩ := List.forall_mem_cons.mp hdelimited
    apply (hpadded.matched (hitem.matched hfirst)).append
    apply Matched.plain (by simp [IsQuote]) (by decide) (by decide) (ih hothers)

/-- A literal closes if quotes and brackets are in its items only as their own. -/
theorem Splits.closed {literal : List Char} {list : List Item} (h : Splits literal list)
    (hdelimited : ∀ item ∈ list, item.Delimited) :
  Closed literal
  := by
  obtain ⟨inner, htrim, ⟨hblank, -⟩ | ⟨-, hlist⟩⟩ := h
  · exact ⟨inner, Blank.matched hblank, htrim⟩
  · exact ⟨inner, hlist.matched hdelimited, htrim⟩

/-! ### Literals that go on behind a bracket -/

/-- What is written as items is scanned item by item. -/
theorem Listed.scan {cs : List Char} {list : List Item} (h : Listed cs list)
    (hvisible : ¬Blank cs) :
  ∃ item others left, list = item :: others
    ∧ ListText.item (skipBlanks cs) = .ok (item.text, left)
    ∧ (skipBlanks left = [] ∧ others = []
      ∨ ∃ rest, skipBlanks left = ',' :: rest ∧ Listed rest others)
  := by
  cases h with
  | @last _ item hitem hpadded =>
    have hne : item ≠ .missing := by
      rintro rfl
      exact hvisible hpadded.blank
    obtain ⟨left, hscan, hleft⟩ := scan_padded_last hitem hne hpadded
    exact ⟨_, [], left, rfl, hscan, .inl ⟨hleft, rfl⟩⟩
  | cons hitem hpadded hrest =>
    obtain ⟨left, hscan, hleft⟩ := scan_padded hitem hpadded _
    exact ⟨_, _, left, rfl, hscan, .inr ⟨_, hleft, hrest⟩⟩

theorem not_blank_of_mem {cs : List Char} {c : Char} (hc : c ∈ cs) (hblank : isBlank c = false) :
  ¬Blank cs
  := fun h => absurd (h c hc) (by simp [hblank])

theorem trimEnd_concat {last : Char} (h : isBlank last = false) (cs after : List Char) :
  trimEnd (cs ++ last :: after) = cs ++ last :: trimEnd after
  := by
  have hreverse : (cs ++ last :: after).reverse = after.reverse ++ last :: cs.reverse := by simp
  rw [trimEnd, hreverse, skipBlanks, List.dropWhile_append]
  split_ifs with hempty
  · rw [List.dropWhile_cons_of_neg (by simp [h]), trimEnd, skipBlanks, List.isEmpty_iff.mp hempty]
    simp
  · rw [trimEnd, skipBlanks]
    simp

/-- Behind a last item, a bracket is either not read or becomes part of it. -/
theorem Item.Formed.scan_bracket {item : Item} (h : item.Formed) (hne : item ≠ .missing)
    {blanks : List Char} (hblanks : Blank blanks) (after : List Char) :
  (∃ left, ListText.item (item.written ++ (blanks ++ ']' :: after)) = .ok (item.text, left)
      ∧ skipBlanks left = ']' :: after)
    ∨ ∃ text left, ListText.item (item.written ++ (blanks ++ ']' :: after)) = .ok (text, left)
      ∧ text ≠ item.text
  := by
  have hskip : skipBlanks (blanks ++ ']' :: after) = ']' :: after := by
    rw [skipBlanks_append hblanks, skipBlanks_cons (by decide)]
  cases h with
  | missing => exact absurd rfl hne
  | nested hinner => exact .inl ⟨_, item_bracketed hinner.balanced _, hskip⟩
  | @quoted quote written text hquote hwritten =>
    refine .inl ⟨_, ?_, hskip⟩
    have hquoted := hwritten.quoted hquote.ne_backslash (blanks ++ ']' :: after)
    rw [List.cons_append, List.append_assoc, List.singleton_append, ← hquoted]
    rcases hquote with rfl | rfl <;> rfl
  | @bare first rest hopening hquote hcomma =>
    refine .inr ⟨_, _, item_bare hopening hquote _, ?_⟩
    have hplain : ∀ c ∈ first :: rest ++ (blanks ++ [']']), (c != ',') = true := by
      intro c hc
      rw [bne_iff_ne]
      rintro rfl
      rw [List.mem_append, List.mem_append, List.mem_singleton] at hc
      rcases hc with hc | hc | hc
      · exact hcomma hc
      · exact not_mem_of_blank hblanks hc
      · cases hc
    have hsplit : first :: rest ++ (blanks ++ ']' :: after)
        = (first :: rest ++ (blanks ++ [']'])) ++ after := by simp
    have hagain : first :: rest ++ (blanks ++ [']']) ++ after.takeWhile (· != ',')
        = (first :: rest ++ blanks) ++ ']' :: after.takeWhile (· != ',') := by simp
    show trimEnd ((first :: rest ++ (blanks ++ ']' :: after)).takeWhile (· != ',')) ≠ first :: rest
    rw [hsplit, List.takeWhile_append_of_pos hplain, hagain, trimEnd_concat (by decide)]
    intro e
    have hlength := congrArg List.length e
    simp at hlength

/-- Items with a bracket behind them are not read as the same texts. -/
theorem Listed.texts_ne {cs after : List Char} {list others : List Item} (h : Listed cs list)
    (hlast : list.getLast? ≠ some .missing) (hothers : Listed (cs ++ ']' :: after) others) :
  list.map Item.text ≠ others.map Item.text
  := by
  induction h generalizing others with
  | @last written item hitem hpadded =>
    have hne : item ≠ .missing := by
      rintro rfl
      exact hlast rfl
    have hvisible := @not_blank_of_mem (written ++ ']' :: after) ']' (by simp) (by decide)
    obtain ⟨other, more, left, rfl, hscan, hleft⟩ := hothers.scan hvisible
    obtain ⟨before, blanks, hbefore, hblanks, rfl⟩ := hpadded
    obtain ⟨first, rest, hfirst, hblank, -⟩ := hitem.visible hne
    have hskip : skipBlanks (before ++ (item.written ++ blanks) ++ ']' :: after)
        = item.written ++ (blanks ++ ']' :: after) := by
      rw [List.append_assoc, skipBlanks_append hbefore, List.append_assoc, hfirst,
        List.cons_append, skipBlanks_cons hblank]
    rw [hskip] at hscan
    rcases hitem.scan_bracket hne hblanks after with
      ⟨left', hscan', hleft'⟩ | ⟨text, left', hscan', htext⟩
    · rw [hscan'] at hscan
      obtain ⟨-, rfl⟩ := Prod.mk.inj (Except.ok.inj hscan)
      rw [hleft'] at hleft
      rcases hleft with ⟨hend, -⟩ | ⟨rest, hcomma, -⟩
      · cases hend
      · cases List.head_eq_of_cons_eq hcomma
    · rw [hscan'] at hscan
      obtain ⟨rfl, -⟩ := Prod.mk.inj (Except.ok.inj hscan)
      intro e
      exact htext (List.head_eq_of_cons_eq e).symm
  | @cons written rest item list hitem hpadded hrest ih =>
    have hlast' : list.getLast? ≠ some .missing := by
      cases hrest <;> exact hlast
    rw [List.append_assoc, List.cons_append] at hothers
    have hvisible := @not_blank_of_mem (written ++ ',' :: (rest ++ ']' :: after)) ',' (by simp)
      (by decide)
    obtain ⟨other, more, left, rfl, hscan, hleft⟩ := hothers.scan hvisible
    obtain ⟨left', hscan', hleft'⟩ := scan_padded hitem hpadded (rest ++ ']' :: after)
    rw [hscan'] at hscan
    obtain ⟨-, rfl⟩ := Prod.mk.inj (Except.ok.inj hscan)
    rw [hleft'] at hleft
    rcases hleft with ⟨hend, -⟩ | ⟨rest', hcomma, hmore⟩
    · cases hend
    · obtain rfl := List.tail_eq_of_cons_eq hcomma
      intro e
      exact ih hlast' hmore (List.tail_eq_of_cons_eq e)

/-- A literal is not read as the same texts as one in which there is more behind its last
bracket. -/
theorem parse_ne {inner after : List Char} {texts others : List String}
    (h : parse (.ofList (bracketed inner)) = .ok texts)
    (hothers : parse (.ofList (bracketed (inner ++ ']' :: after))) = .ok others) :
  texts ≠ others
  := by
  have htrim : ∀ cs, trim (bracketed cs) = bracketed cs :=
    fun cs => trim_of_ends (by decide) (by decide) cs
  have hinner : ∀ {cs cs' : List Char}, trim (String.ofList (bracketed cs)).toList = bracketed cs' →
      cs = cs' := by
    intro cs cs' e
    rw [String.toList_ofList, htrim] at e
    exact List.append_cancel_right (List.tail_eq_of_cons_eq e)
  obtain ⟨list, ⟨cs, hcs, hlist⟩, hlast, rfl⟩ := splits_of_parse h
  obtain ⟨list', ⟨cs', hcs', hlist'⟩, -, rfl⟩ := splits_of_parse hothers
  obtain rfl := hinner hcs
  obtain rfl := hinner hcs'
  have hvisible := @not_blank_of_mem (inner ++ ']' :: after) ']' (by simp) (by decide)
  rcases hlist' with ⟨hblank, -⟩ | ⟨-, hlist'⟩
  · exact absurd hblank hvisible
  · rcases hlist with ⟨-, rfl⟩ | ⟨-, hlist⟩
    · obtain ⟨item, others, -, rfl, -⟩ := hlist'.scan hvisible
      nofun
    · intro e
      apply hlist.texts_ne hlast hlist'
      have hmeaning : Item.meaning = String.ofList ∘ Item.text := rfl
      rw [hmeaning, ← List.map_map, ← List.map_map] at e
      exact List.map_injective_iff.mpr (fun _ _ => String.ofList_inj.mp) e

/-! ### Literals between commas -/

/-- List literals as the items of a list literal. -/
def inlineList (literals : List String) : String :=
  "[" ++ ", ".intercalate literals ++ "]"

theorem toList_inlineList (literals : List String) :
  (inlineList literals).toList = bracketed (joined (literals.map String.toList))
  := by
  simp [inlineList, String.toList_intercalate, bracketed, joined]

/-- What stands between the blanks around a literal. -/
def trimmed (literal : String) : List Char :=
  trim literal.toList

theorem padded_trimmed (literal : String) :
  Padded literal.toList (trimmed literal)
  := exists_trim literal.toList

/-- Blanks around a literal do not count. -/
theorem parse_trimmed (literal : String) :
  parse (.ofList (trimmed literal)) = parse literal
  := by
  obtain ⟨before, after, hbefore, hafter, hsplit⟩ := padded_trimmed literal
  have htrim : trim (trimmed literal) = trim literal.toList := by
    rw [hsplit, trim_padded hbefore hafter]
  rw [parse, parse, inside, inside, String.toList_ofList, htrim]

/-- What is read as a list literal stands between brackets. -/
theorem exists_bracketed {literal : String} {texts : List String}
    (h : parse literal = .ok texts) :
  ∃ inner, trimmed literal = bracketed inner
  := by
  obtain ⟨list, ⟨inner, hinner, -⟩, -⟩ := splits_of_parse h
  exact ⟨inner, hinner⟩

theorem Listed.prepend {cs blanks : List Char} {list : List Item} (h : Listed cs list)
    (hblanks : Blank blanks) :
  Listed (blanks ++ cs) list
  := by
  cases h with
  | last hitem hpadded =>
    obtain ⟨before, after, hbefore, hafter, rfl⟩ := hpadded
    apply Listed.last hitem ⟨blanks ++ before, after, hblanks.append hbefore, hafter, by simp⟩
  | cons hitem hpadded hrest =>
    obtain ⟨before, after, hbefore, hafter, rfl⟩ := hpadded
    rw [← List.append_assoc]
    apply Listed.cons hitem ⟨blanks ++ before, after, hblanks.append hbefore, hafter, by simp⟩ hrest

theorem blank_space :
  Blank [' ']
  := by
  simp [Blank, isBlank, blanks]

/-- A literal that closes, as an item. -/
def inlineItem (literal : String) : Item :=
  ⟨trimmed literal, trimmed literal⟩

theorem Closed.formed {literal : String} (h : Closed literal.toList) :
  (inlineItem literal).Formed
  := by
  obtain ⟨inner, hinner, htrim⟩ := h
  rw [inlineItem, trimmed, htrim]
  apply Item.Formed.nested hinner

theorem Closed.ne_missing {literal : String} (h : Closed literal.toList) :
  inlineItem literal ≠ .missing
  := by
  obtain ⟨inner, -, htrim⟩ := h
  rw [inlineItem, trimmed, htrim]
  nofun

/-- Literals that close are items of a list literal. -/
theorem listed_joined {first : String} {literals : List String}
    (h : ∀ literal ∈ first :: literals, Closed literal.toList) :
  Listed (joined ((first :: literals).map String.toList)) ((first :: literals).map inlineItem)
  := by
  induction literals generalizing first with
  | nil =>
    rw [List.map_singleton, joined_singleton]
    apply Listed.last (h first List.mem_cons_self).formed (padded_trimmed first)
  | cons second rest ih =>
    obtain ⟨hfirst, hrest⟩ := List.forall_mem_cons.mp h
    rw [List.map_cons, List.map_cons, joined_cons_cons, ← List.map_cons]
    apply Listed.cons hfirst.formed (padded_trimmed first)
    apply (ih hrest).prepend blank_space

theorem mem_joined {first : List Char} {c : Char} (h : c ∈ first) (rest : List (List Char)) :
  c ∈ joined (first :: rest)
  := by
  cases rest with
  | nil => rwa [joined_singleton]
  | cons second rest =>
    rw [joined_cons_cons]
    apply List.mem_append_left _ h

theorem Closed.opening {literal : String} (h : Closed literal.toList) :
  '[' ∈ literal.toList
  := by
  obtain ⟨inner, -, htrim⟩ := h
  obtain ⟨before, after, -, -, hsplit⟩ := exists_trim literal.toList
  rw [hsplit, htrim]
  simp [bracketed]

theorem splits_inlineList {literals : List String}
    (h : ∀ literal ∈ literals, Closed literal.toList) :
  Splits (inlineList literals).toList (literals.map inlineItem)
  := by
  refine ⟨joined (literals.map String.toList), ?_, ?_⟩
  · rw [toList_inlineList, bracketed, trim_of_ends (by decide) (by decide)]
  · cases literals with
    | nil => exact .inl ⟨List.forall_mem_nil _, rfl⟩
    | cons first rest =>
      have hopening := mem_joined (h first List.mem_cons_self).opening (rest.map String.toList)
      exact .inr ⟨not_blank_of_mem hopening (by decide), listed_joined h⟩

/-- Literals that close are read back, without the blanks around them. -/
theorem parse_inlineList {literals : List String}
    (h : ∀ literal ∈ literals, Closed literal.toList) :
  parse (inlineList literals) = .ok (literals.map fun literal => .ofList (trimmed literal))
  := by
  have hlast : (literals.map inlineItem).getLast? ≠ some .missing := by
    intro e
    obtain ⟨literal, hliteral, hmissing⟩ := List.mem_map.mp (List.mem_of_getLast? e)
    exact (h literal hliteral).ne_missing hmissing
  rw [parse_of_splits (splits_inlineList h), if_neg hlast, List.map_map]
  rfl

/-- Whether two literals are read as the same texts. -/
def Alike (literal : String) (item : Item) : Prop :=
  ∃ texts, parse literal = .ok texts ∧ parse item.meaning = .ok texts

theorem bracketed_append {inner other more : List Char}
    (h : bracketed other = bracketed inner ++ more) :
  more = [] ∨ ∃ after, other = inner ++ ']' :: after
  := by
  rcases List.eq_nil_or_concat more with rfl | ⟨after, last, rfl⟩
  · exact .inl rfl
  · have happend : bracketed inner ++ (after ++ [last])
        = '[' :: (inner ++ ']' :: after ++ [last]) := by
      simp [bracketed]
    rw [bracketed, List.concat_eq_append, happend] at h
    exact .inr ⟨after, (List.append_inj' (List.tail_eq_of_cons_eq h) rfl).1⟩

/-- Two literals that start a text and are read as the same texts are the same. -/
theorem eq_of_parse {inner other after after' : List Char} {texts : List String}
    (h : parse (.ofList (bracketed inner)) = .ok texts)
    (hother : parse (.ofList (bracketed other)) = .ok texts)
    (happend : bracketed inner ++ after = bracketed other ++ after') :
  inner = other ∧ after = after'
  := by
  rcases List.append_eq_append_iff.mp happend with ⟨more, hmore, hafter⟩ | ⟨more, hmore, hafter⟩
  · rcases bracketed_append hmore with rfl | ⟨behind, rfl⟩
    · rw [List.append_nil] at hmore
      exact ⟨List.append_cancel_right (List.tail_eq_of_cons_eq hmore.symm), hafter⟩
    · exact absurd rfl (parse_ne h hother)
  · rcases bracketed_append hmore with rfl | ⟨behind, rfl⟩
    · rw [List.append_nil] at hmore
      exact ⟨List.append_cancel_right (List.tail_eq_of_cons_eq hmore), hafter.symm⟩
    · exact absurd rfl (parse_ne hother h)

/-- A literal closes if what is found where it starts is read as the same texts. -/
theorem Alike.closed {literal : String} {item : Item} (h : Alike literal item)
    {after left : List Char}
    (hscan : ListText.item (trimmed literal ++ after) = .ok (item.text, left)) :
  Closed literal.toList ∧ left = after
  := by
  obtain ⟨texts, hliteral, hitem⟩ := h
  obtain ⟨inner, hinner⟩ := exists_bracketed hliteral
  rw [hinner] at hscan
  obtain ⟨other, hother, htext, hsplit⟩ := matched_of_nested hscan
  rw [← parse_trimmed, hinner] at hliteral
  rw [Item.meaning, htext] at hitem
  rw [htext] at hsplit
  obtain ⟨rfl, hafter⟩ := eq_of_parse hliteral hitem hsplit
  exact ⟨⟨inner, hother, hinner⟩, hafter.symm⟩

/-- A literal that starts a text closes if the first item of the text is read as the same texts,
and the other items stand behind it. -/
theorem Alike.closed_of_listed {literal : String} {item : Item} (h : Alike literal item)
    {blanks after : List Char} {others : List Item} (hblanks : Blank blanks)
    (hlist : Listed (blanks ++ (literal.toList ++ after)) (item :: others)) :
  Closed literal.toList
    ∧ (skipBlanks after = [] ∧ others = []
      ∨ ∃ rest, skipBlanks after = ',' :: rest ∧ Listed rest others)
  := by
  obtain ⟨before, behind, hbefore, hbehind, hsplit⟩ := padded_trimmed literal
  obtain ⟨inner, hinner⟩ := exists_bracketed h.choose_spec.1
  have hopening : '[' ∈ blanks ++ (literal.toList ++ after) := by
    rw [hsplit, hinner]
    simp [bracketed]
  obtain ⟨_, _, left, e, hscan, hleft⟩ := hlist.scan (not_blank_of_mem hopening (by decide))
  cases e
  have hskip : skipBlanks (blanks ++ (literal.toList ++ after))
      = trimmed literal ++ (behind ++ after) := by
    rw [skipBlanks_append hblanks, hsplit, List.append_assoc, skipBlanks_append hbefore, hinner,
      List.append_assoc, bracketed, List.cons_append, skipBlanks_cons (by decide)]
  rw [hskip] at hscan
  obtain ⟨hclosed, rfl⟩ := h.closed hscan
  rw [skipBlanks_append hbehind] at hleft
  exact ⟨hclosed, hleft⟩

/-- If literals are read back as the items of a list literal, they close. -/
theorem closed_of_listed {first : String} {literals : List String} {list : List Item}
    {blanks : List Char} (hblanks : Blank blanks)
    (hlist : Listed (blanks ++ joined ((first :: literals).map String.toList)) list)
    (halike : List.Forall₂ Alike (first :: literals) list) :
  ∀ literal ∈ first :: literals, Closed literal.toList
  := by
  induction literals generalizing first list blanks with
  | nil =>
    obtain ⟨item, others, hfirst, -, rfl⟩ := List.forall₂_cons_left_iff.mp halike
    rw [List.map_singleton, joined_singleton, ← List.append_nil first.toList] at hlist
    rw [List.forall_mem_singleton]
    exact (hfirst.closed_of_listed hblanks hlist).1
  | cons second rest ih =>
    obtain ⟨item, others, hfirst, hrest, rfl⟩ := List.forall₂_cons_left_iff.mp halike
    rw [List.map_cons, List.map_cons, joined_cons_cons, ← List.map_cons] at hlist
    obtain ⟨hclosed, hothers⟩ := hfirst.closed_of_listed hblanks hlist
    rw [skipBlanks_cons (by decide)] at hothers
    rcases hothers with ⟨hend, -⟩ | ⟨behind, hcomma, hothers⟩
    · cases hend
    · obtain rfl := List.tail_eq_of_cons_eq hcomma
      rw [List.forall_mem_cons]
      exact ⟨hclosed, ih blank_space hothers hrest⟩

/-- Literals of lists are read back from a list literal, as the same texts, exactly if they
close. -/
theorem parse_inlineList_iff {literals : List String}
    (h : ∀ literal ∈ literals, ∃ texts, parse literal = .ok texts) :
  (∃ items, parse (inlineList literals) = .ok items
      ∧ List.Forall₂ (fun literal item => parse item = parse literal) literals items)
    ↔ ∀ literal ∈ literals, Closed literal.toList
  := by
  constructor
  · rintro ⟨_, hparse, hitems⟩
    obtain ⟨list, ⟨inner, hinner, hlist⟩, -, rfl⟩ := splits_of_parse hparse
    cases literals with
    | nil => apply List.forall_mem_nil
    | cons first rest =>
      rw [toList_inlineList, bracketed, trim_of_ends (by decide) (by decide)] at hinner
      obtain rfl := List.append_cancel_right (List.tail_eq_of_cons_eq hinner)
      rw [List.forall₂_map_right_iff] at hitems
      have halike : List.Forall₂ Alike (first :: rest) list := by
        apply related_of_mem hitems
        intro literal hliteral item hitem
        obtain ⟨texts, htexts⟩ := h literal hliteral
        exact ⟨texts, htexts, hitem.trans htexts⟩
      rcases hlist with ⟨-, rfl⟩ | ⟨-, hlist⟩
      · cases hitems
      · apply @closed_of_listed first rest list [] (List.forall_mem_nil _) hlist halike
  · intro hclosed
    refine ⟨_, parse_inlineList hclosed, ?_⟩
    rw [List.forall₂_map_right_iff, List.forall₂_same]
    intro literal _
    apply parse_trimmed

end ListText

/-! ### Decoding -/

/-- Whether a program decodes a literal to a value, with so much fuel and from a store, which it
leaves as it is. -/
def Program.Decodes (program : Program) (fuel : Nat) (store : Store) (type : Ty)
    (literal : String) (value : Value) : Prop :=
  (program.decode fuel type literal).outcome store = (.ok value, store)

/-- Where each run leaves the store as it is, a list of runs is the runs one by one. -/
theorem outcome_mapM_iff {α β : Type} {run : α → Eval β} {items : List α} {store : Store}
    (h : ∀ item ∈ items, ((run item).outcome store).2 = store) {values : List β} :
  (items.mapM run).outcome store = (.ok values, store)
    ↔ List.Forall₂ (fun item value => (run item).outcome store = (.ok value, store)) items values
  := by
  induction items generalizing values with
  | nil =>
    rw [List.mapM_nil, List.forall₂_nil_left_iff]
    show (Except.ok [], store) = _ ↔ _
    simp [eq_comm]
  | cons item rest ih =>
    obtain ⟨hfirst, hrest⟩ := List.forall_mem_cons.mp h
    rw [List.mapM_cons, Discipline.outcome_bind, List.forall₂_cons_left_iff]
    simp only [← ih hrest]
    generalize (run item).outcome store = first at hfirst
    rcases first with ⟨halt | value, after⟩
    · simp
    · obtain rfl : after = store := hfirst
      dsimp only
      rw [Discipline.outcome_bind]
      rcases (rest.mapM run).outcome after with ⟨halt | others, last⟩
      · simp
      · show (Except.ok (value :: others), last) = _ ↔ _
        constructor
        · intro e
          obtain ⟨e', rfl⟩ := Prod.mk.inj e
          exact ⟨value, others, rfl, rfl, (Except.ok.inj e').symm⟩
        · rintro ⟨_, _, e, e', rfl⟩
          cases e
          cases e'
          rfl

theorem outcome_list_iff {run : Eval (List Value)} {store after : Store} {values : List Value} :
  (do return Value.list (← run) : Eval Value).outcome store = (.ok (.list values), after)
    ↔ run.outcome store = (.ok values, after)
  := by
  rw [Discipline.outcome_bind]
  rcases run.outcome store with ⟨halt | others, last⟩
  · simp
  · show (Except.ok (Value.list others), last) = _ ↔ _
    simp

section Lists

variable (program : Program) (written : Reference) (fuel : Nat) (store : Store)

theorem decodes_texts_iff {literal : String} {value : Value} :
  program.Decodes (fuel + 2) store (.list (.texts written)) literal value
    ↔ ∃ texts, ListText.parse literal = .ok texts ∧ value = .texts texts
  := by
  rw [Program.Decodes, outcome_decode_texts]
  cases ListText.parse literal with
  | error fault => simp
  | ok texts => simp [eq_comm]

theorem decodes_lists_iff {literal : String} {values : List Value} :
  program.Decodes (fuel + 3) store (.list (.list (.texts written))) literal (.list values)
    ↔ ∃ items, ListText.parse literal = .ok items
      ∧ List.Forall₂ (program.Decodes (fuel + 2) store (.list (.texts written))) items values
  := by
  have hkeeps : ∀ item, ((program.decode (fuel + 2) (.list (.texts written)) item).outcome store).2
      = store := by
    intro item
    rw [outcome_decode_texts]
    split <;> rfl
  rw [Program.Decodes, program.decode_succ, decode]
  cases ListText.parse literal with
  | error fault =>
    show (Except.error (Halt.error _), store) = _ ↔ _
    simp
  | ok items =>
    simp only [Except.ok.injEq, exists_eq_left']
    apply outcome_list_iff.trans
    apply outcome_mapM_iff fun item _ => hkeeps item

open ListText in
/-- A list literal whose items are literals of lists, as they stand, is decoded to what these are
decoded to exactly if each of them closes.  They do if quotes and brackets are in their items only
as their own. -/
theorem lists_nest_inline {literals : List String} {values : List Value}
    (h : List.Forall₂ (program.Decodes (fuel + 2) store (.list (.texts written))) literals values) :
  (program.Decodes (fuel + 3) store (.list (.list (.texts written))) (inlineList literals)
        (.list values)
      ↔ ∀ literal ∈ literals, Closed literal.toList)
    ∧ ((∀ literal ∈ literals, ∃ items, Splits literal.toList items
        ∧ ∀ item ∈ items, item.Delimited) →
      program.Decodes (fuel + 3) store (.list (.list (.texts written))) (inlineList literals)
        (.list values))
  := by
  have hliterals : ∀ literal ∈ literals, ∃ texts, parse literal = .ok texts := by
    intro literal hliteral
    obtain ⟨value, -, hvalue⟩ := exists_related_right h hliteral
    obtain ⟨texts, htexts, -⟩ := (decodes_texts_iff ..).mp hvalue
    exact ⟨texts, htexts⟩
  have hiff : program.Decodes (fuel + 3) store (.list (.list (.texts written)))
      (inlineList literals) (.list values) ↔ ∀ literal ∈ literals, Closed literal.toList := by
    rw [decodes_lists_iff, ← parse_inlineList_iff hliterals]
    apply exists_congr
    intro items
    apply and_congr_right
    intro _
    constructor
    · intro hitems
      apply related_trans h hitems.flip
      intro literal value item _ hliteral hitem
      obtain ⟨texts, htexts, rfl⟩ := (decodes_texts_iff ..).mp hliteral
      obtain ⟨others, hothers, e⟩ := (decodes_texts_iff ..).mp hitem
      rw [hothers, htexts, Value.texts_injective e]
    · intro hitems
      apply related_trans hitems.flip h
      intro item literal value _ hitem hliteral
      obtain ⟨texts, htexts, rfl⟩ := (decodes_texts_iff ..).mp hliteral
      apply (decodes_texts_iff ..).mpr ⟨texts, hitem.trans htexts, rfl⟩
  refine ⟨hiff, fun hdelimited => hiff.mpr ?_⟩
  intro literal hliteral
  obtain ⟨items, hitems, hown⟩ := hdelimited literal hliteral
  apply hitems.closed hown

end Lists

theorem ListText.delimited_bareItem :
  bareItem.Delimited
  := by
  apply Or.inr
  simp [bareItem, IsQuote]

open ListText in
/-- A list with an item of each kind and a list of bare text are decoded as items. -/
theorem lists_nest_inline_kinds :
  inlineList ["[[1, ']'], \"b\\\"c\" ,a b]", "[a b]"]
      = "[[[1, ']'], \"b\\\"c\" ,a b], [a b]]"
    ∧ ∀ (program : Program) (written : Reference) (fuel : Nat) (store : Store),
      program.Decodes (fuel + 2) store (.list (.texts written)) "[[1, ']'], \"b\\\"c\" ,a b]"
          (.texts ["[1, ']']", "b\"c", "a b"])
        ∧ program.Decodes (fuel + 2) store (.list (.texts written)) "[a b]" (.texts ["a b"])
        ∧ program.Decodes (fuel + 3) store (.list (.list (.texts written)))
          "[[[1, ']'], \"b\\\"c\" ,a b], [a b]]"
          (.list [.texts ["[1, ']']", "b\"c", "a b"], .texts ["a b"]])
  := by
  refine ⟨by decide, fun program written fuel store => ?_⟩
  have hfirst : program.Decodes (fuel + 2) store (.list (.texts written))
      "[[1, ']'], \"b\\\"c\" ,a b]" (.texts ["[1, ']']", "b\"c", "a b"]) :=
    (decodes_texts_iff ..).mpr ⟨_, parse_eq_ok.mpr ⟨_, splits_kinds, by decide, by decide⟩, rfl⟩
  have hsecond : program.Decodes (fuel + 2) store (.list (.texts written)) "[a b]"
      (.texts ["a b"]) :=
    (decodes_texts_iff ..).mpr ⟨["a b"], by decide, rfl⟩
  refine ⟨hfirst, hsecond, ?_⟩
  apply (lists_nest_inline program written fuel store (.cons hfirst (.cons hsecond .nil))).2
  rw [List.forall_mem_cons, List.forall_mem_singleton]
  refine ⟨⟨_, splits_kinds, ?_⟩, ⟨[bareItem], ?_, ?_⟩⟩
  · rw [List.forall_mem_cons, List.forall_mem_cons, List.forall_mem_singleton]
    refine ⟨.inl ⟨'[', by decide, .inl rfl⟩, .inl ⟨'"', by decide, .inr (.inl rfl)⟩, ?_⟩
    apply delimited_bareItem
  · refine ⟨_, by decide, .inr ⟨?_, .last formed_bareItem (padded_self _)⟩⟩
    apply @not_blank_of_mem bareItem.written 'a' (by decide) (by decide)
  · rw [List.forall_mem_singleton]
    apply delimited_bareItem

/-- Bare text may have an apostrophe in a list, but not in a list that is an item. -/
theorem unclosed_apostrophe :
  ¬ListText.Closed "[it's]".toList
    ∧ ∀ (program : Program) (written : Reference) (fuel : Nat) (store : Store),
      program.Decodes (fuel + 2) store (.list (.texts written)) "[it's]" (.texts ["it's"])
        ∧ (program.decode (fuel + 3) (.list (.list (.texts written))) "[[it's]]").outcome store
          = (.error (refusedLiteral (.list (.list (.texts written))) "[[it's]]"
              "unbalanced '[' in list literal"), store)
  := by
  have hparse : ListText.parse "[[it's]]" = .error .unbalanced := by decide +kernel
  have hsingle : ∀ (program : Program) (written : Reference) (fuel : Nat) (store : Store),
      program.Decodes (fuel + 2) store (.list (.texts written)) "[it's]" (.texts ["it's"]) :=
    fun program written fuel store => (decodes_texts_iff ..).mpr ⟨["it's"], by decide, rfl⟩
  constructor
  · intro hclosed
    have hread := @ListText.parse_inlineList ["[it's]"] (List.forall_mem_singleton.mpr hclosed)
    have hinline : ListText.inlineList ["[it's]"] = "[[it's]]" := rfl
    rw [hinline, hparse] at hread
    cases hread
  · intro program written fuel store
    refine ⟨hsingle program written fuel store, ?_⟩
    rw [program.decode_succ, decode, hparse]
    rfl

end TypedModules
