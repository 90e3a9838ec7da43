import TypedModules.Name.Reference

/-!
# Ids and their texts

The text of an id is its segments with dots between them, and reading a text cuts it at every dot.
Whatever is read from a text is displayed as that text.  The converse asks that no segment holds a
dot, which those that are read never do, but which `EntityId.ofSegments` does not require of the
segments it is given: what their text is read as is the id whose segments are cut at their own dots
as well (`segments_exact`).  Two ids may then have one text (`dotted_segment`).
-/

namespace TypedModules

/-! ### Cutting and joining -/

namespace Text

variable {sep : Char}

theorem splitChars_eq_splitOn (cs : List Char) :
  splitChars sep cs = cs.splitOn sep
  := by
  induction cs with
  | nil => rfl
  | cons c rest ih =>
    rw [List.splitOn_cons_eq_if_modifyHead, ← ih, splitChars]
    simp only [beq_iff_eq]
    split
    · rfl
    · obtain ⟨first, others, h⟩ := List.exists_cons_of_ne_nil (splitChars_ne_nil sep rest)
      rw [h]
      rfl

theorem split_eq_splitOn (text : String) :
  split sep text = (text.toList.splitOn sep).map String.ofList
  := by
  rw [split, splitChars_eq_splitOn]

/-- No segment holds the separator. -/
theorem not_mem_of_mem_splitChars {cs segment : List Char} (h : segment ∈ splitChars sep cs) :
  sep ∉ segment
  := by
  induction cs generalizing segment with
  | nil => simp_all [splitChars]
  | cons c rest ih =>
    rw [splitChars] at h
    split at h
    next =>
      obtain rfl | h := List.mem_cons.mp h
      · exact List.not_mem_nil
      · exact ih h
    next hc =>
      obtain ⟨first, others, hrest⟩ := List.exists_cons_of_ne_nil (splitChars_ne_nil sep rest)
      simp only [hrest, List.mem_cons] at h ih
      obtain rfl | h := h
      · simp [ih (.inl rfl), Ne.symm hc]
      · exact ih (.inr h)

theorem not_mem_of_mem_split {text segment : String} (h : segment ∈ split sep text) :
  sep ∉ segment.toList
  := by
  obtain ⟨cs, hcs, rfl⟩ := List.mem_map.mp h
  rw [String.toList_ofList]
  exact not_mem_of_mem_splitChars hcs

/-- A text without the separator is its own only segment. -/
theorem split_of_not_mem {text : String} (h : sep ∉ text.toList) :
  split sep text = [text]
  := by
  simp [split, splitChars_of_not_mem h]

/-- Joining undoes cutting. -/
theorem join_split (text : String) :
  join (String.ofList [sep]) (split sep text) = text
  := by
  rw [← String.toList_inj, join, String.toList_intercalate, String.toList_ofList,
    split_eq_splitOn, List.map_map]
  simp [Function.comp_def]

/-- Segments that are joined and cut are cut one by one. -/
theorem split_join {segments : List String} (h : segments ≠ []) :
  split sep (join (String.ofList [sep]) segments) = segments.flatMap (split sep)
  := by
  induction segments with
  | nil => exact absurd rfl h
  | cons first rest ih =>
    cases rest with
    | nil => simp [join]
    | cons second others =>
      have hjoin : (join (String.ofList [sep]) (first :: second :: others)).toList
          = first.toList ++ sep :: (join (String.ofList [sep]) (second :: others)).toList := by
        simp [join, String.intercalate_cons_cons]
      rw [List.flatMap_cons, ← ih (List.cons_ne_nil _ _), split_eq_splitOn, hjoin,
        List.splitOn_append_cons_self, List.map_append, ← split_eq_splitOn, ← split_eq_splitOn]

/-- Segments are what their joined text is cut into if and only if none holds the separator. -/
theorem flatMap_split_eq_self {segments : List String} :
  segments.flatMap (split sep) = segments ↔ ∀ segment ∈ segments, sep ∉ segment.toList
  := by
  constructor
  · intro h segment hsegment
    rw [← h] at hsegment
    obtain ⟨_, -, hsegment⟩ := List.mem_flatMap.mp hsegment
    exact not_mem_of_mem_split hsegment
  · intro h
    rw [List.flatMap_def,
      List.map_congr_left fun segment hsegment => split_of_not_mem (h segment hsegment),
      ← List.flatMap_def, List.flatMap_singleton']

end Text

/-! ### Ids -/

namespace EntityId

theorem ofSegments_eq_ok {segments : List String} {id : EntityId} :
  EntityId.ofSegments segments = .ok id
    ↔ id.segments = segments ∧ segments ≠ [] ∧ ∀ segment ∈ segments, segment ≠ ""
  := by
  have hinvalid : (segments.isEmpty || segments.any String.isEmpty) = false
      ↔ segments ≠ [] ∧ ∀ segment ∈ segments, segment ≠ "" := by
    simp [List.any_eq_false]
  obtain ⟨own⟩ := id
  rw [← hinvalid, EntityId.ofSegments, ofSegments?]
  cases segments.isEmpty || segments.any String.isEmpty with
  | true => simp
  | false => simp [eq_comm]

/-- The text of an id is read as the id whose segments are cut at their own dots as well. -/
theorem parse_text {id : EntityId} (h : id.segments ≠ []) :
  EntityId.parse id.text = EntityId.ofSegments (id.segments.flatMap (Text.split '.'))
  := by
  rw [EntityId.parse, text]
  exact congrArg EntityId.ofSegments (Text.split_join h)

theorem parse_text_eq_ok {segments : List String} {id : EntityId}
    (h : EntityId.ofSegments segments = .ok id) :
  EntityId.parse id.text = .ok id ↔ ∀ segment ∈ segments, '.' ∉ segment.toList
  := by
  obtain ⟨rfl, hne, hsegments⟩ := ofSegments_eq_ok.mp h
  rw [parse_text hne, ofSegments_eq_ok, ← Text.flatMap_split_eq_self]
  constructor
  · exact fun h => h.1.symm
  · intro h
    rw [h]
    exact ⟨rfl, hne, hsegments⟩

/-- What is read from a text is displayed as it. -/
theorem text_of_parse {dotted : String} {id : EntityId} (h : EntityId.parse dotted = .ok id) :
  id.text = dotted
  := by
  rw [text, (ofSegments_eq_ok.mp h).1]
  exact Text.join_split dotted

theorem exists_parent {id : EntityId} (h : 2 ≤ id.segments.length) :
  ∃ parent, id.parent? = some parent
  := by
  rw [parent?]
  split
  next hnil =>
    have := congrArg List.length hnil
    simp only [List.length_dropLast, List.length_nil] at this
    omega
  next => exact ⟨_, rfl⟩

/-- Taking the last segment as a child of the parent gives the id again. -/
theorem child_parent? {id parent : EntityId} (h : id.parent? = some parent) :
  parent.child id.last = id
  := by
  obtain ⟨segments⟩ := id
  have hne : segments ≠ [] := by
    rintro rfl
    cases h
  simp only [parent?] at h
  split at h
  next => cases h
  next =>
    cases h
    simpa [child, last, List.getLastD_eq_getLast?, List.getLast?_eq_some_getLast hne]
      using List.dropLast_concat_getLast hne

end EntityId

/-- The text of an accepted id is read as the id whose segments are cut at their own dots as well,
which is the same id if and only if no segment holds a dot; ids without such segments are told
apart by their texts.  What is read from a text is such an id, is displayed as that text, and is
the parent of each of its children and, if it has two segments, the last child of its parent. -/
theorem segments_exact {segments : List String} {id : EntityId}
    (h : EntityId.ofSegments segments = .ok id) :
  EntityId.parse id.text = EntityId.ofSegments (segments.flatMap (Text.split '.'))
    ∧ (EntityId.parse id.text = .ok id ↔ ∀ segment ∈ segments, '.' ∉ segment.toList)
    ∧ (∀ segments' id', EntityId.ofSegments segments' = .ok id' →
      (∀ segment ∈ segments, '.' ∉ segment.toList) →
      (∀ segment ∈ segments', '.' ∉ segment.toList) → id.text = id'.text → id = id')
    ∧ ∀ text read, EntityId.parse text = .ok read →
      read.text = text
      ∧ (∀ segment ∈ read.segments, '.' ∉ segment.toList)
      ∧ (∀ name, (read.child name).parent? = some read ∧ (read.child name).last = name)
      ∧ (2 ≤ read.segments.length →
        ∃ parent, read.parent? = some parent ∧ parent.child read.last = read)
  := by
  have hexact := EntityId.parse_text_eq_ok h
  refine ⟨?text, hexact, ?distinct, ?parsed⟩
  case text =>
    obtain ⟨rfl, hne, -⟩ := EntityId.ofSegments_eq_ok.mp h
    exact EntityId.parse_text hne
  case distinct =>
    intro segments' id' h' hdots hdots' htext
    have hread := hexact.mpr hdots
    rw [htext, (EntityId.parse_text_eq_ok h').mpr hdots'] at hread
    exact (Except.ok.inj hread).symm
  case parsed =>
    intro text read hread
    obtain ⟨hsegments, hne, -⟩ := EntityId.ofSegments_eq_ok.mp hread
    rw [← hsegments] at hne
    refine ⟨EntityId.text_of_parse hread, fun segment hsegment => ?_,
      fun name => ⟨EntityId.parent?_child name hne, EntityId.last_child read name⟩, fun htwo => ?_⟩
    · rw [hsegments] at hsegment
      exact Text.not_mem_of_mem_split hsegment
    · obtain ⟨parent, hparent⟩ := EntityId.exists_parent htwo
      exact ⟨parent, hparent, EntityId.child_parent? hparent⟩

/-- The id `Shape.Adapter` and its parent. -/
theorem segments_exact_adapter :
  let id : EntityId := ⟨["Shape", "Adapter"]⟩
  EntityId.ofSegments ["Shape", "Adapter"] = .ok id
    ∧ EntityId.parse id.text = .ok id
    ∧ EntityId.parse "Shape.Adapter" = .ok id
    ∧ id.text = "Shape.Adapter"
    ∧ ∃ parent, id.parent? = some parent ∧ parent.child id.last = id
  := by
  have haccepted : EntityId.ofSegments ["Shape", "Adapter"] = .ok ⟨["Shape", "Adapter"]⟩ := rfl
  have hread : EntityId.parse "Shape.Adapter" = .ok ⟨["Shape", "Adapter"]⟩ := rfl
  obtain ⟨-, hexact, -, hparsed⟩ := segments_exact haccepted
  obtain ⟨htext, -, -, hparent⟩ := hparsed _ _ hread
  exact ⟨haccepted, hexact.mpr (by decide), hread, htext, hparent (by decide)⟩

/-- A segment that holds a dot is accepted; the id has the text of another one, as which its text
is read. -/
theorem dotted_segment :
  EntityId.ofSegments ["a.b"] = .ok ⟨["a.b"]⟩
    ∧ EntityId.ofSegments ["a", "b"] = .ok ⟨["a", "b"]⟩
    ∧ (⟨["a.b"]⟩ : EntityId).text = "a.b"
    ∧ (⟨["a", "b"]⟩ : EntityId).text = "a.b"
    ∧ EntityId.parse "a.b" = .ok ⟨["a", "b"]⟩
    ∧ (⟨["a.b"]⟩ : EntityId) ≠ ⟨["a", "b"]⟩
  := by
  exact ⟨rfl, rfl, rfl, rfl, rfl, by decide⟩

end TypedModules
