import TypedModules.Proofs.Typing.Judgement

/-!
# Visible variables

Variables with distinct names and formed types, and the variables that a closure captures:
what the checker finds for it satisfies `Variables.Captures`.
-/

namespace TypedModules

/-- Whether variables have distinct names and formed types. -/
structure Variables.Formed (library : Library) (vars : Variables) : Prop where
  names : (vars.map (·.name)).Nodup
  types : ∀ v ∈ vars, v.type.Formed library.openScope 0

namespace Variables

theorem has_eq_false {vars : Variables} {name : String} :
  vars.has name = false ↔ name ∉ vars.map (·.name)
  := by
  simp [has]

theorem has_append (vars more : Variables) (name : String) :
  has (vars ++ more) name = (vars.has name || more.has name)
  := List.any_append

theorem type?_append (vars more : Variables) (name : String) :
  type? (vars ++ more) name = (more.type? name).or (vars.type? name)
  := by
  simp only [type?, List.reverse_append, List.find?_append]
  cases more.reverse.find? (·.name == name) <;> simp

theorem type?_eq_none {vars : Variables} {name : String} :
  vars.type? name = none ↔ vars.has name = false
  := by
  simp [type?, has]

theorem exists_of_type? {vars : Variables} {name : String} {type : Ty}
    (h : vars.type? name = some type) :
  ∃ v ∈ vars, v.name = name ∧ v.type = type
  := by
  obtain ⟨v, hv, rfl⟩ := Option.map_eq_some_iff.mp h
  exact ⟨v, List.mem_reverse.mp (List.mem_of_find?_eq_some hv), by simpa using List.find?_some hv,
    rfl⟩

theorem has_of_type? {vars : Variables} {name : String} {type : Ty}
    (h : vars.type? name = some type) :
  vars.has name = true
  := by
  obtain ⟨v, hv, hname, -⟩ := exists_of_type? h
  exact List.any_eq_true.mpr ⟨v, hv, by simp [hname]⟩

/-- Among variables with distinct names, each has the type with which it is declared. -/
theorem type?_of_mem {vars : Variables} (h : (vars.map (·.name)).Nodup) {v : Argument}
    (hv : v ∈ vars) :
  vars.type? v.name = some v.type
  := by
  obtain ⟨found, hfound⟩ : ∃ found, vars.reverse.find? (·.name == v.name) = some found := by
    apply Option.isSome_iff_exists.mp
    rw [List.find?_isSome]
    exact ⟨v, List.mem_reverse.mpr hv, by simp⟩
  have hname : found.name = v.name := by simpa using List.find?_some hfound
  have hmem := List.mem_reverse.mp (List.mem_of_find?_eq_some hfound)
  rw [type?, hfound, Option.map_some, List.inj_on_of_nodup_map h hmem hv hname]

theorem go_captured {vars : Variables} {names seen : List String} :
  (captured.go names seen vars).Sublist vars
    ∧ (∀ c ∈ captured.go names seen vars, c.name ∈ names)
    ∧ ∀ v ∈ vars, v.name ∈ names → v.name ∉ seen →
      v.name ∈ (captured.go names seen vars).map (·.name)
  := by
  induction vars generalizing seen with
  | nil => simp [captured.go]
  | cons first rest ih =>
    unfold captured.go
    split
    next hcond =>
      simp only [Bool.and_eq_true, List.contains_eq_mem, decide_eq_true_eq, Bool.not_eq_true',
        decide_eq_false_iff_not] at hcond
      obtain ⟨hsub, hmentioned, hcomplete⟩ := @ih (first.name :: seen)
      refine ⟨hsub.cons_cons first, ?_, ?_⟩
      · rw [List.forall_mem_cons]
        exact ⟨hcond.1, hmentioned⟩
      · intro v hv hname hseen
        by_cases e : v.name = first.name
        · simp [e]
        · have hrest : v ∈ rest := (List.mem_cons.mp hv).resolve_left fun h => e (h ▸ rfl)
          apply List.mem_cons_of_mem
          exact hcomplete v hrest hname (by simp [e, hseen])
    next hcond =>
      obtain ⟨hsub, hmentioned, hcomplete⟩ := @ih seen
      refine ⟨hsub.cons first, hmentioned, ?_⟩
      intro v hv hname hseen
      obtain rfl | hrest := List.mem_cons.mp hv
      · simp [hname, hseen] at hcond
      · exact hcomplete v hrest hname hseen

/-- The variables that the checker finds for a closure are the right ones. -/
theorem captures_captured {vars : Variables} (h : (vars.map (·.name)).Nodup)
    (names : List String) :
  vars.Captures names (vars.captured names)
  := by
  obtain ⟨hsub, hmentioned, hcomplete⟩ := @go_captured vars names []
  constructor
  case distinct => exact h.sublist (hsub.map _)
  case types => exact fun c hc => type?_of_mem h (hsub.mem hc)
  case mentioned => exact hmentioned
  case complete =>
    intro name hname hhas
    simp only [has, List.any_eq_true, beq_iff_eq] at hhas
    obtain ⟨v, hv, rfl⟩ := hhas
    exact hcomplete v hv hname List.not_mem_nil

theorem formed_type? {library : Library} {vars : Variables} (h : vars.Formed library)
    {name : String} {type : Ty} (htype : vars.type? name = some type) :
  type.Formed library.openScope 0
  := by
  obtain ⟨v, hv, -, rfl⟩ := exists_of_type? htype
  exact h.types v hv

/-- Variables stay formed when new ones with names of their own are declared. -/
theorem Formed.append {library : Library} {vars more : Variables} (h : vars.Formed library)
    (hmore : more.Formed library) (hnew : ∀ v ∈ more, vars.has v.name = false) :
  Variables.Formed library (vars ++ more)
  := by
  constructor
  case names =>
    rw [List.map_append, List.nodup_append]
    refine ⟨h.names, hmore.names, ?_⟩
    intro name hname other hother e
    obtain ⟨v, hv, rfl⟩ := List.mem_map.mp hother
    exact has_eq_false.mp (hnew v hv) (e ▸ hname)
  case types =>
    intro v hv
    obtain hv | hv := List.mem_append.mp hv
    · exact h.types v hv
    · exact hmore.types v hv

end Variables

end TypedModules
