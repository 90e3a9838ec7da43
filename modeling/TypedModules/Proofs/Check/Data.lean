import TypedModules.Check.Call
import TypedModules.Proofs.Check.Outcome
import TypedModules.Proofs.Declared.Formed
import TypedModules.Proofs.Ty.Same

/-!
# Plain data

The expansion of a type replaces each struct by its members and each union by the types of its
options, at the arguments of the named type, to any depth.  It may be infinite, so the check for
plain data goes along paths: it unfolds an entity at most once on each.  A type passes exactly
if nothing is barred that the expansion holds on a path without a repetition (`isData_iff`).

An entity that is met again inside its own expansion therefore hides what its arguments bring
in.  Where its arguments are the same as before, nothing new is behind it, and the check is exact
(`data_choice`); where they are not, as in `Box<Box<() -> Integer>>`, what they bring in is
missed (`hidden_box`).
-/

namespace TypedModules

/-- The structs and unions among the definitions of a module. -/
def Definitions.shapes (definitions : Definitions) (module : ModuleId) : List Entity :=
  definitions.structs.map (⟨module, ·.id⟩) ++ definitions.unions.map (⟨module, ·.id⟩)

namespace Setting

/-- Whether the expansion of a type holds another type; `path` lists the structs and unions that
are replaced on the way, the outermost first. -/
inductive Expands (setting : Setting) : (path : List Entity) → (type inner : Ty) → Prop
  | refl (type : Ty) : Expands setting [] type type
  | list {path : List Entity} {element inner : Ty} :
    Expands setting path element inner →
    Expands setting path (.list element) inner
  | tryOf {path : List Entity} {value inner : Ty} :
    Expands setting path value inner →
    Expands setting path (.tryOf value) inner
  /-- An opaque type is not replaced, and all its arguments count. -/
  | arg {path : List Entity} {isReference : Bool} {entity : Entity} {written : Reference}
      {args : List Ty} {type : Opaque} {arg inner : Ty} :
    setting.opaque? entity = some type →
    arg ∈ args →
    Expands setting path arg inner →
    Expands setting path (.named isReference entity written args) inner
  /-- Of a struct the members count, of a union the types of the options. -/
  | part {path : List Entity} {isReference : Bool} {entity : Entity} {written : Reference}
      {args parts : List Ty} {part inner : Ty} :
    setting.opaque? entity = none →
    setting.parts? entity args = some parts →
    part ∈ parts →
    Expands setting path part inner →
    Expands setting (entity :: path) (.named isReference entity written args) inner

/-- What may not occur in plain data. -/
inductive Barred (setting : Setting) : Ty → Prop
  | function {isReference : Bool} {typeParams : List TypeParam} {args : List Ty} {output : Ty} :
    Barred setting (.function isReference typeParams args output)
  | reference {entity : Entity} {written : Reference} {args : List Ty} :
    Barred setting (.named true entity written args)
  /-- A native type whose values are references. -/
  | builder {isReference : Bool} {entity : Entity} {written : Reference} {args : List Ty}
      {type : Opaque} :
    setting.opaque? entity = some type →
    type.isReference = true →
    Barred setting (.named isReference entity written args)
  /-- An interface or an adapter: no struct, no union and no native type. -/
  | shapeless {isReference : Bool} {entity : Entity} {written : Reference} {args : List Ty} :
    setting.opaque? entity = none →
    setting.parts? entity args = none →
    Barred setting (.named isReference entity written args)
  | param {p : TypeParam} :
    p.typeClass ≠ some .data →
    Barred setting (.param p)
  | internal {index : Nat} :
    Barred setting (.internal index)

/-- Whether an entity that is met again inside its own expansion always has the same arguments
as before. -/
def Regular (setting : Setting) (type : Ty) : Prop :=
  ∀ path again entity isReference isReference' written written' args args',
    setting.Expands path type (.named isReference entity written args) →
    setting.Expands (entity :: again) (.named isReference entity written args)
      (.named isReference' entity written' args') →
    Ty.sameAll args args' = true

variable {setting : Setting}

/-! ### What the check goes along -/

/-- Whether nothing is barred that the expansion of a type holds on a path that repeats
nothing and avoids the entities that are being unfolded. -/
def Clean (setting : Setting) (visiting : List Entity) (type : Ty) : Prop :=
  ∀ path inner, setting.Expands path type inner → path.Nodup → List.Disjoint path visiting →
    ¬setting.Barred inner

section Clean

variable {visiting : List Entity} {isReference : Bool} {entity : Entity} {written : Reference}
  {args : List Ty}

theorem Clean.not_barred {type : Ty} (h : setting.Clean visiting type) :
  ¬setting.Barred type
  := h [] type (.refl type) List.nodup_nil (List.disjoint_nil_left visiting)

theorem clean_list {element : Ty} :
  setting.Clean visiting (.list element) ↔ setting.Clean visiting element
  := by
  constructor
  · exact fun h path inner hinner => h path inner hinner.list
  · rintro h path inner (_ | hinner) hnodup hfree
    · rintro ⟨⟩
    · exact h path inner hinner hnodup hfree

theorem clean_tryOf {value : Ty} :
  setting.Clean visiting (.tryOf value) ↔ setting.Clean visiting value
  := by
  constructor
  · exact fun h path inner hinner => h path inner hinner.tryOf
  · rintro h path inner (_ | _ | hinner) hnodup hfree
    · rintro ⟨⟩
    · exact h path inner hinner hnodup hfree

theorem clean_native {type : Opaque} (hnative : setting.opaque? entity = some type) :
  setting.Clean visiting (.named isReference entity written args)
    ↔ isReference = false ∧ type.isReference = false ∧ ∀ arg ∈ args, setting.Clean visiting arg
  := by
  constructor
  · intro h
    refine ⟨?value, ?native, ?args⟩
    case value =>
      rw [← Bool.not_eq_true]
      rintro rfl
      exact h.not_barred .reference
    case native =>
      rw [← Bool.not_eq_true]
      exact fun hreference => h.not_barred (.builder hnative hreference)
    case args => exact fun arg harg path inner hinner => h path inner (.arg hnative harg hinner)
  · rintro ⟨rfl, hreference, hargs⟩ path inner hinner hnodup hfree
    cases hinner with
    | refl =>
      intro hbarred
      cases hbarred with
      | builder hnative' hreference' => simp_all
      | shapeless hnone => simp_all
    | arg _ harg hinner => exact hargs _ harg path inner hinner hnodup hfree
    | part hnone => simp_all

theorem clean_shape (hnative : setting.opaque? entity = none) {parts : List Ty}
    (hparts : setting.parts? entity args = some parts) :
  setting.Clean visiting (.named isReference entity written args)
    ↔ isReference = false
      ∧ (entity ∈ visiting ∨ ∀ part ∈ parts, setting.Clean (entity :: visiting) part)
  := by
  constructor
  · intro h
    constructor
    · rw [← Bool.not_eq_true]
      rintro rfl
      exact h.not_barred .reference
    · rw [or_iff_not_imp_left]
      intro hnew part hpart path inner hinner hnodup hfree
      rw [List.disjoint_cons_right] at hfree
      exact h (entity :: path) inner (.part hnative hparts hpart hinner)
        (List.nodup_cons.mpr ⟨hfree.1, hnodup⟩) (List.disjoint_cons_left.mpr ⟨hnew, hfree.2⟩)
  · rintro ⟨rfl, h⟩ path inner hinner hnodup hfree
    cases hinner with
    | refl =>
      intro hbarred
      cases hbarred with
      | builder hnative' => simp_all
      | shapeless _ hnone => simp_all
    | arg hnative' => simp_all
    | part _ hparts' hpart hinner =>
      obtain rfl : parts = _ := Option.some.inj (hparts.symm.trans hparts')
      rw [List.disjoint_cons_left] at hfree
      rw [List.nodup_cons] at hnodup
      exact h.resolve_left hfree.1 _ hpart _ inner hinner hnodup.2
        (List.disjoint_cons_right.mpr ⟨hnodup.1, hfree.2⟩)

end Clean

/-! ### How deep the check goes -/

theorem areDataBy_eq_all (setting : Setting) (unfold : Entity → List Ty → Bool)
    (types : List Ty) :
  setting.areDataBy unfold types = types.all (setting.isDataBy unfold)
  := by
  induction types with
  | nil => rfl
  | cons type rest ih => rw [areDataBy, ih, List.all_cons]

/-- The structs and unions that the module can reach. -/
def shapes (setting : Setting) : List Entity :=
  nativeDefinitions.shapes nativeModule ++ setting.own.shapes setting.module
    ++ setting.reachable.flatMap fun m => m.definitions.shapes m.id

theorem length_shapes (setting : Setting) :
  setting.shapes.length = setting.shapeCount
  := by
  have hfold : ∀ (modules : List Module) (count : Module → Nat) (n : Nat),
      modules.foldl (fun n m => n + count m) n = n + (modules.map count).sum := by
    intro modules count n
    induction modules generalizing n with
    | nil => simp
    | cons m rest ih => simp [ih, Nat.add_assoc]
  rw [shapeCount, hfold]
  simp [shapes, Definitions.shapes, List.length_flatMap, Nat.add_assoc]

/-- What has parts is one of the structs and unions that the module can reach. -/
theorem mem_shapes {entity : Entity} {args parts : List Ty}
    (h : setting.parts? entity args = some parts) :
  entity ∈ setting.shapes
  := by
  obtain ⟨definitions, hd, h⟩ := Option.bind_eq_some_iff.mp h
  have hshape : entity ∈ definitions.shapes entity.module := by
    rw [Definitions.shapes, List.mem_append, List.mem_map, List.mem_map]
    split at h
    next s hs =>
      obtain ⟨hmem, hid⟩ := Definitions.struct?_eq_some hs
      exact .inl ⟨s, hmem, by rw [hid]⟩
    next =>
      obtain ⟨u, hu, -⟩ := Option.map_eq_some_iff.mp h
      obtain ⟨hmem, hid⟩ := Definitions.union?_eq_some hu
      exact .inr ⟨u, hmem, by rw [hid]⟩
  rw [shapes, List.append_assoc, List.mem_append, List.mem_append]
  unfold definitions? at hd
  split at hd
  next hnative =>
    have hmodule : entity.module = nativeModule := by simpa [ModuleId.isNative] using hnative
    cases hd
    exact .inl (hmodule ▸ hshape)
  next =>
    split at hd
    next hmodule =>
      cases hd
      exact .inr (.inl (hmodule ▸ hshape))
    next =>
      obtain ⟨m, hm, rfl⟩ := Option.map_eq_some_iff.mp hd
      have hid : m.id = entity.module := by simpa using List.find?_some hm
      exact .inr (.inr (List.mem_flatMap.mpr ⟨m, List.mem_of_find?_eq_some hm, hid ▸ hshape⟩))

/-- The parts of an entity are the types that are written in it, with its arguments in place of its
parameters. -/
theorem parts?_eq_written (entity : Entity) :
  ∃ (params : List TypeParam) (written : Option (List Ty)), ∀ args,
    setting.parts? entity args = written.map (List.map (·.substitute (.ofParams params args)))
  := by
  unfold parts?
  cases setting.definitions? entity.module with
  | none => exact ⟨[], none, fun _ => rfl⟩
  | some definitions =>
    simp only [Option.bind_some]
    cases definitions.struct? entity.id with
    | some s =>
      exact ⟨s.typeParams, some (s.members.map (·.type)), fun _ => by simp [Function.comp_def]⟩
    | none =>
      cases definitions.union? entity.id with
      | none => exact ⟨[], none, fun _ => rfl⟩
      | some u =>
        refine ⟨u.typeParams, some (u.options.filterMap (·.type)), fun _ => ?_⟩
        simp [List.map_filterMap]

/-- Whether an entity has parts does not depend on its arguments. -/
theorem isSome_parts? {entity : Entity} (args args' : List Ty) :
  (setting.parts? entity args).isSome = (setting.parts? entity args').isSome
  := by
  obtain ⟨params, written, hparts⟩ := setting.parts?_eq_written entity
  rw [hparts, hparts, Option.isSome_map, Option.isSome_map]

/-- The check that goes `depth` deep, with enough depth for all entities that are not being
unfolded yet, passes exactly the clean types. -/
theorem isDataWithin_iff {depth : Nat} {visiting : List Entity} (hnodup : visiting.Nodup)
    (hshapes : ∀ entity ∈ visiting, ∃ args, (setting.parts? entity args).isSome)
    (hdepth : setting.shapeCount < depth + visiting.length)
    (type : Ty) :
  setting.isDataWithin depth visiting type = true ↔ setting.Clean visiting type
  := by
  induction depth generalizing visiting type with
  | zero =>
    -- no more entities are being unfolded than there are
    have hsub : visiting ⊆ setting.shapes := by
      intro entity hmem
      obtain ⟨args, hsome⟩ := hshapes entity hmem
      obtain ⟨parts, hparts⟩ := Option.isSome_iff_exists.mp hsome
      exact mem_shapes hparts
    have hle := (hnodup.subperm hsub).length_le
    rw [length_shapes] at hle
    omega
  | succ depth ih =>
    rw [isDataWithin]
    induction type using type_induction with
    | integer | natural | boolean =>
      simp only [isDataBy, true_iff]
      rintro path inner ⟨⟩ - -
      rintro ⟨⟩
    | list element ihElement => rw [isDataBy, ihElement, clean_list]
    | tryOf value ihValue => rw [isDataBy, ihValue, clean_tryOf]
    | function =>
      simp only [isDataBy, Bool.false_eq_true, false_iff]
      exact fun h => h.not_barred .function
    | internal =>
      simp only [isDataBy, Bool.false_eq_true, false_iff]
      exact fun h => h.not_barred .internal
    | param p =>
      simp only [isDataBy, beq_iff_eq]
      constructor
      · rintro hdata path inner ⟨⟩ - - ⟨⟩
        contradiction
      · intro h
        by_contra hdata
        exact h.not_barred (.param hdata)
    | named isReference entity written args ihArgs =>
      simp only [isDataBy, Bool.and_eq_true, Bool.not_eq_true']
      cases hnative : setting.opaque? entity with
      | some type =>
        rw [clean_native hnative]
        simp only [Bool.and_eq_true, Bool.not_eq_true', areDataBy_eq_all, List.all_eq_true]
        exact and_congr_right' (and_congr_right' (forall₂_congr ihArgs))
      | none =>
        cases hparts : setting.parts? entity args with
        | none =>
          have hnew : visiting.contains entity = false := by
            rw [← Bool.not_eq_true, List.contains_iff_mem]
            intro hmem
            obtain ⟨args', hsome⟩ := hshapes entity hmem
            rw [isSome_parts? args' args, hparts] at hsome
            cases hsome
          simp only [hnew, Bool.or_false, Bool.false_eq_true, and_false, false_iff]
          exact fun h => h.not_barred (.shapeless hnative hparts)
        | some parts =>
          rw [clean_shape hnative hparts]
          simp only [Bool.or_eq_true, List.contains_iff_mem, List.all_eq_true]
          apply and_congr_right'
          apply or_congr_right'
          intro hnew
          apply forall₂_congr
          intro part _
          apply ih (List.nodup_cons.mpr ⟨hnew, hnodup⟩)
          · rw [List.forall_mem_cons]
            exact ⟨⟨args, by rw [hparts, Option.isSome_some]⟩, hshapes⟩
          · rw [List.length_cons]
            omega

/-- A type passes the check exactly if nothing is barred that its expansion holds on a path
without a repetition. -/
theorem isData_iff (setting : Setting) (type : Ty) :
  setting.isData type = true
    ↔ ∀ path inner, setting.Expands path type inner → path.Nodup → ¬setting.Barred inner
  := by
  rw [isData, isDataWithin_iff List.nodup_nil (by simp) (by simp)]
  simp [Clean]

/-! ### Expansions of regular types -/

theorem Expands.trans {path more : List Entity} {type middle inner : Ty}
    (h : setting.Expands path type middle) (h' : setting.Expands more middle inner) :
  setting.Expands (path ++ more) type inner
  := by
  induction h with
  | refl => exact h'
  | list _ ih => exact (ih h').list
  | tryOf _ ih => exact (ih h').tryOf
  | arg hnative harg _ ih => exact .arg hnative harg (ih h')
  | part hnative hparts hpart _ ih => exact .part hnative hparts hpart (ih h')

/-- A path that replaces an entity holds it before it does. -/
theorem Expands.split {path more : List Entity} {entity : Entity} {type inner : Ty}
    (h : setting.Expands (path ++ entity :: more) type inner) :
  ∃ isReference written args,
    setting.Expands path type (.named isReference entity written args)
      ∧ setting.Expands (entity :: more) (.named isReference entity written args) inner
  := by
  generalize hwhole : path ++ entity :: more = whole at h
  induction h generalizing path with
  | refl => simp at hwhole
  | list _ ih =>
    obtain ⟨_, _, _, hbefore, hafter⟩ := ih hwhole
    exact ⟨_, _, _, hbefore.list, hafter⟩
  | tryOf _ ih =>
    obtain ⟨_, _, _, hbefore, hafter⟩ := ih hwhole
    exact ⟨_, _, _, hbefore.tryOf, hafter⟩
  | arg hnative harg _ ih =>
    obtain ⟨_, _, _, hbefore, hafter⟩ := ih hwhole
    exact ⟨_, _, _, .arg hnative harg hbefore, hafter⟩
  | part hnative hparts hpart hinner ih =>
    cases path with
    | nil =>
      obtain ⟨rfl, rfl⟩ := List.cons.inj hwhole
      exact ⟨_, _, _, .refl _, .part hnative hparts hpart hinner⟩
    | cons first rest =>
      obtain ⟨rfl, hrest⟩ := List.cons.inj hwhole
      obtain ⟨_, _, _, hbefore, hafter⟩ := ih hrest
      exact ⟨_, _, _, .part hnative hparts hpart hbefore, hafter⟩

theorem Regular.of_expands {path : List Entity} {type inner : Ty} (h : setting.Regular type)
    (hinner : setting.Expands path type inner) :
  setting.Regular inner
  := by
  intro more again entity isReference isReference' written written' args args' hbefore hafter
  exact h _ _ _ _ _ _ _ _ _ (hinner.trans hbefore) hafter

/-- With same arguments, an entity has same parts. -/
theorem exists_parts_of_same {entity : Entity} {args args' parts : List Ty}
    (hargs : Ty.sameAll args args' = true) (h : setting.parts? entity args = some parts) :
  ∃ parts', setting.parts? entity args' = some parts'
    ∧ ∀ part ∈ parts, ∃ part' ∈ parts', part.same part' = true
  := by
  obtain ⟨params, written, hparts⟩ := setting.parts?_eq_written entity
  rw [hparts, Option.map_eq_some_iff] at h
  obtain ⟨types, rfl, rfl⟩ := h
  refine ⟨_, hparts args', ?_⟩
  rw [List.forall_mem_map]
  exact fun type hmem => ⟨_, List.mem_map_of_mem hmem, Ty.same_substitute_ofParams hargs type⟩

theorem exists_mem_of_sameAll {types types' : List Ty} (h : Ty.sameAll types types' = true)
    {type : Ty} (hmem : type ∈ types) :
  ∃ type' ∈ types', type.same type' = true
  := by
  have hcore : type.core ∈ types'.map Ty.core :=
    Ty.sameAll_iff.mp h ▸ List.mem_map_of_mem hmem
  obtain ⟨type', hmem', e⟩ := List.mem_map.mp hcore
  exact ⟨type', hmem', Ty.same_iff.mpr e.symm⟩

/-- Same types have same expansions. -/
theorem Expands.same {path : List Entity} {type type' inner : Ty}
    (h : setting.Expands path type inner) (hsame : type.same type' = true) :
  ∃ inner', setting.Expands path type' inner' ∧ inner.same inner' = true
  := by
  induction h generalizing type' with
  | refl => exact ⟨type', .refl type', hsame⟩
  | list _ ih =>
    cases type' <;> simp only [Ty.same, Bool.false_eq_true] at hsame
    obtain ⟨inner', hinner, hsame⟩ := ih hsame
    exact ⟨inner', hinner.list, hsame⟩
  | tryOf _ ih =>
    cases type' <;> simp only [Ty.same, Bool.false_eq_true] at hsame
    obtain ⟨inner', hinner, hsame⟩ := ih hsame
    exact ⟨inner', hinner.tryOf, hsame⟩
  | arg hnative harg _ ih =>
    cases type' <;> simp only [Ty.same, Bool.false_eq_true, Bool.and_eq_true, beq_iff_eq] at hsame
    obtain ⟨⟨rfl, rfl⟩, hargs⟩ := hsame
    obtain ⟨arg', harg', hsame⟩ := exists_mem_of_sameAll hargs harg
    obtain ⟨inner', hinner, hsame⟩ := ih hsame
    exact ⟨inner', .arg hnative harg' hinner, hsame⟩
  | part hnative hparts hpart _ ih =>
    cases type' <;> simp only [Ty.same, Bool.false_eq_true, Bool.and_eq_true, beq_iff_eq] at hsame
    obtain ⟨⟨rfl, rfl⟩, hargs⟩ := hsame
    obtain ⟨parts', hparts', hsameParts⟩ := exists_parts_of_same hargs hparts
    obtain ⟨part', hpart', hsame⟩ := hsameParts _ hpart
    obtain ⟨inner', hinner, hsame⟩ := ih hsame
    exact ⟨inner', .part hnative hparts' hpart' hinner, hsame⟩

theorem Barred.same {type type' : Ty} (h : setting.Barred type) (hsame : type.same type' = true) :
  setting.Barred type'
  := by
  cases h with
  | function =>
    cases type' <;> simp only [Ty.same, Bool.false_eq_true] at hsame
    exact .function
  | reference =>
    cases type' <;> simp only [Ty.same, Bool.false_eq_true, Bool.and_eq_true, beq_iff_eq] at hsame
    obtain ⟨⟨rfl, rfl⟩, -⟩ := hsame
    exact .reference
  | builder hnative hreference =>
    cases type' <;> simp only [Ty.same, Bool.false_eq_true, Bool.and_eq_true, beq_iff_eq] at hsame
    obtain ⟨⟨rfl, rfl⟩, -⟩ := hsame
    exact .builder hnative hreference
  | shapeless hnative hparts =>
    cases type' <;> simp only [Ty.same, Bool.false_eq_true, Bool.and_eq_true, beq_iff_eq] at hsame
    obtain ⟨⟨rfl, rfl⟩, hargs⟩ := hsame
    apply Barred.shapeless hnative
    rw [← Option.isNone_iff_eq_none, ← Option.not_isSome] at hparts ⊢
    rwa [isSome_parts?]
  | param hdata =>
    cases type' <;> simp only [Ty.same, Bool.false_eq_true, beq_iff_eq] at hsame
    exact .param (hsame ▸ hdata)
  | internal =>
    cases type' <;> simp only [Ty.same, Bool.false_eq_true] at hsame
    exact .internal

/-- What the expansion of a regular type holds, it holds on a path without a repetition: between
two occurrences of an entity nothing new comes up. -/
theorem Regular.exists_nodup {path : List Entity} {type inner : Ty}
    (hregular : setting.Regular type)
    (h : setting.Expands path type inner) :
  ∃ direct inner', direct.Nodup ∧ setting.Expands direct type inner' ∧ inner.same inner' = true
  := by
  induction h with
  | refl type => exact ⟨[], type, List.nodup_nil, .refl type, Ty.same_refl type⟩
  | list _ ih =>
    obtain ⟨direct, inner', hnodup, hinner, hsame⟩ := ih (hregular.of_expands (Expands.refl _).list)
    exact ⟨direct, inner', hnodup, hinner.list, hsame⟩
  | tryOf _ ih =>
    obtain ⟨direct, inner', hnodup, hinner, hsame⟩ := ih (hregular.of_expands (Expands.refl _).tryOf)
    exact ⟨direct, inner', hnodup, hinner.tryOf, hsame⟩
  | arg hnative harg _ ih =>
    obtain ⟨direct, inner', hnodup, hinner, hsame⟩ :=
      ih (hregular.of_expands (.arg hnative harg (.refl _)))
    exact ⟨direct, inner', hnodup, .arg hnative harg hinner, hsame⟩
  | @part path isReference entity written args parts part inner hnative hparts hpart hrest ih =>
    obtain ⟨direct, inner', hnodup, hinner, hsame⟩ :=
      ih (hregular.of_expands (.part hnative hparts hpart (.refl _)))
    by_cases hmem : entity ∈ direct
    · -- the direct path goes through the entity again, so it can start there
      obtain ⟨before, after, rfl⟩ := List.append_of_mem hmem
      obtain ⟨isReference', written', args', hbefore, hafter⟩ := hinner.split
      have hargs : Ty.sameAll args args' = true :=
        hregular [] before entity isReference isReference' written written' args args' (.refl _)
          (.part hnative hparts hpart hbefore)
      cases hafter with
      | arg hnative' => rw [hnative] at hnative'; cases hnative'
      | part _ hparts' hpart' hinner =>
        obtain ⟨parts'', hparts'', hsameParts⟩ :=
          exists_parts_of_same (Ty.sameAll_symm hargs) hparts'
        obtain ⟨part'', hpart'', hsamePart⟩ := hsameParts _ hpart'
        obtain ⟨inner'', hinner'', hsame''⟩ := hinner.same hsamePart
        exact ⟨entity :: after, inner'', (List.nodup_append.mp hnodup).2.1,
          .part hnative hparts'' hpart'' hinner'', Ty.same_trans hsame hsame''⟩
    · exact ⟨entity :: direct, inner', List.nodup_cons.mpr ⟨hmem, hnodup⟩,
        .part hnative hparts hpart hinner, hsame⟩

/-! ### What is barred of the declared types -/

theorem barred_named {isReference : Bool} {entity : Entity} {written : Reference} {args : List Ty} :
  setting.Barred (.named isReference entity written args)
    ↔ isReference = true ∨ (∃ type, setting.opaque? entity = some type ∧ type.isReference = true)
      ∨ setting.opaque? entity = none ∧ setting.parts? entity args = none
  := by
  constructor
  · rintro (_ | _ | ⟨hnative, hreference⟩ | ⟨hnative, hparts⟩)
    · exact .inl rfl
    · exact .inr (.inl ⟨_, hnative, hreference⟩)
    · exact .inr (.inr ⟨hnative, hparts⟩)
  · rintro (rfl | ⟨type, hnative, hreference⟩ | ⟨hnative, hparts⟩)
    · exact .reference
    · exact .builder hnative hreference
    · exact .shapeless hnative hparts

/-- Of the types that definitions declare, the references, the interfaces and the adapters are
barred. -/
theorem barred_declared {definitions : Definitions} {entity : Entity} {kind : EntityKind}
    {header : TypeHeader} (hd : setting.definitions? entity.module = some definitions)
    (hdistinct : definitions.Distinct)
    (hheader : definitions.typeHeader? kind entity.id = some header) (written : Reference)
    (args : List Ty) :
  setting.Barred (.named header.isReference entity written args)
    ↔ header.isReference = true ∨ kind = .interface ∨ kind = .adapter
  := by
  have hnative : setting.opaque? entity = definitions.opaque? entity.id := by
    rw [opaque?, hd, Option.bind_some]
  rw [barred_named, hnative, parts?, hd, Option.bind_some]
  have hnone := hdistinct.typeHeader?_eq_none hheader
  cases kind with
  | native | function | option | when => cases hheader
  | struct =>
    have hnative := Option.map_eq_none_iff.mp (hnone .opaqueType (by simp))
    obtain ⟨s, hs, -⟩ := Option.map_eq_some_iff.mp hheader
    simp [hnative, hs]
  | union =>
    have hnative := Option.map_eq_none_iff.mp (hnone .opaqueType (by simp))
    have hstruct := Option.map_eq_none_iff.mp (hnone .struct (by simp))
    obtain ⟨u, hu, -⟩ := Option.map_eq_some_iff.mp hheader
    simp [hnative, hstruct, hu]
  | interface | adapter =>
    have hnative := Option.map_eq_none_iff.mp (hnone .opaqueType (by simp))
    have hstruct := Option.map_eq_none_iff.mp (hnone .struct (by simp))
    have hunion := Option.map_eq_none_iff.mp (hnone .union (by simp))
    simp [hnative, hstruct, hunion]
  | opaqueType =>
    obtain ⟨type, htype, rfl⟩ := Option.map_eq_some_iff.mp hheader
    simp [htype]

end Setting

/-! ### Choices for a parameter of plain data -/

/-- Whether a check emits a diagnostic with a code. -/
def Check.Emits {α : Type} (check : Check α) (code : Code) : Prop :=
  ∃ behind, ∃ diagnostic ∈ (check behind).2, diagnostic.code = code

section Choice

variable {callee : String} {location : Option Location} {param : TypeParam} {type : Ty}

theorem emits_typeclassViolation_iff (setting : Setting) (hparam : param.typeClass = some .data)
    (htype : type.isReference = false) :
  (checkChoice setting callee location param type).Emits .typeclassViolation
    ↔ setting.isData type = false
  := by
  have hclass : (param.typeClass == some .data) = true := by rw [hparam, beq_self_eq_true]
  unfold checkChoice
  rw [if_neg (by simp [htype]), hclass, Bool.true_and]
  cases hdata : setting.isData type with
  | true => simp [Check.Emits, Check.run_pure]
  | false =>
    simp only [Bool.not_false, if_true, iff_true]
    exact ⟨false, _, List.mem_append_left _ List.mem_cons_self, rfl⟩

/-- The types that are chosen without a complaint for a parameter of plain data are those in
whose expansion nothing is barred, as far as paths without a repetition go.  For a type in
whose expansion an entity never comes again with other arguments, that is the whole expansion. -/
theorem data_choice (setting : Setting) (callee : String) (location : Option Location)
    (hparam : param.typeClass = some .data) (htype : type.isReference = false) :
  (¬(checkChoice setting callee location param type).Emits .typeclassViolation
      ↔ ∀ path inner, setting.Expands path type inner → path.Nodup → ¬setting.Barred inner)
    ∧ (setting.Regular type →
      (¬(checkChoice setting callee location param type).Emits .typeclassViolation
        ↔ ∀ path inner, setting.Expands path type inner → ¬setting.Barred inner))
  := by
  have hemits : ¬(checkChoice setting callee location param type).Emits .typeclassViolation
      ↔ setting.isData type = true := by
    rw [emits_typeclassViolation_iff setting hparam htype, Bool.not_eq_false]
  rw [hemits, setting.isData_iff]
  refine ⟨Iff.rfl, ?_⟩
  intro hregular
  constructor
  · intro h path inner hinner hbarred
    obtain ⟨direct, inner', hnodup, hdirect, hsame⟩ := hregular.exists_nodup hinner
    exact h direct inner' hdirect hnodup (hbarred.same hsame)
  · exact fun h path inner hinner _ => h path inner hinner

end Choice

/-- The setting of a module that declares the structs `Box<T>`, with a `T`, and `Tree<T>`, with a
`T` and a list of trees. -/
def treeSetting : Setting :=
  let module : ModuleId := ⟨⟨"example", "tree"⟩, "1"⟩
  let param : TypeParam := ⟨"T", none⟩
  let tree : Ty := .named false ⟨module, ⟨["Tree"]⟩⟩ (.ofId ⟨["Tree"]⟩) [.param param]
  { (default : Setting) with
    module := module
    own := { structs := [⟨⟨["Box"]⟩, module, [param], [⟨"value", .param param⟩], false, []⟩,
      ⟨⟨["Tree"]⟩, module, [param], [⟨"value", .param param⟩, ⟨"children", .list tree⟩], false, []⟩] } }

/-- The struct of `treeSetting` with a name, applied to an argument. -/
def treeSetting.type (name : String) (arg : Ty) : Ty :=
  .named false ⟨treeSetting.module, ⟨[name]⟩⟩ (.ofId ⟨[name]⟩) [arg]

/-- All that the expansion of `Tree<Integer>` holds. -/
theorem mem_of_expands_tree {path : List Entity} {type inner : Ty}
    (h : treeSetting.Expands path type inner)
    (hmem : type ∈ [treeSetting.type "Tree" .integer, .list (treeSetting.type "Tree" .integer),
      .integer]) :
  inner ∈ [treeSetting.type "Tree" .integer, .list (treeSetting.type "Tree" .integer), .integer]
  := by
  simp only [List.mem_cons, List.not_mem_nil, or_false] at hmem ⊢
  induction h with
  | refl => exact hmem
  | list _ ih =>
    obtain h | h | h := hmem <;> cases h
    exact ih (.inl rfl)
  | tryOf => obtain h | h | h := hmem <;> cases h
  | arg hnative =>
    obtain h | h | h := hmem <;> cases h
    cases hnative
  | part _ hparts hpart _ ih =>
    obtain h | h | h := hmem <;> cases h
    cases hparts
    obtain _ | ⟨_, _ | ⟨_, ⟨⟩⟩⟩ := hpart
    · exact ih (.inr (.inr rfl))
    · exact ih (.inr (.inl rfl))

theorem data_choice_tree :
  ∃ (setting : Setting) (param : TypeParam) (type : Ty),
    param.typeClass = some .data ∧ type.isReference = false ∧ setting.Regular type
    ∧ ¬(checkChoice setting "Data.equals" none param type).Emits .typeclassViolation
    ∧ ∀ path inner, setting.Expands path type inner → ¬setting.Barred inner
  := by
  have hregular : treeSetting.Regular (treeSetting.type "Tree" .integer) := by
    intro path again entity isReference isReference' written written' args args' hbefore hafter
    have hfirst := mem_of_expands_tree hbefore List.mem_cons_self
    have hsecond := mem_of_expands_tree hafter hfirst
    simp only [List.mem_cons, List.not_mem_nil, or_false] at hfirst hsecond
    obtain h | h | h := hfirst <;> cases h
    obtain h | h | h := hsecond <;> cases h
    rfl
  have hdata : treeSetting.isData (treeSetting.type "Tree" .integer) = true := by
    decide +kernel
  obtain ⟨-, hexact⟩ := @data_choice ⟨"T", some .data⟩ (treeSetting.type "Tree" .integer)
    treeSetting "Data.equals" none rfl rfl
  have hsilent : ¬(checkChoice treeSetting "Data.equals" none ⟨"T", some .data⟩
      (treeSetting.type "Tree" .integer)).Emits .typeclassViolation := by
    rw [emits_typeclassViolation_iff treeSetting rfl rfl, hdata]
    simp
  exact ⟨treeSetting, ⟨"T", some .data⟩, treeSetting.type "Tree" .integer, rfl, rfl, hregular,
    hsilent, (hexact hregular).mp hsilent⟩

theorem hidden_box :
  ∃ (setting : Setting) (param : TypeParam) (type : Ty),
    param.typeClass = some .data ∧ type.isReference = false
    ∧ ¬(checkChoice setting "Data.equals" none param type).Emits .typeclassViolation
    ∧ ∃ path inner, setting.Expands path type inner ∧ setting.Barred inner
  := by
  refine ⟨treeSetting, ⟨"T", some .data⟩,
    treeSetting.type "Box" (treeSetting.type "Box" (.function false [] [] .integer)), rfl, rfl, ?_, ?_⟩
  · rw [emits_typeclassViolation_iff treeSetting rfl rfl]
    decide +kernel
  · exact ⟨_, _, .part rfl rfl List.mem_cons_self (.part rfl rfl List.mem_cons_self (.refl _)),
      .function⟩

end TypedModules
