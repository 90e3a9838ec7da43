import TypedModules.Proofs.Faithful.Written
import TypedModules.Proofs.Ty.Same

/-!
# Names of the parameters of function types

A function type binds the names of its own parameters in its arguments and in its output.  Two
written types are equal up to those names if they write the same at every place, where a name is
either bound at the same place in both, or free in both and the same.  Such types are checked alike:
the checks give the same type or both fail, and what they report differs in wording only
(`bound_names_irrelevant`).
-/

namespace TypedModules

/-! ### Types up to bound names -/

/-- Names that are bound in two types at the same places, the innermost first. -/
abbrev Bound :=
  List (String × String)

namespace Bound

/-- The names that two lists of parameters bind. -/
def ofParams (params others : List TypeParam) : Bound :=
  (params.map (·.name)).zip (others.map (·.name))

/-- Whether two names stand for the same: they are bound at the same place, by the innermost binder
of either, or both are free and equal. -/
inductive Means : Bound → String → String → Prop
  | free {name : String} : Means [] name name
  | here {bound : Bound} {name other : String} : Means ((name, other) :: bound) name other
  | there {bound : Bound} {name other a b : String} :
    name ≠ a → other ≠ b →
    Means bound name other →
    Means ((a, b) :: bound) name other

/-- Whether two lists of parameters have the same typeclasses, and a name twice at the same
places. -/
structure Alike (params others : List TypeParam) : Prop where
  typeClasses : params.map (·.typeClass) = others.map (·.typeClass)
  names : ∀ pair ∈ ofParams params others, ∀ pair' ∈ ofParams params others,
    pair.1 = pair'.1 ↔ pair.2 = pair'.2

end Bound

mutual

/-- Whether two written types are equal up to the names that the function types in them bind, under
names that are bound around them. -/
inductive SourceTy.Alpha : Bound → SourceTy → SourceTy → Prop
  | integer {bound : Bound} : Alpha bound .integer .integer
  | natural {bound : Bound} : Alpha bound .natural .natural
  | boolean {bound : Bound} : Alpha bound .boolean .boolean
  | list {bound : Bound} {element other : SourceTy} :
    Alpha bound element other →
    Alpha bound (.list element) (.list other)
  | tryOf {bound : Bound} {inner other : SourceTy} :
    Alpha bound inner other →
    Alpha bound (.tryOf inner) (.tryOf other)
  | function {bound : Bound} {isReference : Bool} {params params' : List TypeParam}
      {args args' : List SourceTy} {output output' : SourceTy} {location : Option Location} :
    Bound.Alike params params' →
    AlphaAll (.ofParams params params' ++ bound) args args' →
    Alpha (.ofParams params params' ++ bound) output output' →
    Alpha bound (.function isReference params args output location)
      (.function isReference params' args' output' location)
  | name {bound : Bound} {isMarked : Bool} {name name' : String} {location : Option Location} :
    bound.Means name name' →
    Alpha bound (.named isMarked ⟨none, ⟨[name]⟩⟩ [] location)
      (.named isMarked ⟨none, ⟨[name']⟩⟩ [] location)
  | entity {bound : Bound} {isMarked : Bool} {reference : Reference}
      {params params' : List SourceTy} {location : Option Location} :
    (∀ name, ¬reference.IsName params name) →
    AlphaAll bound params params' →
    Alpha bound (.named isMarked reference params location)
      (.named isMarked reference params' location)

/-- Whether written types are equal up to bound names, position by position. -/
inductive SourceTy.AlphaAll : Bound → List SourceTy → List SourceTy → Prop
  | nil {bound : Bound} : AlphaAll bound [] []
  | cons {bound : Bound} {type other : SourceTy} {types others : List SourceTy} :
    Alpha bound type other →
    AlphaAll bound types others →
    AlphaAll bound (type :: types) (other :: others)

end

/-! ### Checks that differ in wording -/

/-- Whether two diagnostics differ at most in their messages. -/
def Diagnostic.Reworded (diagnostic other : Diagnostic) : Prop :=
  other = { diagnostic with message := other.message }

theorem Diagnostic.Reworded.refl (diagnostic : Diagnostic) :
  diagnostic.Reworded diagnostic
  := rfl

theorem Diagnostic.Reworded.symm {diagnostic other : Diagnostic}
    (h : diagnostic.Reworded other) :
  other.Reworded diagnostic
  := by
  rw [Reworded] at h ⊢
  rw [h]

theorem Diagnostic.Reworded.isError_eq {diagnostic other : Diagnostic}
    (h : diagnostic.Reworded other) :
  other.isError = diagnostic.isError
  := by
  rw [h]
  rfl

namespace Check

variable {α β γ δ : Type} {R : α → β → Prop} {S : γ → δ → Prop}

/-- Whether two checks, each told the same, both fail or give related results, and what they emit
differs in wording only. -/
def Tracks (R : α → β → Prop) (check : Check α) (other : Check β) : Prop :=
  ∀ behind, Option.Rel R (check behind).1 (other behind).1
    ∧ List.Forall₂ Diagnostic.Reworded (check behind).2 (other behind).2

theorem hasError_of_reworded {log other : List Diagnostic}
    (h : List.Forall₂ Diagnostic.Reworded log other) :
  hasError other = hasError log
  := hasError_of_forall₂ (h.imp fun _ _ hd => hd.isError_eq)

theorem tracks_refl (check : Check α) :
  check.Tracks Eq check
  := by
  intro behind
  constructor
  · cases (check behind).1 with
    | none => apply Option.Rel.none
    | some a => apply Option.Rel.some rfl
  · rw [List.forall₂_same]
    intro diagnostic _
    apply Diagnostic.Reworded.refl

theorem Tracks.symm {check : Check α} {other : Check β} (h : check.Tracks R other) :
  other.Tracks (flip R) check
  := by
  intro behind
  obtain ⟨hresult, hlog⟩ := h behind
  constructor
  · generalize (check behind).1 = result at hresult
    generalize (other behind).1 = result' at hresult
    cases hresult with
    | none => exact .none
    | some hR => exact .some hR
  · apply List.Forall₂.flip
    apply hlog.imp
    intro _ _ hd
    apply hd.symm

theorem tracks_pure {a : α} {b : β} (h : R a b) :
  (pure a : Check α).Tracks R (pure b)
  := fun _ => ⟨.some h, .nil⟩

theorem Tracks.bind {check : Check α} {other : Check β} {next : α → Check γ} {next' : β → Check δ}
    (h : check.Tracks R other) (hnext : ∀ a b, R a b → (next a).Tracks S (next' b)) :
  (check >>= next).Tracks S (other >>= next')
  := by
  intro behind
  obtain ⟨hresult, hlog⟩ := h behind
  rw [run_bind, run_bind]
  generalize check behind = run at hresult hlog
  generalize other behind = run' at hresult hlog
  obtain ⟨result, log⟩ := run
  obtain ⟨result', log'⟩ := run'
  dsimp only at hresult hlog
  cases hresult with
  | none => exact ⟨.none, hlog⟩
  | some hR =>
    obtain ⟨hnextResult, hnextLog⟩ := hnext _ _ hR (behind || hasError log)
    dsimp only
    rw [hasError_of_reworded hlog]
    exact ⟨hnextResult, List.rel_append hlog hnextLog⟩

theorem tracks_fail (code : Code) (location : Option Location) (message message' : String) :
  (fail code location message : Check α).Tracks R (fail code location message' : Check β)
  := by
  intro behind
  refine ⟨.none, .cons ?_ .nil⟩
  rfl

/-- Where one check passes, so does the other, with a related result. -/
theorem Tracks.passes {check : Check α} {other : Check β} (h : check.Tracks R other) {a : α}
    (ha : check.Passes a) :
  ∃ b, other.Passes b ∧ R a b
  := by
  obtain ⟨hresult, hlog⟩ := h false
  obtain ⟨herror, hsome⟩ := ha
  rw [← hasError_of_reworded hlog] at herror
  rw [hsome] at hresult
  generalize hother : (other false).1 = result at hresult
  cases hresult with
  | some hR => exact ⟨_, ⟨herror, hother⟩, hR⟩

end Check

/-! ### Names and parameters -/

namespace Bound

/-- Names that stand for the same are found at the same place. -/
theorem Means.idxOf?_eq {bound : Bound} {name other : String} (h : bound.Means name other) :
  (bound.map (·.1)).idxOf? name = (bound.map (·.2)).idxOf? other
    ∧ ((bound.map (·.1)).idxOf? name = none → name = other)
  := by
  induction h with
  | free => exact ⟨rfl, fun _ => rfl⟩
  | here => simp [List.idxOf?_cons]
  | there ha hb _ ih =>
    simp only [List.map_cons, List.idxOf?_cons, beq_iff_eq, Ne.symm ha, Ne.symm hb, if_false, ih.1,
      Option.map_eq_none_iff]
    rw [ih.1] at ih
    exact ⟨trivial, ih.2⟩

section Alike

variable {params others : List TypeParam}

theorem Alike.length_eq (h : Alike params others) :
  params.length = others.length
  := by
  have hlength := congrArg List.length h.typeClasses
  simpa using hlength

theorem Alike.map_fst (h : Alike params others) :
  (ofParams params others).map (·.1) = params.map (·.name)
  := by
  apply List.map_fst_zip
  simp [h.length_eq]

theorem Alike.map_snd (h : Alike params others) :
  (ofParams params others).map (·.2) = others.map (·.name)
  := by
  apply List.map_snd_zip
  simp [h.length_eq]

theorem nodup_map_iff {pairs : Bound} (h : ∀ pair ∈ pairs, ∀ pair' ∈ pairs,
    pair.1 = pair'.1 ↔ pair.2 = pair'.2) :
  (pairs.map (·.1)).Nodup ↔ (pairs.map (·.2)).Nodup
  := by
  induction pairs with
  | nil => simp
  | cons pair rest ih =>
    have hrest := ih fun a ha b hb => h a (List.mem_cons_of_mem _ ha) b (List.mem_cons_of_mem _ hb)
    have hfirst : pair.1 ∈ rest.map (·.1) ↔ pair.2 ∈ rest.map (·.2) := by
      simp only [List.mem_map]
      apply exists_congr
      intro other
      apply and_congr_right
      intro hother
      apply h _ (List.mem_cons_of_mem _ hother) _ List.mem_cons_self
    rw [List.map_cons, List.map_cons, List.nodup_cons, List.nodup_cons, hfirst, hrest]

theorem Alike.nodup_iff (h : Alike params others) :
  (params.map (·.name)).Nodup ↔ (others.map (·.name)).Nodup
  := by
  rw [← h.map_fst, ← h.map_snd]
  apply nodup_map_iff h.names

end Alike

end Bound

/-! ### Checks of types up to bound names -/

section Tracked

open Check

variable {setting : Setting} {bound : Bound}

/-- Names that stand for the same stand for the same type parameter, if they stand for one, and are
the same otherwise. -/
theorem Bound.Means.typeParam?_eq {name name' : String} (h : bound.Means name name') :
  setting.typeParam? (bound.map (·.1)) ⟨none, ⟨[name]⟩⟩ false
      = setting.typeParam? (bound.map (·.2)) ⟨none, ⟨[name']⟩⟩ false
    ∧ (setting.typeParam? (bound.map (·.1)) ⟨none, ⟨[name]⟩⟩ false = none → name = name')
  := by
  obtain ⟨hindex, hfree⟩ := h.idxOf?_eq
  have hname : ∀ name, Reference.IsName ⟨none, ⟨[name]⟩⟩ [] name := fun _ => ⟨rfl, rfl⟩
  have hbound : ∀ internal name index, internal.idxOf? name = some index →
      setting.typeParam? internal ⟨none, ⟨[name]⟩⟩ false = some (.internal index) := by
    intro internal name index hindex
    have hfound := @typeParam?_of_isName setting internal _ _ _ (hname name)
    rwa [hindex] at hfound
  have hdeclared : ∀ internal name, internal.idxOf? name = none →
      setting.typeParam? internal ⟨none, ⟨[name]⟩⟩ false
        = (setting.typeParams.find? (·.name == name)).map .param := by
    intro internal name hnone
    have hfound := @typeParam?_of_isName setting internal _ _ _ (hname name)
    rwa [hnone] at hfound
  cases hindex' : (bound.map (·.1)).idxOf? name with
  | some index =>
    rw [hbound _ _ _ hindex', hbound _ _ _ (hindex ▸ hindex')]
    exact ⟨rfl, fun hnone => absurd hnone (Option.some_ne_none _)⟩
  | none =>
    obtain rfl := hfree hindex'
    rw [hdeclared _ _ hindex', hdeclared _ _ (hindex ▸ hindex')]
    exact ⟨rfl, fun _ => rfl⟩

theorem tracks_requireValueType {type type' : Ty} (h : type.same type' = true)
    (location : Option Location) (role : String) :
  (requireValueType type location role).Tracks Eq (requireValueType type' location role)
  := by
  rw [requireValueType, requireValueType, ← Ty.isReference_of_same h]
  split
  · apply tracks_fail
  · apply tracks_pure rfl

theorem SourceTy.AlphaAll.length_eq {bound : Bound} {types others : List SourceTy}
    (h : SourceTy.AlphaAll bound types others) :
  types.length = others.length
  := by
  induction types generalizing others with
  | nil =>
    cases h
    rfl
  | cons type types ih =>
    cases h with
    | cons _ hrest => rw [List.length_cons, List.length_cons, ih hrest]

mutual

/-- Types that are equal up to bound names are checked alike. -/
theorem SourceTy.Alpha.tracks {bound : Bound} {type other : SourceTy} :
    type.Alpha bound other →
      (checkTyWithin setting (bound.map (·.1)) type).Tracks (fun t t' => t.same t' = true)
        (checkTyWithin setting (bound.map (·.2)) other)
  | .integer => tracks_pure rfl
  | .natural => tracks_pure rfl
  | .boolean => tracks_pure rfl
  | .list helement => by
    apply helement.tracks.bind
    intro element element' hsame
    apply (tracks_requireValueType hsame none "a list element").bind
    intro _ _ _
    apply tracks_pure
    exact hsame
  | .tryOf hinner => by
    apply hinner.tracks.bind
    intro inner inner' hsame
    apply (tracks_requireValueType hsame none "a Try value").bind
    intro _ _ _
    apply tracks_pure
    exact hsame
  | @SourceTy.Alpha.function _ _ params params' _ _ _ _ _ halike hargs houtput => by
    have hargs := hargs.tracks
    have houtput := houtput.tracks
    rw [List.map_append, List.map_append, halike.map_fst, halike.map_snd] at hargs houtput
    have hrepeated := halike.nodup_iff
    rw [← repeated_eq_nil, ← repeated_eq_nil] at hrepeated
    unfold checkTyWithin
    dsimp only
    generalize repeated (params.map (·.name)) = again at hrepeated
    generalize repeated (params'.map (·.name)) = again' at hrepeated
    cases again with
    | cons name rest =>
      cases again' with
      | nil => cases hrepeated.mpr rfl
      | cons name' rest' => apply tracks_fail
    | nil =>
      obtain rfl := hrepeated.mp rfl
      apply hargs.bind
      intro args args' hsameArgs
      apply houtput.bind
      intro output output' hsameOutput
      apply tracks_pure
      rw [Ty.same, hsameArgs, hsameOutput]
      simp [sameTypeClasses, halike.typeClasses]
  | .name hmeans => by
    obtain ⟨hparam, hfree⟩ := @Bound.Means.typeParam?_eq setting bound _ _ hmeans
    unfold checkTyWithin
    simp only [List.isEmpty_nil, Bool.not_true]
    rw [← hparam]
    generalize setting.typeParam? _ _ false = found at hfree
    cases found with
    | some type =>
      apply tracks_pure
      apply Ty.same_refl
    | none =>
      obtain rfl := hfree rfl
      apply (tracks_refl _).bind
      rintro named _ rfl
      apply tracks_pure
      simp [Ty.same, Ty.sameAll]
  | @SourceTy.Alpha.entity _ isMarked reference _ params' location hentity hparams => by
    have hentity' : ∀ name, ¬reference.IsName params' name := by
      rintro name ⟨rfl, hname⟩
      cases hparams
      apply hentity name ⟨rfl, hname⟩
    unfold checkTyWithin
    rw [typeParam?_of_not_isName hentity, typeParam?_of_not_isName hentity', hparams.length_eq]
    apply (tracks_refl (setting.namedHeader reference isMarked params'.length location)).bind
    rintro named _ rfl
    apply hparams.tracks_args.bind
    intro types types' hsame
    apply tracks_pure
    simp [Ty.same, hsame]

theorem SourceTy.AlphaAll.tracks {bound : Bound} {types others : List SourceTy} :
    SourceTy.AlphaAll bound types others →
      (checkTysWithin setting (bound.map (·.1)) types).Tracks (fun t t' => Ty.sameAll t t' = true)
        (checkTysWithin setting (bound.map (·.2)) others)
  | .nil => tracks_pure rfl
  | .cons htype hrest => by
    apply htype.tracks.bind
    intro type type' hsame
    apply hrest.tracks.bind
    intro types types' hsameAll
    apply tracks_pure
    rw [Ty.sameAll, hsame, hsameAll]
    rfl

theorem SourceTy.AlphaAll.tracks_args {bound : Bound} {location : Option Location}
    {types others : List SourceTy} :
    SourceTy.AlphaAll bound types others →
      (checkTyArgsWithin setting (bound.map (·.1)) location types).Tracks
        (fun t t' => Ty.sameAll t t' = true)
        (checkTyArgsWithin setting (bound.map (·.2)) location others)
  | .nil => tracks_pure rfl
  | .cons htype hrest => by
    apply htype.tracks.bind
    intro type type' hsame
    apply (tracks_requireValueType hsame location "a type argument").bind
    intro _ _ _
    apply hrest.tracks_args.bind
    intro types types' hsameAll
    apply tracks_pure
    rw [Ty.sameAll, hsame, hsameAll]
    rfl

end

end Tracked

/-- Types that are equal up to the names that function types bind are checked alike: the types that
their checks give are the same, or both checks fail, and what they report differs in wording only.
So one passes exactly if the other does. -/
theorem bound_names_irrelevant (setting : Setting) {type other : SourceTy}
    (h : type.Alpha [] other) :
  (checkTy setting type).Tracks (fun t t' => t.same t' = true) (checkTy setting other)
    ∧ (∀ t, (checkTy setting type).Passes t →
      ∃ t', (checkTy setting other).Passes t' ∧ t.same t' = true)
    ∧ ∀ t', (checkTy setting other).Passes t' →
      ∃ t, (checkTy setting type).Passes t ∧ t.same t' = true
  := by
  have htracks : (checkTy setting type).Tracks (fun t t' => t.same t' = true)
      (checkTy setting other) := h.tracks
  refine ⟨htracks, fun t ht => htracks.passes ht, fun t' ht' => ?_⟩
  apply htracks.symm.passes ht'

/-- A name as a written type. -/
def SourceTy.ofName (name : String) : SourceTy :=
  .named false ⟨none, ⟨[name]⟩⟩ [] none

/-- The type `<A: Data, B>(List<A>, <A>(A, B) -> A, T) -> B`, in which a name is bound twice. -/
def SourceTy.shadowing : SourceTy :=
  .function false [⟨"A", some .data⟩, ⟨"B", none⟩]
    [.list (.ofName "A"),
      .function false [⟨"A", none⟩] [.ofName "A", .ofName "B"] (.ofName "A") none,
      .ofName "T"]
    (.ofName "B") none

/-- The type `<B: Data, A>(List<B>, <B>(B, A) -> B, T) -> A`. -/
def SourceTy.swapped : SourceTy :=
  .function false [⟨"B", some .data⟩, ⟨"A", none⟩]
    [.list (.ofName "B"),
      .function false [⟨"B", none⟩] [.ofName "B", .ofName "A"] (.ofName "B") none,
      .ofName "T"]
    (.ofName "A") none

/-- Where a declaration has the parameter `T`. -/
def Setting.withT : Setting :=
  (default : Setting).within [⟨"T", none⟩]

theorem SourceTy.alpha_swapped :
  shadowing.Alpha [] swapped
  := by
  have halike : Bound.Alike [⟨"A", some .data⟩, ⟨"B", none⟩] [⟨"B", some .data⟩, ⟨"A", none⟩] :=
    ⟨rfl, by decide⟩
  have hinner : Bound.Alike [⟨"A", none⟩] [⟨"B", none⟩] := ⟨rfl, by decide⟩
  have hfirst : Bound.Means [("A", "B"), ("B", "A")] "A" "B" := .here
  have hsecond : Bound.Means [("A", "B"), ("B", "A")] "B" "A" :=
    .there (by decide) (by decide) .here
  have hfree : Bound.Means [("A", "B"), ("B", "A")] "T" "T" :=
    .there (by decide) (by decide) (.there (by decide) (by decide) .free)
  apply Alpha.function halike
  · apply AlphaAll.cons (.list (.name hfirst))
    apply AlphaAll.cons _ (.cons (.name hfree) .nil)
    apply Alpha.function hinner
    · apply AlphaAll.cons (.name .here)
      apply AlphaAll.cons (.name (.there (by decide) (by decide) hsecond)) .nil
    · apply Alpha.name .here
  · apply Alpha.name hsecond

/-- Where the names of all parameters are swapped, with one name bound inside the function type that
binds it already, the parameters keep their places and their typeclasses. -/
theorem bound_names_irrelevant_swapped :
  SourceTy.shadowing.Alpha [] .swapped
    ∧ (checkTy .withT .shadowing).Passes
      (.function false [⟨"A", some .data⟩, ⟨"B", none⟩]
        [.list (.internal 0),
          .function false [⟨"A", none⟩] [.internal 0, .internal 2] (.internal 0),
          .param ⟨"T", none⟩]
        (.internal 1))
    ∧ ∃ t, (checkTy .withT .swapped).Passes t
      ∧ Ty.same (.function false [⟨"A", some .data⟩, ⟨"B", none⟩]
        [.list (.internal 0),
          .function false [⟨"A", none⟩] [.internal 0, .internal 2] (.internal 0),
          .param ⟨"T", none⟩]
        (.internal 1)) t = true
  := by
  have hpasses : (checkTy .withT .shadowing).Passes
      (.function false [⟨"A", some .data⟩, ⟨"B", none⟩]
        [.list (.internal 0),
          .function false [⟨"A", none⟩] [.internal 0, .internal 2] (.internal 0),
          .param ⟨"T", none⟩]
        (.internal 1)) := ⟨rfl, rfl⟩
  refine ⟨SourceTy.alpha_swapped, hpasses, ?_⟩
  apply (bound_names_irrelevant .withT SourceTy.alpha_swapped).2.1 _ hpasses

end TypedModules
