import TypedModules.Check.Module
import TypedModules.Proofs.Renamed.Bodies

/-!
# The rounds of a check where modules are renamed

The headers of a context are checked alike in settings that mirror each other as far as types go,
and its bodies are checked alike, given headers that mirror each other, in settings that mirror each
other altogether.  Checks that mirror each other where no module is renamed are the same check.

The main statements are `mirrors_checkHeaders` and `mirrors_checkBodies`.
-/

namespace TypedModules

open Check

variable {σ : Renaming} {settled : Prop} {setting other : Setting} {context : Context}

/-- The rounds of a check after the first: the headers of a context without duplicated ids, and then
its bodies. -/
def checkRounds (setting : Setting) (context : Context) : Check Module := do
  let headers ← checkHeaders setting context
  let (structs, functions) ←
    checkBodies { setting with own := headers.definitions } headers context
  return ⟨setting.module, functions, structs, headers.interfaces, headers.unions,
    setting.reachable⟩

theorem checkModule_eq (number : Nat) (context : Context) (name : ModuleName)
    (dependencies : List Module) :
  checkModule number context name dependencies = (do
    checkDeclarations context
    checkRounds (.ofModule number (context.moduleId name dependencies) context dependencies)
      (Scope.unique context context.duplicateIds))
  := rfl

/-- A context of which the declarations pass makes the module that its rounds make. -/
theorem validate_of_checkRounds {number : Nat} {name : ModuleName} {module : Module}
    (hdeclarations : checkDeclarations context false = (some (), []))
    (hrounds : ∀ behind, checkRounds (.ofModule number (context.moduleId name []) context [])
      (Scope.unique context context.duplicateIds) behind = (some module, [])) :
  validate number context name [] {} = .success module []
  := by
  have hmodule : checkModule number context name [] false = (some module, []) := by
    rw [checkModule_eq, Check.run_bind, hdeclarations]
    dsimp only
    rw [hrounds]
    rfl
  rw [validate, Check.runFromStart, hmodule]
  rfl

/-- The headers with their modules renamed. -/
def Headers.rename (σ : Renaming) (headers : Headers) : Headers where
  structs := headers.structs.map (StructHeader.rename σ)
  interfaces := headers.interfaces.map (Interface.rename σ)
  unions := headers.unions.map (Union.rename σ)
  functions := headers.functions.map (FunctionHeader.rename σ)

@[simp]
theorem Headers.rename_refl (headers : Headers) :
  headers.rename .refl = headers
  := by
  rw [rename, map_eq_self fun s _ => s.rename_refl, map_eq_self fun i _ => i.rename_refl,
    map_eq_self fun u _ => u.rename_refl, map_eq_self fun f _ => f.rename_refl]

/-- Whether each id stands in the second headers for what it stands for in the first, renamed. -/
structure Headers.Mirrors (σ : Renaming) (headers others : Headers) : Prop where
  definitions : headers.definitions.Mirrors σ others.definitions
  function? : ∀ id, others.functions.find? (·.id == id)
    = (headers.functions.find? (·.id == id)).map (FunctionHeader.rename σ)

theorem Headers.mirrors_refl (headers : Headers) :
  headers.Mirrors .refl headers
  := by
  refine ⟨headers.definitions.mirrors_refl, fun id => ?_⟩
  cases headers.functions.find? (·.id == id) <;> simp

namespace Check

/-- Checks that mirror each other are the same if no module is renamed. -/
theorem Mirrors.eq {α : Type} {f : α → α} {check other : Check α}
    (h : Mirrors .refl settled f check other) (hf : ∀ a, f a = a) :
  other = check
  := by
  funext behind
  obtain ⟨hresult, hlog⟩ := h behind behind (.inl rfl)
  have hsame : (check behind).2 = (other behind).2 :=
    List.forall₂_eq_eq_eq ▸ hlog.imp fun _ _ hd => (hd.same rfl).symm
  exact Prod.ext (hresult.trans (by rw [funext hf, Option.map_id'])) hsame.symm

end Check

/-- The references of a context are those of its declarations. -/
theorem stable_context :
  Stable σ context.references
    ↔ (∀ s ∈ context.structs, Stable σ s.references)
      ∧ (∀ i ∈ context.interfaces, Stable σ i.references)
      ∧ (∀ u ∈ context.unions, Stable σ u.references)
      ∧ ∀ f ∈ context.functions, Stable σ f.references
  := by
  simp only [Context.references, stable_append, stable_flatMap]

namespace Setting

/-- The headers of a context are checked alike. -/
theorem MirrorsTypes.mirrors_checkHeaders (h : setting.MirrorsTypes σ settled other)
    (hstable : Stable σ context.references) :
  Check.Mirrors σ settled (Headers.rename σ) (checkHeaders setting context)
    (checkHeaders other context)
  := by
  obtain ⟨hstructs, hinterfaces, hunions, hfunctions⟩ := stable_context.mp hstable
  apply (Mirrors.collect fun s hs => h.mirrors_checkStructHeader (hstructs s hs)).bind
  intro structs
  apply (Mirrors.collect fun i hi => h.mirrors_checkInterface (hinterfaces i hi)).bind
  intro interfaces
  apply (Mirrors.collect fun u hu => h.mirrors_checkUnion (hunions u hu)).bind
  intro unions
  apply (Mirrors.collect fun f hf => h.mirrors_checkFunctionHeader (hfunctions f hf)).bind
  intro functions
  exact mirrors_pure rfl

/-- The bodies of a context are checked alike, given headers that mirror each other. -/
theorem Mirrors.mirrors_checkBodies (h : setting.Mirrors σ settled other) {headers others : Headers}
    (hheaders : headers.Mirrors σ others) (hstable : Stable σ context.references) :
  Check.Mirrors σ settled (Prod.map (List.map (Struct.rename σ)) (List.map (Function.rename σ)))
    (checkBodies setting headers context) (checkBodies other others context)
  := by
  obtain ⟨hstructs, -, -, hfunctions⟩ := stable_context.mp hstable
  have hstruct : ∀ s ∈ context.structs, Check.Mirrors σ settled (Struct.rename σ)
      (checkStructBody setting headers s) (checkStructBody other others s) := fun s hs =>
    h.mirrors_checkStructBody (hheaders.definitions.struct? s.id) (hstructs s hs)
  apply (Mirrors.collect hstruct).bind
  intro structs
  apply (Mirrors.forM fun i _ => mirrors_checkAnnotations i.id i.location none i.annotations).bind
  intro _
  apply (Mirrors.forM fun u _ => mirrors_checkAnnotations u.id u.location none u.annotations).bind
  intro _
  apply (Mirrors.collect fun f hf =>
    h.mirrors_checkFunctionBody (hheaders.function? f.id) (hfunctions f hf)).bind
  intro functions
  exact mirrors_pure rfl

end Setting

end TypedModules
