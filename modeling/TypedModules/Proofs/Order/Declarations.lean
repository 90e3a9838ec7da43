import TypedModules.Proofs.Diagnostic.Filtered
import TypedModules.Proofs.Order.Dependencies
import TypedModules.Proofs.Order.Runs
import TypedModules.Proofs.Order.Scopes

/-!
# The order of declarations

Each round of a check goes over the declarations of a context in the order in which they are written,
and tells each check whether an error was emitted before it.  In the first two rounds no check makes
use of that.  In the round of bodies either an error has been emitted before the first, or all headers
have passed and nothing stands behind a failed declaration.  So the order makes no difference but in
the version of the module and in the order of what is emitted.

The main statement is `validate_reordered`.
-/

namespace TypedModules

open Check

variable {σ : Renaming} {settled : Prop} {setting setting' : Setting} {context other : Context}

/-! ### Headers -/

/-- Whether headers are the renamed ones of others in another order, each kind for itself. -/
structure Headers.Reordered (σ : Renaming) (headers others : Headers) : Prop where
  structs : others.structs.Perm (headers.structs.map (StructHeader.rename σ))
  interfaces : others.interfaces.Perm (headers.interfaces.map (Interface.rename σ))
  unions : others.unions.Perm (headers.unions.map (Union.rename σ))
  functions : others.functions.Perm (headers.functions.map (FunctionHeader.rename σ))

/-- Whether no two headers of a kind have the same id. -/
structure Headers.Distinct (headers : Headers) : Prop where
  structs : (headers.structs.map (·.id)).Nodup
  interfaces : (headers.interfaces.map (·.id)).Nodup
  unions : (headers.unions.map (·.id)).Nodup
  functions : (headers.functions.map (·.id)).Nodup

theorem nodup_adapterIds {interfaces : List Interface} (h : (interfaces.map (·.id)).Nodup) :
  (interfaces.map (·.adapterId)).Nodup
  := by
  have hinjective : Function.Injective EntityId.adapter := by
    intro a b e
    obtain ⟨segments⟩ := a
    obtain ⟨segments'⟩ := b
    simpa [EntityId.adapter, EntityId.child] using e
  have hmapped := h.map hinjective
  rwa [List.map_map] at hmapped

/-- Where ids are distinct the order of headers does not matter. -/
theorem Headers.Reordered.mirrors {headers others : Headers} (h : headers.Reordered σ others)
    (hdistinct : headers.Distinct) :
  headers.Mirrors σ others
  := by
  have hsignatures : others.definitions.functions.Perm
      (headers.definitions.functions.map (Signature.rename σ)) := by
    have hperm := h.functions.map FunctionHeader.signature
    rw [List.map_map] at hperm
    simpa [Headers.definitions, Function.comp_def] using hperm
  have hdistinctSignatures : (headers.definitions.functions.map (·.id)).Nodup := by
    simpa [Headers.definitions, Function.comp_def, FunctionHeader.signature]
      using hdistinct.functions
  constructor
  case function? => exact find?_of_perm_map h.functions (fun _ => rfl) hdistinct.functions
  case definitions =>
    exact {
      struct? := find?_of_perm_map h.structs (fun _ => rfl) hdistinct.structs
      interface? := find?_of_perm_map h.interfaces (fun _ => rfl) hdistinct.interfaces
      adapterOwner? := find?_of_perm_map h.interfaces (fun _ => rfl)
        (nodup_adapterIds hdistinct.interfaces)
      union? := find?_of_perm_map h.unions (fun _ => rfl) hdistinct.unions
      opaque? := fun _ => rfl
      function? := find?_of_perm_map hsignatures (fun _ => rfl) hdistinctSignatures }

theorem ensures_checkStructHeader (declared : SourceStruct) :
  (checkStructHeader setting declared).Ensures fun header => header.id = declared.id
  := ensures_bind fun _ => ensures_bind fun _ => ensures_bind fun _ => ensures_pure rfl

theorem ensures_checkInterface (declared : SourceInterface) :
  (checkInterface setting declared).Ensures fun interface => interface.id = declared.id
  := ensures_bind fun _ => ensures_bind fun _ => ensures_bind fun _ => ensures_pure rfl

theorem ensures_checkUnion (declared : SourceUnion) :
  (checkUnion setting declared).Ensures fun union => union.id = declared.id
  := by
  apply ensures_bind
  intro _
  apply ensures_ite
  · exact ensures_bind fun _ => ensures_bind fun _ => ensures_bind fun _ => ensures_pure rfl
  · exact ensures_bind fun _ => ensures_bind fun _ => ensures_pure rfl

theorem ensures_checkFunctionHeader (declared : SourceFunction) :
  (checkFunctionHeader setting declared).Ensures fun header => header.id = declared.id
  := ensures_bind fun _ => ensures_bind fun _ => ensures_bind fun _ => ensures_pure rfl

/-- The headers of declarations with distinct ids have distinct ids. -/
theorem ensures_checkHeaders (context : Context) :
  (checkHeaders setting (Scope.unique context context.duplicateIds)).Ensures Headers.Distinct
  := by
  obtain ⟨hfunctions, hstructs, hinterfaces, hunions⟩ := nodup_unique context
  apply ensures_bind_of
  intro _ structs hs
  apply ensures_bind_of
  intro _ interfaces hi
  apply ensures_bind_of
  intro _ unions hu
  apply ensures_bind_of
  intro _ functions hf
  exact ensures_pure {
    structs := hstructs.sublist (sublist_of_collect ensures_checkStructHeader hs)
    interfaces := hinterfaces.sublist (sublist_of_collect ensures_checkInterface hi)
    unions := hunions.sublist (sublist_of_collect ensures_checkUnion hu)
    functions := hfunctions.sublist (sublist_of_collect ensures_checkFunctionHeader hf) }

/-! ### Rounds -/

/-- The headers of a reordered context are those of the context, in another order. -/
theorem agree_checkHeaders (h : context.Reordered other)
    (hsetting : setting.MirrorsTypes σ True setting') (hstable : Stable σ context.references)
    (behind : Bool) :
  Agree (Headers.Reordered σ) (checkHeaders setting context behind)
    (checkHeaders setting' other behind)
  := by
  obtain ⟨hstructs, hinterfaces, hunions, hfunctions⟩ := stable_context.mp hstable
  apply (agree_collect h.structs
    (fun s hs => hsetting.mirrors_checkStructHeader (hstructs s hs)) (.inr trivial)).bind
  intro structs structs' _ hstructs
  apply (agree_collect h.interfaces
    (fun i hi => hsetting.mirrors_checkInterface (hinterfaces i hi)) (.inr trivial)).bind
  intro interfaces interfaces' _ hinterfaces
  apply (agree_collect h.unions
    (fun u hu => hsetting.mirrors_checkUnion (hunions u hu)) (.inr trivial)).bind
  intro unions unions' _ hunions
  apply (agree_collect h.functions
    (fun f hf => hsetting.mirrors_checkFunctionHeader (hfunctions f hf)) (.inr trivial)).bind
  intro functions functions' _ hfunctions
  exact agree_pure ⟨hstructs, hinterfaces, hunions, hfunctions⟩

theorem goesOn_checkAnnotations (owner : EntityId) (location : Option Location)
    (annotations : List Annotation) :
  GoesOn (checkAnnotations owner location none annotations)
  := goesOn_forM fun _ _ => goesOn_ite (goesOn_emit _) (goesOn_ite goesOn_pure (goesOn_emit _))

/-- The bodies of a reordered context are those of the context, in another order, given headers that
mirror each other. -/
theorem agree_checkBodies (h : context.Reordered other)
    (hsetting : setting.Mirrors σ settled setting') {headers others : Headers}
    (hheaders : headers.Mirrors σ others) (hstable : Stable σ context.references) {behind : Bool}
    (hbehind : behind = true ∨ settled) :
  Agree (fun bodies bodies' => bodies'.1.Perm (bodies.1.map (Struct.rename σ))
      ∧ bodies'.2.Perm (bodies.2.map (Function.rename σ)))
    (checkBodies setting headers context behind) (checkBodies setting' others other behind)
  := by
  obtain ⟨hstructs, -, -, hfunctions⟩ := stable_context.mp hstable
  have hstruct : ∀ s ∈ context.structs, Check.Mirrors σ settled (Struct.rename σ)
      (checkStructBody setting headers s) (checkStructBody setting' others s) := fun s hs =>
    hsetting.mirrors_checkStructBody (hheaders.definitions.struct? s.id) (hstructs s hs)
  have hfunction : ∀ f ∈ context.functions, Check.Mirrors σ settled (Function.rename σ)
      (checkFunctionBody setting headers f) (checkFunctionBody setting' others f) := fun f hf =>
    hsetting.mirrors_checkFunctionBody (hheaders.function? f.id) (hfunctions f hf)
  apply (agree_collect h.structs hstruct hbehind).bind
  intro structs structs' _ hstructs
  apply (agree_forM h.interfaces (fun _ _ => goesOn_checkAnnotations _ _ _)
    (fun _ _ => goesOn_checkAnnotations _ _ _) fun _ _ => .refl _).bind
  intro _ _ _ _
  apply (agree_forM h.unions (fun _ _ => goesOn_checkAnnotations _ _ _)
    (fun _ _ => goesOn_checkAnnotations _ _ _) fun _ _ => .refl _).bind
  intro _ _ _ _
  apply (agree_collect h.functions hfunction
    (hbehind.imp_left fun e => by simp only [e, Bool.true_or])).bind
  intro functions functions' _ hfunctions
  exact agree_pure ⟨hstructs, hfunctions⟩

theorem kinds_reportSites (id : EntityId) (sites : List (Option Location)) (behind : Bool) :
  (reportSites id sites behind).2.map Diagnostic.kind
    = List.replicate sites.length (Severity.error, Code.duplicateId)
  := by
  rw [reportSites, run_forM fun _ _ => goesOn_emit _, List.map_flatMap]
  calc (sites.zipIdx 1).flatMap (fun _ => [(Severity.error, Code.duplicateId)])
      = (sites.zipIdx 1).map fun _ => (Severity.error, Code.duplicateId) := by
        rw [List.map_eq_flatMap]
    _ = List.replicate sites.length (Severity.error, Code.duplicateId) := by
        rw [List.map_const', List.length_zipIdx]

/-- As many places are reported for a reordered context. -/
theorem agree_checkDeclarations (h : context.Reordered other) (behind : Bool) :
  Agree (fun _ _ => True) (checkDeclarations context behind) (checkDeclarations other behind)
  := by
  apply agree_forM h.duplicateIds (fun _ _ => goesOn_reportSites _ _)
    (fun _ _ => goesOn_reportSites _ _)
  intro id _
  rw [kinds_reportSites, kinds_reportSites, h.length_sites]

/-! ### Modules -/

/-- Whether a module holds what another one holds, renamed, in another order. -/
structure Module.Reordered (σ : Renaming) (module other : Module) : Prop where
  id : other.id = σ.module module.id
  functions : other.functions.Perm (module.functions.map (Function.rename σ))
  structs : other.structs.Perm (module.structs.map (Struct.rename σ))
  interfaces : other.interfaces.Perm (module.interfaces.map (Interface.rename σ))
  unions : other.unions.Perm (module.unions.map (Union.rename σ))
  adapters : (other.interfaces.map (·.adapter)).Perm
    ((module.interfaces.map (·.adapter)).map (StructHeader.rename σ))
  exports : other.exports.Perm module.exports
  reachable : other.reachable = module.reachable

/-- The adapters of a module and its exports are read off its declarations. -/
theorem Module.reordered_of_perm {module other : Module} (hid : other.id = σ.module module.id)
    (hfunctions : other.functions.Perm (module.functions.map (Function.rename σ)))
    (hstructs : other.structs.Perm (module.structs.map (Struct.rename σ)))
    (hinterfaces : other.interfaces.Perm (module.interfaces.map (Interface.rename σ)))
    (hunions : other.unions.Perm (module.unions.map (Union.rename σ)))
    (hreachable : other.reachable = module.reachable) :
  module.Reordered σ other
  := by
  have hadapters := hinterfaces.map Interface.adapter
  rw [List.map_map] at hadapters
  have hexported : ∀ {α : Type} {idOf : α → EntityId} {marks : α → List Annotation}
      {rename : α → α} {items others : List α}, others.Perm (items.map rename) →
      (∀ a, idOf (rename a) = idOf a) → (∀ a, marks (rename a) = marks a) →
      ((others.filter fun a => (marks a).any Annotation.isExport).map idOf).Perm
        ((items.filter fun a => (marks a).any Annotation.isExport).map idOf) := by
    intro α idOf marks rename items others hperm hids hmarks
    have hfiltered := (hperm.filter fun a => (marks a).any Annotation.isExport).map idOf
    simpa only [List.filter_map, List.map_map, Function.comp_def, hids, hmarks] using hfiltered
  exact {
    id := hid
    functions := hfunctions
    structs := hstructs
    interfaces := hinterfaces
    unions := hunions
    adapters := by
      simpa only [List.map_map, Function.comp_def, Interface.adapter_rename] using hadapters
    exports := (((hexported hfunctions (fun _ => rfl) fun _ => rfl).append
      (hexported hstructs (fun _ => rfl) fun _ => rfl)).append
      (hexported hinterfaces (fun _ => rfl) fun _ => rfl)).append
      (hexported hunions (fun _ => rfl) fun _ => rfl)
    reachable := hreachable }

/-- Unless an error was emitted up to the end of their round, all headers have passed. -/
theorem settled_of_checkHeaders {headers : Headers} {behind : Bool}
    (hrun : (checkHeaders setting (Scope.unique context context.duplicateIds) behind).1
      = some headers)
    (hunions : ∀ u ∈ context.unions, u.id.segments ≠ []) (module : ModuleId)
    (hclean : (behind || hasError
      (checkHeaders setting (Scope.unique context context.duplicateIds) behind).2) = false) :
  headers.definitions.Named
    ∧ Scope.declaredFunctions module (Scope.unique context context.duplicateIds)
      = headers.definitions.callables module
  := by
  have hdistinct := ensures_checkHeaders context _ _ hrun
  obtain ⟨rfl, herror⟩ := Bool.or_eq_false_iff.mp hclean
  have hpass := pass_of_checkHeaders ⟨herror, hrun⟩
  refine ⟨⟨hdistinct.unions, fun union hunion => ?_⟩, hpass.declaredFunctions_eq module⟩
  obtain ⟨declared, hdeclared, hp⟩ := exists_related_left hpass.unions hunion
  obtain ⟨-, -, -, _, -, rfl⟩ := passes_checkUnion.mp hp
  exact hunions declared (List.mem_filter.mp hdeclared).1

theorem Accepted.named {module : Module} (h : Accepted module)
    (hunions : ∀ u ∈ module.unions, u.id.segments ≠ []) :
  module.definitions.Named
  := ⟨(h.formed _ _ (definitionsOf?_self h.not_native)).distinct.nodup_parts.2.2.2.2, hunions⟩

theorem reachable_ofModule {number : Nat} {module : ModuleId} {dependencies : List Module} :
  (Setting.ofModule number module context dependencies).reachable = reachableFrom dependencies
  := rfl

theorem mirrors_nothing :
  ({} : Definitions).Mirrors σ {}
  := Definitions.mirrors_self nofun nofun nofun nofun

theorem stable_unique (h : Stable σ context.references) (duplicates : List EntityId) :
  Stable σ (Scope.unique context duplicates).references
  := by
  obtain ⟨hstructs, hinterfaces, hunions, hfunctions⟩ := stable_context.mp h
  exact stable_context.mpr ⟨fun s hs => hstructs s (List.mem_filter.mp hs).1,
    fun i hi => hinterfaces i (List.mem_filter.mp hi).1,
    fun u hu => hunions u (List.mem_filter.mp hu).1,
    fun f hf => hfunctions f (List.mem_filter.mp hf).1⟩

section Reordered

variable {name : ModuleName} {dependencies : List Module} (h : context.Reordered other)
  (hreferences : ∀ reference ∈ context.references, reference.IsUnversioned)
  (hunions : ∀ u ∈ context.unions, u.id.segments ≠ [])
  (hdependencies : ∀ d ∈ dependencies, Accepted d)
  (hdependencyUnions : ∀ d ∈ dependencies, ∀ u ∈ d.unions, u.id.segments ≠ [])
include h hreferences hunions hdependencies hdependencyUnions

/-- The headers and the bodies of a reordered context come to the same, whether an error was emitted
before them or not. -/
theorem agree_checkRounds (number : Nat) (behind : Bool) :
  Agree (Module.Reordered (.ofContexts context other name dependencies))
    (checkRounds (.ofModule number (context.moduleId name dependencies) context dependencies)
      (Scope.unique context context.duplicateIds) behind)
    (checkRounds (.ofModule number (other.moduleId name dependencies) other dependencies)
      (Scope.unique other other.duplicateIds) behind)
  := by
  have hstable : Stable (.ofContexts context other name dependencies)
      (Scope.unique context context.duplicateIds).references :=
    stable_unique (fun r hr => (hreferences r hr).stable name_ofContexts) _
  have hnamed : ∀ d ∈ dependencies, d.definitions.Named := fun d hd =>
    (hdependencies d hd).named (hdependencyUnions d hd)
  have htypes : (Setting.knowing number context name dependencies {}).MirrorsTypes _ True
      (Setting.knowing number other name dependencies {}) :=
    mirrorsTypes_knowing h hdependencies mirrors_nothing True
  apply (agree_checkHeaders h.unique htypes hstable behind).bind
  intro headers headers' hrun hheaders
  have hdistinct := ensures_checkHeaders context _ _ hrun
  have hmirrors := hheaders.mirrors hdistinct
  have hsettled := settled_of_checkHeaders hrun hunions (context.moduleId name dependencies)
  generalize (behind || hasError _) = after at hsettled ⊢
  have hsetting : (Setting.knowing number context name dependencies headers.definitions).Mirrors _
      (after = false) (Setting.knowing number other name dependencies headers'.definitions) :=
    mirrors_knowing h hdependencies hnamed hmirrors.definitions
      (by simpa [Headers.definitions] using hheaders.structs.length_eq)
      (by simpa [Headers.definitions] using hheaders.unions.length_eq) hsettled
  have hbehind : after = true ∨ after = false := by cases after <;> simp
  apply (agree_checkBodies h.unique hsetting hmirrors hstable hbehind).bind
  intro bodies bodies' _ hbodies
  have hreachable :
      (Setting.ofModule number (other.moduleId name dependencies) other dependencies).reachable
        = (Setting.ofModule number (context.moduleId name dependencies) context
            dependencies).reachable := by
    rw [reachable_ofModule, reachable_ofModule]
  apply agree_pure
  exact Module.reordered_of_perm module_ofContexts.symm hbodies.2 hbodies.1 hheaders.interfaces
    hheaders.unions hreachable

/-- A reordered context makes the module of the context, in another order and of another version, and
emits diagnostics of the same kinds. -/
theorem agree_checkModule (number : Nat) :
  Agree (Module.Reordered (.ofContexts context other name dependencies))
    (checkModule number context name dependencies).runFromStart
    (checkModule number other name dependencies).runFromStart
  := by
  rw [checkModule_eq, checkModule_eq]
  apply (agree_checkDeclarations h false).bind
  intro _ _ _ _
  exact agree_checkRounds h hreferences hunions hdependencies hdependencyUnions number _

end Reordered

/-! ### Verdicts -/

/-- Whether two verdicts are of one kind: modules that hold the same in another order, or failures,
where errors with the same codes are recorded if there is no limit to them. -/
inductive Verdict.Reordered (σ : Renaming) (unlimited : Prop) : Verdict → Verdict → Prop
  | success {module other : Module} {warnings warnings' : List Diagnostic} :
    module.Reordered σ other →
    Reordered σ unlimited (.success module warnings) (.success other warnings')
  | failure {errors errors' warnings warnings' : List Diagnostic} :
    (unlimited → ∀ code, code ∈ errors.map (·.code) ↔ code ∈ errors'.map (·.code)) →
    Reordered σ unlimited (.failure errors warnings) (.failure errors' warnings')

/-- Without a limit the codes are recorded of all errors that are emitted. -/
theorem code_mem_errors {config : SinkConfig} (hlimit : config.limit = 0) {log : List Diagnostic}
    {code : Code} :
  code ∈ ((Sink.empty config).emitAll log).errors.map (·.code)
    ↔ (.error, code) ∈ log.map Diagnostic.kind
  := by
  rw [(Sink.records_emitAll config log).errors, SinkConfig.cut, if_pos hlimit]
  simp only [List.mem_map, SinkConfig.mem_distinct, List.mem_filter, Diagnostic.isError,
    Diagnostic.kind, Prod.mk.injEq, beq_iff_eq, and_assoc]

/-- The order in which declarations are written makes no difference.  Each kind may be written in
another order, in a context whose references name no versions and whose unions have ids that can be
written.  Then the verdict is a success if it was one, of a module that holds the same with the
version of the one exchanged for the version of the other, and if it was a failure, then it is one
for errors with the same codes. -/
theorem validate_reordered (number : Nat) {context other : Context} (name : ModuleName)
    {dependencies : List Module} (config : SinkConfig) (h : context.Reordered other)
    (hreferences : ∀ reference ∈ context.references, reference.IsUnversioned)
    (hunions : ∀ u ∈ context.unions, u.id.segments ≠ [])
    (hdependencies : ∀ d ∈ dependencies, Accepted d)
    (hdependencyUnions : ∀ d ∈ dependencies, ∀ u ∈ d.unions, u.id.segments ≠ []) :
  (validate number context name dependencies config).Reordered
    (.ofContexts context other name dependencies) (config.limit = 0)
    (validate number other name dependencies config)
  := by
  obtain ⟨hresult, hlog⟩ : Agree (Module.Reordered (.ofContexts context other name dependencies))
      (checkModule number context name dependencies).runFromStart
      (checkModule number other name dependencies).runFromStart :=
    agree_checkModule h hreferences hunions hdependencies hdependencyUnions number
  have herror := hasError_of_perm hlog
  have hcodes : config.limit = 0 → ∀ code,
      code ∈ ((Sink.empty config).emitAll
          (checkModule number context name dependencies).runFromStart.2).errors.map (·.code)
        ↔ code ∈ ((Sink.empty config).emitAll
          (checkModule number other name dependencies).runFromStart.2).errors.map (·.code) := by
    intro hlimit code
    rw [code_mem_errors hlimit, code_mem_errors hlimit, hlog.mem_iff]
  unfold validate
  generalize (checkModule number context name dependencies).runFromStart = run at *
  generalize (checkModule number other name dependencies).runFromStart = run' at *
  obtain ⟨result, log⟩ := run
  obtain ⟨result', log'⟩ := run'
  dsimp only at hresult hlog herror hcodes ⊢
  rw [Sink.hasErrors_emitAll, Sink.hasErrors_emitAll, herror]
  cases hresult with
  | none => exact .failure hcodes
  | some hmodule =>
    cases hasError log with
    | true => exact .failure hcodes
    | false => exact .success hmodule

/-- The function that returns what another function returns. -/
def callerOf (name callee : String) : SourceFunction where
  id := ⟨[name]⟩
  typeParams := []
  args := []
  output := .integer
  body := .mk [.bare (.call (.ofText callee) [] [] none)] none
  annotations := []
  location := none

/-- The union of two sides. -/
def sides : SourceUnion where
  id := ⟨["Side"]⟩
  typeParams := []
  options := [⟨"left", none, none⟩, ⟨"right", none, none⟩]
  annotations := []
  location := none

/-- The context whose functions `ping` and `pong` call each other. -/
def pingPong : Context where
  functions := [callerOf "ping" "pong", callerOf "pong" "ping"]
  unions := [sides]

/-- The context whose functions `pong` and `ping` call each other. -/
def pongPing : Context where
  functions := [callerOf "pong" "ping", callerOf "ping" "pong"]
  unions := [sides]

/-- Of two functions that call each other either may be written first, next to a dependency. -/
theorem validate_pongPing :
  ∃ dependency : Module, Accepted dependency
    ∧ (validate 0 pingPong ⟨"example", "ping"⟩ [dependency] {}).Reordered
      (.ofContexts pingPong pongPing ⟨"example", "ping"⟩ [dependency])
      (({} : SinkConfig).limit = 0) (validate 0 pongPing ⟨"example", "ping"⟩ [dependency] {})
  := by
  have hone : (validate 0 exportsOne ⟨"example", "one"⟩ [] {}).module?.any
      (fun module => module.unions.isEmpty) = true := by
    decide +kernel
  obtain ⟨dependency, warnings, hvalidate, hempty⟩ := Verdict.exists_success hone
  have haccepted : ∀ d ∈ [dependency], Accepted d :=
    List.forall_mem_singleton.mpr (.alone hvalidate)
  have hdependencyUnions : ∀ d ∈ [dependency], ∀ u ∈ d.unions, u.id.segments ≠ [] := by
    rw [List.forall_mem_singleton, List.isEmpty_iff.mp hempty]
    exact nofun
  have hreordered : pingPong.Reordered pongPing := ⟨.swap _ _ _, .refl _, .refl _, .refl _⟩
  have hreferences : ∀ reference ∈ pingPong.references, reference.IsUnversioned := by
    decide +kernel
  have hunions : ∀ u ∈ pingPong.unions, u.id.segments ≠ [] := by
    decide
  exact ⟨dependency, haccepted _ List.mem_cons_self,
    validate_reordered 0 _ {} hreordered hreferences hunions haccepted hdependencyUnions⟩

end TypedModules
