import Mathlib.Data.List.Nodup
import TypedModules.Proofs.Check.Headers
import TypedModules.Proofs.Check.Loud
import TypedModules.Proofs.Graph.Version
import TypedModules.Proofs.Lists

/-!
# Accepted modules

A module is accepted if checking makes it of a context, on dependencies that are accepted
themselves.  What its check passed is put together in `Checked`: no id is declared twice, and
each declaration of the module is that of the context at the same place, with a header and a
body that passed.
-/

namespace TypedModules

open Check

/-- The modules that checking makes, on dependencies that checking made. -/
inductive Accepted : Module → Prop
  | intro {number : Nat} {context : Context} {name : ModuleName} {dependencies : List Module}
      {config : SinkConfig} {module : Module} {warnings : List Diagnostic} :
    (∀ dependency ∈ dependencies, Accepted dependency) →
    validate number context name dependencies config = .success module warnings →
    Accepted module

/-! ### Distinct ids -/

theorem length_sites (context : Context) (id : EntityId) :
  (context.sites id).length = (context.claims.map (·.id)).count id
  := by
  rw [List.count, List.countP_map, List.countP_eq_length_filter, Context.sites, List.length_map]
  rfl

/-- The duplicated ids are those claimed more than once. -/
theorem mem_duplicateIds {context : Context} {id : EntityId} :
  id ∈ context.duplicateIds ↔ 1 < (context.sites id).length
  := by
  rw [Context.duplicateIds, List.mem_filter, List.mem_eraseDups, decide_eq_true_iff,
    and_iff_right_of_imp]
  intro hcount
  rw [length_sites] at hcount
  exact List.count_pos_iff.mp (Nat.lt_of_succ_lt hcount)

theorem duplicateIds_of_passes {context : Context} {a : Unit}
    (h : (checkDeclarations context).Passes a) :
  context.duplicateIds = []
  := by
  rw [List.eq_nil_iff_forall_not_mem]
  intro id hid
  have hsites := mem_duplicateIds.mp hid
  have hreport := passes_forM.mp h id hid
  rw [reportSites, passes_forM] at hreport
  obtain ⟨site, rest, e⟩ := List.exists_cons_of_length_pos (Nat.lt_of_succ_lt hsites)
  rw [e] at hreport
  have herror := hreport (site, 1) (by simp [List.zipIdx_cons])
  rw [passes_emit] at herror
  cases site <;> cases herror

/-- An id that is not duplicated is claimed once at most. -/
theorem count_claims_le_one {context : Context} {id : EntityId} (h : id ∉ context.duplicateIds) :
  (context.claims.map (·.id)).count id ≤ 1
  := by
  rw [mem_duplicateIds, length_sites] at h
  exact Nat.le_of_not_lt h

/-- If no id is reported as duplicated, then no id is claimed twice. -/
theorem nodup_claims {context : Context} (h : context.duplicateIds = []) :
  (context.claims.map (·.id)).Nodup
  := by
  rw [List.nodup_iff_count_le_one]
  intro id
  exact count_claims_le_one (h ▸ List.not_mem_nil)

theorem claims_ids (context : Context) :
  context.claims.map (·.id)
    = context.functions.map (·.id) ++ (context.structs.map (·.id)
      ++ (context.interfaces.flatMap (fun i => [i.id, i.id.adapter])
        ++ context.unions.flatMap fun u =>
          u.id :: u.options.map (fun o => u.id.child o.name) ++ [u.id.whenId]))
  := by
  simp [Context.claims, List.map_flatMap, Function.comp_def]

theorem nodup_functions {context : Context} (h : (context.claims.map (·.id)).Nodup) :
  (context.functions.map (·.id)).Nodup
  := by
  rw [claims_ids] at h
  exact (List.nodup_append.mp h).1

theorem nodup_structs {context : Context} (h : (context.claims.map (·.id)).Nodup) :
  (context.structs.map (·.id)).Nodup
  := by
  rw [claims_ids] at h
  exact (List.nodup_append.mp (List.nodup_append.mp h).2.1).1

theorem unique_nil (context : Context) :
  Scope.unique context [] = context
  := by
  simp [Scope.unique]

/-! ### Headers and bodies -/

/-- Items whose ids are those of others at the same places are found under these ids. -/
theorem forall₂_find? {α β : Type} {R : α → β → Prop} {idOf : α → EntityId}
    {idOf' : β → EntityId} {items : List α} {results : List β}
    (h : List.Forall₂ R items results) (hid : ∀ a b, R a b → idOf' b = idOf a)
    (hdistinct : (items.map idOf).Nodup) :
  List.Forall₂ (fun a b => R a b ∧ results.find? (idOf' · == idOf a) = some b) items results
  := by
  induction h with
  | nil => exact .nil
  | @cons a b items results hR _ ih =>
    rw [List.map_cons, List.nodup_cons] at hdistinct
    apply List.Forall₂.cons
    · simp [hR, hid a b hR]
    · have hne : ∀ item ∈ items, (idOf' b == idOf item) = false := by
        intro item hitem
        rw [hid a b hR, beq_eq_false_iff_ne]
        intro e
        exact hdistinct.1 (e ▸ List.mem_map_of_mem hitem)
      apply (List.forall₂_and_left _ _ |>.mpr ⟨hne, ih hdistinct.2⟩).imp
      rintro item result ⟨hskip, hitem, hfind⟩
      exact ⟨hitem, by rw [List.find?_cons_of_neg (by simp [hskip]), hfind]⟩

theorem map_eq_of_forall₂ {α β γ : Type} {find : α → Option β} {toHeader : γ → β}
    {items : List α} {headers : List β} {bodies : List γ}
    (hheaders : List.Forall₂ (fun a b => find a = some b) items headers)
    (hbodies : List.Forall₂ (fun a c => find a = some (toHeader c)) items bodies) :
  bodies.map toHeader = headers
  := by
  induction hheaders generalizing bodies with
  | nil =>
    cases hbodies
    rfl
  | cons hb _ ih =>
    obtain _ | ⟨hc, hbodies⟩ := hbodies
    rw [hb, Option.some.injEq] at hc
    rw [List.map_cons, ih hbodies, hc]

/-- If the check of each body finds the header that the check of the same item made, then the
bodies that are collected are those of all items, in order. -/
theorem bodies_of_collect {α β γ : Type} {R : α → β → Prop} {idOf : α → EntityId}
    {idOf' : β → EntityId} {items : List α} {headers : List β} {bodies : List γ}
    {check : α → Check γ} {toHeader : γ → β} (hheaders : List.Forall₂ R items headers)
    (hid : ∀ a b, R a b → idOf' b = idOf a) (hdistinct : (items.map idOf).Nodup)
    (hloud : ∀ a b, headers.find? (idOf' · == idOf a) = some b → (check a).Loud)
    (hheader : ∀ a c, (check a).Passes c →
      headers.find? (idOf' · == idOf a) = some (toHeader c))
    (h : (collect check items).Passes bodies) :
  bodies.map toHeader = headers ∧ List.Forall₂ (fun a c => (check a).Passes c) items bodies
  := by
  have hfind := (forall₂_find? hheaders hid hdistinct).imp fun _ _ h => h.2
  have hbodies : List.Forall₂ (fun a c => (check a).Passes c) items bodies := by
    apply passes_collect _ h
    intro a ha
    obtain ⟨b, -, hb⟩ := exists_related_right hfind ha
    exact hloud a b hb
  exact ⟨map_eq_of_forall₂ hfind (hbodies.imp hheader), hbodies⟩

theorem id_of_checkStructHeader {setting : Setting} {declared : SourceStruct}
    {header : StructHeader} (h : (checkStructHeader setting declared).Passes header) :
  header.id = declared.id
  := by
  obtain ⟨-, -, -, -, rfl⟩ := passes_checkStructHeader.mp h
  rfl

theorem id_of_checkFunctionHeader {setting : Setting} {declared : SourceFunction}
    {header : FunctionHeader} (h : (checkFunctionHeader setting declared).Passes header) :
  header.id = declared.id
  := by
  obtain ⟨-, -, -, -, -, -, rfl⟩ := passes_checkFunctionHeader.mp h
  rfl

theorem header_of_checkStructBody {setting : Setting} {headers : Headers}
    {declared : SourceStruct} {struct : Struct}
    (h : (checkStructBody setting headers declared).Passes struct) :
  headers.structs.find? (·.id == declared.id) = some struct.toStructHeader
  := by
  rw [checkStructBody, passes_bind] at h
  obtain ⟨_, -, h⟩ := h
  split at h
  · exact absurd h (not_passes_abort _)
  next header e =>
    rw [e]
    split at h
    · rw [← passes_pure.mp h]
    · obtain ⟨_, -, h⟩ := passes_bind.mp h
      rw [← passes_pure.mp h]

theorem header_of_checkFunctionBody {setting : Setting} {headers : Headers}
    {declared : SourceFunction} {function : Function}
    (h : (checkFunctionBody setting headers declared).Passes function) :
  headers.functions.find? (·.id == declared.id) = some function.toFunctionHeader
  := by
  rw [checkFunctionBody] at h
  split at h
  · exact absurd h (not_passes_abort _)
  next header e =>
    simp only [passes_bind, passes_unless, passes_pure] at h
    obtain ⟨_, -, body, -, -, h⟩ := h
    rw [e, ← h]

/-- A struct has a `requires` block if one is written for it, which passes where its members are
visible. -/
theorem requires_of_checkStructBody {setting : Setting} {headers : Headers}
    {declared : SourceStruct} {struct : Struct}
    (h : (checkStructBody setting headers declared).Passes struct) :
  Option.Rel (fun written block => (checkBlock (setting.within struct.typeParams)
      ⟨setting.number, struct.entity, []⟩ struct.members written).Passes block
    ∧ block.type.same .boolean = true) declared.requires struct.requires
  := by
  have hfound := header_of_checkStructBody h
  rw [checkStructBody, hfound, passes_bind] at h
  obtain ⟨_, -, h⟩ := h
  dsimp only at h
  split at h
  next hnone =>
    rw [hnone, ← passes_pure.mp h]
    exact .none
  next written hsome =>
    simp only [checkRequires, passes_bind, passes_unless, passes_pure] at h
    obtain ⟨block, ⟨typed, htyped, hboolean, rfl⟩, e⟩ := h
    rw [hsome, ← congrArg Struct.requires e]
    exact .some ⟨htyped, hboolean⟩

/-- The body that is written for a function passes where its arguments are visible. -/
theorem body_of_checkFunctionBody {setting : Setting} {headers : Headers}
    {declared : SourceFunction} {function : Function}
    (h : (checkFunctionBody setting headers declared).Passes function) :
  (checkBlock (setting.within function.typeParams) ⟨setting.number, function.entity, []⟩
      function.args declared.body).Passes function.body
    ∧ function.body.type.same function.output = true
  := by
  have hfound := header_of_checkFunctionBody h
  rw [checkFunctionBody, hfound] at h
  simp only [passes_bind, passes_unless, passes_pure] at h
  obtain ⟨_, -, body, hbody, hsame, h⟩ := h
  obtain rfl : body = function.body := congrArg Function.body h
  exact ⟨hbody, hsame⟩

theorem annotations_of_checkFunctionBody {setting : Setting} {headers : Headers}
    {declared : SourceFunction} {function : Function}
    (h : (checkFunctionBody setting headers declared).Passes function) :
  function.annotations = declared.annotations
  := by
  have hfound := header_of_checkFunctionBody h
  rw [checkFunctionBody, hfound] at h
  simp only [passes_bind, passes_unless, passes_pure] at h
  obtain ⟨_, -, body, -, -, h⟩ := h
  rw [← h]

/-- The headers of a module's declarations. -/
def Module.headers (module : Module) : Headers where
  structs := module.structs.map (·.toStructHeader)
  interfaces := module.interfaces
  unions := module.unions
  functions := module.functions.map (·.toFunctionHeader)

@[simp]
theorem definitions_headers (module : Module) :
  module.headers.definitions = module.definitions
  := by
  simp [Module.headers, Headers.definitions, Module.definitions]

/-- Whether headers are those of the declarations of a context, each at its place, and pass. -/
structure Headers.Pass (setting : Setting) (context : Context) (headers : Headers) : Prop where
  structs : List.Forall₂ (fun declared header => (checkStructHeader setting declared).Passes header)
    context.structs headers.structs
  interfaces : List.Forall₂
    (fun declared interface => (checkInterface setting declared).Passes interface)
    context.interfaces headers.interfaces
  unions : List.Forall₂ (fun declared union => (checkUnion setting declared).Passes union)
    context.unions headers.unions
  functions : List.Forall₂
    (fun declared header => (checkFunctionHeader setting declared).Passes header)
    context.functions headers.functions

/-- Without an error the headers of all declarations pass. -/
theorem pass_of_checkHeaders {setting : Setting} {context : Context} {headers : Headers}
    (h : (checkHeaders setting context).Passes headers) :
  headers.Pass setting context
  := by
  simp only [checkHeaders, passes_bind, passes_pure] at h
  obtain ⟨_, hstructs, _, hinterfaces, _, hunions, _, hfunctions, rfl⟩ := h
  exact {
    structs := passes_collect (fun _ _ => loud_checkStructHeader _) hstructs
    interfaces := passes_collect (fun _ _ => loud_checkInterface _) hinterfaces
    unions := passes_collect (fun _ _ => loud_checkUnion _) hunions
    functions := passes_collect (fun _ _ => loud_checkFunctionHeader _) hfunctions }

/-- The setting in which the bodies of a module's declarations are checked. -/
def Setting.ofBodies (number : Nat) (context : Context) (dependencies : List Module)
    (module : Module) : Setting :=
  { Setting.ofModule number module.id context dependencies with own := module.definitions }

/-- What a module passed that a check makes of a context with direct dependencies. -/
structure Checked (number : Nat) (context : Context) (name : ModuleName)
    (dependencies : List Module) (module : Module) : Prop where
  distinct : (context.claims.map (·.id)).Nodup
  id_eq : module.id = context.moduleId name dependencies
  reachable_eq : module.reachable = reachableFrom dependencies
  structHeaders : List.Forall₂ (fun declared struct =>
    (checkStructHeader (.ofModule number module.id context dependencies) declared).Passes
      struct.toStructHeader) context.structs module.structs
  interfaces : List.Forall₂ (fun declared interface =>
    (checkInterface (.ofModule number module.id context dependencies) declared).Passes
      interface) context.interfaces module.interfaces
  unions : List.Forall₂ (fun declared union =>
    (checkUnion (.ofModule number module.id context dependencies) declared).Passes
      union) context.unions module.unions
  functionHeaders : List.Forall₂ (fun declared function =>
    (checkFunctionHeader (.ofModule number module.id context dependencies) declared).Passes
      function.toFunctionHeader) context.functions module.functions
  structs : List.Forall₂ (fun declared struct =>
    (checkStructBody (.ofBodies number context dependencies module) module.headers
      declared).Passes struct) context.structs module.structs
  functions : List.Forall₂ (fun declared function =>
    (checkFunctionBody (.ofBodies number context dependencies module) module.headers
      declared).Passes function) context.functions module.functions

/-- Without an error a context is checked as a whole. -/
theorem checked_of_passes {number : Nat} {context : Context} {name : ModuleName}
    {dependencies : List Module} {module : Module}
    (h : (checkModule number context name dependencies).Passes module) :
  Checked number context name dependencies module
  := by
  simp only [checkModule, passes_bind, passes_pure] at h
  obtain ⟨_, hdeclared, headers, hheaders, ⟨structs, functions⟩, hbodies, rfl⟩ := h
  have hdup := duplicateIds_of_passes hdeclared
  have hdistinct := nodup_claims hdup
  rw [hdup, unique_nil] at hheaders hbodies
  obtain ⟨hstructs, hinterfaces, hunions, hfunctions⟩ := pass_of_checkHeaders hheaders
  obtain ⟨hs, hi, hu, hf⟩ := headers
  simp only [checkBodies, passes_bind, passes_pure, Prod.mk.injEq] at hbodies
  obtain ⟨ss, hss, -, -, -, -, fs, hfs, rfl, rfl⟩ := hbodies
  -- each declaration finds the header that its own check made
  obtain ⟨rfl, hss⟩ := bodies_of_collect hstructs (fun _ _ => id_of_checkStructHeader)
    (nodup_structs hdistinct) (fun _ _ h => loud_checkStructBody h)
    (fun _ _ h => header_of_checkStructBody h) hss
  obtain ⟨rfl, hfs⟩ := bodies_of_collect hfunctions (fun _ _ => id_of_checkFunctionHeader)
    (nodup_functions hdistinct) (fun _ _ h => loud_checkFunctionBody h)
    (fun _ _ h => header_of_checkFunctionBody h) hfs
  have hown := definitions_headers
    ⟨context.moduleId name dependencies, fs, ss, hi, hu, reachableFrom dependencies⟩
  simp only [Module.headers] at hown
  rw [hown] at hss hfs
  exact {
    distinct := hdistinct
    id_eq := rfl
    reachable_eq := rfl
    structHeaders := List.forall₂_map_right_iff.mp hstructs
    interfaces := hinterfaces
    unions := hunions
    functionHeaders := List.forall₂_map_right_iff.mp hfunctions
    structs := hss
    functions := hfs }

/-- The headers of a checked module are those that passed. -/
theorem Checked.pass {number : Nat} {context : Context} {name : ModuleName}
    {dependencies : List Module} {module : Module}
    (h : Checked number context name dependencies module) :
  module.headers.Pass (.ofModule number module.id context dependencies) context
  := ⟨List.forall₂_map_right_iff.mpr h.structHeaders, h.interfaces, h.unions,
    List.forall₂_map_right_iff.mpr h.functionHeaders⟩

end TypedModules
