import TypedModules.Proofs.Declared.Accepted
import TypedModules.Proofs.Faithful.Recorded
import TypedModules.Proofs.Faithful.Written
import TypedModules.Proofs.Resolve.Seen

/-!
# Nothing is lost

A module that is accepted keeps its context: each declaration at its place, with what is written
for it, and nothing besides.  A check that fails has emitted an error, and the first error is
recorded, so that no context is refused in silence: `validate_tells`.
-/

namespace TypedModules

open Check

/-! ### What is kept of a declaration -/

section Keeps

variable (names : Reference → Entity → Prop)

/-- Whether an argument or a member has a name and a type that is the one written for it. -/
def Argument.Keeps (typeParams : List TypeParam) (argument : Argument) (name : String)
    (written : SourceTy) : Prop :=
  argument.name = name ∧ written.StandsFor names typeParams [] argument.type

/-- Whether a struct keeps what is written for it. -/
structure Struct.Keeps (struct : Struct) (declared : SourceStruct) : Prop where
  id : struct.id = declared.id
  typeParams : struct.typeParams = declared.typeParams
  annotations : struct.annotations = declared.annotations
  members : List.Forall₂ (fun written member =>
    Argument.Keeps names declared.typeParams member written.name written.type)
    declared.members struct.members
  requires : struct.requires.isSome = declared.requires.isSome

/-- Whether a method keeps what is written for it in an interface with the type parameters
`outer`. -/
structure Method.Keeps (outer : List TypeParam) (method : Method) (declared : SourceMethod) :
    Prop where
  name : method.name = declared.name
  typeParams : method.typeParams = declared.typeParams
  args : List.Forall₂ (fun written arg =>
    Argument.Keeps names (outer ++ declared.typeParams) arg written.name written.type)
    declared.args method.args
  output : declared.output.StandsFor names (outer ++ declared.typeParams) [] method.output

/-- Whether an interface keeps what is written for it. -/
structure Interface.Keeps (interface : Interface) (declared : SourceInterface) : Prop where
  id : interface.id = declared.id
  typeParams : interface.typeParams = declared.typeParams
  annotations : interface.annotations = declared.annotations
  methods : List.Forall₂ (fun written method =>
    Method.Keeps names declared.typeParams method written) declared.methods interface.methods

/-- Whether a union keeps what is written for it. -/
structure Union.Keeps (union : Union) (declared : SourceUnion) : Prop where
  id : union.id = declared.id
  typeParams : union.typeParams = declared.typeParams
  annotations : union.annotations = declared.annotations
  options : List.Forall₂ (fun written option => option.name = written.name
    ∧ Option.Rel (SourceTy.StandsFor names declared.typeParams []) written.type option.type)
    declared.options union.options

/-- Whether a function keeps what is written for it. -/
structure Function.Keeps (function : Function) (declared : SourceFunction) : Prop where
  id : function.id = declared.id
  typeParams : function.typeParams = declared.typeParams
  annotations : function.annotations = declared.annotations
  args : List.Forall₂ (fun written arg =>
    Argument.Keeps names declared.typeParams arg written.name written.type)
    declared.args function.args
  output : declared.output.StandsFor names declared.typeParams [] function.output

/-- The ids of the declarations that carry `@Export`. -/
def Context.exported (context : Context) : List EntityId :=
  (context.functions.filter (·.annotations.any Annotation.isExport)).map (·.id)
    ++ (context.structs.filter (·.annotations.any Annotation.isExport)).map (·.id)
    ++ (context.interfaces.filter (·.annotations.any Annotation.isExport)).map (·.id)
    ++ (context.unions.filter (·.annotations.any Annotation.isExport)).map (·.id)

/-- Whether a lookup finds each of some items under its id, and nothing else. -/
def Indexes {α : Type} (find : EntityId → Option α) (idOf : α → EntityId) (items : List α) : Prop :=
  ∀ id item, find id = some item ↔ item ∈ items ∧ idOf item = id

/-- Whether a module holds the declarations of a context and no others: each at its place, and
found under its id, which nothing else has.  Its adapters are those of its interfaces, and its
exports are what carries `@Export`. -/
structure Module.Keeps (module : Module) (context : Context) : Prop where
  functions : List.Forall₂ (fun declared function => function.Keeps names declared)
    context.functions module.functions
  structs : List.Forall₂ (fun declared struct => struct.Keeps names declared)
    context.structs module.structs
  interfaces : List.Forall₂ (fun declared interface => interface.Keeps names declared)
    context.interfaces module.interfaces
  unions : List.Forall₂ (fun declared union => union.Keeps names declared)
    context.unions module.unions
  distinct : (module.definitions.entries.map (·.1)).Nodup
  function? : Indexes module.function? (·.id) module.functions
  struct? : Indexes module.struct? (·.id) module.structs
  interface? : Indexes module.interface? (·.id) module.interfaces
  adapterOwner? : Indexes module.adapterOwner? (·.adapterId) module.interfaces
  union? : Indexes module.union? (·.id) module.unions
  exports : module.exports = context.exported
  exports_distinct : module.exports.Nodup

end Keeps

section Passes

variable {setting : Setting}

theorem keeps_struct {bodies : Setting} {headers : Headers} {declared : SourceStruct}
    {struct : Struct}
    (hheader : (checkStructHeader setting declared).Passes struct.toStructHeader)
    (hbody : (checkStructBody bodies headers declared).Passes struct) :
  struct.Keeps setting.scope.names declared
  := by
  obtain ⟨-, -, members, hmembers, e⟩ := passes_checkStructHeader.mp hheader
  obtain rfl : members = struct.members := congrArg StructHeader.members e
  exact {
    id := (congrArg StructHeader.id e).symm
    typeParams := (congrArg StructHeader.typeParams e).symm
    annotations := (congrArg StructHeader.annotations e).symm
    members := hmembers.imp fun _ _ ⟨⟨htype, _⟩, hname⟩ =>
      ⟨hname.symm, standsFor_checkTyWithin [] _ htype⟩
    requires := (isSome_eq_of_rel (requires_of_checkStructBody hbody)).symm }

theorem keeps_method {declared : SourceInterface} {written : SourceMethod} {method : Method}
    (h : (checkMethod setting declared written).Passes method) :
  method.Keeps setting.scope.names declared.typeParams written
  := by
  obtain ⟨-, -, args, output, hargs, houtput, rfl⟩ := passes_checkMethod.mp h
  exact {
    name := rfl
    typeParams := rfl
    args := hargs.imp fun _ _ ⟨htype, hname⟩ => ⟨hname.symm, standsFor_checkTyWithin [] _ htype⟩
    output := standsFor_checkTyWithin [] _ houtput }

theorem keeps_interface {declared : SourceInterface} {interface : Interface}
    (h : (checkInterface setting declared).Passes interface) :
  interface.Keeps setting.scope.names declared
  := by
  obtain ⟨-, -, methods, hmethods, rfl⟩ := passes_checkInterface.mp h
  exact ⟨rfl, rfl, rfl, hmethods.imp fun _ _ => keeps_method⟩

theorem keeps_option {declared : SourceUnion} {written : SourceOption} {option : UnionOption}
    (h : (checkOption setting declared written).Passes option) :
  option.name = written.name
    ∧ Option.Rel (SourceTy.StandsFor setting.scope.names setting.typeParams []) written.type
      option.type
  := by
  obtain ⟨-, htype, hname⟩ := passes_checkOption.mp h
  refine ⟨hname.symm, ?_⟩
  generalize written.type = type, option.type = type' at htype
  cases htype with
  | none => exact .none
  | some htype => exact .some (standsFor_checkTyWithin [] _ htype.1)

theorem keeps_union {declared : SourceUnion} {union : Union}
    (h : (checkUnion setting declared).Passes union) :
  union.Keeps setting.scope.names declared
  := by
  obtain ⟨-, -, -, options, hoptions, rfl⟩ := passes_checkUnion.mp h
  exact ⟨rfl, rfl, rfl, hoptions.imp fun _ _ => keeps_option⟩

theorem keeps_function {bodies : Setting} {headers : Headers} {declared : SourceFunction}
    {function : Function}
    (hheader : (checkFunctionHeader setting declared).Passes function.toFunctionHeader)
    (hbody : (checkFunctionBody bodies headers declared).Passes function) :
  function.Keeps setting.scope.names declared
  := by
  obtain ⟨-, -, args, hargs, output, houtput, e⟩ := passes_checkFunctionHeader.mp hheader
  obtain rfl : args = function.args := congrArg FunctionHeader.args e
  obtain rfl : output = function.output := congrArg FunctionHeader.output e
  exact {
    id := (congrArg FunctionHeader.id e).symm
    typeParams := (congrArg FunctionHeader.typeParams e).symm
    annotations := annotations_of_checkFunctionBody hbody
    args := hargs.imp fun _ _ ⟨htype, hname⟩ => ⟨hname.symm, standsFor_checkTyWithin [] _ htype⟩
    output := standsFor_checkTyWithin [] _ houtput }

end Passes

/-! ### What is kept of a module -/

theorem indexes_find? {α : Type} {idOf : α → EntityId} {items : List α}
    (h : (items.map idOf).Nodup) :
  Indexes (fun id => items.find? (idOf · == id)) idOf items
  := by
  intro id item
  constructor
  · intro hfound
    exact ⟨List.mem_of_find?_eq_some hfound, by simpa using List.find?_some hfound⟩
  · rintro ⟨hmem, rfl⟩
    exact find?_of_nodup h hmem

/-- What satisfies a condition reads as what is written for it, if that satisfies the same
condition. -/
theorem map_filter_eq_of_related {α β γ : Type} {R : α → β → Prop} {p : α → Bool} {q : β → Bool}
    {f : α → γ} {g : β → γ} {as : List α} {bs : List β}
    (h : List.Forall₂ R as bs) (heq : ∀ a b, R a b → p a = q b ∧ f a = g b) :
  (bs.filter q).map g = (as.filter p).map f
  := by
  induction h with
  | nil => rfl
  | cons hR _ ih =>
    obtain ⟨hp, hf⟩ := heq _ _ hR
    simp only [List.filter_cons, hp]
    split
    · rw [List.map_cons, List.map_cons, ih, hf]
    · exact ih

/-- The ids of what is exported are declared. -/
theorem Module.exports_sublist (module : Module) :
  module.exports.Sublist (module.definitions.entries.map (·.1))
  := by
  have hexports : module.exports = module.exported.map (·.id) := by
    simp [exports, exported, Declaration.id, Function.comp_def]
  have hids : ∀ declaration : Declaration, [declaration.id].Sublist declaration.claims := by
    rintro (id | id | id | ⟨id, options⟩) <;> simp [Declaration.id, Declaration.claims]
  rw [hexports, List.map_eq_flatMap]
  exact (List.Sublist.flatMap_right _ fun declaration _ => hids declaration).trans
    module.exported_sublist

section Checked

variable {number : Nat} {context : Context} {name : ModuleName} {dependencies : List Module}
  {module : Module}

/-- A checked module keeps its context. -/
theorem Checked.keeps (h : Checked number context name dependencies module) :
  module.Keeps (Scope.ofModule module.id context context.duplicateIds dependencies).names context
  := by
  have hdistinct := h.distinct_definitions
  obtain ⟨hfs, hss, his, has, hus⟩ := hdistinct.nodup_parts
  have hfunctions := (related_and h.functionHeaders h.functions).imp
    fun _ _ ⟨hheader, hbody⟩ => keeps_function hheader hbody
  have hstructs := (related_and h.structHeaders h.structs).imp
    fun _ _ ⟨hheader, hbody⟩ => keeps_struct hheader hbody
  have hinterfaces := h.interfaces.imp fun _ _ => keeps_interface
  have hunions := h.unions.imp fun _ _ => keeps_union
  have hexports : module.exports = context.exported := by
    rw [Module.exports, Context.exported,
      map_filter_eq_of_related hfunctions fun _ _ hk => ⟨by rw [hk.annotations], hk.id.symm⟩,
      map_filter_eq_of_related hstructs fun _ _ hk => ⟨by rw [hk.annotations], hk.id.symm⟩,
      map_filter_eq_of_related hinterfaces fun _ _ hk => ⟨by rw [hk.annotations], hk.id.symm⟩,
      map_filter_eq_of_related hunions fun _ _ hk => ⟨by rw [hk.annotations], hk.id.symm⟩]
  exact {
    functions := hfunctions
    structs := hstructs
    interfaces := hinterfaces
    unions := hunions
    distinct := hdistinct
    function? := indexes_find?
      (by simpa [Module.definitions, Function.comp_def, FunctionHeader.signature] using hfs)
    struct? := indexes_find? (by simpa [Module.definitions, Function.comp_def] using hss)
    interface? := indexes_find? his
    adapterOwner? := indexes_find? has
    union? := indexes_find? hus
    exports := hexports
    exports_distinct := hdistinct.sublist module.exports_sublist }

end Checked

/-! ### No silence -/

theorem loud_checkDeclarations (context : Context) :
  (checkDeclarations context).Loud
  := loud_forM fun _ _ => loud_forM fun _ _ => loud_emit _

section Loud

variable {setting : Setting} {context : Context}

theorem loud_checkHeaders :
  (checkHeaders setting context).Loud
  := by
  apply (loud_collect fun _ _ => loud_checkStructHeader _).bind
  intro _ _
  apply (loud_collect fun _ _ => loud_checkInterface _).bind
  intro _ _
  apply (loud_collect fun _ _ => loud_checkUnion _).bind
  intro _ _
  exact (loud_collect fun _ _ => loud_checkFunctionHeader _).bind fun _ _ => loud_pure _

/-- If the headers pass, then one is found for each struct and each function. -/
theorem found_of_checkHeaders (hdistinct : (context.claims.map (·.id)).Nodup) {headers : Headers}
    (h : (checkHeaders setting context).Passes headers) :
  (∀ declared ∈ context.structs, ∃ header,
      headers.structs.find? (·.id == declared.id) = some header)
    ∧ ∀ declared ∈ context.functions, ∃ header,
      headers.functions.find? (·.id == declared.id) = some header
  := by
  obtain ⟨hstructs, -, -, hfunctions⟩ := pass_of_checkHeaders h
  have hstructs := forall₂_find? hstructs (fun _ _ => id_of_checkStructHeader)
    (nodup_structs hdistinct)
  have hfunctions := forall₂_find? hfunctions (fun _ _ => id_of_checkFunctionHeader)
    (nodup_functions hdistinct)
  constructor
  · intro declared hdeclared
    obtain ⟨header, -, -, hheader⟩ := exists_related_right hstructs hdeclared
    exact ⟨header, hheader⟩
  · intro declared hdeclared
    obtain ⟨header, -, -, hheader⟩ := exists_related_right hfunctions hdeclared
    exact ⟨header, hheader⟩

/-- If the headers pass, then the bodies are checked aloud. -/
theorem loud_checkBodies (hdistinct : (context.claims.map (·.id)).Nodup) {headers : Headers}
    (h : (checkHeaders setting context).Passes headers) (inside : Setting) :
  (checkBodies inside headers context).Loud
  := by
  obtain ⟨hstructs, hfunctions⟩ := found_of_checkHeaders hdistinct h
  have hstructs : (collect (checkStructBody inside headers) context.structs).Loud :=
    loud_collect fun declared hdeclared => (hstructs declared hdeclared).elim
      fun _ hheader => loud_checkStructBody hheader
  have hfunctions : (collect (checkFunctionBody inside headers) context.functions).Loud :=
    loud_collect fun declared hdeclared => (hfunctions declared hdeclared).elim
      fun _ hheader => loud_checkFunctionBody hheader
  apply hstructs.bind
  intro _ _
  apply (loud_forM fun _ _ => loud_checkAnnotations _ _ _ _).bind
  intro _ _
  apply (loud_forM fun _ _ => loud_checkAnnotations _ _ _ _).bind
  intro _ _
  exact hfunctions.bind fun _ _ => loud_pure _

end Loud

/-- A module is checked aloud: without an error there is a module. -/
theorem loud_checkModule (number : Nat) (context : Context) (name : ModuleName)
    (dependencies : List Module) :
  (checkModule number context name dependencies).Loud
  := by
  apply (loud_checkDeclarations context).bind
  intro _ hdeclared
  have hdup := duplicateIds_of_passes hdeclared
  rw [hdup, unique_nil]
  apply loud_checkHeaders.bind
  intro headers hheaders
  exact (loud_checkBodies (nodup_claims hdup) hheaders _).bind fun _ _ => loud_pure _

/-- Whether a verdict tells what became of a check that emits a log: a success stands for no
error and a module of which something holds, and a failure records the first error that was
emitted. -/
inductive Verdict.Tells (log : List Diagnostic) (holds : Module → Prop) : Verdict → Prop
  | success {module : Module} {warnings : List Diagnostic} :
    hasError log = false → holds module → Tells log holds (.success module warnings)
  | failure {first : Diagnostic} {errors warnings : List Diagnostic} :
    log.find? Diagnostic.isError = some first → errors.head? = some first →
    Tells log holds (.failure errors warnings)

/-- Under every configuration of the sink, a context is accepted exactly if its check emits no
error, as a module that keeps it; and if it is refused, then the first error that was emitted is
recorded. -/
theorem validate_tells (number : Nat) (context : Context) (name : ModuleName)
    (dependencies : List Module) (config : SinkConfig) :
  (validate number context name dependencies config).Tells
    (checkModule number context name dependencies).runFromStart.2
    fun module => module.Keeps (Scope.ofModule (context.moduleId name dependencies) context
      context.duplicateIds dependencies).names context
  := by
  unfold validate
  cases herror : hasError (checkModule number context name dependencies).runFromStart.2 with
  | true =>
    obtain ⟨first, hfirst⟩ : ∃ first, List.find? Diagnostic.isError
        (checkModule number context name dependencies).runFromStart.2 = some first := by
      rw [← Option.isSome_iff_exists, List.find?_isSome]
      simpa [hasError] using herror
    have hrecorded := (Sink.head?_errors_emitAll config _).trans hfirst
    simp only [Sink.hasErrors_emitAll, herror]
    rcases (checkModule number context name dependencies).runFromStart.1 with _ | module
    · exact .failure hfirst hrecorded
    · exact .failure hfirst hrecorded
  | false =>
    obtain ⟨module, hpasses⟩ : ∃ module,
        (checkModule number context name dependencies).Passes module := by
      apply (loud_checkModule number context name dependencies).resolve_left
      exact ne_true_of_eq_false herror
    have hchecked := checked_of_passes hpasses
    have hkeeps := hchecked.keeps
    rw [hchecked.id_eq] at hkeeps
    have hresult : (checkModule number context name dependencies).runFromStart.1 = some module :=
      hpasses.2
    simp only [Sink.hasErrors_emitAll, herror, hresult]
    exact .success herror hkeeps

end TypedModules
