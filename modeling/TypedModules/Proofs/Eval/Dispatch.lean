import TypedModules.Eval.Interpreter
import TypedModules.Proofs.Declared.Native
import TypedModules.Proofs.Lists
import TypedModules.Proofs.Native.Closures

/-!
# Dispatch

What the interpreter reaches under an entity, by the order in which it looks for it, and what
it goes on to do there once the number of arguments is right.  Where no id has two
declarations, what has a signature under a kind is reached as that kind.
-/

namespace TypedModules

/-- What the interpreter reaches under an entity. -/
inductive Callee where
  | native (function : NativeFunction)
  | function (function : Function)
  | struct (struct : Struct)
  | interface (interface : Interface)
  | adapter (interface : Interface)
  | option (union : Union) (option : UnionOption)
  | when (union : Union)

namespace Callee

/-- What sort of thing is reached. -/
def kind : Callee → EntityKind
  | .native _ => .native
  | .function _ => .function
  | .struct _ => .struct
  | .interface _ => .interface
  | .adapter _ => .adapter
  | .option _ _ => .option
  | .when _ => .when

/-- The signature of what is reached. -/
def signature : Callee → Signature
  | .native f => f.signature
  | .function f => f.toFunctionHeader.signature
  | .struct s => s.constructor
  | .interface i => i.instanceConstructor
  | .adapter i => i.adapterConstructor
  | .option u o => u.optionConstructor o
  | .when u => u.whenSignature

/-- Whether what is reached takes arguments and goes on to an evaluation, which no longer looks
for the entity nor counts the arguments. -/
inductive Enters (ask : Request → Eval Value) (fuel : Nat) :
    Callee → List Value → Eval Value → Prop
  | native {function : NativeFunction} {args : List Value} :
    function.Takes args →
    Enters ask fuel (.native function) args (function.run ask fuel args)
  | function {function : Function} {args : List Value} :
    args.length = function.args.length →
    Enters ask fuel (.function function) args (callBody ask function.args function.body args)
  | struct {struct : Struct} {args : List Value} :
    args.length = struct.members.length →
    struct.requires = none →
    Enters ask fuel (.struct struct) args (pure (.struct struct.toStructHeader args))
  | restricted {struct : Struct} {args : List Value} {requires : Block} :
    args.length = struct.members.length →
    struct.requires = some requires →
    Enters ask fuel (.struct struct) args do
      if ← satisfies ask struct.toStructHeader requires args then
        return .success (.struct struct.toStructHeader args)
      else
        return .failure
  | instance {interface : Interface} {data : Value} {header : StructHeader}
      {members : List Value} :
    Enters ask fuel (.interface interface) [data, .struct header members] do
      return .object interface (← members.mapM (bindMethod data))
  | notAdapter {interface : Interface} {data other : Value} :
    (∀ header members, other ≠ .struct header members) →
    Enters ask fuel (.interface interface) [data, other] (other.mismatch "adapter")
  | adapter {interface : Interface} {args : List Value} :
    args.length = interface.methods.length →
    Enters ask fuel (.adapter interface) args (pure (.struct interface.adapter args))
  | option {union : Union} {option : UnionOption} {index : Nat} {args : List Value} :
    args.length = option.type.toList.length →
    union.options[index]? = some option →
    Enters ask fuel (.option union option) args (pure (.union union index args.head?))
  | when {union owner : Union} {index : Nat} {payload : Option Value} {handlers : List Value}
      {handler : Value} :
    handlers.length = union.options.length →
    handlers[index]? = some handler →
    Enters ask fuel (.when union) (.union owner index payload :: handlers) do
      let handler ← handler.asBinding
      ask (.apply handler payload.toList)

end Callee

/-! ### The order of looking -/

/-- What is reached under an id of the native module. -/
def nativeCallee? (id : EntityId) : Option Callee :=
  match nativeDefinitions.struct? id with
  | some header => some (.struct { header with requires := none })
  | none => (NativeFunction.ofId? id).map .native

/-- What a union brings along under a name. -/
def Union.callee? (union : Union) (name : String) : Option Callee :=
  if name = "when" then some (.when union) else (union.option? name).map (.option union)

/-- What is reached under an id of a module. -/
def Module.callee? (module : Module) (id : EntityId) : Option Callee :=
  match module.function? id with
  | some function => some (.function function)
  | none =>
    match module.struct? id with
    | some struct => some (.struct struct)
    | none =>
      match module.interface? id with
      | some interface => some (.interface interface)
      | none =>
        match module.adapterOwner? id with
        | some interface => some (.adapter interface)
        | none => (id.parent?.bind module.union?).bind (·.callee? id.last)

/-- What the interpreter reaches under an entity. -/
def Program.callee? (program : Program) (entity : Entity) : Option Callee :=
  if entity.module.isNative then nativeCallee? entity.id
  else (program.module.find? entity.module).bind (·.callee? entity.id)

theorem Union.optionIndex?_of_option? {union : Union} {name : String} {option : UnionOption}
    (h : union.option? name = some option) :
  ∃ index, union.optionIndex? name = some index ∧ union.options[index]? = some option
  := by
  rw [Union.option?, List.find?_eq_bind_findIdx?_getElem?] at h
  exact Option.bind_eq_some_iff.mp h

theorem checkArity_of_eq {name : String} {expected got : Nat} (h : got = expected) :
  Eval.checkArity name expected got = pure ()
  := if_pos h.symm

/-! ### What is reached is entered -/

section Enters

variable {ask : Request → Eval Value} {fuel : Nat} {args : List Value}

theorem enters_struct {struct : Struct} (h : args.length = struct.members.length) :
  (Callee.struct struct).Enters ask fuel args (construct ask struct args)
  := by
  rw [construct, checkArity_of_eq h, pure_bind]
  split
  next hnone => exact .struct h hnone
  next requires hrequires => exact .restricted h hrequires

theorem enters_interface {interface : Interface} (h : args.length = 2) :
  (Callee.interface interface).Enters ask fuel args (constructInstance interface args)
  := by
  obtain ⟨data, adapter, rfl⟩ := List.length_eq_two.mp h
  cases adapter
  case struct header members => exact .instance
  all_goals exact .notAdapter fun _ _ => nofun

theorem enters_adapter {interface : Interface} (h : args.length = interface.methods.length) :
  (Callee.adapter interface).Enters ask fuel args (constructAdapter interface args)
  := by
  rw [constructAdapter, checkArity_of_eq h, pure_bind]
  exact .adapter h

theorem enters_option {union : Union} {name : String} {option : UnionOption}
    (hoption : union.option? name = some option) (h : args.length = option.type.toList.length) :
  (Callee.option union option).Enters ask fuel args (constructOption union name args)
  := by
  obtain ⟨index, hindex, hget⟩ := Union.optionIndex?_of_option? hoption
  simp only [constructOption, hindex, hoption, checkArity_of_eq h, pure_bind]
  exact .option h hget

theorem enters_when {union owner : Union} {index : Nat} {payload : Option Value}
    {handlers : List Value} (h : handlers.length = union.options.length)
    (hindex : index < union.options.length) :
  (Callee.when union).Enters ask fuel (.union owner index payload :: handlers)
    (distinguish ask union (.union owner index payload :: handlers))
  := by
  obtain ⟨handler, hhandler⟩ : ∃ handler, handlers[index]? = some handler :=
    ⟨_, List.getElem?_eq_getElem (h ▸ hindex)⟩
  have hlength : (Value.union owner index payload :: handlers).length
      = union.options.length + 1 := by
    simp [h]
  simp only [distinguish, checkArity_of_eq hlength, pure_bind, hhandler]
  exact .when h hhandler

/-- With no overrides, what is reached under an id of a module is entered. -/
theorem enters_evalDeclared {program : Program}
    (hplain : ∀ entity, program.override? entity = none) {module : Module} {entity : Entity}
    {callee : Callee} (h : module.callee? entity.id = some callee)
    (hlength : args.length = callee.signature.args.length)
    (hwhen : ∀ union, callee = .when union → ∃ owner index payload handlers,
      args = .union owner index payload :: handlers ∧ index < union.options.length) :
  callee.Enters ask fuel args (evalDeclared program ask fuel module entity args)
  := by
  unfold Module.callee? at h
  unfold evalDeclared
  cases hfunction : module.function? entity.id with
  | some function =>
    simp only [hfunction] at h ⊢
    cases h
    have hlength : args.length = function.args.length := by
      simpa [Callee.signature, FunctionHeader.signature] using hlength
    rw [hplain]
    dsimp only
    rw [callFunction, checkArity_of_eq hlength, pure_bind]
    exact .function hlength
  | none =>
  cases hstruct : module.struct? entity.id with
  | some struct =>
    simp only [hfunction, hstruct] at h ⊢
    cases h
    exact enters_struct (by simpa [Callee.signature, StructHeader.constructor] using hlength)
  | none =>
  cases hinterface : module.interface? entity.id with
  | some interface =>
    simp only [hfunction, hstruct, hinterface] at h ⊢
    cases h
    exact enters_interface hlength
  | none =>
  cases hadapter : module.adapterOwner? entity.id with
  | some interface =>
    simp only [hfunction, hstruct, hinterface, hadapter] at h ⊢
    cases h
    refine enters_adapter ?_
    simpa [Callee.signature, Interface.adapterConstructor, Interface.adapter,
      StructHeader.constructor] using hlength
  | none =>
    simp only [hfunction, hstruct, hinterface, hadapter] at h ⊢
    obtain ⟨union, hunion, h⟩ := Option.bind_eq_some_iff.mp h
    rw [hunion]
    unfold Union.callee? at h
    dsimp only [evalUnion]
    by_cases hname : entity.id.last = "when"
    · rw [if_pos hname] at h ⊢
      cases h
      obtain ⟨owner, index, payload, handlers, rfl, hindex⟩ := hwhen union rfl
      refine enters_when ?_ hindex
      simpa [Callee.signature, Union.whenSignature] using hlength
    · rw [if_neg hname] at h ⊢
      obtain ⟨option, hoption, rfl⟩ := Option.map_eq_some_iff.mp h
      exact enters_option hoption hlength

/-- With no overrides, an evaluation enters what is reached under the entity, for as many
arguments as its signature has; a case distinction has to be given a union value first. -/
theorem enters_evalEntity {program : Program}
    (hplain : ∀ entity, program.override? entity = none) {entity : Entity} {callee : Callee}
    (h : program.callee? entity = some callee)
    (hlength : args.length = callee.signature.args.length)
    (hwhen : ∀ union, callee = .when union → ∃ owner index payload handlers,
      args = .union owner index payload :: handlers ∧ index < union.options.length) :
  callee.Enters ask fuel args (evalEntity program ask fuel entity args)
  := by
  unfold Program.callee? at h
  unfold evalEntity
  by_cases hnative : entity.module.isNative = true
  case pos =>
    rw [if_pos hnative] at h ⊢
    unfold nativeCallee? at h
    unfold evalNative
    cases hstruct : nativeDefinitions.struct? entity.id with
    | some header =>
      simp only [hstruct] at h ⊢
      cases h
      exact enters_struct (by simpa [Callee.signature, StructHeader.constructor] using hlength)
    | none =>
      simp only [hstruct] at h ⊢
      obtain ⟨function, hfunction, rfl⟩ := Option.map_eq_some_iff.mp h
      rw [hfunction]
      exact .native (function.takes_of_length hlength)
  case neg =>
    rw [if_neg hnative] at h ⊢
    obtain ⟨module, hmodule, h⟩ := Option.bind_eq_some_iff.mp h
    rw [hmodule]
    exact enters_evalDeclared hplain h hlength hwhen

end Enters

/-! ### What has a signature is reached -/

section Reached

variable {module : Module} {id : EntityId}

theorem definitions_function? :
  module.definitions.function? id = (module.function? id).map (·.toFunctionHeader.signature)
  := by
  simp [Definitions.function?, Module.definitions, Module.function?, List.find?_map,
    Function.comp_def, FunctionHeader.signature]

theorem definitions_struct? :
  module.definitions.struct? id = (module.struct? id).map (·.toStructHeader)
  := by
  simp [Definitions.struct?, Module.definitions, Module.struct?, List.find?_map,
    Function.comp_def]

/-- What is found under an id is declared with its kind. -/
theorem mem_entries_of_find? :
  (∀ f, module.function? id = some f → (id, .function) ∈ module.definitions.entries)
    ∧ (∀ s, module.struct? id = some s → (id, .struct) ∈ module.definitions.entries)
    ∧ (∀ i, module.interface? id = some i → (id, .interface) ∈ module.definitions.entries)
    ∧ (∀ i, module.adapterOwner? id = some i → (id, .adapter) ∈ module.definitions.entries)
  := by
  simp only [Definitions.entries, List.mem_append, List.mem_map, List.mem_flatMap, Prod.mk.injEq]
  refine ⟨fun f hf => ?_, fun s hs => ?_, fun i hi => ?_, fun i hi => ?_⟩
  · obtain ⟨hmem, hid⟩ := Definitions.function?_eq_some (definitions_function?.trans
      (congrArg _ hf))
    exact .inl ⟨_, hmem, hid, trivial⟩
  · obtain ⟨hmem, hid⟩ := Definitions.struct?_eq_some (definitions_struct?.trans (congrArg _ hs))
    exact .inr (.inl ⟨_, hmem, hid, trivial⟩)
  · obtain ⟨hmem, rfl⟩ := module.definitions.interface?_eq_some hi
    exact .inr (.inr (.inl ⟨i, hmem, by simp⟩))
  · obtain ⟨hmem, rfl⟩ := module.definitions.adapterOwner?_eq_some hi
    exact .inr (.inr (.inl ⟨i, hmem, by simp⟩))

/-- An id that ends like that of a case distinction is one if its parent is a union. -/
theorem mem_entries_of_last {definitions : Definitions} {union : Union}
    (h : definitions.unionOf? id = some union) (hlast : id.last = "when") :
  (id, .when) ∈ definitions.entries
  := by
  obtain ⟨hmem, hid⟩ := Definitions.unionOf?_eq_some h
  have hwhen : union.whenId = id := by
    rw [hid, hlast]
    rfl
  simp only [Definitions.entries, List.mem_append, List.mem_flatMap]
  exact .inr (.inr (.inr (.inl ⟨union, hmem, by simp [hwhen]⟩)))

theorem last_of_mem_entries {definitions : Definitions}
    (h : (id, .when) ∈ definitions.entries) :
  id.last = "when"
  := by
  simp only [Definitions.entries, List.mem_append, List.mem_map, List.mem_flatMap, List.mem_cons,
    Prod.mk.injEq, reduceCtorEq, and_false, exists_false, List.not_mem_nil, or_false, false_or,
    and_true] at h
  obtain ⟨union, -, rfl⟩ := h
  exact EntityId.last_child _ _

/-- Where no id has two declarations, one that is declared is not found as anything else. -/
theorem find?_eq_none_of_kind (hdistinct : module.definitions.Distinct) {kind : EntityKind}
    (h : (id, kind) ∈ module.definitions.entries) :
  (kind ≠ .function → module.function? id = none)
    ∧ (kind ≠ .struct → module.struct? id = none)
    ∧ (kind ≠ .interface → module.interface? id = none)
    ∧ (kind ≠ .adapter → module.adapterOwner? id = none)
  := by
  obtain ⟨hfunction, hstruct, hinterface, hadapter⟩ := @mem_entries_of_find? module id
  simp only [Option.eq_none_iff_forall_ne_some]
  exact ⟨fun hne f hf => hne (hdistinct.kind_unique h (hfunction f hf)),
    fun hne s hs => hne (hdistinct.kind_unique h (hstruct s hs)),
    fun hne i hi => hne (hdistinct.kind_unique h (hinterface i hi)),
    fun hne i hi => hne (hdistinct.kind_unique h (hadapter i hi))⟩

theorem callee?_of_unionOf? (hdistinct : module.definitions.Distinct) {kind : EntityKind}
    (h : (id, kind) ∈ module.definitions.entries) (hkind : kind = .option ∨ kind = .when)
    {union : Union} (hunion : module.definitions.unionOf? id = some union) :
  module.callee? id = union.callee? id.last
  := by
  obtain ⟨hfunction, hstruct, hinterface, hadapter⟩ := find?_eq_none_of_kind hdistinct h
  have hfind : id.parent?.bind module.union? = some union := hunion
  obtain rfl | rfl := hkind <;>
    rw [Module.callee?, hfunction nofun, hstruct nofun, hinterface nofun, hadapter nofun, hfind] <;>
    rfl

/-- Where no id has two declarations, what is declared as a kind with a signature is reached as
that kind, with that signature. -/
theorem exists_callee? (hdistinct : module.definitions.Distinct) {kind : EntityKind}
    (hentry : (id, kind) ∈ module.definitions.entries) {signature : Signature}
    (h : module.definitions.signature? kind id = some signature) (hkind : kind ≠ .native) :
  ∃ callee, module.callee? id = some callee ∧ callee.kind = kind ∧ callee.signature = signature
  := by
  obtain ⟨hfunction, hstruct, hinterface, hadapter⟩ := find?_eq_none_of_kind hdistinct hentry
  cases kind <;> simp only [Definitions.signature?, reduceCtorEq] at h
  case native => exact absurd rfl hkind
  case function =>
    rw [definitions_function?] at h
    obtain ⟨function, hfound, rfl⟩ := Option.map_eq_some_iff.mp h
    exact ⟨.function function, by rw [Module.callee?, hfound], rfl, rfl⟩
  case struct =>
    rw [definitions_struct?, Option.map_map] at h
    obtain ⟨struct, hfound, rfl⟩ := Option.map_eq_some_iff.mp h
    exact ⟨.struct struct, by rw [Module.callee?, hfunction (by decide), hfound], rfl, rfl⟩
  case interface =>
    obtain ⟨interface, hfound, rfl⟩ := Option.map_eq_some_iff.mp h
    have hfound : module.interface? id = some interface := hfound
    refine ⟨.interface interface, ?_, rfl, rfl⟩
    rw [Module.callee?, hfunction (by decide), hstruct (by decide), hfound]
  case adapter =>
    obtain ⟨interface, hfound, rfl⟩ := Option.map_eq_some_iff.mp h
    have hfound : module.adapterOwner? id = some interface := hfound
    refine ⟨.adapter interface, ?_, rfl, rfl⟩
    rw [Module.callee?, hfunction (by decide), hstruct (by decide), hinterface (by decide),
      hfound]
  case option =>
    obtain ⟨union, hunion, h⟩ := Option.bind_eq_some_iff.mp h
    obtain ⟨option, hoption, rfl⟩ := Option.map_eq_some_iff.mp h
    -- an option named as the case distinction would be declared twice
    have hname : id.last ≠ "when" := fun hlast =>
      absurd (hdistinct.kind_unique hentry (mem_entries_of_last hunion hlast)) (by decide)
    refine ⟨.option union option, ?_, rfl, rfl⟩
    rw [callee?_of_unionOf? hdistinct hentry (.inl rfl) hunion, Union.callee?, if_neg hname,
      hoption]
    rfl
  case when =>
    obtain ⟨union, hunion, rfl⟩ := Option.map_eq_some_iff.mp h
    refine ⟨.when union, ?_, rfl, rfl⟩
    rw [callee?_of_unionOf? hdistinct hentry (.inr rfl) hunion, Union.callee?,
      if_pos (last_of_mem_entries hentry)]

end Reached

/-! ### The native module -/

theorem NativeFunction.nodup_ids :
  (all.map (·.id)).Nodup
  := by
  have h := distinct_nativeDefinitions.nodup_parts.1
  simpa [nativeDefinitions, Function.comp_def, NativeFunction.signature] using h

/-- A native function is found under its id. -/
theorem NativeFunction.ofId?_id (function : NativeFunction) :
  NativeFunction.ofId? function.id = some function
  := by
  have hfind := find?_of_nodup nodup_ids function.mem_all
  rw [NativeFunction.ofId?, NativeFunction.table, List.find?_map, Option.map_map]
  simp only [Function.comp_def]
  rw [hfind]
  rfl

/-- The native functions and structs with a signature are reached with it. -/
theorem exists_nativeCallee? {id : EntityId} {kind : EntityKind} {signature : Signature}
    (hkind : kind = .native ∨ kind = .struct)
    (h : nativeDefinitions.signature? kind id = some signature) :
  ∃ callee, nativeCallee? id = some callee ∧ callee.kind = kind ∧ callee.signature = signature
  := by
  obtain rfl | rfl := hkind
  · have h : nativeDefinitions.function? id = some signature := h
    obtain ⟨hmem, hid⟩ := Definitions.function?_eq_some h
    obtain ⟨function, -, rfl⟩ := List.mem_map.mp hmem
    have hnone : nativeDefinitions.struct? id = none := by
      rw [Option.eq_none_iff_forall_ne_some]
      intro header hheader
      obtain ⟨hheader, hheaderId⟩ := Definitions.struct?_eq_some hheader
      have hfunction : (id, EntityKind.function) ∈ nativeDefinitions.entries := by
        simp only [Definitions.entries, List.mem_append, List.mem_map]
        exact .inl ⟨_, hmem, by rw [hid]⟩
      have hstruct : (id, EntityKind.struct) ∈ nativeDefinitions.entries := by
        simp only [Definitions.entries, List.mem_append, List.mem_map]
        exact .inr (.inl ⟨header, hheader, by rw [hheaderId]⟩)
      exact absurd (distinct_nativeDefinitions.kind_unique hfunction hstruct) (by decide)
    refine ⟨.native function, ?_, rfl, rfl⟩
    have hfunction : NativeFunction.ofId? id = some function := hid ▸ function.ofId?_id
    rw [nativeCallee?, hnone, hfunction]
    rfl
  · obtain ⟨header, hheader, rfl⟩ := Option.map_eq_some_iff.mp h
    exact ⟨.struct { header with requires := none }, by rw [nativeCallee?, hheader], rfl, rfl⟩

/-! ### Bindings -/

/-- What the target of a binding makes of values for all its slots. -/
def Target.run (ask : Request → Eval Value) (target : Target) (values : List Value) : Eval Value :=
  match target with
  | .entity called => ask (.call called values)
  | .closure called => callClosure ask called values

/-- A binding with values for its open slots is run with the values of all its slots. -/
theorem applyBinding_eq {ask : Request → Eval Value} {binding : Binding} {args values : List Value}
    (hcount : args.length = binding.openSlots)
    (hslots : Binding.fillSlots binding.slots (args.map some) = values.map some) :
  applyBinding ask binding args = binding.target.run ask values
  := by
  have hfill : binding.fill? (args.map some)
      = some (.mk binding.target (values.map some) binding.chosen) := by
    rw [Binding.fill?, List.length_map, if_pos hcount, hslots]
  have harguments : (Binding.mk binding.target (values.map some) binding.chosen).arguments?
      = some values := by
    rw [Binding.arguments?, mapM_id_eq_some]
    rfl
  rw [applyBinding, Binding.fill, hfill]
  simp only [pure_bind, harguments]
  rfl

end TypedModules
