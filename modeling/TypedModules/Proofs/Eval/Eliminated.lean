import TypedModules.Proofs.Eval.Enforced
import TypedModules.Proofs.Eval.Linking
import TypedModules.Proofs.Eval.Staged

/-!
# What eliminators give back

Members are taken out of a struct by their names, a union value is told apart by its case
distinction, and a method is taken out of an instance and applied.  Each of these undoes the
constructor of what it is used on: the members are the arguments, the handler of the option is
applied to the option's value and to nothing else, and a method is the adapter's member, which is
given the data before its arguments: `eliminators_undo`.

A method has one open slot less than the adapter's member, and says so where it is applied to a
wrong number of arguments (`miscounted_method`).
-/

namespace TypedModules

/-! ### What is reached -/

section Reached

variable {program : Program} {ask : Request → Eval Value} {fuel : Nat} {args : List Value}

/-- What a module says that declares an interface or a union is what the module says that is found
under the id. -/
theorem Accepted.exists_home (haccepted : Accepted program.module) {id : ModuleId}
    {definitions : Definitions} (hd : program.module.definitionsOf? id = some definitions)
    (hdeclares : definitions.interfaces ≠ [] ∨ definitions.unions ≠ []) :
  ∃ home, program.module.find? id = some home ∧ home.definitions = definitions
    ∧ home.definitions.Distinct ∧ ∀ (ask : Request → Eval Value) (fuel : Nat) (entity : Entity)
      (args : List Value), entity.module = id →
        evalEntity program ask fuel entity args
          = evalDeclared program ask fuel home entity args
  := by
  have hdistinct := (haccepted.formed id definitions hd).distinct
  unfold Module.definitionsOf? at hd
  split at hd
  next =>
    cases hd
    simp [nativeDefinitions] at hdeclares
  next hnative =>
    obtain ⟨home, hhome, rfl⟩ := Option.map_eq_some_iff.mp hd
    refine ⟨home, hhome, rfl, hdistinct, ?_⟩
    rintro ask fuel entity args rfl
    rw [evalEntity, if_neg hnative, hhome]

theorem evalEntity_struct (haccepted : Accepted program.module) {entity : Entity} {struct : Struct}
    (h : program.struct? entity = some struct) :
  evalEntity program ask fuel entity args = construct ask struct args
  := by
  unfold Program.struct? at h
  unfold evalEntity
  split at h
  next hnative =>
    obtain ⟨header, hheader, rfl⟩ := Option.map_eq_some_iff.mp h
    rw [if_pos hnative, evalNative, hheader]
  next hnative =>
    obtain ⟨home, hhome, hstruct⟩ := Option.bind_eq_some_iff.mp h
    have hd : program.module.definitionsOf? entity.module = some home.definitions := by
      rw [Module.definitionsOf?, if_neg hnative, hhome, Option.map_some]
    have hdistinct := (haccepted.formed _ _ hd).distinct
    have hentry := mem_entries_of_find?.2.1 struct hstruct
    rw [if_neg hnative, hhome]
    dsimp only
    rw [evalDeclared, (find?_eq_none_of_kind hdistinct hentry).1 (by decide), hstruct]

/-- A program finds no struct but those that its module knows of. -/
theorem Program.exists_definitions_of_struct? {entity : Entity} {struct : Struct}
    (h : program.struct? entity = some struct) :
  ∃ definitions, program.module.definitionsOf? entity.module = some definitions
    ∧ struct.toStructHeader ∈ definitions.structs
  := by
  unfold Program.struct? at h
  unfold Module.definitionsOf?
  split at h
  next hnative =>
    obtain ⟨header, hheader, rfl⟩ := Option.map_eq_some_iff.mp h
    exact ⟨_, if_pos hnative, (Definitions.struct?_eq_some hheader).1⟩
  next hnative =>
    obtain ⟨home, hhome, hstruct⟩ := Option.bind_eq_some_iff.mp h
    refine ⟨home.definitions, by rw [if_neg hnative, hhome, Option.map_some], ?_⟩
    exact List.mem_map_of_mem (List.mem_of_find?_eq_some hstruct)

variable (haccepted : Accepted program.module) {id : ModuleId} {definitions : Definitions}
  (hd : program.module.definitionsOf? id = some definitions)

include haccepted hd

theorem evalEntity_interface {interface : Interface}
    (hmem : interface ∈ definitions.interfaces) :
  evalEntity program ask fuel interface.entity args = constructInstance interface args
  := by
  obtain ⟨home, -, rfl, hdistinct, heval⟩ := haccepted.exists_home hd
    (.inl (List.ne_nil_of_mem hmem))
  have hfound : home.interface? interface.id = some interface := hdistinct.interface?_of_mem hmem
  have hentry := mem_entries_of_find?.2.2.1 interface hfound
  have hnone := find?_eq_none_of_kind hdistinct hentry
  rw [heval _ _ _ _ ((haccepted.formed _ _ hd).interfaces _ hmem).1, evalDeclared]
  simp only [Interface.entity, hnone.1 (by decide), hnone.2.1 (by decide), hfound]

theorem evalEntity_adapter {interface : Interface} (hmem : interface ∈ definitions.interfaces) :
  evalEntity program ask fuel interface.adapterEntity args = constructAdapter interface args
  := by
  obtain ⟨home, -, rfl, hdistinct, heval⟩ := haccepted.exists_home hd
    (.inl (List.ne_nil_of_mem hmem))
  have hfound : home.adapterOwner? interface.adapterId = some interface :=
    hdistinct.adapterOwner?_of_mem hmem
  have hentry := mem_entries_of_find?.2.2.2 interface hfound
  have hnone := find?_eq_none_of_kind hdistinct hentry
  rw [heval _ _ _ _ ((haccepted.formed _ _ hd).interfaces _ hmem).1, evalDeclared]
  simp only [Interface.adapterEntity, hnone.1 (by decide), hnone.2.1 (by decide),
    hnone.2.2.1 (by decide), hfound]

/-- What a union brings along under a name is reached if it is declared as an option or a case
distinction. -/
theorem evalEntity_unionOf {union : Union} (hmem : union ∈ definitions.unions)
    (hsegments : union.id.segments ≠ []) {name : String} {kind : EntityKind}
    (hentry : (union.id.child name, kind) ∈ definitions.entries)
    (hkind : kind = .option ∨ kind = .when) :
  evalEntity program ask fuel ⟨union.module, union.id.child name⟩ args
    = evalUnion ask union name args
  := by
  obtain ⟨home, -, rfl, hdistinct, heval⟩ := haccepted.exists_home hd
    (.inr (List.ne_nil_of_mem hmem))
  have hfound : home.union? union.id = some union := hdistinct.union?_of_mem hmem
  obtain ⟨hfunction, hstruct, hinterface, hadapter⟩ := find?_eq_none_of_kind hdistinct hentry
  rw [heval _ _ _ _ ((haccepted.formed _ _ hd).unions _ hmem).1, evalDeclared]
  have hne : kind ≠ .function ∧ kind ≠ .struct ∧ kind ≠ .interface ∧ kind ≠ .adapter := by
    obtain rfl | rfl := hkind <;> decide
  simp only [hfunction hne.1, hstruct hne.2.1, hinterface hne.2.2.1, hadapter hne.2.2.2,
    EntityId.parent?_child name hsegments, Option.bind_some, hfound, EntityId.last_child]

theorem evalEntity_option {union : Union} (hmem : union ∈ definitions.unions)
    (hsegments : union.id.segments ≠ []) {option : UnionOption} (hoption : option ∈ union.options) :
  evalEntity program ask fuel ⟨union.module, union.id.child option.name⟩ args
    = constructOption union option.name args
  := by
  have hdistinct := (haccepted.formed _ _ hd).distinct
  obtain ⟨hoptions, hwhen⟩ := mem_entries_union hmem
  have hentry := hoptions option hoption
  have hname : option.name ≠ "when" := by
    intro e
    rw [e] at hentry
    exact absurd (hdistinct.kind_unique hentry hwhen) (by decide)
  rw [evalEntity_unionOf haccepted hd hmem hsegments hentry (.inl rfl), evalUnion, if_neg hname]

theorem evalEntity_when {union : Union} (hmem : union ∈ definitions.unions)
    (hsegments : union.id.segments ≠ []) :
  evalEntity program ask fuel ⟨union.module, union.whenId⟩ args = distinguish ask union args
  := evalEntity_unionOf haccepted hd hmem hsegments (mem_entries_union hmem).2 (.inr rfl)

end Reached

/-! ### Members -/

/-- Whether following names gives values, in their order. -/
def Value.Offers (value : Value) (names : List String) (members : List Value) : Prop :=
  names.map value.follow = members.map pure

theorem offers_struct {header : StructHeader} {members : List Value}
    (hlength : members.length = header.members.length)
    (hnames : (header.members.map (·.name)).Nodup) :
  (Value.struct header members).Offers (header.members.map (·.name)) members
  := by
  apply List.ext_getElem
  · simp [hlength]
  intro index hleft hright
  have hindex : index < header.members.length := by simpa using hleft
  have hfirst : header.memberIndex? header.members[index].name = some index :=
    findIdx?_of_nodup hnames (List.getElem?_eq_getElem hindex)
  have hvalue : members[index]? = some members[index] := List.getElem?_eq_getElem (by omega)
  simp only [List.getElem_map, Value.follow, Value.member?, hfirst, Option.bind_some, hvalue]

theorem offers_object {interface : Interface} {methods : List Binding}
    (hlength : methods.length = interface.methods.length)
    (hnames : (interface.methods.map (·.name)).Nodup) :
  (Value.object interface methods).Offers (interface.methods.map (·.name))
    (methods.map .function)
  := by
  apply List.ext_getElem
  · simp [hlength]
  intro index hleft hright
  have hindex : index < interface.methods.length := by simpa using hleft
  have hfirst : interface.methodIndex? interface.methods[index].name = some index :=
    findIdx?_of_nodup hnames (List.getElem?_eq_getElem hindex)
  have hvalue : methods[index]? = some methods[index] := List.getElem?_eq_getElem (by omega)
  simp only [List.getElem_map, Value.follow, Value.member?, hfirst, Option.bind_some, hvalue,
    Option.map_some]

/-- What is offered under the name of an item of a list is at the position of the item. -/
theorem Value.Offers.getElem {value : Value} {names : List String} {members : List Value}
    (h : value.Offers names members) {index : Nat} (hindex : index < names.length) :
  ∃ hmember : index < members.length, value.follow names[index] = pure members[index]
  := by
  have hlength : names.length = members.length := by simpa using congrArg List.length h
  refine ⟨hlength ▸ hindex, ?_⟩
  have hget := congrArg (·[index]?) h
  simpa [List.getElem?_eq_getElem hindex, List.getElem?_eq_getElem (hlength ▸ hindex)] using hget

namespace Program

/-- Whether the members of what the constructor of a struct builds are its arguments. -/
structure GivesBack (program : Program) (entity : Entity) (names : List String)
    (isRestricted : Bool) : Prop where
  /-- A constructor that does not restrict its arguments builds a value of an argument for each
  name. -/
  builds (fuel : Nat) (args : List Value) (store : Store) :
    isRestricted = false → args.length = names.length →
    ∃ value, (program.evaluate (fuel + 1) entity args).outcome store = (.ok value, store)
  /-- What is built, or else what the success holds that is returned, offers the arguments under
  the names. -/
  offers (fuel : Nat) (args : List Value) (store after : Store) (result : Value) :
    (program.evaluate fuel entity args).outcome store = (.ok result, after) →
    isRestricted = true ∧ result = .failure
      ∨ ∃ value : Value, result = (if isRestricted then .success value else value)
        ∧ value.Offers names args

end Program

/-! ### Successes -/

section Successes

variable {α β : Type} {store after : Store}

/-- What an evaluation in a frame succeeds with, it succeeds with outside. -/
theorem outcome_of_inFrame {entity : Entity} {run : Eval α} {a : α}
    (h : (Eval.inFrame entity run).outcome store = (.ok a, after)) :
  run.outcome store = (.ok a, after)
  := by
  rw [outcome_inFrame] at h
  split at h
  · cases h
  · exact h

/-- What evaluations succeed with one after the other, the second succeeds with after the first. -/
theorem exists_of_outcome_bind {run : Eval α} {next : α → Eval β} {b : β}
    (h : (run >>= next).outcome store = (.ok b, after)) :
  ∃ a left, run.outcome store = (.ok a, left) ∧ (next a).outcome left = (.ok b, after)
  := by
  rw [Discipline.outcome_bind] at h
  split at h
  next a left hrun => exact ⟨a, left, hrun, h⟩
  next => cases h

theorem eq_of_outcome_pure {a b : α} (h : (pure a : Eval α).outcome store = (.ok b, after)) :
  a = b
  := by
  cases h
  rfl

/-- A count was as expected if something comes after it. -/
theorem eq_of_outcome_checkArity {name : String} {expected got : Nat} {u : Unit}
    (h : (Eval.checkArity name expected got).outcome store = (.ok u, after)) :
  expected = got
  := by
  unfold Eval.checkArity at h
  split at h
  next hcount => exact hcount
  next => cases h

/-- What a program evaluates an entity to was found in its frame. -/
theorem exists_of_outcome_evaluate {program : Program} {fuel : Nat} {entity : Entity}
    {args : List Value} {value : Value}
    (h : (program.evaluate fuel entity args).outcome store = (.ok value, after)) :
  ∃ less, (evalEntity program (program.answer less) less entity args).outcome store
    = (.ok value, after)
  := by
  cases fuel with
  | zero => cases h
  | succ less => exact ⟨less, outcome_of_inFrame h⟩

end Successes

section Members

variable {program : Program} (haccepted : Accepted program.module)

include haccepted

theorem givesBack_struct {entity : Entity} {struct : Struct}
    (h : program.struct? entity = some struct) :
  program.GivesBack entity (struct.members.map (·.name)) struct.requires.isSome
  := by
  obtain ⟨definitions, hd, hmem⟩ := Program.exists_definitions_of_struct? h
  have hnames := ((haccepted.formed _ _ hd).structs _ hmem).2.names
  constructor
  case builds =>
    intro fuel args store hplain hlength
    have hnone : struct.requires = none := by simpa using hplain
    refine ⟨.struct struct.toStructHeader args, ?_⟩
    show (Eval.inFrame _ (evalEntity _ _ _ _ _)).outcome _ = _
    rw [evalEntity_struct haccepted h, construct, checkArity_of_eq (by simpa using hlength), hnone]
    rfl
  case offers =>
    intro fuel args store after result hresult
    obtain ⟨less, hresult⟩ := exists_of_outcome_evaluate hresult
    rw [evalEntity_struct haccepted h, construct] at hresult
    obtain ⟨u, left, hcount, hresult⟩ := exists_of_outcome_bind hresult
    have hoffers := offers_struct (eq_of_outcome_checkArity hcount).symm hnames
    cases hrequires : struct.requires with
    | none =>
      rw [hrequires] at hresult
      exact .inr ⟨_, (eq_of_outcome_pure hresult).symm, hoffers⟩
    | some requires =>
      rw [hrequires] at hresult
      obtain ⟨holds, left, -, hresult⟩ := exists_of_outcome_bind hresult
      cases holds with
      | true => exact .inr ⟨_, (eq_of_outcome_pure hresult).symm, hoffers⟩
      | false => exact .inl ⟨rfl, (eq_of_outcome_pure hresult).symm⟩

theorem givesBack_adapter {id : ModuleId} {definitions : Definitions}
    (hd : program.module.definitionsOf? id = some definitions) {interface : Interface}
    (hmem : interface ∈ definitions.interfaces) :
  program.GivesBack interface.adapterEntity (interface.methods.map (·.name)) false
  := by
  have hnames : interface.adapter.members.map (·.name) = interface.methods.map (·.name) := by
    simp [Interface.adapter]
  constructor
  case builds =>
    intro fuel args store _ hlength
    refine ⟨.struct interface.adapter args, ?_⟩
    show (Eval.inFrame _ (evalEntity _ _ _ _ _)).outcome _ = _
    rw [evalEntity_adapter haccepted hd hmem, constructAdapter,
      checkArity_of_eq (by simpa using hlength)]
    rfl
  case offers =>
    intro fuel args store after result hresult
    obtain ⟨less, hresult⟩ := exists_of_outcome_evaluate hresult
    rw [evalEntity_adapter haccepted hd hmem, constructAdapter] at hresult
    obtain ⟨u, left, hcount, hresult⟩ := exists_of_outcome_bind hresult
    have hlength : args.length = interface.adapter.members.length := by
      simpa [Interface.adapter] using (eq_of_outcome_checkArity hcount).symm
    have hoffers := offers_struct hlength
      (hnames ▸ ((haccepted.formed _ _ hd).interfaces _ hmem).2.names)
    exact .inr ⟨_, (eq_of_outcome_pure hresult).symm, hnames ▸ hoffers⟩

end Members

/-! ### Case distinctions -/

namespace Program

/-- Whether the case distinction of a union undoes the constructors of its options. -/
structure Distinguishes (program : Program) (union : Union) : Prop where
  /-- An option is built for its value, or for nothing. -/
  builds (fuel : Nat) (args : List Value) (store : Store) (option : UnionOption) :
    option ∈ union.options → args.length = option.type.toList.length →
    ∃ value, (program.evaluate (fuel + 1) ⟨union.module, union.id.child option.name⟩ args).outcome
      store = (.ok value, store)
  /-- What an option builds is told apart by applying the handler of the option to what the option
  was built from, whatever the other handlers are. -/
  applies (fuel less : Nat) (args : List Value) (store after : Store) (value : Value) (index : Nat)
      (option : UnionOption) (handlers : List Value) (handler : Value) :
    union.options[index]? = some option →
    (program.evaluate fuel ⟨union.module, union.id.child option.name⟩ args).outcome store
      = (.ok value, after) →
    handlers.length = union.options.length → handlers[index]? = some handler →
    program.evaluate (less + 1) ⟨union.module, union.whenId⟩ (value :: handlers)
      = .inFrame ⟨union.module, union.whenId⟩ do
          let handler ← handler.asBinding
          program.apply less handler args

end Program

section Unions

/-- Of as many values as there are in an option the first is all. -/
theorem toList_head? {α β : Type} {value? : Option α} {values : List β}
    (h : value?.toList.length = values.length) :
  values.head?.toList = values
  := by
  have hle : value?.toList.length ≤ 1 := by cases value? <;> simp
  match values with
  | [] => rfl
  | [_] => rfl
  | _ :: _ :: _ =>
    rw [h] at hle
    simp at hle

variable {program : Program} (haccepted : Accepted program.module) {id : ModuleId}
  {definitions : Definitions} (hd : program.module.definitionsOf? id = some definitions)

include haccepted hd

theorem distinguishes_union {union : Union} (hmem : union ∈ definitions.unions)
    (hsegments : union.id.segments ≠ []) :
  program.Distinguishes union
  := by
  have hnames := ((haccepted.formed _ _ hd).unions _ hmem).2.names
  have hfind : ∀ (index : Nat) (option : UnionOption), union.options[index]? = some option →
      union.optionIndex? option.name = some index ∧ union.option? option.name = some option := by
    intro index option hoption
    have hfirst : union.optionIndex? option.name = some index := findIdx?_of_nodup hnames hoption
    refine ⟨hfirst, ?_⟩
    have hfind : union.option? option.name
        = (union.optionIndex? option.name).bind (union.options[·]?) :=
      List.find?_eq_bind_findIdx?_getElem?
    rw [hfind, hfirst, Option.bind_some, hoption]
  constructor
  case builds =>
    intro fuel args store option hoption hlength
    obtain ⟨index, hindex⟩ := List.getElem?_of_mem hoption
    obtain ⟨hfirst, hfound⟩ := hfind index option hindex
    refine ⟨.union union index args.head?, ?_⟩
    show (Eval.inFrame _ (evalEntity _ _ _ _ _)).outcome _ = _
    rw [evalEntity_option haccepted hd hmem hsegments hoption, constructOption, hfirst, hfound]
    simp only [checkArity_of_eq hlength]
    rfl
  case applies =>
    intro fuel less args store after value index option handlers handler hindex hvalue hlength
      hhandler
    obtain ⟨hfirst, hfound⟩ := hfind index option hindex
    obtain ⟨fuel, hvalue⟩ := exists_of_outcome_evaluate hvalue
    rw [evalEntity_option haccepted hd hmem hsegments (List.mem_of_getElem? hindex),
      constructOption, hfirst, hfound] at hvalue
    obtain ⟨u, left, hcount, hvalue⟩ := exists_of_outcome_bind hvalue
    have hargs := toList_head? (eq_of_outcome_checkArity hcount)
    rw [← eq_of_outcome_pure hvalue]
    show Eval.inFrame _ (evalEntity _ _ _ _ _) = _
    rw [evalEntity_when haccepted hd hmem hsegments, distinguish,
      checkArity_of_eq (by simp [hlength]), pure_bind]
    simp only [hhandler, hargs]
    rfl

end Unions

/-! ### Methods -/

/-- Whether a binding is another with a value before its arguments: applied to as many arguments
as it has open slots, it gives what the other gives for the value and the arguments, and with
another number of arguments neither can be applied. -/
structure Program.Prepends (program : Program) (data : Value) (bound base : Binding) : Prop where
  openSlots : bound.openSlots + 1 = base.openSlots
  applies (fuel : Nat) (args : List Value) :
    args.length = bound.openSlots →
    program.apply fuel bound args = program.apply fuel base (data :: args)
  refuses (fuel : Nat) (args : List Value) :
    args.length ≠ bound.openSlots →
    program.apply (fuel + 1) bound args
        = .fail (.arityMismatch "function binding" bound.openSlots args.length)
      ∧ program.apply (fuel + 1) base (data :: args)
        = .fail (.arityMismatch "function binding" (bound.openSlots + 1) (args.length + 1))

namespace Binding

variable {data : Value} {bound base : Binding}

/-- A binding whose first open slot is filled leaves the others open. -/
theorem bindFirst?_eq_some {n : Nat} (h : base.openSlots = n + 1) :
  base.bindFirst? data
    = some (mk base.target (fillSlots base.slots (some data :: List.replicate n none)) base.chosen)
  := by
  rw [bindFirst?, fillFirst?_eq h, Option.map_some]

theorem exists_openSlots_of_bindFirst? (h : base.bindFirst? data = some bound) :
  ∃ n, base.openSlots = n + 1
  := by
  apply Nat.exists_eq_add_one.mpr
  by_contra hnone
  have hopen : base.slots.countP (·.isNone) = 0 := Nat.eq_zero_of_not_pos hnone
  obtain ⟨filled, hslots⟩ := exists_map_some hopen
  have hfail : fillFirst? data base.slots = none := by
    rw [hslots]
    clear h hslots hopen hnone
    induction filled with
    | nil => rfl
    | cons first rest ih => simp [fillFirst?, ih]
  rw [bindFirst?, hfail] at h
  cases h

/-- A binding that is applied to a wrong number of arguments says so. -/
theorem applyBinding_of_length {ask : Request → Eval Value} {binding : Binding} {args : List Value}
    (h : args.length ≠ binding.openSlots) :
  applyBinding ask binding args
    = .fail (.arityMismatch "function binding" binding.openSlots args.length)
  := by
  rw [applyBinding, fill, fill?, List.length_map, if_neg h]
  rfl

/-- A binding with its first open slot filled is the binding with a value before its arguments. -/
theorem prepends_of_bindFirst? (program : Program) (h : base.bindFirst? data = some bound) :
  program.Prepends data bound base
  := by
  obtain ⟨n, hopen⟩ := exists_openSlots_of_bindFirst? h
  obtain rfl := Option.some.inj ((bindFirst?_eq_some hopen).symm.trans h)
  have hlength : (some data :: List.replicate n (none : Option Value)).length
      = base.slots.countP (·.isNone) := by
    rw [List.length_cons, List.length_replicate]
    exact hopen.symm
  have hbound : (mk base.target (fillSlots base.slots (some data :: List.replicate n none))
      base.chosen).openSlots = n := by
    refine (countP_fillSlots hlength).trans ?_
    simp [List.countP_replicate]
  constructor
  case openSlots => rw [hbound, hopen]
  case applies =>
    intro fuel args hargs
    rw [hbound] at hargs
    obtain ⟨all, hall⟩ : ∃ all : List Value,
        fillSlots base.slots ((data :: args).map some) = all.map some :=
      exists_fillSlots (by rw [List.length_cons, hargs]; exact hopen.symm)
    have hstaged : fillSlots (fillSlots base.slots (some data :: List.replicate n none))
        (args.map some) = all.map some := by
      rw [fillSlots_fillSlots hlength, fillSlots, ← hargs, ← List.length_map (f := some),
        fillSlots_replicate, ← List.map_cons, hall]
    cases fuel with
    | zero => rfl
    | succ fuel =>
      show applyBinding (program.answer fuel) _ args
        = applyBinding (program.answer fuel) base (data :: args)
      rw [applyBinding_eq (hargs.trans hbound.symm) hstaged,
        applyBinding_eq (by rw [List.length_cons, hargs, hopen]) hall]
      rfl
  case refuses =>
    intro fuel args hargs
    rw [hbound] at hargs ⊢
    constructor
    · show applyBinding (program.answer fuel) _ args = _
      rw [applyBinding_of_length (by rw [hbound]; exact hargs), hbound]
    · show applyBinding (program.answer fuel) base (data :: args) = _
      rw [applyBinding_of_length (by rw [hopen, List.length_cons]; omega), hopen, List.length_cons]

end Binding

namespace Program

/-- Whether the methods of the instances that an interface builds are the members of an adapter,
given the data. -/
structure Delegates (program : Program) (interface : Interface) : Prop where
  /-- An instance is built from data and members that all have an open slot. -/
  builds (fuel : Nat) (data : Value) (members : List Value) (store : Store) :
    (∀ member ∈ members, ∃ binding, member = .function binding ∧ 0 < binding.openSlots) →
    ∃ value, (program.evaluate (fuel + 1) interface.entity
      [data, .struct interface.adapter members]).outcome store = (.ok value, store)
  /-- What is followed from an instance puts the data before what is followed from the adapter. -/
  prepends (fuel : Nat) (data : Value) (members : List Value) (store after : Store) (value : Value)
      (method : Method) :
    members.length = interface.methods.length →
    (program.evaluate fuel interface.entity
      [data, .struct interface.adapter members]).outcome store = (.ok value, after) →
    method ∈ interface.methods →
    ∃ bound base, value.follow method.name = pure (.function bound)
      ∧ (Value.struct interface.adapter members).follow method.name = pure (.function base)
      ∧ program.Prepends data bound base

end Program

section Methods

variable {program : Program} {data : Value} {members : List Value} {methods : List Binding}
  {store after : Store}

theorem exists_bindMethod
    (h : ∀ member ∈ members, ∃ binding, member = .function binding ∧ 0 < binding.openSlots) :
  ∃ methods, members.mapM (bindMethod data) = pure methods
  := by
  induction members with
  | nil => exact ⟨[], rfl⟩
  | cons member rest ih =>
    rw [List.forall_mem_cons] at h
    obtain ⟨⟨binding, rfl, hopen⟩, hrest⟩ := h
    obtain ⟨methods, hmethods⟩ := ih hrest
    obtain ⟨n, hn⟩ := Nat.exists_eq_add_one.mpr hopen
    obtain ⟨bound, hbound⟩ : ∃ bound, bindMethod data (.function binding) = pure bound := by
      simp only [bindMethod, Value.asBinding, pure_bind, Binding.bindFirst?_eq_some hn]
      exact ⟨_, rfl⟩
    exact ⟨bound :: methods, by rw [List.mapM_cons, hbound, pure_bind, hmethods, pure_bind]⟩

/-- What methods are bound to is bound position by position. -/
theorem forall₂_of_mapM_bindMethod
    (h : (members.mapM (bindMethod data)).outcome store = (.ok methods, after)) :
  List.Forall₂ (fun member bound => ∃ base, member = .function base
    ∧ base.bindFirst? data = some bound) members methods
  := by
  induction members generalizing methods store after with
  | nil =>
    obtain rfl := eq_of_outcome_pure h
    exact .nil
  | cons member rest ih =>
    rw [List.mapM_cons] at h
    obtain ⟨bound, left, hbound, h⟩ := exists_of_outcome_bind h
    obtain ⟨others, left', hothers, h⟩ := exists_of_outcome_bind h
    obtain rfl := eq_of_outcome_pure h
    refine .cons ?_ (ih hothers)
    obtain ⟨base, _, hbase, hbound⟩ := exists_of_outcome_bind hbound
    have hmember : member = .function base := by
      cases member <;> cases hbase
      rfl
    refine ⟨base, hmember, ?_⟩
    split at hbound
    next binding hbinding => rw [hbinding, eq_of_outcome_pure hbound]
    next => cases hbound

theorem delegates_interface (haccepted : Accepted program.module) {id : ModuleId}
    {definitions : Definitions} (hd : program.module.definitionsOf? id = some definitions)
    {interface : Interface} (hmem : interface ∈ definitions.interfaces) :
  program.Delegates interface
  := by
  have hnames := ((haccepted.formed _ _ hd).interfaces _ hmem).2.names
  have hadapter : interface.adapter.members.map (·.name) = interface.methods.map (·.name) := by
    simp [Interface.adapter]
  constructor
  case builds =>
    intro fuel data members store hmembers
    obtain ⟨methods, hmethods⟩ := exists_bindMethod hmembers
    refine ⟨.object interface methods, ?_⟩
    show (Eval.inFrame _ (evalEntity _ _ _ _ _)).outcome _ = _
    rw [evalEntity_interface haccepted hd hmem, constructInstance, hmethods]
    rfl
  case prepends =>
    intro fuel data members store after value method hlength hvalue hmethod
    obtain ⟨fuel, hvalue⟩ := exists_of_outcome_evaluate hvalue
    rw [evalEntity_interface haccepted hd hmem, constructInstance] at hvalue
    obtain ⟨methods, left, hmethods, hvalue⟩ := exists_of_outcome_bind hvalue
    obtain rfl := eq_of_outcome_pure hvalue
    have hbound := forall₂_of_mapM_bindMethod hmethods
    have hobject := offers_object (hbound.length_eq ▸ hlength) hnames
    have hstruct : (Value.struct interface.adapter members).Offers _ members :=
      offers_struct (by simpa [Interface.adapter] using hlength) (hadapter ▸ hnames)
    rw [hadapter] at hstruct
    obtain ⟨index, hindex, rfl⟩ := List.mem_iff_getElem.mp hmethod
    have hname : index < (interface.methods.map (·.name)).length := by simpa using hindex
    obtain ⟨hlt, hfollow⟩ := hobject.getElem hname
    obtain ⟨hlt', hfollow'⟩ := hstruct.getElem hname
    rw [List.length_map] at hlt
    obtain ⟨base, hbase, hfirst⟩ := List.forall₂_iff_get.mp hbound |>.2 index hlt' hlt
    refine ⟨methods[index], base, by simpa using hfollow, ?_,
      Binding.prepends_of_bindFirst? program hfirst⟩
    rw [← hbase]
    simpa using hfollow'

end Methods

/-- Eliminators undo constructors, in every module that a program reaches.  Following the names of
the members gives the arguments of the constructor of a struct or an adapter, in their order; a case
distinction applies the handler of the option that built the value to what the option was given; and
a method of an instance, applied to as many arguments as it has open slots, gives what the member of
the adapter gives for the data and these arguments.  With another number of arguments both are
refused, each with the number of slots that it has open. -/
theorem eliminators_undo {program : Program} (haccepted : Accepted program.module) :
  (∀ entity struct, program.struct? entity = some struct →
    program.GivesBack entity (struct.members.map (·.name)) struct.requires.isSome)
    ∧ ∀ id definitions, program.module.definitionsOf? id = some definitions →
      (∀ interface ∈ definitions.interfaces,
        program.GivesBack interface.adapterEntity (interface.methods.map (·.name)) false
        ∧ program.Delegates interface)
      ∧ ∀ union ∈ definitions.unions, union.id.segments ≠ [] → program.Distinguishes union
  := by
  refine ⟨fun entity struct h => givesBack_struct haccepted h, ?_⟩
  intro id definitions hd
  refine ⟨fun interface hmem => ?_, fun union hmem hsegments => ?_⟩
  · exact ⟨givesBack_adapter haccepted hd hmem, delegates_interface haccepted hd hmem⟩
  · exact distinguishes_union haccepted hd hmem hsegments

/-- A context that declares the struct `Pair{left: Integer, right: Integer}`, the union `Shape` with
the options `dot` and `side(Integer)`, and the interface `Scale` with the method
`of(size: Integer): Integer`. -/
def declaredContext : Context where
  structs := [{
    id := ⟨["Pair"]⟩
    typeParams := []
    members := [⟨"left", .integer⟩, ⟨"right", .integer⟩]
    requires := none
    annotations := []
    location := none }]
  interfaces := [{
    id := ⟨["Scale"]⟩
    typeParams := []
    methods := [⟨"of", [], [⟨"size", .integer, none⟩], .integer⟩]
    annotations := []
    location := none }]
  unions := [{
    id := ⟨["Shape"]⟩
    typeParams := []
    options := [⟨"dot", none, none⟩, ⟨"side", some .integer, none⟩]
    annotations := []
    location := none }]

/-- Whether a module declares one struct, one union and one interface, like those of
`declaredContext`. -/
def Module.hasShapes (module : Module) : Bool :=
  match module.structs, module.unions, module.interfaces with
  | [pair], [shape], [scale] =>
    pair.members.map (·.name) == ["left", "right"] && pair.requires.isNone
      && shape.options.map (fun o => (o.name, o.type.isSome)) == [("dot", false), ("side", true)]
      && shape.id == ⟨["Shape"]⟩ && scale.methods.map (·.name) == ["of"]
  | _, _, _ => false

theorem exists_shapes :
  ∃ (module : Module) (pair : Struct) (shape : Union) (scale : Interface), Accepted module
    ∧ module.structs = [pair] ∧ shape ∈ module.unions ∧ scale ∈ module.interfaces
    ∧ pair.members.map (·.name) = ["left", "right"] ∧ pair.requires = none
    ∧ shape.options.map (fun o => (o.name, o.type.isSome)) = [("dot", false), ("side", true)]
    ∧ shape.id = ⟨["Shape"]⟩ ∧ scale.methods.map (·.name) = ["of"]
  := by
  have hmade : (validate 0 declaredContext ⟨"example", "shapes"⟩ [] {}).module?.any
      Module.hasShapes = true := by
    decide +kernel
  obtain ⟨module, warnings, h, hshapes⟩ := Verdict.exists_success hmade
  unfold Module.hasShapes at hshapes
  split at hshapes
  case h_2 => cases hshapes
  next pair shape scale hstructs hunions hinterfaces =>
    simp only [Bool.and_eq_true, beq_iff_eq, Option.isNone_iff_eq_none] at hshapes
    obtain ⟨⟨⟨⟨hmembers, hplain⟩, hoptions⟩, hid⟩, hmethods⟩ := hshapes
    exact ⟨module, pair, shape, scale, Accepted.alone h, hstructs, by simp [hunions],
      by simp [hinterfaces], hmembers, hplain, hoptions, hid, hmethods⟩

/-- The integers of a pair are followed, a side is told apart from a dot, and a scale is applied
through an instance. -/
theorem eliminators_undo_shapes :
  ∃ (program : Program) (pair : Struct) (shape : Union) (scale : Interface),
    Accepted program.module ∧ program.struct? pair.entity = some pair
    ∧ shape ∈ program.module.unions ∧ scale ∈ program.module.interfaces
    ∧ (∃ value, (program.evaluate 1 pair.entity [.integer 3, .integer 4]).outcome {}
        = (.ok value, {})
      ∧ value.follow "left" = pure (.integer 3) ∧ value.follow "right" = pure (.integer 4))
    ∧ (∃ value, (program.evaluate 1 ⟨shape.module, shape.id.child "side"⟩ [.integer 5]).outcome {}
        = (.ok value, {})
      ∧ ∀ fuel first second, program.evaluate (fuel + 1) ⟨shape.module, shape.whenId⟩
          [value, first, .function second]
        = .inFrame ⟨shape.module, shape.whenId⟩ (program.apply fuel second [.integer 5]))
    ∧ ∃ adapter value bound base,
      (program.evaluate 1 scale.entity [.boolean true, adapter]).outcome {} = (.ok value, {})
      ∧ value.follow "of" = pure (.function bound) ∧ adapter.follow "of" = pure (.function base)
      ∧ program.Prepends (.boolean true) bound base
  := by
  obtain ⟨module, pair, shape, scale, hmodule, hstructs, hshape, hscale, hmembers, hplain,
    hoptions, hid, hmethods⟩ := exists_shapes
  let program : Program := { module := module }
  have haccepted : Accepted program.module := hmodule
  have hd : program.module.definitionsOf? module.id = some module.definitions :=
    definitionsOf?_self haccepted.not_native
  have hpair : program.struct? pair.entity = some pair := by
    have hown : pair.module = module.id :=
      hmodule.module_eq.1 pair (by simp [hstructs])
    have hnative : module.id.isNative = false := haccepted.not_native
    simp only [Program.struct?, StructHeader.entity, hown, hnative, program]
    simp [Module.find?_self, Module.struct?, hstructs]
  obtain ⟨hgives, hrest⟩ := eliminators_undo haccepted
  obtain ⟨hdelegates, hdistinguishes⟩ := hrest module.id _ hd
  have hpairs := hgives pair.entity pair hpair
  rw [hmembers, hplain] at hpairs
  have hunion := hdistinguishes shape hshape (by simp [hid])
  have hinstance := (hdelegates scale hscale).2
  refine ⟨program, pair, shape, scale, haccepted, hpair, hshape, hscale, ?_, ?_, ?_⟩
  · obtain ⟨value, hvalue⟩ := hpairs.builds 0 [.integer 3, .integer 4] {} rfl rfl
    obtain ⟨hfails, -⟩ | ⟨_, rfl, hoffers⟩ := hpairs.offers _ _ _ _ _ hvalue
    · cases hfails
    · exact ⟨_, hvalue, by simpa [Value.Offers] using hoffers⟩
  · have hside : (shape.options[1]?).map (fun o => (o.name, o.type.isSome))
        = some ("side", true) := by
      rw [← List.getElem?_map, hoptions]
      rfl
    obtain ⟨side, hget, hside⟩ := Option.map_eq_some_iff.mp hside
    obtain ⟨hname, htype⟩ := Prod.mk.inj hside
    obtain ⟨type, htype⟩ := Option.isSome_iff_exists.mp htype
    obtain ⟨value, hvalue⟩ := hunion.builds 0 [.integer 5] {} side (List.mem_of_getElem? hget)
      (by rw [htype]; rfl)
    refine ⟨value, hname ▸ hvalue, fun fuel first second => ?_⟩
    have hlength : shape.options.length = 2 := by simpa using congrArg List.length hoptions
    exact hunion.applies _ fuel _ _ _ _ 1 side [first, .function second] _ hget hvalue
      hlength.symm rfl
  · let members : List Value := [.function (.mk (.entity scale.entity) [none, none] [])]
    obtain ⟨value, hvalue⟩ := hinstance.builds 0 (.boolean true) members {}
      (by simp [members, Binding.openSlots, Binding.slots])
    have hof : (scale.methods.head?).map (·.name) = some "of" := by
      rw [← List.head?_map, hmethods]
      rfl
    obtain ⟨method, hmethod, hname⟩ := Option.map_eq_some_iff.mp hof
    have hcount : members.length = scale.methods.length := by
      simpa [members] using (congrArg List.length hmethods).symm
    obtain ⟨bound, base, hbound, hbase, hprepends⟩ :=
      hinstance.prepends _ _ _ _ _ _ method hcount hvalue (List.mem_of_mem_head? hmethod)
    exact ⟨_, value, bound, base, hvalue, hname ▸ hbound, hname ▸ hbase, hprepends⟩

/-- A method that is applied to too many arguments ends with another error than the member of the
adapter that is applied to the data and these arguments: it has one open slot less. -/
theorem miscounted_method :
  ∃ (program : Program) (interface : Interface) (method : Method) (data adapter value : Value)
      (bound base : Binding) (args : List Value),
    Accepted program.module ∧ interface ∈ program.module.interfaces ∧ method ∈ interface.methods
    ∧ (program.evaluate 1 interface.entity [data, adapter]).outcome {} = (.ok value, {})
    ∧ value.follow method.name = pure (.function bound)
    ∧ adapter.follow method.name = pure (.function base) ∧ 0 < base.openSlots
    ∧ (program.apply 1 bound args).outcome {} ≠ (program.apply 1 base (data :: args)).outcome {}
  := by
  obtain ⟨module, _, _, scale, haccepted, -, -, hscale, -, -, -, -, hmethods⟩ := exists_shapes
  let program : Program := { module := module }
  have hd : program.module.definitionsOf? module.id = some module.definitions :=
    definitionsOf?_self haccepted.not_native
  have hdelegates : program.Delegates scale := delegates_interface haccepted hd hscale
  let members : List Value := [.function (.mk (.entity scale.entity) [none, none] [])]
  have hcount : members.length = scale.methods.length := by
    simpa [members] using (congrArg List.length hmethods).symm
  obtain ⟨value, hvalue⟩ := hdelegates.builds 0 (.boolean true) members {}
    (by simp [members, Binding.openSlots, Binding.slots])
  obtain ⟨method, hmethod⟩ := List.exists_mem_of_length_pos
    (Nat.lt_of_lt_of_eq Nat.one_pos hcount)
  obtain ⟨bound, base, hbound, hbase, hprepends⟩ :=
    hdelegates.prepends _ _ _ _ _ _ method hcount hvalue hmethod
  let args : List Value := .replicate (bound.openSlots + 1) (.boolean true)
  obtain ⟨hrefused, hrefused'⟩ := hprepends.refuses 0 args (by simp [args])
  refine ⟨program, scale, method, _, _, value, bound, base, args, haccepted, hscale, hmethod,
    hvalue, hbound, hbase, by rw [← hprepends.openSlots]; omega, ?_⟩
  rw [hrefused, hrefused']
  intro hsame
  have hcause : (Except.error (.error ⟨.arityMismatch "function binding" bound.openSlots
        args.length, []⟩) : Except Halt Value)
      = .error (.error ⟨.arityMismatch "function binding" (bound.openSlots + 1)
        (args.length + 1), []⟩) := congrArg Prod.fst hsame
  simp at hcause

end TypedModules
