import TypedModules.Proofs.Eval.Script
import TypedModules.Proofs.Native.Positions

/-!
# Loops over lists

The native functions that call a function for the items of a list do so in order, and stop where a
call, or what is made of what it returns, ends with an error.  Each of them is a `Loop`, which is
told by what the function is called with and what is made of what it returns: `Loop.Goes` says which
calls there are, with the store that each of them finds, and how the loop ends.  Loops over one list
after another are one loop, and those whose results are put together need not know what came before.
Main statement: `list_loops_are_folds`.
-/

namespace TypedModules

/-- A loop over the items of a list: what a function is called with for the value so far and the
next item, and what is made of what it returns, which asks for nothing. -/
structure Loop (σ : Type) where
  args : σ → Value → List Value
  next : σ → Value → Value → Eval σ
  reads : ∀ value item result, (∃ after, next value item result = pure after)
    ∨ ∃ cause, next value item result = .fail cause

namespace Loop

variable {σ : Type}

/-- One turn of a loop. -/
def turn (loop : Loop σ) (apply : List Value → Eval Value) (value : σ) (item : Value) : Eval σ := do
  loop.next value item (← apply (loop.args value item))

/-- The value of a loop that starts with one. -/
def run (loop : Loop σ) (apply : List Value → Eval Value) (value : σ) (items : List Value) :
    Eval σ :=
  items.foldlM (loop.turn apply) value

theorem run_cons (loop : Loop σ) (apply : List Value → Eval Value) (value : σ) (item : Value)
    (rest : List Value) :
  loop.run apply value (item :: rest)
    = loop.turn apply value item >>= fun after => loop.run apply after rest
  := List.foldlM_cons

/-- A loop over two lists goes on with the second one where it ends with the first one. -/
theorem run_append (loop : Loop σ) (apply : List Value → Eval Value) (value : σ)
    (xs ys : List Value) :
  loop.run apply value (xs ++ ys)
    = loop.run apply value xs >>= fun after => loop.run apply after ys
  := List.foldlM_append

/-! ### What a loop calls -/

/-- Whether a loop that starts with a value and a store makes these calls, each with the store that
is there by then, and ends like this.  It goes from item to item, and ends early where a call ends
without a value or where nothing can be made of the value. -/
inductive Goes (loop : Loop σ) (ask : Request → Eval Value) (f : Binding) :
    σ → Store → List Value → List (Request × Store) → Except Halt σ × Store → Prop
  | nil {value : σ} {store : Store} : Goes loop ask f value store [] [] (.ok value, store)
  | fails {value : σ} {store after : Store} {item : Value} {rest : List Value} {halt : Halt} :
    (ask (.apply f (loop.args value item))).outcome store = (.error halt, after) →
    Goes loop ask f value store (item :: rest) [(.apply f (loop.args value item), store)]
      (.error halt, after)
  | refuses {value : σ} {store after : Store} {item result : Value} {rest : List Value}
      {cause : EvalCause} :
    (ask (.apply f (loop.args value item))).outcome store = (.ok result, after) →
    loop.next value item result = .fail cause →
    Goes loop ask f value store (item :: rest) [(.apply f (loop.args value item), store)]
      (.error (.error { cause := cause }), after)
  | goesOn {value next : σ} {store between : Store} {item result : Value} {rest : List Value}
      {asked : List (Request × Store)} {outcome : Except Halt σ × Store} :
    (ask (.apply f (loop.args value item))).outcome store = (.ok result, between) →
    loop.next value item result = pure next →
    Goes loop ask f next between rest asked outcome →
    Goes loop ask f value store (item :: rest)
      ((.apply f (loop.args value item), store) :: asked) outcome

section Goes

variable {loop : Loop σ} {ask : Request → Eval Value} {f : Binding} {value : σ} {store : Store}
  {items : List Value} {asked : List (Request × Store)} {result : Except Halt σ} {last : Store}

/-- Whether calls are those for the first of some items, one for each and in order, and for all of
them if the loop ends with a value. -/
def InOrder (loop : Loop σ) (f : Binding) (items : List Value) (asked : List (Request × Store))
    (result : Except Halt σ) : Prop :=
  ∃ values : List σ, values.length ≤ items.length
    ∧ asked.map Prod.fst
      = List.zipWith (fun value item => .apply f (loop.args value item)) values items
    ∧ ∀ value, result = .ok value → values.length = items.length

/-- A loop calls the function once for each item, in order, until a call ends it. -/
theorem Goes.inOrder (h : loop.Goes ask f value store items asked (result, last)) :
  loop.InOrder f items asked result
  := by
  generalize e : (result, last) = outcome at h
  induction h with
  | nil => exact ⟨[], Nat.le_refl _, rfl, fun _ _ => rfl⟩
  | @fails value =>
    obtain ⟨rfl, rfl⟩ := Prod.mk.inj e
    exact ⟨[value], by simp, rfl, nofun⟩
  | @refuses value =>
    obtain ⟨rfl, rfl⟩ := Prod.mk.inj e
    exact ⟨[value], by simp, rfl, nofun⟩
  | @goesOn value _ _ _ _ _ _ _ _ _ _ _ ih =>
    obtain ⟨values, hle, hasked, hall⟩ := ih e
    refine ⟨value :: values, Nat.succ_le_succ hle, ?_, fun a ha => congrArg Nat.succ (hall a ha)⟩
    rw [List.map_cons, hasked, List.zipWith_cons_cons]

end Goes

/-- A loop follows a script that goes from item to item. -/
theorem exists_script (loop : Loop σ) (f : Binding) (value : σ) (items : List Value) :
  ∃ script : Script σ, (∀ ask, loop.run (ask <| .apply f ·) value items = script.run ask)
    ∧ ∀ ask store, loop.Goes ask f value store items (script.asked ask store)
      ((script.run ask).outcome store)
  := by
  induction items generalizing value with
  | nil => exact ⟨.done (.ok value), fun _ => rfl, fun _ _ => .nil⟩
  | cons item rest ih =>
    choose scripts hruns hgoes using ih
    -- what follows a call depends on whether something can be made of what it returns
    have hafter : ∀ result, ∃ script : Script σ,
        (∀ ask, loop.next value item result >>= (loop.run (ask <| .apply f ·) · rest)
            = script.run ask)
          ∧ ∀ ask store after,
            (ask (.apply f (loop.args value item))).outcome store = (.ok result, after) →
            loop.Goes ask f value store (item :: rest)
              ((.apply f (loop.args value item), store) :: script.asked ask after)
              ((script.run ask).outcome after) := by
      intro result
      obtain ⟨next, hnext⟩ | ⟨cause, hcause⟩ := loop.reads value item result
      · refine ⟨scripts next, fun ask => ?_, fun ask store after hcall => ?_⟩
        · rw [hnext, pure_bind, hruns]
        · exact .goesOn hcall hnext (hgoes next ask after)
      · refine ⟨.done (.error (.error { cause := cause })), fun ask => ?_,
          fun ask store after hcall => .refuses hcall hcause⟩
        rw [hcause]
        rfl
    choose next hnext hgoesOn using hafter
    use .ask (.apply f (loop.args value item)) next
    constructor
    · intro ask
      rw [run_cons, turn, bind_assoc, Script.run]
      simp only [hnext]
    · intro ask store
      rw [Script.asked, Script.outcome_run_ask]
      rcases e : (ask (.apply f (loop.args value item))).outcome store with ⟨halt | result, after⟩
      · exact .fails e
      · exact hgoesOn result ask store after e

/-! ### Loops that put results together -/

/-- Whether a loop calls the function with the items alone, and adds what it makes of the result of
each call at the end of what there is already. -/
structure Adds (loop : Loop (List Value)) : Prop where
  args : ∀ done item, loop.args done item = [item]
  next : ∀ done item result,
    loop.next done item result = do return done ++ (← loop.next [] item result)

section Adds

variable {loop : Loop (List Value)} (apply : List Value → Eval Value)

theorem Adds.turn (h : loop.Adds) (done : List Value) (item : Value) :
  loop.turn apply done item = do return done ++ (← loop.turn apply [] item)
  := by
  rw [Loop.turn, Loop.turn, h.args, h.args, bind_assoc]
  congr
  funext result
  exact h.next done item result

/-- What there is already stands before all that is added. -/
theorem Adds.run (h : loop.Adds) (done items : List Value) :
  loop.run apply done items = do return done ++ (← loop.run apply [] items)
  := by
  induction items generalizing done with
  | nil =>
    show pure done = do return done ++ (← pure [])
    rw [pure_bind, List.append_nil]
  | cons item rest ih =>
    rw [run_cons, run_cons, h.turn, bind_assoc, bind_assoc]
    congr
    funext added
    rw [pure_bind, ih, ih added, bind_assoc]
    simp only [pure_bind, List.append_assoc]

/-- The results for two lists are put together. -/
theorem Adds.run_append (h : loop.Adds) (xs ys : List Value) :
  loop.run apply [] (xs ++ ys) = do
    let first ← loop.run apply [] xs
    return first ++ (← loop.run apply [] ys)
  := by
  rw [Loop.run_append]
  congr
  funext first
  exact h.run apply first ys

end Adds

/-- The loop that collects what a function returns for each item. -/
def map : Loop (List Value) where
  args _ item := [item]
  next done _ result := pure (done ++ [result])
  reads _ _ _ := .inl ⟨_, rfl⟩

/-- The loop that collects the items of the lists that a function returns for each item. -/
def flatMap : Loop (List Value) where
  args _ item := [item]
  next done _ result := do return done ++ (← result.asList)
  reads done _ result := by
    cases result
    case list => exact .inl ⟨_, rfl⟩
    all_goals exact .inr ⟨_, rfl⟩

/-- The loop that collects the items for which a function returns `true`. -/
def filter : Loop (List Value) where
  args _ item := [item]
  next done item result := do return done ++ if ← result.asBoolean then [item] else []
  reads done item result := by
    cases result
    case boolean => exact .inl ⟨_, rfl⟩
    all_goals exact .inr ⟨_, rfl⟩

/-- The loop that goes on with what a function makes of the value so far and an item. -/
def reduce : Loop Value where
  args value item := [value, item]
  next _ _ result := pure result
  reads _ _ _ := .inl ⟨_, rfl⟩

theorem next_flatMap (done : List Value) (item result : Value) :
  flatMap.next done item result = do return done ++ (← result.asList)
  := rfl

theorem next_filter (done : List Value) (item result : Value) :
  filter.next done item result = do return done ++ if ← result.asBoolean then [item] else []
  := rfl

theorem adds_map :
  map.Adds
  := ⟨fun _ _ => rfl, fun _ _ _ => rfl⟩

theorem adds_flatMap :
  flatMap.Adds
  := by
  refine ⟨fun _ _ => rfl, fun done item result => ?_⟩
  simp only [next_flatMap, bind_assoc, pure_bind, List.nil_append]

theorem adds_filter :
  filter.Adds
  := by
  refine ⟨fun _ _ => rfl, fun done item result => ?_⟩
  simp only [next_filter, bind_assoc, pure_bind, List.nil_append]

end Loop

namespace NativeFunction

variable (apply : List Value → Eval Value)

theorem mapItems_eq (items : List Value) :
  mapItems apply items = Loop.map.run apply [] items
  := by
  induction items with
  | nil => rfl
  | cons item rest ih =>
    rw [Loop.run_cons, Loop.turn, bind_assoc, mapItems, ih]
    congr
    funext result
    exact (Loop.adds_map.run apply [result] rest).symm

theorem flatMapItems_eq (items : List Value) :
  flatMapItems apply items = Loop.flatMap.run apply [] items
  := by
  induction items with
  | nil => rfl
  | cons item rest ih =>
    rw [Loop.run_cons, Loop.turn, bind_assoc, flatMapItems, ih]
    congr
    funext result
    rw [Loop.next_flatMap, bind_assoc]
    congr
    funext list
    rw [pure_bind, List.nil_append]
    exact (Loop.adds_flatMap.run apply list rest).symm

theorem filterItems_eq (items : List Value) :
  filterItems apply items = Loop.filter.run apply [] items
  := by
  induction items with
  | nil => rfl
  | cons item rest ih =>
    rw [Loop.run_cons, Loop.turn, bind_assoc, filterItems, ih]
    congr
    funext result
    rw [Loop.next_filter, bind_assoc]
    congr
    funext keep
    rw [pure_bind, List.nil_append, Loop.adds_filter.run apply (if keep then [item] else []) rest]
    cases keep <;> rfl

theorem reduceItems_eq (value : Value) (items : List Value) :
  reduceItems apply value items = Loop.reduce.run apply value items
  := by
  induction items generalizing value with
  | nil => rfl
  | cons item rest ih =>
    rw [Loop.run_cons, Loop.turn, bind_assoc, reduceItems]
    congr
    funext result
    exact ih result

/-- The lists that a function returns may as well be put together after all calls. -/
theorem flatMapItems_eq_flatten (items : List Value)
    (hlists : ∀ item ∈ items, ∀ store value after,
      (apply [item]).outcome store = (.ok value, after) → ∃ list, value = .list list) :
  flatMapItems apply items = mapItems apply items >>= flatten
  := by
  induction items with
  | nil => rfl
  | cons item rest ih =>
    rw [List.forall_mem_cons] at hlists
    funext store
    show (flatMapItems apply (item :: rest)).outcome store = (_ >>= flatten : Eval _).outcome store
    rw [flatMapItems, mapItems, bind_assoc, Discipline.outcome_bind, Discipline.outcome_bind]
    rcases e : (apply [item]).outcome store with ⟨halt | value, after⟩
    · rfl
    · obtain ⟨list, rfl⟩ := hlists.1 store value after e
      dsimp only
      congr 1
      rw [ih hlists.2]
      simp only [Value.asList, pure_bind, bind_assoc, flatten]

end NativeFunction

/-! ### The native functions -/

/-- Whether a native function with given arguments runs a loop: in every program it calls what the
loop calls, in order, and it ends as the loop does, with what is made of the value of the loop. -/
def NativeFunction.RunsLoop {σ : Type} (function : NativeFunction) (args : List Value)
    (loop : Loop σ) (f : Binding) (start : σ) (items : List Value) (made : σ → Value) : Prop :=
  ∀ (program : Program) (fuel : Nat) (store : Store), ∃ asked result last,
    loop.Goes (program.answer fuel) f start store items asked (result, last)
      ∧ loop.InOrder f items asked result
      ∧ AsksFor (function.run · fuel args) (program.answer fuel) store asked
      ∧ (program.runNative fuel function args).outcome store = (result.map made, last)

namespace NativeFunction

theorem runsLoop_of_run {σ : Type} {function : NativeFunction} {args : List Value} {loop : Loop σ}
    {f : Binding} {start : σ} {items : List Value} {made : σ → Value}
    (h : ∀ ask fuel, function.run ask fuel args
      = do return made (← loop.run (ask <| .apply f ·) start items)) :
  function.RunsLoop args loop f start items made
  := by
  intro program fuel store
  obtain ⟨script, hscript, hgoes⟩ := loop.exists_script f start items
  have hgoes := hgoes (program.answer fuel) store
  rcases e : (script.run (program.answer fuel)).outcome store with ⟨result, last⟩
  rw [e] at hgoes
  refine ⟨_, result, last, hgoes, hgoes.inOrder, ?_, ?_⟩
  · use script.bind fun a => .done (.ok (made a))
    constructor
    · intro ask
      rw [Script.run_bind, ← hscript]
      exact h ask fuel
    · rw [Script.asked_bind, e]
      cases result <;> exact List.append_nil _
  · rw [Program.runNative, h, hscript, Discipline.outcome_bind, e]
    cases result <;> rfl

variable (ask : Request → Eval Value) (fuel : Nat) (f : Binding) (items : List Value)

theorem run_listMap :
  listMap.run ask fuel [.list items, .function f]
    = do return .list (← Loop.map.run (ask <| .apply f ·) [] items)
  := by
  rw [← mapItems_eq]
  rfl

theorem run_listFlatMap :
  listFlatMap.run ask fuel [.list items, .function f]
    = do return .list (← Loop.flatMap.run (ask <| .apply f ·) [] items)
  := by
  rw [← flatMapItems_eq]
  rfl

theorem run_listFilter :
  listFilter.run ask fuel [.list items, .function f]
    = do return .list (← Loop.filter.run (ask <| .apply f ·) [] items)
  := by
  rw [← filterItems_eq]
  rfl

theorem run_listReduce (start : Value) :
  listReduce.run ask fuel [.list items, start, .function f]
    = Loop.reduce.run (ask <| .apply f ·) start items
  := by
  rw [← reduceItems_eq]
  rfl

end NativeFunction

section Programs

variable {program : Program} {fuel : Nat} {f : Binding} {xs ys : List Value}

/-- What a loop that puts results together makes of two lists is put together of what it makes of
each. -/
theorem runNative_append {function : NativeFunction} {loop : Loop (List Value)} (hadds : loop.Adds)
    (h : ∀ items, program.runNative fuel function [.list items, .function f]
      = do return .list (← loop.run (program.apply fuel f) [] items)) :
  program.runNative fuel function [.list (xs ++ ys), .function f] = (do
    let first ← program.runNative fuel function [.list xs, .function f]
    let second ← program.runNative fuel function [.list ys, .function f]
    program.runNative fuel .listConcatenate [.list [first, second]])
  := by
  have hconcatenate : ∀ first second : List Value,
      program.runNative fuel .listConcatenate [.list [.list first, .list second]]
        = pure (.list (first ++ second)) := by
    intro first second
    have hlists := runNative_listConcatenate program fuel [first, second]
    rwa [List.flatten_cons, List.flatten_singleton] at hlists
  simp only [h, hadds.run_append, bind_assoc, pure_bind, hconcatenate]

/-- What a function returns for the items may as well be put together after all calls, if it returns
nothing but lists. -/
theorem runNative_listFlatMap_eq
    (hlists : ∀ item ∈ xs, ∀ store value after,
      (program.apply fuel f [item]).outcome store = (.ok value, after) →
      ∃ list, value = .list list) :
  program.runNative fuel .listFlatMap [.list xs, .function f] = (do
    let lists ← program.runNative fuel .listMap [.list xs, .function f]
    program.runNative fuel .listConcatenate [lists])
  := by
  have hflatMap : program.runNative fuel .listFlatMap [.list xs, .function f]
      = do return .list (← NativeFunction.flatMapItems (program.apply fuel f) xs) := rfl
  have hmap : program.runNative fuel .listMap [.list xs, .function f]
      = do return .list (← NativeFunction.mapItems (program.apply fuel f) xs) := rfl
  rw [hflatMap, hmap, NativeFunction.flatMapItems_eq_flatten _ xs hlists, bind_assoc, bind_assoc]
  rfl

end Programs

/-- The native functions that call a function for the items of a list are folds in order.  Each calls
the function once for every item, from the first one on, each time with the store that the call
before has left, until a call ends without a value, or with one of which nothing can be made: then
it ends in the same way, with the store that is left by then.  Folding two lists one after another
is folding the first one and going on with the second one; mapping, filtering and mapping to lists
put together what they make of the first one and then of the second one; and mapping to lists is
mapping and putting the lists together, if the function returns nothing but lists. -/
theorem list_loops_are_folds (f : Binding) (xs ys : List Value) :
  NativeFunction.listMap.RunsLoop [.list xs, .function f] .map f [] xs .list
    ∧ NativeFunction.listFilter.RunsLoop [.list xs, .function f] .filter f [] xs .list
    ∧ NativeFunction.listFlatMap.RunsLoop [.list xs, .function f] .flatMap f [] xs .list
    ∧ (∀ start,
      NativeFunction.listReduce.RunsLoop [.list xs, start, .function f] .reduce f start xs id)
    ∧ ∀ (program : Program) (fuel : Nat),
      (∀ start, program.runNative fuel .listReduce [.list (xs ++ ys), start, .function f] = do
        let value ← program.runNative fuel .listReduce [.list xs, start, .function f]
        program.runNative fuel .listReduce [.list ys, value, .function f])
      ∧ (∀ function ∈ [NativeFunction.listMap, .listFilter, .listFlatMap],
        program.runNative fuel function [.list (xs ++ ys), .function f] = do
          let first ← program.runNative fuel function [.list xs, .function f]
          let second ← program.runNative fuel function [.list ys, .function f]
          program.runNative fuel .listConcatenate [.list [first, second]])
      ∧ ((∀ item ∈ xs, ∀ store value after,
          (program.apply fuel f [item]).outcome store = (.ok value, after) →
          ∃ list, value = .list list) →
        program.runNative fuel .listFlatMap [.list xs, .function f] = do
          let lists ← program.runNative fuel .listMap [.list xs, .function f]
          program.runNative fuel .listConcatenate [lists])
  := by
  open NativeFunction in
  refine ⟨runsLoop_of_run fun ask fuel => run_listMap ask fuel f xs,
    runsLoop_of_run fun ask fuel => run_listFilter ask fuel f xs,
    runsLoop_of_run fun ask fuel => run_listFlatMap ask fuel f xs, fun start => ?_,
    fun program fuel => ⟨fun start => ?_, ?_, runNative_listFlatMap_eq⟩⟩
  · apply runsLoop_of_run
    intro ask fuel
    rw [run_listReduce]
    exact (bind_pure _).symm
  · show NativeFunction.run _ _ _ _ = do
      let value ← NativeFunction.run _ _ _ _
      NativeFunction.run _ _ _ _
    simp only [run_listReduce, Loop.run_append]
  · rw [List.forall_mem_cons, List.forall_mem_cons, List.forall_mem_singleton]
    refine ⟨runNative_append Loop.adds_map ?_, runNative_append Loop.adds_filter ?_,
      runNative_append Loop.adds_flatMap ?_⟩
    · exact fun items => run_listMap _ _ f items
    · exact fun items => run_listFilter _ _ f items
    · exact fun items => run_listFlatMap _ _ f items

/-- The function that appends what it is given to a list with one number. -/
def afterOne : Binding :=
  .mk (.entity NativeFunction.listAppend.entity) [some (.list [.natural 1]), none] []

theorem apply_afterOne (program : Program) (fuel : Nat) (item : Value) :
  program.apply (fuel + 2) afterOne [item] = pure (.list [.natural 1, item])
  := by
  show program.answer (fuel + 1) (.call NativeFunction.listAppend.entity [.list [.natural 1], item])
    = _
  rw [answer_native]
  rfl

/-- Appending each of two numbers to a list maps them to lists, which are put together. -/
theorem list_loops_are_folds_afterOne :
  (Program.runNative default 2 .listFlatMap [.list [.natural 7, .natural 8], .function afterOne]
      = do
        let lists ← Program.runNative default 2 .listMap
          [.list [.natural 7, .natural 8], .function afterOne]
        Program.runNative default 2 .listConcatenate [lists])
    ∧ Program.runNative default 2 .listFlatMap [.list [.natural 7, .natural 8], .function afterOne]
      = pure (.list [.natural 1, .natural 7, .natural 1, .natural 8])
  := by
  obtain ⟨-, -, -, -, hlaws⟩ := list_loops_are_folds afterOne [.natural 7, .natural 8] []
  constructor
  · apply (hlaws default 2).2.2
    intro item _ store value after h
    rw [apply_afterOne] at h
    cases h
    exact ⟨_, rfl⟩
  · show (do return Value.list (← NativeFunction.flatMapItems (Program.apply default 2 afterOne)
      [.natural 7, .natural 8])) = (_ : Eval Value)
    simp only [NativeFunction.flatMapItems, apply_afterOne]
    rfl

end TypedModules
