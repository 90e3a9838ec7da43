import TypedModules.Proofs.Eval.Mirrors

/-!
# Native functions do not see the numbers of builders

For arguments that agree up to the numbers of list builders a native function does the same: it
asks for what agrees, changes builders that are paired, and ends with values or errors that agree.
So its evaluation is mirrored as long as the answers to what it asks for are:
`NativeFunction.simulates_run`.
-/

namespace TypedModules

open Mirror

namespace NativeFunction

variable {mirror : Mirror} {pairing : Pairing} {function : NativeFunction}
  {args others : List Value}

/-! ### Arguments -/

section Arguments

variable (h : ValuesLike pairing args others)

include h

theorem agree_wrongArity {α β : Type} {n : Nat} {related : α → β → Prop} :
  Agree (function.wrongArity n args) (function.wrongArity n others) related
  := by
  unfold wrongArity
  rw [h.length_eq]
  exact agree_fail

theorem agree_noArgument :
  Agree (function.noArgument args) (function.noArgument others) fun _ _ => True
  := by
  have hwrong := fun n => @agree_wrongArity _ function _ _ h Unit Unit n fun _ _ => True
  cases h with
  | nil => exact agree_pure trivial
  | cons => exact hwrong 0

theorem agree_oneArgument :
  Agree (function.oneArgument args) (function.oneArgument others) (Value.Like pairing)
  := by
  have hwrong := fun n => @agree_wrongArity _ function _ _ h Value Value n (Value.Like pairing)
  obtain _ | ⟨ha, _ | ⟨hb, hrest⟩⟩ := h
  · exact hwrong 1
  · exact agree_pure ha
  · exact hwrong 1

theorem agree_twoArguments :
  Agree (function.twoArguments args) (function.twoArguments others) fun p q =>
    p.1.Like pairing q.1 ∧ p.2.Like pairing q.2
  := by
  have hwrong := fun n => @agree_wrongArity _ function _ _ h _ _ n
    fun (p q : Value × Value) => p.1.Like pairing q.1 ∧ p.2.Like pairing q.2
  obtain _ | ⟨ha, _ | ⟨hb, _ | ⟨hc, hrest⟩⟩⟩ := h
  · exact hwrong 2
  · exact hwrong 2
  · exact agree_pure ⟨ha, hb⟩
  · exact hwrong 2

theorem agree_threeArguments :
  Agree (function.threeArguments args) (function.threeArguments others) fun p q =>
    p.1.Like pairing q.1 ∧ p.2.1.Like pairing q.2.1 ∧ p.2.2.Like pairing q.2.2
  := by
  have hwrong := fun n => @agree_wrongArity _ function _ _ h _ _ n
    fun (p q : Value × Value × Value) =>
      p.1.Like pairing q.1 ∧ p.2.1.Like pairing q.2.1 ∧ p.2.2.Like pairing q.2.2
  obtain _ | ⟨ha, _ | ⟨hb, _ | ⟨hc, _ | ⟨hd, hrest⟩⟩⟩⟩ := h
  · exact hwrong 3
  · exact hwrong 3
  · exact hwrong 3
  · exact agree_pure ⟨ha, hb, hc⟩
  · exact hwrong 3

/-- Two arguments that are read in the same way are read alike. -/
theorem agree_pair {α : Type} {read : Value → Eval α}
    (hread : ∀ {v w : Value}, v.Like pairing w → Agree (read v) (read w) Eq) :
  Agree (function.twoArguments args >>= fun p => do return (← read p.1, ← read p.2))
    (function.twoArguments others >>= fun p => do return (← read p.1, ← read p.2)) Eq
  := by
  refine (agree_twoArguments h).bind fun p q hpq => ?_
  refine (hread hpq.1).bind fun a _ e => ?_
  refine (hread hpq.2).bind fun b _ e' => ?_
  exact agree_pure (by rw [e, e'])

theorem agree_booleans :
  Agree (function.booleans args) (function.booleans others) Eq
  := agree_pair h agree_asBoolean

theorem agree_integers :
  Agree (function.integers args) (function.integers others) Eq
  := agree_pair h agree_asInteger

theorem agree_naturals :
  Agree (function.naturals args) (function.naturals others) Eq
  := agree_pair h agree_asNatural

theorem agree_listAndFunction :
  Agree (function.listAndFunction args) (function.listAndFunction others) fun p q =>
    ValuesLike pairing p.1 q.1 ∧ p.2.Like pairing q.2
  := by
  refine (agree_twoArguments h).bind fun p q hpq => ?_
  refine (agree_asList hpq.1).bind fun items items' hitems => ?_
  refine (agree_asBinding hpq.2).bind fun f g hf => ?_
  exact agree_pure ⟨hitems, hf⟩

theorem agree_tryAndFunction :
  Agree (function.tryAndFunction args) (function.tryAndFunction others) fun p q =>
    Option.Rel (Value.Like pairing) p.1 q.1 ∧ p.2.Like pairing q.2
  := by
  refine (agree_twoArguments h).bind fun p q hpq => ?_
  refine (agree_asBinding hpq.2).bind fun f g hf => ?_
  refine (agree_asTry hpq.1).bind fun v w hvw => ?_
  exact agree_pure ⟨hvw, hf⟩

end Arguments

theorem agree_sequenceParts {v w : Value} (h : v.Like pairing w) :
  Agree (sequenceParts v) (sequenceParts w) fun p q =>
    p.1.Like pairing q.1 ∧ p.2.Like pairing q.2
  := by
  cases h
  case struct hheader h =>
    obtain _ | ⟨hbase, _ | ⟨hnext, _ | ⟨hother, hrest⟩⟩⟩ := h
    case cons.cons.nil =>
      refine (agree_asBinding hnext).bind fun f g hf => ?_
      exact agree_pure ⟨hbase, hf⟩
    all_goals exact agree_fail
  all_goals exact agree_mismatch rfl

theorem agree_flatten {vs ws : List Value} (h : ValuesLike pairing vs ws) :
  Agree (flatten vs) (flatten ws) (ValuesLike pairing)
  := by
  induction h with
  | nil => exact agree_pure .nil
  | cons hvw _ ih =>
    refine (agree_asList hvw).bind fun items items' hitems => ?_
    refine ih.bind fun rest rest' hrest => ?_
    exact agree_pure (List.rel_append hitems hrest)

/-! ### Results -/

theorem like_ofOption {p q : Option Value} (h : Option.Rel (Value.Like pairing) p q) :
  (Value.ofOption p).Like pairing (Value.ofOption q)
  := by
  cases h with
  | some h => exact .success h
  | none => exact .failure

/-- A value that is made of neither values nor builders agrees with itself. -/
theorem like_ofOption_map {α : Type} {make : α → Value} (h : ∀ a, (make a).Like pairing (make a))
    (result : Option α) :
  (Value.ofOption (result.map make)).Like pairing (Value.ofOption (result.map make))
  := by
  cases result with
  | some a => exact .success (h a)
  | none => exact .failure

theorem rel_subList? {items items' : List Value} (h : ValuesLike pairing items items')
    (start stop : Nat) :
  Option.Rel (Value.Like pairing) ((subList? items start stop).map .list)
    ((subList? items' start stop).map .list)
  := by
  unfold subList?
  rw [h.length_eq]
  split
  · exact .some (.list (List.forall₂_drop _ (List.forall₂_take _ h)))
  · exact .none

/-! ### Loops -/

/-- Whether what a function makes of values is mirrored by what functions make of values that agree,
for all pairings that go on from one. -/
def Applies (mirror : Mirror) (pairing : Pairing) (apply : List Value → Eval Value)
    (applies : Nat → List Value → Eval Value) : Prop :=
  ∀ later, later.Extends pairing → ∀ vs ws, ValuesLike later vs ws →
    mirror.Simulates later (apply vs) (fun fuel => applies fuel ws) Value.Like

section Loops

variable {apply : List Value → Eval Value} {applies : Nat → List Value → Eval Value}

theorem Applies.extend {later : Pairing} (h : Applies mirror pairing apply applies)
    (hlater : later.Extends pairing) :
  Applies mirror later apply applies
  := fun last hlast => h last (hlast.trans hlater)

theorem Applies.one (h : Applies mirror pairing apply applies) {v w : Value}
    (hvw : v.Like pairing w) :
  mirror.Simulates pairing (apply [v]) (fun fuel => applies fuel [w]) Value.Like
  := h pairing (.refl pairing) [v] [w] (.cons hvw .nil)

variable {vs ws : List Value}

theorem simulates_mapItems (h : Applies mirror pairing apply applies)
    (hitems : ValuesLike pairing vs ws) :
  mirror.Simulates pairing (mapItems apply vs) (fun fuel => mapItems (applies fuel) ws) ValuesLike
  := by
  induction vs generalizing pairing ws with
  | nil =>
    cases hitems
    exact simulates_pure .nil
  | cons v rest ih =>
    obtain _ | ⟨hvw, hrest⟩ := hitems
    refine (h.one hvw).bind fun later hlater a b hab => ?_
    refine (ih (h.extend hlater) (ValuesLike.extend hlater hrest)).bind ?_
    intro last hlast as bs habs
    exact simulates_pure (.cons (hab.extend hlast) habs)

theorem simulates_flatMapItems (h : Applies mirror pairing apply applies)
    (hitems : ValuesLike pairing vs ws) :
  mirror.Simulates pairing (flatMapItems apply vs) (fun fuel => flatMapItems (applies fuel) ws)
    ValuesLike
  := by
  induction vs generalizing pairing ws with
  | nil =>
    cases hitems
    exact simulates_pure .nil
  | cons v rest ih =>
    obtain _ | ⟨hvw, hrest⟩ := hitems
    refine (h.one hvw).bind fun later hlater a b hab => ?_
    refine (agree_asList hab).simulates fun mapped mapped' hmapped => ?_
    refine (ih (h.extend hlater) (ValuesLike.extend hlater hrest)).bind ?_
    intro last hlast as bs habs
    exact simulates_pure (List.rel_append (hmapped.extend hlast) habs)

theorem simulates_filterItems (h : Applies mirror pairing apply applies)
    (hitems : ValuesLike pairing vs ws) :
  mirror.Simulates pairing (filterItems apply vs) (fun fuel => filterItems (applies fuel) ws)
    ValuesLike
  := by
  induction vs generalizing pairing ws with
  | nil =>
    cases hitems
    exact simulates_pure .nil
  | cons v rest ih =>
    obtain _ | ⟨hvw, hrest⟩ := hitems
    refine (h.one hvw).bind fun later hlater a b hab => ?_
    refine (agree_asBoolean hab).simulates ?_
    rintro keep _ rfl
    refine (ih (h.extend hlater) (ValuesLike.extend hlater hrest)).bind ?_
    intro last hlast as bs habs
    apply simulates_pure
    cases keep with
    | true => exact .cons (hvw.extend (hlast.trans hlater)) habs
    | false => exact habs

theorem simulates_reduceItems (h : Applies mirror pairing apply applies) {v w : Value}
    (hvw : v.Like pairing w) (hitems : ValuesLike pairing vs ws) :
  mirror.Simulates pairing (reduceItems apply v vs) (fun fuel => reduceItems (applies fuel) w ws)
    Value.Like
  := by
  induction vs generalizing pairing v w ws with
  | nil =>
    cases hitems
    exact simulates_pure hvw
  | cons item rest ih =>
    obtain _ | ⟨hitem, hrest⟩ := hitems
    refine (h pairing (.refl pairing) _ _ (.cons hvw (.cons hitem .nil))).bind ?_
    exact fun later hlater a b hab => ih (h.extend hlater) hab (ValuesLike.extend hlater hrest)

theorem simulates_iterate (n : Nat) (h : Applies mirror pairing apply applies) {v w : Value}
    (hvw : v.Like pairing w) :
  mirror.Simulates pairing (iterate apply n v) (fun fuel => iterate (applies fuel) n w) Value.Like
  := by
  induction n generalizing pairing v w with
  | zero => exact simulates_pure hvw
  | succ n ih =>
    exact (h.one hvw).bind fun later hlater a b hab => ih (h.extend hlater) hab

/-- A search is mirrored by searches with more fuel, of which some turns have used up a part. -/
theorem simulates_search {holds : List Value → Eval Value} {holdss : Nat → List Value → Eval Value}
    (fuel turns : Nat) (h : Applies mirror pairing apply applies)
    (hholds : Applies mirror pairing holds holdss) {v w : Value} (hvw : v.Like pairing w) :
  mirror.Simulates pairing (search apply holds fuel v)
    (fun fuel => search (applies fuel) (holdss fuel) (fuel - turns) w) Value.Like
  := by
  induction fuel generalizing pairing v w turns with
  | zero => exact simulates_outOfFuel
  | succ fuel ih =>
    have hturn : ∀ more, turns + 1 ≤ more →
        search (applies more) (holdss more) (more - turns) w = (do
        if ← (← holdss more [w]).asBoolean then return w
        let next ← applies more [w]
        search (applies more) (holdss more) (more - (turns + 1)) next) := by
      intro more hmore
      rw [show more - turns = more - (turns + 1) + 1 by omega, search]
    refine Simulates.of_eventually ⟨turns + 1, hturn⟩ ?_
    rw [search]
    refine (hholds.one hvw).bind fun later hlater a b hab => ?_
    refine (agree_asBoolean hab).simulates ?_
    rintro found _ rfl
    cases found with
    | true => exact simulates_pure (hvw.extend hlater)
    | false =>
      refine ((h.extend hlater).one (hvw.extend hlater)).bind fun last hlast a b hab => ?_
      exact ih (turns + 1) (h.extend (hlast.trans hlater)) (hholds.extend (hlast.trans hlater)) hab

end Loops

/-- What a function is applied to is asked for, and mirrored as the answers are. -/
theorem applies_of_answers {ask : Request → Eval Value} {asks : Nat → Request → Eval Value}
    (hanswers : mirror.Answers ask asks) {f g : Binding} (hfg : f.Like pairing g) :
  Applies mirror pairing (ask <| .apply f ·) (asks · <| .apply g ·)
  := fun later hlater _ _ hlike => hanswers later _ _ (.apply (hfg.extend hlater) hlike)

/-- A new builder on the left corresponds to the new one on the right. -/
theorem simulates_create :
  mirror.Simulates pairing
    (do let store ← get; set store.create; return .builder store.next : Eval Value)
    (fun _ => do let store ← get; set store.create; return .builder store.next) Value.Like
  := fun _ start hfits _ => ⟨pairing.create, (.ok (.builder start.next), start.create),
    pairing.extends_create, ⟨0, fun _ _ => rfl⟩, .ok (.builder (.inr ⟨hfits.left, hfits.right⟩)),
    hfits.toLike.create, mirror.minds_create hfits.right hfits.minded⟩

/-- Items that agree are appended to builders that are paired. -/
theorem simulates_append {m n : Nat} (hpair : pairing.pairs m n) {vs ws : List Value}
    (hlike : ValuesLike pairing vs ws) :
  mirror.Simulates pairing (modify (·.append m vs) : Eval PUnit)
    (fun _ => (modify (·.append n ws) : Eval PUnit)) fun later _ _ => later = pairing
  := by
  refine simulates_modify fun store start hfits => ⟨hfits.toLike.append hpair hlike, ?_⟩
  refine mirror.minds_append hfits.right hpair (fun item hitem => ?_) hfits.minded
  obtain ⟨v, -, hv⟩ := exists_related_left hlike hitem
  exact ⟨v, hv⟩

/-- A native function is mirrored by itself with arguments that agree. -/
theorem simulates_run {ask : Request → Eval Value} {asks : Nat → Request → Eval Value}
    (hanswers : mirror.Answers ask asks) (fuel : Nat) (h : ValuesLike pairing args others) :
  mirror.Simulates pairing (function.run ask fuel args)
    (fun fuel => function.run (asks fuel) fuel others) Value.Like
  := by
  have hpure := fun {v w : Value} => @simulates_pure mirror pairing _ _ v w Value.Like
  have happlies := fun {f g : Binding} => @applies_of_answers mirror pairing _ _ hanswers f g
  cases function <;> dsimp only [run]
  case booleanNot =>
    refine (agree_oneArgument h).simulates fun v w hvw => ?_
    refine (agree_asBoolean hvw).simulates ?_
    rintro b _ rfl
    exact hpure (.boolean _)
  case booleanAnd | booleanOr =>
    refine (agree_booleans h).simulates ?_
    rintro p _ rfl
    exact hpure (.boolean _)
  case dataEquals =>
    refine (agree_twoArguments h).simulates fun p q hpq => ?_
    rw [hpq.1.same_eq hpq.2]
    exact hpure (.boolean _)
  case integerPlus | integerMinus | integerTimes =>
    refine (agree_integers h).simulates ?_
    rintro p _ rfl
    exact hpure (.integer _)
  case integerEquals | integerLessThan | integerGreaterThan =>
    refine (agree_integers h).simulates ?_
    rintro p _ rfl
    exact hpure (.boolean _)
  case integerDividedBy | integerModulo =>
    refine (agree_integers h).simulates ?_
    rintro p _ rfl
    exact hpure (like_ofOption_map .integer _)
  case natural =>
    refine (agree_oneArgument h).simulates fun v w hvw => ?_
    refine (agree_asInteger hvw).simulates ?_
    rintro n _ rfl
    apply hpure
    split
    · exact .failure
    · exact .success (.natural _)
  case naturalToInteger =>
    refine (agree_oneArgument h).simulates fun v w hvw => ?_
    refine (agree_asNatural hvw).simulates ?_
    rintro n _ rfl
    exact hpure (.integer _)
  case naturalPlus | naturalTimes =>
    refine (agree_naturals h).simulates ?_
    rintro p _ rfl
    exact hpure (.natural _)
  case naturalEquals | naturalLessThan =>
    refine (agree_naturals h).simulates ?_
    rintro p _ rfl
    exact hpure (.boolean _)
  case naturalDividedBy =>
    refine (agree_naturals h).simulates ?_
    rintro p _ rfl
    apply hpure
    split
    · exact .failure
    · exact .success (.natural _)
  case naturalMax =>
    refine (agree_oneArgument h).simulates fun v w hvw => ?_
    refine (agree_asList hvw).simulates fun items items' hitems => ?_
    refine (agree_mapM (fun _ _ hvw => agree_asNatural hvw) hitems).simulates fun numbers _ e => ?_
    rw [List.forall₂_eq_eq_eq] at e
    subst e
    exact hpure (like_ofOption_map .natural _)
  case listAppend =>
    refine (agree_twoArguments h).simulates fun p q hpq => ?_
    refine (agree_asList hpq.1).simulates fun items items' hitems => ?_
    exact hpure (.list (List.rel_append hitems (.cons hpq.2 .nil)))
  case listAppendFront =>
    refine (agree_twoArguments h).simulates fun p q hpq => ?_
    refine (agree_asList hpq.1).simulates fun items items' hitems => ?_
    exact hpure (.list (.cons hpq.2 hitems))
  case listConcatenate =>
    refine (agree_oneArgument h).simulates fun v w hvw => ?_
    refine (agree_asList hvw).simulates fun lists lists' hlists => ?_
    refine (agree_flatten hlists).simulates fun items items' hitems => ?_
    exact hpure (.list hitems)
  case listSubList =>
    refine (agree_threeArguments h).simulates fun p q hpq => ?_
    refine (agree_asList hpq.1).simulates fun items items' hitems => ?_
    refine (agree_asNatural hpq.2.1).simulates ?_
    rintro start _ rfl
    refine (agree_asNatural hpq.2.2).simulates ?_
    rintro stop _ rfl
    exact hpure (like_ofOption (rel_subList? hitems start stop))
  case listMap =>
    refine (agree_listAndFunction h).simulates fun p q hpq => ?_
    refine (simulates_mapItems (happlies hpq.2) hpq.1).bind fun later _ vs ws hlike => ?_
    exact simulates_pure (.list hlike)
  case listFlatMap =>
    refine (agree_listAndFunction h).simulates fun p q hpq => ?_
    refine (simulates_flatMapItems (happlies hpq.2) hpq.1).bind fun later _ vs ws hlike => ?_
    exact simulates_pure (.list hlike)
  case listFilter =>
    refine (agree_listAndFunction h).simulates fun p q hpq => ?_
    refine (simulates_filterItems (happlies hpq.2) hpq.1).bind fun later _ vs ws hlike => ?_
    exact simulates_pure (.list hlike)
  case listReduce =>
    refine (agree_threeArguments h).simulates fun p q hpq => ?_
    refine (agree_asBinding hpq.2.2).simulates fun f g hfg => ?_
    refine (agree_asList hpq.1).simulates fun items items' hitems => ?_
    exact simulates_reduceItems (happlies hfg) hpq.2.1 hitems
  case listSize =>
    refine (agree_oneArgument h).simulates fun v w hvw => ?_
    refine (agree_asList hvw).simulates fun items items' hitems => ?_
    rw [hitems.length_eq]
    exact hpure (.natural _)
  case listGet =>
    refine (agree_twoArguments h).simulates fun p q hpq => ?_
    refine (agree_asList hpq.1).simulates fun items items' hitems => ?_
    refine (agree_asNatural hpq.2).simulates ?_
    rintro n _ rfl
    exact hpure (like_ofOption (rel_getElem? hitems n))
  case listLast =>
    refine (agree_oneArgument h).simulates fun v w hvw => ?_
    refine (agree_asList hvw).simulates fun items items' hitems => ?_
    exact hpure (like_ofOption (rel_getLast? hitems))
  case trySuccess =>
    exact (agree_oneArgument h).simulates fun v w hvw => hpure (.success hvw)
  case tryFailure => exact (agree_noArgument h).simulates fun _ _ _ => hpure .failure
  case tryAssume =>
    refine (agree_oneArgument h).simulates fun v w hvw => ?_
    refine (agree_asTry hvw).simulates fun inner inner' hinner => ?_
    cases hinner with
    | some h => exact hpure h
    | none => exact simulates_fail
  case tryIsSuccess =>
    refine (agree_oneArgument h).simulates fun v w hvw => ?_
    refine (agree_asTry hvw).simulates fun inner inner' hinner => ?_
    rw [isSome_eq_of_rel hinner]
    exact hpure (.boolean _)
  case tryMap =>
    refine (agree_tryAndFunction h).simulates ?_
    rintro ⟨_, f⟩ ⟨_, g⟩ ⟨hvalue, hfg⟩
    cases hvalue with
    | some hvw =>
      exact ((happlies hfg).one hvw).bind fun _ _ _ _ hlike => simulates_pure (.success hlike)
    | none => exact hpure .failure
  case tryFlatMap =>
    refine (agree_tryAndFunction h).simulates ?_
    rintro ⟨_, f⟩ ⟨_, g⟩ ⟨hvalue, hfg⟩
    cases hvalue with
    | some hvw => exact (happlies hfg).one hvw
    | none => exact hpure .failure
  case tryOrElse =>
    refine (agree_twoArguments h).simulates fun p q hpq => ?_
    refine (agree_asTry hpq.1).simulates fun inner inner' hinner => ?_
    cases hinner with
    | some h => exact hpure h
    | none => exact hpure hpq.2
  case sequenceGet =>
    refine (agree_twoArguments h).simulates fun p q hpq => ?_
    refine (agree_sequenceParts hpq.1).simulates fun parts parts' hparts => ?_
    refine (agree_asNatural hpq.2).simulates ?_
    rintro n _ rfl
    exact simulates_iterate n (happlies hparts.2) hparts.1
  case sequenceFirst =>
    refine (agree_twoArguments h).simulates fun p q hpq => ?_
    refine (agree_sequenceParts hpq.1).simulates fun parts parts' hparts => ?_
    refine (agree_asBinding hpq.2).simulates fun f g hfg => ?_
    exact simulates_search fuel 0 (happlies hparts.2) (happlies hfg) hparts.1
  case builderCreate => exact (agree_noArgument h).simulates fun _ _ _ => simulates_create
  case builderAppend =>
    refine (agree_twoArguments h).simulates fun p q hpq => ?_
    refine (agree_asBuilder hpq.1).simulates fun m n hpair => ?_
    refine (simulates_append hpair (.cons hpq.2 .nil)).bind ?_
    rintro _ - _ _ rfl
    exact hpure hpq.1
  case builderAppendAll =>
    refine (agree_twoArguments h).simulates fun p q hpq => ?_
    refine (agree_asList hpq.2).simulates fun items items' hitems => ?_
    refine (agree_asBuilder hpq.1).simulates fun m n hpair => ?_
    refine (simulates_append hpair hitems).bind ?_
    rintro _ - _ _ rfl
    exact hpure hpq.1
  case builderBuild =>
    refine (agree_oneArgument h).simulates fun v w hvw => ?_
    refine (agree_asBuilder hvw).simulates fun m n hpair => ?_
    exact fun store start hfits _ => ⟨pairing, (.ok (.list (start.items n)), start), .refl pairing,
      ⟨0, fun _ _ => rfl⟩, .ok (.list (hfits.items hpair)), hfits⟩
  case stringLength =>
    refine (agree_oneArgument h).simulates fun v w hvw => ?_
    cases hvw
    case string text => exact hpure (.natural _)
    all_goals exact simulates_fail

end NativeFunction
end TypedModules
