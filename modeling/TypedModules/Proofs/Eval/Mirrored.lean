import TypedModules.Eval.Interpreter
import TypedModules.Proofs.Eval.Environment
import TypedModules.Proofs.Native.Mirrored
import TypedModules.Proofs.Typing.Induction

/-!
# Evaluation does not see the numbers of builders

Expressions in environments that agree up to the numbers of list builders, and requests that agree
up to them, are evaluated alike: `simulates_eval` for expressions and blocks, and
`simulates_evalEntity`, `simulates_applyBinding` and `simulates_decode` for the three kinds of
requests.  Since a step of a program asks for nothing but what agrees, the answers of a program are
mirrored by its own answers: `answers_program`.
-/

namespace TypedModules

open Mirror

variable {mirror : Mirror} {pairing later : Pairing} {ask : Request → Eval Value}
  {asks : Nat → Request → Eval Value}

/-! ### Environments -/

/-- Whether the variables of two environments stand for values that agree. -/
def Environment.Like (pairing : Pairing) (env other : Environment) : Prop :=
  ∀ name, Option.Rel (Value.Like pairing) (env.lookup? name) (other.lookup? name)

section Environment

variable {env other : Environment}

theorem Environment.Like.extend (h : later.Extends pairing) (henv : env.Like pairing other) :
  env.Like later other
  := fun name => rel_imp (henv name) fun _ _ hvw => hvw.extend h

theorem Environment.Like.push (h : env.Like pairing other) :
  env.push.Like pairing other.push
  := by
  intro name
  rw [lookup?_push, lookup?_push]
  exact h name

theorem Environment.Like.define (h : env.Like pairing other) (name : String) {v w : Value}
    (hvw : v.Like pairing w) :
  (env.define name v).Like pairing (other.define name w)
  := by
  intro sought
  rw [lookup?_define, lookup?_define]
  split
  · exact .some hvw
  · exact h sought

/-- What is found under a name in frames with the same names and values that agree. -/
theorem rel_lookup {frame others : Frame}
    (h : List.Forall₂ (fun p q => p.1 = q.1 ∧ p.2.Like pairing q.2) frame others) (name : String) :
  Option.Rel (Value.Like pairing) (frame.lookup name) (others.lookup name)
  := by
  induction h with
  | nil => exact .none
  | @cons p q _ _ hpq _ ih =>
    obtain ⟨name', v⟩ := p
    obtain ⟨_, w⟩ := q
    obtain ⟨rfl, hvw⟩ := hpq
    rw [Environment.lookup_cons_eq, Environment.lookup_cons_eq]
    split
    · exact .some hvw
    · exact ih

theorem forall₂_zip_same (names : List String) {vs ws : List Value}
    (h : ValuesLike pairing vs ws) :
  List.Forall₂ (fun p q => p.1 = q.1 ∧ p.2.Like pairing q.2) (names.zip vs) (names.zip ws)
  := by
  induction h generalizing names with
  | nil => cases names <;> exact .nil
  | cons hvw _ ih =>
    cases names with
    | nil => exact .nil
    | cons name names => exact .cons ⟨rfl, hvw⟩ (ih names)

theorem like_ofBindings {names : List String} {vs ws : List Value} (h : ValuesLike pairing vs ws) :
  (Environment.ofBindings (names.zip vs)).Like pairing (.ofBindings (names.zip ws))
  := by
  intro name
  have hlookup := rel_lookup (List.rel_reverse (forall₂_zip_same names h)) name
  simpa [Environment.ofBindings, Environment.lookup?] using hlookup

theorem agree_get (h : env.Like pairing other) (name : String) :
  Agree (env.get name) (other.get name) (Value.Like pairing)
  := by
  unfold Environment.get
  obtain ⟨e, e'⟩ | ⟨v, w, e, e', hvw⟩ := rel_cases (h name)
  · rw [e, e']
    exact agree_fail
  · rw [e, e']
    exact agree_pure hvw

end Environment

/-! ### Members and bindings -/

theorem rel_member? {v w : Value} (h : v.Like pairing w) (name : String) :
  Option.Rel (Value.Like pairing) (v.member? name) (w.member? name)
  := by
  cases h
  case struct header _ members others hheader h =>
    obtain rfl : header = _ := hheader
    exact rel_bind_same fun index => rel_getElem? h index
  case object interface _ methods others hinterface h =>
    obtain rfl : interface = _ := hinterface
    refine rel_map (rel_bind_same fun index => rel_getElem? h index) ?_
    exact fun _ _ => .function
  all_goals exact .none

theorem agree_follow {v w : Value} (h : v.Like pairing w) (name : String) :
  Agree (v.follow name) (w.follow name) (Value.Like pairing)
  := by
  unfold Value.follow
  rw [h.kindName]
  obtain ⟨e, e'⟩ | ⟨member, member', e, e', hmember⟩ := rel_cases (rel_member? h name)
  · rw [e, e']
    exact agree_fail
  · rw [e, e']
    exact agree_pure hmember

theorem agree_callee {v w : Value} (h : v.Like pairing w) :
  Agree v.callee w.callee (Binding.Like pairing)
  := by
  cases h
  case function h => exact agree_pure h
  all_goals exact agree_fail

/-! ### Slots -/

theorem slotsLike_fillSlots {slots slots' values values' : List (Option Value)}
    (h : SlotsLike pairing slots slots') (hvalues : SlotsLike pairing values values') :
  SlotsLike pairing (Binding.fillSlots slots values) (Binding.fillSlots slots' values')
  := by
  induction h generalizing values values' with
  | nil => exact .nil
  | cons hslot _ ih =>
    cases hslot with
    | some hvw => exact .cons (.some hvw) (ih hvalues)
    | none =>
      cases hvalues with
      | nil => exact .cons .none (ih .nil)
      | cons hvalue hvalues => exact .cons hvalue (ih hvalues)

theorem slotsLike_map_some {values values' : List Value} (h : ValuesLike pairing values values') :
  SlotsLike pairing (values.map some) (values'.map some)
  := List.forall₂_map_left_iff.mpr (List.forall₂_map_right_iff.mpr (h.imp fun _ _ => .some))

theorem SlotsLike.countP_eq {slots slots' : List (Option Value)}
    (h : SlotsLike pairing slots slots') :
  slots.countP (·.isNone) = slots'.countP (·.isNone)
  := by
  induction h with
  | nil => rfl
  | cons hslot _ ih => cases hslot <;> simp [ih]

theorem Binding.Like.slots {f g : Binding} (h : f.Like pairing g) :
  SlotsLike pairing f.slots g.slots
  := by
  obtain ⟨-, hslots, -⟩ := h
  exact hslots

theorem Binding.Like.target {f g : Binding} (h : f.Like pairing g) :
  f.target = g.target
  := by
  obtain ⟨htarget, -, -⟩ := h
  exact htarget

theorem Binding.Like.withSlots {f g : Binding} (h : f.Like pairing g)
    {slots slots' : List (Option Value)} (hslots : SlotsLike pairing slots slots') :
  (Binding.mk f.target slots f.chosen).Like pairing (.mk g.target slots' g.chosen)
  := by
  obtain ⟨htarget, -, hchosen⟩ := h
  exact .mk htarget hslots hchosen

theorem agree_fill {f g : Binding} (h : f.Like pairing g) {values values' : List (Option Value)}
    (hvalues : SlotsLike pairing values values') :
  Agree (f.fill values) (g.fill values') (Binding.Like pairing)
  := by
  have hopen : f.openSlots = g.openSlots := h.slots.countP_eq
  unfold Binding.fill Binding.fill?
  rw [hopen, hvalues.length_eq]
  by_cases e : values'.length = g.openSlots
  · rw [if_pos e, if_pos e]
    exact agree_pure (h.withSlots (slotsLike_fillSlots h.slots hvalues))
  · rw [if_neg e, if_neg e]
    exact agree_fail

theorem agree_bind {env other : Environment} (h : env.Like pairing other) (closure : Closure) :
  Agree (closure.bind env) (closure.bind other) (Binding.Like pairing)
  := by
  have hcaptures : Agree (closure.captures.mapM fun v => env.get v.name)
      (closure.captures.mapM fun v => other.get v.name) (ValuesLike pairing) := by
    have hsame : List.Forall₂ Eq closure.captures closure.captures :=
      List.forall₂_same.mpr fun _ _ => rfl
    refine agree_mapM ?_ hsame
    rintro v _ rfl
    exact agree_get h v.name
  refine hcaptures.bind fun values values' hvalues => agree_pure (.mk rfl ?_ rfl)
  refine List.rel_append (List.forall₂_same.mpr fun slot hslot => ?_) (slotsLike_map_some hvalues)
  obtain ⟨_, -, rfl⟩ := List.mem_map.mp hslot
  exact .none

/-! ### Expressions -/

/-- Whether the value of an expression is mirrored by its value in all environments that agree. -/
def Mirrors (mirror : Mirror) (ask : Request → Eval Value) (asks : Nat → Request → Eval Value)
    (eval : (Request → Eval Value) → Environment → Eval Value) : Prop :=
  ∀ pairing env other, env.Like pairing other →
    mirror.Simulates pairing (eval ask env) (fun fuel => eval (asks fuel) other) Value.Like

section Expressions

variable {env other : Environment}

theorem simulates_evalExprs {exprs : List Expr}
    (h : ∀ e ∈ exprs, Mirrors mirror ask asks fun ask env => e.eval ask env)
    (henv : env.Like pairing other) :
  mirror.Simulates pairing (evalExprs ask env exprs) (fun fuel => evalExprs (asks fuel) other exprs)
    ValuesLike
  := by
  induction exprs generalizing pairing with
  | nil => exact simulates_pure .nil
  | cons expr rest ih =>
    rw [List.forall_mem_cons] at h
    refine (h.1 pairing env other henv).bind fun later hlater v w hvw => ?_
    refine (ih h.2 (henv.extend hlater)).bind fun last hlast vs ws hlike => ?_
    exact simulates_pure (.cons (hvw.extend hlast) hlike)

theorem simulates_evalSlots {slots : List (Option Expr)}
    (h : ∀ e, some e ∈ slots → Mirrors mirror ask asks fun ask env => e.eval ask env)
    (henv : env.Like pairing other) :
  mirror.Simulates pairing (evalSlots ask env slots) (fun fuel => evalSlots (asks fuel) other slots)
    SlotsLike
  := by
  induction slots generalizing pairing with
  | nil => exact simulates_pure .nil
  | cons slot rest ih =>
    have hrest := fun e he => h e (List.mem_cons_of_mem slot he)
    cases slot with
    | none =>
      exact (ih hrest henv).bind fun later hlater vs ws hlike => simulates_pure (.cons .none hlike)
    | some expr =>
      refine (h expr List.mem_cons_self pairing env other henv).bind fun later hlater v w hvw => ?_
      refine (ih hrest (henv.extend hlater)).bind fun last hlast vs ws hlike => ?_
      exact simulates_pure (.cons (.some (hvw.extend hlast)) hlike)

theorem simulates_exec {statement : Stmt}
    (h : Mirrors mirror ask asks fun ask env => statement.value.eval ask env)
    (henv : env.Like pairing other) :
  mirror.Simulates pairing (statement.exec ask env) (fun fuel => statement.exec (asks fuel) other)
    Environment.Like
  := by
  cases statement with
  | assign name type value =>
    refine (h pairing env other henv).bind fun later hlater v w hvw => ?_
    exact simulates_pure ((henv.extend hlater).define name hvw)
  | bare value =>
    refine (h pairing env other henv).bind fun later hlater v w hvw => ?_
    exact simulates_pure (henv.extend hlater)

theorem simulates_execStmts {statements : List Stmt}
    (h : ∀ s ∈ statements, Mirrors mirror ask asks fun ask env => s.value.eval ask env)
    (henv : env.Like pairing other) :
  mirror.Simulates pairing (execStmts ask env statements)
    (fun fuel => execStmts (asks fuel) other statements) Environment.Like
  := by
  induction statements generalizing pairing env other with
  | nil => exact simulates_pure henv
  | cons statement rest ih =>
    rw [List.forall_mem_cons] at h
    exact (simulates_exec h.1 henv).bind fun later _ env' other' henv' => ih h.2 henv'

/-- The values of expressions and blocks are mirrored by their values in environments that agree. -/
theorem simulates_eval (hanswers : mirror.Answers ask asks) :
  (∀ expr : Expr, Mirrors mirror ask asks fun ask env => expr.eval ask env)
    ∧ ∀ block : Block, Mirrors mirror ask asks fun ask env => block.eval ask env
  := by
  apply tree_induction
  case name =>
    exact fun type aliasing name pairing env other henv => (agree_get henv name).simulates_self
  case literal =>
    exact fun type aliasing text pairing env other henv => hanswers pairing _ _ (.literal type text)
  case list =>
    intro type aliasing items element ih pairing env other henv
    refine (simulates_evalExprs ih henv).bind fun later hlater vs ws hlike => ?_
    exact simulates_pure (.list hlike)
  case follow =>
    intro type aliasing receiver member ih pairing env other henv
    refine (ih pairing env other henv).bind fun later hlater v w hvw => ?_
    exact (agree_follow hvw member).simulates_self
  case call =>
    intro type aliasing function entity args chosen ih pairing env other henv
    refine (simulates_evalExprs ih henv).bind fun later hlater vs ws hlike => ?_
    exact hanswers later _ _ (.call entity hlike)
  case callValue =>
    intro type aliasing function args chosen ih ihs pairing env other henv
    refine (ih pairing env other henv).bind fun later hlater v w hvw => ?_
    refine (agree_callee hvw).simulates fun f g hfg => ?_
    refine (simulates_evalExprs ihs (henv.extend hlater)).bind fun last hlast vs ws hlike => ?_
    exact hanswers last _ _ (.apply (hfg.extend hlast) hlike)
  case bind =>
    intro type aliasing function entity slots chosen ih pairing env other henv
    refine (simulates_evalSlots ih henv).bind fun later hlater vs ws hlike => ?_
    exact simulates_pure (.function (.mk rfl hlike (Ty.sameOptions_refl chosen)))
  case bindValue =>
    intro type aliasing function slots chosen ih ihs pairing env other henv
    refine (ih pairing env other henv).bind fun later hlater v w hvw => ?_
    refine (agree_callee hvw).simulates fun f g hfg => ?_
    refine (simulates_evalSlots ihs (henv.extend hlater)).bind fun last hlast vs ws hlike => ?_
    refine (agree_fill (hfg.extend hlast) hlike).simulates fun f g hfg => ?_
    exact simulates_pure (.function hfg)
  case ifThen =>
    intro type aliasing condition thenBlock elseBlock ih ihThen ihElse pairing env other henv
    refine (ih pairing env other henv).bind fun later hlater v w hvw => ?_
    refine (agree_asBoolean hvw).simulates ?_
    rintro holds _ rfl
    cases holds with
    | true => exact ihThen later env other (henv.extend hlater)
    | false => exact ihElse later env other (henv.extend hlater)
  case closure =>
    intro type aliasing site args captures output body _ pairing env other henv
    refine (agree_bind henv (.mk site args captures output body)).simulates fun f g hfg => ?_
    exact simulates_pure (.function hfg)
  case block =>
    intro statements last ih ihLast pairing env other henv
    refine (simulates_execStmts ih henv.push).bind fun later hlater env' other' henv' => ?_
    exact ihLast later env' other' henv'

end Expressions

/-! ### Entities -/

section Entities

variable (hanswers : mirror.Answers ask asks) {values values' : List Value}

/-- The arguments of bindings that agree, if no slot is open. -/
theorem rel_arguments? {f g : Binding} (h : f.Like pairing g) :
  Option.Rel (ValuesLike pairing) f.arguments? g.arguments?
  := by
  have hslots := h.slots
  unfold Binding.arguments?
  generalize f.slots = slots, g.slots = slots' at hslots
  induction hslots with
  | nil => exact .some .nil
  | cons hslot _ ih =>
    rw [List.mapM_cons, List.mapM_cons]
    cases hslot with
    | none => exact .none
    | some hvw =>
      obtain ⟨e, e'⟩ | ⟨rest, rest', e, e', hrest⟩ := rel_cases ih
      · rw [e, e']
        exact .none
      · rw [e, e']
        exact .some (.cons hvw hrest)

theorem rel_fillFirst? {slots slots' : List (Option Value)} (h : SlotsLike pairing slots slots')
    {v w : Value} (hvw : v.Like pairing w) :
  Option.Rel (SlotsLike pairing) (Binding.fillFirst? v slots) (Binding.fillFirst? w slots')
  := by
  induction h with
  | nil => exact .none
  | cons hslot hrest ih =>
    cases hslot with
    | none => exact .some (.cons (.some hvw) hrest)
    | some hfilled => exact rel_map ih fun _ _ hslots => .cons (.some hfilled) hslots

theorem agree_bindMethod {data data' member member' : Value} (hdata : data.Like pairing data')
    (h : member.Like pairing member') :
  Agree (bindMethod data member) (bindMethod data' member') (Binding.Like pairing)
  := by
  refine (agree_asBinding h).bind fun f g hfg => ?_
  have hfirst : Option.Rel (Binding.Like pairing) (f.bindFirst? data) (g.bindFirst? data') :=
    rel_map (rel_fillFirst? hfg.slots hdata) fun _ _ hslots => hfg.withSlots hslots
  obtain ⟨e, e'⟩ | ⟨bound, bound', e, e', hbound⟩ := rel_cases hfirst
  · rw [e, e']
    exact agree_fail
  · rw [e, e']
    exact agree_pure hbound

theorem agree_constructInstance (interface : Interface) (h : ValuesLike pairing values values') :
  Agree (constructInstance interface values) (constructInstance interface values')
    (Value.Like pairing)
  := by
  have hlength := h.length_eq
  obtain _ | ⟨hdata, _ | ⟨hadapter, _ | ⟨hother, hrest⟩⟩⟩ := h
  case cons.cons.nil =>
    cases hadapter
    case struct header _ members others hheader hmembers =>
      refine (agree_mapM (fun _ _ h => agree_bindMethod hdata h) hmembers).bind fun fs gs h => ?_
      exact agree_pure (.object rfl h)
    all_goals exact agree_mismatch rfl
  case cons.cons.cons =>
    cases hadapter <;>
    · unfold constructInstance
      rw [hlength]
      exact agree_fail
  all_goals
    unfold constructInstance
    rw [hlength]
    exact agree_fail

theorem agree_constructAdapter (interface : Interface) (h : ValuesLike pairing values values') :
  Agree (constructAdapter interface values) (constructAdapter interface values')
    (Value.Like pairing)
  := (agree_checkArity h.length_eq).bind fun _ _ _ => agree_pure (.struct rfl h)

theorem agree_constructOption (union : Union) (name : String)
    (h : ValuesLike pairing values values') :
  Agree (constructOption union name values) (constructOption union name values')
    (Value.Like pairing)
  := by
  unfold constructOption
  split
  · refine (agree_checkArity h.length_eq).bind fun _ _ _ => agree_pure (.union _ rfl ?_)
    cases h with
    | nil => exact .none
    | cons hvw _ => exact .some hvw
  · exact agree_fail

include hanswers

theorem simulates_callBody (args : List Argument) (body : Block)
    (h : ValuesLike pairing values values') :
  mirror.Simulates pairing (callBody ask args body values)
    (fun fuel => callBody (asks fuel) args body values') Value.Like
  := (simulates_eval hanswers).2 body pairing _ _ (like_ofBindings h)

theorem simulates_satisfies (header : StructHeader) (requires : Block)
    (h : ValuesLike pairing values values') :
  mirror.Simulates pairing (satisfies ask header requires values)
    (fun fuel => satisfies (asks fuel) header requires values') fun _ => Eq
  := by
  refine ((simulates_eval hanswers).2 requires pairing _ _ (like_ofBindings h)).bind ?_
  exact fun later _ v w hvw => (agree_asBoolean hvw).simulates_self

theorem simulates_callFunction (function : Function) (h : ValuesLike pairing values values') :
  mirror.Simulates pairing (callFunction ask function values)
    (fun fuel => callFunction (asks fuel) function values') Value.Like
  := (agree_checkArity h.length_eq).simulates fun _ _ _ =>
    simulates_callBody hanswers function.args function.body h

theorem simulates_construct (struct : Struct) (h : ValuesLike pairing values values') :
  mirror.Simulates pairing (construct ask struct values)
    (fun fuel => construct (asks fuel) struct values') Value.Like
  := by
  refine (agree_checkArity h.length_eq).simulates fun _ _ _ => ?_
  cases struct.requires with
  | none => exact simulates_pure (.struct rfl h)
  | some requires =>
    refine (simulates_satisfies hanswers _ requires h).bind ?_
    rintro later hlater holds _ rfl
    cases holds with
    | true => exact simulates_pure (.success (.struct rfl (ValuesLike.extend hlater h)))
    | false => exact simulates_pure .failure

theorem simulates_distinguish (union : Union) (h : ValuesLike pairing values values') :
  mirror.Simulates pairing (distinguish ask union values)
    (fun fuel => distinguish (asks fuel) union values') Value.Like
  := by
  refine (agree_checkArity h.length_eq).simulates fun _ _ _ => ?_
  obtain _ | ⟨hvalue, hhandlers⟩ := h
  · exact simulates_fail
  cases hvalue with
  | @union _ _ option payload payload' hunion hpayload =>
    obtain ⟨e, e'⟩ | ⟨handler, handler', e, e', hhandler⟩ :=
      rel_cases (rel_getElem? hhandlers option)
    · simp only [e, e']
      exact simulates_fail
    · simp only [e, e']
      refine (agree_asBinding hhandler).simulates fun f g hfg => ?_
      refine hanswers pairing _ _ (.apply hfg ?_)
      cases hpayload with
      | some hvw => exact .cons hvw .nil
      | none => exact .nil
  | _ => exact simulates_fail

theorem simulates_evalNative (fuel : Nat) (entity : Entity)
    (h : ValuesLike pairing values values') :
  mirror.Simulates pairing (evalNative ask fuel entity values)
    (fun fuel => evalNative (asks fuel) fuel entity values') Value.Like
  := by
  unfold evalNative
  cases nativeDefinitions.struct? entity.id with
  | some header => exact simulates_construct hanswers _ h
  | none =>
    cases NativeFunction.ofId? entity.id with
    | some native => exact NativeFunction.simulates_run hanswers fuel h
    | none => exact simulates_fail

/-- The value of an entity is mirrored by its values for arguments that agree. -/
theorem simulates_evalEntity (program : Program) (fuel : Nat) (entity : Entity)
    (h : ValuesLike pairing values values') :
  mirror.Simulates pairing (evalEntity program ask fuel entity values)
    (fun fuel => evalEntity program (asks fuel) fuel entity values') Value.Like
  := by
  unfold evalEntity
  split
  · exact simulates_evalNative hanswers fuel entity h
  cases program.module.find? entity.module with
  | none => exact simulates_fail
  | some module =>
    dsimp only
    unfold evalDeclared
    cases module.function? entity.id with
    | some function =>
      dsimp only
      cases program.override? entity with
      | some native => exact NativeFunction.simulates_run hanswers fuel h
      | none => exact simulates_callFunction hanswers function h
    | none =>
      dsimp only
      split
      · exact simulates_construct hanswers _ h
      split
      · exact (agree_constructInstance _ h).simulates_self
      split
      · exact (agree_constructAdapter _ h).simulates_self
      split
      · unfold evalUnion
        split
        · exact simulates_distinguish hanswers _ h
        · exact (agree_constructOption _ _ h).simulates_self
      · exact simulates_fail

/-- The value of a binding is mirrored by its values for arguments that agree. -/
theorem simulates_applyBinding {f g : Binding} (hfg : f.Like pairing g)
    (h : ValuesLike pairing values values') :
  mirror.Simulates pairing (applyBinding ask f values)
    (fun fuel => applyBinding (asks fuel) g values') Value.Like
  := by
  refine (agree_fill hfg (slotsLike_map_some h)).simulates fun filled filled' hfilled => ?_
  rw [h.length_eq]
  obtain ⟨e, e'⟩ | ⟨args, args', e, e', hargs⟩ := rel_cases (rel_arguments? hfilled)
  · simp only [e, e']
    exact simulates_fail
  · simp only [e, e', hfilled.target]
    cases filled'.target with
    | entity entity => exact hanswers pairing _ _ (.call entity hargs)
    | closure closure =>
      exact (agree_checkArity hargs.length_eq).simulates fun _ _ _ =>
        simulates_callBody hanswers _ closure.body hargs

end Entities

/-! ### Literals -/

theorem agree_primitiveLiteral {α : Type} {make : α → Value}
    (h : ∀ a, (make a).Like pairing (make a)) (type : Ty) (literal : String) (parsed : Option α) :
  Agree (primitiveLiteral type literal (parsed.map make))
    (primitiveLiteral type literal (parsed.map make)) (Value.Like pairing)
  := by
  cases parsed with
  | some a => exact agree_pure (h a)
  | none => exact agree_fail

section Literals

variable (hanswers : mirror.Answers ask asks)

include hanswers

theorem simulates_decodeStruct (struct : Struct) (member : Argument) (args : List Ty)
    (literal : String) :
  mirror.Simulates pairing (decodeStruct ask struct member args literal)
    (fun fuel => decodeStruct (asks fuel) struct member args literal) Value.Like
  := by
  refine (hanswers pairing _ _ (.literal _ literal)).bind fun later _ v w hvw => ?_
  have hmembers : ValuesLike later [v] [w] := .cons hvw .nil
  cases struct.requires with
  | none => exact simulates_pure (.struct rfl hmembers)
  | some requires =>
    refine (simulates_satisfies hanswers _ requires hmembers).bind ?_
    rintro last hlast holds _ rfl
    cases holds with
    | true => exact simulates_pure (.struct rfl (ValuesLike.extend hlast hmembers))
    | false => exact simulates_fail

theorem simulates_decodeTry (inner : Ty) (literal : String) :
  mirror.Simulates pairing (decodeTry ask inner literal)
    (fun fuel => decodeTry (asks fuel) inner literal) Value.Like
  := by
  unfold decodeTry
  dsimp only
  split
  · exact simulates_pure .failure
  split
  · exact (hanswers pairing _ _ (.literal inner _)).bind fun _ _ _ _ hvw =>
      simulates_pure (.success hvw)
  · exact simulates_fail

/-- The value of a type that a text denotes is mirrored. -/
theorem simulates_decode (program : Program) (type : Ty) (literal : String) :
  mirror.Simulates pairing (decode program ask type literal)
    (fun fuel => decode program (asks fuel) type literal) Value.Like
  := by
  unfold decode
  cases type <;> dsimp only
  case integer => exact (agree_primitiveLiteral .integer _ _ _).simulates_self
  case natural => exact (agree_primitiveLiteral .natural _ _ _).simulates_self
  case boolean => exact (agree_primitiveLiteral .boolean _ _ _).simulates_self
  case tryOf inner => exact simulates_decodeTry hanswers inner literal
  case list element =>
    split
    · exact simulates_fail
    · next items _ =>
      have hitems : mirror.Simulates pairing (items.mapM fun item => ask (.literal element item))
          (fun fuel => items.mapM fun item => asks fuel (.literal element item)) ValuesLike := by
        have hkept : Lasting fun (_ : Pairing) (item other : String) => item = other :=
          fun _ _ _ => id
        refine simulates_mapM hkept (fun hlater _ _ hvw => Value.Like.extend hlater hvw) ?_
          (List.forall₂_same.mpr fun _ _ => rfl)
        rintro later - item _ rfl
        exact hanswers later _ _ (.literal element item)
      exact hitems.bind fun _ _ _ _ hlike => simulates_pure (.list hlike)
  case named isReference entity written args =>
    split
    · exact simulates_pure (.string literal)
    split
    · exact simulates_fail
    split
    · exact simulates_decodeStruct hanswers _ _ args literal
    · exact simulates_fail
  all_goals exact simulates_fail

end Literals

/-! ### Programs -/

/-- A step of a program is mirrored by its steps where requests and answers agree. -/
theorem simulates_step (program : Program) (hanswers : mirror.Answers ask asks) (fuel : Nat)
    {request other : Request} (h : RequestLike pairing request other) :
  mirror.Simulates pairing (program.step fuel ask request)
    (fun fuel => program.step fuel (asks fuel) other) Value.Like
  := by
  cases h with
  | call entity hargs =>
    exact (simulates_evalEntity hanswers program fuel entity hargs).inFrame entity
  | apply hfg hargs => exact simulates_applyBinding hanswers hfg hargs
  | literal type text => exact simulates_decode hanswers program type text

/-- The answers of a program are mirrored by its own answers. -/
theorem answers_program (mirror : Mirror) (program : Program) (fuel : Nat) :
  mirror.Answers (program.answer fuel) program.answer
  := by
  induction fuel with
  | zero => exact fun _ _ _ _ => simulates_outOfFuel
  | succ fuel ih => exact fun pairing request other h => (simulates_step program ih fuel h).of_succ

end TypedModules
