import TypedModules.Proofs.Alias.Guarded
import TypedModules.Proofs.Alias.Region
import TypedModules.Proofs.Eval.Bound
import TypedModules.Proofs.Eval.Executes

/-!
# Shared list builders

A variable that a run gives a reference may share list builders with another variable, although the
reference is not taken from a variable: it may have been made of the variables that its expression
mentions, or be one that was handed to a call.  But it shares with no others: where the new
variable and another reach one list builder, the other variable reached one before that a
mentioned variable reached as well.  The invariant of the run is that every builder that it holds
exists, so that new builders are none of those before.
-/

namespace TypedModules

/-- Whether every list builder that is reachable from a value exists. -/
def Store.Covers (store : Store) (value : Value) : Prop :=
  ∀ number, store.Reaches value number → number < store.next

/-- Whether every list builder that is reachable from what builders hold exists. -/
def Store.Closed (store : Store) : Prop :=
  ∀ number, ∀ item ∈ store.items number, store.Covers item

/-- The values that a request brings along. -/
def Request.values : Request → List Value
  | call _ args => args
  | apply binding args => .function binding :: args
  | literal _ _ => []

/-- Whether the value of an expression is taken from a variable as it is, or is a part of it. -/
inductive Expr.Reads (name : String) : Expr → Prop
  | read {type : Ty} {aliasing : Aliasing} :
    Reads name (.mk type aliasing (.variable name))
  | follow {type : Ty} {aliasing : Aliasing} {receiver : Expr} {member : String} :
    Reads name receiver →
    Reads name (.mk type aliasing (.follow receiver member))
  | bindValue {type : Ty} {aliasing : Aliasing} {function : Expr} {slots : List (Option Expr)}
      {chosen : List (Option Ty)} :
    Reads name function →
    Reads name (.mk type aliasing (.bindValue function slots chosen))
  | thenArm {type : Ty} {aliasing : Aliasing} {condition : Expr} {thenBlock elseBlock : Block} :
    Reads name thenBlock.last →
    Reads name (.mk type aliasing (.ifThen condition thenBlock elseBlock))
  | elseArm {type : Ty} {aliasing : Aliasing} {condition : Expr} {thenBlock elseBlock : Block} :
    Reads name elseBlock.last →
    Reads name (.mk type aliasing (.ifThen condition thenBlock elseBlock))

/-- A guarded expression whose value is taken from a variable says that it may be shared. -/
theorem Expr.Reads.aliasing {name : String} {expr : Expr} (h : expr.Reads name)
    (hguarded : expr.Guarded) :
  expr.aliasing = .possiblyAliased
  := by
  rw [hguarded.aliasing]
  induction h with
  | read => rfl
  | @follow _ _ receiver _ _ ih =>
    have hreceiver : receiver.Guarded := hguarded.operand (List.mem_singleton.mpr rfl)
    exact hreceiver.aliasing.trans (ih hreceiver)
  | @bindValue _ _ function _ _ _ ih =>
    have hfunction : function.Guarded := hguarded.operand List.mem_cons_self
    exact hfunction.aliasing.trans (ih hfunction)
  | @thenArm _ _ _ thenBlock elseBlock _ ih =>
    have hlast : thenBlock.last.Guarded := (hguarded.block (by simp [Expr.node, Node.blocks])).last
    have hthen : thenBlock.aliasing = .possiblyAliased := hlast.aliasing.trans (ih hlast)
    simp only [Expr.node, Node.aliasing, hthen]
    rfl
  | @elseArm _ _ _ thenBlock elseBlock _ ih =>
    have hlast : elseBlock.last.Guarded := (hguarded.block (by simp [Expr.node, Node.blocks])).last
    have helse : elseBlock.aliasing = .possiblyAliased := hlast.aliasing.trans (ih hlast)
    simp only [Expr.node, Node.aliasing, helse]
    cases thenBlock.aliasing <;> rfl

/-! ### Where all builders exist -/

/-- All builders, where the closures have a property. -/
def Region.whole (closures : Closure → Prop) : Region where
  closures := closures
  structs _ _ := True
  builders _ := True
  bounded := True
  origin := {}
  fresh _ _ := trivial

theorem Value.Holds.contains {P : Closure → Prop} {value part : Value} (h : value.Holds P)
    (hpart : value.Contains part) :
  part.Holds P
  := by
  induction hpart with
  | refl => exact h
  | tail _ hstep ih => exact (Value.holds_iff_parts.mp ih).2.2.2 _ hstep

section Whole

variable {P : Closure → Prop} {store : Store} {value : Value}

theorem Region.holds_whole (hclosures : value.Holds P) (hbuilders : store.Covers value) :
  (Region.whole P).Holds store.next value
  := by
  intro part hpart
  constructor
  · exact (Value.holds_iff_parts.mp (hclosures.contains hpart)).1
  · exact fun _ _ _ => trivial
  · intro number hnumber
    obtain rfl := Value.eq_builder_of_builder? hnumber
    exact ⟨trivial, fun _ => hbuilders number ((store.reaches_builder number).of_contains hpart)⟩

theorem Region.fits_whole (hclosures : store.Holds P) (hclosed : store.Closed) :
  (Region.whole P).Fits store.next store
  := by
  constructor
  case next => rfl
  case grown => exact Nat.zero_le _
  case items =>
    exact fun number _ item hitem =>
      Region.holds_whole (hclosures number item hitem) (hclosed number item hitem)
  case outside => exact fun number hnot => absurd trivial hnot

theorem Region.asked_whole {request : Request} (hclosures : request.Holds P)
    (hbuilders : ∀ v ∈ request.values, store.Covers v) :
  (Region.whole P).containment.Asked store.next request
  := by
  cases request with
  | call entity args =>
    exact fun arg harg => Region.holds_whole (hclosures arg harg) (hbuilders arg harg)
  | apply binding args =>
    rw [Request.values, List.forall_mem_cons] at hbuilders
    exact ⟨Region.holds_whole hclosures.1 hbuilders.1,
      fun arg harg => Region.holds_whole (hclosures.2 arg harg) (hbuilders.2 arg harg)⟩
  | literal => trivial

/-- A store does not fit where a builder holds one that does not exist. -/
theorem Region.exists_not_fits (P : Closure → Prop) :
  ∃ left, ∀ count, ¬(Region.whole P).Fits count left
  := by
  refine ⟨⟨#[#[.builder 1]]⟩, fun count hfits => ?_⟩
  have hnext : 1 = count := hfits.next
  have hholds := hfits.items 0 trivial (.builder 1) (by simp [Store.items])
  have hlt := ((hholds _ .refl).builders 1 rfl).2 trivial
  exact absurd hlt (Nat.not_lt.mpr (Nat.le_of_eq hnext.symm))

theorem Region.Fits.covers {count : Nat} (hfits : (Region.whole P).Fits count store)
    (h : (Region.whole P).Holds count value) :
  store.Covers value
  := fun _ hreach => hfits.next ▸ (hfits.reaches h hreach).2 trivial

theorem Region.Fits.closed {count : Nat} (hfits : (Region.whole P).Fits count store) :
  store.Closed
  := fun number item hitem => hfits.covers (hfits.items number trivial item hitem)

end Whole

/-- The bodies of a program whose module is accepted, and those of guarded closures, contain
nothing but guarded closures. -/
theorem hosts_guarded {program : Program} (haccepted : Accepted program.module) :
  (Region.whole fun closure => closure.body.Guarded).containment.Hosts program
  := by
  have hruns : ∀ {args : List Argument} {body : Block}, body.Guarded →
      (Region.whole fun closure => closure.body.Guarded).containment.Runs args body := by
    refine fun hbody => ⟨fun _ _ _ => trivial, fun part hpart =>
      ⟨fun closure hnode => ?_, fun _ _ => trivial⟩⟩
    have hguarded := hbody.part hpart
    exact hguarded.block (by simp [hnode, Node.blocks])
  refine Containment.RunsAll.lenient ?_ (Region.lenient _) fun _ _ => trivial
  constructor
  case tolerant => exact fun _ _ => trivial
  case closures => exact fun _ hbody => hruns hbody
  case functions =>
    exact fun hmodule function hmem => hruns ((haccepted.find? hmodule).guarded.1 function hmem)
  case requires =>
    exact fun hmodule struct hmem block hblock =>
      hruns ((haccepted.find? hmodule).guarded.2 struct hmem block hblock)

theorem Closure.Written.guarded {closure : Closure} (h : closure.Written) :
  closure.body.Guarded
  := by
  obtain ⟨module, haccepted, part, hpart, hnode⟩ := h
  exact (haccepted.guarded_part hpart).block (by simp [hnode, Node.blocks])

/-- Whether a tree is guarded. -/
def Tree.Guarded : Tree → Prop
  | expr e => e.Guarded
  | block b => b.Guarded

theorem Tree.Comes.guarded {ask : Request → Eval Value} {root tree : Tree}
    {env inner : Environment} {store after : Store} (h : root.Comes ask env store tree inner after)
    (hroot : root.Guarded) :
  tree.Guarded
  := by
  induction h with
  | root => exact hroot
  | operand _ hoperands _ ih => exact Expr.Guarded.operand ih (by simp [Expr.node, hoperands])
  | @arm _ _ _ _ _ _ _ _ holds _ _ ih =>
    refine Expr.Guarded.block ih ?_
    cases holds <;> simp [Expr.node, Node.blocks]
  | statement _ hstatements _ ih => exact (Block.Guarded.statements ih _ (by simp [hstatements])).2
  | last _ _ ih => exact Block.Guarded.last ih

theorem guarded_of_bodies {program : Program} (haccepted : Accepted program.module)
    {args : List Argument} {body : Block}
    (h : (Region.whole fun closure => closure.body.Guarded).containment.Bodies program args body) :
  body.Guarded
  := by
  cases h with
  | function hmodule hmem => exact (haccepted.find? hmodule).guarded.1 _ hmem
  | requires hmodule hmem hblock => exact (haccepted.find? hmodule).guarded.2 _ hmem _ hblock
  | closure hguarded => exact hguarded

section Executes

variable {program : Program} (haccepted : Accepted program.module) {request : Request}
  {store : Store} (hclosures : request.Holds Closure.Written)
  (hbuilders : ∀ v ∈ request.values, store.Covers v) (hwritten : store.Holds Closure.Written)
  (hclosed : store.Closed) {fuel depth : Nat} {statement : Stmt} {env : Environment}
  {before : Store} (h : program.Executes fuel request store depth statement env before)

include haccepted hclosures hbuilders hwritten hclosed h

/-- A statement that a run executes gives no variable a reference that may be shared. -/
theorem guarded_of_executes :
  statement.Unshared ∧ statement.value.Guarded
  := by
  have hguarded : ∀ closure : Closure, closure.Written → closure.body.Guarded :=
    fun _ h => h.guarded
  have hfits := Region.fits_whole (hwritten.imp hguarded) hclosed
  have hasked := Region.asked_whole (hclosures.imp hguarded) hbuilders
  obtain ⟨hserves, henters, hcomes, hstatements, -⟩ := h
  obtain ⟨_, hfits, hasked⟩ := Containment.asked_of_serves (hosts_guarded haccepted)
    (Region.exists_not_fits _) hfits hasked hserves
  have hask := Containment.answers_program (hosts_guarded haccepted) depth
  obtain ⟨_, -, -, -, hbody⟩ :=
    Containment.bodies_of_enters hask (Region.lenient _) hfits hasked henters
  have hroot : Tree.Guarded (.block _) := guarded_of_bodies haccepted hbody
  exact Block.Guarded.statements (hcomes.guarded hroot) statement (by simp [hstatements])

/-- Where a run executes a statement, all builders exist. -/
theorem covers_of_executes :
  (∀ name v, env.lookup? name = some v → before.Covers v) ∧ before.Closed
  := by
  have hguarded : ∀ closure : Closure, closure.Written → closure.body.Guarded :=
    fun _ h => h.guarded
  have hfits := Region.fits_whole (hwritten.imp hguarded) hclosed
  have hasked := Region.asked_whole (hclosures.imp hguarded) hbuilders
  obtain ⟨_, hbefore, henv⟩ := h.contained (hosts_guarded haccepted) (Region.lenient _)
    (fun _ => trivial) (Region.exists_not_fits _) hfits hasked
  exact ⟨fun name v hv => Region.Fits.covers hbefore ((henv name).1 v hv),
    Region.Fits.closed hbefore⟩

end Executes

/-! ### What an evaluation shares -/

/-- The builders that the variables with some names reach, and all that are new. -/
def Region.mentioned (store : Store) (env : Environment) (names : List String) : Region where
  closures _ := True
  structs _ _ := True
  builders number := store.next ≤ number
    ∨ ∃ name ∈ names, ∃ v, env.lookup? name = some v ∧ store.Reaches v number
  bounded := True
  origin := store
  fresh _ h := .inl h

section Mentioned

variable {store : Store} {env : Environment} {names : List String}

/-- What a mentioned variable reaches is in the region of what mentioned variables reach. -/
theorem Region.holds_mentioned {value : Value} (hcovers : store.Covers value)
    (hreaches : ∀ number, store.Reaches value number →
      (Region.mentioned store env names).builders number) :
  (Region.mentioned store env names).Holds store.next value
  := by
  intro part hpart
  refine ⟨fun _ _ => trivial, fun _ _ _ => trivial, fun number hnumber => ?_⟩
  obtain rfl := Value.eq_builder_of_builder? hnumber
  have hreach := (store.reaches_builder number).of_contains hpart
  exact ⟨hreaches number hreach, fun _ => hcovers number hreach⟩

theorem Region.fits_mentioned (hclosed : store.Closed) :
  (Region.mentioned store env names).Fits store.next store
  := by
  refine fits_origin fun number hnumber hlt item hitem => ?_
  obtain ⟨name, hname, v, hv, hreach⟩ := hnumber.resolve_left (Nat.not_le_of_lt hlt)
  exact Region.holds_mentioned (hclosed number item hitem) fun deep hdeep =>
    .inr ⟨name, hname, v, hv, hreach.trans (hdeep.of_item hitem)⟩

theorem hosts_mentioned (program : Program) :
  (Region.mentioned store env names).containment.Hosts program
  := (Region.runsAll (fun _ => trivial) program).lenient (Region.lenient _) fun _ _ => trivial

end Mentioned

/-- Where all builders exist, the value of an expression shares builders only with those variables
that shared one with a variable which the expression mentions. -/
theorem shared_of_eval {program : Program} {depth : Nat} {expr : Expr} {env : Environment}
    {before after : Store} {result : Value}
    (henv : ∀ name v, env.lookup? name = some v → before.Covers v) (hclosed : before.Closed)
    (hvalue : (expr.eval (program.answer depth) env).outcome before = (.ok result, after))
    {other : String} {held : Value} (hother : env.lookup? other = some held) {number : Nat}
    (hresult : after.Reaches result number) (hheld : after.Reaches held number) :
  ∃ mentioned ∈ expr.free, ∃ v, env.lookup? mentioned = some v
    ∧ ∃ first, before.Reaches v first ∧ before.Reaches held first
  := by
  let region := Region.mentioned before env expr.free
  have hask : region.containment.Answers (program.answer depth) :=
    Containment.answers_program (hosts_mentioned program) depth
  have hbinds : ∀ name ∈ expr.free, region.containment.Binds before.next env name := by
    refine fun name hname => ⟨fun v hv => ?_, fun _ => trivial⟩
    exact Region.holds_mentioned (henv name v hv) fun _ hreach => .inr ⟨name, hname, v, hv, hreach⟩
  have hkeeps := (Containment.evaluates hask fun _ _ => trivial).1 expr before.next env hbinds
    fun _ _ => ⟨fun _ _ => trivial, fun _ _ => trivial⟩
  obtain ⟨count, -, hfits, hholds⟩ := hkeeps.ok (Region.fits_mentioned hclosed) hvalue
  -- the shared builder is in the region, so the other variable reached the region before
  have hnumber := (Region.Fits.reaches hfits hholds hresult).1
  obtain ⟨first, hfirst, hreach⟩ := Region.Fits.reaches_before hfits hnumber hheld
  obtain hnew | ⟨name, hname, v, hv, hmentioned⟩ := hfirst
  · exact absurd (henv other held hother first hreach) (Nat.not_lt.mpr hnew)
  · exact ⟨name, hname, v, hv, first, hmentioned, hreach⟩

/-- Whenever a program with an accepted module gives a variable a reference, the value is not taken
from a variable, and it shares a list builder with another variable only if that one shared a
builder before with a variable which the expression mentions. -/
theorem shared_of_let {program : Program} (haccepted : Accepted program.module)
    {request : Request} {store : Store} (hclosures : request.Holds Closure.Written)
    (hbuilders : ∀ v ∈ request.values, store.Covers v) (hwritten : store.Holds Closure.Written)
    (hclosed : store.Closed) {fuel depth : Nat} {name : String} {type : Ty} {value : Expr}
    {env : Environment} {before : Store}
    (h : program.Executes fuel request store depth (.assign name type value) env before)
    (hreference : value.type.isReference = true) :
  value.aliasing = .notAliased ∧ (∀ mentioned, ¬value.Reads mentioned)
    ∧ ∀ result after, (value.eval (program.answer depth) env).outcome before = (.ok result, after) →
      ∀ other held, env.lookup? other = some held →
        ∀ number, after.Reaches result number → after.Reaches held number →
          ∃ mentioned ∈ value.free, ∃ v, env.lookup? mentioned = some v
            ∧ ∃ first, before.Reaches v first ∧ before.Reaches held first
  := by
  obtain ⟨hunshared, hguarded⟩ :=
    guarded_of_executes haccepted hclosures hbuilders hwritten hclosed h
  obtain ⟨henv, hbefore⟩ := covers_of_executes haccepted hclosures hbuilders hwritten hclosed h
  have haliasing : value.aliasing = .notAliased := hunshared hreference
  refine ⟨haliasing, fun mentioned hreads => ?_,
    fun result after hvalue other held hother number => ?_⟩
  · rw [hreads.aliasing hguarded] at haliasing
    cases haliasing
  · exact shared_of_eval henv hbefore hvalue hother

/-! ### A closure that captures a builder -/

/-- A context with a function that fills a list builder behind the back of a closure.
`main(): Natural` puts a new builder into `builder`, a closure that builds its list and returns its
size into `size`, and calls `size`. -/
def builderContext : Context where
  functions := [{
      id := ⟨["main"]⟩
      typeParams := []
      args := []
      output := .natural
      body := .mk [
        .assign "builder" none
          (.call ⟨none, ⟨["ListBuilder", "create"]⟩⟩ [] [.integer] none) none,
        .assign "size" none
          (.closure [] .natural (.mk [.bare (.call ⟨none, ⟨["List", "size"]⟩⟩
            [.call ⟨none, ⟨["ListBuilder", "build"]⟩⟩ [.variable "builder" none] [] none] []
            none)] none) none) none,
        .bare (.callValue (.variable "size" none) [] [] none)] none
      annotations := []
      location := none }]

/-- Whether the second statement of a block puts into another variable than `builder` a reference
that reaches the first list builder, where `builder` is that builder. -/
def Block.shares (ask : Request → Eval Value) (block : Block) : Bool :=
  match block.statements with
  | first :: .assign name _ value :: _ =>
    match (execStmts ask (Environment.ofBindings []).push [first]).outcome {} with
    | (.ok env, before) =>
      match (value.eval ask env).outcome before with
      | (.ok result, _) =>
        name != "builder" && value.type.isReference
          && (env.lookup? "builder").any (·.builder? == some 0)
          && result.parts.any (·.builder? == some 0)
      | _ => false
    | _ => false
  | _ => false

theorem Block.exists_of_shares {ask : Request → Eval Value} {block : Block}
    (h : block.shares ask = true) :
  ∃ first name type value rest env before result after,
    block.statements = [first] ++ .assign name type value :: rest
      ∧ (execStmts ask (Environment.ofBindings []).push [first]).outcome {} = (.ok env, before)
      ∧ (value.eval ask env).outcome before = (.ok result, after)
      ∧ name ≠ "builder" ∧ value.type.isReference = true
      ∧ env.lookup? "builder" = some (.builder 0) ∧ after.Reaches result 0
  := by
  unfold shares at h
  split at h
  next first name type value rest hstatements =>
    split at h
    next env before hfirst =>
      split at h
      next result after hvalue =>
        simp only [Bool.and_eq_true, Option.any_eq_true, List.any_eq_true, beq_iff_eq,
          bne_iff_ne] at h
        obtain ⟨⟨⟨hname, hreference⟩, held, hheld, hbuilder⟩, part, hpart, hzero⟩ := h
        obtain rfl := Value.eq_builder_of_builder? hbuilder
        obtain rfl := Value.eq_builder_of_builder? hzero
        exact ⟨first, name, type, value, rest, env, before, result, after, hstatements, hfirst,
          hvalue, hname, hreference, hheld, (after.reaches_builder 0).of_part hpart⟩
      next => cases h
    next => cases h
  next => cases h

/-- A call of a function of a program's own module executes the statements of its body. -/
theorem Program.executes_own {program : Program} (haccepted : Accepted program.module)
    {id : EntityId} {function : Function} (hfunction : program.module.function? id = some function)
    (hplain : program.override? ⟨program.module.id, id⟩ = none) {values : List Value}
    (hlength : function.args.length = values.length) {firsts rest : List Stmt} {statement : Stmt}
    (hstatements : function.body.statements = firsts ++ statement :: rest) {depth : Nat}
    {store before : Store} {env : Environment}
    (hfirsts : (execStmts (program.answer depth)
      (Environment.ofBindings ((function.args.map (·.name)).zip values)).push firsts).outcome store
        = (.ok env, before)) :
  program.Executes (depth + 1) (.call ⟨program.module.id, id⟩ values) store depth statement env
    before
  := by
  have hmodule : program.module.find? program.module.id = some program.module :=
    program.module.find?_self
  exact .intro .start (.function haccepted.not_native hmodule hfunction hplain hlength) .root
    hstatements hfirsts

/-- In `main`, both variables reach one list builder when `size` has its value. -/
theorem exists_capture :
  ∃ (module : Module) (depth : Nat) (name : String) (type : Ty) (value : Expr) (env : Environment)
    (before after : Store) (result : Value), Accepted module
      ∧ Program.Executes { module := module } (depth + 1) (.call ⟨module.id, ⟨["main"]⟩⟩ []) {}
        depth (.assign name type value) env before
      ∧ name ≠ "builder" ∧ value.type.isReference = true
      ∧ (value.eval (Program.answer { module := module } depth) env).outcome before
        = (.ok result, after)
      ∧ env.lookup? "builder" = some (.builder 0) ∧ after.Reaches result 0
  := by
  have hshares : (validate 0 builderContext ⟨"example", "builder"⟩ [] {}).module?.any (fun module =>
      (module.function? ⟨["main"]⟩).any fun function => function.args.isEmpty
        && function.body.shares (Program.answer { module := module } 2)) = true := by
    decide +kernel
  obtain ⟨module, warnings, h, hshares⟩ := Verdict.exists_success hshares
  have haccepted := Accepted.alone h
  rw [Option.any_eq_true] at hshares
  obtain ⟨function, hfunction, hshares⟩ := hshares
  rw [Bool.and_eq_true, List.isEmpty_iff] at hshares
  obtain ⟨first, name, type, value, rest, env, before, result, after, hstatements, hfirst, hvalue,
    hname, hreference, hbuilder, hreach⟩ := Block.exists_of_shares hshares.2
  have hexecutes := @Program.executes_own { module := module } haccepted _ function hfunction rfl []
    (by simp [hshares.1]) _ _ _ hstatements 2 {} before env (by simpa [hshares.1] using hfirst)
  exact ⟨module, 2, name, type, value, env, before, after, result, haccepted, hexecutes, hname,
    hreference, hvalue, hbuilder, hreach⟩

/-- Two variables of an accepted module may reach one list builder although both are references
that were given to variables. -/
theorem shared_capture :
  ∃ (module : Module) (fuel depth : Nat) (name : String) (type : Ty) (value : Expr)
    (env : Environment) (before after : Store) (result held : Value) (other : String)
    (number : Nat), Accepted module
      ∧ Program.Executes { module := module } fuel (.call ⟨module.id, ⟨["main"]⟩⟩ []) {} depth
        (.assign name type value) env before
      ∧ value.type.isReference = true
      ∧ (value.eval (Program.answer { module := module } depth) env).outcome before
        = (.ok result, after)
      ∧ other ≠ name ∧ env.lookup? other = some held
      ∧ after.Reaches result number ∧ after.Reaches held number
  := by
  obtain ⟨module, depth, name, type, value, env, before, after, result, haccepted, hexecutes,
    hname, hreference, hvalue, hbuilder, hreach⟩ := exists_capture
  exact ⟨module, depth + 1, depth, name, type, value, env, before, after, result, _, _, 0, haccepted,
    hexecutes, hreference, hvalue, hname.symm, hbuilder, hreach, after.reaches_builder 0⟩

/-- The closure in `size` mentions a variable with a list builder, and is not taken from one. -/
theorem shared_of_let_capture :
  ∃ (module : Module) (depth : Nat) (name : String) (type : Ty) (value : Expr) (env : Environment)
    (before : Store), Accepted module
      ∧ Program.Executes { module := module } (depth + 1) (.call ⟨module.id, ⟨["main"]⟩⟩ []) {}
        depth (.assign name type value) env before
      ∧ value.aliasing = .notAliased ∧ (∀ mentioned, ¬value.Reads mentioned)
      ∧ ∃ mentioned ∈ value.free, ∃ v, env.lookup? mentioned = some v
        ∧ ∃ first, before.Reaches v first ∧ before.Reaches (.builder 0) first
  := by
  obtain ⟨module, depth, name, type, value, env, before, after, result, haccepted, hexecutes,
    hname, hreference, hvalue, hbuilder, hreach⟩ := exists_capture
  have hrequest : Request.Holds Closure.Written (.call ⟨module.id, ⟨["main"]⟩⟩ []) := by
    simp [Request.Holds]
  have hstore : Store.Holds Closure.Written {} := by simp [Store.Holds, Store.items]
  have hclosed : Store.Closed {} := by simp [Store.Closed, Store.items]
  obtain ⟨haliasing, hreads, hshared⟩ := @shared_of_let { module := module } haccepted _ {} hrequest
    (by simp [Request.values]) hstore hclosed _ _ _ _ _ _ _ hexecutes hreference
  have hmentioned := hshared result after hvalue _ _ hbuilder 0 hreach (after.reaches_builder 0)
  exact ⟨module, depth, name, type, value, env, before, haccepted, hexecutes, haliasing, hreads,
    hmentioned⟩

end TypedModules
