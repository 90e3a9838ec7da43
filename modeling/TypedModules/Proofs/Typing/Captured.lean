import TypedModules.Proofs.Typing.Discipline
import TypedModules.Proofs.Typing.Restrict

/-!
# What closures capture

A variable occurs free in a tree if the tree mentions it at a place where nothing in between has
declared it: neither a closure as its argument, nor a block before the place.  This looks into the
bodies of closures, and not at what is recorded as captured.  In an accepted module the two are the
same: what a closure captures are the visible variables that occur free in it, in the order in which
the scope around it declares them, and nothing else occurs free in it: `captures_exact`.
-/

namespace TypedModules

open Check

/-! ### Free occurrences -/

/-- Whether a variable occurs free in a tree. -/
inductive Tree.HasFree (name : String) : Tree → Prop
  | mention {type : Ty} {aliasing : Aliasing} :
    HasFree name (.expr (.mk type aliasing (.variable name)))
  | operand {type : Ty} {aliasing : Aliasing} {node : Node} {operand : Expr} :
    operand ∈ node.operands →
    HasFree name (.expr operand) →
    HasFree name (.expr (.mk type aliasing node))
  | thenBlock {type : Ty} {aliasing : Aliasing} {condition : Expr} {thenBlock elseBlock : Block} :
    HasFree name (.block thenBlock) →
    HasFree name (.expr (.mk type aliasing (.ifThen condition thenBlock elseBlock)))
  | elseBlock {type : Ty} {aliasing : Aliasing} {condition : Expr} {thenBlock elseBlock : Block} :
    HasFree name (.block elseBlock) →
    HasFree name (.expr (.mk type aliasing (.ifThen condition thenBlock elseBlock)))
  | closure {type : Ty} {aliasing : Aliasing} {closure : Closure} :
    Variables.has closure.args name = false →
    HasFree name (.block closure.body) →
    HasFree name (.expr (.mk type aliasing (.closure closure)))
  | statement {block : Block} {firsts rest : List Stmt} {statement : Stmt} :
    block.statements = firsts ++ statement :: rest →
    Variables.has (declaredBy firsts) name = false →
    HasFree name (.expr statement.value) →
    HasFree name (.block block)
  | last {block : Block} :
    Variables.has (declaredBy block.statements) name = false →
    HasFree name (.expr block.last) →
    HasFree name (.block block)

/-- Whether a variable occurs free in the body of a closure, and is none of its arguments. -/
def Closure.HasFree (closure : Closure) (name : String) : Prop :=
  Variables.has closure.args name = false ∧ Tree.HasFree name (.block closure.body)

/-! ### Names -/

theorem mem_stmtNames {name : String} {statements : List Stmt} :
  name ∈ stmtNames statements ↔ ∃ s ∈ statements, name ∈ s.value.names
  := by
  induction statements with
  | nil => simp [stmtNames]
  | cons statement rest ih => cases statement <;> simp [stmtNames, Stmt.names, Stmt.value, ih]

/-- A node that is no closure mentions itself if it is a variable, and what its operands and its
blocks mention. -/
theorem mem_namesOfNode {name : String} {node : Node} (hclosure : ∀ c, node ≠ .closure c) :
  name ∈ node.names
    ↔ node = .variable name ∨ (∃ operand ∈ node.operands, name ∈ operand.names)
      ∨ ∃ block ∈ node.blocks, name ∈ block.names
  := by
  cases node with
  | closure c => exact absurd rfl (hclosure c)
  | _ => simp [Node.names, Node.operands, Node.blocks, mem_exprNames, mem_slotNames,
      List.reduceOption_mem_iff, eq_comm]

theorem mem_namesOfBlock {name : String} {block : Block} :
  name ∈ block.names
    ↔ (∃ s ∈ block.statements, name ∈ s.value.names) ∨ name ∈ block.last.names
  := by
  cases block
  simp [Block.names, Block.statements, Block.last, mem_stmtNames]

/-! ### Scopes -/

namespace Variables

/-- Whether variables have names of their own. -/
def Distinct (vars : Variables) : Prop :=
  (vars.map (·.name)).Nodup

/-- A name stands for one of two groups of variables only, where all have names of their own. -/
theorem Distinct.has_eq_false {vars more : Variables} (h : Distinct (vars ++ more)) {name : String}
    (hname : vars.has name = true) :
  more.has name = false
  := by
  rw [Distinct, List.map_append, List.nodup_append] at h
  obtain ⟨v, hv, hvname⟩ := List.any_eq_true.mp hname
  rw [Variables.has_eq_false]
  intro hmem
  exact h.2.2 _ (List.mem_map_of_mem hv) _ hmem (beq_iff_eq.mp hvname)

theorem Distinct.append {vars more : Variables} (h : vars.Distinct) (hmore : more.Distinct)
    (hnew : ∀ v ∈ more, vars.has v.name = false) :
  Distinct (vars ++ more)
  := by
  rw [Distinct, List.map_append, List.nodup_append]
  refine ⟨h, hmore, ?_⟩
  rintro _ hname _ hother rfl
  obtain ⟨v, hv, rfl⟩ := List.mem_map.mp hother
  exact Variables.has_eq_false.mp (hnew v hv) hname

end Variables

/-- Whether, where a tree stands, a variable is visible, what a closure or a block declares leaves
the names of the visible variables distinct, and a closure captures what the checker finds for the
names in its body. -/
def Tree.Scoped : Tree → Variables → Prop
  | .expr e, visible =>
    (∀ name, e.node = .variable name → visible.has name = true)
      ∧ ∀ closure, e.node = .closure closure →
        (visible.Distinct → Variables.Distinct (visible ++ closure.args))
          ∧ closure.captures = visible.captured closure.body.names
  | .block b, visible =>
    visible.Distinct → Variables.Distinct (visible ++ declaredBy b.statements)

/-- The rules of the checker make trees whose scopes are as they should be. -/
theorem carries_scoped (setting : Setting) :
  setting.Carries (fun vars _ expr => Tree.Throughout Tree.Scoped (.expr expr) vars)
    fun vars _ block => Tree.Throughout Tree.Scoped (.block block) vars
  := by
  refine carries_throughout ?expr ?closure ?last ?statement
  case expr => exact fun hname hclosure => ⟨hname, fun c e => absurd e (hclosure c)⟩
  case closure =>
    refine fun hnames hnew => ⟨fun _ => nofun, ?_⟩
    rintro closure ⟨⟩
    exact ⟨fun hdistinct => hdistinct.append hnames hnew, rfl⟩
  case last =>
    intro expr vars hactions hdistinct
    simpa [declaredBy, Block.statements] using hdistinct
  case statement =>
    intro written statement block vars hpasses hblock hdistinct
    have hdeclared : Variables.Distinct (vars ++ statement.declared) := by
      cases hpasses with
      | assign _ hnew =>
        exact hdistinct.append (List.nodup_singleton _) (List.forall_mem_singleton.mpr hnew)
      | bare => simpa [Stmt.declared] using hdistinct
    have hinner := hblock hdeclared
    rwa [List.append_assoc] at hinner

/-- A tree whose scopes are as they should be, and that sees variables with names of their own. -/
structure Tree.ScopedIn (whole : Tree) (vars : Variables) : Prop where
  distinct : vars.Distinct
  places : Tree.Throughout Tree.Scoped whole vars

namespace Tree.ScopedIn

variable {type : Ty} {aliasing : Aliasing} {vars : Variables}

theorem operand {node : Node} (h : ScopedIn (.expr (.mk type aliasing node)) vars) {operand : Expr}
    (hoperand : operand ∈ node.operands) :
  ScopedIn (.expr operand) vars
  := ⟨h.distinct, fun tree visible hstands => h.places tree visible (.operand hoperand hstands)⟩

theorem thenBlock {condition : Expr} {thenBlock elseBlock : Block}
    (h : ScopedIn (.expr (.mk type aliasing (.ifThen condition thenBlock elseBlock))) vars) :
  ScopedIn (.block thenBlock) vars
  := ⟨h.distinct, fun tree visible hstands => h.places tree visible (.thenBlock hstands)⟩

theorem elseBlock {condition : Expr} {thenBlock elseBlock : Block}
    (h : ScopedIn (.expr (.mk type aliasing (.ifThen condition thenBlock elseBlock))) vars) :
  ScopedIn (.block elseBlock) vars
  := ⟨h.distinct, fun tree visible hstands => h.places tree visible (.elseBlock hstands)⟩

theorem distinct_args {closure : Closure}
    (h : ScopedIn (.expr (.mk type aliasing (.closure closure))) vars) :
  Variables.Distinct (vars ++ closure.args)
  := ((h.places _ _ .root).2 closure rfl).1 h.distinct

theorem captures_eq {closure : Closure}
    (h : ScopedIn (.expr (.mk type aliasing (.closure closure))) vars) :
  closure.captures = vars.captured closure.body.names
  := ((h.places _ _ .root).2 closure rfl).2

theorem closure {closure : Closure}
    (h : ScopedIn (.expr (.mk type aliasing (.closure closure))) vars) :
  ScopedIn (.block closure.body) (vars ++ closure.args)
  := ⟨h.distinct_args, fun tree visible hstands => h.places tree visible (.closure hstands)⟩

theorem distinct_declared {block : Block} (h : ScopedIn (.block block) vars) :
  Variables.Distinct (vars ++ declaredBy block.statements)
  := h.places _ _ .root h.distinct

/-- What the first statements of a block declare has names of its own. -/
theorem distinct_firsts {block : Block} (h : ScopedIn (.block block) vars) {firsts rest : List Stmt}
    (hstatements : block.statements = firsts ++ rest) :
  Variables.Distinct (vars ++ declaredBy firsts)
  := by
  have hall := h.distinct_declared
  rw [hstatements, declaredBy, List.flatMap_append, ← List.append_assoc] at hall
  exact hall.sublist (List.Sublist.map _ (List.sublist_append_left _ _))

theorem statement {block : Block} (h : ScopedIn (.block block) vars) {firsts rest : List Stmt}
    {statement : Stmt} (hstatements : block.statements = firsts ++ statement :: rest) :
  ScopedIn (.expr statement.value) (vars ++ declaredBy firsts)
  := ⟨h.distinct_firsts hstatements, fun tree visible hstands =>
    h.places tree visible (.statement hstatements hstands)⟩

theorem last {block : Block} (h : ScopedIn (.block block) vars) :
  ScopedIn (.expr block.last) (vars ++ declaredBy block.statements)
  := ⟨h.distinct_declared, fun tree visible hstands => h.places tree visible (.last hstands)⟩

/-- The scopes are as they should be in whatever stands in a tree. -/
theorem of_stands {tree whole : Tree} {visible : Variables} (h : whole.ScopedIn vars)
    (hstands : tree.Stands visible whole vars) :
  tree.ScopedIn visible
  := by
  induction hstands with
  | root => exact h
  | operand hmem _ ih => exact ih (h.operand hmem)
  | thenBlock _ ih => exact ih h.thenBlock
  | elseBlock _ ih => exact ih h.elseBlock
  | closure _ ih => exact ih h.closure
  | statement hstatements _ ih => exact ih (h.statement hstatements)
  | last _ ih => exact ih h.last

/-! ### Free variables and names -/

/-- What occurs free in a tree is visible. -/
theorem has_of_hasFree {whole : Tree} {name : String} (h : whole.ScopedIn vars)
    (hfree : whole.HasFree name) :
  vars.has name = true
  := by
  induction hfree generalizing vars with
  | mention => exact (h.places _ _ .root).1 name rfl
  | operand hmem _ ih => exact ih (h.operand hmem)
  | thenBlock _ ih => exact ih h.thenBlock
  | elseBlock _ ih => exact ih h.elseBlock
  | closure hargs _ ih =>
    have hinner := ih h.closure
    rwa [Variables.has_append, hargs, Bool.or_false] at hinner
  | statement hstatements hnew _ ih =>
    have hinner := ih (h.statement hstatements)
    rwa [Variables.has_append, hnew, Bool.or_false] at hinner
  | last hnew _ ih =>
    have hinner := ih h.last
    rwa [Variables.has_append, hnew, Bool.or_false] at hinner

end Tree.ScopedIn

/-- The names that a tree mentions. -/
def Tree.names : Tree → List String
  | .expr e => e.names
  | .block b => b.names

/-- A tree mentions what occurs free in it, although the names in a closure are only those that it
captures: it captures all of them. -/
theorem Tree.ScopedIn.mem_names {whole : Tree} {vars : Variables} {name : String}
    (h : whole.ScopedIn vars) (hfree : whole.HasFree name) :
  name ∈ whole.names
  := by
  induction hfree generalizing vars with
  | mention => exact List.mem_singleton_self name
  | operand hmem _ ih =>
    refine (mem_namesOfNode ?_).mpr (.inr (.inl ⟨_, hmem, ih (h.operand hmem)⟩))
    rintro c rfl
    cases hmem
  | thenBlock _ ih =>
    exact (mem_namesOfNode (by simp)).mpr
      (.inr (.inr ⟨_, List.mem_cons_self, ih h.thenBlock⟩))
  | elseBlock _ ih =>
    exact (mem_namesOfNode (by simp)).mpr
      (.inr (.inr ⟨_, List.mem_cons_of_mem _ List.mem_cons_self, ih h.elseBlock⟩))
  | @closure _ _ closure hargs hfree ih =>
    have hvisible := h.has_of_hasFree (.closure hargs hfree)
    have hcaptures := Variables.captures_captured h.distinct closure.body.names
    rw [← h.captures_eq] at hcaptures
    cases closure
    exact hcaptures.complete name (ih h.closure) hvisible
  | statement hstatements _ _ ih =>
    refine mem_namesOfBlock.mpr (.inl ⟨_, ?_, ih (h.statement hstatements)⟩)
    simp [hstatements]
  | last _ _ ih => exact mem_namesOfBlock.mpr (.inr (ih h.last))

/-- What a tree mentions occurs free in it if it is visible: nothing in the tree declares it. -/
theorem hasFree_of_mem_names {name : String} :
  (∀ (expr : Expr) (vars : Variables), Tree.ScopedIn (.expr expr) vars → vars.has name = true →
      name ∈ expr.names → Tree.HasFree name (.expr expr))
    ∧ ∀ (block : Block) (vars : Variables), Tree.ScopedIn (.block block) vars →
      vars.has name = true → name ∈ block.names → Tree.HasFree name (.block block)
  := by
  apply operand_induction
  case expr =>
    intro type aliasing node ihOperands ihBlocks vars h hvisible hname
    cases node with
    | closure closure =>
      have hnames : name ∈ (vars.captured closure.body.names).map (·.name) := by
        rw [← h.captures_eq]
        cases closure
        exact hname
      obtain ⟨v, hv, rfl⟩ := List.mem_map.mp hnames
      refine .closure (h.distinct_args.has_eq_false hvisible) ?_
      refine ihBlocks _ List.mem_cons_self _ h.closure ?_ (Variables.go_captured.2.1 v hv)
      rw [Variables.has_append, hvisible, Bool.true_or]
    | ifThen condition thenBlock elseBlock =>
      obtain e | ⟨_, hmem, hname⟩ | ⟨block, hmem, hinside⟩ :=
        (mem_namesOfNode (by simp)).mp hname
      · cases e
      · exact .operand hmem (ihOperands _ hmem vars (h.operand hmem) hvisible hname)
      · have ih := ihBlocks block hmem vars
        obtain rfl | hmem := List.mem_cons.mp hmem
        · exact .thenBlock (ih h.thenBlock hvisible hinside)
        · obtain rfl := List.mem_singleton.mp hmem
          exact .elseBlock (ih h.elseBlock hvisible hinside)
    | _ =>
      obtain e | ⟨_, hmem, hname⟩ | ⟨_, hmem, -⟩ := (mem_namesOfNode (by simp)).mp hname
      · exact e ▸ .mention
      · exact .operand hmem (ihOperands _ hmem vars (h.operand hmem) hvisible hname)
      · cases hmem
  case block =>
    intro block ihValues ihLast vars h hvisible hname
    have hinner : ∀ more : Variables, Variables.has (vars ++ more) name = true := by
      simp [Variables.has_append, hvisible]
    obtain ⟨s, hs, hname⟩ | hname := mem_namesOfBlock.mp hname
    · obtain ⟨firsts, rest, hstatements⟩ := List.append_of_mem hs
      exact .statement hstatements ((h.distinct_firsts hstatements).has_eq_false hvisible)
        (ihValues s hs _ (h.statement hstatements) (hinner _) hname)
    · exact .last (h.distinct_declared.has_eq_false hvisible)
        (ihLast _ h.last (hinner _) hname)

/-! ### Captures -/

/-- Whether a closure captures, in the order in which the visible variables are declared and each
once and with its type, those of them that occur free in it, and nothing else occurs free in it. -/
structure Closure.CapturesFree (closure : Closure) (visible : Variables) : Prop where
  /-- No name stands for two of the visible variables. -/
  apart : visible.Distinct
  distinct : Variables.Distinct closure.captures
  order : closure.captures.Sublist visible
  free : ∀ v ∈ visible, v ∈ closure.captures ↔ closure.HasFree v.name
  closed : ∀ name, closure.HasFree name → visible.has name = true

theorem Tree.ScopedIn.capturesFree {type : Ty} {aliasing : Aliasing} {closure : Closure}
    {visible : Variables} (h : ScopedIn (.expr (.mk type aliasing (.closure closure))) visible) :
  closure.CapturesFree visible
  := by
  have hcaptures := Variables.captures_captured h.distinct closure.body.names
  constructor
  case apart => exact h.distinct
  case distinct =>
    rw [h.captures_eq]
    exact hcaptures.distinct
  case order =>
    rw [h.captures_eq]
    exact Variables.go_captured.1
  case free =>
    intro v hv
    rw [h.captures_eq]
    have hvisible : visible.has v.name = true := List.any_eq_true.mpr ⟨v, hv, by simp⟩
    constructor
    · intro hmem
      refine ⟨h.distinct_args.has_eq_false hvisible, ?_⟩
      refine hasFree_of_mem_names.2 _ _ h.closure ?_ (hcaptures.mentioned v hmem)
      rw [Variables.has_append, hvisible, Bool.true_or]
    · rintro ⟨-, hfree⟩
      have hname := hcaptures.complete v.name (h.closure.mem_names hfree) hvisible
      obtain ⟨c, hc, hcname⟩ := List.mem_map.mp hname
      rwa [← List.inj_on_of_nodup_map h.distinct (Variables.go_captured.1.mem hc) hv hcname]
  case closed => exact fun name hfree => h.has_of_hasFree (.closure hfree.1 hfree.2)

/-! ### Modules -/

/-- Whether a tree stands in one of the bodies of a module where the given variables are visible. -/
inductive Module.Shows (module : Module) (tree : Tree) (visible : Variables) : Prop
  | body {function : Function} :
    function ∈ module.functions →
    tree.Stands visible (.block function.body) function.args →
    Shows module tree visible
  | requires {struct : Struct} {block : Block} :
    struct ∈ module.structs →
    struct.requires = some block →
    tree.Stands visible (.block block) struct.members →
    Shows module tree visible

/-- Every expression of a module stands somewhere in it. -/
theorem Module.exists_shows {module : Module} {part : Expr} (hpart : part ∈ module.parts) :
  ∃ visible, module.Shows (.expr part) visible
  := by
  simp only [Module.parts, List.mem_append, List.mem_flatMap, Option.mem_toList] at hpart
  obtain ⟨function, hfunction, hpart⟩ | ⟨struct, hstruct, block, hblock, hpart⟩ := hpart
  · obtain ⟨visible, hstands⟩ := exists_stands.2 function.body hpart function.args
    exact ⟨visible, .body hfunction hstands⟩
  · obtain ⟨visible, hstands⟩ := exists_stands.2 block hpart struct.members
    exact ⟨visible, .requires hstruct hblock hstands⟩

/-- The scopes are as they should be wherever something stands in an accepted module. -/
theorem Accepted.scopedIn {module : Module} (h : Accepted module) {tree : Tree}
    {visible : Variables} (hshows : module.Shows tree visible) :
  tree.ScopedIn visible
  := by
  obtain ⟨number, context, name, dependencies, -, hchecked⟩ := h.checked
  cases hshows with
  | body hfunction hstands =>
    obtain ⟨written, hpasses, -⟩ := hchecked.passes_body hfunction
    exact .of_stands ⟨(hchecked.formed_args h hfunction).names,
      (carries_scoped _).of_block _ _ written hpasses⟩ hstands
  | requires hstruct hblock hstands =>
    obtain ⟨written, hpasses, -⟩ := hchecked.passes_requires hstruct hblock
    exact .of_stands ⟨(hchecked.formed_members h hstruct).names,
      (carries_scoped _).of_block _ _ written hpasses⟩ hstands

/-- A closure of an accepted module stands in a body of it, and wherever it does, it captures the
visible variables that occur free in it, in their order, and nothing else occurs free in it. -/
theorem captures_exact {module : Module} (h : Accepted module) {part : Expr}
    (hpart : part ∈ module.parts) {closure : Closure} (hnode : part.node = .closure closure) :
  (∃ visible, module.Shows (.expr part) visible)
    ∧ ∀ visible, module.Shows (.expr part) visible → closure.CapturesFree visible
  := by
  refine ⟨Module.exists_shows hpart, fun visible hshows => ?_⟩
  obtain ⟨type, aliasing, node⟩ := part
  obtain rfl : node = .closure closure := hnode
  exact (h.scopedIn hshows).capturesFree

/-- A context with a closure in a closure.  `main(a: Integer, b: Integer, c: Integer): Integer`
calls, with `a`, a closure that passes on its argument `x` to another one, which adds `c`, `a`, `x`
and its own argument `y`. -/
def innerContext : Context where
  functions := [{
      id := ⟨["main"]⟩
      typeParams := []
      args := [⟨"a", .integer, none⟩, ⟨"b", .integer, none⟩, ⟨"c", .integer, none⟩]
      output := .integer
      body := .mk [.bare (.callValue
        (.closure [⟨"x", .integer, none⟩] .integer (.mk [
          .assign "sum" none (.closure [⟨"y", .integer, none⟩] .integer (.mk [.bare
            (.call ⟨none, ⟨["Integer", "plus"]⟩⟩ [.variable "c" none,
              .call ⟨none, ⟨["Integer", "plus"]⟩⟩ [.variable "a" none,
                .call ⟨none, ⟨["Integer", "plus"]⟩⟩ [.variable "x" none, .variable "y" none]
                  [] none] [] none] [] none)] none) none) none,
          .bare (.callValue (.variable "sum" none) [.variable "x" none] [] none)] none) none)
        [.variable "a" none] [] none)] none
      annotations := []
      location := none }]

/-- The names of what an expression captures, if it is a closure. -/
def Expr.captured? (expr : Expr) : Option (List String) :=
  match expr.node with
  | .closure closure => some (closure.captures.map (·.name))
  | _ => none

/-- The outer closure of `main` captures `a` and `c`, which only the inner one mentions, in the
order of their declarations. -/
theorem captures_exact_inner :
  ∃ (module : Module) (part : Expr) (closure : Closure), Accepted module ∧ part ∈ module.parts
    ∧ part.node = .closure closure ∧ closure.captures.map (·.name) = ["a", "c"]
    ∧ (∃ visible, module.Shows (.expr part) visible)
    ∧ ∀ visible, module.Shows (.expr part) visible → closure.CapturesFree visible
  := by
  have hcaptured : (validate 0 innerContext ⟨"example", "inner"⟩ [] {}).module?.any (fun module =>
      module.parts.any fun part => part.captured? == some ["a", "c"]) = true := by
    decide +kernel
  obtain ⟨module, warnings, h, hcaptured⟩ := Verdict.exists_success hcaptured
  simp only [List.any_eq_true, beq_iff_eq] at hcaptured
  obtain ⟨part, hpart, hcaptured⟩ := hcaptured
  have haccepted := Accepted.alone h
  unfold Expr.captured? at hcaptured
  split at hcaptured
  next closure hnode =>
    exact ⟨module, part, closure, haccepted, hpart, hnode, Option.some.inj hcaptured,
      captures_exact haccepted hpart hnode⟩
  next => cases hcaptured

end TypedModules
