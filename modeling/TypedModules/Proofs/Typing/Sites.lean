import TypedModules.Proofs.Declared.Accepted
import TypedModules.Proofs.Eval.Linking
import TypedModules.Proofs.Graph.Coherence
import TypedModules.Proofs.Typing.Induction
import TypedModules.Proofs.Typing.Module
import TypedModules.Proofs.Typing.Passing

/-!
# Sites identify closures

A closure knows the site at which it is written, and the checker gives every closure of a tree
another one: below the site of an expression stand the sites of its parts, and those of different
parts differ in the number by which they go on.  So all closures of a module and of those on which
it depends can be told apart by their sites: `Accepted.closure_unique`.
-/

namespace TypedModules

open Check

/-! ### Sites of trees -/

/-- Whether a site is another or stands below it. -/
structure Site.Below (site other : Site) : Prop where
  check : other.check = site.check
  owner : other.owner = site.owner
  path : site.path <:+ other.path

theorem Site.below_refl (site : Site) :
  site.Below site
  := ⟨rfl, rfl, List.suffix_refl _⟩

theorem Site.Below.of_child {site other : Site} {index : Nat} (h : (site.child index).Below other) :
  site.Below other
  := ⟨h.check, h.owner, (List.suffix_cons index site.path).trans h.path⟩

/-- What stands below a site stands below one of its children only. -/
theorem Site.Below.child_unique {site other : Site} {i j : Nat} (h : (site.child i).Below other)
    (h' : (site.child j).Below other) :
  i = j
  := by
  have hsuffix : (i :: site.path) <:+ j :: site.path :=
    List.suffix_of_suffix_length_le h.path h'.path (by simp)
  have heq := hsuffix.eq_of_length (by simp)
  exact (List.cons.inj heq).1

/-- A site does not stand below its children. -/
theorem Site.not_below_child (site : Site) (index : Nat) :
  ¬(site.child index).Below site
  := fun h => absurd h.path.length_le (by simp [Site.child])

/-- Whether a closure stands among expressions. -/
def ClosureIn (parts : List Expr) (closure : Closure) : Prop :=
  ∃ part ∈ parts, part.node = .closure closure

/-- Whether the closures among expressions have sites below one, each another. -/
structure Sited (site : Site) (parts : List Expr) : Prop where
  below : ∀ c, ClosureIn parts c → site.Below c.site
  unique : ∀ c d, ClosureIn parts c → ClosureIn parts d → c.site = d.site → c = d

/-- Whether the closures among expressions have sites below children of one from a number on, each
another. -/
structure SitedFrom (site : Site) (index : Nat) (parts : List Expr) : Prop where
  below : ∀ c, ClosureIn parts c → ∃ k, index ≤ k ∧ (site.child k).Below c.site
  unique : ∀ c d, ClosureIn parts c → ClosureIn parts d → c.site = d.site → c = d

theorem closureIn_append {first rest : List Expr} {c : Closure} :
  ClosureIn (first ++ rest) c ↔ ClosureIn first c ∨ ClosureIn rest c
  := by
  simp only [ClosureIn, List.mem_append, or_and_right, exists_or]

theorem closureIn_cons {expr : Expr} {rest : List Expr} {c : Closure} :
  ClosureIn (expr :: rest) c ↔ expr.node = .closure c ∨ ClosureIn rest c
  := by
  simp [ClosureIn]

section Sited

variable {site : Site} {index : Nat} {first rest parts : List Expr}

theorem sitedFrom_nil :
  SitedFrom site index []
  := by
  constructor
  case below =>
    rintro c ⟨_, ⟨⟩, _⟩
  case unique =>
    rintro c d ⟨_, ⟨⟩, _⟩

theorem SitedFrom.cons (h : Sited (site.child index) first)
    (hrest : SitedFrom site (index + 1) rest) :
  SitedFrom site index (first ++ rest)
  := by
  have hapart : ∀ c d, ClosureIn first c → ClosureIn rest d → c.site ≠ d.site := by
    intro c d hc hd e
    obtain ⟨k, hk, hbelow⟩ := hrest.below d hd
    have hindex := (e ▸ h.below c hc).child_unique hbelow
    omega
  constructor
  case below =>
    intro c hc
    obtain hc | hc := closureIn_append.mp hc
    · exact ⟨index, Nat.le_refl index, h.below c hc⟩
    · obtain ⟨k, hk, hbelow⟩ := hrest.below c hc
      exact ⟨k, by omega, hbelow⟩
  case unique =>
    intro c d hc hd e
    obtain hc | hc := closureIn_append.mp hc <;> obtain hd | hd := closureIn_append.mp hd
    · exact h.unique c d hc hd e
    · exact absurd e (hapart c d hc hd)
    · exact absurd e.symm (hapart d c hd hc)
    · exact hrest.unique c d hc hd e

theorem SitedFrom.last (h : Sited (site.child index) parts) :
  SitedFrom site index parts
  := by
  simpa using SitedFrom.cons h sitedFrom_nil

theorem SitedFrom.of_succ (h : SitedFrom site (index + 1) parts) :
  SitedFrom site index parts
  := by
  refine ⟨fun c hc => ?_, h.unique⟩
  obtain ⟨k, hk, hbelow⟩ := h.below c hc
  exact ⟨k, by omega, hbelow⟩

/-- An expression that is no closure adds none. -/
theorem SitedFrom.expr {type : Ty} {aliasing : Aliasing} {node : Node}
    (h : SitedFrom site index parts) (hnode : ∀ c, node ≠ .closure c) :
  Sited site (.mk type aliasing node :: parts)
  := by
  have hin : ∀ c, ClosureIn (.mk type aliasing node :: parts) c → ClosureIn parts c :=
    fun c hc => (closureIn_cons.mp hc).resolve_left (hnode c)
  constructor
  case below =>
    intro c hc
    obtain ⟨k, -, hbelow⟩ := h.below c (hin c hc)
    exact hbelow.of_child
  case unique => exact fun c d hc hd => h.unique c d (hin c hc) (hin d hd)

/-- A closure stands at the site itself, and those in its body below. -/
theorem SitedFrom.closure {type : Ty} {aliasing : Aliasing} {args captures : List Argument}
    {output : Ty} {body : Block} (h : SitedFrom site index parts) :
  Sited site (.mk type aliasing (.closure (.mk site args captures output body)) :: parts)
  := by
  have hnot : ∀ c, ClosureIn parts c → c.site ≠ site := by
    intro c hc e
    obtain ⟨k, -, hbelow⟩ := h.below c hc
    exact Site.not_below_child site k (e ▸ hbelow)
  constructor
  case below =>
    intro c hc
    obtain ⟨⟨⟩⟩ | hc := closureIn_cons.mp hc
    · exact site.below_refl
    · obtain ⟨k, -, hbelow⟩ := h.below c hc
      exact hbelow.of_child
  case unique =>
    intro c d hc hd e
    obtain ⟨⟨⟩⟩ | hc := closureIn_cons.mp hc <;> obtain ⟨⟨⟩⟩ | hd := closureIn_cons.mp hd
    · rfl
    · exact absurd e.symm (hnot d hd)
    · exact absurd e (hnot c hc)
    · exact h.unique c d hc hd e

end Sited

/-! ### Checked trees -/

section Checked

variable {setting : Setting}

mutual

/-- The closures of an expression that passes have sites below its own, each another. -/
theorem sited_expr : (site : Site) → (vars : Variables) → (written : SourceExpr) → {expr : Expr} →
    (checkExpr setting site vars written).Passes expr → Sited site expr.parts
  | site, vars, .variable name location, expr, hp => by
    simp only [checkExpr] at hp
    split at hp
    · cases passes_pure.mp hp
      exact (@sitedFrom_nil site 0).expr nofun
    · exact absurd hp (not_passes_fail _ _ _ _)
  | site, _, .literal written text location, expr, hp => by
    rw [checkExpr, passes_checkLiteral] at hp
    obtain ⟨_, _, -, -, -, rfl⟩ := hp
    exact (@sitedFrom_nil site 0).expr nofun
  | site, vars, .list written element location, expr, hp => by
    simp only [checkExpr, passes_bind, passes_pure] at hp
    obtain ⟨type, -, _, -, items, hitems, rfl⟩ := hp
    exact (sited_items site vars type location 0 written hitems).expr nofun
  | site, vars, .follow written member location, expr, hp => by
    simp only [checkExpr, passes_bind, passes_checkFollow] at hp
    obtain ⟨receiver, hreceiver, _, -, rfl⟩ := hp
    exact (SitedFrom.last (sited_expr _ vars written hreceiver)).expr nofun
  | site, vars, .call reference written choices location, expr, hp => by
    simp only [checkExpr, passes_bind, passes_pure] at hp
    obtain ⟨_, -, _, -, args, hargs, _, -, rfl⟩ := hp
    exact (sited_exprs site vars 0 written hargs).expr nofun
  | site, vars, .callValue callee written choices location, expr, hp => by
    simp only [checkExpr, passes_bind, passes_pure] at hp
    obtain ⟨value, hvalue, _, -, _, -, args, hargs, _, -, rfl⟩ := hp
    exact (SitedFrom.cons (sited_expr _ vars callee hvalue)
      (sited_exprs site vars 1 written hargs)).expr nofun
  | site, vars, .bind reference written choices location, expr, hp => by
    simp only [checkExpr, passes_bind, passes_pure] at hp
    obtain ⟨_, -, _, -, slots, hslots, _, -, rfl⟩ := hp
    exact (sited_slots site vars 0 written hslots).expr nofun
  | site, vars, .bindValue callee written choices location, expr, hp => by
    simp only [checkExpr, passes_bind, passes_pure] at hp
    obtain ⟨value, hvalue, _, -, _, -, slots, hslots, _, -, rfl⟩ := hp
    exact (SitedFrom.cons (sited_expr _ vars callee hvalue)
      (sited_slots site vars 1 written hslots)).expr nofun
  | site, vars, .ifThen written first second location, expr, hp => by
    simp only [checkExpr, passes_bind, passes_unless, passes_pure] at hp
    obtain ⟨condition, hcondition, -, thenBlock, hthen, elseBlock, helse, -, rfl⟩ := hp
    exact (SitedFrom.cons (sited_expr _ vars written hcondition)
      (.cons (sited_block _ vars first hthen) (.last (sited_block _ vars second helse)))).expr nofun
  | site, vars, .closure written result inner location, expr, hp => by
    simp only [checkExpr, checkClosure, passes_bind, passes_unless, passes_pure] at hp
    obtain ⟨_, -, args, -, output, -, body, hbody, -, rfl⟩ := hp
    exact (SitedFrom.last (sited_block _ _ inner hbody)).closure

theorem sited_exprs : (site : Site) → (vars : Variables) → (index : Nat) →
    (written : List SourceExpr) → {exprs : List Expr} →
      (checkExprs setting site vars index written).Passes exprs →
        SitedFrom site index (partsOfExprs exprs)
  | _, _, _, [], exprs, hp => by
    cases passes_pure.mp hp
    exact sitedFrom_nil
  | site, vars, index, first :: rest, exprs, hp => by
    simp only [checkExprs, passes_bind, passes_pure] at hp
    obtain ⟨typed, htyped, others, hothers, rfl⟩ := hp
    exact .cons (sited_expr _ vars first htyped) (sited_exprs site vars _ rest hothers)

theorem sited_items : (site : Site) → (vars : Variables) → (element : Ty) →
    (location : Option Location) → (index : Nat) → (written : List SourceExpr) →
      {items : List Expr} →
        (checkItems setting site vars element location index written).Passes items →
          SitedFrom site index (partsOfExprs items)
  | _, _, _, _, _, [], items, hp => by
    cases passes_pure.mp hp
    exact sitedFrom_nil
  | site, vars, element, location, index, first :: rest, items, hp => by
    simp only [checkItems, passes_bind, passes_unless, passes_pure] at hp
    obtain ⟨item, hitem, -, others, hothers, rfl⟩ := hp
    exact .cons (sited_expr _ vars first hitem)
      (sited_items site vars element location _ rest hothers)

theorem sited_slots : (site : Site) → (vars : Variables) → (index : Nat) →
    (written : List (Option SourceExpr)) → {slots : List (Option Expr)} →
      (checkSlots setting site vars index written).Passes slots →
        SitedFrom site index (partsOfSlots slots)
  | _, _, _, [], slots, hp => by
    cases passes_pure.mp hp
    exact sitedFrom_nil
  | site, vars, index, none :: rest, slots, hp => by
    simp only [checkSlots, passes_bind, passes_pure] at hp
    obtain ⟨others, hothers, rfl⟩ := hp
    exact (sited_slots site vars _ rest hothers).of_succ
  | site, vars, index, some first :: rest, slots, hp => by
    simp only [checkSlots, passes_bind, passes_pure] at hp
    obtain ⟨typed, htyped, others, hothers, rfl⟩ := hp
    exact .cons (sited_expr _ vars first htyped) (sited_slots site vars _ rest hothers)

theorem sited_stmt : (site : Site) → (vars : Variables) → (written : SourceStmt) →
    {result : Stmt × Variables} → (checkStmt setting site vars written).Passes result →
      Sited site result.1.parts
  | site, vars, .assign name type value location, result, hp => by
    simp only [checkStmt, passes_bind, passes_pure] at hp
    obtain ⟨_, -, typed, hvalue, _, -, _, -, rfl⟩ := hp
    exact sited_expr site vars value hvalue
  | site, vars, .bare value, result, hp => by
    simp only [checkStmt, passes_bind, passes_pure] at hp
    obtain ⟨typed, hvalue, _, -, rfl⟩ := hp
    exact sited_expr site vars value hvalue

theorem sited_stmts : (site : Site) → (vars : Variables) → (location : Option Location) →
    (index : Nat) → (written : List SourceStmt) → {block : Block} →
      (checkStmts setting site vars location index written).Passes block →
        SitedFrom site index block.parts
  | _, _, _, _, [], block, hp => absurd hp (not_passes_fail _ _ _ _)
  | site, vars, location, index, [last], block, hp => by
    simp only [checkStmts, passes_bind] at hp
    obtain ⟨⟨typed, after⟩, hlast, hp⟩ := hp
    have hsited := sited_stmt _ vars last hlast
    cases typed with
    | assign => exact absurd hp (not_passes_fail _ _ _ _)
    | bare value =>
      cases passes_pure.mp hp
      exact .last hsited
  | site, vars, location, index, statement :: next :: rest, block, hp => by
    simp only [checkStmts, passes_bind, passes_pure] at hp
    obtain ⟨⟨typed, after⟩, hstatement, block, hrest, rfl⟩ := hp
    have hparts : (Block.mk (typed :: block.statements) block.last).parts
        = typed.parts ++ block.parts := by
      cases block
      simp [Block.parts, partsOfStmts, Block.statements, Block.last]
    rw [hparts]
    exact .cons (sited_stmt _ vars statement hstatement)
      (sited_stmts site after location _ (next :: rest) hrest)

/-- The closures of a block that passes have sites below its own, each another. -/
theorem sited_block : (site : Site) → (vars : Variables) → (written : SourceBlock) →
    {block : Block} → (checkBlock setting site vars written).Passes block → Sited site block.parts
  | site, vars, .mk statements location, block, hp => by
    rw [checkBlock] at hp
    have hsited := sited_stmts site vars location 0 statements hp
    refine ⟨fun c hc => ?_, hsited.unique⟩
    obtain ⟨k, -, hbelow⟩ := hsited.below c hc
    exact hbelow.of_child

end

end Checked

/-! ### Checked modules -/

/-- Whether a block is the body of what is declared under an id as a kind: of a function, or of a
struct that has a `requires` block. -/
inductive Module.HasBody (module : Module) : EntityId → EntityKind → Block → Prop
  | function {function : Function} :
    function ∈ module.functions →
    HasBody module function.id .function function.body
  | requires {struct : Struct} {block : Block} :
    struct ∈ module.structs →
    struct.requires = some block →
    HasBody module struct.id .struct block

section Module

variable {module : Module} {id : EntityId} {kind kind' : EntityKind} {body body' : Block}

/-- A closure of a module stands in one of its bodies. -/
theorem Module.exists_hasBody {c : Closure} (h : ClosureIn module.parts c) :
  ∃ id kind body, module.HasBody id kind body ∧ ClosureIn body.parts c
  := by
  obtain ⟨part, hpart, hnode⟩ := h
  simp only [Module.parts, List.mem_append, List.mem_flatMap, Option.mem_toList] at hpart
  obtain ⟨function, hfunction, hpart⟩ | ⟨struct, hstruct, block, hblock, hpart⟩ := hpart
  · exact ⟨_, _, _, .function hfunction, part, hpart, hnode⟩
  · exact ⟨_, _, _, .requires hstruct hblock, part, hpart, hnode⟩

theorem Module.HasBody.mem_entries (h : module.HasBody id kind body) :
  (id, kind) ∈ module.definitions.entries
  := by
  cases h with
  | @function function hfunction =>
    have hmem : function.signature ∈ module.definitions.functions := List.mem_map_of_mem hfunction
    exact mem_entries_function hmem
  | @requires struct _ hstruct _ =>
    have hmem : struct.toStructHeader ∈ module.definitions.structs := List.mem_map_of_mem hstruct
    exact mem_entries_struct hmem

/-- Nothing has two bodies. -/
theorem Module.HasBody.unique (hdistinct : module.definitions.Distinct)
    (h : module.HasBody id kind body) (h' : module.HasBody id kind' body') :
  body = body'
  := by
  obtain rfl := hdistinct.kind_unique h.mem_entries h'.mem_entries
  cases h with
  | @function function hfunction =>
    generalize e : function.id = id at h'
    cases h' with
    | @function other hother =>
      have hnodup := hdistinct.nodup_parts.1
      simp only [Module.definitions, List.map_map] at hnodup
      rw [List.inj_on_of_nodup_map hnodup hfunction hother e]
  | @requires struct block hstruct hblock =>
    generalize e : struct.id = id at h'
    cases h' with
    | @requires other block' hother hblock' =>
      have hnodup := hdistinct.nodup_parts.2.1
      simp only [Module.definitions, List.map_map] at hnodup
      rw [List.inj_on_of_nodup_map hnodup hstruct hother e, hblock'] at hblock
      exact (Option.some.inj hblock).symm

/-- The closures of a body stand below the place of what it belongs to. -/
theorem Checked.sited {number : Nat} {context : Context} {name : ModuleName}
    {dependencies : List Module} (h : Checked number context name dependencies module)
    (hbody : module.HasBody id kind body) :
  Sited ⟨number, ⟨module.id, id⟩, []⟩ body.parts
  := by
  cases hbody with
  | @function function hfunction =>
    obtain ⟨written, hpasses, -⟩ := h.passes_body hfunction
    obtain ⟨_, -, hheader⟩ := exists_related_left h.functionHeaders hfunction
    have hmodule : function.module = module.id := by
      obtain ⟨-, -, _, -, _, -, e⟩ := passes_checkFunctionHeader.mp hheader
      exact (congrArg FunctionHeader.module e).symm
    have hsited := sited_block _ _ written hpasses
    rwa [FunctionHeader.entity, hmodule] at hsited
  | @requires struct block hstruct hblock =>
    obtain ⟨written, hpasses, -⟩ := h.passes_requires hstruct hblock
    obtain ⟨_, -, hheader⟩ := exists_related_left h.structHeaders hstruct
    have hmodule : struct.module = module.id := by
      obtain ⟨-, -, _, -, e⟩ := passes_checkStructHeader.mp hheader
      exact (congrArg StructHeader.module e).symm
    have hsited := sited_block _ _ written hpasses
    rwa [StructHeader.entity, hmodule] at hsited

/-- Whether a closure is written in a module or in one that it finds under an id. -/
def Module.Writes (module : Module) (closure : Closure) : Prop :=
  ∃ id other, module.find? id = some other ∧ ClosureIn other.parts closure

/-- Two closures that are written in a module or in those that it finds are one if they have one
site. -/
theorem Accepted.closure_unique (h : Accepted module) {c d : Closure} (hc : module.Writes c)
    (hd : module.Writes d) (hsite : c.site = d.site) :
  c = d
  := by
  obtain ⟨id, one, hone, hc⟩ := hc
  obtain ⟨id', other, hother, hd⟩ := hd
  obtain ⟨number, context, name, dependencies, -, hchecked⟩ := (h.find? hone).checked
  obtain ⟨number', context', name', dependencies', -, hchecked'⟩ := (h.find? hother).checked
  obtain ⟨owner, kind, body, hbody, hc⟩ := Module.exists_hasBody hc
  obtain ⟨owner', kind', body', hbody', hd⟩ := Module.exists_hasBody hd
  have hsited := hchecked.sited hbody
  have howner := (hsited.below c hc).owner
  have howner' := ((hchecked'.sited hbody').below d hd).owner
  rw [← hsite, howner, Entity.mk.injEq] at howner'
  obtain ⟨hmodule, rfl⟩ := howner'
  obtain rfl : one = other := by
    rw [← (Module.mem_of_find? hone).2, hmodule, (Module.mem_of_find? hother).2, hother] at hone
    exact (Option.some.inj hone).symm
  obtain rfl := hbody.unique hchecked.distinct_definitions hbody'
  exact hsited.unique c d hc hd hsite

end Module
end TypedModules
