import TypedModules.Proofs.Typing.Calls

/-!
# Induction over what passes

Properties that relate what is written to what a check makes of it, where variables are visible:
if each rule of the checker carries them from the parts to the whole, then they hold of whatever
passes.  `Setting.Carries` has one field for each rule, with all that the rule makes sure of.
-/

namespace TypedModules

open Check

/-! ### What the rules make sure of -/

section Rules

variable {setting : Setting} {vars : Variables} {location : Option Location}

theorem passes_checkLiteral {written : SourceTy} {text : String} {expr : Expr} :
  (checkLiteral setting written text location).Passes expr
    ↔ ∃ type form, (checkTy setting written).Passes type ∧ setting.literalForm type = .ok form
      ∧ form.accepts text = true ∧ .mk type .notAliased (.literal text) = expr
  := by
  simp only [checkLiteral, passes_bind]
  apply exists_congr
  intro type
  cases setting.literalForm type with
  | error error => cases error <;> simp
  | ok form => cases haccepts : form.accepts text <;> simp [haccepts]

theorem passes_checkFollow {receiver expr : Expr} {member : String} :
  (checkFollow setting receiver member location).Passes expr
    ↔ ∃ type, setting.memberType receiver.type member = .found type
      ∧ .mk type receiver.aliasing (.follow receiver member) = expr
  := by
  unfold checkFollow
  split <;> simp_all

theorem passes_checkClosureArgs {args : List SourceArg} {a : Unit}
    (hp : (checkClosureArgs vars args location).Passes a) :
  (args.map (·.name)).Nodup ∧ ∀ arg ∈ args, vars.has arg.name = false
  := by
  unfold checkClosureArgs at hp
  split at hp
  · exact absurd hp (not_passes_fail _ _ _ _)
  next hdistinct =>
    refine ⟨repeated_eq_nil.mp hdistinct, ?_⟩
    have hempty : args.filter (fun arg => vars.has arg.name) = [] := by
      by_contra hne
      simp [List.isEmpty_iff, hne] at hp
    simpa using List.filter_eq_nil_iff.mp hempty

theorem passes_checkVariableName {name : String} {a : Unit}
    (hp : (checkVariableName setting vars name location).Passes a) :
  vars.has name = false ∧ setting.isReserved name = false
  := by
  constructor
  · by_contra hhas
    simp [checkVariableName, hhas] at hp
  · by_contra hreserved
    simp [checkVariableName, hreserved] at hp

theorem passes_checkActions {value : Expr} {a : Unit}
    (hp : (checkActions value location).Passes a) :
  value.actions ≤ 1
  := by
  by_contra hmany
  simp [checkActions, Nat.not_le.mp hmany] at hp

theorem unshared_of_checkAssignment {name : String} {written : Option SourceTy} {value : Expr}
    {a : Unit} (hp : (checkAssignment setting name written value location).Passes a) :
  value.type.isReference = true → value.aliasing = .notAliased
  := by
  intro hreference
  by_contra hne
  have haliasing : value.aliasing = .possiblyAliased := by
    cases e : value.aliasing
    · exact absurd e hne
    · rfl
  cases written <;> simp [checkAssignment, hreference, haliasing, passes_ite] at hp

end Rules

/-! ### The induction -/

/-- What a statement that passes comes to, where `P` holds of its value. -/
inductive Setting.PassesStmt (setting : Setting) (P : Variables → SourceExpr → Expr → Prop)
    (vars : Variables) : SourceStmt → Stmt → Prop
  | assign {name : String} {type : Option SourceTy} {value : SourceExpr}
      {location : Option Location} {expr : Expr} :
    P vars value expr →
    vars.has name = false →
    setting.isReserved name = false →
    (expr.type.isReference = true → expr.aliasing = .notAliased) →
    expr.actions ≤ 1 →
    PassesStmt setting P vars (.assign name type value location) (.assign name expr.type expr)
  | bare {value : SourceExpr} {expr : Expr} :
    P vars value expr →
    expr.actions ≤ 1 →
    PassesStmt setting P vars (.bare value) (.bare expr)

/-- Whether each rule of the checker carries properties from the parts to the whole: `P` relates
expressions, and `Q` the statements of a block to the block. -/
structure Setting.Carries (setting : Setting) (P : Variables → SourceExpr → Expr → Prop)
    (Q : Variables → List SourceStmt → Block → Prop) : Prop where
  name : ∀ {vars : Variables} {name : String} {location : Option Location} {type : Ty},
    vars.type? name = some type →
    P vars (.variable name location) (.mk type .possiblyAliased (.variable name))
  literal : ∀ {vars : Variables} {written : SourceTy} {text : String} {location : Option Location}
    {type : Ty} {form : LiteralForm},
    (checkTy setting written).Passes type →
    setting.literalForm type = .ok form →
    form.accepts text = true →
    P vars (.literal written text location) (.mk type .notAliased (.literal text))
  list : ∀ {vars : Variables} {written : List SourceExpr} {element : SourceTy}
    {location : Option Location} {items : List Expr} {type : Ty},
    (checkTy setting element).Passes type →
    type.isReference = false →
    List.Forall₂ (P vars) written items →
    (∀ item ∈ items, item.type.same type = true) →
    P vars (.list written element location) (.mk (.list type) .notAliased (.list items type))
  follow : ∀ {vars : Variables} {written : SourceExpr} {member : String}
    {location : Option Location} {receiver : Expr} {type : Ty},
    P vars written receiver →
    setting.memberType receiver.type member = .found type →
    P vars (.follow written member location)
      (.mk type receiver.aliasing (.follow receiver member))
  call : ∀ {vars : Variables} {reference : Reference} {written : List SourceExpr}
    {choices : List SourceTy} {location : Option Location} {entity : Entity}
    {function : FunctionType} {given : List (Option Ty)} {args : List Expr} {chosen : List Ty}
    {ground : FunctionType},
    (setting.callee reference location).Passes (entity, function) →
    (checkOpenTys setting (choices.map some)).Passes given →
    List.Forall₂ (P vars) written args →
    (groundCall setting function given args reference.text location).Passes (chosen, ground) →
    P vars (.call reference written choices location)
      (.mk ground.output .notAliased (.call reference entity args chosen))
  callValue : ∀ {vars : Variables} {callee : SourceExpr} {written : List SourceExpr}
    {choices : List SourceTy} {location : Option Location} {value : Expr}
    {function : FunctionType} {given : List (Option Ty)} {args : List Expr} {chosen : List Ty}
    {ground : FunctionType},
    P vars callee value →
    value.type.function? = some function →
    (checkOpenTys setting (choices.map some)).Passes given →
    List.Forall₂ (P vars) written args →
    (groundCall setting function given args "function expression" location).Passes
      (chosen, ground) →
    P vars (.callValue callee written choices location)
      (.mk ground.output .notAliased (.callValue value args chosen))
  bind : ∀ {vars : Variables} {reference : Reference} {written : List (Option SourceExpr)}
    {choices : List (Option SourceTy)} {location : Option Location} {entity : Entity}
    {function : FunctionType} {given : List (Option Ty)} {slots : List (Option Expr)}
    {chosen : List (Option Ty)} {bound : FunctionType},
    (setting.callee reference location).Passes (entity, function) →
    (checkOpenTys setting choices).Passes given →
    List.Forall₂ (Option.Rel (P vars)) written slots →
    (bindFunction setting function given slots reference.text location).Passes (chosen, bound) →
    P vars (.bind reference written choices location)
      (.mk bound.toTy .notAliased (.bind reference entity slots chosen))
  bindValue : ∀ {vars : Variables} {callee : SourceExpr} {written : List (Option SourceExpr)}
    {choices : List (Option SourceTy)} {location : Option Location} {value : Expr}
    {function : FunctionType} {given : List (Option Ty)} {slots : List (Option Expr)}
    {chosen : List (Option Ty)} {bound : FunctionType},
    P vars callee value →
    value.type.function? = some function →
    (checkOpenTys setting choices).Passes given →
    List.Forall₂ (Option.Rel (P vars)) written slots →
    (bindFunction setting function given slots "function expression" location).Passes
      (chosen, bound) →
    P vars (.bindValue callee written choices location)
      (.mk bound.toTy value.aliasing (.bindValue value slots chosen))
  ifThen : ∀ {vars : Variables} {written : SourceExpr} {first second : SourceBlock}
    {location : Option Location} {condition : Expr} {thenBlock elseBlock : Block},
    P vars written condition →
    condition.type.same .boolean = true →
    Q vars first.statements thenBlock →
    Q vars second.statements elseBlock →
    thenBlock.type.same elseBlock.type = true →
    P vars (.ifThen written first second location)
      (.mk thenBlock.type (thenBlock.aliasing.join elseBlock.aliasing)
        (.ifThen condition thenBlock elseBlock))
  closure : ∀ {site : Site} {vars : Variables} {written : List SourceArg} {result : SourceTy}
    {inner : SourceBlock} {location : Option Location} {args : List Argument} {output : Ty}
    {body : Block},
    (args.map (·.name)).Nodup →
    (∀ arg ∈ args, vars.has arg.name = false) →
    List.Forall₂ (fun w arg => (checkTy setting w.type).Passes arg.type ∧ w.name = arg.name)
      written args →
    (checkTy setting result).Passes output →
    Q (vars ++ args) inner.statements body →
    body.type.same output = true →
    P vars (.closure written result inner location)
      (.mk (.function ((vars.captured body.names).any (·.type.isReference)) []
          (args.map (·.type)) output) .notAliased
        (.closure (.mk site args (vars.captured body.names) output body)))
  last : ∀ {vars : Variables} {written : SourceExpr} {expr : Expr},
    P vars written expr →
    expr.actions ≤ 1 →
    Q vars [.bare written] (.mk [] expr)
  statement : ∀ {vars : Variables} {written : SourceStmt} {rest : List SourceStmt}
    {statement : Stmt} {block : Block},
    setting.PassesStmt P vars written statement →
    Q (vars ++ statement.declared) rest block →
    Q vars (written :: rest) (.mk (statement :: block.statements) block.last)

namespace Setting.Carries

variable {setting : Setting} {P : Variables → SourceExpr → Expr → Prop}
  {Q : Variables → List SourceStmt → Block → Prop}

mutual

/-- What the rules carry holds of an expression that passes. -/
theorem of_expr (h : setting.Carries P Q) : (site : Site) → (vars : Variables) →
    (written : SourceExpr) → {expr : Expr} → (checkExpr setting site vars written).Passes expr →
      P vars written expr
  | _, vars, .variable name location, expr, hp => by
    simp only [checkExpr] at hp
    split at hp
    next type htype =>
      cases passes_pure.mp hp
      exact h.name htype
    next => exact absurd hp (not_passes_fail _ _ _ _)
  | _, _, .literal written text location, expr, hp => by
    rw [checkExpr, passes_checkLiteral] at hp
    obtain ⟨type, form, htype, hform, haccepts, rfl⟩ := hp
    exact h.literal htype hform haccepts
  | site, vars, .list written element location, expr, hp => by
    simp only [checkExpr, passes_bind, passes_requireValueType, passes_pure] at hp
    obtain ⟨type, htype, _, hvalue, items, hitems, rfl⟩ := hp
    obtain ⟨hitems, hsame⟩ := of_items h site vars type location 0 written hitems
    exact h.list htype hvalue hitems hsame
  | site, vars, .follow written member location, expr, hp => by
    simp only [checkExpr, passes_bind, passes_checkFollow] at hp
    obtain ⟨receiver, hreceiver, type, htype, rfl⟩ := hp
    exact h.follow (of_expr h _ vars written hreceiver) htype
  | site, vars, .call reference written choices location, expr, hp => by
    simp only [checkExpr, passes_bind, passes_pure] at hp
    obtain ⟨⟨entity, function⟩, hcallee, given, hgiven, args, hargs, ⟨chosen, ground⟩, hground,
      rfl⟩ := hp
    exact h.call hcallee hgiven (of_exprs h site vars 0 written hargs) hground
  | site, vars, .callValue callee written choices location, expr, hp => by
    simp only [checkExpr, passes_bind, passes_pure, passes_calleeType] at hp
    obtain ⟨value, hvalue, function, hfunction, given, hgiven, args, hargs, ⟨chosen, ground⟩,
      hground, rfl⟩ := hp
    exact h.callValue (of_expr h _ vars callee hvalue) hfunction hgiven
      (of_exprs h site vars 1 written hargs) hground
  | site, vars, .bind reference written choices location, expr, hp => by
    simp only [checkExpr, passes_bind, passes_pure] at hp
    obtain ⟨⟨entity, function⟩, hcallee, given, hgiven, slots, hslots, ⟨chosen, bound⟩, hbound,
      rfl⟩ := hp
    exact h.bind hcallee hgiven (of_slots h site vars 0 written hslots) hbound
  | site, vars, .bindValue callee written choices location, expr, hp => by
    simp only [checkExpr, passes_bind, passes_pure, passes_calleeType] at hp
    obtain ⟨value, hvalue, function, hfunction, given, hgiven, slots, hslots, ⟨chosen, bound⟩,
      hbound, rfl⟩ := hp
    exact h.bindValue (of_expr h _ vars callee hvalue) hfunction hgiven
      (of_slots h site vars 1 written hslots) hbound
  | site, vars, .ifThen written first second location, expr, hp => by
    simp only [checkExpr, passes_bind, passes_unless, passes_pure] at hp
    obtain ⟨condition, hcondition, hboolean, thenBlock, hthen, elseBlock, helse, hsame, rfl⟩ := hp
    exact h.ifThen (of_expr h _ vars written hcondition) hboolean (of_block h _ vars first hthen)
      (of_block h _ vars second helse) hsame
  | site, vars, .closure written result inner location, expr, hp => by
    simp only [checkExpr, checkClosure, passes_bind, passes_unless, passes_mapM, passes_pure] at hp
    obtain ⟨_, hchecked, args, hargs, output, houtput, body, hbody, hsame, rfl⟩ := hp
    obtain ⟨hnames, hnew⟩ := passes_checkClosureArgs hchecked
    have hargs := hargs.imp fun _ _ => exists_argument.mp
    rw [map_eq_map_of_related hargs fun _ _ h => h.2] at hnames
    have hnew : ∀ arg ∈ args, vars.has arg.name = false := by
      intro arg harg
      obtain ⟨w, hw, -, hname⟩ := exists_related_left hargs harg
      exact hname ▸ hnew w hw
    exact h.closure hnames hnew hargs houtput (of_block h _ _ inner hbody) hsame

theorem of_exprs (h : setting.Carries P Q) : (site : Site) → (vars : Variables) →
    (index : Nat) → (written : List SourceExpr) → {exprs : List Expr} →
      (checkExprs setting site vars index written).Passes exprs →
        List.Forall₂ (P vars) written exprs
  | _, _, _, [], exprs, hp => by
    cases passes_pure.mp hp
    exact .nil
  | site, vars, index, first :: rest, exprs, hp => by
    simp only [checkExprs, passes_bind, passes_pure] at hp
    obtain ⟨typed, htyped, others, hothers, rfl⟩ := hp
    exact .cons (of_expr h _ vars first htyped) (of_exprs h site vars _ rest hothers)

theorem of_items (h : setting.Carries P Q) : (site : Site) → (vars : Variables) →
    (element : Ty) → (location : Option Location) → (index : Nat) →
      (written : List SourceExpr) → {items : List Expr} →
        (checkItems setting site vars element location index written).Passes items →
          List.Forall₂ (P vars) written items ∧ ∀ item ∈ items, item.type.same element = true
  | _, _, _, _, _, [], items, hp => by
    cases passes_pure.mp hp
    exact ⟨.nil, List.forall_mem_nil _⟩
  | site, vars, element, location, index, first :: rest, items, hp => by
    simp only [checkItems, passes_bind, passes_unless, passes_pure] at hp
    obtain ⟨item, hitem, hsame, others, hothers, rfl⟩ := hp
    obtain ⟨hrest, hrestSame⟩ := of_items h site vars element location _ rest hothers
    exact ⟨.cons (of_expr h _ vars first hitem) hrest, List.forall_mem_cons.mpr ⟨hsame, hrestSame⟩⟩

theorem of_slots (h : setting.Carries P Q) : (site : Site) → (vars : Variables) →
    (index : Nat) → (written : List (Option SourceExpr)) → {slots : List (Option Expr)} →
      (checkSlots setting site vars index written).Passes slots →
        List.Forall₂ (Option.Rel (P vars)) written slots
  | _, _, _, [], slots, hp => by
    cases passes_pure.mp hp
    exact .nil
  | site, vars, index, none :: rest, slots, hp => by
    simp only [checkSlots, passes_bind, passes_pure] at hp
    obtain ⟨others, hothers, rfl⟩ := hp
    exact .cons .none (of_slots h site vars _ rest hothers)
  | site, vars, index, some first :: rest, slots, hp => by
    simp only [checkSlots, passes_bind, passes_pure] at hp
    obtain ⟨typed, htyped, others, hothers, rfl⟩ := hp
    exact .cons (.some (of_expr h _ vars first htyped)) (of_slots h site vars _ rest hothers)

theorem of_stmt (h : setting.Carries P Q) : (site : Site) → (vars : Variables) →
    (written : SourceStmt) → {result : Stmt × Variables} →
      (checkStmt setting site vars written).Passes result →
        setting.PassesStmt P vars written result.1 ∧ result.2 = vars ++ result.1.declared
  | site, vars, .assign name type value location, result, hp => by
    simp only [checkStmt, passes_bind, passes_pure] at hp
    obtain ⟨_, hname, typed, hvalue, _, hassign, _, hactions, rfl⟩ := hp
    obtain ⟨hnew, hreserved⟩ := passes_checkVariableName hname
    exact ⟨.assign (of_expr h site vars value hvalue) hnew hreserved
      (unshared_of_checkAssignment hassign) (passes_checkActions hactions), rfl⟩
  | site, vars, .bare value, result, hp => by
    simp only [checkStmt, passes_bind, passes_pure] at hp
    obtain ⟨typed, hvalue, _, hactions, rfl⟩ := hp
    exact ⟨.bare (of_expr h site vars value hvalue) (passes_checkActions hactions),
      (List.append_nil vars).symm⟩

theorem of_stmts (h : setting.Carries P Q) : (site : Site) → (vars : Variables) →
    (location : Option Location) → (index : Nat) → (written : List SourceStmt) →
      {block : Block} → (checkStmts setting site vars location index written).Passes block →
        Q vars written block
  | _, _, _, _, [], block, hp => absurd hp (not_passes_fail _ _ _ _)
  | site, vars, location, index, [last], block, hp => by
    simp only [checkStmts, passes_bind] at hp
    obtain ⟨⟨typed, after⟩, hlast, hp⟩ := hp
    obtain ⟨hpasses, -⟩ := of_stmt h _ vars last hlast
    cases hpasses with
    | assign => exact absurd hp (not_passes_fail _ _ _ _)
    | bare hvalue hactions =>
      cases passes_pure.mp hp
      exact h.last hvalue hactions
  | site, vars, location, index, statement :: next :: rest, block, hp => by
    simp only [checkStmts, passes_bind, passes_pure] at hp
    obtain ⟨⟨typed, after⟩, hstatement, block, hrest, rfl⟩ := hp
    obtain ⟨hpasses, hafter⟩ := of_stmt h _ vars statement hstatement
    dsimp only at hafter
    subst hafter
    exact h.statement hpasses (of_stmts h site _ location _ (next :: rest) hrest)

/-- What the rules carry holds of a block that passes. -/
theorem of_block (h : setting.Carries P Q) : (site : Site) → (vars : Variables) →
    (written : SourceBlock) → {block : Block} →
      (checkBlock setting site vars written).Passes block → Q vars written.statements block
  | site, vars, .mk statements location, block, hp => by
    rw [checkBlock] at hp
    exact of_stmts h site vars location 0 statements hp

end

end Setting.Carries

end TypedModules
