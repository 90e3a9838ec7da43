import TypedModules.Check.Bodies
import TypedModules.Proofs.Renamed.Calls

/-!
# Bodies where modules are renamed

A block is checked alike in settings that mirror each other: what it stands for in the one is what
it stands for in the other, renamed, and the same is wrong with it.  The induction is on the written
block, and the visible variables are renamed along.

The main statements are `mirrors_checkBlock`, `mirrors_checkStructBody` and
`mirrors_checkFunctionBody`.
-/

namespace TypedModules

open Check

variable {σ : Renaming} {settled : Prop} {setting other : Setting}

/-! ### Variables -/

/-- The variables with the modules in their types renamed. -/
def Variables.rename (σ : Renaming) (vars : Variables) : Variables :=
  vars.map (Argument.rename σ)

namespace Variables

theorem type?_rename (vars : Variables) (name : String) :
  (vars.rename σ).type? name = (vars.type? name).map (Ty.rename σ)
  := by
  simp only [type?, rename, ← List.map_reverse, List.find?_map, Option.map_map]
  rfl

theorem has_rename (vars : Variables) (name : String) :
  (vars.rename σ).has name = vars.has name
  := by
  simp only [has, rename, List.any_map]
  rfl

theorem captured_go_rename (names seen : List String) (vars : Variables) :
  captured.go names seen (vars.rename σ) = (captured.go names seen vars).map (Argument.rename σ)
  := by
  induction vars generalizing seen with
  | nil => rfl
  | cons v rest ih =>
    simp only [rename] at ih
    simp only [rename, List.map_cons, captured.go, Argument.name_rename, ih]
    split <;> rfl

theorem captured_rename (vars : Variables) (names : List String) :
  (vars.rename σ).captured names = (vars.captured names).map (Argument.rename σ)
  := captured_go_rename names [] vars

end Variables

/-! ### Parts of statements -/

theorem mirrors_checkActions (value : Expr) (location : Option Location) :
  Check.Mirrors σ settled id (checkActions value location) (checkActions (value.rename σ) location)
  := by
  unfold checkActions
  rw [Expr.actions_rename]
  exact mirrors_ite Iff.rfl (mirrors_report _ _ fun _ => rfl) (mirrors_pure rfl)

theorem mirrors_checkClosureArgs (vars : Variables) (args : List SourceArg)
    (location : Option Location) :
  Check.Mirrors σ settled id (checkClosureArgs vars args location)
    (checkClosureArgs (vars.rename σ) args location)
  := by
  unfold checkClosureArgs
  simp only [vars.has_rename]
  cases repeated (args.map (·.name)) with
  | cons name rest => exact mirrors_fail _ _ fun _ => rfl
  | nil =>
    apply (Mirrors.forM fun _ _ => mirrors_report _ _ fun _ => rfl).bind
    intro _
    exact mirrors_ite Iff.rfl (mirrors_pure rfl) mirrors_abort

theorem mirrors_checkClosure (site : Site) (vars : Variables) (args : List Argument) (output : Ty)
    (body : Block) (location : Option Location) :
  Check.Mirrors σ settled (Expr.rename σ) (checkClosure site vars args output body location)
    (checkClosure (site.rename σ) (vars.rename σ) (args.map (Argument.rename σ))
      (output.rename σ) (body.rename σ) location)
  := by
  unfold checkClosure
  rw [Block.type_rename, Ty.same_rename, Ty.text_rename, Ty.text_rename, Block.names_rename,
    vars.captured_rename]
  apply mirrors_unless Iff.rfl fun _ => rfl
  apply mirrors_pure
  simp [Expr.rename, Node.rename, Closure.rename, Ty.rename, Function.comp_def]

namespace Setting.Mirrors

section Parts

variable (h : setting.Mirrors σ settled other)
include h

theorem isReserved (name : String) :
  other.isReserved name = setting.isReserved name
  := by
  simp only [Setting.isReserved, h.hasName]

theorem mirrors_checkVariableName (vars : Variables) (name : String)
    (location : Option Location) :
  Check.Mirrors σ settled id (checkVariableName setting vars name location)
    (checkVariableName other (vars.rename σ) name location)
  := by
  unfold checkVariableName
  rw [vars.has_rename, h.isReserved]
  apply mirrors_warn_then Iff.rfl (mirrors_report _ _ fun _ => rfl)
  exact mirrors_ite Iff.rfl (mirrors_report _ _ fun _ => rfl) (mirrors_pure rfl)

theorem mirrors_checkAssignment (name : String) {type : Option SourceTy}
    (hstable : Stable σ ((type.map SourceTy.references).getD [])) (value : Expr)
    (location : Option Location) :
  Check.Mirrors σ settled id (checkAssignment setting name type value location)
    (checkAssignment other name type (value.rename σ) location)
  := by
  unfold checkAssignment
  rw [Expr.type_rename, Ty.isReference_rename, Ty.text_rename, Expr.aliasing_rename]
  cases type with
  | none => exact mirrors_ite Iff.rfl (mirrors_report _ _ fun _ => rfl) (mirrors_pure rfl)
  | some type =>
    apply (h.mirrors_checkTy hstable).bind
    intro declared
    rw [Ty.same_rename, Ty.text_rename]
    apply mirrors_unless Iff.rfl fun _ => rfl
    exact mirrors_ite Iff.rfl (mirrors_report _ _ fun _ => rfl) (mirrors_pure rfl)

theorem mirrors_checkLiteral {type : SourceTy} (hstable : Stable σ type.references)
    (text : String) (location : Option Location) :
  Check.Mirrors σ settled (Expr.rename σ) (checkLiteral setting type text location)
    (checkLiteral other type text location)
  := by
  apply (h.mirrors_checkTy hstable).bind
  intro type
  rw [h.literalForm_rename, Ty.text_rename]
  rcases setting.literalForm type with (_ | entity) | form
  · exact mirrors_fail _ _ fun _ => rfl
  · exact mirrors_fail _ _ fun hσ => by rw [hσ, Entity.rename_refl]
  · exact mirrors_unless Iff.rfl (fun _ => rfl) (mirrors_pure rfl)

theorem mirrors_checkFollow (receiver : Expr) (member : String) (location : Option Location) :
  Check.Mirrors σ settled (Expr.rename σ) (checkFollow setting receiver member location)
    (checkFollow other (receiver.rename σ) member location)
  := by
  unfold checkFollow
  rw [Expr.type_rename, h.memberType_rename, Ty.text_rename, Expr.aliasing_rename]
  cases setting.memberType receiver.type member with
  | found type => exact mirrors_pure rfl
  | unknown => exact mirrors_fail _ _ fun _ => rfl
  | notFollowable => exact mirrors_fail _ _ fun _ => rfl

end Parts

/-! ### Expressions, statements and blocks -/

mutual

theorem mirrors_checkExpr (h : setting.Mirrors σ settled other) (site : Site) (vars : Variables) :
    (expr : SourceExpr) → Stable σ expr.references →
      Check.Mirrors σ settled (Expr.rename σ) (checkExpr setting site vars expr)
        (checkExpr other (site.rename σ) (vars.rename σ) expr)
  | .variable name location, _ => by
    unfold checkExpr
    rw [vars.type?_rename]
    cases vars.type? name with
    | some type => exact mirrors_pure rfl
    | none => exact mirrors_fail _ _ fun _ => rfl
  | .literal type text location, hstable => h.mirrors_checkLiteral hstable text location
  | .list items element location, hstable => by
    rw [SourceExpr.references, stable_append] at hstable
    apply (h.mirrors_checkTy hstable.1).bind
    intro element
    apply (mirrors_requireValueType element location "a list element").bind
    intro _
    apply (h.mirrors_checkItems site vars element location 0 items hstable.2).bind
    intro items
    exact mirrors_pure (by rw [Expr.rename, Ty.rename, Node.rename, renameExprs_eq_map])
  | .follow receiver member location, hstable => by
    apply (h.mirrors_checkExpr (site.child 0) vars receiver hstable).bind
    intro receiver
    exact h.mirrors_checkFollow receiver member location
  | .call function args chosen location, hstable => by
    rw [SourceExpr.references, stable_cons, stable_append] at hstable
    apply (h.mirrors_callee hstable.1 location).bind
    intro (entity, type)
    apply (h.mirrors_checkOpenTys (stable_openTys_some.mpr hstable.2.1)).bind
    intro written
    apply (h.mirrors_checkExprs site vars 0 args hstable.2.2).bind
    intro args
    apply (h.mirrors_groundCall type written args function.text location).bind
    intro (chosen, ground)
    exact mirrors_pure (by rw [Expr.rename, Node.rename, renameExprs_eq_map]; rfl)
  | .callValue function args chosen location, hstable => by
    rw [SourceExpr.references, stable_append, stable_append] at hstable
    apply (h.mirrors_checkExpr (site.child 0) vars function hstable.1).bind
    intro function
    apply (mirrors_calleeType function location).bind
    intro type
    apply (h.mirrors_checkOpenTys (stable_openTys_some.mpr hstable.2.1)).bind
    intro written
    apply (h.mirrors_checkExprs site vars 1 args hstable.2.2).bind
    intro args
    apply (h.mirrors_groundCall type written args "function expression" location).bind
    intro (chosen, ground)
    exact mirrors_pure (by rw [Expr.rename, Node.rename, renameExprs_eq_map]; rfl)
  | .bind function slots chosen location, hstable => by
    rw [SourceExpr.references, stable_cons, stable_append] at hstable
    apply (h.mirrors_callee hstable.1 location).bind
    intro (entity, type)
    apply (h.mirrors_checkOpenTys hstable.2.1).bind
    intro written
    apply (h.mirrors_checkSlots site vars 0 slots hstable.2.2).bind
    intro slots
    apply (h.mirrors_bindFunction type written slots function.text location).bind
    intro (chosen, bound)
    exact mirrors_pure (by
      rw [Expr.rename, Node.rename, renameSlots_eq_map, ← FunctionType.toTy_rename])
  | .bindValue function slots chosen location, hstable => by
    rw [SourceExpr.references, stable_append, stable_append] at hstable
    apply (h.mirrors_checkExpr (site.child 0) vars function hstable.1).bind
    intro function
    apply (mirrors_calleeType function location).bind
    intro type
    apply (h.mirrors_checkOpenTys hstable.2.1).bind
    intro written
    apply (h.mirrors_checkSlots site vars 1 slots hstable.2.2).bind
    intro slots
    apply (h.mirrors_bindFunction type written slots "function expression" location).bind
    intro (chosen, bound)
    exact mirrors_pure (by
      rw [Expr.rename, Node.rename, renameSlots_eq_map, ← FunctionType.toTy_rename,
        Expr.aliasing_rename])
  | .ifThen condition thenBlock elseBlock location, hstable => by
    rw [SourceExpr.references, stable_append, stable_append] at hstable
    apply (h.mirrors_checkExpr (site.child 0) vars condition hstable.1).bind
    intro condition
    rw [Expr.type_rename, Ty.same_boolean_rename, Ty.text_rename]
    apply mirrors_unless Iff.rfl fun _ => rfl
    apply (h.mirrors_checkBlock (site.child 1) vars thenBlock hstable.2.1).bind
    intro thenBlock
    apply (h.mirrors_checkBlock (site.child 2) vars elseBlock hstable.2.2).bind
    intro elseBlock
    rw [Block.type_rename, Block.type_rename, Ty.same_rename, Ty.text_rename, Ty.text_rename,
      Block.aliasing_rename, Block.aliasing_rename]
    apply mirrors_unless Iff.rfl fun _ => rfl
    exact mirrors_pure (by rw [Expr.rename, Node.rename])
  | .closure args output body location, hstable => by
    rw [SourceExpr.references, stable_append, stable_append] at hstable
    apply (mirrors_checkClosureArgs vars args location).bind
    intro _
    apply Mirrors.bind (f := List.map (Argument.rename σ))
    · apply Mirrors.mapM
      intro arg hmem
      apply (h.mirrors_checkTy (stable_flatMap.mp hstable.1 arg hmem)).bind
      intro type
      exact mirrors_pure rfl
    · intro args
      apply (h.mirrors_checkTy hstable.2.1).bind
      intro output
      have hbody := h.mirrors_checkBlock (site.child 0) (vars ++ args) body hstable.2.2
      rw [Variables.rename, List.map_append] at hbody
      apply hbody.bind
      intro body
      exact mirrors_checkClosure site vars args output body location

theorem mirrors_checkExprs (h : setting.Mirrors σ settled other) (site : Site) (vars : Variables)
    (index : Nat) :
    (exprs : List SourceExpr) → Stable σ (referencesOfExprs exprs) →
      Check.Mirrors σ settled (List.map (Expr.rename σ)) (checkExprs setting site vars index exprs)
        (checkExprs other (site.rename σ) (vars.rename σ) index exprs)
  | [], _ => mirrors_pure rfl
  | expr :: rest, hstable => by
    rw [referencesOfExprs, stable_append] at hstable
    apply (h.mirrors_checkExpr (site.child index) vars expr hstable.1).bind
    intro expr
    apply (h.mirrors_checkExprs site vars (index + 1) rest hstable.2).bind
    intro rest
    exact mirrors_pure rfl

theorem mirrors_checkItems (h : setting.Mirrors σ settled other) (site : Site) (vars : Variables)
    (element : Ty) (location : Option Location) (index : Nat) :
    (items : List SourceExpr) → Stable σ (referencesOfExprs items) →
      Check.Mirrors σ settled (List.map (Expr.rename σ))
        (checkItems setting site vars element location index items)
        (checkItems other (site.rename σ) (vars.rename σ) (element.rename σ) location index items)
  | [], _ => mirrors_pure rfl
  | item :: rest, hstable => by
    rw [referencesOfExprs, stable_append] at hstable
    apply (h.mirrors_checkExpr (site.child index) vars item hstable.1).bind
    intro typed
    rw [Expr.type_rename, Ty.same_rename, Ty.text_rename, Ty.text_rename]
    apply mirrors_unless Iff.rfl fun _ => rfl
    apply (h.mirrors_checkItems site vars element location (index + 1) rest hstable.2).bind
    intro rest
    exact mirrors_pure rfl

theorem mirrors_checkSlots (h : setting.Mirrors σ settled other) (site : Site) (vars : Variables)
    (index : Nat) :
    (slots : List (Option SourceExpr)) → Stable σ (referencesOfSlots slots) →
      Check.Mirrors σ settled (List.map (Option.map (Expr.rename σ)))
        (checkSlots setting site vars index slots)
        (checkSlots other (site.rename σ) (vars.rename σ) index slots)
  | [], _ => mirrors_pure rfl
  | none :: rest, hstable => by
    apply (h.mirrors_checkSlots site vars (index + 1) rest hstable).bind
    intro rest
    exact mirrors_pure rfl
  | some expr :: rest, hstable => by
    rw [referencesOfSlots, stable_append] at hstable
    apply (h.mirrors_checkExpr (site.child index) vars expr hstable.1).bind
    intro expr
    apply (h.mirrors_checkSlots site vars (index + 1) rest hstable.2).bind
    intro rest
    exact mirrors_pure rfl

theorem mirrors_checkStmt (h : setting.Mirrors σ settled other) (site : Site) (vars : Variables) :
    (statement : SourceStmt) → Stable σ statement.references →
      Check.Mirrors σ settled (Prod.map (Stmt.rename σ) (Variables.rename σ))
        (checkStmt setting site vars statement)
        (checkStmt other (site.rename σ) (vars.rename σ) statement)
  | .assign name type value location, hstable => by
    have hparts : Stable σ ((type.map SourceTy.references).getD []) ∧ Stable σ value.references := by
      cases type with
      | none => exact ⟨List.forall_mem_nil _, hstable⟩
      | some type => exact stable_append.mp hstable
    apply (h.mirrors_checkVariableName vars name location).bind
    intro _
    apply (h.mirrors_checkExpr site vars value hparts.2).bind
    intro value
    apply (h.mirrors_checkAssignment name hparts.1 value location).bind
    intro _
    apply (mirrors_checkActions value location).bind
    intro _
    exact mirrors_pure (by simp [Stmt.rename, Variables.rename, Argument.rename])
  | .bare value, hstable => by
    apply (h.mirrors_checkExpr site vars value hstable).bind
    intro typed
    apply (mirrors_checkActions typed value.location?).bind
    intro _
    exact mirrors_pure rfl

theorem mirrors_checkStmts (h : setting.Mirrors σ settled other) (site : Site) (vars : Variables)
    (location : Option Location) (index : Nat) :
    (statements : List SourceStmt) → Stable σ (referencesOfStmts statements) →
      Check.Mirrors σ settled (Block.rename σ)
        (checkStmts setting site vars location index statements)
        (checkStmts other (site.rename σ) (vars.rename σ) location index statements)
  | [], _ => mirrors_fail _ _ fun _ => rfl
  | [last], hstable => by
    rw [referencesOfStmts, stable_append] at hstable
    apply (h.mirrors_checkStmt (site.child index) vars last hstable.1).bind
    rintro ⟨_ | value, _⟩
    · exact mirrors_fail _ _ fun _ => rfl
    · exact mirrors_pure rfl
  | first :: second :: rest, hstable => by
    rw [referencesOfStmts, stable_append] at hstable
    apply (h.mirrors_checkStmt (site.child index) vars first hstable.1).bind
    intro (statement, vars)
    apply (h.mirrors_checkStmts site vars location (index + 1) (second :: rest) hstable.2).bind
    intro block
    exact mirrors_pure (by simp [Block.rename])

theorem mirrors_checkBlock (h : setting.Mirrors σ settled other) (site : Site) (vars : Variables) :
    (block : SourceBlock) → Stable σ block.references →
      Check.Mirrors σ settled (Block.rename σ) (checkBlock setting site vars block)
        (checkBlock other (site.rename σ) (vars.rename σ) block)
  | .mk statements location, hstable =>
    h.mirrors_checkStmts site vars location 0 statements hstable

end

end Setting.Mirrors

/-! ### Annotations -/

theorem mirrors_checkTest (owner : EntityId) (location : Option Location)
    (function : Option FunctionHeader) (mark : Annotation) :
  Check.Mirrors σ settled id (checkTest owner location function mark)
    (checkTest owner location (function.map (FunctionHeader.rename σ)) mark)
  := by
  cases function with
  | none => exact mirrors_report _ _ fun _ => rfl
  | some header =>
    have hargs : (header.rename σ).args.length = header.args.length := List.length_map _
    rw [Option.map_some]
    unfold checkTest
    dsimp only
    rw [hargs]
    apply mirrors_ite Iff.rfl (mirrors_report _ _ fun _ => rfl)
    split
    · apply mirrors_ite Iff.rfl (mirrors_report _ _ fun _ => rfl)
      exact mirrors_ite Iff.rfl (mirrors_report _ _ fun _ => rfl) (mirrors_pure rfl)
    · exact mirrors_report _ _ fun _ => rfl

theorem mirrors_checkAnnotations (owner : EntityId) (location : Option Location)
    (function : Option FunctionHeader) (annotations : List Annotation) :
  Check.Mirrors σ settled id (checkAnnotations owner location function annotations)
    (checkAnnotations owner location (function.map (FunctionHeader.rename σ)) annotations)
  := by
  apply Mirrors.forM
  intro mark _
  apply mirrors_ite Iff.rfl (mirrors_checkTest owner location function mark)
  exact mirrors_ite Iff.rfl (mirrors_pure rfl) (mirrors_warn _ _ _)

namespace Setting.Mirrors

/-! ### Bodies of declarations -/

variable (h : setting.Mirrors σ settled other)
include h

theorem mirrors_checkRequires (header : StructHeader) (location : Option Location)
    {requires : SourceBlock} (hstable : Stable σ requires.references) :
  Check.Mirrors σ settled (Block.rename σ) (checkRequires setting header location requires)
    (checkRequires other (header.rename σ) location requires)
  := by
  have hwithin := h.within header.typeParams
  unfold checkRequires
  dsimp only
  rw [show (header.rename σ).typeParams = header.typeParams from rfl, hwithin.number]
  apply (hwithin.mirrors_checkBlock ⟨_, header.entity, []⟩ header.members requires hstable).bind
  intro block
  rw [Block.type_rename, Ty.same_boolean_rename, Ty.text_rename]
  exact mirrors_unless Iff.rfl (fun _ => rfl) (mirrors_pure rfl)

/-- A struct is checked alike where its header is the same, renamed. -/
theorem mirrors_checkStructBody {headers others : Headers} {declared : SourceStruct}
    (hheader : others.structs.find? (·.id == declared.id)
      = (headers.structs.find? (·.id == declared.id)).map (StructHeader.rename σ))
    (hstable : Stable σ declared.references) :
  Check.Mirrors σ settled (Struct.rename σ) (checkStructBody setting headers declared)
    (checkStructBody other others declared)
  := by
  rw [SourceStruct.references, stable_append] at hstable
  apply (mirrors_checkAnnotations declared.id declared.location none declared.annotations).bind
  intro _
  rw [hheader]
  cases headers.structs.find? (·.id == declared.id) with
  | none => exact mirrors_abort
  | some header =>
    rw [Option.map_some]
    cases e : declared.requires with
    | none => exact mirrors_pure rfl
    | some requires =>
      rw [e] at hstable
      apply (h.mirrors_checkRequires header declared.location hstable.2).bind
      intro block
      exact mirrors_pure rfl

/-- A function is checked alike where its header is the same, renamed. -/
theorem mirrors_checkFunctionBody {headers others : Headers} {declared : SourceFunction}
    (hheader : others.functions.find? (·.id == declared.id)
      = (headers.functions.find? (·.id == declared.id)).map (FunctionHeader.rename σ))
    (hstable : Stable σ declared.references) :
  Check.Mirrors σ settled (Function.rename σ) (checkFunctionBody setting headers declared)
    (checkFunctionBody other others declared)
  := by
  rw [SourceFunction.references, stable_append, stable_append] at hstable
  unfold checkFunctionBody
  rw [hheader]
  cases headers.functions.find? (·.id == declared.id) with
  | none => exact mirrors_abort
  | some header =>
    rw [Option.map_some]
    dsimp only
    apply (mirrors_checkAnnotations declared.id declared.location (some header) _).bind
    intro _
    have hwithin := h.within header.typeParams
    rw [show (header.rename σ).typeParams = header.typeParams from rfl, hwithin.number]
    apply (hwithin.mirrors_checkBlock ⟨_, header.entity, []⟩ header.args declared.body
      hstable.2.2).bind
    intro body
    rw [Block.type_rename, show (header.rename σ).output = header.output.rename σ from rfl,
      Ty.same_rename, Ty.text_rename, Ty.text_rename]
    exact mirrors_unless Iff.rfl (fun _ => rfl) (mirrors_pure rfl)

end Setting.Mirrors

end TypedModules
