import TypedModules.Proofs.Check.Types

/-!
# No check fails silently

A check that fails without emitting an error stands behind one that was emitted before.  So
every check of a declaration is loud, and a module that is accepted holds each declaration of
its context.
-/

namespace TypedModules

open Check

section Loud

variable {setting : Setting}

@[simp]
theorem loud_checkDistinct (names : List String) (what : String) (owner : EntityId)
    (location : Option Location) :
  (checkDistinct names what owner location).Loud
  := by
  apply (loud_forM fun _ _ => loud_report _ _ _).bind
  intro _ h
  simp only [passes_forM, not_passes_report] at h
  rw [List.eq_nil_iff_forall_not_mem.mpr h]
  exact loud_pure ()

@[simp]
theorem loud_resolve (space : Namespace) (reference : Reference) (location : Option Location) :
  (setting.resolve space reference location).Loud
  := by
  unfold Setting.resolve
  split
  · exact loud_pure _
  · exact loud_fail _ _ _

@[simp]
theorem loud_requireValueType (type : Ty) (location : Option Location) (role : String) :
  (requireValueType type location role).Loud
  := loud_ite (fun _ => loud_fail _ _ _) fun _ => loud_pure ()

@[simp]
theorem loud_checkMarker (reference : Reference) (isMarked isReference : Bool)
    (location : Option Location) :
  (checkMarker reference isMarked isReference location).Loud
  := loud_guard fun _ => loud_ite (fun _ => loud_fail _ _ _) fun _ => loud_pure ()

@[simp]
theorem loud_namedHeader (reference : Reference) (isMarked : Bool) (argCount : Nat)
    (location : Option Location) :
  (setting.namedHeader reference isMarked argCount location).Loud
  := by
  apply (loud_resolve _ _ _).bind
  intro entry _
  split
  · exact loud_failBehind _
  · apply (loud_checkMarker _ _ _ _).bind
    intro _ _
    exact loud_guard fun _ => loud_pure _

mutual

/-- The check of a written type is loud. -/
theorem loud_checkTyWithin :
    (internal : List String) → (type : SourceTy) → (checkTyWithin setting internal type).Loud
  | _, .integer => loud_pure _
  | _, .natural => loud_pure _
  | _, .boolean => loud_pure _
  | internal, .list element =>
    (loud_checkTyWithin internal element).bind fun _ _ =>
      (loud_requireValueType _ _ _).bind fun _ _ => loud_pure _
  | internal, .tryOf inner =>
    (loud_checkTyWithin internal inner).bind fun _ _ =>
      (loud_requireValueType _ _ _).bind fun _ _ => loud_pure _
  | internal, .function _ typeParams args output _ => by
    unfold checkTyWithin
    dsimp only
    split
    · exact loud_fail _ _ _
    · apply (loud_checkTysWithin _ args).bind
      intro _ _
      exact (loud_checkTyWithin _ output).bind fun _ _ => loud_pure _
  | internal, .named _ _ params location => by
    unfold checkTyWithin
    split
    · exact loud_pure _
    · apply (loud_namedHeader _ _ _ _).bind
      intro _ _
      exact (loud_checkTyArgsWithin internal location params).bind fun _ _ => loud_pure _

theorem loud_checkTysWithin :
    (internal : List String) → (types : List SourceTy) →
      (checkTysWithin setting internal types).Loud
  | _, [] => loud_pure _
  | internal, type :: rest =>
    (loud_checkTyWithin internal type).bind fun _ _ =>
      (loud_checkTysWithin internal rest).bind fun _ _ => loud_pure _

theorem loud_checkTyArgsWithin :
    (internal : List String) → (location : Option Location) → (types : List SourceTy) →
      (checkTyArgsWithin setting internal location types).Loud
  | _, _, [] => loud_pure _
  | internal, location, type :: rest =>
    (loud_checkTyWithin internal type).bind fun _ _ =>
      (loud_requireValueType _ _ _).bind fun _ _ =>
        (loud_checkTyArgsWithin internal location rest).bind fun _ _ => loud_pure _

end

@[simp]
theorem loud_checkTy (type : SourceTy) :
  (checkTy setting type).Loud
  := loud_checkTyWithin [] type

@[simp]
theorem loud_checkOpenTys (types : List (Option SourceTy)) :
  (checkOpenTys setting types).Loud
  := by
  induction types with
  | nil => exact loud_pure _
  | cons type rest ih =>
    cases type with
    | none => exact ih.bind fun _ _ => loud_pure _
    | some type =>
      apply (loud_checkTy type).bind
      intro _ _
      exact ih.bind fun _ _ => loud_pure _

@[simp]
theorem loud_checkArgs (args : List SourceArg) (owner : EntityId)
    (location : Option Location) :
  (checkArgs setting args owner location).Loud
  := by
  apply (loud_checkDistinct _ _ _ _).bind
  intro _ _
  exact loud_mapM fun _ _ => (loud_checkTy _).bind fun _ _ => loud_pure _

/-! ### Headers -/

@[simp]
theorem loud_checkTypeParams (typeParams : List TypeParam) (owner : EntityId)
    (location : Option Location) :
  (checkTypeParams typeParams owner location).Loud
  := loud_checkDistinct _ _ _ _

theorem loud_checkStructHeader (declared : SourceStruct) :
  (checkStructHeader setting declared).Loud
  := by
  apply (loud_checkTypeParams _ _ _).bind
  intro _ _
  apply (loud_checkDistinct _ _ _ _).bind
  intro _ _
  apply (loud_mapM fun _ _ => ?member).bind fun _ _ => loud_pure _
  case member =>
    apply (loud_checkTy _).bind
    intro _ _
    exact loud_guard fun _ => loud_pure _

theorem loud_checkMethod (declared : SourceInterface) (method : SourceMethod) :
  (checkMethod setting declared method).Loud
  := by
  apply (loud_checkTypeParams _ _ _).bind
  intro _ _
  apply (loud_checkArgs _ _ _).bind
  intro _ _
  exact (loud_checkTy _).bind fun _ _ => loud_pure _

theorem loud_checkInterface (declared : SourceInterface) :
  (checkInterface setting declared).Loud
  := by
  apply (loud_checkTypeParams _ _ _).bind
  intro _ _
  apply (loud_checkDistinct _ _ _ _).bind
  intro _ _
  exact (loud_mapM fun _ _ => loud_checkMethod _ _).bind fun _ _ => loud_pure _

theorem loud_checkOption (declared : SourceUnion) (option : SourceOption) :
  (checkOption setting declared option).Loud
  := by
  apply loud_guard
  intro _
  split
  · exact loud_pure _
  · apply (loud_checkTy _).bind
    intro _ _
    exact (loud_requireValueType _ _ _).bind fun _ _ => loud_pure _

theorem loud_checkUnion (declared : SourceUnion) :
  (checkUnion setting declared).Loud
  := by
  apply (loud_checkTypeParams _ _ _).bind
  intro _ _
  apply loud_guard
  intro _
  apply (loud_checkDistinct _ _ _ _).bind
  intro _ _
  exact (loud_mapM fun _ _ => loud_checkOption _ _).bind fun _ _ => loud_pure _

theorem loud_checkFunctionHeader (declared : SourceFunction) :
  (checkFunctionHeader setting declared).Loud
  := by
  apply (loud_checkTypeParams _ _ _).bind
  intro _ _
  apply (loud_checkArgs _ _ _).bind
  intro _ _
  exact (loud_checkTy _).bind fun _ _ => loud_pure _

/-! ### Calls -/

/-- A type that does not fit its parameter is reported. -/
theorem passes_checkChoice {callee : String} {location : Option Location} {param : TypeParam}
    {type : Ty} {fits : Bool} (h : (checkChoice setting callee location param type).Passes fits) :
  fits = true
  := by
  unfold checkChoice at h
  simp only [passes_ite, passes_bind, not_passes_report, false_and, exists_const, imp_false,
    passes_pure] at h
  exact ((h.2 h.1).2 (h.2 h.1).1).symm

@[simp]
theorem loud_checkChoice (callee : String) (location : Option Location) (param : TypeParam)
    (type : Ty) :
  (checkChoice setting callee location param type).Loud
  := by
  apply loud_ite
  · exact fun _ => (loud_report _ _ _).bind fun _ _ => loud_pure _
  · intro _
    apply loud_ite
    · exact fun _ => (loud_report _ _ _).bind fun _ _ => loud_pure _
    · exact fun _ => loud_pure _

theorem passes_checkChoices {callee : String} {location : Option Location} :
    {params : List TypeParam} → {chosen : List (Option Ty)} → {fits : Bool} →
      (checkChoices setting callee location params chosen).Passes fits → fits = true
  | param :: params, some type :: chosen, _, h => by
    simp only [checkChoices, passes_bind, passes_pure] at h
    obtain ⟨first, hfirst, others, hothers, rfl⟩ := h
    rw [passes_checkChoice hfirst, passes_checkChoices hothers]
    rfl
  | _ :: _, none :: _, _, h => by
    rw [checkChoices] at h
    exact passes_checkChoices h
  | [], _, _, h => (passes_pure.mp (by simpa [checkChoices] using h)).symm
  | _ :: _, [], _, h => (passes_pure.mp (by simpa [checkChoices] using h)).symm

@[simp]
theorem loud_checkChoices (callee : String) (location : Option Location) :
    (params : List TypeParam) → (chosen : List (Option Ty)) →
      (checkChoices setting callee location params chosen).Loud
  | param :: params, some type :: chosen =>
    (loud_checkChoice _ _ _ _).bind fun _ _ =>
      (loud_checkChoices callee location params chosen).bind fun _ _ => loud_pure _
  | _ :: params, none :: chosen => by
    rw [checkChoices]
    exact loud_checkChoices callee location params chosen
  | [], _ => by
    rw [checkChoices]
    · exact loud_pure _
    all_goals simp
  | _ :: _, [] => by
    rw [checkChoices]
    · exact loud_pure _
    all_goals simp

@[simp]
theorem loud_chooseTypeArgs (function : FunctionType) (written supplied : List (Option Ty))
    (callee : String) (location : Option Location) :
  (chooseTypeArgs setting function written supplied callee location).Loud
  := by
  unfold chooseTypeArgs
  split
  · exact loud_fail _ _ _
  · exact loud_fail _ _ _
  · exact loud_fail _ _ _
  · apply (loud_checkChoices _ _ _ _).bind
    intro fits hfits
    rw [passes_checkChoices hfits]
    exact loud_pure _

@[simp]
theorem loud_checkArgTypes (callee : String) (location : Option Location) (position : Nat)
    (args : List Expr) (expected : List Ty) :
  (checkArgTypes callee location position args expected).Loud
  := by
  induction args generalizing position expected with
  | nil => exact loud_pure _
  | cons arg args ih =>
    cases expected with
    | nil => exact loud_pure _
    | cons type rest =>
      exact loud_unless fun _ => ih _ _

@[simp]
theorem loud_groundCall (function : FunctionType) (written : List (Option Ty))
    (args : List Expr) (callee : String) (location : Option Location) :
  (groundCall setting function written args callee location).Loud
  := by
  apply loud_guard
  intro _
  apply (loud_chooseTypeArgs _ _ _ _ _).bind
  intro chosen _
  split
  · exact loud_fail _ _ _
  · exact (loud_checkArgTypes _ _ _ _ _).bind fun _ _ => loud_pure _

@[simp]
theorem loud_checkSlotTypes (callee : String) (location : Option Location) (position : Nat)
    (slots : List (Option Expr)) (expected : List (Option Ty)) :
  (checkSlotTypes callee location position slots expected).Loud
  := by
  induction slots generalizing position expected with
  | nil => exact loud_pure _
  | cons slot slots ih =>
    cases expected with
    | nil => cases slot <;> exact loud_pure _
    | cons type rest =>
      cases slot with
      | none => exact ih _ _
      | some value =>
        cases type with
        | none => exact loud_fail _ _ _
        | some type =>
          exact loud_unless fun _ => ih _ _

@[simp]
theorem loud_bindFunction (function : FunctionType) (written : List (Option Ty))
    (slots : List (Option Expr)) (callee : String) (location : Option Location) :
  (bindFunction setting function written slots callee location).Loud
  := by
  apply loud_guard
  intro _
  apply (loud_chooseTypeArgs _ _ _ _ _).bind
  intro chosen _
  exact (loud_checkSlotTypes _ _ _ _ _).bind fun _ _ => loud_pure _

@[simp]
theorem loud_callee (function : Reference) (location : Option Location) :
  (setting.callee function location).Loud
  := by
  apply (loud_resolve _ _ _).bind
  intro entry _
  split
  · exact loud_pure _
  · exact loud_failBehind _

@[simp]
theorem loud_calleeType (function : Expr) (location : Option Location) :
  (calleeType function location).Loud
  := by
  unfold calleeType
  split
  · exact loud_pure _
  · exact loud_fail _ _ _

/-! ### Expressions -/

@[simp]
theorem loud_checkVariableName (vars : Variables) (name : String)
    (location : Option Location) :
  (checkVariableName setting vars name location).Loud
  := loud_warn_then (loud_report _ _ _)
    (loud_ite (fun _ => loud_report _ _ _) fun _ => loud_pure ())

@[simp]
theorem loud_checkActions (value : Expr) (location : Option Location) :
  (checkActions value location).Loud
  := loud_ite (fun _ => loud_report _ _ _) fun _ => loud_pure ()

@[simp]
theorem loud_checkAssignment (name : String) (type : Option SourceTy) (value : Expr)
    (location : Option Location) :
  (checkAssignment setting name type value location).Loud
  := by
  have haliased : ∀ message : String,
      (if value.type.isReference && value.aliasing == .possiblyAliased then
        report .aliasedReference location message else pure ()).Loud :=
    fun _ => loud_ite (fun _ => loud_report _ _ _) fun _ => loud_pure ()
  unfold checkAssignment
  dsimp only
  split
  · apply (loud_checkTy _).bind
    intro _ _
    exact loud_unless fun _ => haliased _
  · exact haliased _

@[simp]
theorem loud_checkLiteral (type : SourceTy) (text : String) (location : Option Location) :
  (checkLiteral setting type text location).Loud
  := by
  apply (loud_checkTy _).bind
  intro type _
  split
  · exact loud_fail _ _ _
  · exact loud_fail _ _ _
  · exact loud_unless fun _ => loud_pure _

@[simp]
theorem loud_checkFollow (receiver : Expr) (member : String) (location : Option Location) :
  (checkFollow setting receiver member location).Loud
  := by
  unfold checkFollow
  split
  · exact loud_pure _
  · exact loud_fail _ _ _
  · exact loud_fail _ _ _

@[simp]
theorem loud_checkClosureArgs (vars : Variables) (args : List SourceArg)
    (location : Option Location) :
  (checkClosureArgs vars args location).Loud
  := by
  unfold checkClosureArgs
  split
  · exact loud_fail _ _ _
  · apply (loud_forM fun _ _ => loud_report _ _ _).bind
    intro _ h
    simp only [passes_forM, not_passes_report] at h
    rw [List.eq_nil_iff_forall_not_mem.mpr h]
    exact loud_pure ()

@[simp]
theorem loud_checkClosure (site : Site) (vars : Variables) (args : List Argument) (output : Ty)
    (body : Block) (location : Option Location) :
  (checkClosure site vars args output body location).Loud
  := loud_unless fun _ => loud_pure _

mutual

/-- The check of an expression is loud. -/
theorem loud_checkExpr :
    (site : Site) → (vars : Variables) → (expr : SourceExpr) →
      (checkExpr setting site vars expr).Loud
  | _, vars, .variable name _ => by
    rw [checkExpr]
    split
    · exact loud_pure _
    · exact loud_fail _ _ _
  | _, _, .literal type text location => loud_checkLiteral type text location
  | site, vars, .list items _ location => by
    apply (loud_checkTy _).bind
    intro _ _
    apply (loud_requireValueType _ _ _).bind
    intro _ _
    exact (loud_checkItems site vars _ location 0 items).bind fun _ _ => loud_pure _
  | site, vars, .follow receiver _ _ =>
    (loud_checkExpr (site.child 0) vars receiver).bind fun _ _ => loud_checkFollow _ _ _
  | site, vars, .call _ args _ _ => by
    apply (loud_callee _ _).bind
    intro _ _
    apply (loud_checkOpenTys _).bind
    intro _ _
    apply (loud_checkExprs site vars 0 args).bind
    intro _ _
    exact (loud_groundCall _ _ _ _ _).bind fun _ _ => loud_pure _
  | site, vars, .callValue function args _ _ => by
    apply (loud_checkExpr (site.child 0) vars function).bind
    intro _ _
    apply (loud_calleeType _ _).bind
    intro _ _
    apply (loud_checkOpenTys _).bind
    intro _ _
    apply (loud_checkExprs site vars 1 args).bind
    intro _ _
    exact (loud_groundCall _ _ _ _ _).bind fun _ _ => loud_pure _
  | site, vars, .bind _ slots _ _ => by
    apply (loud_callee _ _).bind
    intro _ _
    apply (loud_checkOpenTys _).bind
    intro _ _
    apply (loud_checkSlots site vars 0 slots).bind
    intro _ _
    exact (loud_bindFunction _ _ _ _ _).bind fun _ _ => loud_pure _
  | site, vars, .bindValue function slots _ _ => by
    apply (loud_checkExpr (site.child 0) vars function).bind
    intro _ _
    apply (loud_calleeType _ _).bind
    intro _ _
    apply (loud_checkOpenTys _).bind
    intro _ _
    apply (loud_checkSlots site vars 1 slots).bind
    intro _ _
    exact (loud_bindFunction _ _ _ _ _).bind fun _ _ => loud_pure _
  | site, vars, .ifThen condition thenBlock elseBlock _ => by
    apply (loud_checkExpr (site.child 0) vars condition).bind
    intro _ _
    apply loud_unless
    intro _
    apply (loud_checkBlock (site.child 1) vars thenBlock).bind
    intro _ _
    apply (loud_checkBlock (site.child 2) vars elseBlock).bind
    intro _ _
    exact loud_unless fun _ => loud_pure _
  | site, vars, .closure args _ body _ => by
    apply (loud_checkClosureArgs _ _ _).bind
    intro _ _
    apply (loud_mapM fun _ _ => (loud_checkTy _).bind fun _ _ => loud_pure _).bind
    intro args _
    apply (loud_checkTy _).bind
    intro _ _
    apply (loud_checkBlock (site.child 0) (vars ++ args) body).bind
    intro _ _
    exact loud_checkClosure _ _ _ _ _ _

theorem loud_checkExprs :
    (site : Site) → (vars : Variables) → (index : Nat) → (exprs : List SourceExpr) →
      (checkExprs setting site vars index exprs).Loud
  | _, _, _, [] => loud_pure _
  | site, vars, index, expr :: rest =>
    (loud_checkExpr (site.child index) vars expr).bind fun _ _ =>
      (loud_checkExprs site vars (index + 1) rest).bind fun _ _ => loud_pure _

theorem loud_checkItems :
    (site : Site) → (vars : Variables) → (element : Ty) → (location : Option Location) →
      (index : Nat) → (items : List SourceExpr) →
        (checkItems setting site vars element location index items).Loud
  | _, _, _, _, _, [] => loud_pure _
  | site, vars, element, location, index, item :: rest =>
    (loud_checkExpr (site.child index) vars item).bind fun _ _ =>
      loud_unless fun _ =>
        (loud_checkItems site vars element location (index + 1) rest).bind fun _ _ => loud_pure _

theorem loud_checkSlots :
    (site : Site) → (vars : Variables) → (index : Nat) → (slots : List (Option SourceExpr)) →
      (checkSlots setting site vars index slots).Loud
  | _, _, _, [] => loud_pure _
  | site, vars, index, none :: rest =>
    (loud_checkSlots site vars (index + 1) rest).bind fun _ _ => loud_pure _
  | site, vars, index, some expr :: rest =>
    (loud_checkExpr (site.child index) vars expr).bind fun _ _ =>
      (loud_checkSlots site vars (index + 1) rest).bind fun _ _ => loud_pure _

theorem loud_checkStmt :
    (site : Site) → (vars : Variables) → (statement : SourceStmt) →
      (checkStmt setting site vars statement).Loud
  | site, vars, .assign _ _ value _ => by
    apply (loud_checkVariableName _ _ _).bind
    intro _ _
    apply (loud_checkExpr site vars value).bind
    intro _ _
    apply (loud_checkAssignment _ _ _ _).bind
    intro _ _
    exact (loud_checkActions _ _).bind fun _ _ => loud_pure _
  | site, vars, .bare value =>
    (loud_checkExpr site vars value).bind fun _ _ =>
      (loud_checkActions _ _).bind fun _ _ => loud_pure _

theorem loud_checkStmts :
    (site : Site) → (vars : Variables) → (location : Option Location) → (index : Nat) →
      (statements : List SourceStmt) → (checkStmts setting site vars location index statements).Loud
  | _, _, _, _, [] => loud_fail _ _ _
  | site, vars, _, index, [last] => by
    apply (loud_checkStmt (site.child index) vars last).bind
    intro _ _
    split
    · exact loud_pure _
    · exact loud_fail _ _ _
  | site, vars, location, index, statement :: next :: rest =>
    (loud_checkStmt (site.child index) vars statement).bind fun _ _ =>
      (loud_checkStmts site _ location (index + 1) (next :: rest)).bind fun _ _ => loud_pure _

theorem loud_checkBlock :
    (site : Site) → (vars : Variables) → (block : SourceBlock) →
      (checkBlock setting site vars block).Loud
  | site, vars, .mk statements location => loud_checkStmts site vars location 0 statements

end

/-! ### Bodies -/

@[simp]
theorem loud_checkTest (owner : EntityId) (location : Option Location)
    (function : Option FunctionHeader) (mark : Annotation) :
  (checkTest owner location function mark).Loud
  := by
  unfold checkTest
  split
  · exact loud_report _ _ _
  · split
    · exact loud_report _ _ _
    · split
      · split
        · exact loud_report _ _ _
        · exact loud_ite (fun _ => loud_report _ _ _) fun _ => loud_pure ()
      · exact loud_report _ _ _

@[simp]
theorem loud_checkAnnotations (owner : EntityId) (location : Option Location)
    (function : Option FunctionHeader) (annotations : List Annotation) :
  (checkAnnotations owner location function annotations).Loud
  := by
  apply loud_forM
  intro mark _
  apply loud_ite (fun _ => loud_checkTest _ _ _ _)
  intro _
  exact loud_ite (fun _ => loud_pure ()) fun _ => loud_emit _

@[simp]
theorem loud_checkRequires (header : StructHeader) (location : Option Location)
    (requires : SourceBlock) :
  (checkRequires setting header location requires).Loud
  := by
  apply (loud_checkBlock _ _ _).bind
  intro _ _
  exact loud_unless fun _ => loud_pure _

/-- The body of a struct is checked aloud if the struct has a header. -/
theorem loud_checkStructBody {headers : Headers} {declared : SourceStruct}
    {header : StructHeader} (h : headers.structs.find? (·.id == declared.id) = some header) :
  (checkStructBody setting headers declared).Loud
  := by
  apply (loud_checkAnnotations _ _ _ _).bind
  intro _ _
  split
  next e => simp [e] at h
  next =>
    split
    · exact loud_pure _
    · exact (loud_checkRequires _ _ _).bind fun _ _ => loud_pure _

/-- The body of a function is checked aloud if the function has a header. -/
theorem loud_checkFunctionBody {headers : Headers} {declared : SourceFunction}
    {header : FunctionHeader}
    (h : headers.functions.find? (·.id == declared.id) = some header) :
  (checkFunctionBody setting headers declared).Loud
  := by
  unfold checkFunctionBody
  split
  next e => simp [e] at h
  next =>
    apply (loud_checkAnnotations _ _ _ _).bind
    intro _ _
    apply (loud_checkBlock _ _ _).bind
    intro _ _
    exact loud_unless fun _ => loud_pure _

end Loud

end TypedModules
