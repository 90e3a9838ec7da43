import TypedModules.Proofs.Check.Types
import TypedModules.Proofs.Renamed.Module

/-!
# Codes that a check spares

A check spares a code if it emits no diagnostic with it, whatever is emitted before the check.  This
is read along everything of which checks are made.  That an id is claimed more than once is reported
in the first round of a module's check, and the rounds after it spare its code:
`spares_checkRounds`.
-/

namespace TypedModules
namespace Check

variable {α β : Type} {code : Code}

/-- Whether a check emits no diagnostic with a code. -/
def Spares (code : Code) (check : Check α) : Prop :=
  ∀ behind, ∀ diagnostic ∈ (check behind).2, diagnostic.code ≠ code

@[simp]
theorem spares_pure (a : α) :
  (pure a : Check α).Spares code
  := by
  intro behind diagnostic hmem
  rw [run_pure] at hmem
  cases hmem

/-- A check followed by others spares a code if each of them does. -/
theorem Spares.bind {check : Check α} {next : α → Check β} (h : check.Spares code)
    (hnext : ∀ a, (next a).Spares code) :
  (check >>= next).Spares code
  := by
  intro behind diagnostic hmem
  rw [run_bind] at hmem
  have hcheck := h behind
  split at hmem
  next log hrun =>
    rw [hrun] at hcheck
    exact hcheck diagnostic hmem
  next a log hrun =>
    rw [hrun] at hcheck
    obtain hmem | hmem := List.mem_append.mp hmem
    · exact hcheck diagnostic hmem
    · exact hnext a _ diagnostic hmem

@[simp]
theorem spares_emit {diagnostic : Diagnostic} :
  (emit diagnostic).Spares code ↔ diagnostic.code ≠ code
  := by
  simp [Spares, emit]

@[simp]
theorem spares_report {other : Code} {location : Option Location} {message : String} :
  (report other location message).Spares code ↔ other ≠ code
  := spares_emit

@[simp]
theorem spares_warn {other : Code} {location : Option Location} {message : String} :
  (warn other location message).Spares code ↔ other ≠ code
  := spares_emit

@[simp]
theorem spares_abort :
  (abort : Check α).Spares code
  := by
  intro behind diagnostic hmem
  cases hmem

@[simp]
theorem spares_fail {other : Code} {location : Option Location} {message : String} :
  (fail other location message : Check α).Spares code ↔ other ≠ code
  := by
  simp [Spares, fail, report, emit, abort, ofResult, run_bind, Diagnostic.labelled,
    Diagnostic.withLabel, Diagnostic.error]

theorem spares_ite {c : Prop} [Decidable c] {yes no : Check α} (hyes : yes.Spares code)
    (hno : no.Spares code) :
  (if c then yes else no).Spares code
  := by
  split
  · exact hyes
  · exact hno

theorem spares_failBehind (message : String) (h : Code.unknownEntity ≠ code) :
  (failBehind message : Check α).Spares code
  := by
  have hbehind : isBehind.Spares code := by
    intro behind diagnostic hmem
    cases hmem
  apply hbehind.bind
  intro behind
  exact spares_ite spares_abort ((spares_report.mpr h).bind fun _ => spares_abort)

/-- A check after a test that fails if a condition holds. -/
theorem spares_guard {c : Prop} [Decidable c] {test : Check α} {check : Check β}
    (htest : test.Spares code) (h : check.Spares code) :
  (if c then test >>= fun _ => check else check).Spares code
  := spares_ite (htest.bind fun _ => h) h

/-- A check after a test that fails unless a condition holds. -/
theorem spares_unless {c : Prop} [Decidable c] {test : Check α} {check : Check β}
    (htest : test.Spares code) (h : check.Spares code) :
  (if c then check else test >>= fun _ => check).Spares code
  := spares_ite h (htest.bind fun _ => h)

theorem spares_mapM {check : α → Check β} {items : List α}
    (h : ∀ item, (check item).Spares code) :
  (items.mapM check).Spares code
  := by
  induction items with
  | nil => exact spares_pure []
  | cons item rest ih =>
    rw [List.mapM_cons]
    exact (h item).bind fun _ => ih.bind fun _ => spares_pure _

theorem spares_forM {check : α → Check Unit} {items : List α}
    (h : ∀ item, (check item).Spares code) :
  (items.forM check).Spares code
  := by
  induction items with
  | nil => exact spares_pure ()
  | cons item rest ih => exact (h item).bind fun _ => ih

theorem spares_collect {check : α → Check β} {items : List α}
    (h : ∀ item, (check item).Spares code) :
  (collect check items).Spares code
  := by
  induction items with
  | nil => exact spares_pure []
  | cons item rest ih =>
    have hfirst : (attempt (check item)).Spares code := h item
    exact hfirst.bind fun _ => ih.bind fun _ => spares_pure _

end Check

open Check

section Spares

variable {setting : Setting}

theorem spares_checkDistinct (names : List String) (what : String) (owner : EntityId)
    (location : Option Location) :
  (checkDistinct names what owner location).Spares .duplicateId
  := (spares_forM fun _ => spares_report.mpr (by decide)).bind fun _ =>
    spares_ite (spares_pure ()) spares_abort

theorem spares_resolve (space : Namespace) (reference : Reference) (location : Option Location) :
  (setting.resolve space reference location).Spares .duplicateId
  := by
  unfold Setting.resolve
  split
  · exact spares_pure _
  next error _ => cases error <;> simp [ResolutionError.code]

theorem spares_requireValueType (type : Ty) (location : Option Location) (role : String) :
  (requireValueType type location role).Spares .duplicateId
  := spares_ite (spares_fail.mpr (by decide)) (spares_pure ())

theorem spares_checkMarker (reference : Reference) (isMarked isReference : Bool)
    (location : Option Location) :
  (checkMarker reference isMarked isReference location).Spares .duplicateId
  := spares_guard (spares_fail.mpr (by decide))
    (spares_ite (spares_fail.mpr (by decide)) (spares_pure ()))

theorem spares_namedHeader (reference : Reference) (isMarked : Bool) (argCount : Nat)
    (location : Option Location) :
  (setting.namedHeader reference isMarked argCount location).Spares .duplicateId
  := by
  apply (spares_resolve _ _ _).bind
  intro entry
  split
  · exact spares_failBehind _ (by decide)
  · apply (spares_checkMarker _ _ _ _).bind
    intro _
    exact spares_guard (spares_fail.mpr (by decide)) (spares_pure _)

mutual

/-- The check of a written type reports no duplicated id. -/
theorem spares_checkTyWithin :
    (internal : List String) → (type : SourceTy) →
      (checkTyWithin setting internal type).Spares .duplicateId
  | _, .integer => spares_pure _
  | _, .natural => spares_pure _
  | _, .boolean => spares_pure _
  | internal, .list element =>
    (spares_checkTyWithin internal element).bind fun _ =>
      (spares_requireValueType _ _ _).bind fun _ => spares_pure _
  | internal, .tryOf inner =>
    (spares_checkTyWithin internal inner).bind fun _ =>
      (spares_requireValueType _ _ _).bind fun _ => spares_pure _
  | internal, .function _ typeParams args output _ => by
    unfold checkTyWithin
    dsimp only
    split
    · exact spares_fail.mpr (by decide)
    · apply (spares_checkTysWithin _ args).bind
      intro _
      exact (spares_checkTyWithin _ output).bind fun _ => spares_pure _
  | internal, .named _ _ params location => by
    unfold checkTyWithin
    split
    · exact spares_pure _
    · apply (spares_namedHeader _ _ _ _).bind
      intro _
      exact (spares_checkTyArgsWithin internal location params).bind fun _ => spares_pure _

theorem spares_checkTysWithin :
    (internal : List String) → (types : List SourceTy) →
      (checkTysWithin setting internal types).Spares .duplicateId
  | _, [] => spares_pure _
  | internal, type :: rest =>
    (spares_checkTyWithin internal type).bind fun _ =>
      (spares_checkTysWithin internal rest).bind fun _ => spares_pure _

theorem spares_checkTyArgsWithin :
    (internal : List String) → (location : Option Location) → (types : List SourceTy) →
      (checkTyArgsWithin setting internal location types).Spares .duplicateId
  | _, _, [] => spares_pure _
  | internal, location, type :: rest =>
    (spares_checkTyWithin internal type).bind fun _ =>
      (spares_requireValueType _ _ _).bind fun _ =>
        (spares_checkTyArgsWithin internal location rest).bind fun _ => spares_pure _

end

theorem spares_checkTy (type : SourceTy) :
  (checkTy setting type).Spares .duplicateId
  := spares_checkTyWithin [] type

theorem spares_checkOpenTys (types : List (Option SourceTy)) :
  (checkOpenTys setting types).Spares .duplicateId
  := by
  induction types with
  | nil => exact spares_pure _
  | cons type rest ih =>
    cases type with
    | none => exact ih.bind fun _ => spares_pure _
    | some type => exact (spares_checkTy type).bind fun _ => ih.bind fun _ => spares_pure _

theorem spares_checkArgs (args : List SourceArg) (owner : EntityId)
    (location : Option Location) :
  (checkArgs setting args owner location).Spares .duplicateId
  := (spares_checkDistinct _ _ _ _).bind fun _ =>
    spares_mapM fun _ => (spares_checkTy _).bind fun _ => spares_pure _

/-! ### Headers -/

theorem spares_checkStructHeader (declared : SourceStruct) :
  (checkStructHeader setting declared).Spares .duplicateId
  := by
  apply (spares_checkDistinct _ _ _ _).bind
  intro _
  apply (spares_checkDistinct _ _ _ _).bind
  intro _
  apply (spares_mapM fun member => ?member).bind fun _ => spares_pure _
  case member =>
    apply (spares_checkTy _).bind
    intro _
    exact spares_guard (spares_fail.mpr (by decide)) (spares_pure _)

theorem spares_checkMethod (declared : SourceInterface) (method : SourceMethod) :
  (checkMethod setting declared method).Spares .duplicateId
  := by
  apply (spares_checkDistinct _ _ _ _).bind
  intro _
  apply (spares_checkArgs _ _ _).bind
  intro _
  exact (spares_checkTy _).bind fun _ => spares_pure _

theorem spares_checkInterface (declared : SourceInterface) :
  (checkInterface setting declared).Spares .duplicateId
  := by
  apply (spares_checkDistinct _ _ _ _).bind
  intro _
  apply (spares_checkDistinct _ _ _ _).bind
  intro _
  exact (spares_mapM fun _ => spares_checkMethod _ _).bind fun _ => spares_pure _

theorem spares_checkOption (declared : SourceUnion) (option : SourceOption) :
  (checkOption setting declared option).Spares .duplicateId
  := by
  refine spares_guard (spares_fail.mpr (by decide)) ?_
  split
  · exact spares_pure _
  · apply (spares_checkTy _).bind
    intro _
    exact (spares_requireValueType _ _ _).bind fun _ => spares_pure _

theorem spares_checkUnion (declared : SourceUnion) :
  (checkUnion setting declared).Spares .duplicateId
  := by
  apply (spares_checkDistinct _ _ _ _).bind
  intro _
  refine spares_guard (spares_fail.mpr (by decide)) ?_
  apply (spares_checkDistinct _ _ _ _).bind
  intro _
  exact (spares_mapM fun _ => spares_checkOption _ _).bind fun _ => spares_pure _

theorem spares_checkFunctionHeader (declared : SourceFunction) :
  (checkFunctionHeader setting declared).Spares .duplicateId
  := by
  apply (spares_checkDistinct _ _ _ _).bind
  intro _
  apply (spares_checkArgs _ _ _).bind
  intro _
  exact (spares_checkTy _).bind fun _ => spares_pure _

theorem spares_checkHeaders (context : Context) :
  (checkHeaders setting context).Spares .duplicateId
  := by
  apply (spares_collect fun _ => spares_checkStructHeader _).bind
  intro _
  apply (spares_collect fun _ => spares_checkInterface _).bind
  intro _
  apply (spares_collect fun _ => spares_checkUnion _).bind
  intro _
  exact (spares_collect fun _ => spares_checkFunctionHeader _).bind fun _ => spares_pure _

/-! ### Calls -/

theorem spares_checkChoice (callee : String) (location : Option Location) (param : TypeParam)
    (type : Ty) :
  (checkChoice setting callee location param type).Spares .duplicateId
  := by
  apply spares_ite
  · exact (spares_report.mpr (by decide)).bind fun _ => spares_pure _
  · exact spares_ite ((spares_report.mpr (by decide)).bind fun _ => spares_pure _) (spares_pure _)

theorem spares_checkChoices (callee : String) (location : Option Location)
    (params : List TypeParam) (chosen : List (Option Ty)) :
  (checkChoices setting callee location params chosen).Spares .duplicateId
  := by
  induction params, chosen using checkChoices.induct with
  | case1 param params type chosen ih =>
    exact (spares_checkChoice _ _ _ _).bind fun _ => ih.bind fun _ => spares_pure _
  | case2 param params chosen ih =>
    rw [checkChoices]
    exact ih
  | case3 params chosen hsome hnone =>
    rw [checkChoices]
    · exact spares_pure _
    · exact hsome
    · exact hnone

theorem spares_chooseTypeArgs (function : FunctionType) (written supplied : List (Option Ty))
    (callee : String) (location : Option Location) :
  (chooseTypeArgs setting function written supplied callee location).Spares .duplicateId
  := by
  unfold chooseTypeArgs
  split
  · exact spares_fail.mpr (by decide)
  · exact spares_fail.mpr (by decide)
  · exact spares_fail.mpr (by decide)
  · exact (spares_checkChoices _ _ _ _).bind fun _ => spares_unless spares_abort (spares_pure _)

theorem spares_checkArgTypes (callee : String) (location : Option Location) (position : Nat)
    (args : List Expr) (expected : List Ty) :
  (checkArgTypes callee location position args expected).Spares .duplicateId
  := by
  induction args generalizing position expected with
  | nil => exact spares_pure _
  | cons arg args ih =>
    cases expected with
    | nil => exact spares_pure _
    | cons type rest => exact spares_unless (spares_fail.mpr (by decide)) (ih _ _)

theorem spares_groundCall (function : FunctionType) (written : List (Option Ty))
    (args : List Expr) (callee : String) (location : Option Location) :
  (groundCall setting function written args callee location).Spares .duplicateId
  := by
  refine spares_guard (spares_fail.mpr (by decide)) ?_
  apply (spares_chooseTypeArgs _ _ _ _ _).bind
  intro chosen
  split
  · exact spares_fail.mpr (by decide)
  · exact (spares_checkArgTypes _ _ _ _ _).bind fun _ => spares_pure _

theorem spares_checkSlotTypes (callee : String) (location : Option Location) (position : Nat)
    (slots : List (Option Expr)) (expected : List (Option Ty)) :
  (checkSlotTypes callee location position slots expected).Spares .duplicateId
  := by
  induction slots generalizing position expected with
  | nil => exact spares_pure _
  | cons slot slots ih =>
    cases expected with
    | nil => cases slot <;> exact spares_pure _
    | cons type rest =>
      cases slot with
      | none => exact ih _ _
      | some value =>
        cases type with
        | none => exact spares_fail.mpr (by decide)
        | some type => exact spares_unless (spares_fail.mpr (by decide)) (ih _ _)

theorem spares_bindFunction (function : FunctionType) (written : List (Option Ty))
    (slots : List (Option Expr)) (callee : String) (location : Option Location) :
  (bindFunction setting function written slots callee location).Spares .duplicateId
  := by
  refine spares_guard (spares_fail.mpr (by decide)) ?_
  apply (spares_chooseTypeArgs _ _ _ _ _).bind
  intro chosen
  exact (spares_checkSlotTypes _ _ _ _ _).bind fun _ => spares_pure _

theorem spares_callee (function : Reference) (location : Option Location) :
  (setting.callee function location).Spares .duplicateId
  := by
  apply (spares_resolve _ _ _).bind
  intro entry
  split
  · exact spares_pure _
  · exact spares_failBehind _ (by decide)

theorem spares_calleeType (function : Expr) (location : Option Location) :
  (calleeType function location).Spares .duplicateId
  := by
  unfold calleeType
  split
  · exact spares_pure _
  · exact spares_fail.mpr (by decide)

/-! ### Expressions -/

theorem spares_checkVariableName (vars : Variables) (name : String)
    (location : Option Location) :
  (checkVariableName setting vars name location).Spares .duplicateId
  := spares_guard (spares_report.mpr (by decide))
    (spares_ite (spares_report.mpr (by decide)) (spares_pure ()))

theorem spares_checkActions (value : Expr) (location : Option Location) :
  (checkActions value location).Spares .duplicateId
  := spares_ite (spares_report.mpr (by decide)) (spares_pure ())

theorem spares_checkAssignment (name : String) (type : Option SourceTy) (value : Expr)
    (location : Option Location) :
  (checkAssignment setting name type value location).Spares .duplicateId
  := by
  have haliased : ∀ message : String,
      (if value.type.isReference && value.aliasing == .possiblyAliased then
        report .aliasedReference location message else pure ()).Spares .duplicateId :=
    fun _ => spares_ite (spares_report.mpr (by decide)) (spares_pure ())
  unfold checkAssignment
  dsimp only
  split
  · exact (spares_checkTy _).bind fun _ => spares_unless (spares_fail.mpr (by decide)) (haliased _)
  · exact haliased _

theorem spares_checkLiteral (type : SourceTy) (text : String) (location : Option Location) :
  (checkLiteral setting type text location).Spares .duplicateId
  := by
  apply (spares_checkTy _).bind
  intro type
  split
  · exact spares_fail.mpr (by decide)
  · exact spares_fail.mpr (by decide)
  · exact spares_unless (spares_fail.mpr (by decide)) (spares_pure _)

theorem spares_checkFollow (receiver : Expr) (member : String) (location : Option Location) :
  (checkFollow setting receiver member location).Spares .duplicateId
  := by
  unfold checkFollow
  split
  · exact spares_pure _
  · exact spares_fail.mpr (by decide)
  · exact spares_fail.mpr (by decide)

theorem spares_checkClosureArgs (vars : Variables) (args : List SourceArg)
    (location : Option Location) :
  (checkClosureArgs vars args location).Spares .duplicateId
  := by
  unfold checkClosureArgs
  split
  · exact spares_fail.mpr (by decide)
  · exact (spares_forM fun _ => spares_report.mpr (by decide)).bind fun _ =>
      spares_ite (spares_pure ()) spares_abort

theorem spares_checkClosure (site : Site) (vars : Variables) (args : List Argument) (output : Ty)
    (body : Block) (location : Option Location) :
  (checkClosure site vars args output body location).Spares .duplicateId
  := spares_unless (spares_fail.mpr (by decide)) (spares_pure _)

mutual

/-- The check of an expression reports no duplicated id. -/
theorem spares_checkExpr :
    (site : Site) → (vars : Variables) → (expr : SourceExpr) →
      (checkExpr setting site vars expr).Spares .duplicateId
  | _, vars, .variable name _ => by
    rw [checkExpr]
    split
    · exact spares_pure _
    · exact spares_fail.mpr (by decide)
  | _, _, .literal type text location => spares_checkLiteral type text location
  | site, vars, .list items _ location => by
    apply (spares_checkTy _).bind
    intro _
    apply (spares_requireValueType _ _ _).bind
    intro _
    exact (spares_checkItems site vars _ location 0 items).bind fun _ => spares_pure _
  | site, vars, .follow receiver _ _ =>
    (spares_checkExpr (site.child 0) vars receiver).bind fun _ => spares_checkFollow _ _ _
  | site, vars, .call _ args _ _ => by
    apply (spares_callee _ _).bind
    intro _
    apply (spares_checkOpenTys _).bind
    intro _
    apply (spares_checkExprs site vars 0 args).bind
    intro _
    exact (spares_groundCall _ _ _ _ _).bind fun _ => spares_pure _
  | site, vars, .callValue function args _ _ => by
    apply (spares_checkExpr (site.child 0) vars function).bind
    intro _
    apply (spares_calleeType _ _).bind
    intro _
    apply (spares_checkOpenTys _).bind
    intro _
    apply (spares_checkExprs site vars 1 args).bind
    intro _
    exact (spares_groundCall _ _ _ _ _).bind fun _ => spares_pure _
  | site, vars, .bind _ slots _ _ => by
    apply (spares_callee _ _).bind
    intro _
    apply (spares_checkOpenTys _).bind
    intro _
    apply (spares_checkSlots site vars 0 slots).bind
    intro _
    exact (spares_bindFunction _ _ _ _ _).bind fun _ => spares_pure _
  | site, vars, .bindValue function slots _ _ => by
    apply (spares_checkExpr (site.child 0) vars function).bind
    intro _
    apply (spares_calleeType _ _).bind
    intro _
    apply (spares_checkOpenTys _).bind
    intro _
    apply (spares_checkSlots site vars 1 slots).bind
    intro _
    exact (spares_bindFunction _ _ _ _ _).bind fun _ => spares_pure _
  | site, vars, .ifThen condition thenBlock elseBlock _ => by
    apply (spares_checkExpr (site.child 0) vars condition).bind
    intro _
    refine spares_unless (spares_fail.mpr (by decide)) ?_
    apply (spares_checkBlock (site.child 1) vars thenBlock).bind
    intro _
    apply (spares_checkBlock (site.child 2) vars elseBlock).bind
    intro _
    exact spares_unless (spares_fail.mpr (by decide)) (spares_pure _)
  | site, vars, .closure args _ body _ => by
    apply (spares_checkClosureArgs _ _ _).bind
    intro _
    apply (spares_mapM fun _ => (spares_checkTy _).bind fun _ => spares_pure _).bind
    intro args
    apply (spares_checkTy _).bind
    intro _
    apply (spares_checkBlock (site.child 0) (vars ++ args) body).bind
    intro _
    exact spares_checkClosure _ _ _ _ _ _

theorem spares_checkExprs :
    (site : Site) → (vars : Variables) → (index : Nat) → (exprs : List SourceExpr) →
      (checkExprs setting site vars index exprs).Spares .duplicateId
  | _, _, _, [] => spares_pure _
  | site, vars, index, expr :: rest =>
    (spares_checkExpr (site.child index) vars expr).bind fun _ =>
      (spares_checkExprs site vars (index + 1) rest).bind fun _ => spares_pure _

theorem spares_checkItems :
    (site : Site) → (vars : Variables) → (element : Ty) → (location : Option Location) →
      (index : Nat) → (items : List SourceExpr) →
        (checkItems setting site vars element location index items).Spares .duplicateId
  | _, _, _, _, _, [] => spares_pure _
  | site, vars, element, location, index, item :: rest =>
    (spares_checkExpr (site.child index) vars item).bind fun _ =>
      spares_unless (spares_fail.mpr (by decide))
        ((spares_checkItems site vars element location (index + 1) rest).bind fun _ =>
          spares_pure _)

theorem spares_checkSlots :
    (site : Site) → (vars : Variables) → (index : Nat) → (slots : List (Option SourceExpr)) →
      (checkSlots setting site vars index slots).Spares .duplicateId
  | _, _, _, [] => spares_pure _
  | site, vars, index, none :: rest =>
    (spares_checkSlots site vars (index + 1) rest).bind fun _ => spares_pure _
  | site, vars, index, some expr :: rest =>
    (spares_checkExpr (site.child index) vars expr).bind fun _ =>
      (spares_checkSlots site vars (index + 1) rest).bind fun _ => spares_pure _

theorem spares_checkStmt :
    (site : Site) → (vars : Variables) → (statement : SourceStmt) →
      (checkStmt setting site vars statement).Spares .duplicateId
  | site, vars, .assign _ _ value _ => by
    apply (spares_checkVariableName _ _ _).bind
    intro _
    apply (spares_checkExpr site vars value).bind
    intro _
    apply (spares_checkAssignment _ _ _ _).bind
    intro _
    exact (spares_checkActions _ _).bind fun _ => spares_pure _
  | site, vars, .bare value =>
    (spares_checkExpr site vars value).bind fun _ =>
      (spares_checkActions _ _).bind fun _ => spares_pure _

theorem spares_checkStmts :
    (site : Site) → (vars : Variables) → (location : Option Location) → (index : Nat) →
      (statements : List SourceStmt) →
        (checkStmts setting site vars location index statements).Spares .duplicateId
  | _, _, _, _, [] => spares_fail.mpr (by decide)
  | site, vars, _, index, [last] => by
    apply (spares_checkStmt (site.child index) vars last).bind
    intro _
    split
    · exact spares_pure _
    · exact spares_fail.mpr (by decide)
  | site, vars, location, index, statement :: next :: rest =>
    (spares_checkStmt (site.child index) vars statement).bind fun _ =>
      (spares_checkStmts site _ location (index + 1) (next :: rest)).bind fun _ => spares_pure _

theorem spares_checkBlock :
    (site : Site) → (vars : Variables) → (block : SourceBlock) →
      (checkBlock setting site vars block).Spares .duplicateId
  | site, vars, .mk statements location => spares_checkStmts site vars location 0 statements

end

/-! ### Bodies -/

theorem spares_checkTest (owner : EntityId) (location : Option Location)
    (function : Option FunctionHeader) (mark : Annotation) :
  (checkTest owner location function mark).Spares .duplicateId
  := by
  unfold checkTest
  split
  · exact spares_report.mpr (by decide)
  · refine spares_ite (spares_report.mpr (by decide)) ?_
    split
    · refine spares_ite (spares_report.mpr (by decide)) ?_
      exact spares_ite (spares_report.mpr (by decide)) (spares_pure ())
    · exact spares_report.mpr (by decide)

theorem spares_checkAnnotations (owner : EntityId) (location : Option Location)
    (function : Option FunctionHeader) (annotations : List Annotation) :
  (checkAnnotations owner location function annotations).Spares .duplicateId
  := by
  apply spares_forM
  intro mark
  apply spares_ite (spares_checkTest _ _ _ _)
  exact spares_ite (spares_pure ()) (spares_warn.mpr (by decide))

theorem spares_checkRequires (header : StructHeader) (location : Option Location)
    (requires : SourceBlock) :
  (checkRequires setting header location requires).Spares .duplicateId
  := (spares_checkBlock _ _ _).bind fun _ =>
    spares_unless (spares_fail.mpr (by decide)) (spares_pure _)

theorem spares_checkStructBody (headers : Headers) (declared : SourceStruct) :
  (checkStructBody setting headers declared).Spares .duplicateId
  := by
  apply (spares_checkAnnotations _ _ _ _).bind
  intro _
  split
  · exact spares_abort
  · split
    · exact spares_pure _
    · exact (spares_checkRequires _ _ _).bind fun _ => spares_pure _

theorem spares_checkFunctionBody (headers : Headers) (declared : SourceFunction) :
  (checkFunctionBody setting headers declared).Spares .duplicateId
  := by
  unfold checkFunctionBody
  split
  · exact spares_abort
  · apply (spares_checkAnnotations _ _ _ _).bind
    intro _
    apply (spares_checkBlock _ _ _).bind
    intro _
    exact spares_unless (spares_fail.mpr (by decide)) (spares_pure _)

theorem spares_checkBodies (headers : Headers) (context : Context) :
  (checkBodies setting headers context).Spares .duplicateId
  := by
  apply (spares_collect fun _ => spares_checkStructBody _ _).bind
  intro _
  apply (spares_forM fun _ => spares_checkAnnotations _ _ _ _).bind
  intro _
  apply (spares_forM fun _ => spares_checkAnnotations _ _ _ _).bind
  intro _
  exact (spares_collect fun _ => spares_checkFunctionBody _ _).bind fun _ => spares_pure _

/-- No round of a module's check after the first reports an id as claimed more than once. -/
theorem spares_checkRounds (setting : Setting) (context : Context) :
  (checkRounds setting context).Spares .duplicateId
  := by
  apply (spares_checkHeaders _).bind
  intro headers
  exact (spares_checkBodies _ _).bind fun _ => spares_pure _

end Spares

end TypedModules
