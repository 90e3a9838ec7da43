import TypedModules.Source.Ty

/-!
# The written tree

Expressions, statements and blocks as a module writes them.  The last statement of a block
supplies its value.  An open slot of a partial application is an absent expression.
-/

namespace TypedModules

/-- An argument of a function, a method or a closure. -/
structure SourceArg where
  name : String
  type : SourceTy
  location : Option Location
deriving Inhabited

mutual

/-- An expression as a module writes it. -/
inductive SourceExpr where
  | variable (name : String) (location : Option Location)
  | literal (type : SourceTy) (text : String) (location : Option Location)
  | list (items : List SourceExpr) (element : SourceTy) (location : Option Location)
  | follow (receiver : SourceExpr) (member : String) (location : Option Location)
  | call (function : Reference) (args : List SourceExpr) (chosen : List SourceTy)
      (location : Option Location)
  | callValue (function : SourceExpr) (args : List SourceExpr) (chosen : List SourceTy)
      (location : Option Location)
  | bind (function : Reference) (slots : List (Option SourceExpr))
      (chosen : List (Option SourceTy)) (location : Option Location)
  | bindValue (function : SourceExpr) (slots : List (Option SourceExpr))
      (chosen : List (Option SourceTy)) (location : Option Location)
  | ifThen (condition : SourceExpr) (thenBlock elseBlock : SourceBlock)
      (location : Option Location)
  | closure (args : List SourceArg) (output : SourceTy) (body : SourceBlock)
      (location : Option Location)

/-- A statement as a module writes it. -/
inductive SourceStmt where
  | assign (name : String) (type : Option SourceTy) (value : SourceExpr)
      (location : Option Location)
  | bare (value : SourceExpr)

/-- A block as a module writes it. -/
inductive SourceBlock where
  | mk (statements : List SourceStmt) (location : Option Location)

end

instance : Inhabited SourceExpr := ⟨.variable "" none⟩
instance : Inhabited SourceStmt := ⟨.bare default⟩
instance : Inhabited SourceBlock := ⟨.mk [] none⟩

/-- Where an expression stands. -/
def SourceExpr.location? : SourceExpr → Option Location
  | .variable _ location => location
  | .literal _ _ location => location
  | .list _ _ location => location
  | .follow _ _ location => location
  | .call _ _ _ location => location
  | .callValue _ _ _ location => location
  | .bind _ _ _ location => location
  | .bindValue _ _ _ location => location
  | .ifThen _ _ _ location => location
  | .closure _ _ _ location => location

/-- Where a statement stands. -/
def SourceStmt.location? : SourceStmt → Option Location
  | .assign _ _ _ location => location
  | .bare value => value.location?

/-- The statements of a block. -/
def SourceBlock.statements : SourceBlock → List SourceStmt
  | .mk statements _ => statements

/-- Where a block stands. -/
def SourceBlock.location? : SourceBlock → Option Location
  | .mk _ location => location

end TypedModules
