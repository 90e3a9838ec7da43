import TypedModules.Ty.Basic

/-!
# The typed tree

Expressions, statements and blocks after checking.  Every expression carries its type and
says whether its value may share identity with a variable; every named call and binding
carries the entity that it reaches.  A closure knows its site, the place in its module where
it is written, so that two closures are the same exactly when one check of one module found
them at one place.
-/

namespace TypedModules

/-- Whether the value of an expression may share identity with a live variable. -/
inductive Aliasing where
  | notAliased
  | possiblyAliased
deriving DecidableEq, Inhabited

/-- The aliasing of a value that comes from one of two expressions. -/
def Aliasing.join : Aliasing → Aliasing → Aliasing
  | notAliased, notAliased => notAliased
  | _, _ => possiblyAliased

/-- A name with its type. -/
structure Argument where
  name : String
  type : Ty
deriving Inhabited

/-- A place in a checked module: the declaration, and the way from its body down the tree.
Checking the same module again gives its places another number. -/
structure Site where
  check : Nat
  owner : Entity
  path : List Nat
deriving DecidableEq, Inhabited

/-- The place of the child number `index`. -/
def Site.child (site : Site) (index : Nat) : Site :=
  { site with path := index :: site.path }

mutual

/-- A checked expression. -/
inductive Expr where
  | mk (type : Ty) (aliasing : Aliasing) (node : Node)

/-- What a checked expression is made of. -/
inductive Node where
  | variable (name : String)
  | literal (text : String)
  | list (items : List Expr) (element : Ty)
  | follow (receiver : Expr) (member : String)
  | call (function : Reference) (entity : Entity) (args : List Expr) (chosen : List Ty)
  | callValue (function : Expr) (args : List Expr) (chosen : List Ty)
  | bind (function : Reference) (entity : Entity) (slots : List (Option Expr))
      (chosen : List (Option Ty))
  | bindValue (function : Expr) (slots : List (Option Expr)) (chosen : List (Option Ty))
  | ifThen (condition : Expr) (thenBlock elseBlock : Block)
  | closure (closure : Closure)

/-- A checked closure with the variables that it captures, in the order in which the scope
around it declares them. -/
inductive Closure where
  | mk (site : Site) (args : List Argument) (captures : List Argument) (output : Ty)
      (body : Block)

/-- A checked statement. -/
inductive Stmt where
  | assign (name : String) (type : Ty) (value : Expr)
  | bare (value : Expr)

/-- A checked block: the last expression supplies its value. -/
inductive Block where
  | mk (statements : List Stmt) (last : Expr)

end

instance : Inhabited Expr := ⟨.mk .integer .notAliased (.variable "")⟩
instance : Inhabited Stmt := ⟨.bare default⟩
instance : Inhabited Block := ⟨.mk [] default⟩
instance : Inhabited Closure := ⟨.mk default [] [] .integer default⟩

namespace Expr

/-- The type of an expression. -/
def type : Expr → Ty
  | mk type _ _ => type

/-- Whether the value of an expression may share identity with a variable. -/
def aliasing : Expr → Aliasing
  | mk _ aliasing _ => aliasing

/-- What an expression is made of. -/
def node : Expr → Node
  | mk _ _ node => node

end Expr

namespace Closure

/-- Where a closure is written. -/
def site : Closure → Site
  | mk site _ _ _ _ => site

/-- The arguments of a closure. -/
def args : Closure → List Argument
  | mk _ args _ _ _ => args

/-- The variables that a closure captures. -/
def captures : Closure → List Argument
  | mk _ _ captures _ _ => captures

/-- The type of what a closure returns. -/
def output : Closure → Ty
  | mk _ _ _ output _ => output

/-- The body of a closure. -/
def body : Closure → Block
  | mk _ _ _ _ body => body

end Closure

/-- The value whose evaluation a statement asks for. -/
def Stmt.value : Stmt → Expr
  | .assign _ _ value => value
  | .bare value => value

namespace Block

/-- The statements before the last expression. -/
def statements : Block → List Stmt
  | mk statements _ => statements

/-- The expression that supplies the value of a block. -/
def last : Block → Expr
  | mk _ last => last

/-- The type of a block, which is that of its last expression. -/
def type (block : Block) : Ty :=
  block.last.type

/-- Whether the value of a block may share identity with a variable. -/
def aliasing (block : Block) : Aliasing :=
  block.last.aliasing

end Block
end TypedModules
