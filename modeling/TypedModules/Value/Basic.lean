import TypedModules.Ty.Equality
import TypedModules.Typed.Entity

/-!
# Values

What an expression evaluates to.  A binding is a function with some of its argument slots
filled; the open ones are filled from left to right.  A list builder is known by its number
in the store, so that all copies of it are the same builder.
-/

namespace TypedModules

/-- What a binding calls once every slot is filled.  The slots of a closure are its
arguments followed by the variables that it captures. -/
inductive Target where
  | entity (entity : Entity)
  | closure (closure : Closure)
deriving Inhabited

mutual

/-- A value. -/
inductive Value where
  | integer (n : Int)
  | natural (n : Nat)
  | boolean (b : Bool)
  | list (items : List Value)
  | success (value : Value)
  | failure
  | string (text : String)
  | struct (header : StructHeader) (members : List Value)
  /-- An instance of an interface; the first open slot of each method is filled with the
  data. -/
  | object (interface : Interface) (methods : List Binding)
  | union (union : Union) (option : Nat) (payload : Option Value)
  | function (binding : Binding)
  | builder (number : Nat)

/-- A function with some of its argument slots filled. -/
inductive Binding where
  | mk (target : Target) (slots : List (Option Value)) (chosen : List (Option Ty))

end

instance : Inhabited Value := ⟨.failure⟩
instance : Inhabited Binding := ⟨.mk default [] []⟩

namespace Value

/-- The name of the kind of a value. -/
def kindName : Value → String
  | integer _ => "Integer"
  | natural _ => "Natural"
  | boolean _ => "Boolean"
  | list _ => "List"
  | success _ => "Try"
  | failure => "Try"
  | string _ => "Unicode.String"
  | struct _ _ => "struct"
  | object _ _ => "interface instance"
  | union _ _ _ => "union"
  | function _ => "function binding"
  | builder _ => "ListBuilder"

/-- The success that holds a value, or failure. -/
def ofOption : Option Value → Value
  | some value => success value
  | none => failure

end Value

namespace Binding

/-- What a binding calls. -/
def target : Binding → Target
  | mk target _ _ => target

/-- The slots of a binding. -/
def slots : Binding → List (Option Value)
  | mk _ slots _ => slots

/-- The type arguments chosen so far. -/
def chosen : Binding → List (Option Ty)
  | mk _ _ chosen => chosen

/-- The number of open slots. -/
def openSlots (binding : Binding) : Nat :=
  binding.slots.countP (·.isNone)

/-- The slots with the open ones filled from left to right; an absent value leaves its slot
open. -/
def fillSlots : List (Option Value) → List (Option Value) → List (Option Value)
  | [], _ => []
  | some value :: slots, values => some value :: fillSlots slots values
  | none :: slots, value :: values => value :: fillSlots slots values
  | none :: slots, [] => none :: fillSlots slots []

/-- The binding with a value for each open slot, where an absent value leaves it open. -/
def fill? (binding : Binding) (values : List (Option Value)) : Option Binding :=
  if values.length = binding.openSlots then
    some (mk binding.target (fillSlots binding.slots values) binding.chosen)
  else
    none

/-- The arguments, if no slot is open. -/
def arguments? (binding : Binding) : Option (List Value) :=
  binding.slots.mapM id

/-- The slots with the first open one filled. -/
def fillFirst? (value : Value) : List (Option Value) → Option (List (Option Value))
  | [] => none
  | none :: slots => some (some value :: slots)
  | some filled :: slots => (fillFirst? value slots).map (some filled :: ·)

/-- The binding with its first open slot filled. -/
def bindFirst? (binding : Binding) (value : Value) : Option Binding :=
  (fillFirst? value binding.slots).map fun slots => mk binding.target slots binding.chosen

end Binding

/-- Whether two targets are the same: closures are when they have one site. -/
def Target.same : Target → Target → Bool
  | entity a, entity b => a == b
  | closure a, closure b => a.site == b.site
  | _, _ => false

mutual

/-- Whether two values are equal: builders are when they are one builder, and closures when
they have one site and captured equal values. -/
def Value.same : Value → Value → Bool
  | .integer a, .integer b => a == b
  | .natural a, .natural b => a == b
  | .boolean a, .boolean b => a == b
  | .list as, .list bs => sameValues as bs
  | .success a, .success b => a.same b
  | .failure, .failure => true
  | .string a, .string b => a == b
  | .struct a as, .struct b bs => a.entity == b.entity && sameValues as bs
  | .object a as, .object b bs => a.entity == b.entity && sameBindings as bs
  | .union a i none, .union b j none => a.entity == b.entity && i == j
  | .union a i (some v), .union b j (some w) => a.entity == b.entity && i == j && v.same w
  | .function a, .function b => a.same b
  | .builder a, .builder b => a == b
  | _, _ => false

/-- Whether two bindings are equal. -/
def Binding.same : Binding → Binding → Bool
  | .mk a as cs, .mk b bs ds => a.same b && sameSlots as bs && Ty.sameOptions cs ds

/-- Whether two lists of values are equal. -/
def sameValues : List Value → List Value → Bool
  | [], [] => true
  | a :: as, b :: bs => a.same b && sameValues as bs
  | _, _ => false

/-- Whether two lists of bindings are equal. -/
def sameBindings : List Binding → List Binding → Bool
  | [], [] => true
  | a :: as, b :: bs => a.same b && sameBindings as bs
  | _, _ => false

/-- Whether two lists of slots are equal. -/
def sameSlots : List (Option Value) → List (Option Value) → Bool
  | [], [] => true
  | none :: as, none :: bs => sameSlots as bs
  | some a :: as, some b :: bs => a.same b && sameSlots as bs
  | _, _ => false

end

end TypedModules
