import TypedModules.Value.Basic

/-!
# Environments

The values of variables, in scopes inside one another.  A block has a scope of its own, which
ends with the block; the outermost scope stays.
-/

namespace TypedModules

/-- The variables of one scope, the latest first. -/
abbrev Frame := List (String × Value)

/-- The scopes that are open at a place. -/
structure Environment where
  /-- The scopes inside the outermost one, the innermost first. -/
  inner : List Frame := []
  outermost : Frame := []
deriving Inhabited

namespace Environment

/-- The environment whose only scope holds the given variables; of two with a name the later
counts. -/
def ofBindings (bindings : List (String × Value)) : Environment :=
  ⟨[], bindings.reverse⟩

/-- The number of open scopes. -/
def depth (env : Environment) : Nat :=
  env.inner.length + 1

/-- Opens a scope. -/
def push (env : Environment) : Environment :=
  { env with inner := [] :: env.inner }

/-- Closes the innermost scope, unless it is the outermost. -/
def pop (env : Environment) : Environment :=
  { env with inner := env.inner.tail }

/-- Gives a variable of the innermost scope a value. -/
def define (env : Environment) (name : String) (value : Value) : Environment :=
  match env.inner with
  | [] => { env with outermost := (name, value) :: env.outermost }
  | frame :: rest => { env with inner := ((name, value) :: frame) :: rest }

/-- The value of a variable, from the innermost scope that has it. -/
def lookup? (env : Environment) (name : String) : Option Value :=
  (env.inner ++ [env.outermost]).findSome? (·.lookup name)

@[simp]
theorem depth_push (env : Environment) :
  env.push.depth = env.depth + 1
  := rfl

@[simp]
theorem pop_push (env : Environment) :
  env.push.pop = env
  := rfl

end Environment
end TypedModules
