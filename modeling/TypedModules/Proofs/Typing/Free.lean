import TypedModules.Proofs.Typing.Induction
import TypedModules.Proofs.Typing.Variables

/-!
# Free variables

The variables that an expression takes from around it: those that it mentions, without those that
the blocks in it declare before they mention them.  A closure takes what it captures.  Where a tree
is well typed, its free variables are visible.
-/

namespace TypedModules

mutual

/-- The free variables of an expression. -/
def Expr.free : Expr → List String
  | .mk _ _ node => node.free

/-- The free variables of a node. -/
def Node.free : Node → List String
  | .variable name => [name]
  | .literal _ => []
  | .list items _ => freeOfExprs items
  | .follow receiver _ => receiver.free
  | .call _ _ args _ => freeOfExprs args
  | .callValue function args _ => function.free ++ freeOfExprs args
  | .bind _ _ slots _ => freeOfSlots slots
  | .bindValue function slots _ => function.free ++ freeOfSlots slots
  | .ifThen condition thenBlock elseBlock =>
    condition.free ++ (thenBlock.free ++ elseBlock.free)
  | .closure (.mk _ _ captures _ _) => captures.map (·.name)

/-- The free variables of expressions. -/
def freeOfExprs : List Expr → List String
  | [] => []
  | expr :: rest => expr.free ++ freeOfExprs rest

/-- The free variables of the expressions in slots. -/
def freeOfSlots : List (Option Expr) → List String
  | [] => []
  | none :: rest => freeOfSlots rest
  | some expr :: rest => expr.free ++ freeOfSlots rest

/-- The free variables of a statement. -/
def Stmt.free : Stmt → List String
  | .assign _ _ value => value.free
  | .bare value => value.free

/-- The free variables of statements followed by something with free variables. -/
def freeOfStmts (after : List String) : List Stmt → List String
  | [] => after
  | statement :: rest =>
    statement.free ++ (freeOfStmts after rest).filter
      fun name => !statement.declared.any (·.name == name)

/-- The free variables of a block. -/
def Block.free : Block → List String
  | .mk statements last => freeOfStmts last.free statements

end

theorem mem_freeOfExprs {name : String} {exprs : List Expr} :
  name ∈ freeOfExprs exprs ↔ ∃ expr ∈ exprs, name ∈ expr.free
  := by
  induction exprs with
  | nil => simp [freeOfExprs]
  | cons expr rest ih => simp [freeOfExprs, ih]

theorem mem_freeOfSlots {name : String} {slots : List (Option Expr)} :
  name ∈ freeOfSlots slots ↔ ∃ expr, some expr ∈ slots ∧ name ∈ expr.free
  := by
  induction slots with
  | nil => simp [freeOfSlots]
  | cons slot rest ih => cases slot <;> simp [freeOfSlots, ih, or_and_right, exists_or]

theorem mem_freeOfStmts {name : String} {after : List String} {statement : Stmt}
    {rest : List Stmt} :
  name ∈ freeOfStmts after (statement :: rest)
    ↔ name ∈ statement.value.free
      ∨ name ∈ freeOfStmts after rest ∧ Variables.has statement.declared name = false
  := by
  cases statement <;>
    simp [freeOfStmts, Stmt.free, Stmt.value, Stmt.declared, Variables.has, List.mem_filter]

/-! ### Visible variables -/

section Visible

variable {around : Surroundings}

theorem visible_freeOfStmts {statements : List Stmt} {after : List String} {vars : Variables}
    (ih : ∀ s ∈ statements, ∀ vars : Variables, s.value.Typed around vars →
      ∀ name ∈ s.value.free, vars.has name = true)
    (h : StmtsTyped around vars statements)
    (hafter : ∀ name ∈ after, Variables.has (vars ++ declaredBy statements) name = true) :
  ∀ name ∈ freeOfStmts after statements, vars.has name = true
  := by
  induction statements generalizing vars with
  | nil => simpa [freeOfStmts, declaredBy] using hafter
  | cons statement rest ihRest =>
    rw [List.forall_mem_cons] at ih
    intro name hname
    obtain hname | ⟨hname, hnew⟩ := mem_freeOfStmts.mp hname
    · cases statement with
      | assign _ _ value => exact ih.1 vars h.1.2.1 name hname
      | bare value => exact ih.1 vars h.1 name hname
    · have hrest := ihRest ih.2 h.2 (by simpa [declaredBy] using hafter) name hname
      rwa [Variables.has_append, hnew, Bool.or_false] at hrest

/-- The free variables of a well typed tree are visible. -/
theorem visible_free :
  (∀ (expr : Expr) (vars : Variables), expr.Typed around vars →
      ∀ name ∈ expr.free, vars.has name = true)
    ∧ ∀ (block : Block) (vars : Variables), block.Typed around vars →
      ∀ name ∈ block.free, vars.has name = true
  := by
  apply tree_induction
  case name =>
    rintro type aliasing name vars ⟨-, htype⟩ other hother
    obtain rfl := List.mem_singleton.mp hother
    exact Variables.has_of_type? htype
  case literal => exact fun _ _ _ _ _ _ hname => nomatch hname
  case list =>
    rintro type aliasing items element ih vars ⟨-, -, hitems, -⟩ name hname
    obtain ⟨item, hitem, hname⟩ := mem_freeOfExprs.mp hname
    exact ih item hitem vars (areTyped_iff.mp hitems item hitem) name hname
  case follow =>
    rintro type aliasing receiver member ih vars ⟨-, hreceiver, -⟩
    exact ih vars hreceiver
  case call =>
    rintro type aliasing function entity args chosen ih vars ⟨-, hargs, -⟩ name hname
    obtain ⟨arg, harg, hname⟩ := mem_freeOfExprs.mp hname
    exact ih arg harg vars (areTyped_iff.mp hargs arg harg) name hname
  case callValue =>
    rintro type aliasing function args chosen ih ihs vars ⟨-, hfunction, hargs, -⟩ name hname
    obtain hname | hname := List.mem_append.mp hname
    · exact ih vars hfunction name hname
    · obtain ⟨arg, harg, hname⟩ := mem_freeOfExprs.mp hname
      exact ihs arg harg vars (areTyped_iff.mp hargs arg harg) name hname
  case bind =>
    rintro type aliasing function entity slots chosen ih vars ⟨-, hslots, -⟩ name hname
    obtain ⟨e, he, hname⟩ := mem_freeOfSlots.mp hname
    exact ih e he vars (slotsTyped_iff.mp hslots e he) name hname
  case bindValue =>
    rintro type aliasing function slots chosen ih ihs vars ⟨-, hfunction, hslots, -⟩ name hname
    obtain hname | hname := List.mem_append.mp hname
    · exact ih vars hfunction name hname
    · obtain ⟨e, he, hname⟩ := mem_freeOfSlots.mp hname
      exact ihs e he vars (slotsTyped_iff.mp hslots e he) name hname
  case ifThen =>
    rintro type aliasing condition thenBlock elseBlock ih ihThen ihElse vars
      ⟨-, hcondition, -, hthen, -, helse, -⟩ name hname
    obtain hname | hname := List.mem_append.mp hname
    · exact ih vars hcondition name hname
    · obtain hname | hname := List.mem_append.mp hname
      · exact ihThen vars hthen name hname
      · exact ihElse vars helse name hname
  case closure =>
    rintro type aliasing site args captures output body ih vars ⟨-, -, -, hcaptures, -⟩ name hname
    obtain ⟨c, hc, rfl⟩ := List.mem_map.mp hname
    exact Variables.has_of_type? (hcaptures.types c hc)
  case block =>
    rintro statements last ih ihLast vars ⟨hstatements, hlast⟩
    exact visible_freeOfStmts ih hstatements (ihLast _ hlast)

end Visible

end TypedModules
