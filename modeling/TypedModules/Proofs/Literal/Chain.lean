import TypedModules.Proofs.Eval.Keeps
import TypedModules.Proofs.Literal.Text
import TypedModules.Proofs.Sound.Realm

/-!
# Chains of structs

A struct with one member takes over the literals of that member, so that the literals of a type are
those of a form at the end of a chain of such structs.  Decoding a literal wraps what its text
denotes into the structs of the chain, the innermost first, and asks the `requires` block of each
whether it allows what it is given: `Chain.decoded`.  It ends early only where a block says no, or
ends without saying anything.
-/

namespace TypedModules

/-! ### Chains -/

/-- Whether a type has the literals of a form through a chain of structs with one member each, the
outermost first. -/
inductive Program.Chain (program : Program) : Ty → List Struct → LiteralForm → Prop
  | integer : Chain program .integer [] .integer
  | natural : Chain program .natural [] .natural
  | boolean : Chain program .boolean [] .boolean
  | string (isReference : Bool) (written : Reference) (args : List Ty) :
    Chain program (.named isReference stringEntity written args) [] .string
  | struct {isReference : Bool} {entity : Entity} {written : Reference} {args : List Ty}
      {struct : Struct} {member : Argument} {inner : List Struct} {form : LiteralForm} :
    entity ≠ stringEntity →
    program.struct? entity = some struct →
    struct.members = [member] →
    Chain program (member.type.substitute (.ofParams struct.typeParams args)) inner form →
    Chain program (.named isReference entity written args) (struct :: inner) form

/-- A program finds a chain for every type whose literals have a form. -/
theorem Program.exists_chain {program : Program} {type : Ty} {form : LiteralForm}
    (h : program.module.library.HasForm type form) :
  ∃ chain, program.Chain type chain form
  := by
  induction h with
  | integer => exact ⟨_, .integer⟩
  | natural => exact ⟨_, .natural⟩
  | boolean => exact ⟨_, .boolean⟩
  | string isReference written args => exact ⟨_, .string isReference written args⟩
  | struct hentity hd hheader hmember _ ih =>
    obtain ⟨inner, hinner⟩ := ih
    obtain ⟨struct, hstruct, rfl⟩ := Program.exists_struct? hd hheader
    exact ⟨_, .struct hentity hstruct hmember hinner⟩

/-- A value wrapped into structs with one member each, the outermost first. -/
def Value.wrapped (value : Value) (chain : List Struct) : Value :=
  chain.foldr (fun struct inner => .struct struct.toStructHeader [inner]) value

/-- Whether a struct allows a value for its only member: what its `requires` block says, if it has
one. -/
def Struct.judge (ask : Request → Eval Value) (struct : Struct) (value : Value) : Eval Bool :=
  match struct.requires with
  | none => pure true
  | some requires => satisfies ask struct.toStructHeader requires [value]

/-- Whether the structs of a chain, the innermost first, all allow what they are given, when a
value is wrapped into them from one store to another. -/
inductive Program.Passes (program : Program) (fuel : Nat) (value : Value) :
    List Struct → Store → Store → Prop
  | nil {store : Store} : Passes program fuel value [] store store
  | cons {struct : Struct} {inner : List Struct} {store between after : Store} :
    Passes program fuel value inner store between →
    (struct.judge (program.answer (fuel + inner.length + 1)) (value.wrapped inner)).outcome between
      = (.ok true, after) →
    Passes program fuel value (struct :: inner) store after

/-- How the decoding of a literal may end, where its text denotes a value at the end of a chain:
with the value wrapped into all structs of the chain, each of which allows what it is given; with
the refusal of one of them; or as the `requires` block of one of them ends, without a truth value.
In each case the structs inside that one have allowed what they were given. -/
inductive Program.Decoded (program : Program) (fuel : Nat) (text : String) (value : Value)
    (chain : List Struct) (store : Store) : Except Halt Value × Store → Prop
  | wrapped {after : Store} :
    program.Passes fuel value chain store after →
    Decoded program fuel text value chain store (.ok (value.wrapped chain), after)
  | refused {outer inner : List Struct} {struct : Struct} {between after : Store} :
    chain = outer ++ struct :: inner →
    program.Passes fuel value inner store between →
    (struct.judge (program.answer (fuel + inner.length + 1)) (value.wrapped inner)).outcome between
      = (.ok false, after) →
    Decoded program fuel text value chain store
      (.error (.error { cause := .requiresFailed struct.id.text text }), after)
  | raised {outer inner : List Struct} {struct : Struct} {between after : Store}
      {error : EvalError} :
    chain = outer ++ struct :: inner →
    program.Passes fuel value inner store between →
    (struct.judge (program.answer (fuel + inner.length + 1)) (value.wrapped inner)).outcome between
      = (.error (.error error), after) →
    Decoded program fuel text value chain store (.error (.error error), after)
  | unfinished {outer inner : List Struct} {struct : Struct} {between after : Store} :
    chain = outer ++ struct :: inner →
    program.Passes fuel value inner store between →
    (struct.judge (program.answer (fuel + inner.length + 1)) (value.wrapped inner)).outcome between
      = (.error .outOfFuel, after) →
    Decoded program fuel text value chain store (.error .outOfFuel, after)

/-! ### Decoding -/

theorem Program.decode_succ (program : Program) (fuel : Nat) (type : Ty) (text : String) :
  program.decode (fuel + 1) type text
    = TypedModules.decode program (program.answer fuel) type text
  := rfl

/-- A text denotes the same value for the validator and for the interpreter, which takes off blanks
first. -/
theorem decode_eq_pure {program : Program} {type : Ty} {form : LiteralForm}
    (h : program.Chain type [] form) {text : String} (haccepts : form.accepts text = true)
    {value : Value} (hvalue : form.value? text = some value) (ask : Request → Eval Value) :
  decode program ask type text = pure value
  := by
  cases h with
  | string isReference written args =>
    have hentity : stringEntity = Native.string.entity := rfl
    cases hvalue
    rw [decode, if_pos hentity]
  | integer =>
    have htrim := LiteralForm.trim_of_accepts (by decide) haccepts
    rw [LiteralForm.value?] at hvalue
    simp only [decode, htrim, hvalue, primitiveLiteral]
  | natural =>
    have htrim := LiteralForm.trim_of_accepts (by decide) haccepts
    rw [LiteralForm.value?] at hvalue
    simp only [decode, htrim, hvalue, primitiveLiteral]
  | boolean =>
    have htrim := LiteralForm.trim_of_accepts (by decide) haccepts
    rw [LiteralForm.value?] at hvalue
    simp only [decode, htrim, hvalue, primitiveLiteral]

/-- A struct with one member is decoded as that member is, if it allows the result. -/
theorem decodeStruct_eq (ask : Request → Eval Value) (struct : Struct) (member : Argument)
    (args : List Ty) (text : String) :
  decodeStruct ask struct member args text = (do
    let value ← ask (.literal (member.type.substitute (.ofParams struct.typeParams args)) text)
    let allows ← struct.judge ask value
    if allows then return .struct struct.toStructHeader [value]
    else .fail (.requiresFailed struct.id.text text))
  := by
  unfold decodeStruct Struct.judge
  cases struct.requires <;> rfl

section Steps

variable {program : Program} {fuel : Nat} {text : String} {value : Value} {inner : List Struct}
  {store between after : Store}

/-- What ends inside a struct ends there for the struct. -/
theorem Program.Decoded.around {halt : Halt}
    (h : program.Decoded fuel text value inner store (.error halt, after)) (struct : Struct) :
  program.Decoded fuel text value (struct :: inner) store (.error halt, after)
  := by
  have hcons : ∀ {outer rest : List Struct}, inner = outer ++ rest →
      struct :: inner = (struct :: outer) ++ rest := fun e => by rw [e, List.cons_append]
  cases h with
  | refused hinner hpasses hjudge => exact .refused (hcons hinner) hpasses hjudge
  | raised hinner hpasses hjudge => exact .raised (hcons hinner) hpasses hjudge
  | unfinished hinner hpasses hjudge => exact .unfinished (hcons hinner) hpasses hjudge

/-- What the structs inside allow ends as the struct around them judges. -/
theorem Program.Passes.decoded (h : program.Passes fuel value inner store between)
    (struct : Struct) :
  program.Decoded fuel text value (struct :: inner) store
    ((do
      let allows ← struct.judge (program.answer (fuel + inner.length + 1)) (value.wrapped inner)
      if allows then return .struct struct.toStructHeader [value.wrapped inner]
      else .fail (.requiresFailed struct.id.text text) : Eval Value).outcome between)
  := by
  rw [Discipline.outcome_bind]
  split
  next allows after hjudge =>
    cases allows with
    | true => exact .wrapped (h.cons hjudge)
    | false => exact .refused (List.nil_append _).symm h hjudge
  next halt after hjudge =>
    cases halt with
    | error => exact .raised (List.nil_append _).symm h hjudge
    | outOfFuel => exact .unfinished (List.nil_append _).symm h hjudge

end Steps

/-- The decoding of a literal at the end of a chain ends in one of the ways that the chain leaves
open. -/
theorem Program.Chain.decoded {program : Program} {type : Ty} {chain : List Struct}
    {form : LiteralForm} (h : program.Chain type chain form) {text : String}
    (haccepts : form.accepts text = true) {value : Value} (hvalue : form.value? text = some value)
    (fuel : Nat) (store : Store) :
  program.Decoded fuel text value chain store
    ((program.decode (fuel + chain.length + 1) type text).outcome store)
  := by
  have hprimitive : ∀ {type : Ty}, program.Chain type [] form →
      program.Decoded fuel text value [] store
        ((program.decode (fuel + 1) type text).outcome store) := by
    intro type hchain
    rw [program.decode_succ, decode_eq_pure hchain haccepts hvalue]
    exact .wrapped .nil
  induction h with
  | @struct isReference entity written args struct member inner form hentity hstruct hmember _ ih =>
    rw [stringEntity] at hentity
    rw [List.length_cons, ← Nat.add_assoc, program.decode_succ]
    simp only [TypedModules.decode, if_neg hentity, hstruct, hmember]
    rw [decodeStruct_eq, Discipline.outcome_bind]
    have ih := ih haccepts hvalue hprimitive
    rw [Program.decode] at ih
    split
    next found between hfound =>
      rw [hfound] at ih
      obtain ⟨hpasses⟩ := ih
      exact hpasses.decoded struct
    next halt after hhalt => exact (hhalt ▸ ih).around struct
  | integer => exact hprimitive .integer
  | natural => exact hprimitive .natural
  | boolean => exact hprimitive .boolean
  | string isReference written args => exact hprimitive (.string isReference written args)

end TypedModules
