import TypedModules.Proofs.Literal.Chain
import TypedModules.Proofs.Literal.Written
import TypedModules.Proofs.Resolve.Exact

/-!
# Decoding inverts writing

A value of a type that is made of numbers, truth values, strings, lists, `Try`s and structs with
one member is written as a literal of that type.  Decoding the literal gives the value back, as
long as the `requires` blocks of its structs allow it, whatever texts are in it and however deep
they stand.

The main statement is `decode_literal`.
-/

namespace TypedModules

/-! ### The literal of a value -/

/-- Whether a value is a list that stands without quotes in another list. -/
def Value.isInline (inline : List Value → Bool) : Value → Bool
  | .list items => inline items
  | _ => false

mutual

/-- The text of the literal that denotes a value, where `inline` says which of the lists that are
items of lists stand there without quotes. -/
def Value.written (inline : List Value → Bool) : Value → List Char
  | .integer n => (toString n).toList
  | .natural n => (toString n).toList
  | .boolean true => "true".toList
  | .boolean false => "false".toList
  | .string text => text.toList
  | .failure => "failure".toList
  | .success value => "success(".toList ++ (value.written inline ++ [')'])
  | .struct _ [member] => member.written inline
  | .list items => ListText.bracketed (ListText.joined (writtenItems inline items))
  | _ => []

/-- The texts of the items of a list: as they are, or between quotes. -/
def writtenItems (inline : List Value → Bool) : List Value → List (List Char)
  | [] => []
  | item :: rest =>
    (if item.isInline inline then item.written inline
      else ListText.inQuotes (item.written inline)) :: writtenItems inline rest

end

/-- The literal that denotes a value. -/
def Value.literal (inline : List Value → Bool) (value : Value) : String :=
  String.ofList (value.written inline)

section Items

variable (inline : List Value → Bool)

@[simp]
theorem toList_literal (value : Value) :
  (value.literal inline).toList = value.written inline
  := String.toList_ofList

theorem literal_integer (n : Int) :
  (Value.integer n).literal inline = toString n
  := String.ofList_toList

theorem literal_natural (n : Nat) :
  (Value.natural n).literal inline = toString n
  := String.ofList_toList

theorem literal_boolean (b : Bool) :
  (Value.boolean b).literal inline = toString b
  := by
  cases b <;> exact String.ofList_toList

theorem literal_string (text : String) :
  (Value.string text).literal inline = text
  := String.ofList_toList

/-- A struct with one member is written as its member. -/
theorem literal_struct (header : StructHeader) (member : Value) :
  (Value.struct header [member]).literal inline = member.literal inline
  := rfl

theorem written_list (items : List Value) :
  (Value.list items).written inline
    = ListText.bracketed (ListText.joined (writtenItems inline items))
  := rfl

theorem writtenItems_cons (item : Value) (rest : List Value) :
  writtenItems inline (item :: rest)
    = (if item.isInline inline then item.written inline
        else ListText.inQuotes (item.written inline)) :: writtenItems inline rest
  := rfl

mutual

/-- A list without quotes is an item as it is written. -/
theorem Value.writes_inline : (item : Value) → item.isInline inline = true →
    ListText.Writes (item.written inline) (item.written inline)
  | .list items, _ => by
    rw [written_list]
    apply ListText.writes_bracketed
    apply ListText.balanced_joined
    exact writes_items items

/-- The items of a list are written with the texts that denote them. -/
theorem writes_items : (items : List Value) →
    List.Forall₂ ListText.Writes (writtenItems inline items) (items.map (Value.written inline))
  | [] => .nil
  | item :: rest => by
    rw [writtenItems_cons, List.map_cons]
    apply List.Forall₂.cons
    · split
      next h => exact item.writes_inline h
      next => exact ListText.writes_inQuotes _
    · exact writes_items rest

end

theorem parse_literal_list (items : List Value) :
  ListText.parse ((Value.list items).literal inline) = .ok (items.map (Value.literal inline))
  := by
  have hparse := ListText.parse_bracketed (writes_items inline items)
  rw [List.map_map, ← written_list] at hparse
  exact hparse

end Items

/-! ### Values with literals -/

mutual

/-- Whether a value is one of a type that is made of numbers, truth values, strings, lists, `Try`s
and structs with one member.  Each of its structs allows the value of its member, when the structs
are asked one after another, those inside first; this leads from one store to another and takes
`fuel`. -/
inductive Program.IsLiteral (program : Program) : Nat → Ty → Value → Store → Store → Prop
  | integer {fuel : Nat} {n : Int} {store : Store} :
    IsLiteral program (fuel + 1) .integer (.integer n) store store
  | natural {fuel n : Nat} {store : Store} :
    IsLiteral program (fuel + 1) .natural (.natural n) store store
  | boolean {fuel : Nat} {b : Bool} {store : Store} :
    IsLiteral program (fuel + 1) .boolean (.boolean b) store store
  | string {fuel : Nat} {isReference : Bool} {written : Reference} {args : List Ty} {text : String}
      {store : Store} :
    IsLiteral program (fuel + 1) (.named isReference stringEntity written args) (.string text)
      store store
  | failure {fuel : Nat} {inner : Ty} {store : Store} :
    IsLiteral program (fuel + 1) (.tryOf inner) .failure store store
  | success {fuel : Nat} {inner : Ty} {value : Value} {store after : Store} :
    IsLiteral program fuel inner value store after →
    IsLiteral program (fuel + 1) (.tryOf inner) (.success value) store after
  | list {fuel : Nat} {element : Ty} {items : List Value} {store after : Store} :
    AreLiterals program fuel element items store after →
    IsLiteral program (fuel + 1) (.list element) (.list items) store after
  | struct {fuel : Nat} {isReference : Bool} {entity : Entity} {written : Reference}
      {args : List Ty} {struct : Struct} {member : Argument} {value : Value}
      {store between after : Store} :
    entity ≠ stringEntity →
    program.struct? entity = some struct →
    struct.members = [member] →
    IsLiteral program fuel (member.type.substitute (.ofParams struct.typeParams args)) value
      store between →
    (struct.judge (program.answer fuel) value).outcome between = (.ok true, after) →
    IsLiteral program (fuel + 1) (.named isReference entity written args)
      (.struct struct.toStructHeader [value]) store after

/-- Whether values are all of one such type. -/
inductive Program.AreLiterals (program : Program) : Nat → Ty → List Value → Store → Store → Prop
  | nil {fuel : Nat} {type : Ty} {store : Store} : AreLiterals program fuel type [] store store
  | cons {fuel : Nat} {type : Ty} {item : Value} {rest : List Value}
      {store between after : Store} :
    IsLiteral program fuel type item store between →
    AreLiterals program fuel type rest between after →
    AreLiterals program fuel type (item :: rest) store after

end

/-! ### Decoding -/

section Decoding

variable {program : Program} {inline : List Value → Bool}

theorem value?_integer (n : Int) :
  LiteralForm.integer.value? (toString n) = some (.integer n)
  := by
  rw [LiteralForm.value?, parseInteger?_repr, Option.map_some]

theorem value?_natural (n : Nat) :
  LiteralForm.natural.value? (toString n) = some (.natural n)
  := by
  rw [LiteralForm.value?, parseNatural?_repr, Option.map_some]

theorem value?_boolean (b : Bool) :
  LiteralForm.boolean.value? (toString b) = some (.boolean b)
  := by
  cases b <;> rfl

theorem decodeTry_failure (ask : Request → Eval Value) (inner : Ty) :
  decodeTry ask inner (Value.failure.literal inline) = pure .failure
  := by
  have htrim : Text.trim (Value.failure.literal inline).toList = "failure".toList := by
    rw [toList_literal]
    exact @Text.trim_of_ends 'f' 'e' (by decide) (by decide)
      ['a', 'i', 'l', 'u', 'r']
  rw [decodeTry, htrim, if_pos rfl]

theorem decodeTry_success (ask : Request → Eval Value) (inner : Ty) (value : Value) :
  decodeTry ask inner ((Value.success value).literal inline)
    = return .success (← ask (.literal inner (value.literal inline)))
  := decodeTry_ofList ask inner (value.written inline)

/-- Each item of a list is decoded from its text, in order. -/
theorem outcome_items {fuel : Nat} {type : Ty} {items : List Value} {store after : Store}
    (h : program.AreLiterals fuel type items store after)
    (hdecode : ∀ {item : Value} {store after : Store},
      program.IsLiteral fuel type item store after →
      (program.decode fuel type (item.literal inline)).outcome store = (.ok item, after)) :
  ((items.map (Value.literal inline)).mapM fun text =>
    program.decode fuel type text).outcome store = (.ok items, after)
  := by
  induction items generalizing store with
  | nil =>
    cases h
    rfl
  | cons item rest ih =>
    cases h with
    | cons hitem hrest =>
      rw [List.map_cons, List.mapM_cons, Discipline.outcome_bind, hdecode hitem]
      dsimp only
      rw [Discipline.outcome_bind, ih hrest]
      rfl

/-- The literal of a value is decoded to that value, whichever of the lists in it stand without
quotes, if the structs in it allow what they hold. -/
theorem decode_literal {fuel : Nat} {type : Ty} {value : Value} {store after : Store}
    (h : program.IsLiteral fuel type value store after) (inline : List Value → Bool) :
  (program.decode fuel type (value.literal inline)).outcome store = (.ok value, after)
  := by
  induction fuel generalizing type value store after with
  | zero => cases h
  | succ fuel ih =>
    rw [program.decode_succ]
    cases h with
    | @integer _ n =>
      rw [literal_integer, decode_eq_pure .integer (isSignedDecimal_repr n) (value?_integer n)]
      rfl
    | @natural _ n =>
      rw [literal_natural, decode_eq_pure .natural (isDecimal_repr n) (value?_natural n)]
      rfl
    | @boolean _ b =>
      have haccepts : LiteralForm.boolean.accepts (toString b) = true := by cases b <;> rfl
      rw [literal_boolean, decode_eq_pure .boolean haccepts (value?_boolean b)]
      rfl
    | @string _ _ _ _ text =>
      have haccepts : LiteralForm.string.accepts text = true := rfl
      rw [literal_string, decode_eq_pure (.string _ _ _) haccepts rfl]
      rfl
    | failure =>
      rw [decode, decodeTry_failure]
      rfl
    | success hinner =>
      rw [decode, decodeTry_success, Discipline.outcome_bind]
      have hvalue := ih hinner
      rw [Program.decode] at hvalue
      rw [hvalue]
      rfl
    | list hitems =>
      rw [decode, parse_literal_list]
      dsimp only
      rw [Discipline.outcome_bind]
      have hvalues := outcome_items hitems fun hitem => ih hitem
      simp only [Program.decode] at hvalues
      rw [hvalues]
      rfl
    | struct hentity hstruct hmember hinner hjudge =>
      rw [stringEntity] at hentity
      rw [literal_struct]
      simp only [decode, if_neg hentity, hstruct, hmember]
      rw [decodeStruct_eq, Discipline.outcome_bind]
      have hvalue := ih hinner
      rw [Program.decode] at hvalue
      rw [hvalue]
      dsimp only
      rw [Discipline.outcome_bind, hjudge]
      rfl

end Decoding

/-! ### A list of titles -/

/-- A context with the struct `Title(text: Unicode.String)`, which allows every text. -/
def titleContext : Context where
  structs := [{
      id := ⟨["Title"]⟩
      typeParams := []
      members := [⟨"text", .named false ⟨none, ⟨["Unicode", "String"]⟩⟩ [] none⟩]
      requires := some (.mk [.bare (.literal .boolean "true" none)] none)
      annotations := []
      location := none }]

/-- Whether a struct holds a text and asks for the truth value `true`. -/
def Struct.isTitle (struct : Struct) : Bool :=
  match struct.members, struct.requires with
  | [⟨_, .named _ entity _ _⟩], some (.mk [] (.mk .boolean _ (.literal text))) =>
    entity == stringEntity && text == "true"
  | _, _ => false

theorem Struct.exists_of_isTitle {struct : Struct} (h : struct.isTitle = true) :
  ∃ name isReference written args aliasing,
    struct.members = [⟨name, .named isReference stringEntity written args⟩]
      ∧ struct.requires = some (.mk [] (.mk .boolean aliasing (.literal "true")))
  := by
  unfold isTitle at h
  split at h
  next hmembers hrequires =>
    rw [Bool.and_eq_true, beq_iff_eq, beq_iff_eq] at h
    obtain ⟨rfl, rfl⟩ := h
    exact ⟨_, _, _, _, _, hmembers, hrequires⟩
  next => cases h

/-- Every text makes a title. -/
theorem isLiteral_title {program : Program} {entity : Entity} {struct : Struct}
    (hentity : entity ≠ stringEntity) (hstruct : program.struct? entity = some struct)
    (h : struct.isTitle = true) (text : String) (fuel : Nat) (store : Store) :
  program.IsLiteral (fuel + 2) (.named false entity ⟨none, entity.id⟩ [])
    (.struct struct.toStructHeader [.string text]) store store
  := by
  obtain ⟨name, isReference, written, args, aliasing, hmembers, hrequires⟩ :=
    Struct.exists_of_isTitle h
  apply Program.IsLiteral.struct hentity hstruct hmembers .string
  rw [Struct.judge, hrequires]
  rfl

/-- Three titles in lists of their own, with quotes, brackets and commas in them, are read back
from either way of writing them. -/
theorem decode_literal_titles :
  ∃ (program : Program) (struct : Struct) (type : Ty) (titles : Value), Accepted program.module
    ∧ struct.requires.isSome
    ∧ titles = .list [
        .list [.success (.struct struct.toStructHeader [.string "\"a\", b"])],
        .list [.success (.struct struct.toStructHeader [.string " [\\ "]), .failure]]
    ∧ ∀ fuel store, program.IsLiteral (fuel + 5) (.list (.list (.tryOf type))) titles store store
      ∧ ∀ inline, (program.decode (fuel + 5) (.list (.list (.tryOf type)))
        (titles.literal inline)).outcome store = (.ok titles, store)
  := by
  have htitle : (validate 0 titleContext ⟨"example", "title"⟩ [] {}).module?.any
      (fun module => (module.struct? ⟨["Title"]⟩).any Struct.isTitle) = true := by
    decide +kernel
  obtain ⟨module, warnings, h, htitle⟩ := Verdict.exists_success htitle
  obtain ⟨struct, hfound, htitle⟩ := (Option.any_eq_true _ _).mp htitle
  have haccepted := Accepted.alone h
  have hstruct : Program.struct? { module := module } ⟨module.id, ⟨["Title"]⟩⟩ = some struct := by
    rw [Program.struct?, haccepted.not_native, Module.find?_self]
    exact hfound
  obtain ⟨_, _, _, _, _, -, hrequires⟩ := Struct.exists_of_isTitle htitle
  have hid : (⟨["Title"]⟩ : EntityId) ≠ stringEntity.id := by decide
  have hentity : (⟨module.id, ⟨["Title"]⟩⟩ : Entity) ≠ stringEntity := fun e =>
    hid (congrArg Entity.id e)
  have hliteral : ∀ fuel store, Program.IsLiteral { module := module } (fuel + 5) _ _ store store :=
    fun fuel store => .list (.cons
      (.list (.cons (.success (isLiteral_title hentity hstruct htitle "\"a\", b" _ _)) .nil))
      (.cons (.list (.cons (.success (isLiteral_title hentity hstruct htitle " [\\ " _ _))
        (.cons .failure .nil))) .nil))
  exact ⟨_, struct, _, _, haccepted, by rw [hrequires]; rfl, rfl, fun fuel store =>
    ⟨hliteral fuel store, decode_literal (hliteral fuel store)⟩⟩

/-- A comma, a quote and a backslash in an item are no more than text. -/
example : (Value.list [.string "a, \"b\"", .list []]).literal (fun _ => true)
    = "[\"a, \\\"b\\\"\", []]"
  := by rfl

end TypedModules
