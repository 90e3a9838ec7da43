import TypedModules.Proofs.Alias.Region
import TypedModules.Proofs.Eval.Contained
import TypedModules.Proofs.Literal.Chain

/-!
# Literals are decoded as they are validated

Validation and decoding walk along one chain of structs with one member each, and agree on what a
text denotes at its end: `literal_decoded`.  Nor does a `requires` block on the way end because a
text is no literal.  The invariant of what runs there is that it asks for no literals but those of
well typed bodies, and that every closure that it meets has such a body.
-/

namespace TypedModules

/-! ### Evaluation without invalid literals -/

/-- The builders that are created after a store, where the bodies of closures are well typed. -/
def Region.created (library : Library) (store : Store) : Region where
  closures closure := ∃ vars, closure.body.Typed library.surroundings vars
  structs _ _ := True
  builders number := store.next ≤ number
  bounded := True
  origin := store
  fresh _ h := h

theorem Region.fits_created (library : Library) (store : Store) :
  (Region.created library store).Fits store.next store
  := fits_origin fun _ hle hlt => absurd hle (Nat.not_le_of_lt hlt)

/-- Evaluation from a store on that asks for literals only at the ends of chains, and does not end
because a text is no literal. -/
def Program.literals (program : Program) (store : Store) : Containment :=
  { (Region.created program.module.library store).containment with
    allows := fun cause => ∀ literal type reason, cause ≠ .invalidLiteral literal type reason
    literals := fun type text =>
      ∃ chain form, program.Chain type chain form ∧ form.accepts text = true
    mismatch := nofun
    member := nofun
    assumed := nofun }

section Literals

variable {program : Program} {store : Store}

/-- A well typed body asks for literals only at the ends of chains. -/
theorem runs_literals {vars : Variables} {args : List Argument} {body : Block}
    (h : body.Typed program.module.library.surroundings vars) :
  (program.literals store).Runs args body
  := by
  constructor
  case bound => exact fun _ _ _ => nofun
  case writes =>
    intro part hpart
    obtain ⟨visible, htyped⟩ := typed_parts.2 body vars h part hpart
    obtain ⟨type, aliasing, node⟩ := part
    constructor
    · rintro ⟨site, args, captures, output, inner⟩ hnode
      obtain rfl : node = _ := hnode
      obtain ⟨-, -, -, hinner, -⟩ := htyped.2
      exact ⟨_, hinner⟩
    · intro text hnode
      obtain rfl : node = _ := hnode
      obtain ⟨form, hform, haccepts⟩ := htyped.2
      obtain ⟨chain, hchain⟩ := Program.exists_chain hform
      exact ⟨chain, form, hchain, haccepts⟩

/-- Decoding a literal at the end of a chain asks for no other literal than that inside it. -/
theorem keeps_decode_chain (hruns : (program.literals store).RunsAll program)
    {ask : Request → Eval Value} (hask : (program.literals store).Answers ask)
    {world : (program.literals store).World} {type : Ty} {text : String}
    (h : (program.literals store).literals type text) :
  (program.literals store).Keeps world (decode program ask type text)
    (program.literals store).holds
  := by
  obtain ⟨chain, form, hchain, haccepts⟩ := h
  have hprimitive : program.Chain type [] form → (program.literals store).Keeps world
      (decode program ask type text) (program.literals store).holds := by
    intro hchain
    obtain ⟨value, hvalue⟩ := form.exists_value? haccepts
    obtain ⟨hclosure, hstruct, hbuilder, hparts⟩ := LiteralForm.atom_of_value? hvalue
    rw [decode_eq_pure hchain haccepts hvalue]
    exact Discipline.keeps_pure (Containment.holds_plain hclosure hstruct hbuilder hparts)
  cases hchain with
  | struct hentity hstruct hmember hinner =>
    rw [stringEntity] at hentity
    simp only [decode, if_neg hentity, hstruct, hmember]
    exact fun _ hfits => Containment.keepsAt_decodeStruct hask hruns.tolerant hfits
      (hruns.requires_of_struct? hstruct) hmember ⟨_, form, hinner, haccepts⟩ fun _ _ _ _ => trivial
  | integer => exact hprimitive .integer
  | natural => exact hprimitive .natural
  | boolean => exact hprimitive .boolean
  | string isReference written args => exact hprimitive (.string isReference written args)

/-- The bodies of a program whose module is accepted, and those of well typed closures, ask for
literals only at the ends of chains. -/
theorem hosts_literals (haccepted : Accepted program.module) :
  (program.literals store).Hosts program
  := by
  have hruns : (program.literals store).RunsAll program := by
    constructor
    case tolerant =>
      rintro cause hcause literal type reason rfl
      cases hcause
    case closures => exact fun _ ⟨_, hbody⟩ => runs_literals hbody
    case functions =>
      intro id module hmodule function hfunction
      have htyped := haccepted.typed (Module.mem_of_find? hmodule).1
      exact runs_literals (htyped.functions function hfunction).1
    case requires =>
      intro id module hmodule struct hstruct block hblock
      have htyped := haccepted.typed (Module.mem_of_find? hmodule).1
      exact runs_literals (htyped.requires struct hstruct block hblock).1
  exact { hruns with
    structs := fun _ _ => trivial
    decodes := fun hask _ _ _ h => keeps_decode_chain hruns hask h }

/-- Decoding a literal at the end of a chain does not end because a text is no literal. -/
theorem not_invalidLiteral (haccepted : Accepted program.module) {type : Ty} {chain : List Struct}
    {form : LiteralForm} (hchain : program.Chain type chain form) {text : String}
    (haccepts : form.accepts text = true) (fuel : Nat) {error : EvalError}
    (herror : ((program.decode fuel type text).outcome store).1 = .error (.error error))
    (literal reported reason : String) :
  error.cause ≠ .invalidLiteral literal reported reason
  := by
  have hanswers := Containment.answers_program (@hosts_literals program store haccepted) fuel
  obtain ⟨_, -, -, hends⟩ := hanswers store.next (.literal type text)
    ⟨chain, form, hchain, haccepts⟩ store (Region.fits_created _ store)
  rw [Program.decode] at herror
  rw [herror] at hends
  exact hends literal reported reason

end Literals

/-! ### The literals of a module -/

/-- Every literal that stands in a module or in one that it reaches is at the end of a chain of
structs and denotes a value there, in whatever program reaches the module.  The program decodes it
to that value, wrapped into the structs of the chain, if the `requires` blocks of all of them are
satisfied; otherwise it ends with the refusal of one of them, or as one of these blocks ends, and
never because a text is no literal. -/
theorem literal_decoded {program : Program} (haccepted : Accepted program.module)
    {module other : Module} (hmodule : module = program.module ∨ module ∈ program.module.reachable)
    (hother : other = module ∨ other ∈ module.reachable) {part : Expr} (hpart : part ∈ other.parts)
    {text : String} (hnode : part.node = .literal text) :
  ∃ chain form value, program.Chain part.type chain form ∧ form.accepts text = true
    ∧ form.value? text = some value
    ∧ ∀ fuel store,
      program.Decoded fuel text value chain store
          ((program.decode (fuel + chain.length + 1) part.type text).outcome store)
        ∧ ∀ error, ((program.decode fuel part.type text).outcome store).1 = .error (.error error) →
          ∀ literal type reason, error.cause ≠ .invalidLiteral literal type reason
  := by
  have hreached : Accepted module := haccepted.of_reached hmodule
  have hlibrary : program.module.library.Extends module.library :=
    fun _ _ hd => definitionsOf?_of_mem haccepted hmodule hd
  have hextends : program.module.library.surroundings.Extends module.library.surroundings :=
    ⟨fun _ _ hdeclares => hdeclares.extend hlibrary, hlibrary⟩
  obtain ⟨visible, htyped⟩ := (hreached.typed hother).parts hpart
  obtain ⟨type, aliasing, node⟩ := part
  obtain rfl : node = _ := hnode
  obtain ⟨form, hform, haccepts⟩ := htyped.2
  obtain ⟨chain, hchain⟩ := Program.exists_chain (hextends.hasForm hform)
  obtain ⟨value, hvalue⟩ := form.exists_value? haccepts
  exact ⟨chain, form, value, hchain, haccepts, hvalue, fun fuel store =>
    ⟨hchain.decoded haccepts hvalue fuel store, fun _ herror literal type reason =>
      not_invalidLiteral haccepted hchain haccepts fuel herror literal type reason⟩⟩

/-- A context with the function `debt(): Integer`, which returns `-7`. -/
def debtContext : Context where
  functions := [{
      id := ⟨["debt"]⟩
      typeParams := []
      args := []
      output := .integer
      body := .mk [.bare (.literal .integer "-7" none)] none
      annotations := []
      location := none }]

/-- Whether an expression is a literal of the type `Integer` with a text. -/
def Expr.isInteger (text : String) : Expr → Bool
  | .mk .integer _ (.literal written) => written == text
  | _ => false

theorem Expr.exists_of_isInteger {text : String} {expr : Expr} (h : expr.isInteger text = true) :
  ∃ aliasing, expr = .mk .integer aliasing (.literal text)
  := by
  unfold isInteger at h
  split at h
  next aliasing written => exact ⟨aliasing, by rw [beq_iff_eq.mp h]⟩
  next => cases h

/-- The literal in the body of `debt` is decoded to a negative integer. -/
theorem literal_decoded_debt :
  ∃ (module : Module) (part : Expr), Accepted module ∧ part ∈ module.parts
    ∧ part.node = .literal "-7"
    ∧ ∀ fuel store, (Program.decode { module := module } (fuel + 1) part.type "-7").outcome store
      = (.ok (.integer (-7)), store)
  := by
  have hliteral : (validate 0 debtContext ⟨"example", "debt"⟩ [] {}).module?.any
      (fun module => module.parts.any (Expr.isInteger "-7")) = true := by
    decide +kernel
  obtain ⟨module, warnings, h, hpart⟩ := Verdict.exists_success hliteral
  obtain ⟨part, hpart, hinteger⟩ := List.any_eq_true.mp hpart
  obtain ⟨aliasing, rfl⟩ := Expr.exists_of_isInteger hinteger
  have haccepted := Accepted.alone h
  obtain ⟨chain, form, value, hchain, -, hvalue, hdecoded⟩ :=
    @literal_decoded { module := module } haccepted module module (.inl rfl) (.inl rfl) _ hpart _ rfl
  obtain ⟨⟩ := hchain
  obtain rfl : Value.integer (-7) = value := Option.some.inj hvalue
  refine ⟨module, _, haccepted, hpart, rfl, fun fuel store => ?_⟩
  have hdecoded := (hdecoded fuel store).1
  rw [List.length_nil, Nat.add_zero] at hdecoded
  generalize (Program.decode _ _ _ _).outcome store = result at hdecoded ⊢
  cases hdecoded with
  | wrapped hpasses =>
    obtain ⟨⟩ := hpasses
    rfl
  | refused hempty => simp at hempty
  | raised hempty => simp at hempty
  | unfinished hempty => simp at hempty

end TypedModules
