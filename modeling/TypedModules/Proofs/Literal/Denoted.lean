import TypedModules.Proofs.Eval.Eliminated
import TypedModules.Proofs.Eval.Equal
import TypedModules.Proofs.Literal.Chain
import TypedModules.Proofs.Literal.Written

/-!
# What literals denote

A literal denotes a value without functions and without list builders.  Hence what it denotes does
not depend on the builders that there are when it is decoded, although the `requires` blocks that
decoding asks may create some: `reads_of_outcome` and `Reads.settles`, and for one literal after
another `readsAll_of_outcome` and `ReadsAll.settles`.
-/

namespace TypedModules

/-! ### Inert values -/

/-- Whether a value is made of numbers, truth values, texts, lists, `Try` values and structs
only. -/
inductive Value.Inert : Value → Prop
  | integer (n : Int) : Inert (.integer n)
  | natural (n : Nat) : Inert (.natural n)
  | boolean (b : Bool) : Inert (.boolean b)
  | string (text : String) : Inert (.string text)
  | failure : Inert .failure
  | success {value : Value} :
    Inert value →
    Inert (.success value)
  | list {items : List Value} :
    (∀ item ∈ items, Inert item) →
    Inert (.list items)
  | struct (header : StructHeader) {members : List Value} :
    (∀ member ∈ members, Inert member) →
    Inert (.struct header members)

namespace Value

/-- An inert value agrees with itself, whichever builders are paired. -/
theorem Inert.like {v : Value} (h : v.Inert) (pairing : Pairing) :
  v.Like pairing v
  := by
  induction h with
  | integer n => apply Alike.integer
  | natural n => apply Alike.natural
  | boolean b => apply Alike.boolean
  | string text => apply Alike.string
  | failure => apply Alike.failure
  | success _ ih => apply Alike.success ih
  | list _ ih => apply Alike.list (List.forall₂_same.mpr ih)
  | struct header _ ih => apply Alike.struct rfl (List.forall₂_same.mpr ih)

theorem eq_of_related {vs ws : List Value} {pairing : Pairing} (h : ValuesLike pairing vs ws)
    (heq : ∀ v ∈ vs, ∀ w, v.Like pairing w → v = w) :
  vs = ws
  := by
  apply List.forall₂_eq_eq_eq ▸ related_of_mem h heq

/-- An inert value agrees with no other. -/
theorem Inert.eq_of_like {v w : Value} (h : v.Inert) {pairing : Pairing}
    (hlike : v.Like pairing w) :
  v = w
  := by
  induction h generalizing w with
  | success _ ih =>
    cases hlike with
    | success hlike => rw [ih hlike]
  | list _ ih =>
    cases hlike with
    | list hlike => rw [eq_of_related hlike fun v hv w => @ih v hv w]
  | struct header _ ih =>
    cases hlike with
    | struct hheader hlike =>
      obtain rfl := hheader
      rw [eq_of_related hlike fun v hv w => @ih v hv w]
  | _ =>
    cases hlike
    rfl

end Value

section Decoding

variable {program : Program} {store after : Store}

theorem forall_of_outcome_mapM {α β : Type} {run : α → Eval β} {items : List α} {results : List β}
    {P : β → Prop}
    (hrun : ∀ item store b after, (run item).outcome store = (.ok b, after) → P b)
    (h : (items.mapM run).outcome store = (.ok results, after)) :
  ∀ b ∈ results, P b
  := by
  induction items generalizing store after results with
  | nil =>
    rw [List.mapM_nil] at h
    obtain rfl := eq_of_outcome_pure h
    nofun
  | cons item rest ih =>
    rw [List.mapM_cons] at h
    obtain ⟨b, left, hb, h⟩ := exists_of_outcome_bind h
    obtain ⟨bs, left', hbs, h⟩ := exists_of_outcome_bind h
    obtain rfl := eq_of_outcome_pure h
    rw [List.forall_mem_cons]
    exact ⟨hrun _ _ _ _ hb, ih hbs⟩

/-- A literal of a primitive type denotes one of the values that its text may have. -/
theorem inert_of_primitive {type : Ty} {text : String} {found : Option Value} {value : Value}
    (hinert : ∀ v, found = some v → v.Inert)
    (h : (primitiveLiteral type text found).outcome store = (.ok value, after)) :
  value.Inert
  := by
  cases found with
  | none => cases h
  | some v =>
    obtain rfl := eq_of_outcome_pure h
    apply hinert v rfl

/-- Literals denote inert values. -/
theorem inert_of_decode {fuel : Nat} {type : Ty} {text : String} {value : Value}
    (h : (program.decode fuel type text).outcome store = (.ok value, after)) :
  value.Inert
  := by
  induction fuel generalizing type text value store after with
  | zero => cases h
  | succ fuel ih =>
    rw [program.decode_succ] at h
    cases type with
    | integer =>
      apply inert_of_primitive _ h
      intro v hv
      obtain ⟨n, -, rfl⟩ := Option.map_eq_some_iff.mp hv
      apply Value.Inert.integer
    | natural =>
      apply inert_of_primitive _ h
      intro v hv
      obtain ⟨n, -, rfl⟩ := Option.map_eq_some_iff.mp hv
      apply Value.Inert.natural
    | boolean =>
      apply inert_of_primitive _ h
      intro v hv
      obtain ⟨b, -, rfl⟩ := Option.map_eq_some_iff.mp hv
      apply Value.Inert.boolean
    | list element =>
      rw [decode] at h
      cases hitems : ListText.parse text with
      | error fault =>
        rw [hitems] at h
        cases h
      | ok items =>
        rw [hitems] at h
        obtain ⟨values, left, hvalues, h⟩ := exists_of_outcome_bind h
        obtain rfl := eq_of_outcome_pure h
        have hinert : ∀ v ∈ values, v.Inert :=
          forall_of_outcome_mapM (fun _ _ _ _ hv => ih hv) hvalues
        apply Value.Inert.list hinert
    | tryOf inner =>
      rw [decode, decodeTry] at h
      split_ifs at h with hfailure
      · obtain rfl := eq_of_outcome_pure h
        apply Value.Inert.failure
      · split at h
        · obtain ⟨v, left, hv, h⟩ := exists_of_outcome_bind h
          obtain rfl := eq_of_outcome_pure h
          apply Value.Inert.success (ih hv)
        · cases h
    | named isReference entity written args =>
      rw [decode] at h
      split_ifs at h with hentity
      · obtain rfl := eq_of_outcome_pure h
        apply Value.Inert.string
      · split at h
        · cases h
        · split at h
          next struct _ member _ =>
            rw [decodeStruct_eq] at h
            obtain ⟨v, left, hv, h⟩ := exists_of_outcome_bind h
            obtain ⟨allows, left', -, h⟩ := exists_of_outcome_bind h
            cases allows with
            | false => cases h
            | true =>
              obtain rfl := eq_of_outcome_pure h
              apply Value.Inert.struct
              rw [List.forall_mem_singleton]
              apply ih hv
          next => cases h
    | function => cases h
    | param => cases h
    | internal => cases h

end Decoding

/-! ### One literal -/

section Reads

variable {program : Program} {type : Ty} {text : String} {result : Except Halt Value}
  {store after : Store}

/-- What a program reads a literal as, if no builder has been created: a value, or an error. -/
def Program.Reads (program : Program) (type : Ty) (text : String) (result : Except Halt Value) :
    Prop :=
  result ≠ .error .outOfFuel
    ∧ ∃ after, Settles (fun fuel => program.decode fuel type text) {} (result, after)

/-- What ends in agreement with what a literal is read as is the same. -/
theorem eq_of_endsAlike {fuel : Nat} {other : Except Halt Value} {later : Pairing}
    (h : (program.decode fuel type text).outcome store = (result, after))
    (halike : EndsAlike Eq (Value.Like later) result other) :
  result = other
  := by
  cases halike with
  | ok hlike => rw [(inert_of_decode h).eq_of_like hlike]
  | error herror => rw [herror]

/-- A literal whose decoding ends somewhere is decoded to the same from every store. -/
theorem settles_of_outcome {fuel : Nat}
    (h : (program.decode fuel type text).outcome store = (result, after))
    (hends : result ≠ .error .outOfFuel) (start : Store) :
  ∃ last, Settles (fun fuel => program.decode fuel type text) start (result, last)
  := by
  have hends' : ((program.decode fuel type text).outcome store).1 ≠ .error .outOfFuel := by
    rwa [h]
  obtain ⟨later, ⟨other, last⟩, -, hsettles, halike, -⟩ :=
    follows_of_ends (.literal type text) hends'
  have halike : EndsAlike Eq (Value.Like later)
      ((program.decode fuel type text).outcome store).1 other := halike
  rw [h] at halike
  obtain rfl := eq_of_endsAlike h halike
  exact ⟨last, hsettles⟩

theorem reads_of_outcome {fuel : Nat}
    (h : (program.decode fuel type text).outcome store = (result, after))
    (hends : result ≠ .error .outOfFuel) :
  program.Reads type text result
  := ⟨hends, settles_of_outcome h hends {}⟩

/-- What a literal is read as does not depend on the builders that there are. -/
theorem Program.Reads.settles (h : program.Reads type text result) (start : Store) :
  ∃ last, Settles (fun fuel => program.decode fuel type text) start (result, last)
  := by
  obtain ⟨hends, after, enough, hsettles⟩ := h
  apply settles_of_outcome (hsettles enough (Nat.le_refl _)) hends

theorem Program.Reads.unique {other : Except Halt Value} (h : program.Reads type text result)
    (hother : program.Reads type text other) :
  result = other
  := by
  obtain ⟨-, _, hsettles⟩ := h
  obtain ⟨-, _, hsettles'⟩ := hother
  rw [(Prod.mk.inj (hsettles.unique hsettles')).1]

theorem Program.Reads.inert {value : Value} (h : program.Reads type text (.ok value)) :
  value.Inert
  := by
  obtain ⟨-, _, enough, hsettles⟩ := h
  apply inert_of_decode (hsettles enough (Nat.le_refl _))

end Reads

/-! ### One literal after another -/

/-- What a program reads literals as: values for all of them, or the first error. -/
inductive Program.ReadsAll (program : Program) :
    List (Ty × String) → Except Halt (List Value) → Prop
  | nil : ReadsAll program [] (.ok [])
  | error {type : Ty} {text : String} {rest : List (Ty × String)} {halt : Halt} :
    program.Reads type text (.error halt) →
    ReadsAll program ((type, text) :: rest) (.error halt)
  | value {type : Ty} {text : String} {rest : List (Ty × String)} {value : Value}
      {result : Except Halt (List Value)} :
    program.Reads type text (.ok value) →
    ReadsAll program rest result →
    ReadsAll program ((type, text) :: rest) (result.map (value :: ·))

/-- Literals are decoded one after another. -/
def Program.decodeAll (program : Program) (fuel : Nat) (literals : List (Ty × String)) :
    Eval (List Value) :=
  literals.mapM fun (type, text) => program.decode fuel type text

section ReadsAll

variable {program : Program} {literals : List (Ty × String)} {result : Except Halt (List Value)}

theorem decodeAll_cons (program : Program) (fuel : Nat) (type : Ty) (text : String)
    (rest : List (Ty × String)) :
  program.decodeAll fuel ((type, text) :: rest) = (do
    let value ← program.decode fuel type text
    let values ← program.decodeAll fuel rest
    return value :: values)
  := List.mapM_cons

/-- All literals are read as values exactly if each of them is. -/
theorem readsAll_ok_iff {values : List Value} :
  program.ReadsAll literals (.ok values)
    ↔ List.Forall₂ (fun literal value => program.Reads literal.1 literal.2 (.ok value))
      literals values
  := by
  induction literals generalizing values with
  | nil =>
    rw [List.forall₂_nil_left_iff]
    constructor
    · rintro ⟨⟩
      rfl
    · rintro rfl
      apply Program.ReadsAll.nil
  | cons literal rest ih =>
    rw [List.forall₂_cons_left_iff]
    constructor
    · intro h
      generalize hresult : (Except.ok values : Except Halt (List Value)) = result at h
      cases h with
      | error => cases hresult
      | @value type text rest value result hvalue hrest =>
        obtain ⟨others, rfl, rfl⟩ := ListText.exists_of_map_eq_ok hresult.symm
        exact ⟨value, others, hvalue, ih.mp hrest, rfl⟩
    · rintro ⟨value, others, hvalue, hothers, rfl⟩
      apply Program.ReadsAll.value hvalue (ih.mpr hothers)

/-- Literals whose decoding ends somewhere are read as what it ends with. -/
theorem readsAll_of_outcome {fuel : Nat} {store after : Store}
    (h : (program.decodeAll fuel literals).outcome store = (result, after))
    (hends : result ≠ .error .outOfFuel) :
  program.ReadsAll literals result
  := by
  induction literals generalizing store result after with
  | nil =>
    cases h
    apply Program.ReadsAll.nil
  | cons literal rest ih =>
    rw [decodeAll_cons, Discipline.outcome_bind] at h
    rcases hfirst : (program.decode fuel literal.1 literal.2).outcome store
      with ⟨halt | value, left⟩
    · rw [hfirst] at h
      cases h
      apply Program.ReadsAll.error
      apply reads_of_outcome hfirst
      rintro ⟨⟩
      exact hends rfl
    · rw [hfirst] at h
      dsimp only at h
      have hvalue := reads_of_outcome hfirst nofun
      rw [Discipline.outcome_bind] at h
      rcases hrest : (program.decodeAll fuel rest).outcome left with ⟨halt | values, last⟩
      · rw [hrest] at h
        cases h
        have hall : program.ReadsAll rest (.error halt) := by
          apply ih hrest
          rintro ⟨⟩
          exact hends rfl
        apply Program.ReadsAll.value hvalue hall
      · rw [hrest] at h
        cases h
        apply Program.ReadsAll.value hvalue (ih hrest nofun)

/-- What literals are read as does not depend on the builders that there are. -/
theorem Program.ReadsAll.settles (h : program.ReadsAll literals result) (start : Store) :
  ∃ last, Settles (fun fuel => program.decodeAll fuel literals) start (result, last)
  := by
  induction h generalizing start with
  | nil => exact ⟨start, settles_pure [] start⟩
  | @error type text rest halt hliteral =>
    obtain ⟨last, hsettles⟩ := hliteral.settles start
    simp only [decodeAll_cons]
    exact ⟨last, hsettles.bind_error _⟩
  | @value type text rest value result hliteral _ ih =>
    obtain ⟨left, hsettles⟩ := hliteral.settles start
    obtain ⟨last, hrest⟩ := ih left
    simp only [decodeAll_cons]
    refine ⟨last, hsettles.bind ?_⟩
    cases result with
    | error halt => apply hrest.bind_error
    | ok values => apply hrest.bind (settles_pure (value :: values) last)

end ReadsAll

end TypedModules
