import TypedModules.Proofs.Typing.Check
import TypedModules.Proofs.Typing.Induction

/-!
# What a tree depends on

A well typed tree depends on its surroundings only for what they hold, and on the visible
variables only for the types of those that it mentions.  Hence the body of a closure is well
typed where nothing is visible but the arguments and the captured variables:
`Variables.Captures.typed_body`.
-/

namespace TypedModules

/-! ### Larger surroundings -/

section Extends

variable {around other : Surroundings} (h : around.Extends other)

include h

theorem Surroundings.Extends.formed {type : Ty} {allowed : Nat}
    (htype : type.Formed other.library.openScope allowed) :
  type.Formed around.library.openScope allowed
  := htype.mono (fun _ _ => h.library.arity) (fun _ h => h) (Nat.le_refl _)

theorem FunctionType.Calls.extend {function : FunctionType} {chosen args : List Ty} {type : Ty}
    (hcalls : function.Calls other.library chosen args type) :
  function.Calls around.library chosen args type
  := { hcalls with formed := fun c hc => h.formed (hcalls.formed c hc) }

theorem FunctionType.Binds.extend {function : FunctionType} {chosen supplied : List (Option Ty)}
    {type : Ty} (hbinds : function.Binds other.library chosen supplied type) :
  function.Binds around.library chosen supplied type
  := { hbinds with formed := fun c hc => h.formed (hbinds.formed c hc) }

theorem Surroundings.Extends.signature? {entry : Visible} {signature : Signature}
    (hsignature : other.library.signature? entry = some signature) :
  around.library.signature? entry = some signature
  := by
  obtain ⟨definitions, hd, hsignature⟩ := Option.bind_eq_some_iff.mp hsignature
  rw [Library.signature?, h.library _ _ hd, Option.bind_some, hsignature]

theorem Surroundings.Extends.hasForm {type : Ty} {form : LiteralForm}
    (hform : other.library.HasForm type form) :
  around.library.HasForm type form
  := by
  induction hform with
  | integer => exact .integer
  | natural => exact .natural
  | boolean => exact .boolean
  | string => exact .string _ _ _
  | struct hne hd hstruct honly _ ih => exact .struct hne (h.library _ _ hd) hstruct honly ih

theorem Surroundings.Extends.hasMember {receiver type : Ty} {member : String}
    (hmember : other.library.HasMember receiver member type) :
  around.library.HasMember receiver member type
  := by
  obtain ⟨isReference, entity, written, args, definitions, rfl, hd, hmember⟩ := hmember
  exact ⟨_, _, _, _, definitions, rfl, h.library _ _ hd, hmember⟩

end Extends

section Extends

variable {around other : Surroundings} (h : around.Extends other)

include h

omit h in
theorem stmtsTyped_extend {statements : List Stmt}
    (ih : ∀ s ∈ statements, ∀ vars, s.value.Typed other vars → s.value.Typed around vars)
    (vars : Variables) (htyped : StmtsTyped other vars statements) :
  StmtsTyped around vars statements
  := by
  induction statements generalizing vars with
  | nil => trivial
  | cons statement rest ihRest =>
    rw [List.forall_mem_cons] at ih
    refine ⟨?_, ihRest ih.2 _ htyped.2⟩
    cases statement with
    | assign name type value => exact ⟨htyped.1.1, ih.1 vars htyped.1.2.1, htyped.1.2.2⟩
    | bare value => exact ih.1 vars htyped.1

/-- What is well typed stays so in larger surroundings. -/
theorem typed_extend :
  (∀ (expr : Expr) (vars : Variables), expr.Typed other vars → expr.Typed around vars)
    ∧ ∀ (block : Block) (vars : Variables), block.Typed other vars → block.Typed around vars
  := by
  apply tree_induction
  case name =>
    rintro type aliasing name vars ⟨hformed, htype⟩
    exact ⟨h.formed hformed, htype⟩
  case literal =>
    rintro type aliasing text vars ⟨hformed, form, hform, haccepts⟩
    exact ⟨h.formed hformed, form, h.hasForm hform, haccepts⟩
  case list =>
    rintro type aliasing items element ih vars ⟨hformed, htype, hitems, hsame⟩
    rw [areTyped_iff] at hitems
    exact ⟨h.formed hformed, htype,
      areTyped_iff.mpr fun item hitem => ih item hitem vars (hitems item hitem), hsame⟩
  case follow =>
    rintro type aliasing receiver member ih vars ⟨hformed, hreceiver, hmember⟩
    exact ⟨h.formed hformed, ih vars hreceiver, h.hasMember hmember⟩
  case call =>
    rintro type aliasing function entity args chosen ih vars
      ⟨hformed, hargs, entry, signature, hresolves, hentity, hsignature, hcalls⟩
    rw [areTyped_iff] at hargs
    exact ⟨h.formed hformed, areTyped_iff.mpr fun arg harg => ih arg harg vars (hargs arg harg),
      entry, signature, h.resolves _ _ hresolves, hentity, h.signature? hsignature,
      hcalls.extend h⟩
  case callValue =>
    rintro type aliasing function args chosen ih ihs vars
      ⟨hformed, hfunction, hargs, functionType, htype, hcalls⟩
    rw [areTyped_iff] at hargs
    exact ⟨h.formed hformed, ih vars hfunction,
      areTyped_iff.mpr fun arg harg => ihs arg harg vars (hargs arg harg), functionType, htype,
      hcalls.extend h⟩
  case bind =>
    rintro type aliasing function entity slots chosen ih vars
      ⟨hformed, hslots, entry, signature, hresolves, hentity, hsignature, hbinds⟩
    rw [slotsTyped_iff] at hslots
    exact ⟨h.formed hformed, slotsTyped_iff.mpr fun e he => ih e he vars (hslots e he),
      entry, signature, h.resolves _ _ hresolves, hentity, h.signature? hsignature,
      hbinds.extend h⟩
  case bindValue =>
    rintro type aliasing function slots chosen ih ihs vars
      ⟨hformed, hfunction, hslots, functionType, htype, hbinds⟩
    rw [slotsTyped_iff] at hslots
    exact ⟨h.formed hformed, ih vars hfunction,
      slotsTyped_iff.mpr fun e he => ihs e he vars (hslots e he), functionType, htype,
      hbinds.extend h⟩
  case ifThen =>
    rintro type aliasing condition thenBlock elseBlock ih ihThen ihElse vars
      ⟨hformed, hcondition, hboolean, hthen, hsame, helse, hsame'⟩
    exact ⟨h.formed hformed, ih vars hcondition, hboolean, ihThen vars hthen, hsame,
      ihElse vars helse, hsame'⟩
  case closure =>
    rintro type aliasing site args captures output body ih vars
      ⟨hformed, hnames, hnew, hcaptures, hbody, hsame, htype⟩
    exact ⟨h.formed hformed, hnames, hnew, hcaptures, ih _ hbody, hsame, htype⟩
  case block =>
    rintro statements last ih ihLast vars ⟨hstatements, hlast⟩
    exact ⟨stmtsTyped_extend ih vars hstatements, ihLast _ hlast⟩

theorem Block.Typed.extend {block : Block} {vars : Variables} (htyped : block.Typed other vars) :
  block.Typed around vars
  := (typed_extend h).2 block vars htyped

end Extends

/-! ### Other variables -/

/-- Whether some variables have the types that others have, as far as the given names go, and
have no name that those have not. -/
structure Variables.Agree (vars fewer : Variables) (names : List String) : Prop where
  types : ∀ name ∈ names, fewer.type? name = vars.type? name
  has : ∀ name, fewer.has name = true → vars.has name = true

namespace Variables

theorem Agree.mono {vars fewer : Variables} {names some : List String}
    (h : vars.Agree fewer names) (hsub : some ⊆ names) :
  vars.Agree fewer some
  := ⟨fun name hname => h.types name (hsub hname), h.has⟩

theorem Agree.append {vars fewer : Variables} {names : List String} (h : vars.Agree fewer names)
    (more : Variables) :
  Agree (vars ++ more) (fewer ++ more) names
  := by
  constructor
  case types =>
    intro name hname
    rw [type?_append, type?_append, h.types name hname]
  case has =>
    intro name hname
    rw [has_append, Bool.or_eq_true] at hname ⊢
    exact hname.imp_left (h.has name)

theorem Agree.has_eq_false {vars fewer : Variables} {names : List String}
    (h : vars.Agree fewer names) {name : String} (hname : vars.has name = false) :
  fewer.has name = false
  := by
  by_contra hfewer
  rw [h.has name (by simpa using hfewer)] at hname
  cases hname

/-- What a closure captures has the types that the visible variables have. -/
theorem Captures.type?_eq {vars : Variables} {names : List String} {captures : List Argument}
    (h : vars.Captures names captures) {name : String} (hname : name ∈ names) :
  type? captures name = vars.type? name
  := by
  cases hcaptured : type? captures name with
  | some type =>
    obtain ⟨c, hc, rfl, rfl⟩ := exists_of_type? hcaptured
    exact (h.types c hc).symm
  | none =>
    have hnot := has_eq_false.mp (type?_eq_none.mp hcaptured)
    rw [eq_comm, type?_eq_none]
    by_contra hhas
    exact hnot (h.complete name hname (by simpa using hhas))

/-- A closure captures the same where fewer variables are visible but all that it captures. -/
theorem Captures.restrict {vars fewer : Variables} {names : List String}
    {captures : List Argument} (h : vars.Captures names captures)
    (hagree : vars.Agree fewer (captures.map (·.name))) :
  fewer.Captures names captures
  := by
  constructor
  case distinct => exact h.distinct
  case mentioned => exact h.mentioned
  case types =>
    intro c hc
    rw [hagree.types c.name (List.mem_map_of_mem hc), h.types c hc]
  case complete => exact fun name hname hhas => h.complete name hname (hagree.has name hhas)

/-- The body of a closure needs of the visible variables only what the closure captures. -/
theorem Captures.agree {vars fewer : Variables} {names : List String}
    {captures : List Argument} (h : vars.Captures names captures)
    (hagree : vars.Agree fewer (captures.map (·.name))) :
  vars.Agree fewer names
  := by
  constructor
  case has => exact hagree.has
  case types =>
    intro name hname
    cases hhas : vars.has name with
    | true => exact hagree.types name (h.complete name hname hhas)
    | false =>
      rw [type?_eq_none.mpr hhas, type?_eq_none.mpr (hagree.has_eq_false hhas)]

end Variables

theorem stmtsTyped_restrict {around : Surroundings} {statements : List Stmt}
    (ih : ∀ s ∈ statements, ∀ vars fewer, s.value.Typed around vars →
      vars.Agree fewer s.value.names → s.value.Typed around fewer)
    (vars fewer : Variables) (htyped : StmtsTyped around vars statements)
    (hagree : vars.Agree fewer (stmtNames statements)) :
  StmtsTyped around fewer statements
  := by
  induction statements generalizing vars fewer with
  | nil => trivial
  | cons statement rest ihRest =>
    rw [List.forall_mem_cons] at ih
    have hfirst : vars.Agree fewer statement.names := hagree.mono (List.subset_append_left _ _)
    have hrest : vars.Agree fewer (stmtNames rest) := hagree.mono (List.subset_append_right _ _)
    refine ⟨?_, ihRest ih.2 _ _ htyped.2 (hrest.append _)⟩
    cases statement with
    | assign name type value =>
      obtain ⟨hnew, hvalue, htype⟩ := htyped.1
      exact ⟨hagree.has_eq_false hnew, ih.1 vars fewer hvalue hfirst, htype⟩
    | bare value => exact ih.1 vars fewer htyped.1 hfirst

theorem mem_exprNames {name : String} {exprs : List Expr} :
  name ∈ exprNames exprs ↔ ∃ expr ∈ exprs, name ∈ expr.names
  := by
  induction exprs with
  | nil => simp [exprNames]
  | cons expr rest ih => simp [exprNames, ih]

theorem mem_slotNames {name : String} {slots : List (Option Expr)} :
  name ∈ slotNames slots ↔ ∃ expr, some expr ∈ slots ∧ name ∈ expr.names
  := by
  induction slots with
  | nil => simp [slotNames]
  | cons slot rest ih => cases slot <;> simp [slotNames, ih, or_and_right, exists_or]

theorem subset_exprNames {exprs : List Expr} {expr : Expr} (h : expr ∈ exprs) :
  expr.names ⊆ exprNames exprs
  := fun _ hname => mem_exprNames.mpr ⟨expr, h, hname⟩

theorem subset_slotNames {slots : List (Option Expr)} {expr : Expr} (h : some expr ∈ slots) :
  expr.names ⊆ slotNames slots
  := fun _ hname => mem_slotNames.mpr ⟨expr, h, hname⟩

/-- What is well typed stays so where other variables are visible that agree on the names that
it mentions. -/
theorem typed_restrict {around : Surroundings} :
  (∀ (expr : Expr) (vars fewer : Variables), expr.Typed around vars →
      vars.Agree fewer expr.names → expr.Typed around fewer)
    ∧ ∀ (block : Block) (vars fewer : Variables), block.Typed around vars →
      vars.Agree fewer block.names → block.Typed around fewer
  := by
  apply tree_induction
  case name =>
    rintro type aliasing name vars fewer ⟨hformed, htype⟩ hagree
    exact ⟨hformed, (hagree.types name (by simp [Expr.names, Node.names])).trans htype⟩
  case literal =>
    rintro type aliasing text vars fewer htyped -
    exact htyped
  case list =>
    rintro type aliasing items element ih vars fewer ⟨hformed, htype, hitems, hsame⟩ hagree
    rw [areTyped_iff] at hitems
    exact ⟨hformed, htype, areTyped_iff.mpr fun item hitem => ih item hitem vars fewer
      (hitems item hitem) (hagree.mono (subset_exprNames hitem)), hsame⟩
  case follow =>
    rintro type aliasing receiver member ih vars fewer ⟨hformed, hreceiver, hmember⟩ hagree
    exact ⟨hformed, ih vars fewer hreceiver hagree, hmember⟩
  case call =>
    rintro type aliasing function entity args chosen ih vars fewer ⟨hformed, hargs, hcallee⟩ hagree
    rw [areTyped_iff] at hargs
    exact ⟨hformed, areTyped_iff.mpr fun arg harg => ih arg harg vars fewer (hargs arg harg)
      (hagree.mono (subset_exprNames harg)), hcallee⟩
  case callValue =>
    rintro type aliasing function args chosen ih ihs vars fewer
      ⟨hformed, hfunction, hargs, hcalls⟩ hagree
    rw [areTyped_iff] at hargs
    have hnames : vars.Agree fewer (exprNames args) :=
      hagree.mono (List.subset_append_right _ _)
    exact ⟨hformed, ih vars fewer hfunction (hagree.mono (List.subset_append_left _ _)),
      areTyped_iff.mpr fun arg harg => ihs arg harg vars fewer (hargs arg harg)
        (hnames.mono (subset_exprNames harg)), hcalls⟩
  case bind =>
    rintro type aliasing function entity slots chosen ih vars fewer ⟨hformed, hslots, hcallee⟩
      hagree
    rw [slotsTyped_iff] at hslots
    exact ⟨hformed, slotsTyped_iff.mpr fun e he => ih e he vars fewer (hslots e he)
      (hagree.mono (subset_slotNames he)), hcallee⟩
  case bindValue =>
    rintro type aliasing function slots chosen ih ihs vars fewer
      ⟨hformed, hfunction, hslots, hbinds⟩ hagree
    rw [slotsTyped_iff] at hslots
    have hnames : vars.Agree fewer (slotNames slots) :=
      hagree.mono (List.subset_append_right _ _)
    exact ⟨hformed, ih vars fewer hfunction (hagree.mono (List.subset_append_left _ _)),
      slotsTyped_iff.mpr fun e he => ihs e he vars fewer (hslots e he)
        (hnames.mono (subset_slotNames he)), hbinds⟩
  case ifThen =>
    rintro type aliasing condition thenBlock elseBlock ih ihThen ihElse vars fewer
      ⟨hformed, hcondition, hboolean, hthen, hsame, helse, hsame'⟩ hagree
    have hfirst : vars.Agree fewer (condition.names ++ thenBlock.names) :=
      hagree.mono (List.subset_append_left _ _)
    exact ⟨hformed, ih vars fewer hcondition (hfirst.mono (List.subset_append_left _ _)), hboolean,
      ihThen vars fewer hthen (hfirst.mono (List.subset_append_right _ _)), hsame,
      ihElse vars fewer helse (hagree.mono (List.subset_append_right _ _)), hsame'⟩
  case closure =>
    rintro type aliasing site args captures output body ih vars fewer
      ⟨hformed, hnames, hnew, hcaptures, hbody, hsame, htype⟩ hagree
    exact ⟨hformed, hnames, fun a ha => hagree.has_eq_false (hnew a ha),
      hcaptures.restrict hagree, ih _ _ hbody ((hcaptures.agree hagree).append args), hsame,
      htype⟩
  case block =>
    rintro statements last ih ihLast vars fewer ⟨hstatements, hlast⟩ hagree
    exact ⟨stmtsTyped_restrict ih vars fewer hstatements
        (hagree.mono (List.subset_append_left _ _)),
      ihLast _ _ hlast ((hagree.mono (List.subset_append_right _ _)).append _)⟩

/-- The body of a closure is well typed where only the arguments and what is captured are
visible. -/
theorem Variables.Captures.typed_body {around : Surroundings} {vars : Variables}
    {args captures : List Argument} {body : Block}
    (hnew : ∀ a ∈ args, vars.has a.name = false) (h : vars.Captures body.names captures)
    (hbody : body.Typed around (vars ++ args)) :
  body.Typed around (args ++ captures)
  := by
  apply typed_restrict.2 body _ _ hbody
  constructor
  case has =>
    intro name hname
    rw [has_append, Bool.or_eq_true] at hname ⊢
    refine hname.symm.imp_left fun hcaptured => ?_
    simp only [has, List.any_eq_true, beq_iff_eq] at hcaptured
    obtain ⟨c, hc, rfl⟩ := hcaptured
    exact has_of_type? (h.types c hc)
  case types =>
    intro name hname
    rw [type?_append, type?_append, h.type?_eq hname]
    cases harg : type? args name with
    | none => rw [Option.or_none, Option.none_or]
    | some type =>
      obtain ⟨a, ha, rfl, -⟩ := exists_of_type? harg
      rw [type?_eq_none.mpr (hnew a ha)]
      rfl

end TypedModules
