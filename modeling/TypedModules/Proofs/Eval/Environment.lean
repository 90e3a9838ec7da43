import Mathlib.Data.List.Forall2
import TypedModules.Proofs.Typing.Variables
import TypedModules.Value.Environment

/-!
# Environments that cover variables

An environment covers visible variables if each stands for a value as its type wants it.
Environments that are made of arguments cover these, and so they do after a scope is opened
and a variable is given a value.
-/

namespace TypedModules
namespace Environment

/-- Whether each visible variable stands for a value that is wanted of its type. -/
def Covers (wanted : Ty → Value → Prop) (env : Environment) (vars : Variables) : Prop :=
  ∀ name type, vars.type? name = some type →
    ∃ value, env.lookup? name = some value ∧ wanted type value

@[simp]
theorem lookup?_push (env : Environment) (name : String) :
  env.push.lookup? name = env.lookup? name
  := by
  simp [push, lookup?, List.findSome?_cons]

theorem lookup_cons_eq (name other : String) (value : Value) (frame : Frame) :
  ((name, value) :: frame).lookup other = if other = name then some value else frame.lookup other
  := by
  rw [List.lookup_cons]
  by_cases h : other = name
  · simp [h]
  · rw [beq_false_of_ne h, if_neg h]

/-- A variable stands for the value that it was given last. -/
theorem lookup?_define (env : Environment) (name other : String) (value : Value) :
  (env.define name value).lookup? other = if other = name then some value else env.lookup? other
  := by
  obtain ⟨inner, outermost⟩ := env
  cases inner <;> by_cases h : other = name <;>
    simp [define, lookup?, lookup_cons_eq, List.findSome?_cons, h]

section Covers

variable {wanted : Ty → Value → Prop} {env : Environment} {vars : Variables}

theorem Covers.push (h : env.Covers wanted vars) :
  env.push.Covers wanted vars
  := by
  intro name type htype
  rw [lookup?_push]
  exact h name type htype

theorem Covers.define (h : env.Covers wanted vars) {name : String} {type : Ty} {value : Value}
    (hvalue : wanted type value) :
  (env.define name value).Covers wanted (vars ++ [⟨name, type⟩])
  := by
  intro other found hfound
  rw [lookup?_define]
  rw [Variables.type?_append] at hfound
  by_cases e : other = name
  · have hlast : Variables.type? [⟨name, type⟩] other = some type := by
      simp [Variables.type?, e]
    rw [hlast, Option.some_or, Option.some.injEq] at hfound
    exact ⟨value, by rw [if_pos e], hfound ▸ hvalue⟩
  · have hlast : Variables.type? [⟨name, type⟩] other = none := by
      simpa [Variables.type?] using Ne.symm e
    rw [hlast, Option.none_or] at hfound
    rw [if_neg e]
    exact h other found hfound

theorem Covers.imp {wanted' : Ty → Value → Prop} (h : env.Covers wanted vars)
    (himp : ∀ type value, wanted type value → wanted' type value) :
  env.Covers wanted' vars
  := by
  intro name type htype
  obtain ⟨value, hlookup, hvalue⟩ := h name type htype
  exact ⟨value, hlookup, himp type value hvalue⟩

/-- The first argument with a name stands for the first value for it. -/
theorem lookup_zip {args : List Argument} {values : List Value}
    (h : List.Forall₂ (fun a v => wanted a.type v) args values) {name : String} {found : Argument}
    (hfound : args.find? (·.name == name) = some found) :
  ∃ value, ((args.map (·.name)).zip values).lookup name = some value ∧ wanted found.type value
  := by
  induction h with
  | nil => cases hfound
  | @cons arg value args values hvalue _ ih =>
    rw [List.map_cons, List.zip_cons_cons, lookup_cons_eq]
    by_cases e : arg.name = name
    · rw [List.find?_cons_of_pos (by simp [e]), Option.some.injEq] at hfound
      subst hfound
      exact ⟨value, by simp [e], hvalue⟩
    · rw [List.find?_cons_of_neg (by simp [e])] at hfound
      obtain ⟨value', hlookup, hvalue'⟩ := ih hfound
      exact ⟨value', by rw [if_neg (Ne.symm e), hlookup], hvalue'⟩

theorem reverse_zip {α β : Type} {as : List α} {bs : List β} (h : as.length = bs.length) :
  (as.zip bs).reverse = as.reverse.zip bs.reverse
  := by
  rw [List.zip_eq_zipWith, List.zip_eq_zipWith, List.reverse_zipWith h]

/-- The environment of a call covers the arguments. -/
theorem covers_ofBindings {args : List Argument} {values : List Value}
    (h : List.Forall₂ (fun a v => wanted a.type v) args values) :
  (ofBindings ((args.map (·.name)).zip values)).Covers wanted args
  := by
  intro name type htype
  obtain ⟨found, hfound, rfl⟩ := Option.map_eq_some_iff.mp htype
  obtain ⟨value, hlookup, hvalue⟩ := lookup_zip (List.forall₂_reverse_iff.mpr h) hfound
  refine ⟨value, ?_, hvalue⟩
  rw [List.map_reverse, ← reverse_zip (by simpa using h.length_eq)] at hlookup
  simpa [ofBindings, lookup?] using hlookup

end Covers
end Environment
end TypedModules
