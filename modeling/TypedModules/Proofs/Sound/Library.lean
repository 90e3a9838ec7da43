import TypedModules.Proofs.Declared.Arguments
import TypedModules.Proofs.Eval.Dispatch
import TypedModules.Proofs.Sound.Native

/-!
# The native library is implemented as it is declared

Each signature that the native module declares is that of a native function, which is found under
the id of the signature.  Whatever types are chosen for its type parameters, the function keeps to
the signature: given inhabitants of the types of its arguments it yields an inhabitant of the type
of its result and leaves each list builder with inhabitants of its type, or it ends with an error
that a binding has raised.  Only `Try.assume` has an error of its own: `native_agrees`.
-/

namespace TypedModules

open Realm

/-- The causes with which the native function under an id may end when the bindings that it applies
end with those of `raised`. -/
def NativeFunction.Raises (raised : EvalCause → Prop) (id : EntityId) (cause : EvalCause) : Prop :=
  raised cause ∨ id = tryAssume.id ∧ cause = .assumedFailure

/-- Every declared signature is that of a native function. -/
theorem exists_native {signature : Signature} (h : signature ∈ nativeDefinitions.functions) :
  ∃ function : NativeFunction, function.signature = signature
    ∧ nativeCallee? signature.id = some (.native function)
  := by
  have hfunction := distinct_nativeDefinitions.function?_of_mem h
  obtain ⟨callee, hcallee, hkind, hsignature⟩ := exists_nativeCallee? (.inl rfl) hfunction
  cases callee with
  | native function => exact ⟨function, hsignature, hcallee⟩
  | _ => cases hkind

theorem evalNative_eq {ask : Request → Eval Value} {fuel : Nat} {entity : Entity}
    {args : List Value} {function : NativeFunction}
    (h : nativeCallee? entity.id = some (.native function)) :
  evalNative ask fuel entity args = function.run ask fuel args
  := by
  unfold nativeCallee? at h
  unfold evalNative
  cases hstruct : nativeDefinitions.struct? entity.id with
  | some header =>
    rw [hstruct] at h
    cases h
  | none =>
    rw [hstruct] at h
    obtain ⟨found, hfound, e⟩ := Option.map_eq_some_iff.mp h
    cases e
    rw [hfound]

section Agreement

variable {realm : Realm} {raised : EvalCause → Prop} {ask : Request → Eval Value}

/-- The native module has for each signature that it declares a function with that signature, and
evaluation reaches it.  Where bindings applied to inhabitants of the types of their arguments yield
inhabitants of the types of their results or raise certain errors, the function yields an inhabitant
of the type of its result or ends with one of these errors, if it ends. -/
theorem native_agrees (hask : realm.Answers raised ask) {signature : Signature}
    (hdeclared : signature ∈ nativeDefinitions.functions) :
  ∃ function : NativeFunction, function.signature = signature
    ∧ nativeCallee? signature.id = some (.native function)
    ∧ ∀ (chosen : List Ty), chosen.length = signature.typeParams.length →
      ∀ (world : World) (args : List Value),
      realm.InhabitAll world args (signature.functionType.ground chosen).args →
      ∀ fuel, realm.Yields (NativeFunction.Raises raised signature.id) world
        (evalNative ask fuel ⟨nativeModule, signature.id⟩ args)
        (signature.functionType.ground chosen).output
  := by
  obtain ⟨function, rfl, hcallee⟩ := exists_native hdeclared
  refine ⟨function, rfl, hcallee, fun chosen hlength world args hargs fuel => ?_⟩
  have hformed := formed_native realm.native function
  rw [hformed.ground hlength] at hargs ⊢
  rw [evalNative_eq hcallee]
  have hask' : realm.Answers (NativeFunction.Raises raised function.id) ask :=
    hask.allow fun _ => .inl
  exact function.yields_run hask' fuel (fun h => .inr ⟨congrArg _ h, rfl⟩) hargs

end Agreement

/-! ### One binding -/

/-- The library of the native module alone. -/
def nativeLibrary : Library :=
  fun id => if id.isNative then some nativeDefinitions else none

theorem formed_nativeLibrary :
  nativeLibrary.Formed
  := by
  intro id definitions h
  obtain ⟨hid, hdefinitions⟩ := Option.ite_none_right_eq_some.mp h
  obtain rfl : id = nativeModule := eq_of_beq hid
  obtain rfl := Option.some.inj hdefinitions
  exact formed_nativeDefinitions h

/-- The binding of `Integer.plus` with 1 as its first argument. -/
def plusOne : Binding :=
  .mk (.entity NativeFunction.integerPlus.entity) [some (.integer 1), none] []

/-- The realm in which `plusOne` can be called, and no other binding. -/
def plusOneRealm : Realm where
  library := nativeLibrary
  formed := formed_nativeLibrary
  native := rfl
  callable _ binding types output := binding = plusOne ∧ types = [.integer] ∧ output = .integer
  counted := by
    rintro _ _ _ _ ⟨rfl, rfl, rfl⟩
    rfl
  lasting _ h := h

/-- Three steps of evaluation are enough for `plusOne`. -/
theorem answers_plusOne (program : Program) :
  plusOneRealm.Answers (fun _ => False) (program.answer 3)
  := by
  intro world binding types output args hbinding hargs
  obtain ⟨base, params, result, values, ⟨rfl, rfl, rfl⟩, htarget, hvalues, hslots, hsame⟩ :=
    hbinding.exists_values hargs
  obtain _ | ⟨hvalue, _ | _⟩ := hvalues
  obtain ⟨n, rfl⟩ := hvalue.exists_integer
  have hcount : args.length = binding.openSlots :=
    hargs.length_eq.trans hbinding.openSlots.symm
  have happly : program.answer 3 (.apply binding args)
      = applyBinding (program.answer 2) binding args := rfl
  have hslots' : Binding.fillSlots binding.slots (args.map some)
      = [.integer 1, .integer n].map some := hslots
  rw [happly, applyBinding_eq hcount hslots', htarget]
  exact (yields_pure (.integer (1 + n))).same hsame

/-- Mapping `plusOne` over a list of integers yields a list of integers. -/
theorem native_agrees_map :
  plusOneRealm.Yields (NativeFunction.Raises (fun _ => False) NativeFunction.listMap.id) []
    (evalNative (Program.answer default 3) 3 NativeFunction.listMap.entity
      [.list [.integer 1, .integer 2], .function plusOne])
    (.list .integer)
  := by
  have hdeclared : NativeFunction.listMap.signature ∈ nativeDefinitions.functions :=
    List.mem_map_of_mem (NativeFunction.mem_all .listMap)
  obtain ⟨-, -, -, h⟩ := native_agrees (answers_plusOne default) hdeclared
  have hitems : ∀ item ∈ [Value.integer 1, .integer 2], plusOneRealm.Inhabits [] .integer item := by
    simpa using ⟨.integer 1, .integer 2⟩
  have hfunction : plusOneRealm.Inhabits [] (.function false [] [.integer] .integer)
      (.function plusOne) :=
    (@inhabits_toTy_iff _ _ (.ofSignature [] [.integer] .integer) _).mpr
      ⟨plusOne, rfl, fun _ _ => applies_of_callable ⟨rfl, rfl, rfl⟩⟩
  exact h [.integer, .integer] rfl [] _ (.cons (.list hitems) (.cons hfunction .nil)) 3

end TypedModules
