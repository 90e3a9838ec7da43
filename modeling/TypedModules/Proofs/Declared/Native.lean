import TypedModules.Native.Library
import TypedModules.Proofs.Declared.Signatures

/-!
# The native library is formed

The declarations of the native module are formed in every library that tells them.
-/

namespace TypedModules

theorem distinct_nativeDefinitions :
  nativeDefinitions.Distinct
  := by
  unfold Definitions.Distinct
  decide +kernel

/-- What is callable in the native module is a native function or makes a sequence. -/
theorem cases_signature_native {kind : EntityKind} {id : EntityId} {signature : Signature}
    (h : nativeDefinitions.signature? kind id = some signature) :
  signature ∈ nativeDefinitions.functions ∨ signature = Native.sequence.constructor
  := by
  cases Definitions.brings_of_signature? h with
  | native hmem | function hmem => exact .inl hmem
  | struct hmem =>
    obtain rfl := List.mem_singleton.mp hmem
    exact .inr rfl
  | interface hmem | adapter hmem | when hmem => exact absurd hmem List.not_mem_nil
  | option hmem _ => exact absurd hmem List.not_mem_nil

section Native

variable {library : Library} (h : library nativeModule = some nativeDefinitions)

include h

theorem arity_listBuilder :
  library.Arity Native.listBuilder.entity 1
  := ⟨nativeDefinitions, .opaqueType, ⟨[Native.t], true⟩, h, by decide +kernel, rfl⟩

theorem arity_string :
  library.Arity Native.string.entity 0
  := ⟨nativeDefinitions, .opaqueType, ⟨[], false⟩, h, by decide +kernel, rfl⟩

theorem arity_sequence :
  library.Arity Native.sequence.entity 1
  := distinct_nativeDefinitions.arity_struct h List.mem_cons_self

omit h in
theorem formed_sequence :
  Native.sequence.Formed library
  := by
  constructor
  case params => decide
  case names => decide
  case members => simp [Native.sequence, Native.tyT, Native.arrow, Ty.Formed, Library.scopeOf]

/-- The types of a native function mention its own type parameters only. -/
theorem formed_native (function : NativeFunction) :
  function.signature.Formed library
  := by
  have hbuilder := arity_listBuilder h
  have hstring := arity_string h
  have hsequence := arity_sequence h
  constructor
  case params => cases function <;> decide
  case args | output =>
    cases function <;>
      simp_all [NativeFunction.signature, NativeFunction.declaration, Native.tyT, Native.tyU,
        Native.t, Native.u, Native.dataT, Native.arrow, Native.sequence, Native.listBuilder,
        Native.string, Ty.Formed, Library.scopeOf, StructHeader.type, StructHeader.entity,
        Opaque.type, Opaque.entity, declaredType]

theorem formed_nativeDefinitions :
  nativeDefinitions.Formed library nativeModule
  := by
  constructor
  case distinct => exact distinct_nativeDefinitions
  case structs =>
    intro s hs
    obtain rfl := List.mem_singleton.mp hs
    exact ⟨rfl, formed_sequence⟩
  case interfaces => exact fun _ hi => nomatch hi
  case unions => exact fun _ hu => nomatch hu
  case functions =>
    simp only [nativeDefinitions, List.forall_mem_map]
    exact fun function _ => formed_native h function

end Native
end TypedModules
