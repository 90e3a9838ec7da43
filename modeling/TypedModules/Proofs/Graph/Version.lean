import Mathlib.Data.List.Basic
import Mathlib.Data.List.Flatten
import TypedModules.Native.Library
import TypedModules.Source.Fingerprint

/-!
# Versions tell contents apart

Each part of a fingerprint stands after its length, so the parts can be read off from the
left, and no two contexts have one fingerprint.  A version holds the fingerprint of a context
and the sorted ids of its dependencies; as long as these ids have versions between brackets,
two versions are equal exactly when their contents are.  A version is never that of the
native module.
-/

namespace TypedModules
namespace Fingerprint

/-! ### Texts after their lengths -/

theorem toDigits_injective :
  Function.Injective (Nat.toDigits 10)
  := by
  intro n m h
  rw [← Nat.ofDigitChars_toDigits (n := n) (b := 10) (by decide) (by decide), h]
  exact Nat.ofDigitChars_toDigits (by decide) (by decide)

/-- A number can be read off up to what is no digit. -/
theorem toDigits_append_inj {n m : Nat} {c : Char} (hc : c.isDigit = false) {s t : List Char}
    (h : Nat.toDigits 10 n ++ c :: s = Nat.toDigits 10 m ++ c :: t) :
  n = m ∧ s = t
  := by
  have hdigits : ∀ (k : Nat) (rest : List Char),
      (Nat.toDigits 10 k ++ c :: rest).takeWhile Char.isDigit = Nat.toDigits 10 k := by
    intro k rest
    rw [List.takeWhile_append_of_pos]
    · simp [hc]
    · intro d hd
      exact Nat.isDigit_of_mem_toDigits (by decide) (by decide) hd
  obtain rfl : n = m := by
    apply toDigits_injective
    rw [← hdigits n s, h, hdigits]
  exact ⟨rfl, by simpa using h⟩

theorem toList_ofText (text : String) :
  (ofText text).toList = Nat.toDigits 10 text.length ++ ':' :: text.toList
  := by
  simp [ofText, Nat.toList_repr]

/-- A text after its length can be read off from the left. -/
theorem ofText_append_inj {a b : String} {s t : List Char}
    (h : (ofText a).toList ++ s = (ofText b).toList ++ t) :
  a = b ∧ s = t
  := by
  simp only [toList_ofText, List.append_assoc, List.cons_append] at h
  obtain ⟨hlength, hrest⟩ := toDigits_append_inj rfl h
  obtain ⟨hab, hst⟩ := List.append_inj hrest (by simpa only [String.length_toList] using hlength)
  exact ⟨String.toList_inj.mp hab, hst⟩

theorem flatMap_ofText_inj {as bs : List String}
    (h : as.flatMap (fun a => (ofText a).toList) = bs.flatMap fun b => (ofText b).toList) :
  as = bs
  := by
  induction as generalizing bs with
  | nil => cases bs <;> simp_all [toList_ofText]
  | cons a as ih =>
    cases bs with
    | nil => simp_all [toList_ofText]
    | cons b bs =>
      simp only [List.flatMap_cons] at h
      obtain ⟨rfl, hrest⟩ := ofText_append_inj h
      rw [ih hrest]

/-- A list of texts can be read off from what is written for it. -/
theorem ofList_injective :
  Function.Injective ofList
  := by
  intro as bs h
  have h := congrArg String.toList h
  apply flatMap_ofText_inj
  simpa [ofList, String.toList_join, List.flatMap_map] using h

@[simp]
theorem ofList_inj {as bs : List String} :
  ofList as = ofList bs ↔ as = bs
  := ofList_injective.eq_iff

/-- What is written for a list is longer than each of its texts. -/
theorem length_lt_ofList {text : String} {texts : List String} (h : text ∈ texts) :
  text.length < (ofList texts).length
  := by
  have htext : text.length < (ofText text).toList.length := by
    rw [toList_ofText, List.length_append, List.length_cons, String.length_toList]
    omega
  have hlist : (ofText text).toList.length ≤ (ofList texts).length := by
    rw [← String.length_toList, ofList, String.toList_join, List.flatMap_map]
    have hmem := List.mem_map_of_mem (f := fun text => (ofText text).toList) h
    exact (List.sublist_flatten_of_mem hmem).length_le
  exact Nat.lt_of_lt_of_le htext hlist

theorem ofOption_injective :
  Function.Injective ofOption
  := by
  intro a b h
  have h := congrArg String.toList h
  cases a <;> cases b <;> simp [ofOption] at h ⊢
  exact String.toList_inj.mp h

@[simp]
theorem ofOption_inj {a b : Option String} :
  ofOption a = ofOption b ↔ a = b
  := ofOption_injective.eq_iff

theorem ofBool_injective :
  Function.Injective ofBool
  := by
  intro a b
  cases a <;> cases b <;> simp [ofBool]

theorem digitChar_inj {n m : Nat} (hn : n < 16) (hm : m < 16)
    (h : Nat.digitChar n = Nat.digitChar m) :
  n = m
  := by
  have key : ∀ i j : Fin 16, Nat.digitChar i = Nat.digitChar j → i = j := by decide
  exact congrArg Fin.val (key ⟨n, hn⟩ ⟨m, hm⟩ h)

theorem hexByte_injective :
  Function.Injective hexByte
  := by
  intro a b h
  simp only [hexByte, List.cons.injEq, and_true] at h
  have ha := a.toNat_lt
  have hb := b.toNat_lt
  have hhigh := digitChar_inj (by omega) (by omega) h.1
  have hlow := digitChar_inj (by omega) (by omega) h.2
  apply UInt8.toNat_inj.mp
  omega

theorem flatMap_hexByte_inj {as bs : List UInt8}
    (h : as.flatMap hexByte = bs.flatMap hexByte) :
  as = bs
  := by
  induction as generalizing bs with
  | nil => cases bs <;> simp_all [hexByte]
  | cons a as ih =>
    cases bs with
    | nil => simp_all [hexByte]
    | cons b bs =>
      simp only [List.flatMap_cons] at h
      obtain ⟨hab, h⟩ := List.append_inj h rfl
      rw [hexByte_injective hab, ih h]

theorem hexText_injective :
  Function.Injective hexText
  := by
  intro a b h
  have h := flatMap_hexByte_inj (by simpa [hexText] using congrArg String.toList h)
  exact String.toByteArray_inj.mp (ByteArray.ext (Array.ext' h))

@[simp]
theorem inside_bracketed (text : String) :
  inside (bracketed text) = text
  := by
  simp [inside, bracketed]

/-! ### What contexts are made of -/

/-- If what is written for items tells them apart, then so does the list of it. -/
theorem ofList_map_injective {α : Type} {f : α → String} (h : Function.Injective f) :
  Function.Injective fun items : List α => ofList (items.map f)
  := ofList_injective.comp (List.map_injective_iff.mpr h)

/-- If what is written for a value tells it apart, then so does it if the value may be
absent. -/
theorem ofOption_map_injective {α : Type} {f : α → String} (h : Function.Injective f) :
  Function.Injective fun value : Option α => ofOption (value.map f)
  := ofOption_injective.comp (Option.map_injective h)

theorem toString_injective :
  Function.Injective fun n : Nat => toString n
  := by
  intro n m h
  apply toDigits_injective
  simpa [Nat.toList_repr] using congrArg String.toList h

theorem ofId_injective :
  Function.Injective ofId
  := by
  rintro ⟨a⟩ ⟨b⟩ h
  exact congrArg EntityId.mk (ofList_injective h)

theorem ofLocation_injective :
  Function.Injective ofLocation
  := by
  apply ofOption_map_injective
  rintro ⟨d, s, e⟩ ⟨d', s', e'⟩ h
  simp only [ofList_inj, List.cons.injEq, and_true] at h
  obtain ⟨rfl, hs, he⟩ := h
  rw [toString_injective hs, toString_injective he]

theorem ofQualifier_injective :
  Function.Injective ofQualifier
  := by
  rintro ⟨g, m, v⟩ ⟨g', m', v'⟩ h
  simpa [ofQualifier] using h

theorem ofReference_injective :
  Function.Injective ofReference
  := by
  rintro ⟨q, i⟩ ⟨q', i'⟩ h
  simp only [ofReference, ofList_inj, List.cons.injEq, and_true] at h
  rw [ofOption_map_injective ofQualifier_injective h.1, ofId_injective h.2]

theorem ofTypeParam_injective :
  Function.Injective ofTypeParam
  := by
  rintro ⟨n, c⟩ ⟨n', c'⟩ h
  simp only [ofTypeParam, ofList_inj, List.cons.injEq, and_true] at h
  have hc : Function.Injective TypeClass.text := fun a b _ => by cases a; cases b; rfl
  rw [h.1, ofOption_map_injective hc h.2]

theorem ofTypeParams_injective :
  Function.Injective ofTypeParams
  := ofList_map_injective ofTypeParam_injective

mutual

theorem ofTy_inj : {a b : SourceTy} → ofTy a = ofTy b → a = b
  | .integer, b, h => by cases b <;> simp [ofTy] at h ⊢
  | .natural, b, h => by cases b <;> simp [ofTy] at h ⊢
  | .boolean, b, h => by cases b <;> simp [ofTy] at h ⊢
  | .list element, b, h => by
    cases b <;> simp [ofTy] at h ⊢
    exact ofTy_inj h
  | .tryOf inner, b, h => by
    cases b <;> simp [ofTy] at h ⊢
    exact ofTy_inj h
  | .function isReference typeParams args output location, b, h => by
    cases b <;> simp [ofTy] at h ⊢
    obtain ⟨hr, hp, ha, ho, hl⟩ := h
    exact ⟨ofBool_injective hr, ofTypeParams_injective hp, ofTys_inj ha, ofTy_inj ho,
      ofLocation_injective hl⟩
  | .named isReference reference params location, b, h => by
    cases b <;> simp [ofTy] at h ⊢
    obtain ⟨hm, hr, hp, hl⟩ := h
    exact ⟨ofBool_injective hm, ofReference_injective hr, ofTys_inj hp, ofLocation_injective hl⟩

theorem ofTys_inj : {as bs : List SourceTy} → ofTys as = ofTys bs → as = bs
  | [], bs, h => by cases bs <;> simp [ofTys] at h ⊢
  | a :: as, bs, h => by
    cases bs <;> simp [ofTys] at h ⊢
    exact ⟨ofTy_inj h.1, ofTys_inj h.2⟩

end

theorem ofTy_injective :
  Function.Injective ofTy
  := fun _ _ => ofTy_inj

theorem ofArg_injective :
  Function.Injective ofArg
  := by
  rintro ⟨n, t, l⟩ ⟨n', t', l'⟩ h
  simp only [ofArg, ofList_inj, List.cons.injEq, and_true] at h
  rw [h.1, ofTy_inj h.2.1, ofLocation_injective h.2.2]

theorem ofArgs_injective :
  Function.Injective fun args : List SourceArg => ofList (args.map ofArg)
  := ofList_map_injective ofArg_injective

theorem ofOpenTys_injective :
  Function.Injective ofOpenTys
  := ofList_map_injective (ofOption_map_injective ofTy_injective)

mutual

theorem ofExpr_inj : {a b : SourceExpr} → ofExpr a = ofExpr b → a = b
  | .variable .., b, h => by
    cases b <;> simp [ofExpr] at h ⊢
    exact ⟨h.1, ofLocation_injective h.2⟩
  | .literal .., b, h => by
    cases b <;> simp [ofExpr] at h ⊢
    exact ⟨ofTy_inj h.1, h.2.1, ofLocation_injective h.2.2⟩
  | .list .., b, h => by
    cases b <;> simp [ofExpr] at h ⊢
    exact ⟨ofExprs_inj h.1, ofTy_inj h.2.1, ofLocation_injective h.2.2⟩
  | .follow .., b, h => by
    cases b <;> simp [ofExpr] at h ⊢
    exact ⟨ofExpr_inj h.1, h.2.1, ofLocation_injective h.2.2⟩
  | .call .., b, h => by
    cases b <;> simp [ofExpr] at h ⊢
    obtain ⟨hf, ha, hc, hl⟩ := h
    exact ⟨ofReference_injective hf, ofExprs_inj ha, ofTys_inj hc, ofLocation_injective hl⟩
  | .callValue .., b, h => by
    cases b <;> simp [ofExpr] at h ⊢
    obtain ⟨hf, ha, hc, hl⟩ := h
    exact ⟨ofExpr_inj hf, ofExprs_inj ha, ofTys_inj hc, ofLocation_injective hl⟩
  | .bind .., b, h => by
    cases b <;> simp [ofExpr] at h ⊢
    obtain ⟨hf, hs, hc, hl⟩ := h
    exact ⟨ofReference_injective hf, ofSlots_inj hs, ofOpenTys_injective hc,
      ofLocation_injective hl⟩
  | .bindValue .., b, h => by
    cases b <;> simp [ofExpr] at h ⊢
    obtain ⟨hf, hs, hc, hl⟩ := h
    exact ⟨ofExpr_inj hf, ofSlots_inj hs, ofOpenTys_injective hc, ofLocation_injective hl⟩
  | .ifThen .., b, h => by
    cases b <;> simp [ofExpr] at h ⊢
    obtain ⟨hc, ht, he, hl⟩ := h
    exact ⟨ofExpr_inj hc, ofBlock_inj ht, ofBlock_inj he, ofLocation_injective hl⟩
  | .closure .., b, h => by
    cases b <;> simp [ofExpr] at h ⊢
    obtain ⟨ha, ho, hb, hl⟩ := h
    exact ⟨ofArgs_injective (ofList_inj.mpr ha), ofTy_inj ho, ofBlock_inj hb,
      ofLocation_injective hl⟩

theorem ofExprs_inj : {as bs : List SourceExpr} → ofExprs as = ofExprs bs → as = bs
  | [], bs, h => by cases bs <;> simp [ofExprs] at h ⊢
  | _ :: _, bs, h => by
    cases bs <;> simp [ofExprs] at h ⊢
    exact ⟨ofExpr_inj h.1, ofExprs_inj h.2⟩

theorem ofSlots_inj : {as bs : List (Option SourceExpr)} → ofSlots as = ofSlots bs → as = bs
  | [], bs, h => by
    match bs with
    | [] => rfl
    | none :: _ | some _ :: _ => simp [ofSlots] at h
  | none :: _, bs, h => by
    match bs with
    | [] | some _ :: _ => simp [ofSlots] at h
    | none :: _ =>
      simp only [ofSlots, List.cons.injEq, true_and] at h
      rw [ofSlots_inj h]
  | some _ :: _, bs, h => by
    match bs with
    | [] | none :: _ => simp [ofSlots] at h
    | some _ :: _ =>
      simp only [ofSlots, List.cons.injEq, ofOption_inj, Option.some.injEq] at h
      rw [ofExpr_inj h.1, ofSlots_inj h.2]

theorem ofStmt_inj : {a b : SourceStmt} → ofStmt a = ofStmt b → a = b
  | .assign .., b, h => by
    cases b <;> simp [ofStmt] at h ⊢
    obtain ⟨hn, ht, hv, hl⟩ := h
    exact ⟨hn, Option.map_injective ofTy_injective ht, ofExpr_inj hv, ofLocation_injective hl⟩
  | .bare .., b, h => by
    cases b <;> simp [ofStmt] at h ⊢
    exact ofExpr_inj h

theorem ofStmts_inj : {as bs : List SourceStmt} → ofStmts as = ofStmts bs → as = bs
  | [], bs, h => by cases bs <;> simp [ofStmts] at h ⊢
  | _ :: _, bs, h => by
    cases bs <;> simp [ofStmts] at h ⊢
    exact ⟨ofStmt_inj h.1, ofStmts_inj h.2⟩

theorem ofBlock_inj : {a b : SourceBlock} → ofBlock a = ofBlock b → a = b
  | .mk .., .mk .., h => by
    simp only [ofBlock, ofList_inj, List.cons.injEq, and_true] at h
    rw [ofStmts_inj h.1, ofLocation_injective h.2]

end

mutual

theorem ofAnnotationValue_inj : {a b : AnnotationValue} →
    ofAnnotationValue a = ofAnnotationValue b → a = b
  | .literal .., b, h => by cases b <;> simp [ofAnnotationValue] at h ⊢; exact h
  | .list .., b, h => by
    cases b <;> simp [ofAnnotationValue] at h ⊢
    exact ofAnnotationValues_inj h

theorem ofAnnotationValues_inj : {as bs : List AnnotationValue} →
    ofAnnotationValues as = ofAnnotationValues bs → as = bs
  | [], bs, h => by cases bs <;> simp [ofAnnotationValues] at h ⊢
  | _ :: _, bs, h => by
    cases bs <;> simp [ofAnnotationValues] at h ⊢
    exact ⟨ofAnnotationValue_inj h.1, ofAnnotationValues_inj h.2⟩

end

theorem ofAnnotations_injective :
  Function.Injective ofAnnotations
  := by
  apply ofList_map_injective
  rintro ⟨n, v⟩ ⟨n', v'⟩ h
  simp only [ofMark, ofList_inj, List.cons.injEq, and_true] at h
  rw [ofId_injective h.1, ofAnnotationValues_inj h.2]

theorem ofFunction_injective :
  Function.Injective ofFunction
  := by
  rintro ⟨⟩ ⟨⟩ h
  simp only [ofFunction, ofList_inj, List.cons.injEq, and_true] at h
  obtain ⟨hi, hp, ha, ho, hb, hm, hl⟩ := h
  rw [ofId_injective hi, ofTypeParams_injective hp, List.map_injective_iff.mpr ofArg_injective ha,
    ofTy_inj ho, ofBlock_inj hb, ofAnnotations_injective hm, ofLocation_injective hl]

theorem ofMember_injective :
  Function.Injective ofMember
  := by
  rintro ⟨n, t⟩ ⟨n', t'⟩ h
  simp only [ofMember, ofList_inj, List.cons.injEq, and_true] at h
  rw [h.1, ofTy_inj h.2]

theorem ofStruct_injective :
  Function.Injective ofStruct
  := by
  rintro ⟨⟩ ⟨⟩ h
  simp only [ofStruct, ofList_inj, List.cons.injEq, and_true] at h
  obtain ⟨hi, hp, hm, hr, ha, hl⟩ := h
  have hblock : Function.Injective ofBlock := fun _ _ => ofBlock_inj
  rw [ofId_injective hi, ofTypeParams_injective hp,
    List.map_injective_iff.mpr ofMember_injective hm, ofOption_map_injective hblock hr,
    ofAnnotations_injective ha, ofLocation_injective hl]

theorem ofMethod_injective :
  Function.Injective ofMethod
  := by
  rintro ⟨⟩ ⟨⟩ h
  simp only [ofMethod, ofList_inj, List.cons.injEq, and_true] at h
  obtain ⟨hn, hp, ha, ho⟩ := h
  rw [hn, ofTypeParams_injective hp, List.map_injective_iff.mpr ofArg_injective ha, ofTy_inj ho]

theorem ofInterface_injective :
  Function.Injective ofInterface
  := by
  rintro ⟨⟩ ⟨⟩ h
  simp only [ofInterface, ofList_inj, List.cons.injEq, and_true] at h
  obtain ⟨hi, hp, hm, ha, hl⟩ := h
  rw [ofId_injective hi, ofTypeParams_injective hp,
    List.map_injective_iff.mpr ofMethod_injective hm, ofAnnotations_injective ha,
    ofLocation_injective hl]

theorem ofUnionOption_injective :
  Function.Injective ofUnionOption
  := by
  rintro ⟨⟩ ⟨⟩ h
  simp only [ofUnionOption, ofList_inj, List.cons.injEq, and_true] at h
  obtain ⟨hn, ht, hl⟩ := h
  rw [hn, ofOption_map_injective ofTy_injective ht, ofLocation_injective hl]

theorem ofUnion_injective :
  Function.Injective ofUnion
  := by
  rintro ⟨⟩ ⟨⟩ h
  simp only [ofUnion, ofList_inj, List.cons.injEq, and_true] at h
  obtain ⟨hi, hp, ho, ha, hl⟩ := h
  rw [ofId_injective hi, ofTypeParams_injective hp,
    List.map_injective_iff.mpr ofUnionOption_injective ho, ofAnnotations_injective ha,
    ofLocation_injective hl]

/-- No two contexts have one fingerprint. -/
theorem ofContext_injective :
  Function.Injective ofContext
  := by
  rintro ⟨⟩ ⟨⟩ h
  simp only [ofContext, ofList_inj, List.cons.injEq, and_true] at h
  obtain ⟨hf, hs, hi, hu⟩ := h
  rw [List.map_injective_iff.mpr ofFunction_injective hf,
    List.map_injective_iff.mpr ofStruct_injective hs,
    List.map_injective_iff.mpr ofInterface_injective hi,
    List.map_injective_iff.mpr ofUnion_injective hu]

/-! ### Versions -/

/-- Whether a text may be the version of a context. -/
def IsVersion (text : String) : Prop :=
  ∃ content, text = bracketed content

theorem ofModuleId_inj {a b : ModuleId} (ha : IsVersion a.version) (hb : IsVersion b.version)
    (h : ofModuleId a = ofModuleId b) :
  a = b
  := by
  obtain ⟨⟨ga, ma⟩, _⟩ := a
  obtain ⟨⟨gb, mb⟩, _⟩ := b
  obtain ⟨va, rfl⟩ := ha
  obtain ⟨vb, rfl⟩ := hb
  simp only [ofModuleId, ofList_inj, List.cons.injEq, and_true, inside_bracketed] at h
  obtain ⟨hg, hm, rfl⟩ := h
  rw [hexText_injective hg, hexText_injective hm]

theorem map_ofModuleId_inj {as bs : List ModuleId} (ha : ∀ id ∈ as, IsVersion id.version)
    (hb : ∀ id ∈ bs, IsVersion id.version) (h : as.map ofModuleId = bs.map ofModuleId) :
  as = bs
  := by
  induction as generalizing bs with
  | nil => simpa using h.symm
  | cons a as ih =>
    cases bs with
    | nil => simp at h
    | cons b bs =>
      simp only [List.forall_mem_cons, List.map_cons, List.cons.injEq] at ha hb h
      rw [ofModuleId_inj ha.1 hb.1 h.1, ih ha.2 hb.2 h.2]

end Fingerprint

open Fingerprint

theorem isVersion_version (context : Context) (dependencies : List ModuleId) :
  IsVersion (context.version dependencies)
  := ⟨_, rfl⟩

/-- A version is not that of the native module. -/
theorem version_ne_native (context : Context) (dependencies : List ModuleId) :
  context.version dependencies ≠ nativeModule.version
  := by
  intro h
  have h := congrArg String.toList h
  simp [Context.version, bracketed, nativeModule] at h

/-- A version is longer than those of the dependencies. -/
theorem length_version_lt {context : Context} {dependencies : List ModuleId} {id : ModuleId}
    (hid : id ∈ dependencies) (hversion : IsVersion id.version) :
  id.version.length < (context.version dependencies).length
  := by
  obtain ⟨⟨group, name⟩, version⟩ := id
  obtain ⟨content, rfl⟩ := hversion
  have hcontent : content.length < (ofModuleId ⟨⟨group, name⟩, bracketed content⟩).length :=
    length_lt_ofList (by simp [inside_bracketed])
  have hmem : ofModuleId ⟨⟨group, name⟩, bracketed content⟩
      ∈ hexText (ofContext context) :: (dependencies.mergeSort ModuleId.le).map ofModuleId :=
    List.mem_cons_of_mem _ (List.mem_map_of_mem (List.mem_mergeSort.mpr hid))
  have hlist := length_lt_ofList hmem
  simp only [Context.version, bracketed, String.length_append]
  omega

/-- Equal versions are those of one context with the same dependencies. -/
theorem version_inj {a b : Context} {as bs : List ModuleId}
    (ha : ∀ id ∈ as, IsVersion id.version) (hb : ∀ id ∈ bs, IsVersion id.version)
    (h : a.version as = b.version bs) :
  a = b ∧ as.Perm bs
  := by
  have h := congrArg inside h
  simp only [Context.version, inside_bracketed, ofList_inj, List.cons.injEq] at h
  obtain ⟨hcontext, hids⟩ := h
  have hsorted : as.mergeSort ModuleId.le = bs.mergeSort ModuleId.le := by
    apply map_ofModuleId_inj _ _ hids <;> simpa
  refine ⟨ofContext_injective (hexText_injective hcontext), ?_⟩
  exact (List.mergeSort_perm as _).symm.trans (hsorted ▸ List.mergeSort_perm bs _)

end TypedModules
