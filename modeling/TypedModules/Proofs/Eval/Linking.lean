import TypedModules.Proofs.Declared.Shapes
import TypedModules.Proofs.Eval.Dispatch
import TypedModules.Proofs.Typing.Module
import TypedModules.Proofs.Typing.Induction

/-!
# Linking

What a module sees under a reference to a function is declared, by the native module, by the
module itself or by a module on which it depends.  So the interpreter of any module that
reaches it finds what the check found, with the signature that the check used.
-/

namespace TypedModules

open Check

/-- What a module says about a module that it reaches under its id. -/
theorem definitionsOf?_of_found {module other : Module} (h : Accepted module)
    (hother : Accepted other)
    (hfound : ∃ n, (n = module ∨ n ∈ module.reachable) ∧ n.id = other.id) :
  module.definitionsOf? other.id = some other.definitions
  := by
  obtain ⟨n, hn, hid⟩ := hfound
  obtain ⟨found, hfound⟩ := Module.exists_find? hn
  obtain ⟨hmem, hfid⟩ := Module.mem_of_find? hfound
  have hagree := (coherent_of_accepted h found hmem).definitions_eq hother (hfid.trans hid)
  rw [Module.definitionsOf?, hother.not_native, if_neg Bool.false_ne_true, ← hid, hfound,
    Option.map_some, hagree]

/-! ### What is seen is declared -/

section Entries

variable {definitions : Definitions}

theorem mem_entries_function {signature : Signature} (h : signature ∈ definitions.functions) :
  (signature.id, .function) ∈ definitions.entries
  := by
  simp only [Definitions.entries, List.mem_append, List.mem_map]
  exact .inl ⟨signature, h, rfl⟩

theorem mem_entries_struct {header : StructHeader} (h : header ∈ definitions.structs) :
  (header.id, .struct) ∈ definitions.entries
  := by
  simp only [Definitions.entries, List.mem_append, List.mem_map]
  exact .inr (.inl ⟨header, h, rfl⟩)

theorem mem_entries_interface {interface : Interface} (h : interface ∈ definitions.interfaces) :
  (interface.id, .interface) ∈ definitions.entries
    ∧ (interface.id.adapter, .adapter) ∈ definitions.entries
  := by
  simp only [Definitions.entries, List.mem_append, List.mem_flatMap]
  exact ⟨.inr (.inr (.inl ⟨interface, h, by simp⟩)),
    .inr (.inr (.inl ⟨interface, h, by simp [Interface.adapterId]⟩))⟩

theorem mem_entries_union {union : Union} (h : union ∈ definitions.unions) :
  (∀ option ∈ union.options, (union.id.child option.name, .option) ∈ definitions.entries)
    ∧ (union.id.whenId, .when) ∈ definitions.entries
  := by
  simp only [Definitions.entries, List.mem_append, List.mem_flatMap]
  constructor
  · intro option hoption
    refine .inr (.inr (.inr (.inl ⟨union, h, ?_⟩)))
    simpa using ⟨option, hoption, rfl⟩
  · exact .inr (.inr (.inr (.inl ⟨union, h, by simp [Union.whenId]⟩)))

/-- Whether what is seen of a module as a function is declared by definitions. -/
def Definitions.Shows (definitions : Definitions) (id : ModuleId) (entry : Visible) : Prop :=
  entry.entity.module = id ∧ (entry.entity.id, entry.kind) ∈ definitions.entries
    ∧ entry.kind ≠ .native

theorem shows_interface {id : ModuleId} {interface : Interface} {entry : Visible}
    (hmem : interface ∈ definitions.interfaces)
    (h : entry ∈ Scope.ofInterface id interface.id) :
  definitions.Shows id entry
  := by
  have hentries := mem_entries_interface hmem
  obtain rfl | rfl := List.mem_pair.mp h
  · exact ⟨rfl, hentries.1, nofun⟩
  · exact ⟨rfl, hentries.2, nofun⟩

theorem shows_union {id : ModuleId} {union : Union} {entry : Visible}
    (hmem : union ∈ definitions.unions)
    (h : entry ∈ Scope.ofUnion id union.id (union.options.map (·.name))) :
  definitions.Shows id entry
  := by
  have hentries := mem_entries_union hmem
  obtain h | h := List.mem_append.mp h
  · obtain ⟨_, hname, rfl⟩ := List.mem_map.mp h
    obtain ⟨option, hoption, rfl⟩ := List.mem_map.mp hname
    exact ⟨rfl, hentries.1 option hoption, nofun⟩
  · obtain rfl := List.mem_singleton.mp h
    exact ⟨rfl, hentries.2, nofun⟩

end Entries

/-- The functions that definitions of the module with an id bring along. -/
def Definitions.callables (definitions : Definitions) (id : ModuleId) : List Visible :=
  definitions.functions.map (fun f => Scope.visible id .function f.id)
    ++ definitions.structs.map (fun s => Scope.visible id .struct s.id)
    ++ definitions.interfaces.flatMap (fun i => Scope.ofInterface id i.id)
    ++ definitions.unions.flatMap fun u => Scope.ofUnion id u.id (u.options.map (·.name))

theorem shows_of_mem_callables {definitions : Definitions} {id : ModuleId} {entry : Visible}
    (h : entry ∈ definitions.callables id) :
  definitions.Shows id entry
  := by
  simp only [Definitions.callables, List.mem_append, List.mem_map, List.mem_flatMap] at h
  obtain ((⟨f, hf, rfl⟩ | ⟨s, hs, rfl⟩) | ⟨i, hi, h⟩) | ⟨u, hu, h⟩ := h
  · exact ⟨rfl, mem_entries_function hf, nofun⟩
  · exact ⟨rfl, mem_entries_struct hs, nofun⟩
  · exact shows_interface hi h
  · exact shows_union hu h

/-- A module declares the functions that it exports. -/
theorem exportedFunctions_sublist (module : Module) :
  (Scope.exportedFunctions module).Sublist (module.definitions.callables module.id)
  := by
  simp only [Scope.exportedFunctions, Definitions.callables, Module.definitions, List.map_map]
  exact (((List.filter_sublist.map _).append (List.filter_sublist.map _)).append
    (List.filter_sublist.flatMap _)).append (List.filter_sublist.flatMap _)

/-- Headers that pass bring along the functions that the context declares. -/
theorem Headers.Pass.declaredFunctions_eq {setting : Setting} {context : Context}
    {headers : Headers} (h : headers.Pass setting context) (id : ModuleId) :
  Scope.declaredFunctions id context = headers.definitions.callables id
  := by
  have hfunctions := map_eq_map_of_related h.functions fun declared header hp =>
    congrArg (Scope.visible id .function) (id_of_checkFunctionHeader hp).symm
  have hstructs := map_eq_map_of_related h.structs fun declared header hp =>
    congrArg (Scope.visible id .struct) (id_of_checkStructHeader hp).symm
  have hinterfaces : context.interfaces.flatMap (fun i => Scope.ofInterface id i.id)
      = headers.interfaces.flatMap fun i => Scope.ofInterface id i.id := by
    apply flatMap_eq_flatMap_of_related h.interfaces
    intro declared interface hp
    obtain ⟨-, -, _, -, rfl⟩ := passes_checkInterface.mp hp
    rfl
  have hunions : context.unions.flatMap
        (fun u => Scope.ofUnion id u.id (u.options.map (·.name)))
      = headers.unions.flatMap fun u => Scope.ofUnion id u.id (u.options.map (·.name)) := by
    apply flatMap_eq_flatMap_of_related h.unions
    intro declared union hp
    obtain ⟨-, -, -, options, hoptions, rfl⟩ := passes_checkUnion.mp hp
    have hnames : declared.options.map (·.name) = options.map (·.name) :=
      map_eq_map_of_related hoptions fun _ _ ho => (passes_checkOption.mp ho).2.2
    rw [hnames]
  rw [Scope.declaredFunctions, hfunctions, hstructs, hinterfaces, hunions]
  simp [Definitions.callables, Headers.definitions, Function.comp_def, FunctionHeader.signature]

theorem mem_declared_of_unique {module : ModuleId} {context : Context}
    {duplicates : List EntityId} {entry : Visible}
    (h : entry ∈ Scope.declaredFunctions module (Scope.unique context duplicates)) :
  entry ∈ Scope.declaredFunctions module context
  := by
  simp only [Scope.declaredFunctions, Scope.unique, List.mem_append, List.mem_map,
    List.mem_flatMap, List.mem_filter] at h ⊢
  obtain ((⟨f, ⟨hf, -⟩, h⟩ | ⟨s, ⟨hs, -⟩, h⟩) | ⟨i, ⟨hi, -⟩, h⟩) | ⟨u, ⟨hu, -⟩, h⟩ := h
  · exact .inl (.inl (.inl ⟨f, hf, h⟩))
  · exact .inl (.inl (.inr ⟨s, hs, h⟩))
  · exact .inl (.inr ⟨i, hi, h⟩)
  · exact .inr ⟨u, hu, h⟩

section Checked

variable {number : Nat} {context : Context} {name : ModuleName} {dependencies : List Module}
  {module : Module}

/-- A checked module declares the functions that its context declares. -/
theorem Checked.shows (h : Checked number context name dependencies module) {entry : Visible}
    (hentry : entry ∈ Scope.declaredFunctions module.id context) :
  module.definitions.Shows module.id entry
  := by
  rw [h.pass.declaredFunctions_eq, definitions_headers] at hentry
  exact shows_of_mem_callables hentry

/-- Whatever a checked module sees as a function is declared. -/
theorem Checked.declares (h : Checked number context name dependencies module)
    (haccepted : Accepted module) (hdependencies : ∀ d ∈ dependencies, Accepted d)
    {reference : Reference} {entry : Visible}
    (hresolves : (context.surroundings dependencies module).resolves reference entry) :
  module.library.Declares entry
  := by
  have hcandidates := (resolve_eq_ok.mp hresolves).2
  have hentry : entry ∈ (Scope.ofModule module.id context context.duplicateIds
      dependencies).entries .function :=
    (List.mem_filter.mp (hcandidates ▸ List.mem_singleton.mpr rfl)).1
  simp only [Scope.entries, Scope.ofModule, List.mem_append, List.mem_flatMap] at hentry
  obtain (hnative | ⟨dependency, hdependency, hexported⟩) | hown := hentry
  · simp only [Scope.nativeFunctions, List.mem_append, List.mem_map] at hnative
    obtain ⟨_, -, rfl⟩ | ⟨_, -, rfl⟩ := hnative
    · exact .native rfl (.inl rfl)
    · exact .native rfl (.inr rfl)
  · obtain ⟨hid, hmem, hkind⟩ := shows_of_mem_callables
      ((exportedFunctions_sublist dependency).subset hexported)
    have hd := hdependencies dependency hdependency
    have hfound : ∃ n, (n = module ∨ n ∈ module.reachable) ∧ n.id = dependency.id := by
      rw [h.reachable_eq]
      obtain ⟨n, hn, hnid⟩ := mem_ids_reachableFrom.mpr ⟨dependency, hdependency, .inl rfl⟩
      exact ⟨n, .inr hn, hnid⟩
    exact .definitions (hid ▸ hd.not_native)
      (hid ▸ definitionsOf?_of_found haccepted hd hfound) hmem hkind
  · obtain ⟨hid, hmem, hkind⟩ := h.shows (mem_declared_of_unique hown)
    exact .definitions (hid ▸ haccepted.not_native)
      (hid ▸ definitionsOf?_self haccepted.not_native) hmem hkind

end Checked

/-! ### Dispatch -/

/-- Declared entities with a signature are reached as what they are declared as. -/
theorem exists_callee?_of_declares {program : Program} (haccepted : Accepted program.module)
    {entry : Visible} (hdeclares : program.module.library.Declares entry) {signature : Signature}
    (h : program.module.library.signature? entry = some signature) :
  ∃ callee, program.callee? entry.entity = some callee ∧ callee.kind = entry.kind
    ∧ callee.signature = signature
  := by
  obtain ⟨definitions, hd, hsignature⟩ := Option.bind_eq_some_iff.mp h
  cases hdeclares with
  | native hmodule hkind =>
    have hnative : entry.entity.module.isNative = true := by simp [hmodule, ModuleId.isNative]
    rw [Program.callee?, if_pos hnative]
    rw [Module.library, Module.definitionsOf?, if_pos hnative] at hd
    cases hd
    exact exists_nativeCallee? hkind hsignature
  | definitions hnative hd' hentry hkind =>
    rw [hd, Option.some.injEq] at hd'
    subst hd'
    have hdistinct := (haccepted.formed _ _ hd).distinct
    rw [Module.library, Module.definitionsOf?, hnative, if_neg Bool.false_ne_true] at hd
    obtain ⟨module, hmodule, rfl⟩ := Option.map_eq_some_iff.mp hd
    rw [Program.callee?, hnative, if_neg Bool.false_ne_true, hmodule, Option.bind_some]
    exact exists_callee? hdistinct hentry hsignature hkind

/-- Whether a node calls or binds an entity under a reference, with a number of slots for its
arguments. -/
inductive Node.Mentions : Node → Reference → Entity → Nat → Prop
  | call (reference : Reference) (entity : Entity) (args : List Expr) (chosen : List Ty) :
    Mentions (.call reference entity args chosen) reference entity args.length
  | bind (reference : Reference) (entity : Entity) (slots : List (Option Expr))
      (chosen : List (Option Ty)) :
    Mentions (.bind reference entity slots chosen) reference entity slots.length

/-- What a well typed node mentions has a signature, with one argument for each slot. -/
theorem Node.Mentions.signature {node : Node} {reference : Reference} {entity : Entity} {n : Nat}
    (h : node.Mentions reference entity n) {around : Surroundings} {vars : Variables} {type : Ty}
    (htyped : node.Typed around vars type) :
  ∃ entry signature, around.resolves reference entry ∧ entry.entity = entity
    ∧ around.library.signature? entry = some signature ∧ signature.args.length = n
  := by
  cases h with
  | call args chosen =>
    obtain ⟨-, entry, signature, hresolves, hentity, hsignature, hcalls⟩ := htyped
    refine ⟨entry, signature, hresolves, hentity, hsignature, ?_⟩
    have hlength := congrArg List.length (Ty.sameAll_iff.mp hcalls.args)
    simpa [Signature.functionType] using hlength.symm
  | bind slots chosen =>
    obtain ⟨-, entry, signature, hresolves, hentity, hsignature, hbinds⟩ := htyped
    refine ⟨entry, signature, hresolves, hentity, hsignature, ?_⟩
    have hlength := hbinds.slots.length_eq
    simpa [Signature.functionType] using hlength.symm

/-- Every reference to a function in an accepted module, or in one that it reaches, is linked.
The interpreter of the module reaches what the check found under the reference, with the
signature that the check used and one argument for each slot.  There it enters an evaluation of
what is reached, whatever as many arguments are; a case distinction has to be given a value of
its union first. -/
theorem linked {program : Program} (hprogram : Accepted program.module)
    (hplain : ∀ entity, program.override? entity = none) {number : Nat} {context : Context}
    {name : ModuleName} {dependencies : List Module} {config : SinkConfig} {module : Module}
    {warnings : List Diagnostic} (hdependencies : ∀ d ∈ dependencies, Accepted d)
    (hvalidate : validate number context name dependencies config = .success module warnings)
    (hmodule : module = program.module ∨ module ∈ program.module.reachable) {part : Expr}
    (hpart : part ∈ module.parts) {reference : Reference} {entity : Entity} {n : Nat}
    (hmentions : part.node.Mentions reference entity n) :
  ∃ entry signature callee,
    (Setting.ofBodies number context dependencies module).scope.resolve .function reference
        = .ok entry
      ∧ entry.entity = entity
      ∧ (Setting.ofBodies number context dependencies module).signature? entry = some signature
      ∧ program.callee? entity = some callee ∧ callee.kind = entry.kind
      ∧ callee.signature = signature ∧ signature.args.length = n
      ∧ ∀ (fuel : Nat) (args : List Value), args.length = n →
        (∀ union, callee = .when union → ∃ owner index payload handlers,
          args = .union owner index payload :: handlers ∧ index < union.options.length) →
        ∃ run, callee.Enters (program.answer fuel) fuel args run
          ∧ program.evaluate (fuel + 1) entity args = .inFrame entity run
  := by
  have haccepted : Accepted module := .intro hdependencies hvalidate
  have hchecked := checked_of_passes (passes_of_validate hvalidate)
  obtain ⟨visible, htyped⟩ := (hchecked.typed haccepted).parts hpart
  obtain ⟨entry, signature, hresolves, rfl, hsignature, hlength⟩ :
      ∃ entry signature, (context.surroundings dependencies module).resolves reference entry
        ∧ entry.entity = entity ∧ module.library.signature? entry = some signature
        ∧ signature.args.length = n := by
    cases part with
    | mk type aliasing node => exact hmentions.signature htyped.2
  have hextends : program.module.library.Extends module.library :=
    fun _ _ hd => definitionsOf?_of_mem hprogram hmodule hd
  have hdeclares := (hchecked.declares haccepted hdependencies hresolves).extend hextends
  obtain ⟨definitions, hd, hfound⟩ := Option.bind_eq_some_iff.mp hsignature
  have hsignature' : program.module.library.signature? entry = some signature := by
    rw [Library.signature?, hextends _ _ hd, Option.bind_some, hfound]
  obtain ⟨callee, hcallee, hkind, rfl⟩ := exists_callee?_of_declares hprogram hdeclares hsignature'
  refine ⟨entry, _, callee, hresolves, rfl, ?_, hcallee, hkind, rfl, hlength, ?_⟩
  · rw [Setting.signature?, hchecked.definitions?_ofBodies]
    exact hsignature
  · intro fuel args hargs hwhen
    exact ⟨_, enters_evalEntity hplain hcallee (hargs.trans hlength.symm) hwhen, rfl⟩

/-- The body of `double` mentions `Integer.plus`. -/
theorem exists_plus :
  ∃ (module : Module) (warnings : List Diagnostic) (part : Expr) (entity : Entity),
    validate 0 pickContext ⟨"example", "pick"⟩ [] {} = .success module warnings
      ∧ part ∈ module.parts
      ∧ part.node.Mentions ⟨none, ⟨["Integer", "plus"]⟩⟩ entity 2
  := by
  have hcalls : (validate 0 pickContext ⟨"example", "pick"⟩ [] {}).module?.any
      (fun module => module.parts.any fun part =>
        match part.node with
        | .call reference _ args _ =>
          reference == ⟨none, ⟨["Integer", "plus"]⟩⟩ && args.length == 2
        | _ => false) = true := by
    decide +kernel
  obtain ⟨module, warnings, h, hpart⟩ := Verdict.exists_success hcalls
  obtain ⟨part, hpart, hnode⟩ := List.any_eq_true.mp hpart
  split at hnode
  next reference entity args chosen e =>
    simp only [Bool.and_eq_true, beq_iff_eq] at hnode
    refine ⟨module, warnings, part, entity, h, hpart, ?_⟩
    rw [e, ← hnode.1, ← hnode.2]
    exact .call _ _ _ _
  next => cases hnode

/-- The reference to `Integer.plus` in the body of `double`. -/
theorem linked_plus :
  ∃ (module : Module) (part : Expr) (entity : Entity) (callee : Callee),
    Accepted module ∧ part ∈ module.parts
      ∧ part.node.Mentions ⟨none, ⟨["Integer", "plus"]⟩⟩ entity 2
      ∧ Program.callee? { module := module } entity = some callee
      ∧ callee.signature.args.length = 2
  := by
  obtain ⟨module, warnings, part, entity, h, hpart, hmentions⟩ := exists_plus
  have haccepted := Accepted.alone h
  have hplain : ∀ entity, Program.override? { module := module } entity = none := fun _ => rfl
  obtain ⟨-, signature, callee, -, -, -, hcallee, -, rfl, hlength, -⟩ :=
    linked haccepted hplain (by simp) h (.inl rfl) hpart hmentions
  exact ⟨module, part, entity, callee, haccepted, hpart, hmentions, hcallee, hlength⟩

end TypedModules
