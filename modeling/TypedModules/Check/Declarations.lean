import TypedModules.Check.Basic

/-!
# Checking what is declared

Every id that declarations claim more than once is reported at each place that claims it,
and then left out of resolution; the headers of the other named types are known before any
declaration is checked.
-/

namespace TypedModules

/-- Reports each place that claims an id; the note keeps places without a location apart. -/
def reportSites (id : EntityId) (sites : List (Option Location)) : Check Unit :=
  (sites.zipIdx 1).forM fun (site, index) =>
    .emit (((Diagnostic.error .duplicateId ("duplicate id '" ++ id.text ++ "'")).labelled site
      "declared here").withNote
        ("declaration " ++ toString index ++ " of " ++ toString sites.length ++ " for '"
          ++ id.text ++ "'"))

/-- Reports every id that is claimed more than once. -/
def checkDeclarations (context : Context) : Check Unit :=
  context.duplicateIds.forM fun id =>
    reportSites id (context.sites id)

/-- The type parameters of the adapter of an interface. -/
def adapterParamsOf (typeParams : List TypeParam) : List TypeParam :=
  ⟨unusedName "A" typeParams, none⟩ :: typeParams

/-- The headers of the named types that a context declares. -/
def Context.typeHeaders (context : Context) : List (EntityId × TypeHeader) :=
  context.structs.map (fun s => (s.id, ⟨s.typeParams, false⟩))
    ++ context.interfaces.flatMap (fun i =>
      [(i.id, ⟨i.typeParams, false⟩), (i.id.adapter, ⟨adapterParamsOf i.typeParams, false⟩)])
    ++ context.unions.map (fun u => (u.id, ⟨u.typeParams, false⟩))

/-- The setting in which check number `number` checks the headers of a module's
declarations. -/
def Setting.ofModule (number : Nat) (module : ModuleId) (context : Context)
    (dependencies : List Module) : Setting where
  number := number
  module := module
  scope := .ofModule module context context.duplicateIds dependencies
  reachable := reachableFrom dependencies
  typeHeaders := context.typeHeaders.filter fun h => !context.duplicateIds.contains h.1
  own := {}
  typeParams := []

end TypedModules
