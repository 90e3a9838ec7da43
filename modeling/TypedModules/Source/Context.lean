import TypedModules.Source.Tree

/-!
# Contexts

Everything that one module declares, as it is written, and the ids that its declarations
claim.
-/

namespace TypedModules

/-- A value of an annotation: a literal or a list of values. -/
inductive AnnotationValue where
  | literal (text : String)
  | list (values : List AnnotationValue)
deriving Inhabited

/-- The text of a value that is a literal. -/
def AnnotationValue.literal? : AnnotationValue → Option String
  | literal text => some text
  | list _ => none

/-- An annotation on a declaration. -/
structure Annotation where
  name : EntityId
  values : List AnnotationValue
deriving Inhabited

namespace Annotation

/-- Whether the annotation makes its declaration visible to other modules. -/
def isExport (mark : Annotation) : Bool :=
  mark.name.single? == some "Export"

/-- Whether the annotation holds a test case. -/
def isTest (mark : Annotation) : Bool :=
  mark.name.single? == some "Test"

end Annotation

/-- A function as it is written. -/
structure SourceFunction where
  id : EntityId
  typeParams : List TypeParam
  args : List SourceArg
  output : SourceTy
  body : SourceBlock
  annotations : List Annotation
  location : Option Location

/-- A member of a struct as it is written. -/
structure SourceMember where
  name : String
  type : SourceTy

/-- A struct as it is written; the `requires` block restricts its values. -/
structure SourceStruct where
  id : EntityId
  typeParams : List TypeParam
  members : List SourceMember
  requires : Option SourceBlock
  annotations : List Annotation
  location : Option Location

/-- A method of an interface as it is written. -/
structure SourceMethod where
  name : String
  typeParams : List TypeParam
  args : List SourceArg
  output : SourceTy

/-- An interface as it is written. -/
structure SourceInterface where
  id : EntityId
  typeParams : List TypeParam
  methods : List SourceMethod
  annotations : List Annotation
  location : Option Location

/-- An option of a union as it is written. -/
structure SourceOption where
  name : String
  type : Option SourceTy
  location : Option Location

/-- A union as it is written. -/
structure SourceUnion where
  id : EntityId
  typeParams : List TypeParam
  options : List SourceOption
  annotations : List Annotation
  location : Option Location

/-- The declarations of one module. -/
structure Context where
  functions : List SourceFunction := []
  structs : List SourceStruct := []
  interfaces : List SourceInterface := []
  unions : List SourceUnion := []

/-- The id of the adapter that an interface brings along. -/
def EntityId.adapter (id : EntityId) : EntityId :=
  id.child "Adapter"

/-- The id of the case distinction that a union brings along. -/
def EntityId.whenId (id : EntityId) : EntityId :=
  id.child "when"

/-- An id that a declaration claims, and where. -/
structure Claim where
  id : EntityId
  location : Option Location

namespace Context

/-- Every id that a declaration claims, in the order in which the context lists its
declarations: its own, an interface's adapter, a union's options and case distinction. -/
def claims (context : Context) : List Claim :=
  context.functions.map (fun f => ⟨f.id, f.location⟩)
    ++ context.structs.map (fun s => ⟨s.id, s.location⟩)
    ++ context.interfaces.flatMap (fun i => [⟨i.id, i.location⟩, ⟨i.id.adapter, i.location⟩])
    ++ context.unions.flatMap (fun u =>
      ⟨u.id, u.location⟩ :: u.options.map (fun o => ⟨u.id.child o.name, o.location⟩)
        ++ [⟨u.id.whenId, u.location⟩])

/-- The places that claim an id, in order. -/
def sites (context : Context) (id : EntityId) : List (Option Location) :=
  (context.claims.filter (·.id == id)).map (·.location)

/-- The ids claimed more than once, in the order of their first claims. -/
def duplicateIds (context : Context) : List EntityId :=
  (context.claims.map (·.id)).eraseDups.filter fun id => 1 < (context.sites id).length

end Context
end TypedModules
