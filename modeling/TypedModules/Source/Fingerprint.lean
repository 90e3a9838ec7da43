import TypedModules.Source.Context

/-!
# Fingerprints of contexts

A context is written as one text.  Whatever is made of parts is the list of its parts, in
which each part stands after its length, so that no two contexts are written alike.  The
version of a module holds that text in hexadecimal and the ids of the modules it depends on,
between brackets that stand nowhere else in it.  Everything in the context counts, its
locations and the order of its declarations included; the name of the module does not.
-/

namespace TypedModules
namespace Fingerprint

/-- A text after its length. -/
def ofText (text : String) : String :=
  toString text.length ++ ":" ++ text

/-- Texts one after another, each after its length. -/
def ofList (texts : List String) : String :=
  String.join (texts.map ofText)

/-- A value that may be absent. -/
def ofOption : Option String → String
  | none => "-"
  | some text => "+" ++ text

/-- A truth value. -/
def ofBool (b : Bool) : String :=
  if b then "t" else "f"

/-- An id. -/
def ofId (id : EntityId) : String :=
  ofList id.segments

/-- A location, if there is one. -/
def ofLocation (location : Option Location) : String :=
  ofOption <| location.map fun l =>
    ofList [l.document, toString l.span.start, toString l.span.stop]

/-- The part of a reference that says which module is meant. -/
def ofQualifier (qualifier : Qualifier) : String :=
  ofList [ofOption qualifier.group, qualifier.module, ofOption qualifier.version]

/-- A reference. -/
def ofReference (reference : Reference) : String :=
  ofList [ofOption (reference.qualifier.map ofQualifier), ofId reference.id]

/-- A type parameter. -/
def ofTypeParam (param : TypeParam) : String :=
  ofList [param.name, ofOption (param.typeClass.map TypeClass.text)]

/-- Type parameters. -/
def ofTypeParams (params : List TypeParam) : String :=
  ofList (params.map ofTypeParam)

mutual

/-- A written type. -/
def ofTy : SourceTy → String
  | .integer => ofList ["I"]
  | .natural => ofList ["N"]
  | .boolean => ofList ["B"]
  | .list element => ofList ["L", ofTy element]
  | .tryOf inner => ofList ["T", ofTy inner]
  | .function isReference typeParams args output location =>
    ofList ["F", ofBool isReference, ofTypeParams typeParams, ofList (ofTys args), ofTy output,
      ofLocation location]
  | .named isReference reference params location =>
    ofList ["D", ofBool isReference, ofReference reference, ofList (ofTys params),
      ofLocation location]

/-- Written types. -/
def ofTys : List SourceTy → List String
  | [] => []
  | type :: rest => ofTy type :: ofTys rest

end

/-- A written argument. -/
def ofArg (arg : SourceArg) : String :=
  ofList [arg.name, ofTy arg.type, ofLocation arg.location]

/-- Written type arguments, some of them open. -/
def ofOpenTys (types : List (Option SourceTy)) : String :=
  ofList (types.map fun type => ofOption (type.map ofTy))

mutual

/-- A written expression. -/
def ofExpr : SourceExpr → String
  | .variable name location => ofList ["v", name, ofLocation location]
  | .literal type text location => ofList ["l", ofTy type, text, ofLocation location]
  | .list items element location =>
    ofList ["s", ofList (ofExprs items), ofTy element, ofLocation location]
  | .follow receiver member location =>
    ofList ["w", ofExpr receiver, member, ofLocation location]
  | .call function args chosen location =>
    ofList ["c", ofReference function, ofList (ofExprs args), ofList (ofTys chosen),
      ofLocation location]
  | .callValue function args chosen location =>
    ofList ["x", ofExpr function, ofList (ofExprs args), ofList (ofTys chosen),
      ofLocation location]
  | .bind function slots chosen location =>
    ofList ["b", ofReference function, ofList (ofSlots slots), ofOpenTys chosen,
      ofLocation location]
  | .bindValue function slots chosen location =>
    ofList ["y", ofExpr function, ofList (ofSlots slots), ofOpenTys chosen,
      ofLocation location]
  | .ifThen condition thenBlock elseBlock location =>
    ofList ["i", ofExpr condition, ofBlock thenBlock, ofBlock elseBlock, ofLocation location]
  | .closure args output body location =>
    ofList ["k", ofList (args.map ofArg), ofTy output, ofBlock body, ofLocation location]

/-- Written expressions. -/
def ofExprs : List SourceExpr → List String
  | [] => []
  | expr :: rest => ofExpr expr :: ofExprs rest

/-- Written expressions, some of them absent. -/
def ofSlots : List (Option SourceExpr) → List String
  | [] => []
  | none :: rest => ofOption none :: ofSlots rest
  | some expr :: rest => ofOption (some (ofExpr expr)) :: ofSlots rest

/-- A written statement. -/
def ofStmt : SourceStmt → String
  | .assign name type value location =>
    ofList ["a", name, ofOption (type.map ofTy), ofExpr value, ofLocation location]
  | .bare value => ofList ["e", ofExpr value]

/-- Written statements. -/
def ofStmts : List SourceStmt → List String
  | [] => []
  | statement :: rest => ofStmt statement :: ofStmts rest

/-- A written block. -/
def ofBlock : SourceBlock → String
  | .mk statements location => ofList [ofList (ofStmts statements), ofLocation location]

end

mutual

/-- A value of an annotation. -/
def ofAnnotationValue : AnnotationValue → String
  | .literal text => ofList ["l", text]
  | .list values => ofList ["s", ofList (ofAnnotationValues values)]

/-- Values of an annotation. -/
def ofAnnotationValues : List AnnotationValue → List String
  | [] => []
  | value :: rest => ofAnnotationValue value :: ofAnnotationValues rest

end

/-- An annotation. -/
def ofMark (mark : Annotation) : String :=
  ofList [ofId mark.name, ofList (ofAnnotationValues mark.values)]

/-- The annotations of a declaration. -/
def ofAnnotations (annotations : List Annotation) : String :=
  ofList (annotations.map ofMark)

/-- A written function. -/
def ofFunction (f : SourceFunction) : String :=
  ofList [ofId f.id, ofTypeParams f.typeParams, ofList (f.args.map ofArg), ofTy f.output,
    ofBlock f.body, ofAnnotations f.annotations, ofLocation f.location]

/-- A written member. -/
def ofMember (m : SourceMember) : String :=
  ofList [m.name, ofTy m.type]

/-- A written struct. -/
def ofStruct (s : SourceStruct) : String :=
  ofList [ofId s.id, ofTypeParams s.typeParams, ofList (s.members.map ofMember),
    ofOption (s.requires.map ofBlock), ofAnnotations s.annotations, ofLocation s.location]

/-- A written method. -/
def ofMethod (m : SourceMethod) : String :=
  ofList [m.name, ofTypeParams m.typeParams, ofList (m.args.map ofArg), ofTy m.output]

/-- A written interface. -/
def ofInterface (i : SourceInterface) : String :=
  ofList [ofId i.id, ofTypeParams i.typeParams, ofList (i.methods.map ofMethod),
    ofAnnotations i.annotations, ofLocation i.location]

/-- A written option. -/
def ofUnionOption (o : SourceOption) : String :=
  ofList [o.name, ofOption (o.type.map ofTy), ofLocation o.location]

/-- A written union. -/
def ofUnion (u : SourceUnion) : String :=
  ofList [ofId u.id, ofTypeParams u.typeParams, ofList (u.options.map ofUnionOption),
    ofAnnotations u.annotations, ofLocation u.location]

/-- A context. -/
def ofContext (context : Context) : String :=
  ofList [ofList (context.functions.map ofFunction), ofList (context.structs.map ofStruct),
    ofList (context.interfaces.map ofInterface), ofList (context.unions.map ofUnion)]

/-- The two hexadecimal digits of a byte. -/
def hexByte (byte : UInt8) : List Char :=
  [Nat.digitChar (byte.toNat / 16), Nat.digitChar (byte.toNat % 16)]

/-- A text in hexadecimal, two digits for each byte. -/
def hexText (text : String) : String :=
  String.ofList (text.toByteArray.data.toList.flatMap hexByte)

/-- A text between brackets. -/
def bracketed (text : String) : String :=
  "<" ++ text ++ ">"

/-- The text between brackets, which are the first and the last character. -/
def inside (text : String) : String :=
  String.ofList text.toList.tail.dropLast

/-- A module id whose version stands between brackets. -/
def ofModuleId (id : ModuleId) : String :=
  ofList [hexText id.name.group, hexText id.name.module, inside id.version]

end Fingerprint

/-- The version of a context that depends on the modules with the given ids: one text for
each content, whatever order the ids come in. -/
def Context.version (context : Context) (dependencies : List ModuleId) : String :=
  let sorted := dependencies.mergeSort ModuleId.le
  Fingerprint.bracketed (Fingerprint.ofList
    (Fingerprint.hexText (Fingerprint.ofContext context) :: sorted.map Fingerprint.ofModuleId))

end TypedModules
