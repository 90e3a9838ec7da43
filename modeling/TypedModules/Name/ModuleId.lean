import TypedModules.Text.Segments

/-!
# Module ids

The group and name of a module, and the id that adds the version of its content.  Each
part of a name is one or more runs of ASCII letters and digits with a single `_`, `.` or
`-` between neighbouring runs.
-/

namespace TypedModules

/-- Whether `c` is an ASCII letter or digit. -/
def isNameChar (c : Char) : Bool :=
  c.isAlphanum

/-- Whether `c` may stand between two runs of a module name's part. -/
def isNameSeparator (c : Char) : Bool :=
  c == '_' || c == '.' || c == '-'

/-- Whether the characters continue a part of a module name; `fresh` tells that a run has
to start here. -/
def continuesNamePart (fresh : Bool) : List Char → Bool
  | [] => !fresh
  | c :: rest =>
    if isNameChar c then continuesNamePart false rest
    else isNameSeparator c && !fresh && continuesNamePart true rest

/-- Whether `part` may be the group or the name of a module. -/
def isNamePart (part : String) : Bool :=
  continuesNamePart true part.toList

/-- The group and name of a module. -/
structure ModuleName where
  group : String
  module : String
deriving DecidableEq, Ord, Inhabited

namespace ModuleName

/-- The text of a module name: its group, a colon, its own name. -/
def text (name : ModuleName) : String :=
  name.group ++ ":" ++ name.module

instance : ToString ModuleName := ⟨text⟩

end ModuleName

/-- A module name with the version of the module's content. -/
structure ModuleId where
  name : ModuleName
  version : String
deriving DecidableEq, Ord, Inhabited

namespace ModuleId

/-- The text of a module id: its name, a colon, its version. -/
def text (id : ModuleId) : String :=
  id.name.text ++ ":" ++ id.version

instance : ToString ModuleId := ⟨text⟩

/-- Whether `a` comes before or with `b` by group, name and version. -/
def le (a b : ModuleId) : Bool :=
  (compare a b).isLE

end ModuleId
end TypedModules
