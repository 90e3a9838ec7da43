import TypedModules.Diagnostic.Code
import TypedModules.Location
import TypedModules.Text.Segments

/-!
# Diagnostics

One reported problem: its code, a message, labelled locations and notes.  A label is kept
only where there is a location to label, so that the message alone has to identify the
problem.
-/

namespace TypedModules

/-- How serious a problem is. -/
inductive Severity where
  | error
  | warning
deriving DecidableEq, Inhabited

/-- The word for a severity. -/
def Severity.text : Severity → String
  | error => "error"
  | warning => "warning"

/-- A location with a remark; the primary one is where the problem is. -/
structure Label where
  location : Location
  message : String
  isPrimary : Bool
deriving DecidableEq, Inhabited

/-- One reported problem. -/
structure Diagnostic where
  code : Code
  severity : Severity
  message : String
  labels : List Label
  notes : List String
deriving DecidableEq, Inhabited

namespace Diagnostic

/-- An error with a message and no location. -/
def error (code : Code) (message : String) : Diagnostic :=
  ⟨code, .error, message, [], []⟩

/-- A warning with a message and no location. -/
def warning (code : Code) (message : String) : Diagnostic :=
  ⟨code, .warning, message, [], []⟩

/-- The diagnostic with one more label, if there is a location to label. -/
def withLabel (diagnostic : Diagnostic) (location : Option Location) (message : String)
    (isPrimary : Bool) : Diagnostic :=
  { diagnostic with labels :=
      diagnostic.labels ++ (location.map fun l => Label.mk l message isPrimary).toList }

/-- The diagnostic with one more primary label, if there is a location to label. -/
def labelled (diagnostic : Diagnostic) (location : Option Location) (message : String) :
    Diagnostic :=
  diagnostic.withLabel location message true

/-- The diagnostic with one more note. -/
def withNote (diagnostic : Diagnostic) (note : String) : Diagnostic :=
  { diagnostic with notes := diagnostic.notes ++ [note] }

/-- Whether the diagnostic is an error. -/
def isError (diagnostic : Diagnostic) : Bool :=
  diagnostic.severity == .error

/-- The location of the first primary label. -/
def location? (diagnostic : Diagnostic) : Option Location :=
  (diagnostic.labels.find? (·.isPrimary)).map (·.location)

/-- The line that shows a label. -/
def labelText (label : Label) : String :=
  let marker := if label.isPrimary then "-->" else "   "
  "\n  " ++ marker ++ " " ++ label.location.text ++ ": " ++ label.message

/-- The message with its severity and code, then a line for each label and each note. -/
def text (diagnostic : Diagnostic) : String :=
  diagnostic.severity.text ++ " [" ++ diagnostic.code.text ++ "]: " ++ diagnostic.message
    ++ String.join (diagnostic.labels.map labelText)
    ++ String.join (diagnostic.notes.map ("\n  = note: " ++ ·))

end Diagnostic
end TypedModules
