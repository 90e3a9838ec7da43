/-!
# Locations

A range of positions in a named document.
-/

namespace TypedModules

/-- The positions from `start` up to, but not including, `stop`. -/
structure Span where
  start : Nat
  stop : Nat
deriving DecidableEq, Inhabited

namespace Span

/-- The span of what no document holds. -/
def dummy : Span := ⟨0, 0⟩

/-- The two ends, with two dots between them. -/
def text (span : Span) : String :=
  toString span.start ++ ".." ++ toString span.stop

end Span

/-- A span of a named document. -/
structure Location where
  document : String
  span : Span
deriving DecidableEq, Inhabited

/-- The document, a colon, the span. -/
def Location.text (location : Location) : String :=
  location.document ++ ":" ++ location.span.text

instance : ToString Location := ⟨Location.text⟩

end TypedModules
