import TypedModules.Text.Segments

/-!
# Entity ids

The dotted name of a declaration inside a module, such as `List.get`.  An id read from
trusted text may have empty segments; `EntityId.ofSegments?` and `EntityId.parse?` refuse
them.
-/

namespace TypedModules

/-- The dotted name of a declaration inside its module. -/
structure EntityId where
  segments : List String
deriving DecidableEq, Ord, Inhabited

namespace EntityId

/-- The id that trusted dotted text writes. -/
def ofText (dotted : String) : EntityId :=
  ⟨Text.split '.' dotted⟩

/-- The dotted text of an id. -/
def text (id : EntityId) : String :=
  Text.join "." id.segments

instance : ToString EntityId := ⟨text⟩

/-- The id with the given segments, if there is one and none is empty. -/
def ofSegments? (segments : List String) : Option EntityId :=
  if segments.isEmpty || segments.any String.isEmpty then none else some ⟨segments⟩

/-- The id that dotted text writes, if no segment is empty. -/
def parse? (dotted : String) : Option EntityId :=
  ofSegments? (Text.split '.' dotted)

/-- The only segment of an unqualified id. -/
def single? (id : EntityId) : Option String :=
  match id.segments with
  | [only] => some only
  | _ => none

/-- The id with one more segment at its end. -/
def child (id : EntityId) (name : String) : EntityId :=
  ⟨id.segments ++ [name]⟩

/-- The id without its last segment, if another segment is left. -/
def parent? (id : EntityId) : Option EntityId :=
  match id.segments.dropLast with
  | [] => none
  | rest => some ⟨rest⟩

/-- The last segment, empty for the id without segments. -/
def last (id : EntityId) : String :=
  id.segments.getLastD ""

/-- Whether `a` comes before or with `b` in the order of ids, by segments. -/
def le (a b : EntityId) : Bool :=
  (compare a b).isLE

/-- The ids in order. -/
def sort (ids : List EntityId) : List EntityId :=
  ids.mergeSort le

@[simp]
theorem last_child (id : EntityId) (name : String) :
  (id.child name).last = name
  := by
  simp [child, last]

/-- Taking the parent undoes `child` on an id with segments. -/
theorem parent?_child {id : EntityId} (name : String) (h : id.segments ≠ []) :
  (id.child name).parent? = some id
  := by
  obtain ⟨segments⟩ := id
  cases segments with
  | nil => exact absurd rfl h
  | cons s rest =>
    have e : ((s :: rest) ++ [name]).dropLast = s :: rest := List.dropLast_concat
    simp only [child, parent?, e]

end EntityId
end TypedModules
