import TwigRelations.Format.Template
import TwigRelations.Snapshot

/-!
# Controller actions in JSON

How actions and the coordinates of actions are written and read.
-/

namespace TwigRelations

open Json

/-- What is known of an action while it is read. -/
structure Action.Draft where
  id : Option String
  path : Option (Option Path)
  span : Option (Option Span)

namespace Action

/-- The members of an action as it is written. -/
def members (a : Action) : List (String × Value) :=
  [("id", .text a.id), ("path", .ofOption Path.toJson a.path),
    ("span", .ofOption Span.toJson a.span)]

/-- An action as it is written. -/
def toJson (a : Action) : Value := .object a.members

/-- The fields of an action. -/
def fields : Fields Draft
  | "id", t, d => some ((once d.id Tree.string t).map fun v => { d with id := v })
  | "path", t, d =>
    some ((once d.path (Tree.nullable Path.ofJson) t).map fun v => { d with path := v })
  | "span", t, d =>
    some ((once d.span (Tree.nullable Span.ofJson) t).map fun v => { d with span := v })
  | _, _, _ => none

/-- The action of the fields given. The path and the range may be left out. -/
def ofFields (d : Draft) : Except Fault Action :=
  return ⟨← required d.id, d.path.getD none, d.span.getD none⟩

/-- Reads an action. -/
def ofJson : Decoder Action :=
  record fields ⟨none, none, none⟩ ofFields
    (fun ending => return ⟨← Row.field ending Tree.string,
      ← Row.fieldOr ending (Tree.nullable Path.ofJson) none,
      ← Row.fieldOr ending (Tree.nullable Span.ofJson) none⟩)

end Action

/-- What is known of an action's coordinates while they are read. -/
structure ActionRef.Draft where
  bundle : Option (Option String)
  controller : Option String
  action : Option String

namespace ActionRef

/-- Coordinates as they are written. -/
def toJson (r : ActionRef) : Value :=
  .object [("bundle", .ofOption .text r.bundle), ("controller", .text r.controller),
    ("action", .text r.action)]

/-- The fields of coordinates. -/
def fields : Fields Draft
  | "bundle", t, d =>
    some ((once d.bundle (Tree.nullable Tree.string) t).map fun v => { d with bundle := v })
  | "controller", t, d =>
    some ((once d.controller Tree.string t).map fun v => { d with controller := v })
  | "action", t, d => some ((once d.action Tree.string t).map fun v => { d with action := v })
  | _, _, _ => none

/-- Reads coordinates. The bundle may be left out of an object. -/
def ofJson : Decoder ActionRef :=
  record fields ⟨none, none, none⟩
    (fun d => return ⟨d.bundle.getD none, ← required d.controller, ← required d.action⟩)
    (fun ending => return ⟨← Row.fieldOr ending (Tree.nullable Tree.string) none,
      ← Row.field ending Tree.string, ← Row.field ending Tree.string⟩)

end ActionRef

end TwigRelations
