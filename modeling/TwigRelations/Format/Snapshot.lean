import TwigRelations.Format.Controller
import TwigRelations.Snapshot

/-!
# Snapshots in JSON

How snapshots and their records are written and read. A controller record has the fields of its
action side by side with its own; these are read as they come, while everything else in the record
is kept until its end, and the action is made out of what was kept.
-/

namespace TwigRelations

open Json

/-- What is known of a block record while it is read. -/
structure BlockRecord.Draft where
  name : Option String
  span : Option Span

namespace BlockRecord

/-- A block record as it is written. -/
def toJson (b : BlockRecord) : Value := .object [("name", .text b.name), ("span", b.span.toJson)]

/-- The fields of a block record. -/
def fields : Fields Draft
  | "name", t, d => some ((once d.name Tree.string t).map fun v => { d with name := v })
  | "span", t, d => some ((once d.span Span.ofJson t).map fun v => { d with span := v })
  | _, _, _ => none

/-- Reads a block record. The range may be left out. -/
def ofJson : Decoder BlockRecord :=
  record fields ⟨none, none⟩
    (fun d => return ⟨← required d.name, d.span.getD .zero⟩)
    (fun ending => return ⟨← Row.field ending Tree.string,
      ← Row.fieldOr ending Span.ofJson .zero⟩)

end BlockRecord

/-- What is known of a template record while it is read. -/
structure TemplateRecord.Draft where
  path : Option Path
  names : Option (List LogicalName)
  inclusions : Option (List Inclusion)
  blocks : Option (List BlockRecord)

namespace TemplateRecord

/-- A template record as it is written. -/
def toJson (r : TemplateRecord) : Value :=
  .object [("path", r.path.toJson), ("names", .ofList LogicalName.toJson r.names),
    ("inclusions", .ofList Inclusion.toJson r.inclusions),
    ("blocks", .ofList BlockRecord.toJson r.blocks)]

/-- The fields of a template record. -/
def fields : Fields Draft
  | "path", t, d => some ((once d.path Path.ofJson t).map fun v => { d with path := v })
  | "names", t, d =>
    some ((once d.names (Tree.items LogicalName.ofJson) t).map fun v => { d with names := v })
  | "inclusions", t, d =>
    some ((once d.inclusions (Tree.items Inclusion.ofJson) t).map fun v =>
      { d with inclusions := v })
  | "blocks", t, d =>
    some ((once d.blocks (Tree.items BlockRecord.ofJson) t).map fun v => { d with blocks := v })
  | _, _, _ => none

/-- Reads a template record. Everything but the path may be left out. -/
def ofJson : Decoder TemplateRecord :=
  record fields ⟨none, none, none, none⟩
    (fun d => return ⟨← required d.path, d.names.getD [], d.inclusions.getD [], d.blocks.getD []⟩)
    (fun ending => return ⟨← Row.field ending Path.ofJson,
      ← Row.fieldOr ending (Tree.items LogicalName.ofJson) [],
      ← Row.fieldOr ending (Tree.items Inclusion.ofJson) [],
      ← Row.fieldOr ending (Tree.items BlockRecord.ofJson) []⟩)

end TemplateRecord

/-- What is known of a controller record while it is read. -/
structure ControllerRecord.Draft where
  renders : Option (List LogicalName)
  route : Option (Option ActionRef)
  /-- The members that are not the record's own, in order. -/
  kept : List (Tree × Tree)

namespace ControllerRecord

/-- A controller record as it is written. -/
def toJson (r : ControllerRecord) : Value :=
  .object (r.action.members ++ [("renders", .ofList LogicalName.toJson r.renders),
    ("route", .ofOption ActionRef.toJson r.route)])

/-- A member of a controller record: one of its own fields, or one to be kept, which must leave room
for a number of lists inside each other. -/
def readMember (room : Nat) (key value : Tree) (d : Draft) : Except Fault Draft := do
  match ← key.keyName with
  | "renders" => return { d with renders := ← once d.renders (Tree.items LogicalName.ofJson) value }
  | "route" => return { d with route := ← once d.route (Tree.nullable ActionRef.ofJson) value }
  | _ => do
    value.check room
    return { d with kept := d.kept ++ [(key, value)] }

/-- The record of the members given. -/
def ofDraft (d : Draft) : Except Fault ControllerRecord := do
  let action ← ((readMembers Action.fields d.kept ⟨none, none, none⟩).bind
    Action.ofFields).mapError fun _ => .mismatch
  return ⟨action, d.renders.getD [], d.route.getD none⟩

/-- Reads a controller record, which must be an object, with room for a number of lists inside
it. -/
def ofJson (room : Nat) : Decoder ControllerRecord
  | .object members ending => do
    let d ← members.foldlM (fun d (key, value) => readMember room key value d) ⟨none, none, []⟩
    ending.check
    ofDraft d
  | t => .error t.wrongKind

end ControllerRecord

/-- How many lists inside each other a text may have. -/
def maxNesting : Nat := 127

/-- What is known of a snapshot while it is read. -/
structure Snapshot.Draft where
  templates : Option (List TemplateRecord)
  controllers : Option (List ControllerRecord)

namespace Snapshot

/-- A snapshot as it is written. -/
def toJson (s : Snapshot) : Value :=
  .object [("templates", .ofList TemplateRecord.toJson s.templates),
    ("controllers", .ofList ControllerRecord.toJson s.controllers)]

/-- Reads a controller record inside the list of controllers of a snapshot. -/
def controller : Decoder ControllerRecord := ControllerRecord.ofJson (maxNesting - 3)

/-- The fields of a snapshot. -/
def fields : Fields Draft
  | "templates", t, d =>
    some ((once d.templates (Tree.items TemplateRecord.ofJson) t).map fun v =>
      { d with templates := v })
  | "controllers", t, d =>
    some ((once d.controllers (Tree.items controller) t).map fun v => { d with controllers := v })
  | _, _, _ => none

/-- Reads a snapshot. -/
def ofJson : Decoder Snapshot :=
  record fields ⟨none, none⟩
    (fun d => return ⟨d.templates.getD [], d.controllers.getD []⟩)
    (fun ending => return ⟨← Row.fieldOr ending (Tree.items TemplateRecord.ofJson) [],
      ← Row.fieldOr ending (Tree.items controller) []⟩)

/-- Reads the text of a snapshot. -/
def ofText (s : String) : Except Fault Snapshot := readText ofJson s

/-- The text of a snapshot. -/
def toText (s : Snapshot) : String := s.toJson.compact

end Snapshot

end TwigRelations
