import TwigRelations.Format.Controller
import TwigRelations.Relation

/-!
# Reports in JSON

How reports, groups and their items are written.
-/

namespace TwigRelations

open Json

/-- An include target as it is written. -/
def IncludeTarget.toJson : IncludeTarget → Value
  | .construct t c =>
    .object [("type", .text "construct"), ("template", t.toJson), ("construct", c.toJson)]
  | .file t => .object [("type", .text "file"), ("path", t.path.toJson)]

/-- What an item leads to, as it is written. -/
def RelatedTarget.toJson (t : RelatedTarget) : Value :=
  let (kind, value) :=
    match t with
    | .template t => ("template", t.toJson)
    | .block b => ("block", b.toJson)
    | .include target => ("include", target.toJson)
    | .controller a => ("controller", a.toJson)
  .object [("type", .text kind), ("value", value)]

/-- An item as it is written. -/
def RelatedItem.toJson (i : RelatedItem) : Value :=
  .object [("target", i.target.toJson), ("label", .ofOption .text i.label),
    ("inclusion_kind", .ofOption InclusionKind.toJson i.inclusionKind)]

/-- A group as it is written. -/
def RelatedGroup.toJson (g : RelatedGroup) : Value :=
  .object [("relation", .text g.relation.word), ("anchor", .ofOption Block.toJson g.anchor),
    ("items", .ofList RelatedItem.toJson g.items)]

/-- A block with its related blocks as it is written. -/
def BlockRelations.toJson (r : BlockRelations) : Value :=
  .object [("block", r.block.toJson), ("related", .ofList Block.toJson r.related)]

/-- A report as it is written. -/
def Report.toJson (r : Report) : Value :=
  .object [("document", r.document.toJson), ("names", .ofList LogicalName.toJson r.names),
    ("includers", .ofList Template.toJson r.includers),
    ("include_targets", .ofList IncludeTarget.toJson r.includeTargets),
    ("overwrites", .ofList Template.toJson r.overwrites),
    ("block_implementations", .ofList BlockRelations.toJson r.blockImplementations),
    ("block_overrides", .ofList BlockRelations.toJson r.blockOverrides),
    ("controller_usages", .ofList Action.toJson r.controllerUsages),
    ("groups", .ofList RelatedGroup.toJson r.groups)]

end TwigRelations
