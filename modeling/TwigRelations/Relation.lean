import TwigRelations.Namespace
import TwigRelations.Snapshot

/-!
# Related groups and reports

What a reader sees of a relationship: a group of items, each a place to go to with its label, under
a title. A group belongs to the document as a whole or to one of its blocks.
-/

namespace TwigRelations

/-- Where navigation from "included by" lands. -/
inductive IncludeTarget where
  /-- The construct inside the template that names the included one. -/
  | construct (template : Template) (construct : Construct)
  /-- The including file as a whole, where no construct matched. -/
  | file (template : Template)
  deriving DecidableEq

/-- The including template. -/
def IncludeTarget.template : IncludeTarget → Template
  | construct t _ => t
  | file t => t

/-- How a document and what is related to it are connected. -/
inductive RelationKind where
  | includes
  | overwrites
  | blockImplementations
  | blockOverrides
  | controllers
  deriving DecidableEq, Repr

namespace RelationKind

/-- The title of a group of several items. -/
def pluralTitle : RelationKind → String
  | includes => "Includes"
  | overwrites => "Overwrites"
  | blockImplementations => "Implementations"
  | blockOverrides => "Overwrites"
  | controllers => "Controllers"

/-- The word before the label of a single item. -/
def singularTitle : RelationKind → String
  | includes => "Include"
  | overwrites => "Overwrite"
  | blockImplementations => "Impl"
  | blockOverrides => "Overwrites"
  | controllers => "Controller"

/-- The word that stands for the relation in a report. -/
def word : RelationKind → String
  | includes => "includes"
  | overwrites => "overwrites"
  | blockImplementations => "block_implementations"
  | blockOverrides => "block_overrides"
  | controllers => "controllers"

/-- All relations. -/
def all : List RelationKind :=
  [includes, overwrites, blockImplementations, blockOverrides, controllers]

/-- The relation that a word stands for. -/
def ofWord? (s : String) : Option RelationKind := all.find? (·.word == s)

/-- A relation is read back from its word. -/
@[simp] theorem ofWord?_word (k : RelationKind) : ofWord? k.word = some k := by
  cases k <;> decide

end RelationKind

/-- What an item leads to. -/
inductive RelatedTarget where
  | template (t : Template)
  | block (b : Block)
  | include (target : IncludeTarget)
  | controller (a : Action)
  deriving DecidableEq

/-- One item of a group. -/
structure RelatedItem where
  /-- What the item leads to. -/
  target : RelatedTarget
  /-- The label of the item, if it has one. -/
  label : Option String
  /-- How the template is referred to, where the item is a construct. -/
  inclusionKind : Option InclusionKind
  deriving DecidableEq

namespace RelatedItem

/-- The item that leads to a template. -/
def ofTemplate (ns : Namespace) (root : Option Path) (t : Template) : RelatedItem :=
  ⟨.template t, some (TwigRelations.label ns root t), none⟩

/-- The item that leads to a block, labelled by its template. -/
def ofBlock (ns : Namespace) (root : Option Path) (b : Block) : RelatedItem :=
  ⟨.block b, some (TwigRelations.label ns root b.template), none⟩

/-- The item that leads to an including template. -/
def ofInclude (ns : Namespace) (root : Option Path) (target : IncludeTarget) : RelatedItem :=
  let kind := match target with
    | .construct _ c => some c.kind
    | .file _ => none
  ⟨.include target, some (TwigRelations.label ns root target.template), kind⟩

/-- The item that leads to an action, labelled by its id. -/
def ofAction (a : Action) : RelatedItem := ⟨.controller a, some a.id, none⟩

end RelatedItem

/-- The items of one relation, anchored at the document or at one of its blocks. -/
structure RelatedGroup where
  /-- The relation. -/
  relation : RelationKind
  /-- The block that the group belongs to, or none for the document as a whole. -/
  anchor : Option Block
  /-- What is related. -/
  items : List RelatedItem
  deriving DecidableEq

namespace RelatedGroup

/-- The title of a group. A single labelled item is named in it. -/
def title (g : RelatedGroup) : String :=
  match g.items with
  | [⟨_, some label, _⟩] => g.relation.singularTitle ++ ": " ++ label
  | _ => g.relation.pluralTitle

/-- Whether a group has exactly one item. -/
def isSingle (g : RelatedGroup) : Bool := g.items.length == 1

end RelatedGroup

/-! ## Reports

Everything that is known to be related to one document.
-/

/-- A block of a document together with the blocks it is related to. -/
structure BlockRelations where
  /-- The block of the document. -/
  block : Block
  /-- The blocks it is related to. -/
  related : List Block
  deriving DecidableEq

/-- The relationships of one document. -/
structure Report where
  /-- The document. -/
  document : Template
  /-- Its names, in display order. -/
  names : List LogicalName
  /-- The templates that refer to one of its names. -/
  includers : List Template
  /-- The places where they do. -/
  includeTargets : List IncludeTarget
  /-- The other templates under one of its names. -/
  overwrites : List Template
  /-- Its blocks that child templates implement. -/
  blockImplementations : List BlockRelations
  /-- Its blocks that override a block further up. -/
  blockOverrides : List BlockRelations
  /-- The actions that render it. -/
  controllerUsages : List Action
  /-- All of these as labelled groups. -/
  groups : List RelatedGroup
  deriving DecidableEq

/-- Whether nothing is related to the document. -/
def Report.isEmpty (r : Report) : Bool := r.groups.isEmpty

namespace RelatedGroup

/-- The group of the blocks related to one block. -/
def ofBlock (ns : Namespace) (root : Option Path) (kind : RelationKind) (r : BlockRelations) :
    RelatedGroup :=
  ⟨kind, some r.block, r.related.map (RelatedItem.ofBlock ns root)⟩

/-- The groups of the document's blocks, in block order: for each block its implementations, then
what it overrides. -/
def ofBlocks (ns : Namespace) (root : Option Path) (blocks : List Block)
    (implementations overrides : List BlockRelations) : List RelatedGroup :=
  blocks.flatMap fun b =>
    let group (kind : RelationKind) (relations : List BlockRelations) : List RelatedGroup :=
      ((relations.find? fun r => same r.block b).map (ofBlock ns root kind)).toList
    group .blockImplementations implementations ++ group .blockOverrides overrides

/-- The group of some items of the document as a whole, unless there is none. -/
def ofDocument (kind : RelationKind) (items : List RelatedItem) : List RelatedGroup :=
  if items.isEmpty then [] else [⟨kind, none, items⟩]

end RelatedGroup

end TwigRelations
