import TwigRelations.Collection
import TwigRelations.Query
import TwigRelations.Snapshot

/-!
# Corpora

A corpus indexes a snapshot and answers every query from it. A later record with the path of an
earlier one takes its place under the spelling that came first, while the names and references of
the earlier record stay in the indexes.
-/

namespace TwigRelations

/-- An indexed snapshot. -/
structure Corpus where
  /-- The last record of each template, in first-seen order. -/
  records : Table Template TemplateRecord
  /-- The templates registered under each name. -/
  byName : Table LogicalName (List Template)
  /-- The templates that refer to each name. -/
  byTarget : Table LogicalName (List Template)
  /-- The controllers, in recorded order. -/
  controllers : List ControllerRecord
  /-- Whether the indexes are being built. Until they are ready no query is answered. -/
  indexing : Bool

namespace Corpus

/-- Adds a template to the templates that a table lists for a name. -/
def register (template : Template) (t : Table LogicalName (List Template)) (name : LogicalName) :
    Table LogicalName (List Template) :=
  Table.alter (fun old => Distinct.insert (old.getD []) template) name t

/-- Adds a record to a corpus. -/
def addRecord (c : Corpus) (r : TemplateRecord) : Corpus :=
  { c with
    records := Table.put c.records r.template r
    byName := (r.names.filter (!·.isEmpty)).foldl (register r.template) c.byName
    byTarget := (r.constructs.map (·.target)).foldl (register r.template) c.byTarget }

/-- The corpus of a snapshot, ready to answer. -/
def ofSnapshot (s : Snapshot) : Corpus :=
  s.templates.foldl addRecord ⟨[], [], [], s.controllers, false⟩

/-- The templates, as first spelled. -/
def templates (c : Corpus) : List Template := Table.keys c.records

/-- The number of templates. -/
def size (c : Corpus) : Nat := c.records.length

/-- The record of a template. -/
def record? (c : Corpus) (t : Template) : Option TemplateRecord := Table.get? c.records t

/-- The template at a path, as first spelled. -/
def templateAt? (c : Corpus) (p : Path) : Option Template :=
  (Table.row? c.records ⟨p⟩).map (·.1)

/-- The templates registered under a name. -/
def templatesNamed (c : Corpus) (n : LogicalName) : List Template :=
  (Table.get? c.byName n).getD []

/-- The templates that refer to a name. -/
def referencing (c : Corpus) (n : LogicalName) : List Template :=
  (Table.get? c.byTarget n).getD []

/-- The template that a text leads to: by path, or else the first one of that name. -/
def find? (c : Corpus) (query : String) : Option Template :=
  (c.templateAt? (Path.ofString query)).or (c.templatesNamed (LogicalName.ofString query)).head?

/-- The entries of the template namespace. -/
def entries (c : Corpus) : List NamespaceEntry :=
  c.records.flatMap fun (template, r) => r.names.map fun name => ⟨name, template⟩

/-- The references in a template. -/
def inclusionsIn (c : Corpus) (t : Template) : List Inclusion :=
  ((c.record? t).map (·.inclusions)).getD []

/-- The blocks of a template. -/
def blocksIn (c : Corpus) (t : Template) : List Block :=
  ((c.record? t).map fun r => r.blocks.map fun b => ⟨t, b.name, b.span⟩).getD []

/-- The templates that a template extends: all layers of each name that it extends. -/
def parents (c : Corpus) (t : Template) : List Template :=
  (((c.inclusionsIn t).filter (·.kind == .inherit)).filterMap Inclusion.construct?).flatMap
    fun construct => c.templatesNamed construct.target

/-- The templates of a list that were not seen before, each once. -/
def unseen (seen frontier : List Template) : List Template :=
  (Distinct.ofList frontier).filter fun t => !Distinct.holds seen t

/-- Climbs from a level of ancestors to the nearest one with a block of the given name. -/
def climb (c : Corpus) (name : String) : Nat → List Template → List Template → List Block
  | 0, _, _ => []
  | levels + 1, seen, frontier =>
    match unseen seen frontier with
    | [] => []
    | level =>
      match (level.flatMap c.blocksIn).filter (·.name == name) with
      | [] => climb c name levels (seen ++ level) (level.flatMap c.parents)
      | found => found

/-- The blocks that a block overrides: those of its name at the nearest level of ancestors that has
any. Each level takes at least one template that was not seen, so there are no more levels than
templates. -/
def parentBlocks (c : Corpus) (b : Block) : List Block :=
  climb c b.name (c.size + 1) [b.template] (c.parents b.template)

/-- The actions recorded to render one of a template's names. -/
def controllersOf (c : Corpus) (t : Template) : List Action :=
  match c.record? t with
  | none => []
  | some r =>
    (c.controllers.filter fun k => k.renders.any (Distinct.holds r.names)).map (·.action)

/-- An id with every slash read as a backslash. -/
def classPath (a : Action) : List Char := Text.readAs '/' '\\' a.id.toList

/-- Whether the first segments, at least one of them, spell a text when written together. -/
def beginsWith (text : List Char) : List (List Char) → Bool
  | [] => false
  | segment :: rest =>
    match segment.isPrefixOf? text with
    | none => false
    | some [] => true
    | some remaining => beginsWith remaining rest

/-- Whether a run of whole segments spells a bundle when written together. -/
def spellsBundle (bundle : List Char) : List (List Char) → Bool
  | [] => false
  | segment :: rest => beginsWith bundle (segment :: rest) || spellsBundle bundle rest

/-- Whether an action is the one at given coordinates: its id ends in the controller and action as
whole segments, and its namespace spells the bundle. -/
def answersTo (a : Action) (r : ActionRef) : Bool :=
  let id := classPath a
  let ending := (r.controller ++ "::" ++ r.action).toList
  (id == ending || ('\\' :: ending).isSuffixOf id) &&
    match r.bundle with
    | none => true
    | some bundle => spellsBundle bundle.toList (id.splitOn '\\').dropLast

/-- The action with given coordinates: by its recorded route, or else by its id. -/
def actionFor (c : Corpus) (r : ActionRef) : Option Action :=
  ((c.controllers.find? (·.route == some r)).or
    (c.controllers.find? fun k => answersTo k.action r)).map (·.action)

/-- The answer of a corpus that is ready. -/
def answer (c : Corpus) : (q : Query) → q.Answer
  | .namespaceEntries => c.entries
  | .templatesNamed n => c.templatesNamed n
  | .referencing n => c.referencing n
  | .hasReferencing n => !(c.referencing n).isEmpty
  | .controllersOf t => c.controllersOf t
  | .actionFor r => c.actionFor r
  | .inclusionsIn t => c.inclusionsIn t
  | .blocksIn t => c.blocksIn t
  | .parentBlocks b => c.parentBlocks b

/-- What a corpus says to a query. -/
def reply (c : Corpus) (q : Query) : Reply q :=
  if c.indexing then .error ⟨q.index, "indexing in progress"⟩ else .ok (c.answer q)

/-- The same corpus, with its indexes being built or ready. -/
def setIndexing (c : Corpus) (on : Bool) : Corpus := { c with indexing := on }

end Corpus

end TwigRelations
