import TwigRelations.Snapshot

/-!
# Queries

The questions that a resolution asks of the indexes it reads from, the type of answer to each, and
the way in which an index fails to answer. An empty answer always means that there is nothing to
find; an index that cannot tell is unavailable.
-/

namespace TwigRelations

/-- The services that answer queries. -/
inductive IndexKind where
  | template
  | controller
  | content
  | hierarchy
  deriving DecidableEq, Repr

/-- The word by which a service is named in messages. -/
def IndexKind.word : IndexKind → String
  | template => "template"
  | controller => "controller"
  | content => "content"
  | hierarchy => "hierarchy"

/-- An index that cannot answer at present. -/
structure IndexError where
  /-- The index. -/
  index : IndexKind
  /-- Why it cannot answer. -/
  reason : String
  deriving DecidableEq, Repr

/-- The text of the failure. -/
def IndexError.message (e : IndexError) : String :=
  e.index.word ++ " index unavailable: " ++ e.reason

/-- The questions that a resolution asks. -/
inductive Query where
  /-- Every entry of the template namespace. -/
  | namespaceEntries
  /-- The templates registered under a name. -/
  | templatesNamed (name : LogicalName)
  /-- The templates whose content refers to a name. -/
  | referencing (name : LogicalName)
  /-- Whether any template refers to a name. -/
  | hasReferencing (name : LogicalName)
  /-- The actions known to render a template. -/
  | controllersOf (template : Template)
  /-- The action with given coordinates. -/
  | actionFor (ref : ActionRef)
  /-- The references in a template, in source order. -/
  | inclusionsIn (template : Template)
  /-- The blocks that a template defines. -/
  | blocksIn (template : Template)
  /-- The blocks that a block overrides in the ancestors of its template. -/
  | parentBlocks (block : Block)
  deriving DecidableEq

namespace Query

/-- The type of answer to a query. -/
@[reducible] def Answer : Query → Type
  | namespaceEntries => List NamespaceEntry
  | templatesNamed _ => List Template
  | referencing _ => List Template
  | hasReferencing _ => Bool
  | controllersOf _ => List Action
  | actionFor _ => Option Action
  | inclusionsIn _ => List Inclusion
  | blocksIn _ => List Block
  | parentBlocks _ => List Block

/-- The service that answers a query. -/
def index : Query → IndexKind
  | namespaceEntries | templatesNamed _ | referencing _ | hasReferencing _ => .template
  | controllersOf _ | actionFor _ => .controller
  | inclusionsIn _ | blocksIn _ => .content
  | parentBlocks _ => .hierarchy

/-- The answer that finds nothing. -/
def nothing : (q : Query) → q.Answer
  | namespaceEntries => []
  | templatesNamed _ => []
  | referencing _ => []
  | hasReferencing _ => false
  | controllersOf _ => []
  | actionFor _ => none
  | inclusionsIn _ => []
  | blocksIn _ => []
  | parentBlocks _ => []

end Query

/-- What an index says to a query: an answer of its type, or that it cannot tell. -/
abbrev Reply (q : Query) := Except IndexError q.Answer

end TwigRelations
