import TwigRelations.Relation
import TwigRelations.Resolve

/-!
# Documents

The relationships of one template document, each computed on first access. A result is kept for the
life of the document, so that asking twice gives the same answer; a failed attempt is not kept.
-/

namespace TwigRelations

/-- What a document remembers: the namespace of its pass, and each relationship once computed. -/
structure Memory where
  /-- The namespace of the pass. -/
  loaded : Option Namespace
  /-- The names of the document. -/
  names : Option (List LogicalName)
  /-- The templates that refer to it. -/
  includers : Option (List Template)
  /-- The places where they do. -/
  includeTargets : Option (List IncludeTarget)
  /-- The other templates under its names. -/
  overwrites : Option (List Template)
  /-- Its blocks. -/
  blocks : Option (List Block)
  /-- Its blocks that are implemented further down. -/
  blockImplementations : Option (List BlockRelations)
  /-- Its blocks that override others further up. -/
  blockOverrides : Option (List BlockRelations)
  /-- The actions that render it. -/
  controllerUsages : Option (List Action)

/-- The memory at the beginning, with the namespace that was loaded before, if any. -/
def Memory.fresh (loaded : Option Namespace) : Memory :=
  ⟨loaded, none, none, none, none, none, none, none, none⟩

/-- A computation on a document. -/
abbrev Access := Resolution Memory

namespace Document

open Resolution

/-- A step of the pass that the document belongs to. -/
def inPass {α : Type} (p : Pass α) : Access α :=
  within (·.loaded) (fun m ns => { m with loaded := ns }) p

variable (rules : Rules) (document : Template)

/-- The names of the document. -/
def names : Access (List LogicalName) :=
  remember (·.names) (fun m v => { m with names := some v }) (inPass (Pass.namesFor document))

/-- Whether anything refers to the document. Includers that are known are not asked for again. -/
def hasIncluders : Access Bool := do
  match (← get).includers with
  | some found => return !found.isEmpty
  | none => inPass (Pass.hasIncluders (← names document))

/-- The templates that refer to the document. -/
def includers : Access (List Template) :=
  remember (·.includers) (fun m v => { m with includers := some v }) do
    inPass (Pass.includers (← names document))

/-- The places that refer to the document. -/
def includeTargets : Access (List IncludeTarget) :=
  remember (·.includeTargets) (fun m v => { m with includeTargets := some v }) do
    inPass (Pass.includeTargets (← names document))

/-- The other templates under the document's names. -/
def overwrites : Access (List Template) :=
  remember (·.overwrites) (fun m v => { m with overwrites := some v })
    (inPass (Pass.overwrites document))

/-- The blocks of the document. -/
def blocks : Access (List Block) :=
  remember (·.blocks) (fun m v => { m with blocks := some v }) do
    checkpoint
    ask (.blocksIn document)

/-- The blocks of the document that are related to any block. -/
def relateBlocks (resolve : Block → Pass (List Block)) : Access (List BlockRelations) := do
  let relations ← (← blocks document).mapM fun b =>
    return (⟨b, ← inPass (resolve b)⟩ : BlockRelations)
  return relations.filter (!·.related.isEmpty)

/-- The blocks of the document that child templates implement. -/
def blockImplementations : Access (List BlockRelations) :=
  remember (·.blockImplementations) (fun m v => { m with blockImplementations := some v })
    (relateBlocks document (Pass.implementations rules.settings))

/-- The blocks of the document that override a block further up. -/
def blockOverrides : Access (List BlockRelations) :=
  remember (·.blockOverrides) (fun m v => { m with blockOverrides := some v })
    (relateBlocks document Pass.overrides)

/-- The actions that render the document. -/
def controllerUsages : Access (List Action) :=
  remember (·.controllerUsages) (fun m v => { m with controllerUsages := some v })
    (inPass (Pass.controllerUsages rules document))

/-- The group of the places that refer to the document, if anything does. -/
def includeGroups (ns : Namespace) : Access (List RelatedGroup) := do
  if ← hasIncluders document then
    let targets ← includeTargets document
    return [⟨.includes, none, targets.map (RelatedItem.ofInclude ns rules.settings.projectRoot)⟩]
  else return []

/-- Every relationship that is not empty, as labelled groups: the blocks in their order, then the
controllers, includes and overwrites of the document. -/
def groups : Access (List RelatedGroup) := do
  let ns ← inPass Pass.loadNamespace
  let root := rules.settings.projectRoot
  let implementations ← blockImplementations rules document
  let overrides ← blockOverrides document
  let ofBlocks := RelatedGroup.ofBlocks ns root (← blocks document) implementations overrides
  let actions ← controllerUsages rules document
  let includes ← includeGroups rules document ns
  let layers ← overwrites document
  return ofBlocks
    ++ RelatedGroup.ofDocument .controllers (actions.map RelatedItem.ofAction)
    ++ includes
    ++ RelatedGroup.ofDocument .overwrites (layers.map (RelatedItem.ofTemplate ns root))

/-- The report of the document: all of its relationships, or the first failure. -/
def report : Access Report := do
  let groups ← groups rules document
  let _ ← includers document
  let m ← get
  return {
    document
    names := m.names.getD []
    includers := m.includers.getD []
    includeTargets := m.includeTargets.getD []
    overwrites := m.overwrites.getD []
    blockImplementations := m.blockImplementations.getD []
    blockOverrides := m.blockOverrides.getD []
    controllerUsages := m.controllerUsages.getD []
    groups }

/-- The program that resolves a document on its own, from a namespace loaded before or from none. -/
def reportProgram (loaded : Option Namespace) : Program (Except ResolveError Report) :=
  (report rules document (Memory.fresh loaded)).bind fun (result, _) => .done result

end Document

/-- The relationships that may be asked of a document. -/
inductive Accessor where
  | names
  | hasIncluders
  | includers
  | includeTargets
  | overwrites
  | blocks
  | blockImplementations
  | blockOverrides
  | controllerUsages
  | groups
  | report
  deriving DecidableEq, Repr

namespace Accessor

/-- The type of answer to an accessor. -/
@[reducible] def Answer : Accessor → Type
  | names => List LogicalName
  | hasIncluders => Bool
  | includers => List Template
  | includeTargets => List IncludeTarget
  | overwrites => List Template
  | blocks => List Block
  | blockImplementations => List BlockRelations
  | blockOverrides => List BlockRelations
  | controllerUsages => List Action
  | groups => List RelatedGroup
  | report => Report

/-- What an accessor computes. -/
def access (rules : Rules) (document : Template) : (a : Accessor) → Access a.Answer
  | names => Document.names document
  | hasIncluders => Document.hasIncluders document
  | includers => Document.includers document
  | includeTargets => Document.includeTargets document
  | overwrites => Document.overwrites document
  | blocks => Document.blocks document
  | blockImplementations => Document.blockImplementations rules document
  | blockOverrides => Document.blockOverrides document
  | controllerUsages => Document.controllerUsages rules document
  | groups => Document.groups rules document
  | report => Document.report rules document

end Accessor

end TwigRelations
