import TwigRelations.Document

/-!
# Knowledge

What all indexes say, where each query has one answer that never fails, and what follows from it for
every relationship of a template. Nothing here is loaded, remembered or interrupted: these are the
relationships as such, which a resolution finds if it is left in peace.
-/

namespace TwigRelations

/-- One answer to each query. -/
abbrev Knowledge := (q : Query) → q.Answer

/-- The groups of a report, put together from its relationships. -/
def Document.arrange (rules : Rules) (ns : Namespace) (blocks : List Block)
    (implementations overrides : List BlockRelations) (actions : List Action) (included : Bool)
    (targets : List IncludeTarget) (layers : List Template) : List RelatedGroup :=
  let root := rules.settings.projectRoot
  RelatedGroup.ofBlocks ns root blocks implementations overrides
    ++ RelatedGroup.ofDocument .controllers (actions.map RelatedItem.ofAction)
    ++ (if included then [⟨.includes, none, targets.map (RelatedItem.ofInclude ns root)⟩] else [])
    ++ RelatedGroup.ofDocument .overwrites (layers.map (RelatedItem.ofTemplate ns root))

namespace Knowledge

variable (k : Knowledge) (rules : Rules) (settings : Settings)

/-- The namespace. -/
def toNamespace : Namespace := .ofEntries (k .namespaceEntries)

/-- The names of a template. -/
def namesFor (t : Template) : List LogicalName := k.toNamespace.namesFor t

/-- Whether any template refers to one of the names. -/
def hasIncluders (names : List LogicalName) : Bool := names.any fun name => k (.hasReferencing name)

/-- The templates that refer to any of the names, each once. -/
def includers (names : List LogicalName) : List Template :=
  Distinct.ofList (names.flatMap fun name => k (.referencing name))

/-- The references of a template that name another one. -/
def constructsIn (t : Template) : List Construct :=
  (k (.inclusionsIn t)).filterMap Inclusion.construct?

/-- The places in one template that refer to any of the names, or the file where there is none. -/
def targetsIn (names : List LogicalName) (t : Template) : List IncludeTarget :=
  match (k.constructsIn t).filter fun c => Distinct.holds names c.target with
  | [] => [.file t]
  | constructs => constructs.map (.construct t)

/-- The places in all templates that refer to any of the names. -/
def includeTargets (names : List LogicalName) : List IncludeTarget :=
  (k.includers names).flatMap (k.targetsIn names)

/-- The other templates registered under any of a template's names, each once. -/
def overwrites (t : Template) : List Template :=
  Distinct.ofList ((k.namesFor t).flatMap fun name =>
    (k (.templatesNamed name)).filter (!same · t))

/-- A descent with the includers of each template of a level. -/
def descendLevel (parent : Template) (level : List Template) (d : Pass.Descent) : Pass.Descent :=
  level.foldl (fun d t =>
    let children := Pass.newChildren parent d.found (k.includers (k.namesFor t))
    ⟨d.found ++ children, d.level ++ children⟩) d

/-- The templates found when a descent goes on for at most the given number of levels. -/
def descend (parent : Template) : Nat → Pass.Descent → List Template
  | 0, d => d.found
  | levels + 1, d =>
    match d.level with
    | [] => d.found
    | level => descend parent levels (k.descendLevel parent level ⟨d.found, []⟩)

/-- The templates that include a template, directly or through other children. -/
def children (parent : Template) : List Template :=
  k.descend parent settings.maxChildDepth ⟨[], [parent]⟩

/-- The blocks of exactly the same name in the child templates, each once. -/
def implementations (b : Block) : List Block :=
  Distinct.ofList ((k.children settings b.template).flatMap fun t =>
    (k (.blocksIn t)).filter (·.name == b.name))

/-- The blocks that a block overrides further up, each once. -/
def overrides (b : Block) : List Block :=
  Distinct.ofList ((k (.parentBlocks b)).filter (!same · b))

/-- The action that a convention derives from a name, if there is such an action. -/
def conventional? (name : LogicalName) (convention : Convention) : Option Action :=
  (convention.actionRef? name).bind fun ref => k (.actionFor ref)

/-- The actions that the conventions derive from a template's names. -/
def conventionalUsages (t : Template) : List Action :=
  if rules.settings.implicitControllers then
    (k.namesFor t).flatMap fun name => rules.conventions.filterMap (k.conventional? name)
  else []

/-- The actions that render a template, each once. -/
def controllerUsages (t : Template) : List Action :=
  Distinct.ofList (k.conventionalUsages rules t ++ k (.controllersOf t))

/-- The blocks of a document that are related to any block. -/
def relateBlocks (resolve : Block → List Block) (document : Template) : List BlockRelations :=
  ((k (.blocksIn document)).map fun b => ⟨b, resolve b⟩).filter (!·.related.isEmpty)

/-- The blocks of a document that child templates implement. -/
def blockImplementations (document : Template) : List BlockRelations :=
  k.relateBlocks (k.implementations rules.settings) document

/-- The blocks of a document that override a block further up. -/
def blockOverrides (document : Template) : List BlockRelations :=
  k.relateBlocks k.overrides document

/-- Every relationship of a document that is not empty, as labelled groups. -/
def groups (document : Template) : List RelatedGroup :=
  let names := k.namesFor document
  Document.arrange rules k.toNamespace (k (.blocksIn document))
    (k.blockImplementations rules document) (k.blockOverrides document)
    (k.controllerUsages rules document) (k.hasIncluders names) (k.includeTargets names)
    (k.overwrites document)

/-- The report of a document. -/
def report (document : Template) : Report where
  document
  names := k.namesFor document
  includers := k.includers (k.namesFor document)
  includeTargets := k.includeTargets (k.namesFor document)
  overwrites := k.overwrites document
  blockImplementations := k.blockImplementations rules document
  blockOverrides := k.blockOverrides document
  controllerUsages := k.controllerUsages rules document
  groups := k.groups rules document

/-- The answer to an accessor. -/
def answerTo (document : Template) : (a : Accessor) → a.Answer
  | .names => k.namesFor document
  | .hasIncluders => k.hasIncluders (k.namesFor document)
  | .includers => k.includers (k.namesFor document)
  | .includeTargets => k.includeTargets (k.namesFor document)
  | .overwrites => k.overwrites document
  | .blocks => k (.blocksIn document)
  | .blockImplementations => k.blockImplementations rules document
  | .blockOverrides => k.blockOverrides document
  | .controllerUsages => k.controllerUsages rules document
  | .groups => k.groups rules document
  | .report => k.report rules document

section congr

variable {k k' : Knowledge}

/-- A descent is told by which templates include each template. -/
theorem descend_congr
    (hincluders : ∀ t, k.includers (k.namesFor t) = k'.includers (k'.namesFor t))
    (parent : Template) (levels : Nat) (d : Pass.Descent) :
    k.descend parent levels d = k'.descend parent levels d := by
  have hlevel (level : List Template) (d : Pass.Descent) :
      k.descendLevel parent level d = k'.descendLevel parent level d := by
    simp only [descendLevel, hincluders]
  induction levels generalizing d with
  | zero => rfl
  | succ levels ih =>
    rw [descend, descend]
    simp only [hlevel, ih]

/-- The implementations of blocks are told by includers and blocks. -/
theorem implementations_congr
    (hincluders : ∀ t, k.includers (k.namesFor t) = k'.includers (k'.namesFor t))
    (hblocks : ∀ t, k (.blocksIn t) = k' (.blocksIn t)) :
    k.implementations settings = k'.implementations settings := by
  funext b
  simp only [implementations, children, descend_congr hincluders, hblocks]

/-- What a block overrides depends on the blocks above it only. -/
theorem overrides_congr (hparents : ∀ b, k (.parentBlocks b) = k' (.parentBlocks b)) :
    k.overrides = k'.overrides := by
  funext b
  rw [overrides, hparents, overrides]

/-- How the blocks of a document are related depends on them and on how one block is. -/
theorem relateBlocks_congr {resolve resolve' : Block → List Block} (hresolve : resolve = resolve')
    {document : Template} (hblocks : k (.blocksIn document) = k' (.blocksIn document)) :
    k.relateBlocks resolve document = k'.relateBlocks resolve' document := by
  rw [relateBlocks, hresolve, hblocks, relateBlocks]

/-- The actions that conventions derive are told by the names and by what answers to coordinates. -/
theorem conventionalUsages_congr {t : Template}
    (hnames : k.namesFor t = k'.namesFor t) (hactions : ∀ r, k (.actionFor r) = k' (.actionFor r)) :
    k.conventionalUsages rules t = k'.conventionalUsages rules t := by
  have hconventional (name : LogicalName) : k.conventional? name = k'.conventional? name := by
    funext convention
    simp only [conventional?, hactions]
  simp only [conventionalUsages, hnames, hconventional]

end congr

end Knowledge

end TwigRelations
