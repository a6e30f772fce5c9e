import TwigRelations.Proofs.Knowledge

/-!
# Reports that differ in their controllers

Only one relationship of a document is told by which actions are recorded to render it. Two indexes
that say the same otherwise lead to reports that differ in the controllers only, and to one report
where the controllers are the same.
-/

namespace TwigRelations

/-- Two indexes say the same, apart from the actions that are recorded to render a template, and
from entries and references that name nothing. -/
structure Knowledge.AgreeButControllers (k k' : Knowledge) : Prop where
  toNamespace_eq : k.toNamespace = k'.toNamespace
  templatesNamed_eq (n : LogicalName) : k (.templatesNamed n) = k' (.templatesNamed n)
  referencing_eq (n : LogicalName) : k (.referencing n) = k' (.referencing n)
  hasReferencing_eq (n : LogicalName) : k (.hasReferencing n) = k' (.hasReferencing n)
  actionFor_eq (r : ActionRef) : k (.actionFor r) = k' (.actionFor r)
  constructsIn_eq (t : Template) : k.constructsIn t = k'.constructsIn t
  blocksIn_eq (t : Template) : k (.blocksIn t) = k' (.blocksIn t)
  parentBlocks_eq (b : Block) : k (.parentBlocks b) = k' (.parentBlocks b)

/-- Two reports say the same, apart from the controllers. -/
structure Report.SameButControllers (r r' : Report) : Prop where
  document_eq : r.document = r'.document
  names_eq : r.names = r'.names
  includers_eq : r.includers = r'.includers
  includeTargets_eq : r.includeTargets = r'.includeTargets
  overwrites_eq : r.overwrites = r'.overwrites
  blockImplementations_eq : r.blockImplementations = r'.blockImplementations
  blockOverrides_eq : r.blockOverrides = r'.blockOverrides
  groups_eq : r.groups.filter (·.relation != .controllers) =
    r'.groups.filter (·.relation != .controllers)

/-- Apart from the group of the controllers, groups do not depend on the controllers. -/
theorem Document.filter_arrange (rules : Rules) (ns : Namespace) (blocks : List Block)
    (implementations overrides : List BlockRelations) (actions actions' : List Action)
    (included : Bool) (targets : List IncludeTarget) (layers : List Template) :
    (arrange rules ns blocks implementations overrides actions included targets layers).filter
        (·.relation != .controllers) =
      (arrange rules ns blocks implementations overrides actions' included targets layers).filter
        (·.relation != .controllers) := by
  have hnone (items : List RelatedItem) :
      (RelatedGroup.ofDocument .controllers items).filter (·.relation != .controllers) = [] := by
    rw [RelatedGroup.ofDocument]
    cases items <;> rfl
  simp only [arrange, List.filter_append, hnone]

namespace Knowledge.AgreeButControllers

variable {k k' : Knowledge}

/-- The names of a template are the same. -/
theorem namesFor_eq (h : k.AgreeButControllers k') (t : Template) :
    k.namesFor t = k'.namesFor t := by
  rw [namesFor, h.toNamespace_eq, namesFor]

theorem hasIncluders_eq (h : k.AgreeButControllers k') (names : List LogicalName) :
    k.hasIncluders names = k'.hasIncluders names := by
  simp only [hasIncluders, h.hasReferencing_eq]

theorem includers_eq (h : k.AgreeButControllers k') (names : List LogicalName) :
    k.includers names = k'.includers names := by
  simp only [includers, h.referencing_eq]

theorem targetsIn_eq (h : k.AgreeButControllers k') (names : List LogicalName) (t : Template) :
    k.targetsIn names t = k'.targetsIn names t := by
  rw [targetsIn, h.constructsIn_eq, targetsIn]

theorem includeTargets_eq (h : k.AgreeButControllers k') (names : List LogicalName) :
    k.includeTargets names = k'.includeTargets names := by
  rw [includeTargets, h.includers_eq, funext (h.targetsIn_eq names), includeTargets]

theorem overwrites_eq (h : k.AgreeButControllers k') (t : Template) :
    k.overwrites t = k'.overwrites t := by
  simp only [overwrites, h.namesFor_eq, h.templatesNamed_eq]

theorem implementations_eq (h : k.AgreeButControllers k') (settings : Settings) :
    k.implementations settings = k'.implementations settings :=
  implementations_congr settings (fun t => by rw [h.namesFor_eq, h.includers_eq]) h.blocksIn_eq

/-- Conventions look actions up by their coordinates, so what they derive is the same. -/
theorem conventionalUsages_eq (h : k.AgreeButControllers k') (rules : Rules) (t : Template) :
    k.conventionalUsages rules t = k'.conventionalUsages rules t :=
  conventionalUsages_congr rules (h.namesFor_eq t) h.actionFor_eq

theorem blockImplementations_eq (h : k.AgreeButControllers k') (rules : Rules)
    (document : Template) :
    k.blockImplementations rules document = k'.blockImplementations rules document :=
  relateBlocks_congr (h.implementations_eq rules.settings) (h.blocksIn_eq document)

theorem blockOverrides_eq (h : k.AgreeButControllers k') (document : Template) :
    k.blockOverrides document = k'.blockOverrides document :=
  relateBlocks_congr (overrides_congr h.parentBlocks_eq) (h.blocksIn_eq document)

/-- The groups of a document are put together from the same relations, but for its controllers. -/
theorem groups_eq_arrange (h : k.AgreeButControllers k') (rules : Rules) (document : Template) :
    k.groups rules document = Document.arrange rules k'.toNamespace (k' (.blocksIn document))
      (k'.blockImplementations rules document) (k'.blockOverrides document)
      (k.controllerUsages rules document) (k'.hasIncluders (k'.namesFor document))
      (k'.includeTargets (k'.namesFor document)) (k'.overwrites document) := by
  rw [groups, h.toNamespace_eq, h.blocksIn_eq, h.blockImplementations_eq, h.blockOverrides_eq,
    h.namesFor_eq, h.hasIncluders_eq, h.includeTargets_eq, h.overwrites_eq]

/-- The reports of a document differ in its controllers only. -/
theorem report (h : k.AgreeButControllers k') (rules : Rules) (document : Template) :
    (k.report rules document).SameButControllers (k'.report rules document) where
  document_eq := rfl
  names_eq := h.namesFor_eq document
  includers_eq := by
    change k.includers (k.namesFor document) = k'.includers (k'.namesFor document)
    rw [h.namesFor_eq, h.includers_eq]
  includeTargets_eq := by
    change k.includeTargets (k.namesFor document) = k'.includeTargets (k'.namesFor document)
    rw [h.namesFor_eq, h.includeTargets_eq]
  overwrites_eq := h.overwrites_eq document
  blockImplementations_eq := h.blockImplementations_eq rules document
  blockOverrides_eq := h.blockOverrides_eq document
  groups_eq := by
    change (k.groups rules document).filter _ = (k'.groups rules document).filter _
    rw [h.groups_eq_arrange]
    exact Document.filter_arrange ..

/-- Where the controllers are the same, the reports are the same. -/
theorem report_eq (h : k.AgreeButControllers k') {rules : Rules} {document : Template}
    (hcontrollers : k.controllerUsages rules document = k'.controllerUsages rules document) :
    k.report rules document = k'.report rules document := by
  have hgroups : k.groups rules document = k'.groups rules document := by
    rw [h.groups_eq_arrange, hcontrollers, groups]
  rw [Knowledge.report, h.namesFor_eq, h.includers_eq, h.includeTargets_eq, h.overwrites_eq,
    h.blockImplementations_eq, h.blockOverrides_eq, hcontrollers, hgroups, Knowledge.report]

end Knowledge.AgreeButControllers

end TwigRelations
