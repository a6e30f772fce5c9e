import TwigRelations.Proofs.Corpus.Tables
import TwigRelations.Proofs.Document.Agreement
import TwigRelations.Proofs.Pass.Places
import TwigRelations.Proofs.Report

/-!
# The groups of a document

The groups of a resolved document are those of its blocks and of its fields, in order. The group of
the including places is guarded by a query of its own, and block groups are joined to relations by
looking the block up; neither shows in the result.
-/

namespace TwigRelations

namespace Knowledge

variable {k : Knowledge} {rules : Rules} {document : Template}

/-- The known places in a template are placed by its references. -/
theorem placedIn_targetsIn (k : Knowledge) (names : List LogicalName) (t : Template) :
    PlacedIn names t (k (.inclusionsIn t)) (k.targetsIn names t) := by
  have hplaces : k.targetsIn names t =
      Pass.placesOf t (referencesTo names (k (.inclusionsIn t))) := by
    rw [targetsIn, constructsIn, referencesTo]
    cases ((k (.inclusionsIn t)).filterMap Inclusion.construct?).filter fun c =>
      Distinct.holds names c.target <;> rfl
  exact hplaces ▸ Pass.placedIn_placesOf names t (k (.inclusionsIn t))

/-- There are no places exactly if there are no includers. -/
theorem includeTargets_eq_nil_iff (names : List LogicalName) :
    k.includeTargets names = [] ↔ k.includers names = [] := by
  rw [includeTargets, List.flatMap_eq_nil_iff]
  constructor
  · intro h
    rw [List.eq_nil_iff_forall_not_mem]
    exact fun t ht => (placedIn_targetsIn k names t).ne_nil (h t ht)
  · intro h
    rw [h]
    exact fun t ht => absurd ht List.not_mem_nil

/-- The including templates are those of the including places. -/
theorem ofList_template_includeTargets (k : Knowledge) (names : List LogicalName) :
    Distinct.ofList ((k.includeTargets names).map (·.template)) = k.includers names := by
  rw [includeTargets, List.map_flatMap, Distinct.ofList, Distinct.union_flatMap]
  · exact Distinct.ofList_eq_self (Distinct.noRepeat_ofList _)
  · exact fun t => mt List.map_eq_nil_iff.mp (placedIn_targetsIn k names t).ne_nil
  · intro t u hu
    obtain ⟨place, hplace, rfl⟩ := List.mem_map.mp hu
    exact (placedIn_targetsIn k names t).template_eq hplace

/-- The groups of a document in order, where its blocks that count as one are one. -/
theorem groups_eq_inOrder (hk : k.Consistent)
    (hblocks : Distinct.SpelledOnce (k (.blocksIn document))) :
    k.groups rules document = RelatedGroup.inOrder k.toNamespace rules.settings.projectRoot
      (k (.blocksIn document)) (k.implementations rules.settings) k.overrides
      (k.controllerUsages rules document) (k.includeTargets (k.namesFor document))
      (k.overwrites document) := by
  have hdocument (kind : RelationKind) (items : List RelatedItem) :
      RelatedGroup.ofDocument kind items = RelatedGroup.unlessEmpty kind none items := rfl
  have hincludes (item : IncludeTarget → RelatedItem) :
      (if k.hasIncluders (k.namesFor document) then
        [⟨.includes, none, (k.includeTargets (k.namesFor document)).map item⟩] else []) =
      RelatedGroup.unlessEmpty .includes none
        ((k.includeTargets (k.namesFor document)).map item) := by
    have hnone := includeTargets_eq_nil_iff (k := k) (k.namesFor document)
    rw [hasIncluders_eq hk, RelatedGroup.unlessEmpty, List.isEmpty_map]
    by_cases h : k.includers (k.namesFor document) = []
    · rw [h, hnone.mpr h]
      rfl
    · have hplaces : (k.includeTargets (k.namesFor document)).isEmpty = false :=
        List.isEmpty_eq_false_iff.mpr (mt hnone.mp h)
      rw [List.isEmpty_eq_false_iff.mpr h, hplaces]
      rfl
  have hofBlocks : RelatedGroup.ofBlocks k.toNamespace rules.settings.projectRoot
      (k (.blocksIn document)) (k.blockImplementations rules document)
      (k.blockOverrides document) = _ := RelatedGroup.ofBlocks_related hblocks
  rw [groups, Document.arrange, hofBlocks, hdocument, hincludes, hdocument, RelatedGroup.inOrder]

/-- The report of a document, where its blocks that count as one are one. -/
theorem arranged_report (hk : k.Consistent)
    (hblocks : Distinct.SpelledOnce (k (.blocksIn document))) :
    (k.report rules document).Arranged k.toNamespace rules.settings.projectRoot
      (k (.blocksIn document)) (k.implementations rules.settings) k.overrides := by
  have hgroups : (k.report rules document).groups = _ := groups_eq_inOrder hk hblocks
  have hitems : ∀ g ∈ (k.report rules document).groups, g.items ≠ [] := by
    rw [hgroups]
    exact fun g hg => RelatedGroup.items_ne_nil_of_mem_inOrder hg
  have hempty : (k.report rules document).groups = [] ↔ (k.report rules document).Unrelated := by
    rw [hgroups, RelatedGroup.inOrder_eq_nil_iff, Report.Unrelated]
    constructor
    · rintro ⟨himplementations, hoverrides, hactions, hplaces, hlayers⟩
      exact ⟨(includeTargets_eq_nil_iff _).mp hplaces, hplaces, hlayers, himplementations,
        hoverrides, hactions⟩
    · rintro ⟨-, hplaces, hlayers, himplementations, hoverrides, hactions⟩
      exact ⟨himplementations, hoverrides, hactions, hplaces, hlayers⟩
  exact {
    groups_eq := hgroups
    items_ne_nil := hitems
    blockImplementations_eq := ⟨rfl, by
      rw [hgroups, RelatedGroup.relations_blockImplementations_inOrder]
      rfl⟩
    blockOverrides_eq := ⟨rfl, by
      rw [hgroups, RelatedGroup.relations_blockOverrides_inOrder]
      rfl⟩
    controllerUsages_eq := by
      rw [hgroups, RelatedGroup.targets_controllers_inOrder]
      rfl
    includeTargets_eq := by
      rw [hgroups, RelatedGroup.targets_includes_inOrder]
      rfl
    includers_eq := (ofList_template_includeTargets k _).symm
    overwrites_eq := by
      rw [hgroups, RelatedGroup.targets_overwrites_inOrder]
      rfl
    includeTargets_ne_nil_iff := not_congr (includeTargets_eq_nil_iff _)
    isEmpty_iff := by rw [Report.isEmpty, List.isEmpty_iff, hempty]
    showReport_iff := by
      rw [Cli.showReport_eq_iff, ← hempty]
      constructor
      · intro h
        rw [List.eq_nil_iff_forall_not_mem]
        exact fun g hg => hitems g hg (h g hg)
      · intro h
        rw [h]
        exact fun g hg => absurd hg List.not_mem_nil }

end Knowledge

/-- The blocks of one template that count as one are one. -/
theorem Corpus.spelledOnce_blocksIn (c : Corpus) (t : Template) :
    Distinct.SpelledOnce (c.blocksIn t) := by
  intro a ha b hb hsame
  have htemplate : a.template = b.template :=
    (template_of_mem_blocksIn ha).trans (template_of_mem_blocksIn hb).symm
  exact Block.eq_of_template_eq htemplate hsame

/-- Whatever a corpus says of a document, the groups of its report and the fields determine each
other: the groups are those of the blocks of the document in scan order, with what is resolved for
each, and of the fields that are not empty. -/
theorem Corpus.report_arranged (s : Snapshot) (rules : Rules) (document : Template) :
    ∃ r ns, ∃ implementations overrides : Block → List Block,
      (ofSnapshot s).undisturbed rules document .report = .ok r ∧
      (ofSnapshot s).resolve Pass.loadNamespace = .ok ns ∧
      (∀ b, (ofSnapshot s).resolve (Pass.implementations rules.settings b) =
        .ok (implementations b)) ∧
      (∀ b, (ofSnapshot s).resolve (Pass.overrides b) = .ok (overrides b)) ∧
      r.Arranged ns rules.settings.projectRoot ((ofSnapshot s).blocksIn document) implementations
        overrides := by
  have hready := indexing_ofSnapshot s
  exact ⟨_, _, _, _, undisturbed_eq hready .report,
    resolve_eq hready Knowledge.yields_loadNamespace,
    fun b => resolve_eq hready (Knowledge.yields_implementations rules.settings b),
    fun b => resolve_eq hready (Knowledge.yields_overrides b),
    Knowledge.arranged_report (consistent_answer _) (spelledOnce_blocksIn _ document)⟩

end TwigRelations
