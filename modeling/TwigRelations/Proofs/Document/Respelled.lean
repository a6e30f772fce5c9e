import TwigRelations.Proofs.Knowledge
import TwigRelations.Proofs.Related

/-!
# Reports of respelled names

Names are compared by key, wherever a relationship is looked up. Two indexes that say the same but
for the spelling of names lead to reports that say the same but for the spelling of names. Labels
and naming conventions read the spelling itself, but that of a template's own names only: where
these are spelled alike, nothing differs but how the targets of constructs are written.
-/

namespace TwigRelations

namespace Distinct

variable {names names' held held' : List LogicalName} {m n : LogicalName}

/-- Names of the same keys are held alike. -/
theorem holds_eq_of_keys (hheld : held.map identity = held'.map identity)
    (h : identity m = identity n) : holds held m = holds held' n := by
  rw [Bool.eq_iff_iff, holds_iff, holds_iff, hheld, h]

/-- Whether one of some names is held is told by the keys of both. -/
theorem any_holds_eq_of_keys (hnames : names.map identity = names'.map identity)
    (hheld : held.map identity = held'.map identity) :
    names.any (holds held) = names'.any (holds held') := by
  have hmap : names.map (holds held) = names'.map (holds held') :=
    map_eq_of_forall₂ (map_eq_map_iff_forall₂.mp hnames) fun _ _ => holds_eq_of_keys hheld
  rw [← Function.id_comp (holds held), ← List.any_map, hmap, List.any_map, Function.id_comp]

end Distinct

/-- Two constructs are the same but for the spelling of the target. -/
structure Construct.Respelled (c c' : Construct) : Prop where
  kind_eq : c.kind = c'.kind
  key_eq : identity c.target = identity c'.target
  span_eq : c.span = c'.span

/-- Two including places are the same but for the spelling of the target of a construct. -/
inductive IncludeTarget.Respelled : IncludeTarget → IncludeTarget → Prop
  | construct (t : Template) {c c' : Construct} (h : c.Respelled c') :
    Respelled (.construct t c) (.construct t c')
  | file (t : Template) : Respelled (.file t) (.file t)

/-- Two items lead to the same but for the spelling of the target of a construct. -/
inductive RelatedTarget.Respelled : RelatedTarget → RelatedTarget → Prop
  | refl (target : RelatedTarget) : Respelled target target
  | include {place place' : IncludeTarget} (h : place.Respelled place') :
    Respelled (.include place) (.include place')

/-- Two items are the same but for the spelling of the target of a construct. -/
structure RelatedItem.Respelled (i i' : RelatedItem) : Prop where
  target : i.target.Respelled i'.target
  label_eq : i.label = i'.label
  inclusionKind_eq : i.inclusionKind = i'.inclusionKind

/-- Two groups are the same but for the spelling of the targets of constructs. -/
structure RelatedGroup.Respelled (g g' : RelatedGroup) : Prop where
  relation_eq : g.relation = g'.relation
  anchor_eq : g.anchor = g'.anchor
  items : List.Forall₂ RelatedItem.Respelled g.items g'.items

/-- Two reports tell the same relationships between templates, names and the targets of constructs
apart from their spelling. -/
structure Report.SameUpToSpelling (r r' : Report) : Prop where
  document_eq : r.document = r'.document
  keys_eq : r.names.map identity = r'.names.map identity
  includers_eq : r.includers = r'.includers
  includeTargets : List.Forall₂ IncludeTarget.Respelled r.includeTargets r'.includeTargets
  overwrites_eq : r.overwrites = r'.overwrites
  blockImplementations_eq : r.blockImplementations = r'.blockImplementations
  blockOverrides_eq : r.blockOverrides = r'.blockOverrides

/-- Two reports are the same but for the spelling of the targets of constructs. -/
structure Report.SameUpToTargets (r r' : Report) : Prop extends r.SameUpToSpelling r' where
  names_eq : r.names = r'.names
  controllerUsages_eq : r.controllerUsages = r'.controllerUsages
  groups : List.Forall₂ RelatedGroup.Respelled r.groups r'.groups

theorem RelatedItem.respelled_refl (i : RelatedItem) : i.Respelled i := ⟨.refl _, rfl, rfl⟩

theorem RelatedGroup.respelled_refl (g : RelatedGroup) : g.Respelled g :=
  ⟨rfl, rfl, List.forall₂_same.mpr fun i _ => i.respelled_refl⟩

/-- The item of a place does not show how the target is spelled. -/
theorem RelatedItem.respelled_ofInclude (ns : Namespace) (root : Option Path)
    {place place' : IncludeTarget} (h : place.Respelled place') :
    (ofInclude ns root place).Respelled (ofInclude ns root place') := by
  refine ⟨.include h, ?_, ?_⟩
  · cases h <;> rfl
  · cases h with
    | construct t hc => exact congrArg some hc.kind_eq
    | file t => rfl

/-- Groups are told by the places that include the document up to spelling. -/
theorem Document.arrange_respelled (rules : Rules) (ns : Namespace) (blocks : List Block)
    (implementations overrides : List BlockRelations) (actions : List Action) (included : Bool)
    {targets targets' : List IncludeTarget} (layers : List Template)
    (h : List.Forall₂ IncludeTarget.Respelled targets targets') :
    List.Forall₂ RelatedGroup.Respelled
      (arrange rules ns blocks implementations overrides actions included targets layers)
      (arrange rules ns blocks implementations overrides actions included targets' layers) := by
  have hrefl (groups : List RelatedGroup) : List.Forall₂ RelatedGroup.Respelled groups groups :=
    List.forall₂_same.mpr fun g _ => g.respelled_refl
  refine List.rel_append (List.rel_append (hrefl _) ?_) (hrefl _)
  split
  · refine .cons ⟨rfl, rfl, List.rel_map (R := IncludeTarget.Respelled) ?_ h⟩ .nil
    exact fun _ _ hplace => RelatedItem.respelled_ofInclude ns _ hplace
  · exact .nil

/-- Two indexes say the same but for the spelling of names. -/
structure Knowledge.Respelled (k k' : Knowledge) : Prop where
  keys_eq (t : Template) : (k.namesFor t).map identity = (k'.namesFor t).map identity
  templatesNamed_eq {m n : LogicalName} (h : identity m = identity n) :
    k (.templatesNamed m) = k' (.templatesNamed n)
  referencing_eq {m n : LogicalName} (h : identity m = identity n) :
    k (.referencing m) = k' (.referencing n)
  hasReferencing_eq {m n : LogicalName} (h : identity m = identity n) :
    k (.hasReferencing m) = k' (.hasReferencing n)
  constructsIn (t : Template) :
    List.Forall₂ Construct.Respelled (k.constructsIn t) (k'.constructsIn t)
  blocksIn_eq (t : Template) : k (.blocksIn t) = k' (.blocksIn t)
  parentBlocks_eq (b : Block) : k (.parentBlocks b) = k' (.parentBlocks b)
  controllersOf_eq (t : Template) : k (.controllersOf t) = k' (.controllersOf t)
  actionFor_eq (r : ActionRef) : k (.actionFor r) = k' (.actionFor r)

namespace Knowledge.Respelled

variable {k k' : Knowledge} {names names' : List LogicalName}

/-- Names of the same keys have the same includers. -/
theorem includers_eq (h : k.Respelled k') (hkeys : names.map identity = names'.map identity) :
    k.includers names = k'.includers names' := by
  rw [includers, flatMap_eq_of_forall₂ (map_eq_map_iff_forall₂.mp hkeys) fun _ _ =>
    h.referencing_eq, includers]

/-- The places in one template are respelled one by one. -/
theorem targetsIn (h : k.Respelled k') (hkeys : names.map identity = names'.map identity)
    (t : Template) :
    List.Forall₂ IncludeTarget.Respelled (k.targetsIn names t) (k'.targetsIn names' t) := by
  have hnamed : List.Forall₂ Construct.Respelled
      ((k.constructsIn t).filter fun c => Distinct.holds names c.target)
      ((k'.constructsIn t).filter fun c => Distinct.holds names' c.target) :=
    List.rel_filter (fun _ _ hc => Bool.eq_iff_iff.mp (Distinct.holds_eq_of_keys hkeys hc.key_eq))
      (h.constructsIn t)
  rw [Knowledge.targetsIn, Knowledge.targetsIn]
  generalize (k.constructsIn t).filter _ = named at *
  generalize (k'.constructsIn t).filter _ = named' at *
  cases hnamed with
  | nil => exact .cons (.file t) .nil
  | cons hc hrest => exact List.rel_map (fun _ _ => .construct t) (.cons hc hrest)

theorem includeTargets (h : k.Respelled k') (hkeys : names.map identity = names'.map identity) :
    List.Forall₂ IncludeTarget.Respelled (k.includeTargets names) (k'.includeTargets names') := by
  rw [Knowledge.includeTargets, h.includers_eq hkeys, Knowledge.includeTargets]
  refine List.rel_flatMap (R := Eq) (List.forall₂_refl _) ?_
  rintro t _ rfl
  exact h.targetsIn hkeys t

/-- The layers of a template are spelled alike. -/
theorem overwrites_eq (h : k.Respelled k') (t : Template) : k.overwrites t = k'.overwrites t := by
  have hothers (m n : LogicalName) (hkey : identity m = identity n) :
      (k (.templatesNamed m)).filter (!same · t) = (k' (.templatesNamed n)).filter (!same · t) := by
    rw [h.templatesNamed_eq hkey]
  rw [overwrites, flatMap_eq_of_forall₂ (map_eq_map_iff_forall₂.mp (h.keys_eq t)) hothers,
    overwrites]

theorem blockImplementations_eq (h : k.Respelled k') (rules : Rules) (document : Template) :
    k.blockImplementations rules document = k'.blockImplementations rules document :=
  relateBlocks_congr (implementations_congr rules.settings (fun t => h.includers_eq (h.keys_eq t))
    h.blocksIn_eq) (h.blocksIn_eq document)

theorem blockOverrides_eq (h : k.Respelled k') (document : Template) :
    k.blockOverrides document = k'.blockOverrides document :=
  relateBlocks_congr (overrides_congr h.parentBlocks_eq) (h.blocksIn_eq document)

/-- Conventions read spellings, so the controllers are the same where the names are spelled alike.
-/
theorem controllerUsages_eq (h : k.Respelled k') (rules : Rules) {t : Template}
    (hnames : k.namesFor t = k'.namesFor t) :
    k.controllerUsages rules t = k'.controllerUsages rules t := by
  rw [controllerUsages, conventionalUsages_congr rules hnames h.actionFor_eq, h.controllersOf_eq,
    controllerUsages]

/-- The reports of a document are the same but for the spelling of names. -/
theorem report (h : k.Respelled k') (rules : Rules) (document : Template) :
    (k.report rules document).SameUpToSpelling (k'.report rules document) where
  document_eq := rfl
  keys_eq := h.keys_eq document
  includers_eq := h.includers_eq (h.keys_eq document)
  includeTargets := h.includeTargets (h.keys_eq document)
  overwrites_eq := h.overwrites_eq document
  blockImplementations_eq := h.blockImplementations_eq rules document
  blockOverrides_eq := h.blockOverrides_eq document

/-- Where the names of templates are spelled alike, the groups of a document are the same but for
the spelling of the targets of constructs. -/
theorem groups (h : k.Respelled k') (hnamespace : k.toNamespace = k'.toNamespace) (rules : Rules)
    (document : Template) :
    List.Forall₂ RelatedGroup.Respelled (k.groups rules document) (k'.groups rules document) := by
  have hnames : k.namesFor document = k'.namesFor document := by
    rw [namesFor, hnamespace, namesFor]
  have hincluded (names : List LogicalName) : k.hasIncluders names = k'.hasIncluders names := by
    have hname (name : LogicalName) : k (.hasReferencing name) = k' (.hasReferencing name) :=
      h.hasReferencing_eq rfl
    simp only [hasIncluders, hname]
  rw [Knowledge.groups, Knowledge.groups, hnamespace, h.blocksIn_eq, h.blockImplementations_eq,
    h.blockOverrides_eq, h.controllerUsages_eq rules hnames, hnames, hincluded, h.overwrites_eq]
  exact Document.arrange_respelled _ _ _ _ _ _ _ _ (h.includeTargets rfl)

/-- Where the names of templates are spelled alike, the reports of a document are the same but for
the spelling of the targets of constructs. -/
theorem report_of_toNamespace_eq (h : k.Respelled k') (hnamespace : k.toNamespace = k'.toNamespace)
    (rules : Rules) (document : Template) :
    (k.report rules document).SameUpToTargets (k'.report rules document) := by
  have hnames : k.namesFor document = k'.namesFor document := by
    rw [namesFor, hnamespace, namesFor]
  exact {
    toSameUpToSpelling := h.report rules document
    names_eq := hnames
    controllerUsages_eq := h.controllerUsages_eq rules hnames
    groups := h.groups hnamespace rules document }

end Knowledge.Respelled

end TwigRelations
