import Mathlib.Data.List.Forall2
import Mathlib.Data.List.Perm.Basic
import TwigRelations.Proofs.Descent
import TwigRelations.Proofs.Document.Groups
import TwigRelations.Proofs.Namespace.Reordered

/-!
# Reports of reordered knowledge

Two indexes that give the same answers, some of them in another order, lead to the same report up to
order. Levels of a descent are searched in another order, but what a level adds is told by what is
on it; and where several spellings of a path would count as one, only one of them is ever answered.
-/

namespace TwigRelations

/-- The same knowledge in another order. The templates that are listed are among those that are
recorded, each under one spelling. -/
structure Knowledge.Reordered (recorded : Template → Prop) (k k' : Knowledge) : Prop where
  /-- A template is recorded under one spelling. -/
  recorded_once {t u : Template} (ht : recorded t) (hu : recorded u)
    (h : identity t = identity u) : t = u
  /-- The entries are the same. -/
  entries_perm : (k .namespaceEntries).Perm (k' .namespaceEntries)
  /-- A name leads to the same templates. -/
  templatesNamed_perm (n : LogicalName) : (k (.templatesNamed n)).Perm (k' (.templatesNamed n))
  /-- A name leads to recorded templates only. -/
  recorded_of_named {n : LogicalName} {t : Template} (h : t ∈ k (.templatesNamed n)) : recorded t
  /-- The same templates refer to a name. -/
  referencing_perm (n : LogicalName) : (k (.referencing n)).Perm (k' (.referencing n))
  /-- Only recorded templates refer to a name. -/
  recorded_of_referencing {n : LogicalName} {t : Template} (h : t ∈ k (.referencing n)) :
    recorded t
  /-- The actions that render a template keep their order. -/
  controllersOf_eq (t : Template) : k (.controllersOf t) = k' (.controllersOf t)
  /-- Coordinates lead to the same action. -/
  actionFor_eq (r : ActionRef) : k (.actionFor r) = k' (.actionFor r)
  /-- The references in a template keep their order. -/
  inclusionsIn_eq (t : Template) : k (.inclusionsIn t) = k' (.inclusionsIn t)
  /-- The blocks of a template keep their order. -/
  blocksIn_eq (t : Template) : k (.blocksIn t) = k' (.blocksIn t)
  /-- A block of a template shows it as it was asked for. -/
  template_of_block {t : Template} {b : Block} (h : b ∈ k (.blocksIn t)) : b.template = t
  /-- The blocks above a block are the same. -/
  parentBlocks_perm (b : Block) : (k (.parentBlocks b)).Perm (k' (.parentBlocks b))
  /-- The blocks above a block stand in recorded templates. -/
  recorded_of_parentBlock {b p : Block} (h : p ∈ k (.parentBlocks b)) : recorded p.template

namespace Knowledge.Reordered

variable {recorded : Template → Prop} {k k' : Knowledge} {rules : Rules} {document t : Template}

/-- The names of a template are the same, in display order. -/
theorem namesFor_eq (h : Reordered recorded k k') (t : Template) :
    k.namesFor t = k'.namesFor t := Namespace.namesFor_perm h.entries_perm t

/-- Every includer is recorded. -/
theorem recorded_of_includer (h : Reordered recorded k k') {names : List LogicalName}
    (ht : t ∈ k.includers names) : recorded t := by
  obtain ⟨name, -, ht⟩ := List.mem_flatMap.mp (Distinct.mem_of_mem_ofList ht)
  exact h.recorded_of_referencing ht

/-- Blocks of recorded templates that count as one are one. -/
theorem block_eq (h : Reordered recorded k k') {a b : Block} (ha : recorded a.template)
    (hb : recorded b.template) (hsame : identity a = identity b) : a = b := by
  have htemplate : a.template = b.template := h.recorded_once ha hb (Prod.mk.inj hsame).1
  exact Block.eq_of_template_eq htemplate hsame

/-- The includers of names are the same in some order. -/
theorem includers_perm (h : Reordered recorded k k') (names : List LogicalName) :
    (k.includers names).Perm (k'.includers names) := by
  refine Distinct.perm_ofList (fun t ht u hu => ?_) ?_
  · obtain ⟨n, -, ht⟩ := List.mem_flatMap.mp ht
    obtain ⟨m, -, hu⟩ := List.mem_flatMap.mp hu
    exact h.recorded_once (h.recorded_of_referencing ht) (h.recorded_of_referencing hu)
  · exact List.Perm.flatMap_left names fun name _ => h.referencing_perm name

theorem targetsIn_eq (h : Reordered recorded k k') (names : List LogicalName) (t : Template) :
    k.targetsIn names t = k'.targetsIn names t := by
  rw [targetsIn, constructsIn, h.inclusionsIn_eq, targetsIn, constructsIn]

/-- The places in all templates are the same in some order. -/
theorem includeTargets_perm (h : Reordered recorded k k') (names : List LogicalName) :
    (k.includeTargets names).Perm (k'.includeTargets names) := by
  refine (h.includers_perm names).flatMap fun t _ => ?_
  rw [h.targetsIn_eq]

/-- The layers of a template are the same in some order. -/
theorem overwrites_perm (h : Reordered recorded k k') (t : Template) :
    (k.overwrites t).Perm (k'.overwrites t) := by
  rw [overwrites, overwrites, ← h.namesFor_eq]
  refine Distinct.perm_ofList (fun u hu v hv => ?_) ?_
  · obtain ⟨n, -, hu⟩ := List.mem_flatMap.mp hu
    obtain ⟨m, -, hv⟩ := List.mem_flatMap.mp hv
    exact h.recorded_once (h.recorded_of_named (List.mem_of_mem_filter hu))
      (h.recorded_of_named (List.mem_of_mem_filter hv))
  · exact List.Perm.flatMap_left _ fun name _ => (h.templatesNamed_perm name).filter _

/-- Controllers do not depend on the order of the templates. -/
theorem controllerUsages_eq (h : Reordered recorded k k') (rules : Rules) (t : Template) :
    k.controllerUsages rules t = k'.controllerUsages rules t := by
  have hconventional : k.conventionalUsages rules t = k'.conventionalUsages rules t :=
    conventionalUsages_congr rules (h.namesFor_eq t) h.actionFor_eq
  rw [controllerUsages, hconventional, h.controllersOf_eq, controllerUsages]

/-- A template refers to the same templates. -/
theorem refers_iff (h : Reordered recorded k k') {t u : Template} :
    k.Refers t u ↔ k'.Refers t u := by
  rw [Refers, Distinct.holds_perm (h.includers_perm _), h.namesFor_eq, Refers]

/-- What a level adds does not depend on the order in which it is searched. -/
theorem levelAdds_perm (h : Reordered recorded k k') {parent : Template}
    {level level' found found' new new' : List Template} (hlevel : level.Perm level')
    (hfound : found.Perm found') (hnew : k.LevelAdds parent level found new)
    (hnew' : k'.LevelAdds parent level' found' new') : new.Perm new' := by
  refine Distinct.perm_of_holds hnew.noRepeat hnew'.noRepeat (fun t ht u hu => ?_) fun t => ?_
  · obtain ⟨v, -, ht⟩ := hnew.mem_includers t ht
    obtain ⟨w, -, hu⟩ := hnew'.mem_includers u hu
    rw [← h.namesFor_eq, ← (h.includers_perm _).mem_iff] at hu
    exact h.recorded_once (h.recorded_of_includer ht) (h.recorded_of_includer hu)
  · rw [hnew.holds_iff, hnew'.holds_iff, reached_iff_of_perm hfound]
    simp only [hlevel.mem_iff, h.refers_iff]

/-- A descent finds the same templates in some order. -/
theorem descend_perm (h : Reordered recorded k k') (parent : Template) (levels : Nat)
    {d d' : Pass.Descent} (hfound : d.found.Perm d'.found) (hlevel : d.level.Perm d'.level) :
    (k.descend parent levels d).Perm (k'.descend parent levels d') := by
  induction levels generalizing d d' with
  | zero => exact hfound
  | succ levels ih =>
    obtain ⟨new, heq, hnew⟩ := descendLevel_spec k parent d.level ⟨d.found, []⟩
    obtain ⟨new', heq', hnew'⟩ := descendLevel_spec k' parent d'.level ⟨d'.found, []⟩
    -- The order within a level decides only the order in which its children are found.
    have hadds : new.Perm new' := h.levelAdds_perm hlevel hfound hnew hnew'
    by_cases hnone : d.level = []
    · have hnone' : d'.level = [] := (hnone ▸ hlevel).nil_eq.symm
      rw [descend, descend, hnone, hnone']
      exact hfound
    · have hsome' : d'.level ≠ [] := fun he => hnone (he ▸ hlevel).eq_nil
      rw [descend_succ hnone, descend_succ hsome', heq, heq']
      exact ih (hfound.append hadds) hadds

/-- Each template that a descent finds is recorded. -/
theorem recorded_of_mem_descend (h : Reordered recorded k k') {parent : Template} {levels : Nat}
    {d : Pass.Descent} (hfound : ∀ u ∈ d.found, recorded u)
    (ht : t ∈ k.descend parent levels d) : recorded t := by
  induction levels generalizing d with
  | zero => exact hfound t ht
  | succ levels ih =>
    rw [descend] at ht
    split at ht
    · exact hfound t ht
    · obtain ⟨new, heq, hnew⟩ := descendLevel_spec k parent d.level ⟨d.found, []⟩
      refine ih ?_ ht
      rw [heq]
      intro u hu
      rcases List.mem_append.mp hu with hu | hu
      · exact hfound u hu
      · obtain ⟨v, -, hu⟩ := hnew.mem_includers u hu
        exact h.recorded_of_includer hu

/-- The implementations of a block are the same in some order. -/
theorem implementations_perm (h : Reordered recorded k k') (settings : Settings) (b : Block) :
    (k.implementations settings b).Perm (k'.implementations settings b) := by
  have hrecorded {p : Block} (hp : p ∈ (k.children settings b.template).flatMap fun t =>
      (k (.blocksIn t)).filter (·.name == b.name)) : recorded p.template := by
    obtain ⟨t, ht, hp⟩ := List.mem_flatMap.mp hp
    rw [h.template_of_block (List.mem_of_mem_filter hp)]
    refine h.recorded_of_mem_descend (d := ⟨[], [b.template]⟩) ?_ ht
    exact fun u hu => absurd hu List.not_mem_nil
  refine Distinct.perm_ofList (fun p hp q hq => h.block_eq (hrecorded hp) (hrecorded hq)) ?_
  refine (h.descend_perm _ _ .rfl .rfl).flatMap fun t _ => ?_
  rw [h.blocksIn_eq]

theorem overrides_perm (h : Reordered recorded k k') (b : Block) :
    (k.overrides b).Perm (k'.overrides b) := by
  refine Distinct.perm_ofList (fun p hp q hq => ?_) ((h.parentBlocks_perm b).filter _)
  exact h.block_eq (h.recorded_of_parentBlock (List.mem_of_mem_filter hp))
    (h.recorded_of_parentBlock (List.mem_of_mem_filter hq))

/-- The same blocks are related, each to the same blocks in another order. -/
theorem relateBlocks_perm (h : Reordered recorded k k') {resolve resolve' : Block → List Block}
    (hresolve : ∀ b, (resolve b).Perm (resolve' b)) (document : Template) :
    List.Forall₂ (fun r r' : BlockRelations => r.block = r'.block ∧ r.related.Perm r'.related)
      (k.relateBlocks resolve document) (k'.relateBlocks resolve' document) := by
  rw [relateBlocks, relateBlocks, ← h.blocksIn_eq]
  induction k (.blocksIn document) with
  | nil => exact .nil
  | cons b blocks ih =>
    have hempty : (resolve b).isEmpty = (resolve' b).isEmpty := (hresolve b).isEmpty_eq
    rw [List.map_cons, List.map_cons, List.filter_cons, List.filter_cons, ← hempty]
    by_cases hnone : (!(resolve b).isEmpty) = true
    · rw [if_pos hnone, if_pos hnone]
      exact .cons ⟨rfl, hresolve b⟩ ih
    · rw [if_neg hnone, if_neg hnone]
      exact ih

end Knowledge.Reordered

namespace RelatedGroup

/-- Two groups show the same, their items in another order. -/
structure SameUpToOrder (g g' : RelatedGroup) : Prop where
  relation_eq : g.relation = g'.relation
  anchor_eq : g.anchor = g'.anchor
  title_eq : g.title = g'.title
  items_perm : g.items.Perm g'.items

variable {items items' : List RelatedItem}

/-- The title of a group does not depend on the order of its items. -/
theorem title_perm (kind : RelationKind) (anchor : Option Block) (h : items.Perm items') :
    title ⟨kind, anchor, items⟩ = title ⟨kind, anchor, items'⟩ := by
  have hplural (i j : RelatedItem) (rest : List RelatedItem) :
      title ⟨kind, anchor, i :: j :: rest⟩ = kind.pluralTitle := by
    obtain ⟨target, label, via⟩ := i
    cases label <;> rfl
  rcases items with _ | ⟨i, _ | ⟨j, rest⟩⟩
  · rw [h.nil_eq]
  · rw [List.perm_singleton.mp h.symm]
  · have hlength := h.length_eq
    rcases items' with _ | ⟨i', _ | ⟨j', rest'⟩⟩
    · simp at hlength
    · simp at hlength
    · rw [hplural, hplural]

/-- The group of reordered items is the same up to order. -/
theorem unlessEmpty_perm (kind : RelationKind) (anchor : Option Block) (h : items.Perm items') :
    List.Forall₂ SameUpToOrder (unlessEmpty kind anchor items)
      (unlessEmpty kind anchor items') := by
  rw [unlessEmpty, unlessEmpty, ← h.isEmpty_eq]
  by_cases hnone : items.isEmpty = true
  · rw [if_pos hnone, if_pos hnone]
    exact .nil
  · rw [if_neg hnone, if_neg hnone]
    exact .cons ⟨rfl, rfl, title_perm kind anchor h, h⟩ .nil

variable {ns ns' : Namespace} {root : Option Path} {blocks : List Block}
  {implementations implementations' overrides overrides' : Block → List Block}
  {actions : List Action} {places places' : List IncludeTarget} {layers layers' : List Template}

theorem append_perm {gs gs' hs hs' : List RelatedGroup} (h : List.Forall₂ SameUpToOrder gs gs')
    (h' : List.Forall₂ SameUpToOrder hs hs') :
    List.Forall₂ SameUpToOrder (gs ++ hs) (gs' ++ hs') := List.rel_append h h'

/-- Where labels are the same, relations in another order are shown by the same groups, their items
in another order. -/
theorem inOrder_perm (hlabel : ∀ t, label ns root t = label ns' root t)
    (himplementations : ∀ b, (implementations b).Perm (implementations' b))
    (hoverrides : ∀ b, (overrides b).Perm (overrides' b)) (hplaces : places.Perm places')
    (hlayers : layers.Perm layers') :
    List.Forall₂ SameUpToOrder
      (inOrder ns root blocks implementations overrides actions places layers)
      (inOrder ns' root blocks implementations' overrides' actions places' layers') := by
  have hblock : RelatedItem.ofBlock ns root = RelatedItem.ofBlock ns' root := by
    funext b
    rw [RelatedItem.ofBlock, hlabel, RelatedItem.ofBlock]
  have hinclude : RelatedItem.ofInclude ns root = RelatedItem.ofInclude ns' root := by
    funext place
    simp only [RelatedItem.ofInclude, hlabel]
  have htemplate : RelatedItem.ofTemplate ns root = RelatedItem.ofTemplate ns' root := by
    funext t
    rw [RelatedItem.ofTemplate, hlabel, RelatedItem.ofTemplate]
  have hrelations (b : Block) :
      List.Forall₂ SameUpToOrder (ofRelations ns root implementations overrides b)
        (ofRelations ns' root implementations' overrides' b) := by
    rw [ofRelations, ofRelations, hblock]
    exact append_perm (unlessEmpty_perm _ _ ((himplementations b).map _))
      (unlessEmpty_perm _ _ ((hoverrides b).map _))
  have hblocks : List.Forall₂ SameUpToOrder
      (blocks.flatMap (ofRelations ns root implementations overrides))
      (blocks.flatMap (ofRelations ns' root implementations' overrides')) := by
    induction blocks with
    | nil => exact .nil
    | cons b blocks ih =>
      rw [List.flatMap_cons, List.flatMap_cons]
      exact append_perm (hrelations b) ih
  rw [inOrder, inOrder, hinclude, htemplate]
  have hactions := unlessEmpty_perm .controllers none (.refl (actions.map RelatedItem.ofAction))
  have hincludes := unlessEmpty_perm .includes none (hplaces.map (RelatedItem.ofInclude ns' root))
  have hoverwrites := unlessEmpty_perm .overwrites none
    (hlayers.map (RelatedItem.ofTemplate ns' root))
  exact append_perm (append_perm (append_perm hblocks hactions) hincludes) hoverwrites

end RelatedGroup

/-- Two reports say the same, but for the order within what is related. -/
structure Report.SameUpToOrder (r r' : Report) : Prop where
  document_eq : r.document = r'.document
  names_eq : r.names = r'.names
  controllerUsages_eq : r.controllerUsages = r'.controllerUsages
  includers_perm : r.includers.Perm r'.includers
  overwrites_perm : r.overwrites.Perm r'.overwrites
  includeTargets_perm : r.includeTargets.Perm r'.includeTargets
  blockImplementations_perm : List.Forall₂
    (fun b b' : BlockRelations => b.block = b'.block ∧ b.related.Perm b'.related)
    r.blockImplementations r'.blockImplementations
  blockOverrides_perm : List.Forall₂
    (fun b b' : BlockRelations => b.block = b'.block ∧ b.related.Perm b'.related)
    r.blockOverrides r'.blockOverrides
  groups_perm : List.Forall₂ RelatedGroup.SameUpToOrder r.groups r'.groups

/-- Reordered knowledge leads to the same report up to order. -/
theorem Knowledge.Reordered.report {recorded : Template → Prop} {k k' : Knowledge}
    (h : Reordered recorded k k') (hk : k.Consistent) (hk' : k'.Consistent) (rules : Rules)
    (document : Template) :
    (k.report rules document).SameUpToOrder (k'.report rules document) where
  document_eq := rfl
  names_eq := h.namesFor_eq document
  controllerUsages_eq := h.controllerUsages_eq rules document
  includers_perm := by
    change (k.includers (k.namesFor document)).Perm (k'.includers (k'.namesFor document))
    rw [← h.namesFor_eq]
    exact h.includers_perm _
  overwrites_perm := h.overwrites_perm document
  includeTargets_perm := by
    change (k.includeTargets (k.namesFor document)).Perm (k'.includeTargets (k'.namesFor document))
    rw [← h.namesFor_eq]
    exact h.includeTargets_perm _
  blockImplementations_perm :=
    h.relateBlocks_perm (h.implementations_perm rules.settings) document
  blockOverrides_perm := h.relateBlocks_perm h.overrides_perm document
  groups_perm := by
    have hblocks : Distinct.SpelledOnce (k (.blocksIn document)) := fun x hx b hb =>
      Block.eq_of_template_eq ((h.template_of_block hx).trans (h.template_of_block hb).symm)
    have hblocks' : Distinct.SpelledOnce (k' (.blocksIn document)) := by
      rwa [← h.blocksIn_eq]
    change List.Forall₂ _ (k.groups rules document) (k'.groups rules document)
    rw [groups_eq_inOrder hk hblocks, groups_eq_inOrder hk' hblocks', ← h.blocksIn_eq,
      ← h.controllerUsages_eq, ← h.namesFor_eq]
    exact RelatedGroup.inOrder_perm (label_perm h.entries_perm _)
      (h.implementations_perm rules.settings) h.overrides_perm (h.includeTargets_perm _)
      (h.overwrites_perm document)

end TwigRelations
