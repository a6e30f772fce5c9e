import Mathlib.Data.List.Basic
import TwigRelations.Proofs.Collection
import TwigRelations.Proofs.View

/-!
# Groups and fields of a report

A report has every relationship twice: as a field, and as groups of labelled items. Groups in order
are told by the fields, and each field is read back from the groups, so that there is no group
exactly if nothing is related.
-/

namespace TwigRelations

/-- Blocks of one template that count as one are one. -/
theorem Block.eq_of_template_eq {a b : Block} (htemplate : a.template = b.template)
    (h : identity a = identity b) : a = b := by
  obtain ⟨-, hrest⟩ := Prod.mk.inj h
  obtain ⟨hname, hspan⟩ := Prod.mk.inj hrest
  cases a
  cases b
  congr

namespace RelatedTarget

/-- The template that a target is, if it is one. -/
def template? : RelatedTarget → Option Template
  | .template t => some t
  | _ => none

/-- The block that a target is, if it is one. -/
def block? : RelatedTarget → Option Block
  | .block b => some b
  | _ => none

/-- The including place that a target is, if it is one. -/
def include? : RelatedTarget → Option IncludeTarget
  | .include place => some place
  | _ => none

/-- The action that a target is, if it is one. -/
def controller? : RelatedTarget → Option Action
  | .controller a => some a
  | _ => none

end RelatedTarget

namespace RelatedGroup

variable {α : Type}

/-- What the items of the groups of one relation lead to, in order. -/
def targets (kind : RelationKind) (read : RelatedTarget → Option α) (groups : List RelatedGroup) :
    List α :=
  (groups.filter (·.relation == kind)).flatMap fun g => g.items.filterMap fun i => read i.target

/-- What the groups of one relation of blocks tell, block by block. -/
def relations (kind : RelationKind) (groups : List RelatedGroup) : List BlockRelations :=
  (groups.filter (·.relation == kind)).filterMap fun g =>
    g.anchor.map fun b => ⟨b, g.items.filterMap fun i => i.target.block?⟩

/-- The group of some items, unless there is none. -/
def unlessEmpty (kind : RelationKind) (anchor : Option Block) (items : List RelatedItem) :
    List RelatedGroup :=
  if items.isEmpty then [] else [⟨kind, anchor, items⟩]

section unlessEmpty

variable {kind kind' : RelationKind} {anchor : Option Block} {items : List RelatedItem}
  {g : RelatedGroup} {gs gs' : List RelatedGroup} {read : RelatedTarget → Option α}

/-- The group of some items is there exactly if the items are. -/
theorem mem_unlessEmpty :
    g ∈ unlessEmpty kind anchor items ↔ items ≠ [] ∧ g = ⟨kind, anchor, items⟩ := by
  rw [unlessEmpty]
  cases items <;> simp

theorem unlessEmpty_eq_nil_iff : unlessEmpty kind anchor items = [] ↔ items = [] := by
  rw [unlessEmpty]
  cases items <;> simp

/-- Whatever is read under another relation is not there. -/
theorem filter_unlessEmpty_of_ne (h : kind ≠ kind') :
    (unlessEmpty kind anchor items).filter (·.relation == kind') = [] := by
  rw [List.filter_eq_nil_iff]
  intro g hg
  rw [(mem_unlessEmpty.mp hg).2, beq_iff_eq]
  exact h

theorem filter_unlessEmpty_self :
    (unlessEmpty kind anchor items).filter (·.relation == kind) =
      unlessEmpty kind anchor items := by
  rw [List.filter_eq_self]
  intro g hg
  rw [(mem_unlessEmpty.mp hg).2, beq_self_eq_true]

theorem targets_append :
    targets kind read (gs ++ gs') = targets kind read gs ++ targets kind read gs' := by
  rw [targets, List.filter_append, List.flatMap_append, ← targets, ← targets]

/-- The group of some items leads nowhere under another relation. -/
theorem targets_unlessEmpty_of_ne (h : kind ≠ kind') :
    targets kind' read (unlessEmpty kind anchor items) = [] := by
  rw [targets, filter_unlessEmpty_of_ne h, List.flatMap_nil]

/-- Items lead back to what they were made for. -/
theorem filterMap_target {item : α → RelatedItem} (hread : ∀ x, read (item x).target = some x)
    (xs : List α) : (xs.map item).filterMap (fun i => read i.target) = xs := by
  rw [List.filterMap_map]
  have hsome : xs.filterMap ((fun i => read i.target) ∘ item) = xs.filterMap some :=
    List.filterMap_congr fun x _ => hread x
  rw [hsome, List.filterMap_some]

/-- The items of a group are read back under its relation. -/
theorem targets_unlessEmpty_self {item : α → RelatedItem}
    (hread : ∀ x, read (item x).target = some x) (xs : List α) :
    targets kind read (unlessEmpty kind anchor (xs.map item)) = xs := by
  rw [targets, filter_unlessEmpty_self, unlessEmpty]
  by_cases h : xs = []
  · rw [h]
    rfl
  · rw [if_neg (by simpa using h), List.flatMap_singleton, filterMap_target hread]

theorem relations_append :
    relations kind (gs ++ gs') = relations kind gs ++ relations kind gs' := by
  rw [relations, List.filter_append, List.filterMap_append, ← relations, ← relations]

theorem relations_unlessEmpty_of_ne (h : kind ≠ kind') :
    relations kind' (unlessEmpty kind anchor items) = [] := by
  rw [relations, filter_unlessEmpty_of_ne h, List.filterMap_nil]

/-- The document has no group of a relation of blocks. -/
theorem relations_unlessEmpty_none : relations kind (unlessEmpty kind' none items) = [] := by
  rw [relations, List.filterMap_eq_nil_iff]
  intro g hg
  rw [(mem_unlessEmpty.mp (List.mem_of_mem_filter hg)).2]
  rfl

/-- The blocks that a block is related to are read back from its group. -/
theorem relations_unlessEmpty_self (ns : Namespace) (root : Option Path) (b : Block)
    (related : List Block) :
    relations kind (unlessEmpty kind (some b) (related.map (RelatedItem.ofBlock ns root))) =
      [(⟨b, related⟩ : BlockRelations)].filter (!·.related.isEmpty) := by
  rw [relations, filter_unlessEmpty_self, unlessEmpty]
  by_cases h : related = []
  · rw [h]
    rfl
  · rw [if_neg (by simpa using h), List.filter_cons_of_pos (by simpa using h), List.filterMap_cons,
      Option.map_some, filterMap_target fun _ => rfl]
    rfl

end unlessEmpty

variable (ns : Namespace) (root : Option Path)

/-- The groups of a block: its implementations, then what it overrides. -/
def ofRelations (implementations overrides : Block → List Block) (b : Block) : List RelatedGroup :=
  unlessEmpty .blockImplementations (some b) ((implementations b).map (RelatedItem.ofBlock ns root))
    ++ unlessEmpty .blockOverrides (some b) ((overrides b).map (RelatedItem.ofBlock ns root))

/-- The groups of a document: those of its blocks in order, then its controllers, the places that
include it, and its layers. -/
def inOrder (blocks : List Block) (implementations overrides : Block → List Block)
    (actions : List Action) (places : List IncludeTarget) (layers : List Template) :
    List RelatedGroup :=
  blocks.flatMap (ofRelations ns root implementations overrides)
    ++ unlessEmpty .controllers none (actions.map RelatedItem.ofAction)
    ++ unlessEmpty .includes none (places.map (RelatedItem.ofInclude ns root))
    ++ unlessEmpty .overwrites none (layers.map (RelatedItem.ofTemplate ns root))

section inOrder

variable {ns root} {blocks : List Block} {implementations overrides : Block → List Block}
  {actions : List Action} {places : List IncludeTarget} {layers : List Template}
  {g : RelatedGroup} {b : Block}

/-- The blocks that are related to any block, with the relation of each. -/
def related (blocks : List Block) (resolve : Block → List Block) : List BlockRelations :=
  (blocks.map fun b => ⟨b, resolve b⟩).filter (!·.related.isEmpty)

/-- The related blocks come block by block. -/
theorem related_eq_flatMap (blocks : List Block) (resolve : Block → List Block) :
    related blocks resolve =
      blocks.flatMap fun b => [(⟨b, resolve b⟩ : BlockRelations)].filter (!·.related.isEmpty) := by
  induction blocks with
  | nil => rfl
  | cons b rest ih =>
    rw [List.flatMap_cons, ← ih, related, related, List.map_cons, ← List.singleton_append,
      List.filter_append]

/-- No group is empty. -/
theorem items_ne_nil_of_mem_inOrder
    (h : g ∈ inOrder ns root blocks implementations overrides actions places layers) :
    g.items ≠ [] := by
  have hgroup {kind : RelationKind} {anchor : Option Block} {items : List RelatedItem}
      (h : g ∈ unlessEmpty kind anchor items) : g.items ≠ [] := by
    obtain ⟨hne, rfl⟩ := mem_unlessEmpty.mp h
    exact hne
  rw [inOrder, List.mem_append, List.mem_append, List.mem_append, List.mem_flatMap] at h
  rcases h with ((⟨b, -, h⟩ | h) | h) | h
  · rcases List.mem_append.mp h with h | h <;> exact hgroup h
  · exact hgroup h
  · exact hgroup h
  · exact hgroup h

/-- There is no group exactly if nothing is related. -/
theorem inOrder_eq_nil_iff :
    inOrder ns root blocks implementations overrides actions places layers = [] ↔
      related blocks implementations = [] ∧ related blocks overrides = [] ∧ actions = [] ∧
        places = [] ∧ layers = [] := by
  have hblocks : blocks.flatMap (ofRelations ns root implementations overrides) = [] ↔
      related blocks implementations = [] ∧ related blocks overrides = [] := by
    rw [List.flatMap_eq_nil_iff, related_eq_flatMap, related_eq_flatMap, List.flatMap_eq_nil_iff,
      List.flatMap_eq_nil_iff, ← forall₂_and]
    refine forall₂_congr fun b _ => ?_
    rw [ofRelations, List.append_eq_nil_iff, unlessEmpty_eq_nil_iff, unlessEmpty_eq_nil_iff,
      List.map_eq_nil_iff, List.map_eq_nil_iff]
    simp
  rw [inOrder, List.append_eq_nil_iff, List.append_eq_nil_iff, List.append_eq_nil_iff, hblocks,
    unlessEmpty_eq_nil_iff, unlessEmpty_eq_nil_iff, unlessEmpty_eq_nil_iff, List.map_eq_nil_iff,
    List.map_eq_nil_iff, List.map_eq_nil_iff, and_assoc, and_assoc, and_assoc]

/-- The groups of blocks lead nowhere under a relation of the document. -/
theorem targets_flatMap_ofRelations {α : Type} {kind : RelationKind}
    {read : RelatedTarget → Option α} (himplementations : .blockImplementations ≠ kind)
    (hoverrides : .blockOverrides ≠ kind) :
    targets kind read (blocks.flatMap (ofRelations ns root implementations overrides)) = [] := by
  induction blocks with
  | nil => rfl
  | cons b rest ih =>
    rw [List.flatMap_cons, targets_append, ih, ofRelations, targets_append,
      targets_unlessEmpty_of_ne himplementations, targets_unlessEmpty_of_ne hoverrides]
    rfl

/-- The actions shown are those given, in order. -/
theorem targets_controllers_inOrder : targets .controllers RelatedTarget.controller?
    (inOrder ns root blocks implementations overrides actions places layers) = actions := by
  rw [inOrder, targets_append, targets_append, targets_append,
    targets_flatMap_ofRelations (by decide) (by decide), targets_unlessEmpty_self fun _ => rfl,
    targets_unlessEmpty_of_ne (by decide), targets_unlessEmpty_of_ne (by decide)]
  simp

theorem targets_includes_inOrder : targets .includes RelatedTarget.include?
    (inOrder ns root blocks implementations overrides actions places layers) = places := by
  rw [inOrder, targets_append, targets_append, targets_append,
    targets_flatMap_ofRelations (by decide) (by decide), targets_unlessEmpty_of_ne (by decide),
    targets_unlessEmpty_self fun _ => rfl, targets_unlessEmpty_of_ne (by decide)]
  simp

theorem targets_overwrites_inOrder : targets .overwrites RelatedTarget.template?
    (inOrder ns root blocks implementations overrides actions places layers) = layers := by
  rw [inOrder, targets_append, targets_append, targets_append,
    targets_flatMap_ofRelations (by decide) (by decide), targets_unlessEmpty_of_ne (by decide),
    targets_unlessEmpty_of_ne (by decide), targets_unlessEmpty_self fun _ => rfl]
  rfl

/-- Where the groups of each block tell its relation, those of all blocks tell all relations. -/
theorem relations_flatMap {kind : RelationKind} {resolve : Block → List Block}
    {groups : Block → List RelatedGroup}
    (h : ∀ b, relations kind (groups b) =
      [(⟨b, resolve b⟩ : BlockRelations)].filter (!·.related.isEmpty)) :
    relations kind (blocks.flatMap groups) = related blocks resolve := by
  rw [related_eq_flatMap]
  induction blocks with
  | nil => rfl
  | cons b rest ih => rw [List.flatMap_cons, List.flatMap_cons, relations_append, ih, h]

/-- Only the groups of blocks tell how blocks are related. -/
theorem relations_inOrder {kind : RelationKind} :
    relations kind (inOrder ns root blocks implementations overrides actions places layers) =
      relations kind (blocks.flatMap (ofRelations ns root implementations overrides)) := by
  rw [inOrder, relations_append, relations_append, relations_append, relations_unlessEmpty_none,
    relations_unlessEmpty_none, relations_unlessEmpty_none]
  simp

/-- The implementations shown are those of each block, in order. -/
theorem relations_blockImplementations_inOrder : relations .blockImplementations
    (inOrder ns root blocks implementations overrides actions places layers) =
      related blocks implementations := by
  rw [relations_inOrder]
  refine relations_flatMap fun b => ?_
  rw [ofRelations, relations_append, relations_unlessEmpty_self,
    relations_unlessEmpty_of_ne (by decide), List.append_nil]

theorem relations_blockOverrides_inOrder : relations .blockOverrides
    (inOrder ns root blocks implementations overrides actions places layers) =
      related blocks overrides := by
  rw [relations_inOrder]
  refine relations_flatMap fun b => ?_
  rw [ofRelations, relations_append, relations_unlessEmpty_self,
    relations_unlessEmpty_of_ne (by decide), List.nil_append]

/-- Where blocks that count as one are one, looking a block up among those that are related to any
finds its own relation. -/
theorem find?_related {resolve : Block → List Block} (hb : b ∈ blocks)
    (h : ∀ x ∈ blocks, identity x = identity b → x = b) :
    (related blocks resolve).find? (fun r => same r.block b) =
      if (resolve b).isEmpty then none else some ⟨b, resolve b⟩ := by
  rw [related, List.find?_filter, List.find?_map]
  by_cases hnone : (resolve b).isEmpty = true
  · rw [if_pos hnone, Option.map_eq_none_iff, List.find?_eq_none]
    intro x hx hfound
    simp only [Function.comp_apply, decide_eq_true_eq, same_iff] at hfound
    rw [h x hx hfound.2, hnone] at hfound
    exact absurd hfound.1 (by decide)
  · rw [if_neg hnone, Option.map_eq_some_iff]
    cases hfind : blocks.find? _ with
    | none =>
      have hno := List.find?_eq_none.mp hfind b hb
      simp only [Function.comp_apply, decide_eq_true_eq, same_refl, and_true] at hno
      exact absurd (by simpa using hno) hnone
    | some x =>
      have hfound := List.find?_some hfind
      simp only [Function.comp_apply, decide_eq_true_eq, same_iff] at hfound
      obtain rfl := h x (List.mem_of_find?_eq_some hfind) hfound.2
      exact ⟨x, rfl, rfl⟩

/-- Where blocks that count as one are one, the groups of a block are those of its own relations,
however often the block comes. -/
theorem ofBlocks_related (h : Distinct.SpelledOnce blocks) :
    ofBlocks ns root blocks (related blocks implementations) (related blocks overrides) =
      blocks.flatMap (ofRelations ns root implementations overrides) := by
  refine List.flatMap_congr fun b hb => ?_
  have hgroup (kind : RelationKind) (resolve : Block → List Block) :
      (((related blocks resolve).find? fun r => same r.block b).map
        (ofBlock ns root kind)).toList =
      unlessEmpty kind (some b) ((resolve b).map (RelatedItem.ofBlock ns root)) := by
    rw [find?_related hb fun x hx => h x hx b hb, unlessEmpty]
    cases resolve b <;> rfl
  rw [ofRelations, ← hgroup, ← hgroup]

end inOrder

end RelatedGroup

/-- Whether all relationships of a report are empty. -/
def Report.Unrelated (r : Report) : Prop :=
  r.includers = [] ∧ r.includeTargets = [] ∧ r.overwrites = [] ∧ r.blockImplementations = [] ∧
    r.blockOverrides = [] ∧ r.controllerUsages = []

open RelatedGroup in
/-- The groups of a report and its fields determine each other, where its document has the given
blocks and these are related to others in the given way. -/
structure Report.Arranged (ns : Namespace) (root : Option Path) (blocks : List Block)
    (implementations overrides : Block → List Block) (r : Report) : Prop where
  /-- The groups are those of the blocks and of the fields. -/
  groups_eq : r.groups = inOrder ns root blocks implementations overrides r.controllerUsages
    r.includeTargets r.overwrites
  /-- No group is empty. -/
  items_ne_nil : ∀ g ∈ r.groups, g.items ≠ []
  /-- The blocks that are implemented are those with a group, and as their groups tell. -/
  blockImplementations_eq : r.blockImplementations = related blocks implementations ∧
    r.blockImplementations = relations .blockImplementations r.groups
  /-- The blocks that override others are those with a group, and as their groups tell. -/
  blockOverrides_eq : r.blockOverrides = related blocks overrides ∧
    r.blockOverrides = relations .blockOverrides r.groups
  /-- The controllers are as their group tells. -/
  controllerUsages_eq : r.controllerUsages =
    targets .controllers RelatedTarget.controller? r.groups
  /-- The including places are as their group tells. -/
  includeTargets_eq : r.includeTargets = targets .includes RelatedTarget.include? r.groups
  /-- The including templates are those of the including places. -/
  includers_eq : r.includers = Distinct.ofList (r.includeTargets.map (·.template))
  /-- The layers are as their group tells. -/
  overwrites_eq : r.overwrites = targets .overwrites RelatedTarget.template? r.groups
  /-- There are including places exactly if there are including templates. -/
  includeTargets_ne_nil_iff : r.includeTargets ≠ [] ↔ r.includers ≠ []
  /-- A report is empty exactly if nothing is related. -/
  isEmpty_iff : r.isEmpty = true ↔ r.Unrelated
  /-- That nothing is related is printed exactly if it is so. -/
  showReport_iff :
    Cli.showReport r = Cli.heading r ++ "\nNo related templates found.\n" ↔ r.Unrelated

end TwigRelations
