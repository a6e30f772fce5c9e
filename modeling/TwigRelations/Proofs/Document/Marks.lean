import Mathlib.Data.List.Count
import Mathlib.Data.List.Perm.Basic
import TwigRelations.Proofs.Document.Groups

/-!
# The marks of a report

A group of related items is shown as one mark, at the document or at one of its blocks. The blocks
are taken as the corpus lists them, and a corpus lists a block as often as it is recorded. So a
block that is recorded twice has two equal marks, unless it is related to none.
-/

namespace TwigRelations

namespace Distinct

/-- Where values that count as one are one, a list has no repeats if it has no value twice. -/
theorem SpelledOnce.noRepeat_iff_nodup {α κ : Type} [Identified α κ] {xs : List α}
    (h : SpelledOnce xs) : NoRepeat xs ↔ xs.Nodup := by
  rw [NoRepeat]
  exact ⟨List.Nodup.of_map identity, List.Nodup.map_on h⟩

end Distinct

/-- What is kept of a list is kept once exactly if nothing is kept that comes twice. -/
theorem nodup_filter_iff {α : Type} [DecidableEq α] (p : α → Bool) (xs : List α) :
    (xs.filter p).Nodup ↔ ∀ a, 1 < xs.count a → p a = false := by
  rw [List.nodup_iff_count_le_one]
  refine forall_congr' fun a => ?_
  cases hp : p a with
  | false => simp [List.count_eq_zero_of_not_mem, hp]
  | true => simp [List.count_filter hp]

namespace RelatedGroup

/-- What the mark of a group tells: the relation, and the block if it stands at one. -/
def mark (g : RelatedGroup) : RelationKind × Option (List Component × String × Span) :=
  (g.relation, g.anchor.map identity)

variable {ns : Namespace} {root : Option Path} {blocks : List Block}
  {implementations overrides : Block → List Block} {actions : List Action}
  {places : List IncludeTarget} {layers : List Template}

/-- The blocks that are related to any come as often as the document lists them. -/
theorem map_block_related (blocks : List Block) (resolve : Block → List Block) :
    (related blocks resolve).map (·.block) = blocks.filter fun b => !(resolve b).isEmpty := by
  rw [related, List.filter_map, List.map_map]
  exact List.map_id _

/-- The items of one relation bear one mark, if there are any. -/
theorem map_mark_unlessEmpty_sublist (kind : RelationKind) (anchor : Option Block)
    (items : List RelatedItem) :
    ((unlessEmpty kind anchor items).map mark).Sublist [(kind, anchor.map identity)] := by
  rw [unlessEmpty]
  split
  · exact List.nil_sublist _
  · exact List.Sublist.refl _

/-- The marks of one relation at the blocks of a document. -/
theorem map_mark_flatMap (ns : Namespace) (root : Option Path) (kind : RelationKind)
    (blocks : List Block) (resolve : Block → List Block) :
    (blocks.flatMap fun b => unlessEmpty kind (some b)
        ((resolve b).map (RelatedItem.ofBlock ns root))).map mark =
      ((related blocks resolve).map (·.block)).map fun b => (kind, some (identity b)) := by
  rw [map_block_related]
  induction blocks with
  | nil => rfl
  | cons b rest ih =>
    rw [List.flatMap_cons, List.map_append, ih, List.filter_cons]
    cases resolve b <;> rfl

/-- The marks at the blocks of a document are, in another order, those of either relation. -/
theorem map_mark_ofRelations_perm :
    ((blocks.flatMap (ofRelations ns root implementations overrides)).map mark).Perm
      (((related blocks implementations).map (·.block)).map
          (fun b => (.blockImplementations, some (identity b))) ++
        ((related blocks overrides).map (·.block)).map
          (fun b => (.blockOverrides, some (identity b)))) := by
  rw [← map_mark_flatMap ns root, ← map_mark_flatMap ns root, ← List.map_append]
  exact (List.flatMap_append_perm blocks _ _).symm.map mark

/-- The document as a whole has at most one mark of each relation. -/
theorem map_mark_document_sublist (ns : Namespace) (root : Option Path) (actions : List Action)
    (places : List IncludeTarget) (layers : List Template) :
    ((unlessEmpty .controllers none (actions.map RelatedItem.ofAction) ++
      unlessEmpty .includes none (places.map (RelatedItem.ofInclude ns root)) ++
      unlessEmpty .overwrites none (layers.map (RelatedItem.ofTemplate ns root))).map mark).Sublist
      [(.controllers, none), (.includes, none), (.overwrites, none)] := by
  rw [List.map_append, List.map_append]
  exact ((map_mark_unlessEmpty_sublist _ _ _).append (map_mark_unlessEmpty_sublist _ _ _)).append
    (map_mark_unlessEmpty_sublist _ _ _)

/-- No mark of a document comes twice exactly if no block is twice among those that are related to
any by either relation. -/
theorem nodup_map_mark_inOrder :
    ((inOrder ns root blocks implementations overrides actions places layers).map mark).Nodup ↔
      Distinct.NoRepeat ((related blocks implementations).map (·.block)) ∧
        Distinct.NoRepeat ((related blocks overrides).map (·.block)) := by
  have hmarks (kind : RelationKind) (bs : List Block) :
      (bs.map fun b => (kind, some (identity b))).Nodup ↔ Distinct.NoRepeat bs := by
    have hinjective :
        Function.Injective fun i : List Component × String × Span => (kind, some i) :=
      fun i j h => Option.some.inj (Prod.mk.inj h).2
    rw [Distinct.NoRepeat, ← List.nodup_map_iff hinjective, List.map_map]
    rfl
  have hdocument := map_mark_document_sublist ns root actions places layers
  have hnone : ∀ m ∈ [(.controllers, none), (.includes, none), (.overwrites, none)],
      (m : RelationKind × Option (List Component × String × Span)).2 = none := by decide
  rw [inOrder, List.append_assoc, List.append_assoc, List.map_append, List.nodup_append,
    map_mark_ofRelations_perm.nodup_iff, List.nodup_append, hmarks, hmarks, ← List.append_assoc]
  constructor
  · rintro ⟨⟨himplementations, hoverrides, -⟩, -⟩
    exact ⟨himplementations, hoverrides⟩
  · rintro ⟨himplementations, hoverrides⟩
    refine ⟨⟨himplementations, hoverrides, ?_⟩, hdocument.nodup (by decide), ?_⟩
    · intro m hm m' hm' heq
      obtain ⟨b, -, rfl⟩ := List.mem_map.mp hm
      obtain ⟨b', -, rfl⟩ := List.mem_map.mp hm'
      have hrelation : RelationKind.blockImplementations = .blockOverrides := congrArg Prod.fst heq
      contradiction
    · -- The marks at blocks tell a block, and those of the document none.
      intro m hm m' hm' heq
      have hblock : m'.2 = none := hnone m' (hdocument.mem hm')
      rw [map_mark_ofRelations_perm.mem_iff, List.mem_append, List.mem_map, List.mem_map] at hm
      obtain ⟨b, -, rfl⟩ | ⟨b, -, rfl⟩ := hm <;> simp [← heq] at hblock

end RelatedGroup

/-- No mark of a report comes twice: no block is twice among those that are implemented, nor among
those that override others, and no two groups have one relation and one anchor. -/
structure Report.MarksOnce (r : Report) : Prop where
  /-- No block is twice among those that are implemented. -/
  blockImplementations : Distinct.NoRepeat (r.blockImplementations.map (·.block))
  /-- No block is twice among those that override others. -/
  blockOverrides : Distinct.NoRepeat (r.blockOverrides.map (·.block))
  /-- No two groups have one relation and one anchor. -/
  groups : (r.groups.map RelatedGroup.mark).Nodup

/-- Where blocks that count as one are one, no block that is related to any is kept twice exactly if
each block that is listed twice is related to none. -/
theorem RelatedGroup.noRepeat_related_iff {blocks : List Block}
    (hblocks : Distinct.SpelledOnce blocks) (resolve : Block → List Block) :
    Distinct.NoRepeat ((related blocks resolve).map (·.block)) ↔
      ∀ b, 1 < blocks.count b → resolve b = [] := by
  rw [map_block_related, Distinct.SpelledOnce.noRepeat_iff_nodup, nodup_filter_iff]
  · simp only [Bool.not_eq_false', List.isEmpty_iff]
  · exact fun x hx y hy => hblocks x (List.mem_of_mem_filter hx) y (List.mem_of_mem_filter hy)

/-- No mark comes twice exactly if every block that is listed twice is related to none. -/
theorem Report.Arranged.marksOnce_iff {r : Report} {ns : Namespace} {root : Option Path}
    {blocks : List Block} {implementations overrides : Block → List Block}
    (h : r.Arranged ns root blocks implementations overrides)
    (hblocks : Distinct.SpelledOnce blocks) :
    r.MarksOnce ↔ ∀ b, 1 < blocks.count b → implementations b = [] ∧ overrides b = [] := by
  have himplementations := RelatedGroup.noRepeat_related_iff hblocks implementations
  have hoverrides := RelatedGroup.noRepeat_related_iff hblocks overrides
  simp only [imp_and, forall_and]
  rw [← himplementations, ← hoverrides]
  constructor
  · intro once
    exact ⟨h.blockImplementations_eq.1 ▸ once.blockImplementations,
      h.blockOverrides_eq.1 ▸ once.blockOverrides⟩
  · rintro ⟨hi, ho⟩
    exact {
      blockImplementations := by rwa [h.blockImplementations_eq.1]
      blockOverrides := by rwa [h.blockOverrides_eq.1]
      groups := by
        rw [h.groups_eq]
        exact RelatedGroup.nodup_map_mark_inOrder.mpr ⟨hi, ho⟩ }

namespace Corpus

/-- Whatever a corpus says of a document, its report has a block that is related to any as often as
the corpus lists it. So no mark comes twice exactly if every block that is listed twice is related
to none. -/
theorem report_marksOnce_iff (s : Snapshot) (rules : Rules) (document : Template) :
    ∃ r, ∃ implementations overrides : Block → List Block,
      (ofSnapshot s).undisturbed rules document .report = .ok r ∧
      (∀ b, (ofSnapshot s).resolve (Pass.implementations rules.settings b) =
        .ok (implementations b)) ∧
      (∀ b, (ofSnapshot s).resolve (Pass.overrides b) = .ok (overrides b)) ∧
      r.blockImplementations.map (·.block) =
        ((ofSnapshot s).blocksIn document).filter (fun b => !(implementations b).isEmpty) ∧
      r.blockOverrides.map (·.block) =
        ((ofSnapshot s).blocksIn document).filter (fun b => !(overrides b).isEmpty) ∧
      (r.MarksOnce ↔ ∀ b, 1 < ((ofSnapshot s).blocksIn document).count b →
        implementations b = [] ∧ overrides b = []) := by
  have hready := indexing_ofSnapshot s
  have hblocks := spelledOnce_blocksIn (ofSnapshot s) document
  have harranged : (Knowledge.report (ofSnapshot s).answer rules document).Arranged _ _ _ _ _ :=
    Knowledge.arranged_report (consistent_answer _) hblocks
  refine ⟨_, _, _, undisturbed_eq hready .report,
    fun b => resolve_eq hready (Knowledge.yields_implementations rules.settings b),
    fun b => resolve_eq hready (Knowledge.yields_overrides b),
    RelatedGroup.map_block_related _ _, RelatedGroup.map_block_related _ _,
    harranged.marksOnce_iff hblocks⟩

end Corpus

/-- A page that has a block twice at one place, and a child of it that has the block too. -/
def Snapshot.contentTwice : Snapshot where
  templates := [
    { path := .ofString "page.twig"
      names := [.ofString "page"]
      inclusions := []
      blocks := [⟨"content", .zero⟩, ⟨"content", .zero⟩] },
    { path := .ofString "child.twig"
      names := []
      inclusions := [⟨.inherit, some "page", .zero⟩]
      blocks := [⟨"content", .zero⟩] }]
  controllers := []

namespace Corpus

/-- The block of the page that its child implements is listed twice, in two groups. -/
theorem not_marksOnce_contentTwice :
    let page : Template := .ofString "page.twig"
    let content : Block := ⟨page, "content", .zero⟩
    ∃ r, (ofSnapshot .contentTwice).undisturbed (Corpus.rules .default) page .report = .ok r ∧
      r.blockImplementations.map (·.block) = [content, content] ∧
      r.groups.map (fun g => (g.relation, g.anchor)) =
        [(.blockImplementations, some content), (.blockImplementations, some content),
          (.includes, none)] ∧
      ¬r.MarksOnce := by
  intro page content
  have hreport : (ofSnapshot .contentTwice).undisturbed (Corpus.rules .default) page .report = _ :=
    undisturbed_eq (indexing_ofSnapshot .contentTwice) .report
  have hlisted : (Knowledge.report (ofSnapshot .contentTwice).answer (Corpus.rules .default)
      page).blockImplementations.map (·.block) = [content, content] := by decide +kernel
  refine ⟨_, hreport, hlisted, by decide +kernel, fun honce => ?_⟩
  have hrepeat : ¬Distinct.NoRepeat [content, content] := by
    unfold Distinct.NoRepeat
    decide
  exact hrepeat (hlisted ▸ honce.blockImplementations)

end Corpus

end TwigRelations
