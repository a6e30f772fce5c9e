import TwigRelations.Proofs.Knowledge
import TwigRelations.Proofs.Namespace

/-!
# Reports of one path under two spellings

A template is its path, however that is spelled. Where the indexes tell templates apart by path, two
spellings of a document have one report: it shows the spelling as the document itself and as what
its own blocks stand in, and nowhere else.
-/

namespace TwigRelations

/-- The same block under another spelling of its template. -/
def Block.spelledAs (t : Template) (b : Block) : Block := { b with template := t }

/-- The same relations under another spelling of the document. -/
def BlockRelations.spelledAs (t : Template) (r : BlockRelations) : BlockRelations :=
  { r with block := r.block.spelledAs t }

/-- The same group under another spelling of the document. -/
def RelatedGroup.spelledAs (t : Template) (g : RelatedGroup) : RelatedGroup :=
  { g with anchor := g.anchor.map (·.spelledAs t) }

/-- The same report under another spelling of the document. -/
def Report.spelledAs (t : Template) (r : Report) : Report :=
  { r with
    document := t
    blockImplementations := r.blockImplementations.map (·.spelledAs t)
    blockOverrides := r.blockOverrides.map (·.spelledAs t)
    groups := r.groups.map (·.spelledAs t) }

/-- Everything that a report says of its document under a given spelling. -/
structure Report.Spells (r : Report) (t : Template) : Prop where
  /-- The document itself is spelled so. -/
  document_eq : r.document = t
  /-- The blocks with implementations stand in the document. -/
  implementations : ∀ x ∈ r.blockImplementations, x.block.template = t
  /-- The blocks with overrides stand in the document. -/
  overrides : ∀ x ∈ r.blockOverrides, x.block.template = t
  /-- The groups of blocks are anchored in the document. -/
  anchors : ∀ g ∈ r.groups, ∀ b ∈ g.anchor, b.template = t

variable {t t' : Template} {b b' : Block}

/-- Values of one identity count as one with the same values. -/
theorem same_congr_right {α κ : Type} [Identified α κ] [DecidableEq κ] {a a' : α}
    (h : identity a = identity a') (x : α) : same x a = same x a' := by
  rw [same, h, same]

/-- A block keeps its identity under another spelling of its template. -/
theorem Block.identity_spelledAs (hb : b.template = t) (h : identity t = identity t') :
    identity (b.spelledAs t') = identity b := by
  subst hb
  exact congrArg (·, b.name, b.span) h.symm

/-- A report that is put under a spelling shows its document in it throughout. -/
theorem Report.spells_spelledAs (r : Report) (t : Template) : (r.spelledAs t).Spells t where
  document_eq := rfl
  implementations := List.forall_mem_map.mpr fun _ _ => rfl
  overrides := List.forall_mem_map.mpr fun _ _ => rfl
  anchors := by
    refine List.forall_mem_map.mpr fun g _ b hb => ?_
    obtain ⟨b, -, rfl⟩ := Option.map_eq_some_iff.mp hb
    rfl

/-- The relations of a block are found under both spellings of the document. -/
theorem BlockRelations.find?_spelledAs {relations : List BlockRelations}
    (hrelations : ∀ r ∈ relations, r.block.template = t) (hb : b.template = t)
    (h : identity t = identity t') :
    (relations.map (spelledAs t')).find? (fun r => same r.block (b.spelledAs t')) =
      (relations.find? fun r => same r.block b).map (spelledAs t') := by
  induction relations with
  | nil => rfl
  | cons r rest ih =>
    obtain ⟨hr, hrest⟩ := List.forall_mem_cons.mp hrelations
    have hsame : same (r.spelledAs t').block (b.spelledAs t') = same r.block b := by
      rw [same, Block.identity_spelledAs hb h, spelledAs, Block.identity_spelledAs hr h, same]
    rw [List.map_cons, List.find?_cons, List.find?_cons, hsame]
    cases same r.block b with
    | true => rfl
    | false => exact ih hrest

/-- The groups of blocks under another spelling of the document. -/
theorem RelatedGroup.ofBlocks_spelledAs (ns : Namespace) (root : Option Path) {blocks : List Block}
    {implementations overrides : List BlockRelations} (hblocks : ∀ b ∈ blocks, b.template = t)
    (himplementations : ∀ r ∈ implementations, r.block.template = t)
    (hoverrides : ∀ r ∈ overrides, r.block.template = t) (h : identity t = identity t') :
    ofBlocks ns root (blocks.map (·.spelledAs t')) (implementations.map (·.spelledAs t'))
        (overrides.map (·.spelledAs t')) =
      (ofBlocks ns root blocks implementations overrides).map (·.spelledAs t') := by
  have hgroup (kind : RelationKind) {relations : List BlockRelations}
      (hrelations : ∀ r ∈ relations, r.block.template = t) (b : Block) (hb : b.template = t) :
      (((relations.map (·.spelledAs t')).find? fun r => same r.block (b.spelledAs t')).map
          (ofBlock ns root kind)).toList =
        ((relations.find? fun r => same r.block b).map (ofBlock ns root kind)).toList.map
          (·.spelledAs t') := by
    rw [BlockRelations.find?_spelledAs hrelations hb h]
    cases relations.find? fun r => same r.block b <;> rfl
  rw [ofBlocks, ofBlocks, List.flatMap_map, List.map_flatMap]
  refine List.flatMap_congr fun b hb => ?_
  dsimp only
  rw [List.map_append, hgroup _ himplementations b (hblocks b hb),
    hgroup _ hoverrides b (hblocks b hb)]

/-- The groups of a document as a whole do not show how it is spelled. -/
theorem RelatedGroup.ofDocument_spelledAs (kind : RelationKind) (items : List RelatedItem)
    (t : Template) : (ofDocument kind items).map (·.spelledAs t) = ofDocument kind items := by
  rw [ofDocument]
  split <;> rfl

/-- The groups of a document under another spelling of it. -/
theorem Document.arrange_spelledAs (rules : Rules) (ns : Namespace) {blocks : List Block}
    {implementations overrides : List BlockRelations} (actions : List Action) (included : Bool)
    (targets : List IncludeTarget) (layers : List Template)
    (hblocks : ∀ b ∈ blocks, b.template = t)
    (himplementations : ∀ r ∈ implementations, r.block.template = t)
    (hoverrides : ∀ r ∈ overrides, r.block.template = t) (h : identity t = identity t') :
    arrange rules ns (blocks.map (·.spelledAs t')) (implementations.map (·.spelledAs t'))
        (overrides.map (·.spelledAs t')) actions included targets layers =
      (arrange rules ns blocks implementations overrides actions included targets layers).map
        (·.spelledAs t') := by
  rw [arrange, RelatedGroup.ofBlocks_spelledAs ns _ hblocks himplementations hoverrides h, arrange,
    List.map_append, List.map_append, List.map_append, RelatedGroup.ofDocument_spelledAs,
    RelatedGroup.ofDocument_spelledAs]
  cases included <;> rfl

namespace Pass

/-- Which children are new is told by the path of the parent. -/
theorem newChildren_congr (h : identity t = identity t') : newChildren t = newChildren t' := by
  funext found candidates
  simp only [newChildren, same_congr_right h]

end Pass

namespace Knowledge

variable {k : Knowledge}

theorem namesFor_congr (h : identity t = identity t') : k.namesFor t = k.namesFor t' :=
  Namespace.namesFor_congr h _

theorem descendLevel_congr (h : identity t = identity t') (level : List Template)
    (d : Pass.Descent) : k.descendLevel t level d = k.descendLevel t' level d := by
  simp only [descendLevel, Pass.newChildren_congr h]

/-- What a descent finds is told by the path of the parent. -/
theorem descend_congr_parent (h : identity t = identity t') (levels : Nat) (d : Pass.Descent) :
    k.descend t levels d = k.descend t' levels d := by
  induction levels generalizing d with
  | zero => rfl
  | succ levels ih =>
    rw [descend, descend]
    simp only [descendLevel_congr h, ih]

/-- A descent begins alike from both spellings of the parent. -/
theorem children_congr (settings : Settings) (h : identity t = identity t') :
    k.children settings t = k.children settings t' := by
  rw [children, children]
  cases settings.maxChildDepth with
  | zero => rfl
  | succ levels =>
    have hfirst : k.descendLevel t' [t] ⟨[], []⟩ = k.descendLevel t' [t'] ⟨[], []⟩ := by
      simp only [descendLevel, List.foldl_cons, namesFor_congr h, List.foldl_nil]
    change k.descend t levels (k.descendLevel t [t] _) = k.descend t' levels _
    rw [descend_congr_parent h, descendLevel_congr h, hfirst]

theorem overwrites_congr (h : identity t = identity t') : k.overwrites t = k.overwrites t' := by
  simp only [overwrites, namesFor_congr h, same_congr_right h]

/-- What the indexes say of a template is told by its path, and a block shows the template as it was
asked for. -/
structure ByPath (k : Knowledge) : Prop where
  /-- The blocks of a template differ in its spelling only. -/
  blocksIn_eq {t t' : Template} (h : identity t = identity t') :
    k (.blocksIn t') = (k (.blocksIn t)).map (·.spelledAs t')
  /-- The blocks above a block are the same. -/
  parentBlocks_eq {b b' : Block} (h : identity b = identity b') :
    k (.parentBlocks b) = k (.parentBlocks b')
  /-- The actions that render a template are the same. -/
  controllersOf_eq {t t' : Template} (h : identity t = identity t') :
    k (.controllersOf t) = k (.controllersOf t')

namespace ByPath

/-- A block of a template shows it as it was asked for. -/
theorem template_eq (hk : k.ByPath) (hb : b ∈ k (.blocksIn t)) : b.template = t := by
  rw [hk.blocksIn_eq rfl] at hb
  obtain ⟨b, -, rfl⟩ := List.mem_map.mp hb
  rfl

/-- The implementations of a block are told by its identity. -/
theorem implementations_eq (settings : Settings) (h : identity b = identity b') :
    k.implementations settings b = k.implementations settings b' := by
  obtain ⟨htemplate, hrest⟩ := Prod.mk.inj h
  obtain ⟨hname, -⟩ := Prod.mk.inj hrest
  rw [implementations, implementations, children_congr settings htemplate, hname]

/-- The blocks that a block overrides are told by its identity. -/
theorem overrides_eq (hk : k.ByPath) (h : identity b = identity b') :
    k.overrides b = k.overrides b' := by
  simp only [overrides, hk.parentBlocks_eq h, same_congr_right h]

/-- Blocks of a document are related alike under both of its spellings. -/
theorem relateBlocks_eq (hk : k.ByPath) (h : identity t = identity t')
    {resolve : Block → List Block}
    (hresolve : ∀ b b', identity b = identity b' → resolve b = resolve b') :
    k.relateBlocks resolve t' = (k.relateBlocks resolve t).map (·.spelledAs t') := by
  have hpairs : ((k (.blocksIn t)).map (·.spelledAs t')).map
      (fun b => (⟨b, resolve b⟩ : BlockRelations)) =
        ((k (.blocksIn t)).map fun b => (⟨b, resolve b⟩ : BlockRelations)).map
          (·.spelledAs t') := by
    rw [List.map_map, List.map_map]
    refine List.map_congr_left fun b hb => ?_
    exact congrArg (BlockRelations.mk (b.spelledAs t'))
      (hresolve _ _ (Block.identity_spelledAs (hk.template_eq hb) h))
  rw [relateBlocks, hk.blocksIn_eq h, hpairs, List.filter_map, relateBlocks]
  rfl

/-- The relations of a document are those of its blocks. -/
theorem template_eq_of_relateBlocks (hk : k.ByPath) {resolve : Block → List Block} :
    ∀ r ∈ k.relateBlocks resolve t, r.block.template = t := by
  intro r hr
  rw [relateBlocks] at hr
  obtain ⟨b, hb, rfl⟩ := List.mem_map.mp (List.mem_of_mem_filter hr)
  exact hk.template_eq hb

/-- The controllers of a template are told by its path. -/
theorem controllerUsages_eq (hk : k.ByPath) (rules : Rules) (h : identity t = identity t') :
    k.controllerUsages rules t = k.controllerUsages rules t' := by
  rw [controllerUsages, conventionalUsages, namesFor_congr h, hk.controllersOf_eq h,
    controllerUsages, conventionalUsages]

/-- The blocks with implementations show the spelling that was asked for, and all else is the same.
-/
theorem blockImplementations_eq (hk : k.ByPath) (rules : Rules) (h : identity t = identity t') :
    k.blockImplementations rules t' = (k.blockImplementations rules t).map (·.spelledAs t') :=
  hk.relateBlocks_eq h fun _ _ => implementations_eq rules.settings

theorem blockOverrides_eq (hk : k.ByPath) (h : identity t = identity t') :
    k.blockOverrides t' = (k.blockOverrides t).map (·.spelledAs t') :=
  hk.relateBlocks_eq h fun _ _ => hk.overrides_eq

/-- The groups show the spelling that was asked for where they belong to a block, and are the same
otherwise. -/
theorem groups_eq (hk : k.ByPath) (rules : Rules) (h : identity t = identity t') :
    k.groups rules t' = (k.groups rules t).map (·.spelledAs t') := by
  rw [groups, hk.blocksIn_eq h, hk.blockImplementations_eq rules h, hk.blockOverrides_eq h,
    ← namesFor_congr h, ← hk.controllerUsages_eq rules h, ← overwrites_congr h]
  exact Document.arrange_spelledAs rules _ _ _ _ _ (fun _ => hk.template_eq)
    hk.template_eq_of_relateBlocks hk.template_eq_of_relateBlocks h

/-- Two spellings of a path have one report, which shows the spelling as the document and as what
its blocks stand in. -/
theorem report_eq (hk : k.ByPath) (rules : Rules) (h : identity t = identity t') :
    k.report rules t' = (k.report rules t).spelledAs t' := by
  rw [report, ← namesFor_congr h, ← overwrites_congr h, hk.blockImplementations_eq rules h,
    hk.blockOverrides_eq h, ← hk.controllerUsages_eq rules h, hk.groups_eq rules h]
  rfl

end ByPath

end Knowledge

end TwigRelations
