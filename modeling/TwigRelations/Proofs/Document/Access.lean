import TwigRelations.Proofs.Document.Findings

/-!
# What the accessors of a document give

For each accessor: what it may fill of the memory, and that its result is as known. A kept result is
held from then on, and an accessor that fails leaves its own cell empty.
-/

namespace TwigRelations.Findings

variable {α β : Type} {rules : Rules} {document : Template} (f : Findings rules document)

/-- All that a memory holds is as known, and rests on what it must. -/
structure Sound (m : Memory) : Prop where
  /-- The namespace is of its kind. -/
  loaded : Pass.Knows f.kind m.loaded
  /-- Every result that is held is as known. -/
  held : ∀ a v, m.held a = some v → f.holds a v
  /-- Every result that is held rests on what it must. -/
  supported : ∀ a v, m.held a = some v → m.Supports document a v

/-- A sound memory with a given namespace into which another one has grown. -/
structure Reaches (fills : List Accessor) (m : Memory) (known : Option Namespace) (m' : Memory) :
    Prop where
  /-- The namespace is the one that is known by now. -/
  loaded : m'.loaded = known
  /-- The memory is sound. -/
  sound : f.Sound m'
  /-- Only the given cells were filled. -/
  grows : Memory.Grows fills m m'

/-- A computation on a document that is orderly, fills only the given cells, and ends with a result
as given. -/
def Gives (fills : List Accessor) (r : Access α) (result : α → Memory → Prop) : Prop :=
  ∀ m, f.Sound m → Program.Orderly f.admits (f.Reaches fills m)
    (fun known v m' => f.Reaches fills m known m' ∧ result v m') false m.loaded (r m)

/-- A computation on a document that holds its result in a cell, and leaves the cell empty where it
fails. -/
def Keeps (fills : List Accessor) (a : Accessor) (r : Access a.Answer) : Prop :=
  ∀ m, f.Sound m →
    Program.Orderly f.admits (fun known m' => f.Reaches fills m known m' ∧ m'.held a = none)
      (fun known v m' => f.Reaches fills m known m' ∧ m'.held a = some v) false m.loaded (r m)

variable {f} {fills fills' : List Accessor} {m m' m₁ : Memory} {known : Option Namespace}

/-- A fresh memory is sound, since it holds no results. -/
theorem Sound.fresh (h : Pass.Knows f.kind known) : f.Sound (.fresh known) :=
  ⟨h, by simp, by simp⟩

/-- Learning the namespace keeps a memory sound. -/
theorem Sound.withLoaded (h : f.Sound m) (hk : Pass.Knows f.kind known)
    (hle : ∀ ns, m.loaded = some ns → known = some ns) : f.Sound (m.withLoaded known) where
  loaded := hk
  held a v hv := h.held a v (by simpa using hv)
  supported a v hv :=
    (h.supported a v (by simpa using hv)).grows
      (.withLoaded m hle : Memory.Grows [] m (m.withLoaded known))

/-- Keeping a result that is as known, with what it rests on, keeps a memory sound. -/
theorem Sound.keep (h : f.Sound m) {a : Accessor} {v : a.Answer} (ha : a.isKept = true)
    (hm : m.held a = none) (hv : f.holds a v) (hs : m.Supports document a v) :
    f.Sound (m.keep a v) where
  loaded := by
    rw [Memory.loaded_keep]
    exact h.loaded
  held b w hw := by
    by_cases hba : b = a
    · subst hba
      rw [Memory.held_keep_self m ha] at hw
      exact Option.some.inj hw ▸ hv
    · rw [Memory.held_keep_of_ne m hba] at hw
      exact h.held b w hw
  supported b w hw := by
    have hg : Memory.Grows [a] m (m.keep a v) := .keep m hm v List.mem_cons_self
    by_cases hba : b = a
    · subst hba
      rw [Memory.held_keep_self m ha] at hw
      exact (Option.some.inj hw ▸ hs : m.Supports document b w).grows hg
    · rw [Memory.held_keep_of_ne m hba] at hw
      exact (h.supported b w hw).grows hg

theorem Reaches.refl (h : f.Sound m) : f.Reaches fills m m.loaded m := ⟨rfl, h, .refl _ _⟩

theorem Reaches.mono (h : f.Reaches fills m known m') (hs : fills ⊆ fills') :
    f.Reaches fills' m known m' := ⟨h.loaded, h.sound, h.grows.mono hs⟩

/-- A computation may be said to fill more cells and to give less. -/
theorem Gives.mono {r : Access α} {result result' : α → Memory → Prop}
    (h : f.Gives fills r result) (hs : fills ⊆ fills') (hr : ∀ v m, result v m → result' v m) :
    f.Gives fills' r result' := fun m hm =>
  (h m hm).mono (fun _ _ => id) (fun _ _ hf => hf.mono hs)
    fun _ _ _ ⟨he, hv⟩ => ⟨he.mono hs, hr _ _ hv⟩

/-- A result that is kept is given, and held in the end. -/
theorem Keeps.gives {a : Accessor} {r : Access a.Answer} (h : f.Keeps fills a r) :
    f.Gives fills r fun v m' => m'.held a = some v := fun m hm =>
  (h m hm).mono (fun _ _ => id) (fun _ _ hf => hf.1) fun _ _ _ => id

/-- A computation that goes on from a memory that was reached. -/
theorem Gives.after {r : Access α} {result : α → Memory → Prop} (h : f.Gives fills' r result)
    (hs : fills' ⊆ fills) (hr : f.Reaches fills m known m₁) :
    Program.Orderly f.admits (f.Reaches fills m)
      (fun known v m' => f.Reaches fills m known m' ∧ Memory.Grows fills m₁ m' ∧ result v m') false
      known (r m₁) := by
  rw [← hr.loaded]
  refine (h m₁ hr.sound).mono (fun _ _ => id) ?_ ?_
  · intro known m' hm
    exact ⟨hm.loaded, hm.sound, hr.grows.trans (hm.grows.mono hs)⟩
  · rintro known v m' ⟨hm, hv⟩
    exact ⟨⟨hm.loaded, hm.sound, hr.grows.trans (hm.grows.mono hs)⟩, hm.grows.mono hs, hv⟩

/-- A step of the pass changes the namespace only. -/
theorem orderly_inPass {p : Pass α} {found : Option Namespace → α → Prop} (hm : f.Sound m)
    (h : Program.Orderly f.admits (fun known ns => ns = known ∧ Pass.Knows f.kind known)
      (fun known v ns => ns = known ∧ Pass.Knows f.kind known ∧ found known v) false m.loaded
      (p m.loaded)) :
    Program.Orderly f.admits (f.Reaches fills m)
      (fun known v m' => f.Reaches fills m known m' ∧ found known v) false m.loaded
      (Document.inPass p m) := by
  refine .within h.keeps_known ?_ ?_
  · rintro known _ ⟨⟨rfl, hk⟩, hle⟩
    exact ⟨rfl, hm.withLoaded hk hle, .withLoaded m hle⟩
  · rintro known v _ ⟨⟨rfl, hk, hv⟩, hle⟩
    exact ⟨⟨rfl, hm.withLoaded hk hle, .withLoaded m hle⟩, hv⟩

/-- A step of the pass fills no cell and gives what it finds. -/
theorem gives_inPass {p : Pass α} {found : α → Prop} (h : Pass.Finds f.admits f.kind p found) :
    f.Gives fills (Document.inPass p) fun v _ => found v := fun m hm =>
  orderly_inPass hm (h m.loaded hm.loaded)

/-- A result that is kept is held from then on. -/
theorem keeps_remember {a : Accessor} (ha : a.isKept = true) (hfills : a ∉ fills)
    {compute : Access a.Answer}
    (h : f.Gives fills compute fun v m' => f.holds a v ∧ m'.Supports document a v) :
    f.Keeps (a :: fills) a (Resolution.remember (·.held a) (·.keep a) compute) := by
  intro m hm
  refine .remember (fun v hv => ⟨.refl hm, hv⟩) fun hnone => ?_
  have hempty {m' : Memory} (hg : Memory.Grows fills m m') : m'.held a = none :=
    (hg.frame a hfills).trans hnone
  refine (h m hm).mono (fun _ _ => id) ?_ ?_
  · intro known m' hr
    exact ⟨hr.mono (List.subset_cons_self _ _), hempty hr.grows⟩
  · rintro known v m' ⟨hr, hv, hs⟩
    have hkept : Memory.Grows (a :: fills) m' (m'.keep a v) :=
      .keep m' (hempty hr.grows) v List.mem_cons_self
    refine ⟨⟨?_, hr.sound.keep ha (hempty hr.grows) hv hs, ?_⟩, Memory.held_keep_self m' ha v⟩
    · rw [Memory.loaded_keep, hr.loaded]
    · exact (hr.grows.mono (List.subset_cons_self _ _)).trans hkept

/-- A step of the pass that depends on a result that is kept. -/
theorem Keeps.inPass {a : Accessor} {r : Access a.Answer} (h : f.Keeps fills a r)
    {p : a.Answer → Pass β} {found : β → Prop}
    (hp : ∀ v, f.holds a v → Pass.Finds f.admits f.kind (p v) found) :
    f.Gives fills (r >>= fun v => Document.inPass (p v)) fun w m' =>
      found w ∧ (m'.held a).isSome = true := by
  intro m hm
  refine .bind (h.gives m hm) fun known v m₁ ⟨hr, hv⟩ => ?_
  have hheld : f.holds a v := hr.sound.held a v hv
  refine ((gives_inPass (hp v hheld)).after (List.Subset.refl _) hr).mono (fun _ _ => id)
    (fun _ _ => id) ?_
  rintro known w m' ⟨hr', hg, hw⟩
  exact ⟨hr', hw, by simp [hg.held a v hv]⟩

/-- The names are kept. -/
theorem keeps_names : f.Keeps [.names] .names (Document.names document) := by
  refine keeps_remember rfl List.not_mem_nil fun m hm => ?_
  have hload := Pass.orderly_loadNamespace f.load hm.loaded
  have hnames : Program.Orderly f.admits (fun known ns => ns = known ∧ Pass.Knows f.kind known)
      (fun known v ns => ns = known ∧ Pass.Knows f.kind known ∧
        ∃ space, known = some space ∧ space.namesFor document = v) false m.loaded
      (Pass.namesFor document m.loaded) := by
    refine .bind hload ?_
    rintro known space _ ⟨rfl, hk, hs⟩
    exact .done ⟨rfl, hk, space, hs, rfl⟩
  refine (orderly_inPass hm hnames).mono (fun _ _ => id) (fun _ _ => id) ?_
  rintro known v m' ⟨hr, space, hs, hv⟩
  have hloaded : m'.loaded = some space := hr.loaded.trans hs
  exact ⟨hr, hv ▸ f.names space (hr.sound.loaded space hloaded), space, hloaded, hv⟩

/-- The existence check keeps nothing but the names. -/
theorem gives_hasIncluders :
    f.Gives [.names] (Document.hasIncluders document) fun v _ => f.holds .hasIncluders v := by
  intro m hm
  rw [Document.hasIncluders, Resolution.get_bind_apply]
  cases hfound : m.includers with
  | some found => exact .done ⟨.refl hm, f.includers_any found (hm.held .includers found hfound)⟩
  | none =>
    exact ((keeps_names.inPass f.hasIncluders).mono (List.Subset.refl _) fun _ _ h => h.1) m hm

/-- The includers are kept, and are found by names that are kept. -/
theorem keeps_includers : f.Keeps [.includers, .names] .includers (Document.includers document) :=
  keeps_remember rfl (by simp) (keeps_names.inPass f.includers)

/-- The include targets are kept, and are found by names that are kept. -/
theorem keeps_includeTargets :
    f.Keeps [.includeTargets, .names] .includeTargets (Document.includeTargets document) :=
  keeps_remember rfl (by simp) (keeps_names.inPass f.includeTargets)

theorem keeps_overwrites : f.Keeps [.overwrites] .overwrites (Document.overwrites document) :=
  keeps_remember rfl List.not_mem_nil
    ((gives_inPass f.overwrites).mono (List.Subset.refl _) fun _ _ h => ⟨h, trivial⟩)

theorem keeps_blocks : f.Keeps [.blocks] .blocks (Document.blocks document) := by
  refine keeps_remember rfl List.not_mem_nil fun m hm => ?_
  refine .checkpoint_bind (.refl hm) ?_
  rw [← bind_pure (Resolution.ask _)]
  refine .ask_bind (by simp) (.refl hm) fun bs hbs => ?_
  rw [Query.learned_of_ne (by simp)]
  exact .done ⟨.refl hm, f.blocks bs hbs, trivial⟩

/-- Relating the blocks of a document keeps nothing but the blocks. -/
theorem gives_relateBlocks {resolve : Block → Pass (List Block)}
    {found : List BlockRelations → Prop} (h : ∀ bs, f.holds .blocks bs →
      Pass.Finds f.admits f.kind (Pass.relate resolve bs) found) :
    f.Gives [.blocks] (Document.relateBlocks document resolve) fun v _ => found v := by
  rw [Document.relateBlocks_eq]
  exact (keeps_blocks.inPass h).mono (List.Subset.refl _) fun _ _ h => h.1

theorem keeps_blockImplementations : f.Keeps [.blockImplementations, .blocks]
    .blockImplementations (Document.blockImplementations rules document) :=
  keeps_remember rfl (by simp)
    ((gives_relateBlocks f.blockImplementations).mono (List.Subset.refl _)
      fun _ _ h => ⟨h, trivial⟩)

theorem keeps_blockOverrides :
    f.Keeps [.blockOverrides, .blocks] .blockOverrides (Document.blockOverrides document) :=
  keeps_remember rfl (by simp)
    ((gives_relateBlocks f.blockOverrides).mono (List.Subset.refl _) fun _ _ h => ⟨h, trivial⟩)

theorem keeps_controllerUsages :
    f.Keeps [.controllerUsages] .controllerUsages (Document.controllerUsages rules document) :=
  keeps_remember rfl List.not_mem_nil
    ((gives_inPass f.controllerUsages).mono (List.Subset.refl _) fun _ _ h => ⟨h, trivial⟩)

/-- The group of the places that refer to the document is there if anything is known to, and then
the places are held. -/
theorem gives_includeGroups (ns : Namespace) :
    f.Gives [.includeTargets, .names] (Document.includeGroups rules document ns) fun gs m' =>
      ∃ included, f.holds .hasIncluders included ∧
        (included = true → m'.includeTargets.isSome = true) ∧
        gs = if included then [⟨.includes, none, (m'.includeTargets.getD []).map
          (RelatedItem.ofInclude ns rules.settings.projectRoot)⟩] else [] := by
  intro m hm
  refine .bind (gives_hasIncluders.after (List.subset_cons_self _ _) (.refl hm)) ?_
  rintro known included m₁ ⟨hr₁, -, hincluded⟩
  cases included with
  | false => exact .done ⟨hr₁, false, hincluded, by simp⟩
  | true =>
    refine .bind (keeps_includeTargets.gives.after (List.Subset.refl _) hr₁) ?_
    rintro known targets m₂ ⟨hr₂, -, htargets⟩
    have heq : m₂.includeTargets = some targets := htargets
    exact .done ⟨hr₂, true, hincluded, fun _ => by simp [heq], by simp [heq]⟩

/-- The cells that the groups of a document may fill. -/
def groupCells : List Accessor :=
  [.names, .includeTargets, .overwrites, .blocks, .blockImplementations, .blockOverrides,
    .controllerUsages]

/-- The groups of a document are put together from results that are held by then. -/
theorem gives_groups :
    f.Gives groupCells (Document.groups rules document) fun gs m' =>
      ∃ included, f.holds .hasIncluders included ∧ m'.ShowsGroups rules included gs := by
  intro m hm
  refine .bind (orderly_inPass hm (Pass.orderly_loadNamespace f.load hm.loaded)) ?_
  rintro _ ns m₁ ⟨hr₁, rfl⟩
  refine .bind (keeps_blockImplementations.gives.after (by decide) hr₁) ?_
  rintro _ implementations m₂ ⟨hr₂, hg₂, himplementations⟩
  refine .bind (keeps_blockOverrides.gives.after (by decide) hr₂) ?_
  rintro _ overrides m₃ ⟨hr₃, hg₃, hoverrides⟩
  refine .bind (keeps_blocks.gives.after (by decide) hr₃) ?_
  rintro _ blocks m₄ ⟨hr₄, hg₄, hblocks⟩
  refine .bind (keeps_controllerUsages.gives.after (by decide) hr₄) ?_
  rintro _ actions m₅ ⟨hr₅, hg₅, hactions⟩
  refine .bind ((gives_includeGroups ns).after (by decide) hr₅) ?_
  rintro _ includes m₆ ⟨hr₆, hg₆, included, hincluded, htargets, rfl⟩
  refine .bind (keeps_overwrites.gives.after (by decide) hr₆) ?_
  rintro _ layers m₇ ⟨hr₇, hg₇, hlayers⟩
  have hg₃₇ : Memory.Grows groupCells m₃ m₇ := hg₄.trans (hg₅.trans (hg₆.trans hg₇))
  have hns : m₇.loaded = some ns := (hg₂.trans (hg₃.trans hg₃₇)).loaded ns hr₁.loaded
  have h₁ := (hg₃.trans hg₃₇).held _ _ himplementations
  have h₂ := hg₃₇.held _ _ hoverrides
  have h₃ := (hg₅.trans (hg₆.trans hg₇)).held _ _ hblocks
  have h₄ := (hg₆.trans hg₇).held _ _ hactions
  refine .done ⟨hr₇, included, hincluded, ?_, ?_, ns, hns, ?_⟩
  · simp [h₁, h₂, h₃, h₄, hlayers]
  · exact fun hi => Memory.Grows.isSome (a := .includeTargets) hg₇ (htargets hi)
  · have h₅ : m₇.overwrites = some layers := hlayers
    have ht : included = true → m₇.includeTargets.getD [] = m₆.includeTargets.getD [] := by
      intro hi
      obtain ⟨targets, hs⟩ := Option.isSome_iff_exists.mp (htargets hi)
      have hs₇ : m₇.includeTargets = some targets := hg₇.held .includeTargets targets hs
      rw [hs, hs₇]
    have e₁ : m₇.blockImplementations = some implementations := h₁
    have e₂ : m₇.blockOverrides = some overrides := h₂
    have e₃ : m₇.blocks = some blocks := h₃
    have e₄ : m₇.controllerUsages = some actions := h₄
    rw [Memory.arrange, Document.arrange, e₁, e₂, e₃, e₄, h₅]
    cases included with
    | false => rfl
    | true =>
      rw [ht rfl]
      rfl

/-- The cells that a report may fill. -/
def reportCells : List Accessor := .includers :: groupCells

/-- The report of a document consists of results that are held by then. -/
theorem gives_report :
    f.Gives reportCells (Document.report rules document) fun r m' =>
      ∃ included, f.holds .hasIncluders included ∧ m'.ShowsReport rules document included r := by
  intro m hm
  refine .bind (gives_groups.after (List.subset_cons_self _ _) (.refl hm)) ?_
  rintro _ gs m₁ ⟨hr₁, -, included, hincluded, hgroups⟩
  refine .bind (keeps_includers.gives.after (by decide) hr₁) ?_
  rintro _ found m₂ ⟨hr₂, hg₂, hfound⟩
  have hnames : m₂.names.isSome = true := hr₂.sound.supported .includers found hfound
  refine .done ⟨hr₂, included, hincluded, ?_, hnames, ?_, rfl⟩
  · exact hgroups.grows hg₂
  · rw [show m₂.includers = some found from hfound]
    rfl

theorem Keeps.mono {a : Accessor} {r : Access a.Answer} (h : f.Keeps fills a r)
    (hs : fills ⊆ fills') : f.Keeps fills' a r := fun m hm =>
  (h m hm).mono (fun _ _ => id) (fun _ _ ⟨hf, hn⟩ => ⟨hf.mono hs, hn⟩)
    fun _ _ _ ⟨he, hv⟩ => ⟨he.mono hs, hv⟩

/-- An accessor whose result is kept holds it, and leaves its own cell empty where it fails. -/
theorem keeps_access {a : Accessor} (ha : a.isKept = true) :
    f.Keeps reportCells a (a.access rules document) := by
  cases a with
  | names => exact keeps_names.mono (by decide)
  | includers => exact keeps_includers.mono (by decide)
  | includeTargets => exact keeps_includeTargets.mono (by decide)
  | overwrites => exact keeps_overwrites.mono (by decide)
  | blocks => exact keeps_blocks.mono (by decide)
  | blockImplementations => exact keeps_blockImplementations.mono (by decide)
  | blockOverrides => exact keeps_blockOverrides.mono (by decide)
  | controllerUsages => exact keeps_controllerUsages.mono (by decide)
  | hasIncluders | groups | report => contradiction

/-- What every accessor gives is as known. -/
theorem gives_access (a : Accessor) :
    f.Gives reportCells (a.access rules document) fun v _ => f.holds a v := by
  intro m hm
  by_cases ha : a.isKept = true
  · exact (keeps_access ha m hm).mono (fun _ _ => id) (fun _ _ h => h.1)
      fun _ v _ ⟨hr, hv⟩ => ⟨hr, hr.sound.held a v hv⟩
  · cases a with
    | hasIncluders => exact gives_hasIncluders.mono (by decide) (fun _ _ => id) m hm
    | groups =>
      refine gives_groups.mono (List.subset_cons_self _ _) (fun _ _ => id) m hm |>.mono
        (fun _ _ => id) (fun _ _ => id) ?_
      rintro known gs m' ⟨hr, included, hi, hg⟩
      exact ⟨hr, f.groups m' included gs hr.sound.loaded hr.sound.held hi hg⟩
    | report =>
      refine (gives_report m hm).mono (fun _ _ => id) (fun _ _ => id) ?_
      rintro known r m' ⟨hr, included, hi, hg⟩
      exact ⟨hr, f.report m' included r hr.sound.loaded hr.sound.held hi hg⟩
    | _ => exact absurd rfl ha

end TwigRelations.Findings
