import TwigRelations.Proofs.Knowledge
import TwigRelations.Proofs.Pass.Finds

/-!
# What a document remembers

A memory has one cell for each relationship that is kept. While a document is asked its memory only
grows: a cell that is filled stays as it is, and which cells may be filled is known for each
accessor.
-/

namespace TwigRelations

/-- Whether the result of an accessor is kept. -/
def Accessor.isKept : Accessor → Bool
  | hasIncluders | groups | report => false
  | _ => true

namespace Memory

/-- What is held for an accessor. -/
def held (m : Memory) : (a : Accessor) → Option a.Answer
  | .names => m.names
  | .includers => m.includers
  | .includeTargets => m.includeTargets
  | .overwrites => m.overwrites
  | .blocks => m.blocks
  | .blockImplementations => m.blockImplementations
  | .blockOverrides => m.blockOverrides
  | .controllerUsages => m.controllerUsages
  | .hasIncluders | .groups | .report => none

/-- The memory with the result of an accessor kept, if it is one that is kept. -/
def keep (m : Memory) : (a : Accessor) → a.Answer → Memory
  | .names, v => { m with names := some v }
  | .includers, v => { m with includers := some v }
  | .includeTargets, v => { m with includeTargets := some v }
  | .overwrites, v => { m with overwrites := some v }
  | .blocks, v => { m with blocks := some v }
  | .blockImplementations, v => { m with blockImplementations := some v }
  | .blockOverrides, v => { m with blockOverrides := some v }
  | .controllerUsages, v => { m with controllerUsages := some v }
  | .hasIncluders, _ | .groups, _ | .report, _ => m

/-- The memory with another namespace of its pass. -/
def withLoaded (m : Memory) (known : Option Namespace) : Memory := { m with loaded := known }

variable {m m' m'' : Memory} {a b : Accessor} {fills fills' : List Accessor}

/-- A fresh memory holds no result. -/
@[simp] theorem held_fresh (known : Option Namespace) (a : Accessor) :
    (fresh known).held a = none := by
  cases a <;> rfl

@[simp] theorem loaded_keep (m : Memory) (a : Accessor) (v : a.Answer) :
    (m.keep a v).loaded = m.loaded := by
  cases a <;> rfl

/-- A result that is kept is held. -/
theorem held_keep_self (m : Memory) (ha : a.isKept = true) (v : a.Answer) :
    (m.keep a v).held a = some v := by
  cases a with
  | hasIncluders | groups | report => contradiction
  | _ => rfl

/-- Keeping a result does not touch the other cells. -/
theorem held_keep_of_ne (m : Memory) (h : b ≠ a) (v : a.Answer) :
    (m.keep a v).held b = m.held b := by
  cases a <;> cases b <;> first | rfl | contradiction

@[simp] theorem held_withLoaded (m : Memory) (known : Option Namespace) (a : Accessor) :
    (m.withLoaded known).held a = m.held a := by
  cases a <;> rfl

/-- A memory from which another one has grown by filling some of the given cells. -/
structure Grows (fills : List Accessor) (m m' : Memory) : Prop where
  /-- The namespace stays the same once loaded. -/
  loaded : ∀ ns, m.loaded = some ns → m'.loaded = some ns
  /-- What is held stays as it is. -/
  held : ∀ a v, m.held a = some v → m'.held a = some v
  /-- No other cell is filled. -/
  frame : ∀ a, a ∉ fills → m'.held a = m.held a

namespace Grows

theorem refl (fills : List Accessor) (m : Memory) : Grows fills m m :=
  ⟨fun _ h => h, fun _ _ h => h, fun _ _ => rfl⟩

theorem trans (h : Grows fills m m') (h' : Grows fills m' m'') : Grows fills m m'' where
  loaded ns hns := h'.loaded ns (h.loaded ns hns)
  held a v hv := h'.held a v (h.held a v hv)
  frame a ha := (h'.frame a ha).trans (h.frame a ha)

theorem mono (h : Grows fills m m') (hs : fills ⊆ fills') : Grows fills' m m' where
  loaded := h.loaded
  held := h.held
  frame a ha := h.frame a fun hm => ha (hs hm)

/-- Learning the namespace is growing, as long as no other one was known. -/
theorem withLoaded {known : Option Namespace} (m : Memory)
    (h : ∀ ns, m.loaded = some ns → known = some ns) : Grows fills m (m.withLoaded known) :=
  ⟨h, by simp, by simp⟩

/-- Keeping a result in a cell that was empty. -/
theorem keep (m : Memory) (ha : m.held a = none) (v : a.Answer) (hs : a ∈ fills) :
    Grows fills m (m.keep a v) where
  loaded ns hns := by rwa [loaded_keep]
  held b w hw := by
    have hne : b ≠ a := by
      rintro rfl
      rw [ha] at hw
      contradiction
    rwa [held_keep_of_ne m hne]
  frame b hb := held_keep_of_ne m (fun he => hb (by rwa [he])) v

/-- A cell that is filled was filled before, where it is none of those that may be filled. -/
theorem isSome (h : Grows fills m m') (hm : (m.held a).isSome = true) :
    (m'.held a).isSome = true := by
  obtain ⟨v, hv⟩ := Option.isSome_iff_exists.mp hm
  rw [h.held a v hv]
  rfl

end Grows

/-- The groups that a memory shows under a namespace, where it is known whether the document is
included. -/
def arrange (rules : Rules) (ns : Namespace) (included : Bool) (m : Memory) : List RelatedGroup :=
  Document.arrange rules ns (m.blocks.getD []) (m.blockImplementations.getD [])
    (m.blockOverrides.getD []) (m.controllerUsages.getD []) included (m.includeTargets.getD [])
    (m.overwrites.getD [])

/-- The groups are the same where the same is held of all that goes into them. -/
theorem arrange_congr {rules : Rules} {ns : Namespace} {included : Bool}
    (h : ∀ a ∈ [Accessor.blocks, .blockImplementations, .blockOverrides, .controllerUsages,
      .overwrites], m.held a = m'.held a)
    (ht : included = true → m.held .includeTargets = m'.held .includeTargets) :
    m.arrange rules ns included = m'.arrange rules ns included := by
  have h₁ : m.blocks = m'.blocks := h .blocks (by simp)
  have h₂ : m.blockImplementations = m'.blockImplementations := h .blockImplementations (by simp)
  have h₃ : m.blockOverrides = m'.blockOverrides := h .blockOverrides (by simp)
  have h₄ : m.controllerUsages = m'.controllerUsages := h .controllerUsages (by simp)
  have h₅ : m.overwrites = m'.overwrites := h .overwrites (by simp)
  rw [arrange, arrange, h₁, h₂, h₃, h₄, h₅]
  cases included with
  | false => rfl
  | true =>
    have h₆ : m.includeTargets = m'.includeTargets := ht rfl
    rw [h₆]

/-- A memory shows some groups: everything that goes into them is held, and they are put together
from it. -/
structure ShowsGroups (rules : Rules) (m : Memory) (included : Bool) (groups : List RelatedGroup) :
    Prop where
  /-- All that goes into the groups of every document is held. -/
  full : ∀ a ∈ [Accessor.blocks, .blockImplementations, .blockOverrides, .controllerUsages,
    .overwrites], (m.held a).isSome = true
  /-- The places that refer to the document are held where there are any. -/
  targets : included = true → m.includeTargets.isSome = true
  /-- The groups are put together under the namespace of the pass. -/
  groups_eq : ∃ ns, m.loaded = some ns ∧ groups = m.arrange rules ns included

/-- Groups that a memory shows are shown by every memory that it grows into. -/
theorem ShowsGroups.grows {rules : Rules} {included : Bool} {groups : List RelatedGroup}
    (h : m.ShowsGroups rules included groups) (hg : Grows fills m m') :
    m'.ShowsGroups rules included groups := by
  have hkeep (a : Accessor) (ha : (m.held a).isSome = true) : m.held a = m'.held a := by
    obtain ⟨v, hv⟩ := Option.isSome_iff_exists.mp ha
    rw [hv, hg.held a v hv]
  have htargets (hi : included = true) : (m.held .includeTargets).isSome = true := h.targets hi
  obtain ⟨ns, hns, heq⟩ := h.groups_eq
  refine ⟨fun a ha => hg.isSome (h.full a ha), fun hi => hg.isSome (htargets hi), ns,
    hg.loaded ns hns, ?_⟩
  exact heq.trans (arrange_congr (fun a ha => hkeep a (h.full a ha)) fun hi =>
    hkeep _ (htargets hi))

/-- A memory shows a report: the report consists of what is held. -/
structure ShowsReport (rules : Rules) (document : Template) (m : Memory) (included : Bool)
    (r : Report) : Prop where
  /-- The groups are shown. -/
  groups : m.ShowsGroups rules included r.groups
  /-- The names are held. -/
  names_isSome : m.names.isSome = true
  /-- The includers are held. -/
  includers_isSome : m.includers.isSome = true
  /-- The report consists of what is held and of the groups. -/
  eq : r = {
    document
    names := m.names.getD []
    includers := m.includers.getD []
    includeTargets := m.includeTargets.getD []
    overwrites := m.overwrites.getD []
    blockImplementations := m.blockImplementations.getD []
    blockOverrides := m.blockOverrides.getD []
    controllerUsages := m.controllerUsages.getD []
    groups := r.groups }

/-- What else is held where a memory holds a result: names are those of the namespace that is
loaded, and what is found by names is found by names that are held. -/
def Supports (document : Template) (m : Memory) : (a : Accessor) → a.Answer → Prop
  | .names, v => ∃ ns, m.loaded = some ns ∧ ns.namesFor document = v
  | .includers, _ | .includeTargets, _ => m.names.isSome = true
  | _, _ => True

/-- What a result rests on is not lost. -/
theorem Supports.grows {document : Template} {v : a.Answer} (h : m.Supports document a v)
    (hg : Grows fills m m') : m'.Supports document a v := by
  cases a with
  | names =>
    obtain ⟨ns, hns, hv⟩ := h
    exact ⟨ns, hg.loaded ns hns, hv⟩
  | includers => exact Grows.isSome (a := .names) hg h
  | includeTargets => exact Grows.isSome (a := .names) hg h
  | _ => trivial

end Memory

end TwigRelations
