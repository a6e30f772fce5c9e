import TwigRelations.Proofs.Corpus.Undisturbed
import TwigRelations.Proofs.Document.Visits

/-!
# Answers under disturbance

However a document is asked, and whatever fails or is cancelled meanwhile, its answers are those of
a fresh document that is left in peace: no partial result is ever given or kept, and the order of
access does not matter.
-/

namespace TwigRelations

/-- The same surroundings, where every query that does not fail has the known answer. -/
def Environment.answering {σ : Type} (env : Environment σ) (k : Knowledge) : Environment σ where
  poll := env.poll
  reply q s := ((env.reply q s).1.map fun _ => k q, (env.reply q s).2)

/-- Surroundings that answer from what is known give no other answers. -/
theorem Environment.admits_answering {σ : Type} (env : Environment σ) (k : Knowledge) :
    (env.answering k).Admits fun q a => a = k q := by
  intro q s a h
  dsimp only [answering] at h
  cases hr : (env.reply q s).1 with
  | error e => simp [hr, Except.map] at h
  | ok b => simpa [hr, Except.map, eq_comm] using h

namespace Knowledge

variable {k : Knowledge} {rules : Rules} {document : Template}

/-- Whether a name is referred to is told as if by looking up the templates that do. -/
def Consistent (k : Knowledge) : Prop :=
  ∀ name, k (.hasReferencing name) = !(k (.referencing name)).isEmpty

/-- Where the existence check is told by the lookup, a document has includers exactly if some are
found. -/
theorem hasIncluders_eq (hk : k.Consistent) (names : List LogicalName) :
    k.hasIncluders names = !(k.includers names).isEmpty := by
  rw [includers, Distinct.isEmpty_ofList, hasIncluders]
  induction names with
  | nil => rfl
  | cons name names ih =>
    rw [List.any_cons, ih, hk, List.flatMap_cons]
    cases k (.referencing name) <;> simp

/-- Relating blocks one by one gives the relations of all of them that are known. -/
theorem yields_relate {resolve : Block → Pass (List Block)} {related : Block → List Block}
    (h : ∀ b, k.Yields (resolve b) (related b)) (document : Template) :
    k.Yields (Pass.relate resolve (k (.blocksIn document))) (k.relateBlocks related document) := by
  have hblock (b : Block) : k.Yields (do return (⟨b, ← resolve b⟩ : BlockRelations))
      ⟨b, related b⟩ := (h b).bind (.pure _)
  exact (Yields.mapM hblock).bind (.pure _)

/-- The memory of a document of which everything is known. -/
def memory (k : Knowledge) (rules : Rules) (document : Template) : Memory where
  loaded := some k.toNamespace
  names := some (k.answerTo rules document .names)
  includers := some (k.answerTo rules document .includers)
  includeTargets := some (k.answerTo rules document .includeTargets)
  overwrites := some (k.answerTo rules document .overwrites)
  blocks := some (k.answerTo rules document .blocks)
  blockImplementations := some (k.answerTo rules document .blockImplementations)
  blockOverrides := some (k.answerTo rules document .blockOverrides)
  controllerUsages := some (k.answerTo rules document .controllerUsages)

/-- What is held is what a memory of everything holds, where all that is held is true. -/
theorem held_eq_memory {m : Memory}
    (h : ∀ a v, m.held a = some v → v = k.answerTo rules document a) {a : Accessor}
    (ha : (m.held a).isSome = true) : m.held a = (k.memory rules document).held a := by
  obtain ⟨v, hv⟩ := Option.isSome_iff_exists.mp ha
  rw [hv, h a v hv]
  cases a with
  | hasIncluders | groups | report => contradiction
  | _ => rfl

/-- Groups that are shown by a memory of true results are the true groups. -/
theorem groups_eq {m : Memory} {included : Bool} {groups : List RelatedGroup}
    (hloaded : ∀ ns, m.loaded = some ns → ns = k.toNamespace)
    (hheld : ∀ a v, m.held a = some v → v = k.answerTo rules document a)
    (hincluded : included = k.hasIncluders (k.namesFor document))
    (h : m.ShowsGroups rules included groups) : groups = k.groups rules document := by
  obtain ⟨ns, hns, rfl⟩ := h.groups_eq
  obtain rfl := hloaded ns hns
  have harrange : m.arrange rules k.toNamespace included =
      (k.memory rules document).arrange rules k.toNamespace included :=
    Memory.arrange_congr (fun a ha => held_eq_memory hheld (h.full a ha)) fun hi =>
      held_eq_memory hheld (h.targets hi)
  rw [harrange, hincluded]
  rfl

/-- A report that is shown by a memory of true results is the true report. -/
theorem report_eq (hk : k.Consistent) {m : Memory} {included : Bool} {r : Report}
    (hloaded : ∀ ns, m.loaded = some ns → ns = k.toNamespace)
    (hheld : ∀ a v, m.held a = some v → v = k.answerTo rules document a)
    (hincluded : included = k.hasIncluders (k.namesFor document))
    (h : m.ShowsReport rules document included r) : r = k.report rules document := by
  have hcell (a : Accessor) (ha : (m.held a).isSome = true) :
      m.held a = (k.memory rules document).held a := held_eq_memory hheld ha
  have h₁ : m.names = some (k.namesFor document) := hcell .names h.names_isSome
  have h₂ : m.includers = some (k.includers (k.namesFor document)) :=
    hcell .includers h.includers_isSome
  have h₃ : m.blockImplementations = some (k.blockImplementations rules document) :=
    hcell .blockImplementations (h.groups.full _ (by simp))
  have h₄ : m.blockOverrides = some (k.blockOverrides document) :=
    hcell .blockOverrides (h.groups.full _ (by simp))
  have h₅ : m.controllerUsages = some (k.controllerUsages rules document) :=
    hcell .controllerUsages (h.groups.full _ (by simp))
  have h₆ : m.overwrites = some (k.overwrites document) :=
    hcell .overwrites (h.groups.full _ (by simp))
  have h₇ : m.includeTargets.getD [] = k.includeTargets (k.namesFor document) := by
    cases ht : m.includeTargets with
    | some targets => exact hheld .includeTargets targets ht
    | none =>
      have hnone : included = false := by
        cases hi : included with
        | false => rfl
        | true => simpa [ht] using h.groups.targets hi
      rw [hincluded, hasIncluders_eq hk, Bool.not_eq_false', List.isEmpty_iff] at hnone
      simp [includeTargets, hnone]
  rw [h.eq, h₁, h₂, h₃, h₄, h₅, h₆, h₇, groups_eq hloaded hheld hincluded h.groups]
  rfl

/-- What is known of a document where each query has one answer: every result is the true one. -/
def findings (hk : k.Consistent) (rules : Rules) (document : Template) :
    Findings rules document where
  admits q a := a = k q
  kind := (· = k.toNamespace)
  holds a v := v = k.answerTo rules document a
  load := by
    rintro _ rfl
    rfl
  names := by
    rintro _ rfl
    rfl
  hasIncluders := by
    rintro _ rfl
    exact yields_hasIncluders _
  includers := by
    rintro _ rfl
    exact yields_includers _
  includers_any := by
    rintro _ rfl
    exact (hasIncluders_eq hk _).symm
  includeTargets := by
    rintro _ rfl
    exact yields_includeTargets _
  overwrites := yields_overwrites document
  blocks _ h := h
  blockImplementations := by
    rintro _ rfl
    exact yields_relate (yields_implementations rules.settings) document
  blockOverrides := by
    rintro _ rfl
    exact yields_relate yields_overrides document
  controllerUsages := yields_controllerUsages rules document
  groups _ _ _ := groups_eq
  report _ _ _ := report_eq hk

end Knowledge

namespace Corpus

variable {c : Corpus} {rules : Rules} {document : Template}

/-- The answer of an accessor on a fresh document, where nothing fails and nothing is cancelled. -/
def undisturbed (c : Corpus) (rules : Rules) (document : Template) (a : Accessor) :
    Except ResolveError a.Answer :=
  ((a.access rules document (.fresh none)).run c.environment ()).1.1

/-- A corpus tells whether a name is referred to by looking up the templates that do. -/
theorem consistent_answer (c : Corpus) : Knowledge.Consistent c.answer := fun _ => rfl

/-- Left in peace, a fresh document answers what is true of it. -/
theorem undisturbed_eq (hc : c.indexing = false) (a : Accessor) :
    c.undisturbed rules document a = .ok (Knowledge.answerTo c.answer rules document a) := by
  let f := Knowledge.findings c.consistent_answer rules document
  have hfresh : f.Sound (.fresh none) := .fresh (by simp [Pass.Knows])
  have hgives := Findings.gives_access a (.fresh none) hfresh
  obtain ⟨v, hv⟩ := hgives.ok_of_quiet (admits_environment hc) (failure?_of_mem_events hc _)
  have htrue : v = Knowledge.answerTo c.answer rules document a :=
    (hgives.ends_of_ok (admits_environment hc) hv).2
  rw [← htrue]
  exact hv

end Corpus

variable {σ : Type}

/-- However a document of a corpus is asked and whatever happens meanwhile, each answer is that of a
fresh document left in peace, and a call during which nothing fails and nothing is found cancelled
has that answer. -/
theorem Document.visits_agree (snapshot : Snapshot) (rules : Rules) (document : Template)
    (env : Environment σ) (turns : List (Turn σ)) (s : σ) :
    ∀ visit ∈ visits (env.answering (Corpus.ofSnapshot snapshot).answer) rules document turns
        (.fresh none) s,
      (∀ v, visit.outcome.result = .ok v → (Corpus.ofSnapshot snapshot).undisturbed rules document
        visit.outcome.accessor = .ok v) ∧
      ((∀ ev ∈ visit.events, ev.failure? = none) →
        ∃ v, visit.outcome.result = .ok v ∧ (Corpus.ofSnapshot snapshot).undisturbed rules document
          visit.outcome.accessor = .ok v) := by
  intro visit hvisit
  let c := Corpus.ofSnapshot snapshot
  let f := Knowledge.findings c.consistent_answer rules document
  have henv : (env.answering c.answer).Admits f.admits := env.admits_answering c.answer
  have hfresh : f.Sound (.fresh none) := .fresh (by simp [Pass.Knows])
  obtain ⟨a, m, s', hm, -, rfl⟩ := Findings.mem_visits henv hfresh hvisit
  have htrue : ∀ v : a.Answer, (Document.visit (env.answering c.answer) rules document a m
      s').outcome.result = .ok v → c.undisturbed rules document a = .ok v := by
    intro v hv
    rw [Corpus.undisturbed_eq (Corpus.indexing_ofSnapshot snapshot)]
    exact congrArg Except.ok (Findings.visit_holds henv hm hv).symm
  refine ⟨htrue, fun hquiet => ?_⟩
  obtain ⟨v, hv⟩ := (Findings.gives_access a m hm).ok_of_quiet henv hquiet
  exact ⟨v, hv, htrue v hv⟩

/-- Surroundings in which only one query fails. The state counts the queries up to that one. -/
def Environment.failingOnce : Environment Nat where
  poll s := (false, s)
  reply q
    | 0 => (.ok q.nothing, 0)
    | 1 => (.error ⟨q.index, "down"⟩, 0)
    | n + 2 => (.ok q.nothing, n + 1)

/-- The overrides of a page are asked for twice, and the second query of the first call fails. -/
theorem Document.visits_agree_retried :
    ∃ failed retried, visits (Environment.failingOnce.answering
        (Corpus.ofSnapshot .pageOverBase).answer) (Corpus.rules .default) (.ofString "page.twig")
        [⟨id, .blockOverrides⟩, ⟨id, .blockOverrides⟩] (.fresh none) 2 = [failed, retried] ∧
      failed.outcome = ⟨.blockOverrides, .error (.unavailable ⟨.hierarchy, "down"⟩)⟩ ∧
      (∀ ev ∈ retried.events, ev.failure? = none) ∧
      ∃ v, retried.outcome.result = .ok v ∧ (Corpus.ofSnapshot .pageOverBase).undisturbed
        (Corpus.rules .default) (.ofString "page.twig") retried.outcome.accessor = .ok v := by
  refine ⟨_, _, rfl, rfl, ?_⟩
  have hagrees := visits_agree .pageOverBase (Corpus.rules .default) (.ofString "page.twig")
    Environment.failingOnce [⟨id, .blockOverrides⟩, ⟨id, .blockOverrides⟩] 2 _
    (List.mem_of_getElem? (i := 1) rfl)
  refine ⟨?quiet, hagrees.2 ?quiet⟩
  decide

end TwigRelations
