import TwigRelations.Proofs.Corpus.Undisturbed
import TwigRelations.Proofs.Document.Visits
import TwigRelations.Session.World

/-!
# Failures and cancellation take effect at once

Whatever the indexes answer, a call on a document ends with the first query that fails, and asks no
index from the moment on in which its request is cancelled.
-/

namespace TwigRelations

variable {σ : Type} {env : Environment σ} {rules : Rules} {document : Template}

/-- A call that ends with the first failure, and asks nothing after its request was cancelled. -/
structure Visit.IsPrompt (env : Environment σ) (v : Visit σ) : Prop where
  /-- A query that fails is the last interaction, and its failure is the result. -/
  fails_at_once : ∀ before t q e after, v.events = before ++ .asked t q (.error e) :: after →
    after = [] ∧ v.outcome.result = .error (.unavailable e)
  /-- Where the request is cancelled when the call is made, no index is asked: the call is
  cancelled, or it has its result without asking. -/
  cancelled_before : env.isCancelled v.start = true →
    (∀ ev ∈ v.events, ev.isCall = false) ∧
      (v.outcome.result = .error .cancelled ∨ (v.events = [] ∧ ∃ a, v.outcome.result = .ok a))
  /-- Where the request is cancelled while a query is answered, no index is asked any more: the call
  is cancelled, or it has its result with that answer. -/
  cancelled_meanwhile : ∀ before t q a after, v.events = before ++ .asked t q (.ok a) :: after →
    env.isCancelled (env.reply q t).2 = true →
      (∀ ev ∈ after, ev.isCall = false) ∧
        (v.outcome.result = .error .cancelled ∨ (after = [] ∧ ∃ a, v.outcome.result = .ok a))

/-- Whatever a document remembers by then, and whatever the indexes answer, every call of an
accessor is prompt. -/
theorem Document.visits_prompt (env : Environment σ) (rules : Rules) (document : Template)
    (loaded : Option Namespace) (turns : List (Turn σ)) (s : σ) :
    ∀ visit ∈ visits env rules document turns (.fresh loaded) s, visit.IsPrompt env := by
  intro visit hvisit
  let f := Findings.anything rules document
  have henv : env.Admits f.admits := Findings.admits_anything rules document env
  have hfresh : f.Sound (.fresh loaded) := .fresh fun _ _ => trivial
  obtain ⟨a, m, start, hm, -, rfl⟩ := Findings.mem_visits henv hfresh hvisit
  have horderly := Findings.gives_access a m hm
  refine ⟨?_, horderly.of_cancelled, ?_⟩
  · intro before t q e after he
    exact horderly.failure_last henv start he rfl
  · intro before t q answer after he hcancelled
    obtain ⟨known, rest, hrest, hevents, hrun⟩ := horderly.after_answer henv he
    have hstops := hrest.of_cancelled hcancelled
    rw [hevents, hrun] at hstops
    exact hstops

/-- The request for the overrides of a page is cancelled while those of its first block are looked
up: those of the second are not asked for. -/
theorem Document.visits_prompt_cancelled :
    let world : World := ⟨.ofSnapshot .pageOverBase,
      [(⟨"parent_blocks_of", none, 1, none, .cancel (some "request")⟩, 0)], [], []⟩
    ∃ visit, visits (World.environment (some "request")) (Corpus.rules .default)
        (.ofString "page.twig") [⟨id, .blockOverrides⟩] (.fresh none) world = [visit] ∧
      visit.outcome = ⟨.blockOverrides, .error .cancelled⟩ ∧
      visit.events.countP Event.isCall = 2 ∧
      visit.IsPrompt (World.environment (some "request")) := by
  intro world
  refine ⟨_, rfl, rfl, by decide, ?_⟩
  exact visits_prompt (World.environment (some "request")) (Corpus.rules .default)
    (.ofString "page.twig") none [⟨id, .blockOverrides⟩] world _ List.mem_cons_self

end TwigRelations
