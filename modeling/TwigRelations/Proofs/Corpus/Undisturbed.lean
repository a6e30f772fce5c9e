import TwigRelations.Engine
import TwigRelations.Proofs.Pass.Yields

/-!
# A corpus left in peace

Asking a corpus that is ready and does not change: nothing fails, and every resolver finds the
relationship as such.
-/

namespace TwigRelations

/-- A page that extends a base, each with the blocks `body` and `title`. -/
def Snapshot.pageOverBase : Snapshot where
  templates := [
    { path := .ofString "base.twig"
      names := [.ofString "base"]
      inclusions := []
      blocks := [⟨"body", .zero⟩, ⟨"title", .zero⟩] },
    { path := .ofString "page.twig"
      names := [.ofString "page"]
      inclusions := [⟨.inherit, some "base", .zero⟩]
      blocks := [⟨"body", .zero⟩, ⟨"title", .zero⟩] }]
  controllers := []

namespace Corpus

variable {c : Corpus}

theorem indexing_addRecord (c : Corpus) (r : TemplateRecord) :
    (c.addRecord r).indexing = c.indexing := rfl

/-- A corpus made of a snapshot is ready. -/
@[simp] theorem indexing_ofSnapshot (s : Snapshot) : (ofSnapshot s).indexing = false := by
  rw [ofSnapshot]
  generalize hc : (⟨[], [], [], s.controllers, false⟩ : Corpus) = c
  have h : c.indexing = false := hc ▸ rfl
  clear hc
  induction s.templates generalizing c with
  | nil => exact h
  | cons r records ih => exact ih _ ((indexing_addRecord c r).trans h)

theorem reply_of_ready (hc : c.indexing = false) (q : Query) : c.reply q = .ok (c.answer q) := by
  simp [reply, hc]

/-- Nothing fails in a corpus that is ready. -/
theorem failure?_of_mem_events {α : Type} (hc : c.indexing = false) (p : Program α) :
    ∀ ev ∈ p.events c.environment (), ev.failure? = none := by
  induction p with
  | done a => simp
  | checkpoint next ih =>
    rw [Program.events_checkpoint, List.forall_mem_cons]
    exact ⟨rfl, ih false⟩
  | ask q next ih =>
    rw [Program.events_ask, List.forall_mem_cons]
    refine ⟨?_, ih _⟩
    change Event.failure? (.asked () q (c.reply q)) = none
    rw [reply_of_ready hc]
    rfl

/-- In the surroundings of a ready corpus only its own answers are given. -/
theorem admits_environment (hc : c.indexing = false) :
    c.environment.Admits fun q a => a = c.answer q := by
  intro q s a h
  have hr : c.reply q = .ok a := h
  rw [reply_of_ready hc] at hr
  exact (Except.ok.inj hr).symm

/-- What a step of a pass finds that is alone with a corpus. -/
def resolve (c : Corpus) {α : Type} (p : Pass α) : Except ResolveError α :=
  ((p none).run c.environment ()).1.1

/-- Left in peace, a resolver finds the relationship as such. -/
theorem resolve_eq {α : Type} {p : Pass α} {v : α} (hc : c.indexing = false)
    (h : Knowledge.Yields c.answer p v) : c.resolve p = .ok v := by
  have horderly := h none (by simp [Pass.Knows])
  obtain ⟨w, hw⟩ := horderly.ok_of_quiet (admits_environment hc) (failure?_of_mem_events hc _)
  obtain ⟨-, -, rfl⟩ := horderly.ends_of_ok (admits_environment hc) hw
  exact hw

end Corpus

end TwigRelations
