import TwigRelations.Proofs.Document.Access

/-!
# Asking a document again and again

A sequence of calls on one document, each with what it answered, what it did and what it left
behind. Between the calls the surroundings may change in any way.
-/

namespace TwigRelations

/-- What an accessor answered. -/
structure Outcome where
  /-- The accessor. -/
  accessor : Accessor
  /-- Its answer. -/
  result : Except ResolveError accessor.Answer

/-- A call that is to be made. -/
structure Turn (σ : Type) where
  /-- What happens to the surroundings before the call. -/
  before : σ → σ
  /-- The accessor that is called. -/
  accessor : Accessor

/-- A call that was made. -/
structure Visit (σ : Type) where
  /-- What was answered. -/
  outcome : Outcome
  /-- The state of the surroundings when the call was made. -/
  start : σ
  /-- The interactions of the call. -/
  events : List (Event σ)
  /-- What the document remembers after the call. -/
  memory : Memory
  /-- The state of the surroundings after the call. -/
  state : σ

namespace Document

variable {σ : Type} (env : Environment σ) (rules : Rules) (document : Template)

/-- A call of an accessor on a document with a given memory. -/
def visit (a : Accessor) (m : Memory) (s : σ) : Visit σ :=
  let p := a.access rules document m
  ⟨⟨a, (p.run env s).1.1⟩, s, p.events env s, (p.run env s).1.2, (p.run env s).2⟩

/-- Calls on one document, one after the other. -/
def visits : List (Turn σ) → Memory → σ → List (Visit σ)
  | [], _, _ => []
  | turn :: turns, m, s =>
    let v := visit env rules document turn.accessor m (turn.before s)
    v :: visits turns v.memory v.state

end Document

namespace Findings

variable {σ : Type} {env : Environment σ} {rules : Rules} {document : Template}
  {f : Findings rules document} {m : Memory}

/-- After a call the memory is sound, has only grown, and has the namespace that was told last. -/
theorem visit_reaches (henv : env.Admits f.admits) (hm : f.Sound m) (a : Accessor) (s : σ) :
    let v := Document.visit env rules document a m s
    f.Reaches reportCells m (v.events.foldl Event.learn m.loaded) v.memory := by
  have h := gives_access a m hm
  cases hr : ((a.access rules document m).run env s).1.1 with
  | ok v => exact (h.ends_of_ok henv hr).1
  | error e => exact h.fails_of_error henv hr

/-- The answer of a call is as known. -/
theorem visit_holds (henv : env.Admits f.admits) (hm : f.Sound m) {a : Accessor} {s : σ}
    {v : a.Answer} (hv : (Document.visit env rules document a m s).outcome.result = .ok v) :
    f.holds a v := ((gives_access a m hm).ends_of_ok henv hv).2

/-- An answer that is kept is held after the call. -/
theorem visit_held (henv : env.Admits f.admits) (hm : f.Sound m) {a : Accessor} {s : σ}
    {v : a.Answer} (ha : a.isKept = true)
    (hv : (Document.visit env rules document a m s).outcome.result = .ok v) :
    (Document.visit env rules document a m s).memory.held a = some v :=
  ((keeps_access ha m hm).ends_of_ok henv hv).2

/-- Where a call fails its own cell is left empty. -/
theorem visit_held_of_error (henv : env.Admits f.admits) (hm : f.Sound m) {a : Accessor} {s : σ}
    {e : ResolveError}
    (he : (Document.visit env rules document a m s).outcome.result = .error e) :
    (Document.visit env rules document a m s).memory.held a = none := by
  by_cases ha : a.isKept = true
  · exact ((keeps_access ha m hm).fails_of_error henv he).2
  · cases a with
    | hasIncluders | groups | report => rfl
    | _ => exact absurd rfl ha

/-- A report shows what is held after the call. -/
theorem visit_report (henv : env.Admits f.admits) (hm : f.Sound m) {s : σ} {r : Report}
    (hr : (Document.visit env rules document .report m s).outcome.result = .ok r) :
    ∃ included, (Document.visit env rules document .report m s).memory.ShowsReport rules document
      included r := by
  obtain ⟨-, included, -, h⟩ := (gives_report m hm).ends_of_ok henv hr
  exact ⟨included, h⟩

/-- What is held is answered at once. -/
theorem visit_of_held {a : Accessor} {v : a.Answer} (hv : m.held a = some v) (s : σ) :
    Document.visit env rules document a m s = ⟨⟨a, .ok v⟩, s, [], m, s⟩ := by
  have h : a.access rules document m = .done (.ok v, m) := by
    cases a with
    | hasIncluders | groups | report => contradiction
    | _ => exact Resolution.remember_of_some hv
  rw [Document.visit, h]
  rfl

/-- Every call of a sequence is made with a memory that has grown from the first one. -/
theorem mem_visits (henv : env.Admits f.admits) {turns : List (Turn σ)} {s : σ}
    (hm : f.Sound m) {v : Visit σ} (hv : v ∈ Document.visits env rules document turns m s) :
    ∃ a m' s', f.Sound m' ∧ Memory.Grows reportCells m m' ∧
      v = Document.visit env rules document a m' s' := by
  induction turns generalizing m s with
  | nil => simp [Document.visits] at hv
  | cons turn turns ih =>
    have hr := visit_reaches henv hm turn.accessor (turn.before s)
    rcases List.mem_cons.mp hv with rfl | hv
    · exact ⟨_, m, _, hm, .refl _ m, rfl⟩
    · obtain ⟨a, m', s', hm', hg, rfl⟩ := ih hr.sound hv
      exact ⟨a, m', s', hm', hr.grows.trans hg, rfl⟩

end Findings

end TwigRelations
