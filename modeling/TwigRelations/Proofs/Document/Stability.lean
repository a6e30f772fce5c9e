import TwigRelations.Proofs.Batch
import TwigRelations.Proofs.Document.Visits

/-!
# Answers that stay

Whatever the indexes answer from one call to the next, what a document has once answered and keeps
is answered again without asking, and is carried by its report. All names come from one namespace,
which is told once at most.
-/

namespace TwigRelations

/-- A report carries a result that is kept. Blocks have no place of their own in a report: they are
carried by its groups. -/
def Report.Carries (rules : Rules) (ns : Namespace) (r : Report) : (a : Accessor) → a.Answer → Prop
  | .names, v => r.names = v
  | .includers, v => r.includers = v
  | .includeTargets, v => r.includeTargets = v
  | .overwrites, v => r.overwrites = v
  | .blocks, v => ∃ included, r.groups = Document.arrange rules ns v r.blockImplementations
      r.blockOverrides r.controllerUsages included r.includeTargets r.overwrites
  | .blockImplementations, v => r.blockImplementations = v
  | .blockOverrides, v => r.blockOverrides = v
  | .controllerUsages, v => r.controllerUsages = v
  | .hasIncluders, _ | .groups, _ | .report, _ => True

/-- A report that is shown by a memory carries all that is held there. -/
theorem Memory.ShowsReport.carries {rules : Rules} {document : Template} {m : Memory}
    {included : Bool} {r : Report} (h : m.ShowsReport rules document included r) {a : Accessor}
    {v : a.Answer} (hv : m.held a = some v) :
    ∃ ns, m.loaded = some ns ∧ r.Carries rules ns a v := by
  obtain ⟨ns, hns, hgroups⟩ := h.groups.groups_eq
  refine ⟨ns, hns, ?_⟩
  cases a with
  | hasIncluders | groups | report => trivial
  | blocks =>
    simp only [Memory.held] at hv
    refine ⟨included, ?_⟩
    rw [hgroups, Memory.arrange, hv, h.eq]
    rfl
  | _ =>
    simp only [Memory.held] at hv
    rw [Report.Carries, h.eq, hv]
    rfl

/-- What two calls on one document have to do with each other, the first one having been made before
the second. -/
structure Visit.Precedes {σ : Type} (rules : Rules) (x y : Visit σ) : Prop where
  /-- A result that is kept is answered again without any interaction. -/
  repeats : ∀ a v, a.isKept = true → x.outcome = ⟨a, .ok v⟩ → y.outcome.accessor = a →
    y.outcome = ⟨a, .ok v⟩ ∧ y.events = []
  /-- A result that is kept is carried by the report. -/
  reported : ∀ a v r, a.isKept = true → x.outcome = ⟨a, .ok v⟩ → y.outcome = ⟨.report, .ok r⟩ →
    ∃ ns, y.memory.loaded = some ns ∧ r.Carries rules ns a v
  /-- The namespace stays the same once loaded. -/
  loaded : ∀ ns, x.memory.loaded = some ns → y.memory.loaded = some ns

/-- What a call on a document leaves behind, where all calls together were told some namespace. -/
structure Visit.LeavesClean {σ : Type} (document : Template) (told : Option Namespace)
    (v : Visit σ) : Prop where
  /-- A call that fails leaves its own cell empty. -/
  empty : ∀ e, v.outcome.result = .error e → v.memory.held v.outcome.accessor = none
  /-- The namespace that is loaded is the one that was told. -/
  loaded : ∀ ns, v.memory.loaded = some ns → told = some ns
  /-- Names are those of the namespace that is loaded. -/
  names : ∀ names, v.outcome = ⟨.names, .ok names⟩ →
    ∃ ns, v.memory.loaded = some ns ∧ ns.namesFor document = names

/-- All interactions of some calls, in order. -/
def Visit.allEvents {σ : Type} (calls : List (Visit σ)) : List (Event σ) := calls.flatMap (·.events)

theorem Visit.allEvents_cons {σ : Type} (v : Visit σ) (calls : List (Visit σ)) :
    allEvents (v :: calls) = v.events ++ allEvents calls := List.flatMap_cons

namespace Findings

variable {σ : Type} {env : Environment σ} {rules : Rules} {document : Template}
  {f : Findings rules document} {m m' : Memory}

/-- What a call answered and keeps is held in every memory grown from what it left behind. -/
theorem held_of_outcome (henv : env.Admits f.admits) (hm : f.Sound m) {a b : Accessor} {s : σ}
    {v : b.Answer} (hb : b.isKept = true)
    (hv : (Document.visit env rules document a m s).outcome = ⟨b, .ok v⟩)
    (hg : Memory.Grows reportCells (Document.visit env rules document a m s).memory m') :
    m'.held b = some v := by
  obtain ⟨rfl, hresult⟩ := Outcome.mk.inj hv
  exact hg.held a v (visit_held henv hm hb (eq_of_heq hresult))

/-- A call precedes every call that is made with a memory grown from what it left behind. -/
theorem visit_precedes (henv : env.Admits f.admits) (hm : f.Sound m) (hm' : f.Sound m')
    {a a' : Accessor} {s s' : σ}
    (hg : Memory.Grows reportCells (Document.visit env rules document a m s).memory m') :
    (Document.visit env rules document a m s).Precedes rules
      (Document.visit env rules document a' m' s') where
  repeats := by
    intro b v hb hx hy
    obtain rfl : a' = b := hy
    rw [visit_of_held (held_of_outcome henv hm hb hx hg)]
    exact ⟨rfl, rfl⟩
  reported := by
    intro b v r hb hx hy
    obtain ⟨rfl, hr⟩ := Outcome.mk.inj hy
    obtain ⟨included, hshows⟩ := visit_report henv hm' (eq_of_heq hr)
    have hheld := held_of_outcome henv hm hb hx hg
    exact hshows.carries ((visit_reaches henv hm' .report s').grows.held b v hheld)
  loaded := by
    intro ns hns
    exact (visit_reaches henv hm' a' s').grows.loaded ns (hg.loaded ns hns)

/-- Each call of a sequence precedes all later ones. -/
theorem visits_pairwise (henv : env.Admits f.admits) (hm : f.Sound m) (turns : List (Turn σ))
    (s : σ) : (Document.visits env rules document turns m s).Pairwise (Visit.Precedes rules) := by
  induction turns generalizing m s with
  | nil => exact .nil
  | cons turn turns ih =>
    have hr := visit_reaches henv hm turn.accessor (turn.before s)
    refine .cons ?_ (ih hr.sound _)
    intro y hy
    obtain ⟨a, m', s', hm', hg, rfl⟩ := mem_visits henv hr.sound hy
    exact visit_precedes henv hm hm' hg

/-- A namespace that is loaded stays the one that was told. -/
theorem told_of_loaded (henv : env.Admits f.admits) (hm : f.Sound m) {turns : List (Turn σ)} {s : σ}
    {ns : Namespace} (hns : m.loaded = some ns) :
    (Visit.allEvents (Document.visits env rules document turns m s)).foldl Event.learn m.loaded =
      some ns := by
  induction turns generalizing m s with
  | nil => exact hns
  | cons turn turns ih =>
    have hr := visit_reaches henv hm turn.accessor (turn.before s)
    rw [Document.visits, Visit.allEvents_cons, List.foldl_append, ← hr.loaded]
    exact ih hr.sound (hr.grows.loaded ns hns)

/-- What any call of a sequence leaves behind. -/
theorem visits_leave_clean (henv : env.Admits f.admits) (hm : f.Sound m) {turns : List (Turn σ)}
    {s : σ} : ∀ visit ∈ Document.visits env rules document turns m s, visit.LeavesClean document
      ((Visit.allEvents (Document.visits env rules document turns m s)).foldl Event.learn m.loaded)
      := by
  induction turns generalizing m s with
  | nil => simp [Document.visits]
  | cons turn turns ih =>
    have hr := visit_reaches henv hm turn.accessor (turn.before s)
    rw [Document.visits, Visit.allEvents_cons, List.foldl_append, ← hr.loaded]
    refine List.forall_mem_cons.mpr ⟨?_, ih hr.sound⟩
    refine ⟨fun e he => visit_held_of_error henv hm he, ?_, ?_⟩
    · exact fun ns hns => told_of_loaded henv hr.sound hns
    · intro names hnames
      have hheld := held_of_outcome henv hm rfl hnames (.refl _ _)
      exact hr.sound.supported .names names hheld

/-- The namespace is told as often as it becomes known, and that is once at most. -/
theorem countP_allEvents (henv : env.Admits f.admits) (hm : f.Sound m) (turns : List (Turn σ))
    (s : σ) :
    (Visit.allEvents (Document.visits env rules document turns m s)).countP Event.isLoad +
        m.loaded.isSome.toNat =
      ((Visit.allEvents (Document.visits env rules document turns m s)).foldl Event.learn
        m.loaded).isSome.toNat := by
  induction turns generalizing m s with
  | nil => simp [Document.visits, Visit.allEvents]
  | cons turn turns ih =>
    have hr := visit_reaches henv hm turn.accessor (turn.before s)
    have hcount := (gives_access turn.accessor m hm).countP_isLoad henv (turn.before s)
    have hfirst : (Document.visit env rules document turn.accessor m
        (turn.before s)).events.countP Event.isLoad + m.loaded.isSome.toNat =
          (Document.visit env rules document turn.accessor m
            (turn.before s)).memory.loaded.isSome.toNat := by
      rw [hr.loaded]
      exact hcount
    rw [Document.visits, Visit.allEvents_cons, List.countP_append, List.foldl_append, ← hr.loaded,
      ← ih hr.sound, ← hfirst]
    omega

end Findings

variable {σ : Type}

/-- Whatever the indexes answer from call to call, a document answers again what it has answered and
keeps, its report carries it, a call that fails leaves its own cell empty, and the namespace is told
once at most, also in a batch. -/
theorem Document.visits_stable (env : Environment σ) (rules : Rules) (document : Template)
    (loaded : Option Namespace) (turns : List (Turn σ)) (s : σ) :
    let calls := visits env rules document turns (.fresh loaded) s
    calls.Pairwise (Visit.Precedes rules) ∧
      (∀ visit ∈ calls, visit.LeavesClean document
        ((Visit.allEvents calls).foldl Event.learn loaded)) ∧
      (Visit.allEvents calls).countP Event.isLoad ≤ 1 ∧
      ∀ schedule documents, Batch.ToldOnce
        (Batch.run env.recorded rules schedule documents (s, [])).1
        (Batch.run env.recorded rules schedule documents (s, [])).2.2 := by
  intro calls
  let f := Findings.anything rules document
  have henv : env.Admits f.admits := Findings.admits_anything rules document env
  have hfresh : f.Sound (.fresh loaded) := .fresh fun _ _ => trivial
  refine ⟨Findings.visits_pairwise henv hfresh turns s, Findings.visits_leave_clean henv hfresh,
    ?_, fun schedule documents => Batch.toldOnce_run env rules schedule documents s⟩
  have hcount : (Visit.allEvents calls).countP Event.isLoad + loaded.isSome.toNat =
      ((Visit.allEvents calls).foldl Event.learn loaded).isSome.toNat :=
    Findings.countP_allEvents henv hfresh turns s
  have hle := Bool.toNat_le ((Visit.allEvents calls).foldl Event.learn loaded).isSome
  omega

end TwigRelations
