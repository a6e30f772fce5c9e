import TwigRelations.Proofs.Document.Access
import TwigRelations.Proofs.Program.Confined

/-!
# One namespace for a batch

A batch asks for the namespace once at most, in whatever order its programs move, and the names in
all of its reports are those of the namespace that it was told.
-/

namespace TwigRelations

variable {σ : Type} {env : Environment σ} {rules : Rules} {document : Template} {ns : Namespace}

/-- Loading the namespace where none is known. -/
theorem Pass.loadNamespace_none :
    loadNamespace none = .checkpoint fun cancelled =>
      if cancelled then .done (.error .cancelled, none)
      else .ask .namespaceEntries fun reply =>
        match reply with
        | .ok entries => .done (.ok (.ofEntries entries), some (.ofEntries entries))
        | .error e => .done (.error (.unavailable e), none) := by
  change Program.checkpoint _ = _
  congr 1
  funext cancelled
  cases cancelled with
  | true => rfl
  | false =>
    change Program.ask _ _ = _
    congr 1
    funext reply
    cases reply <;> rfl

/-- Loading the namespace asks for it once at most, and what is loaded is what was told. -/
theorem Pass.loadNamespace_told_once (env : Environment σ) (s : σ) :
    ((loadNamespace none).events env s).countP Event.isNamespaceCall ≤ 1 ∧
      ∀ ns, ((loadNamespace none).run env s).1.1 = .ok ns →
        ((loadNamespace none).events env s).foldl Event.learn none = some ns := by
  rw [loadNamespace_none, Program.events_checkpoint, Program.run_checkpoint]
  cases (env.poll s).1 with
  | true => simp [Event.isNamespaceCall]
  | false =>
    simp only [Bool.false_eq_true, if_false, Program.events_ask, Program.run_ask]
    cases (env.reply .namespaceEntries (env.poll s).2).1 with
    | error e => simp [Event.isNamespaceCall]
    | ok entries => simp [Event.isNamespaceCall, Event.learn, Query.learned]

/-- The program of a document whose namespace is known never asks for it, and the names in its
report are those of that namespace. -/
theorem Document.confined_reportProgram (rules : Rules) (document : Template) (ns : Namespace) :
    (reportProgram rules document (some ns)).Confined (· ≠ .namespaceEntries) fun result =>
      ∀ r, result = .ok r → r.names = ns.namesFor r.document := by
  let f := Findings.anything rules document
  have hfresh : f.Sound (.fresh (some ns)) := .fresh fun _ _ => trivial
  have horderly := Findings.gives_report (.fresh (some ns)) hfresh
  refine (horderly.confined rfl).bind fun out hout => .done ?_
  intro r hr
  obtain ⟨result, m⟩ := out
  obtain rfl : result = .ok r := hr
  obtain ⟨hreaches, included, -, hshows⟩ := hout
  obtain ⟨names, hnames⟩ := Option.isSome_iff_exists.mp hshows.names_isSome
  obtain ⟨space, hspace, rfl⟩ := hreaches.sound.supported .names names hnames
  obtain rfl : ns = space := Option.some.inj (hreaches.loaded.symm.trans hspace)
  rw [hshows.eq, hnames]
  rfl

/-- Queries other than for the namespace add nothing to what a record tells of it. -/
theorem Environment.preserves_recorded (env : Environment σ) (ns : Namespace) :
    Program.Preserves env.recorded (· ≠ .namespaceEntries) fun s =>
      s.2.countP Event.isNamespaceCall ≤ 1 ∧ s.2.foldl Event.learn none = some ns where
  poll s hs := by
    obtain ⟨s, log⟩ := s
    simpa [Event.isNamespaceCall, Event.learn] using hs
  reply q s hq hs := by
    obtain ⟨s, log⟩ := s
    obtain ⟨hcount, htold⟩ := hs
    constructor
    · simpa [Event.isNamespaceCall, hq] using hcount
    · simp only [recorded_reply, List.foldl_append, htold, List.foldl_cons, List.foldl_nil]
      cases (env.reply q s).1 with
      | error e => rfl
      | ok a => exact Query.learned_of_ne hq _ _

/-- What a batch has to do with the namespace, by its results and its interactions. -/
structure Batch.ToldOnce (results : List (Template × Except ResolveError Report))
    (events : List (Event σ)) : Prop where
  /-- The namespace was asked for once at most. -/
  asked : events.countP Event.isNamespaceCall ≤ 1
  /-- The names in all reports are those of the namespace that was told. -/
  names : ∀ entry ∈ results, ∀ r, entry.2 = .ok r →
    ∃ ns, events.foldl Event.learn none = some ns ∧ r.names = ns.namesFor r.document

/-- However the programs of a batch are scheduled, the namespace is told once at most. -/
theorem Batch.toldOnce_run (env : Environment σ) (rules : Rules) (turns : List Nat)
    (documents : List Template) (s : σ) :
    ToldOnce (run env.recorded rules turns documents (s, [])).1
      (run env.recorded rules turns documents (s, [])).2.2 := by
  have hload := Pass.loadNamespace_told_once env s
  rw [run, Program.run_recorded, List.nil_append]
  generalize (Pass.loadNamespace none).run env s = out at hload ⊢
  obtain ⟨⟨loaded, m⟩, s'⟩ := out
  obtain ⟨hcount, htold⟩ := hload
  cases loaded with
  | error e => exact ⟨hcount, by simp⟩
  | ok ns =>
    have hpool : ∀ p ∈ documents.map fun t => Document.reportProgram rules t (some ns),
        p.Confined (· ≠ .namespaceEntries) fun result =>
          ∀ r, result = .ok r → r.names = ns.namesFor r.document := by
      intro p hp
      obtain ⟨t, -, rfl⟩ := List.mem_map.mp hp
      exact Document.confined_reportProgram rules t ns
    obtain ⟨hresults, hcount, htold⟩ := Pool.run_confined (env.preserves_recorded ns) turns hpool
      (s := (s', _)) ⟨hcount, htold ns rfl⟩
    refine ⟨hcount, fun entry hentry r hr => ⟨ns, htold, ?_⟩⟩
    exact hresults entry.2 (List.of_mem_zip hentry).2 r hr

end TwigRelations
