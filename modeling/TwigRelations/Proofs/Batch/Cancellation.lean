import TwigRelations.Proofs.Batch.Independence
import TwigRelations.Proofs.Document.Agreement

/-!
# Batches that are cancelled

The request of a batch may be cancelled at any moment while its programs move in any order. No
document is left with a part of its relationships: it has its whole report or it is cancelled, and
where it begins only after that moment no index is asked for it.
-/

namespace TwigRelations

/-- Surroundings in which each query has one reply and the request is cancelled at some moment. The
state counts the interactions so far. -/
def Environment.cancelledFrom (moment : Nat) (reply : (q : Query) → Reply q) : Environment Nat where
  poll n := (moment ≤ n, n + 1)
  reply q n := (reply q, n + 1)

namespace Program.Orderly

variable {μ α σ : Type} {admits : (q : Query) → q.Answer → Prop}
  {fails : Option Namespace → μ → Prop} {ends : Option Namespace → α → μ → Prop} {ready : Bool}
  {known : Option Namespace} {p : Program (Except ResolveError α × μ)} {env : Environment σ}
  {events : List (Event σ)} {out : Except ResolveError α × μ}

/-- Whenever its request is found cancelled, an orderly program among others is cancelled or ends as
it does on its own where nothing is cancelled. -/
theorem cancelled_or_whole (h : Orderly (fun _ _ => True) fails ends ready known p)
    {reply : (q : Query) → Reply q} (henv : ∀ q s, (env.reply q s).1 = reply q)
    (hrun : p.Interleaved env events out) :
    out.1 = .error .cancelled ∨ out = (p.run (.fixed false reply) ()).1 := by
  induction h generalizing events with
  | done h =>
    cases hrun
    exact .inr rfl
  | checkpoint hm stops _ ih =>
    cases hrun with
    | checkpoint s goesOn =>
      cases hpoll : (env.poll s).1 with
      | true =>
        rw [hpoll, stops] at goesOn
        cases goesOn
        exact .inl rfl
      | false =>
        rw [hpoll] at goesOn
        exact ih goesOn
  | @ask known q next m hq hm failed _ ih =>
    cases hrun with
    | ask s goesOn =>
      rw [run_ask]
      rw [henv] at goesOn
      cases hreply : reply q with
      | error e =>
        rw [hreply, failed] at goesOn
        cases goesOn
        simp [Environment.fixed, hreply, failed]
      | ok a =>
        rw [hreply] at goesOn
        simpa [Environment.fixed, hreply] using ih a trivial goesOn

/-- An orderly program that begins with looking for cancellation, and begins after its request was
cancelled, is cancelled at once. -/
theorem of_late {next : Bool → Program (Except ResolveError α × μ)}
    (h : Orderly admits fails ends ready known (.checkpoint next))
    (hrun : (Program.checkpoint next).Interleaved env events out)
    (hlate : ∀ first ∈ events.head?, env.isCancelled first.state = true) :
    out.1 = .error .cancelled ∧ ∀ ev ∈ events, ev.isCall = false := by
  cases hrun with
  | checkpoint s goesOn =>
    have hpoll : (env.poll s).1 = true := hlate _ rfl
    cases h with
    | checkpoint hm stops _ =>
      rw [hpoll, stops] at goesOn
      cases goesOn
      exact ⟨rfl, by simp [Event.isCall]⟩

end Program.Orderly

namespace Document

variable (rules : Rules) (document : Template)

/-- A document whose namespace is known begins with looking for cancellation, even where it turns
out that there is nothing to ask. -/
theorem report_begins (ns : Namespace) :
    ∃ next, report rules document (.fresh (some ns)) = .checkpoint next := ⟨_, rfl⟩

end Document

namespace Batch

/-- The interactions of the documents of a batch, after the namespace was loaded. -/
def trace {σ : Type} (env : Environment σ) (rules : Rules) (turns : List Nat)
    (documents : List Template) (s : σ) : Trace σ :=
  let ((loaded, _), s) := Program.run env (Pass.loadNamespace none) s
  match loaded with
  | .error _ => []
  | .ok ns =>
    Pool.trace env turns (documents.map fun t => Document.reportProgram rules t (some ns)) s

/-- What is written down in a batch are the interactions of loading the namespace and then, apart
from their places, those of the documents. -/
theorem run_recorded {σ : Type} (env : Environment σ) (rules : Rules) (turns : List Nat)
    (documents : List Template) (s : σ) :
    (run env.recorded rules turns documents (s, [])).2.2 =
      (Pass.loadNamespace none).events env s ++
        (trace env rules turns documents s).map (·.2) := by
  rw [run, trace, Program.run_recorded, List.nil_append]
  generalize (Pass.loadNamespace none).run env s = out
  obtain ⟨⟨loaded, known⟩, s'⟩ := out
  cases loaded with
  | error e => simp
  | ok ns => simp [Pool.run_recorded]

/-- What is promised of an entry of a batch whose request is cancelled at some moment, and of the
interactions of its document. -/
structure SurvivesCancel (c : Corpus) (rules : Rules) (moment : Nat)
    (entry : Template × Except ResolveError Report) (history : List (Event Nat)) : Prop where
  /-- The document is cancelled, or it has what it has on its own where nothing is cancelled. -/
  alone : entry.2 = .error .cancelled ∨ entry.2 = c.undisturbed rules entry.1 .report
  /-- Where the indexes are ready, that is its whole report. -/
  whole : c.indexing = false → entry.2 = .error .cancelled ∨
    ∃ r, entry.2 = .ok r ∧ c.undisturbed rules entry.1 .report = .ok r
  /-- A document that begins after its request was cancelled is cancelled, and asks no index. It
  begins with its first interaction, or with the batch if that never comes to its documents. -/
  late : moment ≤ history.head?.elim 0 Event.state →
    entry.2 = .error .cancelled ∧ ∀ ev ∈ history, ev.isCall = false

end Batch

namespace Corpus

variable {c : Corpus}

/-- What a document gives on its own it gives from the namespace of the corpus, or not at all where
that cannot be loaded. -/
theorem undisturbed_report (c : Corpus) (rules : Rules) (document : Template) :
    c.undisturbed rules document .report =
      match ((Pass.loadNamespace none).run c.environment ()).1.1 with
      | .error e => .error e
      | .ok ns =>
        ((Document.report rules document (.fresh (some ns))).run c.environment ()).1.1 := by
  have halone := Document.run_reportProgram rules document c.environment none ()
  rw [Document.reportProgram_none, Program.run_bind] at halone
  refine halone.symm.trans ?_
  cases ((Pass.loadNamespace none).run c.environment ()).1.1 with
  | error e => rfl
  | ok ns => exact Document.run_reportProgram rules document c.environment (some ns) _

/-- Loading the namespace is cancelled, or it ends as it does where nothing is cancelled. -/
theorem load_cancelledFrom (c : Corpus) (moment : Nat) :
    ((Pass.loadNamespace none).run (.cancelledFrom moment c.reply) 0).1.1 = .error .cancelled ∨
      ((Pass.loadNamespace none).run (.cancelledFrom moment c.reply) 0).1.1 =
        ((Pass.loadNamespace none).run c.environment ()).1.1 := by
  have horderly := Pass.isOrderly_loadNamespace none fun _ _ => trivial
  exact (horderly.cancelled_or_whole (fun _ _ => rfl) (.run _ _ 0)).imp_right fun hwhole =>
    congrArg Prod.fst hwhole

end Corpus

namespace Batch

variable {c : Corpus} {rules : Rules} {moment : Nat}

/-- An entry that is cancelled, or what its document has on its own, is cancelled or a whole report
where the indexes are ready. -/
theorem whole_of_alone {entry : Template × Except ResolveError Report}
    (h : entry.2 = .error .cancelled ∨ entry.2 = c.undisturbed rules entry.1 .report)
    (hc : c.indexing = false) : entry.2 = .error .cancelled ∨
      ∃ r, entry.2 = .ok r ∧ c.undisturbed rules entry.1 .report = .ok r := by
  refine h.imp_right fun halone => ?_
  have hreport : c.undisturbed rules entry.1 .report =
      .ok (Knowledge.answerTo c.answer rules entry.1 .report) := Corpus.undisturbed_eq hc .report
  exact ⟨_, halone.trans hreport, hreport⟩

/-- A document that is resolved among others, from the namespace of its corpus. -/
theorem SurvivesCancel.of_interleaved {ns : Namespace}
    (hns : ((Pass.loadNamespace none).run c.environment ()).1.1 = .ok ns) {document : Template}
    {events : List (Event Nat)} {result : Except ResolveError Report}
    (hrun : (Document.reportProgram rules document (some ns)).Interleaved
      (.cancelledFrom moment c.reply) events result) :
    SurvivesCancel c rules moment (document, result) events := by
  obtain ⟨out, hout, rfl⟩ := hrun.of_bind_done
  obtain ⟨fails, ends, horderly⟩ := Document.orderly_report rules document (some ns)
  have halone : out.1 = .error .cancelled ∨ out.1 = c.undisturbed rules document .report := by
    refine (horderly.cancelled_or_whole (fun _ _ => rfl) hout).imp_right fun hwhole => ?_
    rw [Corpus.undisturbed_report, hns, hwhole]
    rfl
  refine ⟨halone, whole_of_alone halone, fun hlate => ?_⟩
  obtain ⟨next, hnext⟩ := Document.report_begins rules document ns
  rw [hnext] at horderly hout
  refine horderly.of_late hout fun first hfirst => decide_eq_true ?_
  rwa [Option.mem_def.mp hfirst] at hlate

/-- Every entry of a batch survives that its request is cancelled. -/
theorem survivesCancel (c : Corpus) (turns : List Nat) (documents : List Template) {i : Nat}
    {entry : Template × Except ResolveError Report}
    (hentry : (run (.cancelledFrom moment c.reply) rules turns documents 0).1[i]? = some entry) :
    SurvivesCancel c rules moment entry
      ((trace (.cancelledFrom moment c.reply) rules turns documents 0).history i) := by
  have hload := Corpus.load_cancelledFrom c moment
  have hstart : moment ≤ 0 → ((Pass.loadNamespace none).run (.cancelledFrom moment c.reply) 0).1.1 =
      .error .cancelled := by
    intro hmoment
    obtain rfl := Nat.le_zero.mp hmoment
    rfl
  rw [run] at hentry
  rw [trace]
  generalize (Pass.loadNamespace none).run (.cancelledFrom moment c.reply) 0 = out at *
  obtain ⟨⟨loaded, known⟩, s⟩ := out
  cases loaded with
  | error e =>
    -- No document begins: each has the error of loading, which is also what it has on its own.
    obtain ⟨t, -, rfl⟩ := List.mem_map.mp (List.mem_of_getElem? hentry)
    have halone : (.error e : Except ResolveError Report) = .error .cancelled ∨
        .error e = c.undisturbed rules t .report := by
      refine hload.imp (fun h => ?_) fun h => ?_
      · rw [Except.error.inj h]
      · rw [Corpus.undisturbed_report, ← h]
    refine ⟨halone, whole_of_alone halone, fun hlate => ⟨?_, by simp [Trace.history]⟩⟩
    rw [Except.error.inj (hstart hlate)]
  | ok ns =>
    have hns := hload.resolve_left (by simp)
    obtain ⟨hdocument, hresult⟩ := List.getElem?_zip_eq_some.mp hentry
    refine .of_interleaved hns.symm (Pool.interleaved_run ?_ hresult)
    rw [List.getElem?_map, hdocument]
    rfl

/-- A batch whose request was cancelled before it began asks no index. -/
theorem quiet_of_cancelled {σ : Type} {env : Environment σ} {s : σ}
    (hs : env.isCancelled s = true) (rules : Rules) (turns : List Nat)
    (documents : List Template) :
    ∀ ev ∈ (run env.recorded rules turns documents (s, [])).2.2, ev.isCall = false := by
  have hpoll : (env.poll s).1 = true := hs
  rw [run_recorded, trace, Pass.loadNamespace_none]
  simp [hpoll, Event.isCall]

/-- A batch has one entry for each document, in order. -/
theorem documents_run {σ : Type} (env : Environment σ) (rules : Rules) (turns : List Nat)
    (documents : List Template) (s : σ) :
    (run env rules turns documents s).1.map (·.1) = documents := by
  rw [run]
  generalize (Pass.loadNamespace none).run env s = out
  obtain ⟨⟨loaded, known⟩, s'⟩ := out
  cases loaded with
  | error e => simp [Function.comp_def]
  | ok ns => exact List.map_fst_zip (by simp [Pool.length_run])

/-- However the programs of a batch are scheduled on its workers, and whenever its request is
cancelled, it has one entry for each document in order. Each is cancelled or has what the document
has on its own, which is a whole report where the indexes are ready. Documents that begin after that
moment are cancelled without asking any index, and where it is before the batch no index is asked at
all. -/
theorem run_cancelledFrom (c : Corpus) (rules : Rules) (moment : Nat) (turns : List Nat)
    (documents : List Template) :
    let env := Environment.cancelledFrom moment c.reply
    (run env rules turns documents 0).1.map (·.1) = documents ∧
      (∀ i entry, (run env rules turns documents 0).1[i]? = some entry →
        SurvivesCancel c rules moment entry ((trace env rules turns documents 0).history i)) ∧
      (moment = 0 →
        ∀ ev ∈ (run env.recorded rules turns documents (0, [])).2.2, ev.isCall = false) := by
  refine ⟨documents_run _ rules turns documents 0, fun i entry => survivesCancel c turns documents,
    fun hmoment => quiet_of_cancelled ?_ rules turns documents⟩
  exact decide_eq_true (Nat.le_zero.mpr hmoment)

/-- A page is resolved and then the request is cancelled: the page has its report, and the base that
comes after it is cancelled with a single interaction. -/
theorem run_cancelledFrom_betweenDocuments :
    let documents : List Template := [.ofString "page.twig", .ofString "base.twig"]
    let env := Environment.cancelledFrom 23 (Corpus.ofSnapshot .pageOverBase).reply
    let results := (run env (Corpus.rules .default) [] documents 0).1
    let history := (trace env (Corpus.rules .default) [] documents 0).history 1
    (results.map fun entry => entry.2.isOk) = [true, false] ∧ history.length = 1 ∧
      23 ≤ history.head?.elim 0 Event.state ∧
      ∃ entry, results[1]? = some entry ∧ entry.2 = .error .cancelled ∧
        ∀ ev ∈ history, ev.isCall = false := by
  intro documents env results history
  have hlate : 23 ≤ history.head?.elim 0 Event.state := by decide +kernel
  refine ⟨by decide +kernel, by decide +kernel, hlate, _, rfl, ?_⟩
  exact ((run_cancelledFrom (.ofSnapshot .pageOverBase) (Corpus.rules .default) 23 []
    documents).2.1 1 _ rfl).late hlate

end Batch

end TwigRelations
