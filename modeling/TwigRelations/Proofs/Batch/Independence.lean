import Mathlib.Logic.Function.Basic
import TwigRelations.Proofs.Batch
import TwigRelations.Proofs.Program.Interleaved

/-!
# Documents of a batch do not affect each other

A batch loads the namespace once for all of its documents and spares each of them that first step.
Where the surroundings never change this makes no difference: in whatever order the programs move,
each document gets what it gets on its own, and a query that fails is felt by those documents only
that ask it.
-/

namespace TwigRelations

/-- Whether a query was asked. -/
def Event.asks {σ : Type} (q : Query) : Event σ → Bool
  | polled _ _ => false
  | asked _ q' _ => q' == q

namespace Program.Orderly

variable {μ α : Type} {fails : Option Namespace → μ → Prop}
  {ends : Option Namespace → α → μ → Prop} {ready : Bool} {known : Option Namespace}
  {p : Program (Except ResolveError α × μ)}

/-- Where one query fails, an orderly program that asks it ends with that failure, and any other
ends as before. -/
theorem run_update (h : Orderly (fun _ _ => True) fails ends ready known p) (cancelled : Bool)
    (reply : (q : Query) → Reply q) (q : Query) (e : IndexError) :
    (p.run (.fixed cancelled (Function.update reply q (.error e))) ()).1.1 =
      if (p.events (.fixed cancelled reply) ()).any (Event.asks q) then .error (.unavailable e)
      else (p.run (.fixed cancelled reply) ()).1.1 := by
  induction h with
  | done h => rfl
  | @checkpoint ready known next m hm stops _ ih =>
    rw [run_checkpoint, run_checkpoint, events_checkpoint, List.any_cons]
    cases cancelled with
    | true => simp [Environment.fixed, stops, Event.asks]
    | false => exact ih
  | @ask known q' next m hq hm failed _ ih =>
    rw [run_ask, run_ask, events_ask, List.any_cons]
    -- The first query that is asked and fails ends the program, so what comes after it is dropped.
    by_cases hsame : q' = q
    · subst hsame
      simp [Environment.fixed, Event.asks, failed]
    · have hother : Function.update reply q (.error e) q' = reply q' :=
        Function.update_of_ne hsame ..
      simp only [Environment.fixed, hother, Event.asks, beq_eq_false_iff_ne.mpr hsame,
        Bool.false_or]
      cases reply q' with
      | error e' => simp [failed]
      | ok a => exact ih a trivial

end Program.Orderly

namespace Document

variable (cancelled : Bool) (reply : (q : Query) → Reply q) (rules : Rules) (document : Template)

/-- What a document gives that is resolved on its own, where the surroundings never change. -/
def alone : Except ResolveError Report :=
  ((report rules document (.fresh none)).run (.fixed cancelled reply) ()).1.1

/-- Whether a document that is resolved on its own asks a query. -/
def asksAlone (q : Query) : Bool :=
  ((report rules document (.fresh none)).events (.fixed cancelled reply) ()).any (Event.asks q)

/-- Resolving a document on its own is loading the namespace and resolving the document from it. -/
theorem reportProgram_none : reportProgram rules document none =
    (Pass.loadNamespace none).bind fun out =>
      match out.1 with
      | .error e => .done (.error e)
      | .ok ns => reportProgram rules document (some ns) := by
  -- Both sides end where loading fails, and go on with the same rest from the same memory if not.
  have hload : ∃ rest : Namespace → Access Report,
      report rules document = inPass Pass.loadNamespace >>= rest :=
    ⟨_, bind_assoc (inPass Pass.loadNamespace) _ _⟩
  obtain ⟨rest, hreport⟩ := hload
  rw [reportProgram, hreport, Resolution.bind_apply, inPass_apply, Pass.loadNamespace_none]
  change Program.checkpoint _ = Program.checkpoint _
  congr 1
  funext found
  cases found with
  | true => rfl
  | false =>
    change Program.ask _ _ = Program.ask _ _
    congr 1
    funext told
    cases told with
    | error e => rfl
    | ok entries =>
      change _ = (report rules document (.fresh (some (.ofEntries entries)))).bind _
      rw [hreport]
      rfl

/-- The program of a report ends as resolving the document in a fresh memory does. -/
theorem run_reportProgram {σ : Type} (env : Environment σ) (loaded : Option Namespace) (s : σ) :
    ((reportProgram rules document loaded).run env s).1 =
      ((report rules document (.fresh loaded)).run env s).1.1 := by
  rw [reportProgram, Program.run_bind]
  rfl

/-- Resolving a document is orderly, whatever is known when it begins. -/
theorem orderly_report (loaded : Option Namespace) :
    ∃ fails ends, Program.Orderly (fun _ _ => True) fails ends false loaded
      (report rules document (.fresh loaded)) := by
  let f := Findings.anything rules document
  have hfresh : f.Sound (.fresh loaded) := .fresh fun _ _ => trivial
  exact ⟨_, _, Findings.gives_report (.fresh loaded) hfresh⟩

/-- Where one query fails, a document that asks it fails with it, and any other ends as before. -/
theorem alone_update (q : Query) (e : IndexError) :
    alone cancelled (Function.update reply q (.error e)) rules document =
      if asksAlone cancelled reply rules document q then .error (.unavailable e)
      else alone cancelled reply rules document := by
  obtain ⟨fails, ends, horderly⟩ := orderly_report rules document none
  exact horderly.run_update cancelled reply q e

end Document

namespace Batch

variable (cancelled : Bool) (reply : (q : Query) → Reply q) (rules : Rules)

/-- Sharing the namespace makes no difference to any document. -/
theorem entries_fixed (turns : List Nat) (documents : List Template) :
    (run (.fixed cancelled reply) rules turns documents ()).1 =
      documents.map fun t => (t, Document.alone cancelled reply rules t) := by
  have halone (t : Template) : Document.alone cancelled reply rules t =
      ((Document.reportProgram rules t none).run (.fixed cancelled reply) ()).1 :=
    (Document.run_reportProgram rules t _ none ()).symm
  simp only [halone, Document.reportProgram_none, Program.run_bind]
  rw [run]
  generalize (Pass.loadNamespace none).run (.fixed cancelled reply) () = out
  obtain ⟨⟨loaded, known⟩, s⟩ := out
  cases loaded with
  | error e => rfl
  | ok ns =>
    change documents.zip (Pool.run _ turns _ ()).1 = _
    rw [Pool.run_fixed, List.map_map, ← List.map_prod_left_eq_zip]
    rfl

/-- Where the surroundings never change, a batch has one entry for each document in order, which is
the document with what it gives on its own, whatever the schedule. Where one query fails, the
documents that ask it on their own fail with it, and no other document is affected. -/
theorem run_eq_alone (turns : List Nat) (documents : List Template) :
    (run (.fixed cancelled reply) rules turns documents ()).1 =
        documents.map (fun t => (t, Document.alone cancelled reply rules t)) ∧
      ∀ q e,
        (run (.fixed cancelled (Function.update reply q (.error e))) rules turns documents ()).1 =
          documents.map fun t =>
            (t, if Document.asksAlone cancelled reply rules t q then .error (.unavailable e)
              else Document.alone cancelled reply rules t) := by
  refine ⟨entries_fixed cancelled reply rules turns documents, fun q e => ?_⟩
  rw [entries_fixed]
  simp only [Document.alone_update]

end Batch

end TwigRelations
