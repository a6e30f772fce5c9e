import TwigRelations.Corpus
import TwigRelations.Document

/-!
# Batches and engines

Many documents resolved by a pool of workers. The namespace is loaded once and shared; each document
is a program of its own, so that a failure of one does not touch the others. Workers take turns at
single interactions, in an order that is given as a schedule, and the results stand in the order of
the documents. The engine of a corpus that does not change goes by given settings and by the
convention of Symfony bundles.
-/

namespace TwigRelations

/-- Programs that are being run side by side. -/
abbrev Pool (α : Type) := List (Program α)

namespace Pool

variable {α σ : Type}

/-- Runs one program of a pool through its next interaction. A place outside the pool does
nothing. -/
def advance (env : Environment σ) : Nat → Pool α → σ → Pool α × σ
  | _, [], s => ([], s)
  | 0, p :: rest, s =>
    let (p, s) := p.step env s
    (p :: rest, s)
  | i + 1, p :: rest, s =>
    let (rest, s) := advance env i rest s
    (p :: rest, s)

/-- Runs the programs of a pool to their ends, one after the other. -/
def finish (env : Environment σ) : Pool α → σ → List α × σ
  | [], s => ([], s)
  | p :: rest, s =>
    let (a, s) := p.run env s
    let (results, s) := finish env rest s
    (a :: results, s)

/-- Runs a pool by a schedule, which names the program that moves at each turn. What is left after
the last turn is run in order. -/
def run (env : Environment σ) : List Nat → Pool α → σ → List α × σ
  | [], pool, s => finish env pool s
  | i :: turns, pool, s =>
    let (pool, s) := advance env i pool s
    run env turns pool s

end Pool

namespace Batch

variable {σ : Type}

/-- The results of a batch, in the order of its documents. A namespace that cannot be loaded fails
every document in the same way. -/
def run (env : Environment σ) (rules : Rules) (turns : List Nat) (documents : List Template)
    (s : σ) : List (Template × Except ResolveError Report) × σ :=
  let ((loaded, _), s) := Program.run env (Pass.loadNamespace none) s
  match loaded with
  | .error e => (documents.map fun t => (t, .error e), s)
  | .ok ns =>
    let (results, s) :=
      Pool.run env turns (documents.map fun t => Document.reportProgram rules t (some ns)) s
    (documents.zip results, s)

end Batch

/-! ## Resolving from a corpus -/

namespace Corpus

/-- The surroundings that a corpus is by itself. No request is cancelled. -/
def environment (c : Corpus) : Environment Unit := Environment.fixed false c.reply

/-- The rules of the given settings. -/
def rules (settings : Settings) : Rules := ⟨settings, [Convention.symfony]⟩

/-- The relationships of one template. -/
def report (c : Corpus) (settings : Settings) (t : Template) : Except ResolveError Report :=
  (Program.run c.environment (Document.reportProgram (rules settings) t none) ()).1

/-- The relationships of every template of the corpus, in the order of the corpus. -/
def batch (c : Corpus) (settings : Settings) : List (Template × Except ResolveError Report) :=
  (Batch.run c.environment (rules settings) [] c.templates ()).1

end Corpus

end TwigRelations
