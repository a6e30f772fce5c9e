import TwigRelations.Namespace
import TwigRelations.Program

/-!
# Resolution passes

A pass is one resolution request. It loads the namespace at most once, on first use, and keeps it
for the rest of the pass; a failed attempt to load it is not kept. Any step may fail because an
index is unavailable or because the request was cancelled.
-/

namespace TwigRelations

/-- Why a resolution has no result. -/
inductive ResolveError where
  /-- An index could not answer. -/
  | unavailable (e : IndexError)
  /-- The request was cancelled. -/
  | cancelled
  deriving DecidableEq, Repr

/-- The text of the failure. -/
def ResolveError.message : ResolveError → String
  | unavailable e => e.message
  | cancelled => "resolution cancelled"

/-- A computation with a memory of type `μ` that interacts, may fail, and keeps what it remembered
before it failed. -/
abbrev Resolution (μ : Type) := ExceptT ResolveError (StateT μ Program)

namespace Resolution

variable {μ ν α : Type}

/-- Fails if the request was cancelled. -/
def checkpoint : Resolution μ Unit := fun m =>
  .checkpoint fun cancelled => .done (if cancelled then .error .cancelled else .ok (), m)

/-- Asks a query and fails if the index is unavailable. -/
def ask (q : Query) : Resolution μ q.Answer := fun m =>
  .ask q fun reply => .done (reply.mapError .unavailable, m)

/-- Runs a computation on a part of a larger memory. -/
def within (read : ν → μ) (write : ν → μ → ν) (r : Resolution μ α) : Resolution ν α := fun n =>
  (r (read n)).bind fun (result, m) => .done (result, write n m)

/-- The result of a part of the memory: what is there, or else what is computed and then kept. -/
def remember (read : μ → Option α) (write : μ → α → μ) (compute : Resolution μ α) :
    Resolution μ α := do
  match read (← get) with
  | some a => pure a
  | none =>
    let a ← compute
    modify fun m => write m a
    pure a

end Resolution

/-- A computation within a pass. Its memory is the namespace, once loaded. -/
abbrev Pass := Resolution (Option Namespace)

namespace Pass

open Resolution

/-- The namespace of the pass. -/
def loadNamespace : Pass Namespace :=
  remember id (fun _ ns => some ns) do
    checkpoint
    return Namespace.ofEntries (← ask .namespaceEntries)

/-- The names of a template. A template outside the namespace has none. -/
def namesFor (t : Template) : Pass (List LogicalName) := do
  return (← loadNamespace).namesFor t

end Pass

end TwigRelations
