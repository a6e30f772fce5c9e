import TwigRelations.Query

/-!
# Programs

A resolution is a program that asks queries one after another and looks, at its checkpoints, whether
the request was cancelled. A program is a tree: each node is one interaction with the surroundings,
and its branches say how to go on after each possible reply. What happens while a program runs is
thus plain data, and running it is recursion on the tree.
-/

namespace TwigRelations

/-- A program with a result of type `α`. -/
inductive Program (α : Type) : Type where
  /-- The program is over. -/
  | done (a : α)
  /-- Looks whether the request was cancelled. -/
  | checkpoint (next : Bool → Program α)
  /-- Asks a query. -/
  | ask (q : Query) (next : Reply q → Program α)

namespace Program

variable {α β γ : Type}

/-- Goes on with a second program that depends on the result of the first. -/
protected def bind : Program α → (α → Program β) → Program β
  | done a, f => f a
  | checkpoint next, f => checkpoint fun cancelled => (next cancelled).bind f
  | ask q next, f => ask q fun reply => (next reply).bind f

instance : Monad Program where
  pure := done
  bind := Program.bind

@[simp] theorem bind_done (p : Program α) : p.bind done = p := by
  induction p with
  | done a => rfl
  | checkpoint next ih => exact congrArg checkpoint (funext ih)
  | ask q next ih => exact congrArg (ask q) (funext ih)

/-- Programs in a row may be grouped in any way. -/
theorem bind_assoc (p : Program α) (f : α → Program β) (g : β → Program γ) :
    (p.bind f).bind g = p.bind fun a => (f a).bind g := by
  induction p with
  | done a => rfl
  | checkpoint next ih => exact congrArg checkpoint (funext ih)
  | ask q next ih => exact congrArg (ask q) (funext ih)

instance : LawfulMonad Program := LawfulMonad.mk' Program bind_done (fun _ _ => rfl) bind_assoc

end Program

/-- The surroundings of a program, with a state of type `σ` that may change at every interaction. -/
structure Environment (σ : Type) where
  /-- Whether the request is cancelled. -/
  poll : σ → Bool × σ
  /-- What the indexes say to a query. -/
  reply : (q : Query) → σ → Reply q × σ

namespace Environment

/-- Surroundings that never change: each query has one reply, and the request is cancelled from the
beginning or never. -/
def fixed (cancelled : Bool) (reply : (q : Query) → Reply q) : Environment Unit where
  poll s := (cancelled, s)
  reply q s := (reply q, s)

/-- Surroundings without an existence check of their own: whether a name is referred to is told by
looking up the templates that refer to it. -/
def withDerivedCheck {σ : Type} (env : Environment σ) : Environment σ where
  poll := env.poll
  reply
    | .hasReferencing name, s =>
      let (found, s) := env.reply (.referencing name) s
      (found.map fun templates => !templates.isEmpty, s)
    | q, s => env.reply q s

end Environment

namespace Program

variable {α β σ : Type}

/-- Runs a program to its end. -/
def run (env : Environment σ) : Program α → σ → α × σ
  | done a, s => (a, s)
  | checkpoint next, s =>
    let (cancelled, s) := env.poll s
    run env (next cancelled) s
  | ask q next, s =>
    let (reply, s) := env.reply q s
    run env (next reply) s

/-- Runs a program up to its next interaction and through it. -/
def step (env : Environment σ) : Program α → σ → Program α × σ
  | done a, s => (done a, s)
  | checkpoint next, s =>
    let (cancelled, s) := env.poll s
    (next cancelled, s)
  | ask q next, s =>
    let (reply, s) := env.reply q s
    (next reply, s)

/-- Running two programs one after the other passes the state on. -/
theorem run_bind (env : Environment σ) (p : Program α) (f : α → Program β) (s : σ) :
    (p.bind f).run env s = (f (p.run env s).1).run env (p.run env s).2 := by
  induction p generalizing s with
  | done a => rfl
  | checkpoint next ih => exact ih _ _
  | ask q next ih => exact ih _ _

end Program

end TwigRelations
