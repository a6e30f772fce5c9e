import TwigRelations.Resolve.Pass

/-!
# Events

What a run of a program looks like from outside: the list of its interactions in order, each with
the state of the surroundings in which it took place. The list is read off the run itself, by
running the program in surroundings that write everything down.
-/

namespace TwigRelations

/-- One interaction of a run. -/
inductive Event (σ : Type) : Type where
  /-- In some state it was looked whether the request was cancelled. -/
  | polled (s : σ) (cancelled : Bool)
  /-- In some state a query was asked and replied to. -/
  | asked (s : σ) (q : Query) (reply : Reply q)

/-- The namespace that is known after an answer: an answer that lists the namespace tells it. -/
def Query.learned (known : Option Namespace) : (q : Query) → q.Answer → Option Namespace
  | namespaceEntries, entries => some (.ofEntries entries)
  | _, _ => known

/-- Only the entries of the namespace tell a program its namespace. -/
theorem Query.learned_of_ne {q : Query} (h : q ≠ namespaceEntries) (known : Option Namespace)
    (a : q.Answer) : q.learned known a = known := by
  cases q with
  | namespaceEntries => exact absurd rfl h
  | _ => rfl

namespace Event

variable {σ : Type}

/-- Whether an index was asked. -/
def isCall : Event σ → Bool
  | polled _ _ => false
  | asked _ _ _ => true

/-- Whether the namespace was asked for. -/
def isNamespaceCall : Event σ → Bool
  | polled _ _ => false
  | asked _ q _ => q == .namespaceEntries

/-- The failure that an interaction brings with it, if any. -/
def failure? : Event σ → Option ResolveError
  | polled _ true => some .cancelled
  | polled _ false => none
  | asked _ _ (.error e) => some (.unavailable e)
  | asked _ _ (.ok _) => none

/-- Whether the namespace was asked for and told. -/
def isLoad (e : Event σ) : Bool := e.isNamespaceCall && e.failure?.isNone

/-- The namespace that is known after an interaction. -/
def learn (known : Option Namespace) : Event σ → Option Namespace
  | asked _ q (.ok a) => q.learned known a
  | _ => known

end Event

/-- The same surroundings, writing down every interaction. -/
def Environment.recorded {σ : Type} (env : Environment σ) : Environment (σ × List (Event σ)) where
  poll s :=
    ((env.poll s.1).1, (env.poll s.1).2, s.2 ++ [.polled s.1 (env.poll s.1).1])
  reply q s :=
    ((env.reply q s.1).1, (env.reply q s.1).2, s.2 ++ [.asked s.1 q (env.reply q s.1).1])

namespace Environment

variable {σ : Type}

@[simp] theorem recorded_poll (env : Environment σ) (s : σ) (log : List (Event σ)) :
    env.recorded.poll (s, log) =
      ((env.poll s).1, (env.poll s).2, log ++ [.polled s (env.poll s).1]) := rfl

@[simp] theorem recorded_reply (env : Environment σ) (q : Query) (s : σ)
    (log : List (Event σ)) : env.recorded.reply q (s, log) =
      ((env.reply q s).1, (env.reply q s).2, log ++ [.asked s q (env.reply q s).1]) := rfl

end Environment

namespace Program

variable {α σ : Type}

@[simp] theorem run_done (env : Environment σ) (a : α) (s : σ) :
    (done a).run env s = (a, s) := rfl

@[simp] theorem run_checkpoint (env : Environment σ) (next : Bool → Program α) (s : σ) :
    (checkpoint next).run env s = (next (env.poll s).1).run env (env.poll s).2 := rfl

@[simp] theorem run_ask (env : Environment σ) (q : Query) (next : Reply q → Program α) (s : σ) :
    (ask q next).run env s = (next (env.reply q s).1).run env (env.reply q s).2 := rfl

/-- The interactions of a run, in order. -/
def events (env : Environment σ) (p : Program α) (s : σ) : List (Event σ) :=
  (p.run env.recorded (s, [])).2.2

/-- Writing down changes nothing of a run, and what was written before stays in front. -/
theorem run_recorded (env : Environment σ) (p : Program α) (s : σ) (log : List (Event σ)) :
    p.run env.recorded (s, log) =
      ((p.run env s).1, (p.run env s).2, log ++ p.events env s) := by
  unfold events
  induction p generalizing s log with
  | done a => simp
  | checkpoint next ih =>
    simp only [run_checkpoint, Environment.recorded_poll, List.nil_append]
    rw [ih, ih _ _ [_]]
    simp
  | ask q next ih =>
    simp only [run_ask, Environment.recorded_reply, List.nil_append]
    rw [ih, ih _ _ [_]]
    simp

@[simp] theorem events_done (env : Environment σ) (a : α) (s : σ) :
    (done a).events env s = [] := rfl

@[simp] theorem events_checkpoint (env : Environment σ) (next : Bool → Program α) (s : σ) :
    (checkpoint next).events env s =
      .polled s (env.poll s).1 :: (next (env.poll s).1).events env (env.poll s).2 := by
  rw [events]
  simp only [run_checkpoint, Environment.recorded_poll, List.nil_append]
  rw [run_recorded, List.singleton_append]

@[simp] theorem events_ask (env : Environment σ) (q : Query) (next : Reply q → Program α)
    (s : σ) : (ask q next).events env s =
      .asked s q (env.reply q s).1 :: (next (env.reply q s).1).events env (env.reply q s).2 := by
  rw [events]
  simp only [run_ask, Environment.recorded_reply, List.nil_append]
  rw [run_recorded, List.singleton_append]

end Program

end TwigRelations
