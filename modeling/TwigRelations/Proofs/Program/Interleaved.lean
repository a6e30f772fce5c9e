import TwigRelations.Engine
import TwigRelations.Proofs.Program.Event

/-!
# Programs among others

A program of a pool moves when it is its turn, and each time it finds the surroundings as the other
programs have left them. Whatever the schedule, what happens at one place of a pool is a run of the
program at that place among others.
-/

namespace TwigRelations

namespace Event

variable {σ : Type}

/-- The state of the surroundings in which an interaction took place. -/
def state : Event σ → σ
  | polled s _ => s
  | asked s _ _ => s

end Event

namespace Program

variable {α β σ : Type}

/-- The interaction of a step, where the program is not over. -/
def stepEvents (env : Environment σ) : Program α → σ → List (Event σ)
  | done _, _ => []
  | checkpoint _, s => [.polled s (env.poll s).1]
  | ask q _, s => [.asked s q (env.reply q s).1]

/-- A run of a program among others, with its interactions and its result. Between two interactions
the surroundings may change in any way. -/
inductive Interleaved (env : Environment σ) : Program α → List (Event σ) → α → Prop
  /-- The program is over. -/
  | done {a} : Interleaved env (.done a) [] a
  /-- It looks whether the request was cancelled, in some state. -/
  | checkpoint {next events a} (s : σ) (goesOn : Interleaved env (next (env.poll s).1) events a) :
    Interleaved env (.checkpoint next) (.polled s (env.poll s).1 :: events) a
  /-- It asks a query, in some state. -/
  | ask {q next events a} (s : σ) (goesOn : Interleaved env (next (env.reply q s).1) events a) :
    Interleaved env (.ask q next) (.asked s q (env.reply q s).1 :: events) a

/-- A step that is recorded writes its interaction at the end of the log. -/
theorem step_recorded (env : Environment σ) (p : Program α) (s : σ) (log : List (Event σ)) :
    p.step env.recorded (s, log) =
      ((p.step env s).1, (p.step env s).2, log ++ p.stepEvents env s) := by
  cases p with
  | done a => exact congrArg (fun l => (_, s, l)) (List.append_nil log).symm
  | checkpoint next => rfl
  | ask q next => rfl

namespace Interleaved

variable {env : Environment σ} {p : Program α} {events : List (Event σ)} {a : α} {s : σ}

/-- A step, and then the rest among others. -/
theorem of_step (h : (p.step env s).1.Interleaved env events a) :
    p.Interleaved env (p.stepEvents env s ++ events) a := by
  cases p with
  | done b => exact h
  | checkpoint next => exact .checkpoint s h
  | ask q next => exact .ask s h

/-- A run on its own is one among others that leave the surroundings alone. -/
theorem run (env : Environment σ) (p : Program α) (s : σ) :
    p.Interleaved env (p.events env s) (p.run env s).1 := by
  induction p generalizing s with
  | done a => exact .done
  | checkpoint next ih =>
    rw [events_checkpoint, run_checkpoint]
    exact .checkpoint s (ih _ _)
  | ask q next ih =>
    rw [events_ask, run_ask]
    exact .ask s (ih _ _)

/-- Changing the result of a program changes nothing else of its run. -/
theorem of_bind_done {f : α → β} {b : β}
    (h : (p.bind fun a => .done (f a)).Interleaved env events b) :
    ∃ a, p.Interleaved env events a ∧ b = f a := by
  induction p generalizing events with
  | done a =>
    cases h
    exact ⟨a, .done, rfl⟩
  | checkpoint next ih =>
    cases h with
    | checkpoint s goesOn =>
      obtain ⟨a, ha, rfl⟩ := ih _ goesOn
      exact ⟨a, .checkpoint s ha, rfl⟩
  | ask q next ih =>
    cases h with
    | ask s goesOn =>
      obtain ⟨a, ha, rfl⟩ := ih _ goesOn
      exact ⟨a, .ask s ha, rfl⟩

/-- Where the surroundings never change, a program among others ends as it does on its own. -/
theorem eq_run_fixed {cancelled : Bool} {reply : (q : Query) → Reply q} {p : Program α}
    {events : List (Event Unit)} {a : α}
    (h : p.Interleaved (.fixed cancelled reply) events a) :
    a = (p.run (.fixed cancelled reply) ()).1 := by
  induction h with
  | done => rfl
  | checkpoint s _ ih => exact ih
  | ask s _ ih => exact ih

end Interleaved

end Program

/-- The interactions of programs that are run side by side, in order, each with the place of its
program. -/
abbrev Trace (σ : Type) := List (Nat × Event σ)

/-- The interactions at one place. -/
def Trace.history {σ : Type} (i : Nat) (t : Trace σ) : List (Event σ) :=
  (t.filter (·.1 == i)).map (·.2)

namespace Trace

variable {σ : Type}

/-- The history at a place goes on from one trace to the next. -/
theorem history_append (i : Nat) (t u : Trace σ) :
    history i (t ++ u) = history i t ++ history i u := by
  simp [history]

theorem history_map_self (i : Nat) (events : List (Event σ)) :
    history i (events.map (i, ·)) = events := by
  simp [history, List.filter_map, Function.comp_def]

/-- The interactions at another place are no part of the history. -/
theorem history_map_of_ne {i j : Nat} (h : j ≠ i) (events : List (Event σ)) :
    history i (events.map (j, ·)) = [] := by
  simp [history, h]

/-- The same trace, where another program comes before all others. -/
def behind (t : Trace σ) : Trace σ := t.map fun (i, ev) => (i + 1, ev)

theorem history_behind_zero (t : Trace σ) : history 0 t.behind = [] := by
  simp [history, behind, List.filter_map, Function.comp_def]

/-- Behind another program the history of a program is the same, one place further. -/
theorem history_behind_succ (i : Nat) (t : Trace σ) : history (i + 1) t.behind = history i t := by
  simp [history, behind, List.filter_map, Function.comp_def]

end Trace

namespace Pool

variable {α σ : Type}

/-- The interactions of programs that are run one after the other. -/
def finishTrace (env : Environment σ) : Pool α → σ → Trace σ
  | [], _ => []
  | p :: rest, s => (p.events env s).map (0, ·) ++ (finishTrace env rest (p.run env s).2).behind

/-- The interactions of a pool that is run by a schedule. -/
def trace (env : Environment σ) : List Nat → Pool α → σ → Trace σ
  | [], pool, s => finishTrace env pool s
  | i :: turns, pool, s =>
    (pool[i]?.elim [] (·.stepEvents env s)).map (i, ·)
      ++ trace env turns (advance env i pool s).1 (advance env i pool s).2

/-- A turn moves the program at its place, if there is one. -/
theorem advance_eq (env : Environment σ) (i : Nat) (pool : Pool α) (s : σ) :
    advance env i pool s =
      pool[i]?.elim (pool, s) fun p => (pool.set i (p.step env s).1, (p.step env s).2) := by
  induction pool generalizing i with
  | nil => cases i <;> rfl
  | cons p rest ih =>
    cases i with
    | zero => rfl
    | succ i =>
      rw [advance, ih, List.getElem?_cons_succ]
      cases rest[i]? <;> rfl

/-- Finishing a pool gives one result for each program. -/
theorem length_finish (env : Environment σ) (pool : Pool α) (s : σ) :
    (finish env pool s).1.length = pool.length := by
  induction pool generalizing s with
  | nil => rfl
  | cons p rest ih => exact congrArg (· + 1) (ih _)

/-- A turn neither adds a program nor takes one away. -/
theorem length_advance (env : Environment σ) (i : Nat) (pool : Pool α) (s : σ) :
    (advance env i pool s).1.length = pool.length := by
  rw [advance_eq]
  cases pool[i]? with
  | none => rfl
  | some p => exact List.length_set

/-- A pool has one result for each program. -/
theorem length_run (env : Environment σ) (turns : List Nat) (pool : Pool α) (s : σ) :
    (run env turns pool s).1.length = pool.length := by
  induction turns generalizing pool s with
  | nil => exact length_finish env pool s
  | cons i turns ih => exact (ih _ _).trans (length_advance env i pool s)

/-- A turn that is recorded writes the interaction of the program that moves. -/
theorem advance_recorded (env : Environment σ) (i : Nat) (pool : Pool α) (s : σ)
    (log : List (Event σ)) :
    advance env.recorded i pool (s, log) = ((advance env i pool s).1, (advance env i pool s).2,
      log ++ pool[i]?.elim [] (·.stepEvents env s)) := by
  rw [advance_eq, advance_eq]
  cases pool[i]? with
  | none => simp
  | some p => simp [Program.step_recorded]

/-- Finishing a recorded pool writes what its trace shows. -/
theorem finish_recorded (env : Environment σ) (pool : Pool α) (s : σ) (log : List (Event σ)) :
    finish env.recorded pool (s, log) = ((finish env pool s).1, (finish env pool s).2,
      log ++ (finishTrace env pool s).map (·.2)) := by
  induction pool generalizing s log with
  | nil => simp [finish, finishTrace]
  | cons p rest ih =>
    rw [finish, Program.run_recorded]
    simp [ih, finish, finishTrace, Trace.behind, Function.comp_def]

/-- What a trace shows, apart from the places, is what is written down in a run. -/
theorem run_recorded (env : Environment σ) (turns : List Nat) (pool : Pool α) (s : σ)
    (log : List (Event σ)) :
    run env.recorded turns pool (s, log) = ((run env turns pool s).1, (run env turns pool s).2,
      log ++ (trace env turns pool s).map (·.2)) := by
  induction turns generalizing pool s log with
  | nil => exact finish_recorded env pool s log
  | cons i turns ih =>
    rw [run, advance_recorded]
    simp [ih, run, trace, Function.comp_def]

variable {env : Environment σ} {pool : Pool α} {s : σ} {i : Nat} {p : Program α} {a : α}

/-- The programs that are finished one after the other run among each other. -/
theorem interleaved_finish (hp : pool[i]? = some p) (ha : (finish env pool s).1[i]? = some a) :
    p.Interleaved env ((finishTrace env pool s).history i) a := by
  induction pool generalizing s i with
  | nil => simp at hp
  | cons p' rest ih =>
    rw [finishTrace, Trace.history_append]
    cases i with
    | zero =>
      obtain rfl : p' = p := Option.some.inj hp
      obtain rfl : (p'.run env s).1 = a := Option.some.inj ha
      rw [Trace.history_map_self, Trace.history_behind_zero, List.append_nil]
      exact .run env p' s
    | succ i =>
      rw [Trace.history_map_of_ne (Nat.zero_ne_add_one i), Trace.history_behind_succ,
        List.nil_append]
      exact ih hp ha

/-- What happens at one place of a pool is a run of the program at that place among others. -/
theorem interleaved_run {turns : List Nat} (hp : pool[i]? = some p)
    (ha : (run env turns pool s).1[i]? = some a) :
    p.Interleaved env ((trace env turns pool s).history i) a := by
  induction turns generalizing pool s p with
  | nil => exact interleaved_finish hp ha
  | cons j turns ih =>
    rw [trace, Trace.history_append]
    -- A turn at another place changes the surroundings, but neither this program nor its history.
    by_cases hj : j = i
    · subst hj
      rw [hp, Trace.history_map_self]
      have hmoved : (advance env j pool s).1[j]? = some (p.step env s).1 := by
        rw [advance_eq, hp]
        exact List.getElem?_set_self (List.getElem?_eq_some_iff.mp hp).1
      exact (ih hmoved ha).of_step
    · rw [Trace.history_map_of_ne hj, List.nil_append]
      have hstays : (advance env j pool s).1[i]? = some p := by
        rw [advance_eq]
        cases pool[j]? with
        | none => exact hp
        | some p' => exact (List.getElem?_set_ne hj).trans hp
      exact ih hstays ha

/-- Where the surroundings never change, each program of a pool ends as it does on its own. -/
theorem run_fixed (cancelled : Bool) (reply : (q : Query) → Reply q) (turns : List Nat)
    (pool : Pool α) :
    (run (.fixed cancelled reply) turns pool ()).1 =
      pool.map fun p => (p.run (.fixed cancelled reply) ()).1 := by
  refine List.ext_getElem (by rw [length_run, List.length_map]) fun i ha hp => ?_
  rw [List.length_map] at hp
  rw [List.getElem_map]
  exact (interleaved_run (List.getElem?_eq_getElem hp) (List.getElem?_eq_getElem ha)).eq_run_fixed

end Pool

end TwigRelations
