import TwigRelations.Proofs.Program.Event

/-!
# Orderly programs

A program is orderly if it looks whether the request was cancelled right before it asks a query,
ends at once with the failure when a query fails or the request was cancelled, never fails for any
other reason, and asks for the namespace only while none is known. What holds of the memory and of
the result where it ends is part of the notion, so that one induction serves every property of a
run.
-/

namespace TwigRelations

namespace Program

variable {μ ν α β σ : Type}

/-- A program that is orderly when its queries are answered by `admits`. The flag tells whether it
has just looked for cancellation, and `known` is the namespace that it has been told. Where it fails
the memory satisfies `fails`, and where it ends the result and the memory satisfy `ends`. -/
inductive Orderly (admits : (q : Query) → q.Answer → Prop)
    (fails : Option Namespace → μ → Prop) (ends : Option Namespace → α → μ → Prop) :
    Bool → Option Namespace → Program (Except ResolveError α × μ) → Prop
  /-- It ends with a result. -/
  | done {ready known a m} (h : ends known a m) :
    Orderly admits fails ends ready known (.done (.ok a, m))
  /-- It looks for cancellation, and ends if the request was cancelled. -/
  | checkpoint {ready known next m} (hm : fails known m)
    (cancelled : next true = .done (.error .cancelled, m))
    (goesOn : Orderly admits fails ends true known (next false)) :
    Orderly admits fails ends ready known (.checkpoint next)
  /-- It asks a query that it has just looked for cancellation before, and ends if that fails. -/
  | ask {known q next m} (hq : known.isSome → q ≠ .namespaceEntries) (hm : fails known m)
    (failed : ∀ e, next (.error e) = .done (.error (.unavailable e), m))
    (goesOn : ∀ a, admits q a →
      Orderly admits fails ends false (q.learned known a) (next (.ok a))) :
    Orderly admits fails ends true known (.ask q next)

variable {admits admits' : (q : Query) → q.Answer → Prop}
  {fails fails' : Option Namespace → μ → Prop} {ends ends' : Option Namespace → α → μ → Prop}
  {known : Option Namespace} {p : Program (Except ResolveError α × μ)}

/-- Having looked for cancellation does no harm. -/
theorem Orderly.ready (h : Orderly admits fails ends false known p) (ready : Bool) :
    Orderly admits fails ends ready known p := by
  cases h with
  | done h => exact .done h
  | checkpoint hm cancelled goesOn => exact .checkpoint hm cancelled goesOn

/-- What is promised may be weakened, and what is admitted restricted. -/
theorem Orderly.mono {ready : Bool} (h : Orderly admits fails ends ready known p)
    (ha : ∀ q a, admits' q a → admits q a) (hf : ∀ known m, fails known m → fails' known m)
    (he : ∀ known a m, ends known a m → ends' known a m) :
    Orderly admits' fails' ends' ready known p := by
  induction h with
  | done h => exact .done (he _ _ _ h)
  | checkpoint hm cancelled _ ih => exact .checkpoint (hf _ _ hm) cancelled ih
  | ask hq hm failed _ ih =>
    exact .ask hq (hf _ _ hm) failed fun a h => ih a (ha _ a h)

/-- A namespace that is known stays known to the end. -/
theorem Orderly.keeps_known {ready : Bool} (h : Orderly admits fails ends ready known p) :
    Orderly admits (fun now m => fails now m ∧ ∀ ns, known = some ns → now = some ns)
      (fun now a m => ends now a m ∧ ∀ ns, known = some ns → now = some ns) ready known p := by
  induction h with
  | done h => exact .done ⟨h, fun _ => id⟩
  | checkpoint hm cancelled _ ih => exact .checkpoint ⟨hm, fun _ => id⟩ cancelled ih
  | @ask known q next m hq hm failed _ ih =>
    refine .ask hq ⟨hm, fun _ => id⟩ failed fun a ha => ?_
    have hstep : ∀ ns, known = some ns → q.learned known a = some ns := by
      rintro ns rfl
      exact Query.learned_of_ne (hq rfl) _ _
    exact (ih a ha).mono (fun _ _ => id)
      (fun _ _ ⟨hf, hk⟩ => ⟨hf, fun ns hns => hk ns (hstep ns hns)⟩)
      fun _ _ _ ⟨he, hk⟩ => ⟨he, fun ns hns => hk ns (hstep ns hns)⟩

end Program

namespace Environment

variable {σ : Type}

/-- Whether the request is found cancelled in a state of the surroundings. -/
def isCancelled (env : Environment σ) (s : σ) : Bool := (env.poll s).1

/-- Surroundings in which every answer is one that is admitted. Any query may fail. -/
def Admits (env : Environment σ) (admits : (q : Query) → q.Answer → Prop) : Prop :=
  ∀ q s a, (env.reply q s).1 = .ok a → admits q a

end Environment

namespace Program.Orderly

variable {μ ν α β σ : Type} {admits : (q : Query) → q.Answer → Prop}
  {fails : Option Namespace → μ → Prop} {ends : Option Namespace → α → μ → Prop}
  {ready : Bool} {known : Option Namespace} {p : Program (Except ResolveError α × μ)}
  {env : Environment σ}

/-- How a run ends: with a result and without any failure, or with the failure of its last
interaction. -/
inductive Ending (fails : Option Namespace → μ → Prop) (ends : Option Namespace → α → μ → Prop)
    (known : Option Namespace) : List (Event σ) → Except ResolveError α × μ → Prop
  /-- Nothing failed. -/
  | ok {events a m} (quiet : ∀ ev ∈ events, ev.failure? = none)
    (h : ends (events.foldl Event.learn known) a m) : Ending fails ends known events (.ok a, m)
  /-- The last interaction failed. -/
  | failed {before ev err m} (quiet : ∀ ev ∈ before, ev.failure? = none)
    (hev : ev.failure? = some err) (h : fails ((before ++ [ev]).foldl Event.learn known) m) :
    Ending fails ends known (before ++ [ev]) (.error err, m)

/-- The first interaction may fail. -/
theorem Ending.single {ev : Event σ} {err : ResolveError} {m : μ} (hev : ev.failure? = some err)
    (h : fails (ev.learn known) m) : Ending fails ends known [ev] (.error err, m) :=
  show Ending fails ends known ([] ++ [ev]) (.error err, m) from .failed (by simp) hev h

/-- An interaction that does not fail may come first. -/
theorem Ending.cons {events : List (Event σ)} {out : Except ResolveError α × μ} {ev : Event σ}
    (h : Ending fails ends (ev.learn known) events out) (hev : ev.failure? = none) :
    Ending fails ends known (ev :: events) out := by
  cases h with
  | ok quiet h => exact .ok (List.forall_mem_cons.mpr ⟨hev, quiet⟩) h
  | failed quiet hlast h =>
    rw [← List.cons_append]
    exact .failed (List.forall_mem_cons.mpr ⟨hev, quiet⟩) hlast h

/-- A run of an orderly program ends with a result or with its first failure. -/
theorem ending (h : Orderly admits fails ends ready known p) (henv : env.Admits admits)
    (s : σ) : Ending fails ends known (p.events env s) (p.run env s).1 := by
  induction h generalizing s with
  | done h => exact .ok (by simp) h
  | @checkpoint ready known next m hm cancelled _ ih =>
    rw [run_checkpoint, events_checkpoint]
    cases hc : (env.poll s).1 with
    | true =>
      rw [cancelled, run_done, events_done]
      exact .single rfl hm
    | false => exact (ih _).cons rfl
  | @ask known q next m hq hm failed _ ih =>
    rw [run_ask, events_ask]
    cases hr : (env.reply q s).1 with
    | error e =>
      rw [failed, run_done, events_done]
      exact .single rfl hm
    | ok a => exact (ih a (henv q s a hr) _).cons rfl

/-- A result comes with what was promised of it. -/
theorem ends_of_ok (h : Orderly admits fails ends ready known p) (henv : env.Admits admits)
    {s : σ} {a : α} (hr : (p.run env s).1.1 = .ok a) :
    ends ((p.events env s).foldl Event.learn known) a (p.run env s).1.2 := by
  have hending := h.ending henv s
  generalize p.events env s = events at hending ⊢
  generalize (p.run env s).1 = out at hending hr ⊢
  cases hending with
  | ok quiet h =>
    obtain rfl := Except.ok.inj hr
    exact h
  | failed quiet hev h => contradiction

/-- A failure leaves the memory as promised. -/
theorem fails_of_error (h : Orderly admits fails ends ready known p) (henv : env.Admits admits)
    {s : σ} {e : ResolveError} (hr : (p.run env s).1.1 = .error e) :
    fails ((p.events env s).foldl Event.learn known) (p.run env s).1.2 := by
  have hending := h.ending henv s
  generalize p.events env s = events at hending ⊢
  generalize (p.run env s).1 = out at hending hr ⊢
  cases hending with
  | ok quiet h => contradiction
  | failed quiet hev h => exact h

/-- An interaction that fails is the last one, and its failure is the result. -/
theorem failure_last (h : Orderly admits fails ends ready known p) (henv : env.Admits admits)
    (s : σ) {before after : List (Event σ)} {ev : Event σ} {err : ResolveError}
    (he : p.events env s = before ++ ev :: after) (hf : ev.failure? = some err) :
    after = [] ∧ (p.run env s).1.1 = .error err := by
  have hending := h.ending henv s
  have hloud : ∀ events : List (Event σ), ev ∈ events → ¬ ∀ ev ∈ events, ev.failure? = none := by
    intro events hmem hquiet
    rw [hquiet ev hmem] at hf
    contradiction
  rw [he] at hending
  generalize hevents : before ++ ev :: after = events at hending
  generalize (p.run env s).1 = out at hending ⊢
  cases hending with
  | ok quiet h => exact absurd quiet (hloud _ (hevents ▸ by simp))
  | @failed quietly last err' m quiet hlast h =>
    rcases List.eq_nil_or_concat after with rfl | ⟨rest, x, rfl⟩
    · obtain ⟨-, hsame⟩ := List.append_inj' hevents rfl
      obtain rfl := List.singleton_inj.mp hsame
      exact ⟨rfl, congrArg Except.error (Option.some.inj (hlast.symm.trans hf))⟩
    · rw [List.concat_eq_append, ← List.cons_append, ← List.append_assoc] at hevents
      obtain ⟨rfl, -⟩ := List.append_inj' hevents rfl
      exact absurd quiet (hloud _ (by simp))

/-- Where nothing fails there is a result. -/
theorem ok_of_quiet (h : Orderly admits fails ends ready known p) (henv : env.Admits admits)
    {s : σ} (hquiet : ∀ ev ∈ p.events env s, ev.failure? = none) :
    ∃ a, (p.run env s).1.1 = .ok a := by
  have hending := h.ending henv s
  generalize p.events env s = events at hending hquiet
  generalize (p.run env s).1 = out at hending ⊢
  cases hending with
  | @ok events a m quiet h => exact ⟨a, rfl⟩
  | @failed before ev err m quiet hev h =>
    rw [hquiet ev (List.mem_append_right _ List.mem_cons_self)] at hev
    contradiction

/-- Where the request is cancelled no index is asked: the run is cancelled, or it was over. -/
theorem of_cancelled (h : Orderly admits fails ends false known p) {s : σ}
    (hs : env.isCancelled s = true) : (∀ ev ∈ p.events env s, ev.isCall = false) ∧
      ((p.run env s).1.1 = .error .cancelled ∨
        (p.events env s = [] ∧ ∃ a, (p.run env s).1.1 = .ok a)) := by
  have hpoll : (env.poll s).1 = true := hs
  cases h with
  | @done _ _ a m h => exact ⟨by simp, .inr ⟨rfl, a, rfl⟩⟩
  | checkpoint hm cancelled goesOn =>
    constructor
    · simp [hpoll, cancelled, Event.isCall]
    · exact .inl (by simp [hpoll, cancelled])

/-- After a query was answered the rest of the run is that of an orderly program. -/
theorem after_answer (h : Orderly admits fails ends ready known p) (henv : env.Admits admits)
    {s t : σ} {before after : List (Event σ)} {q : Query} {a : q.Answer}
    (he : p.events env s = before ++ .asked t q (.ok a) :: after) :
    ∃ known' p', Orderly admits fails ends false known' p' ∧
      p'.events env (env.reply q t).2 = after ∧ p'.run env (env.reply q t).2 = p.run env s := by
  induction h generalizing s before with
  | done h => simp at he
  | @checkpoint ready known next m hm cancelled _ ih =>
    rw [events_checkpoint, List.cons_eq_append_iff] at he
    rcases he with ⟨-, he⟩ | ⟨before, rfl, he⟩
    · simp at he
    · rw [run_checkpoint]
      cases hc : (env.poll s).1 with
      | true => simp [hc, cancelled] at he
      | false =>
        rw [hc] at he
        exact ih he
  | @ask known q' next m hq hm failed goesOn ih =>
    rw [events_ask] at he
    rw [run_ask]
    cases hr : (env.reply q' s).1 with
    | error e =>
      rw [hr, failed, events_done, List.cons_eq_append_iff] at he
      rcases he with ⟨-, he⟩ | ⟨before, -, he⟩
      · obtain ⟨hev, -⟩ := List.cons.inj he
        cases hev
      · simp at he
    | ok b =>
      rw [hr, List.cons_eq_append_iff] at he
      rcases he with ⟨-, he⟩ | ⟨before, rfl, he⟩
      · obtain ⟨hev, rfl⟩ := List.cons.inj he
        injection hev with hs hq' hreply
        subst hs hq'
        exact ⟨_, _, goesOn b (henv q t b hr), rfl, rfl⟩
      · exact ih b (henv q' s b hr) he

/-- Each time the namespace is told it becomes known, and it is told only while it is not. -/
theorem countP_isLoad (h : Orderly admits fails ends ready known p) (henv : env.Admits admits)
    (s : σ) : (p.events env s).countP Event.isLoad + known.isSome.toNat =
      ((p.events env s).foldl Event.learn known).isSome.toNat := by
  induction h generalizing s with
  | done h => simp
  | @checkpoint ready known next m hm cancelled _ ih =>
    rw [events_checkpoint, List.countP_cons, List.foldl_cons]
    cases hc : (env.poll s).1 with
    | true => simp [cancelled, Event.isLoad, Event.isNamespaceCall, Event.learn]
    | false => simpa [Event.isLoad, Event.isNamespaceCall, Event.learn] using ih _
  | @ask known q next m hq hm failed _ ih =>
    rw [events_ask, List.countP_cons, List.foldl_cons]
    cases hr : (env.reply q s).1 with
    | error e => simp [failed, Event.isLoad, Event.failure?, Event.learn]
    | ok a =>
      have hi := ih a (henv q s a hr) (env.reply q s).2
      rw [Event.learn, ← hi]
      by_cases hns : q = .namespaceEntries
      · subst hns
        have hk : known = none := by
          cases known with
          | none => rfl
          | some ns => exact absurd rfl (hq rfl)
        simp [hk, Event.isLoad, Event.isNamespaceCall, Event.failure?, Query.learned]
      · simp [Query.learned_of_ne hns, hns, Event.isLoad, Event.isNamespaceCall]

end Program.Orderly

end TwigRelations
