import TwigRelations.Proofs.Program.Orderly

/-!
# Composing orderly programs

How a resolution that is put together from smaller ones is orderly because they are: one rule for
each way in which resolutions are written.
-/

namespace TwigRelations

namespace Resolution

variable {μ ν α β : Type}

/-- How a resolution goes on after a first part, and how it does not after a failure. -/
def andThen (f : α → Resolution μ β) :
    Except ResolveError α × μ → Program (Except ResolveError β × μ)
  | (.ok a, m) => f a m
  | (.error e, m) => .done (.error e, m)

/-- A resolution hands its memory on to the next one, and its failure to the end. -/
theorem bind_apply (r : Resolution μ α) (f : α → Resolution μ β) (m : μ) :
    (r >>= f) m = (r m).bind (andThen f) := by
  change (r m).bind _ = _
  congr 1
  funext x
  obtain ⟨a | a, m⟩ := x <;> rfl

theorem get_bind_apply (f : μ → Resolution μ α) (m : μ) :
    ((get : Resolution μ μ) >>= f) m = f m m := rfl

/-- A request that was cancelled ends at once, with the memory as it is. -/
theorem checkpoint_bind_apply (f : Unit → Resolution μ α) (m : μ) :
    (checkpoint >>= f) m =
      .checkpoint fun cancelled => if cancelled then .done (.error .cancelled, m) else f () m := by
  rw [bind_apply]
  change Program.checkpoint _ = _
  congr 1
  funext cancelled
  cases cancelled <;> rfl

/-- A query that fails ends the request at once, with the memory as it is. -/
theorem ask_bind_apply (q : Query) (f : q.Answer → Resolution μ α) (m : μ) :
    (ask q >>= f) m = .ask q fun reply =>
      match reply with
      | .ok a => f a m
      | .error e => .done (.error (.unavailable e), m) := by
  rw [bind_apply]
  change Program.ask _ _ = _
  congr 1
  funext reply
  cases reply <;> rfl

/-- A result that is held is given, and any other is computed and then written. -/
theorem remember_apply (read : μ → Option α) (write : μ → α → μ) (compute : Resolution μ α)
    (m : μ) : remember read write compute m =
      match read m with
      | some a => .done (.ok a, m)
      | none => (compute m).bind (andThen fun a m => .done (.ok a, write m a)) := by
  rw [remember, get_bind_apply]
  cases read m with
  | some a => rfl
  | none => exact bind_apply _ _ m

/-- A result that is held is not computed again. -/
theorem remember_of_some {read : μ → Option α} {write : μ → α → μ} {compute : Resolution μ α}
    {m : μ} {a : α} (h : read m = some a) : remember read write compute m = .done (.ok a, m) := by
  rw [remember_apply, h]

end Resolution

namespace Program.Orderly

open Resolution

variable {μ ν α β : Type} {admits : (q : Query) → q.Answer → Prop}
  {fails : Option Namespace → μ → Prop} {mid : Option Namespace → α → μ → Prop}
  {ends : Option Namespace → β → μ → Prop} {ready : Bool} {known : Option Namespace} {m : μ}

/-- One resolution after another. -/
theorem bind_program {p : Program (Except ResolveError α × μ)} {f : α → Resolution μ β}
    (h : Orderly admits fails mid ready known p)
    (hf : ∀ known a m, mid known a m → Orderly admits fails ends false known (f a m)) :
    Orderly admits fails ends ready known (p.bind (andThen f)) := by
  induction h with
  | done h => exact (hf _ _ _ h).ready _
  | checkpoint hm cancelled _ ih =>
    exact .checkpoint hm (by rw [cancelled]; rfl) ih
  | ask hq hm failed _ ih =>
    exact .ask hq hm (fun e => by rw [failed]; rfl) ih

/-- Two orderly resolutions in a row are orderly, where the second is so from wherever the first may
end. -/
theorem bind {r : Resolution μ α} {f : α → Resolution μ β}
    (h : Orderly admits fails mid ready known (r m))
    (hf : ∀ known a m, mid known a m → Orderly admits fails ends false known (f a m)) :
    Orderly admits fails ends ready known ((r >>= f) m) := by
  rw [bind_apply]
  exact bind_program h hf

/-- Looking for cancellation, and then anything. -/
theorem checkpoint_bind {f : Unit → Resolution μ β} (hm : fails known m)
    (h : Orderly admits fails ends true known (f () m)) :
    Orderly admits fails ends ready known ((Resolution.checkpoint >>= f) m) := by
  rw [checkpoint_bind_apply]
  exact .checkpoint hm rfl h

/-- Asking a query after looking for cancellation, and then anything. -/
theorem ask_bind {q : Query} {f : q.Answer → Resolution μ β}
    (hq : known.isSome → q ≠ .namespaceEntries) (hm : fails known m)
    (h : ∀ a, admits q a → Orderly admits fails ends false (q.learned known a) (f a m)) :
    Orderly admits fails ends true known ((Resolution.ask q >>= f) m) := by
  rw [ask_bind_apply]
  exact .ask hq hm (fun _ => rfl) h

/-- A result that is remembered, or computed and then kept. -/
theorem remember {read : μ → Option β} {write : μ → β → μ} {compute : Resolution μ β}
    (hit : ∀ b, read m = some b → ends known b m)
    (miss : read m = none → Orderly admits fails (fun known b m => ends known b (write m b)) ready
      known (compute m)) :
    Orderly admits fails ends ready known (Resolution.remember read write compute m) := by
  rw [remember_apply]
  cases hr : read m with
  | some b => exact .done (hit b hr)
  | none => exact bind_program (miss hr) fun known b m h => .done h

/-- A resolution on a part of a larger memory. -/
theorem within {failsAll : Option Namespace → ν → Prop} {endsAll : Option Namespace → α → ν → Prop}
    {read : ν → μ} {write : ν → μ → ν} {r : Resolution μ α} {n : ν}
    (h : Orderly admits fails mid ready known (r (read n)))
    (hf : ∀ known m, fails known m → failsAll known (write n m))
    (he : ∀ known a m, mid known a m → endsAll known a (write n m)) :
    Orderly admits failsAll endsAll ready known (Resolution.within read write r n) := by
  change Orderly _ _ _ _ _ ((r (read n)).bind _)
  generalize r (read n) = p at h
  induction h with
  | done h => exact .done (he _ _ _ h)
  | checkpoint hm cancelled _ ih =>
    exact .checkpoint (hf _ _ hm) (by rw [cancelled]; rfl) ih
  | ask hq hm failed _ ih =>
    exact .ask hq (hf _ _ hm) (fun e => by rw [failed]; rfl) ih

end Program.Orderly

end TwigRelations
