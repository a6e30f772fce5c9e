import TwigRelations.Proofs.Collection
import TwigRelations.Proofs.Program.Composition
import TwigRelations.Resolve

/-!
# Resolving in surroundings that never change

Where each query has one reply, and the request is cancelled from the beginning or never, a program
comes to one value. A resolver that needs no namespace leaves the memory as it is, and what it comes
to is written in the same way as the resolver: its checkpoints and queries stand for values, and the
first failure of any of these is the failure of all.
-/

namespace TwigRelations

variable {α β : Type} {cancelled : Bool} {reply : (q : Query) → Reply q}

/-- What a program comes to in surroundings that never change. -/
def Program.settled (cancelled : Bool) (reply : (q : Query) → Reply q) (p : Program α) : α :=
  (p.run (.fixed cancelled reply) ()).1

/-- A program and what goes on from it settle one after the other. -/
theorem Program.settled_bind (p : Program α) (f : α → Program β) :
    (p.bind f).settled cancelled reply =
      (f (p.settled cancelled reply)).settled cancelled reply :=
  congrArg Prod.fst (run_bind _ p f ())

/-- What looking for cancellation and then asking a query comes to. -/
def called (cancelled : Bool) (reply : (q : Query) → Reply q) (q : Query) :
    Except ResolveError q.Answer :=
  if cancelled then .error .cancelled else (reply q).mapError .unavailable

/-- A query that succeeded was asked and had a reply. -/
theorem reply_of_called {q : Query} {a : q.Answer} (h : called cancelled reply q = .ok a) :
    reply q = .ok a := by
  cases cancelled with
  | true => contradiction
  | false =>
    rw [called, if_neg Bool.false_ne_true] at h
    cases hr : reply q with
    | error e =>
      rw [hr] at h
      contradiction
    | ok b =>
      rw [hr] at h
      exact congrArg _ (Except.ok.inj h)

/-- The memory after an attempt: a result is kept, and a failure leaves nothing behind. -/
def Resolution.kept {μ : Type} (write : μ → α → μ) (m : μ) : Except ResolveError α → μ
  | .ok a => write m a
  | .error _ => m

/-- A result that is not held settles as computing it does, and is kept where there is one. -/
theorem Resolution.settled_remember {μ : Type} {read : μ → Option α} {write : μ → α → μ}
    {compute : Resolution μ α} {m m' : μ} {v : Except ResolveError α} (hm : read m = none)
    (h : (compute m).settled cancelled reply = (v, m')) :
    (remember read write compute m).settled cancelled reply = (v, kept write m' v) := by
  rw [remember_apply, hm]
  change ((compute m).bind _).settled cancelled reply = _
  rw [Program.settled_bind, h]
  cases v <;> rfl

namespace Pass

/-- What a step of a pass comes to that needs no namespace. Whatever the pass remembers stays as it
is. -/
def Settles (cancelled : Bool) (reply : (q : Query) → Reply q) (p : Pass α)
    (v : Except ResolveError α) : Prop :=
  ∀ known, (p known).settled cancelled reply = (v, known)

namespace Settles

variable {p : Pass α} {v : Except ResolveError α}

theorem pure (a : α) : Settles cancelled reply (pure a) (pure a) := fun _ => rfl

/-- A step and what goes on from it settle one after the other, up to the first failure. -/
theorem bind {f : α → Pass β} {w : α → Except ResolveError β} (h : Settles cancelled reply p v)
    (hf : ∀ a, Settles cancelled reply (f a) (w a)) :
    Settles cancelled reply (p >>= f) (v >>= w) := by
  intro known
  rw [Resolution.bind_apply, Program.settled_bind, h known]
  cases v with
  | error e => rfl
  | ok a => exact hf a known

/-- Looking for cancellation first changes nothing where that is looked for anyway. -/
theorem checkpoint_bind {f : Unit → Pass α} (h : Settles cancelled reply (f ()) v)
    (hv : cancelled = true → v = .error .cancelled) :
    Settles cancelled reply (Resolution.checkpoint >>= f) v := by
  intro known
  rw [Resolution.checkpoint_bind_apply]
  cases cancelled with
  | true => rw [hv rfl]; rfl
  | false => exact h known

/-- A call settles as its answer does, and what goes on from the answer settles then. -/
theorem call_bind {q : Query} {f : q.Answer → Pass α} {w : q.Answer → Except ResolveError α}
    (h : ∀ a, Settles cancelled reply (f a) (w a)) :
    Settles cancelled reply (Resolution.checkpoint >>= fun _ => Resolution.ask q >>= f)
      (called cancelled reply q >>= w) := by
  have hask : Settles cancelled reply (Resolution.ask q) ((reply q).mapError .unavailable) :=
    fun _ => rfl
  cases cancelled with
  | true => exact fun known => rfl
  | false => exact (hask.bind h).checkpoint_bind Bool.noConfusion

/-- A fold that unites finds everything that is found for any member of the list. -/
theorem foldlM_union {κ : Type} [Identified β κ] [DecidableEq κ] {xs : List α}
    {f : List β → α → Pass (List β)} {g : α → Except ResolveError (List β)}
    (h : ∀ found x, Settles cancelled reply (f found x) (Distinct.union found <$> g x))
    (found : List β) :
    Settles cancelled reply (xs.foldlM f found) (Distinct.union found <$> xs.flatMapM g) := by
  induction xs generalizing found with
  | nil => exact .pure found
  | cons x xs ih =>
    have hstep := (h found x).bind fun found => ih found
    rw [List.foldlM_cons, List.flatMapM_cons]
    simpa only [bind_map_left, map_bind, bind_pure_comp, Functor.map_map, Distinct.union_append]
      using hstep

/-- One computation for each member of a list settles member by member, up to the first failure. -/
theorem mapM {xs : List α} {f : α → Pass β} {g : α → Except ResolveError β}
    (h : ∀ x, Settles cancelled reply (f x) (g x)) :
    Settles cancelled reply (xs.mapM f) (xs.mapM g) := by
  induction xs with
  | nil => exact .pure []
  | cons x xs ih =>
    rw [List.mapM_cons, List.mapM_cons]
    exact (h x).bind fun b => ih.bind fun bs => .pure (b :: bs)

end Settles

/-- A pass that knows no namespace loads the one that there is. -/
theorem settled_loadNamespace : (loadNamespace none).settled cancelled reply =
    (Namespace.ofEntries <$> called cancelled reply .namespaceEntries,
      Resolution.kept (fun _ ns => some ns) none
        (Namespace.ofEntries <$> called cancelled reply .namespaceEntries)) := by
  have hload : Settles cancelled reply
      (Resolution.checkpoint >>= fun _ => Resolution.ask .namespaceEntries >>= fun entries =>
        return Namespace.ofEntries entries)
      (Namespace.ofEntries <$> called cancelled reply .namespaceEntries) :=
    .call_bind fun entries => .pure (Namespace.ofEntries entries)
  exact Resolution.settled_remember rfl (hload none)

variable (cancelled : Bool) (reply : (q : Query) → Reply q) (names : List LogicalName)

/-- Whether any template refers to one of the names, as far as that is looked for. -/
def anyIncluder : Except ResolveError Bool :=
  names.anyM fun name => called cancelled reply (.hasReferencing name)

/-- The templates that refer to any of the names. -/
def allIncluders : Except ResolveError (List Template) :=
  Distinct.ofList <$> names.flatMapM fun name => called cancelled reply (.referencing name)

variable {cancelled reply}

/-- Whether names have includers settles at the first name that has any. -/
theorem settles_hasIncluders :
    Settles cancelled reply (hasIncluders names) (anyIncluder cancelled reply names) := by
  rw [anyIncluder]
  induction names with
  | nil => exact .pure false
  | cons name names ih =>
    rw [List.anyM_cons]
    refine .call_bind fun found => ?_
    cases found with
    | true => exact .pure true
    | false => exact ih

/-- The includers of names settle as those of each name do in turn. -/
theorem settles_includers :
    Settles cancelled reply (includers names) (allIncluders cancelled reply names) :=
  .foldlM_union (fun _ _ => .call_bind fun _ => .pure _) []

theorem settles_constructsIn (t : Template) :
    Settles cancelled reply (constructsIn t)
      (List.filterMap Inclusion.construct? <$> called cancelled reply (.inclusionsIn t)) :=
  .call_bind fun _ => .pure _

end Pass

end TwigRelations
