import TwigRelations.Proofs.Program.Composition
import TwigRelations.Resolve

/-!
# What a pass finds

A pass remembers exactly the namespace that it was told. Of what it finds one may know that every
answer was admitted; where nothing is known of the answers, every resolver is still orderly.
-/

namespace TwigRelations.Pass

variable {α β : Type}

/-- Whatever is known is a namespace of a certain kind. -/
def Knows (kind : Namespace → Prop) (known : Option Namespace) : Prop :=
  ∀ ns, known = some ns → kind ns

/-- A computation within a pass that is orderly and has results of a certain kind, where all answers
are admitted and the namespace is of a certain kind. Its memory is the namespace that it was
told. -/
def Finds (admits : (q : Query) → q.Answer → Prop) (kind : Namespace → Prop) (p : Pass α)
    (found : α → Prop) : Prop :=
  ∀ known, Knows kind known →
    Program.Orderly admits (fun known m => m = known ∧ Knows kind known)
      (fun known a m => m = known ∧ Knows kind known ∧ found a) false known (p known)

namespace Finds

variable {admits : (q : Query) → q.Answer → Prop} {kind : Namespace → Prop} {p : Pass α}
  {found found' : α → Prop} {result : β → Prop}

/-- What is found may be described by less. -/
theorem mono (h : Finds admits kind p found) (hf : ∀ a, found a → found' a) :
    Finds admits kind p found' := fun known hk =>
  (h known hk).mono (fun _ _ => id) (fun _ _ => id) fun _ _ _ ⟨hm, hn, ha⟩ => ⟨hm, hn, hf _ ha⟩

/-- A pass that asks nothing finds its result. -/
theorem pure {a : α} (h : found a) : Finds admits kind (pure a) found := fun _ hk =>
  .done ⟨rfl, hk, h⟩

/-- What a first step finds, the next one may rely on. -/
theorem bind {f : α → Pass β} (h : Finds admits kind p found)
    (hf : ∀ a, found a → Finds admits kind (f a) result) :
    Finds admits kind (p >>= f) result := by
  intro known hk
  refine .bind (h known hk) ?_
  rintro known a m ⟨rfl, hn, ha⟩
  exact hf a ha m hn

/-- Looking for cancellation and then going on. -/
theorem checkpoint_bind {f : Unit → Pass β} (h : Finds admits kind (f ()) result) :
    Finds admits kind (Resolution.checkpoint >>= f) result := fun known hk =>
  .checkpoint_bind ⟨rfl, hk⟩ ((h known hk).ready true)

/-- Looking for cancellation, asking a query other than for the namespace, and going on. -/
theorem call_bind {q : Query} {f : q.Answer → Pass β} (hq : q ≠ .namespaceEntries)
    (h : ∀ a, admits q a → Finds admits kind (f a) result) :
    Finds admits kind (Resolution.checkpoint >>= fun _ => Resolution.ask q >>= f) result := by
  intro known hk
  refine .checkpoint_bind ⟨rfl, hk⟩ (.ask_bind (fun _ => hq) ⟨rfl, hk⟩ fun a ha => ?_)
  rw [Query.learned_of_ne hq]
  exact h a ha known hk

/-- A fold, with an invariant for what has been folded so far. -/
theorem foldlM {xs : List α} {f : β → α → Pass β} {b : β} (h : result b)
    (hf : ∀ b, result b → ∀ x ∈ xs, Finds admits kind (f b x) result) :
    Finds admits kind (xs.foldlM f b) result := by
  induction xs generalizing b with
  | nil => exact .pure h
  | cons x xs ih =>
    rw [List.foldlM_cons]
    exact (hf b h x List.mem_cons_self).bind fun b hb =>
      ih hb fun b hb x hx => hf b hb x (List.mem_cons_of_mem _ hx)

/-- One computation for each member of a list. -/
theorem mapM {xs : List α} {f : α → Pass β} (result : β → Prop)
    (hf : ∀ x ∈ xs, Finds admits kind (f x) result) :
    Finds admits kind (xs.mapM f) fun bs => ∀ b ∈ bs, result b := by
  induction xs with
  | nil => exact .pure (by simp)
  | cons x xs ih =>
    rw [List.mapM_cons]
    refine (hf x List.mem_cons_self).bind fun b hb => ?_
    refine (ih fun x hx => hf x (List.mem_cons_of_mem _ hx)).bind fun bs hbs => .pure ?_
    simpa using ⟨hb, hbs⟩

end Finds

variable {admits : (q : Query) → q.Answer → Prop} {kind : Namespace → Prop}

/-- A pass remembers the namespace that it loads, and that is of the kind that all namespaces are
that may be told. -/
theorem orderly_loadNamespace
    (h : ∀ entries, admits .namespaceEntries entries → kind (.ofEntries entries))
    {known : Option Namespace} (hk : Knows kind known) :
    Program.Orderly admits (fun known m => m = known ∧ Knows kind known)
      (fun known ns m => m = known ∧ Knows kind known ∧ known = some ns) false known
      (loadNamespace known) := by
  refine .remember (fun ns hns => ⟨rfl, hk, hns⟩) fun hnone => ?_
  obtain rfl : known = none := hnone
  refine .checkpoint_bind ⟨rfl, hk⟩ (.ask_bind (by simp) ⟨rfl, hk⟩ fun entries he => ?_)
  refine .done ⟨rfl, ?_, rfl⟩
  rintro ns hns
  obtain rfl := Option.some.inj hns
  exact h entries he

/-- The namespace of a pass is of the kind that all namespaces are that may be told. -/
theorem Finds.loadNamespace
    (h : ∀ entries, admits .namespaceEntries entries → kind (.ofEntries entries)) :
    Finds admits kind loadNamespace kind := fun _ hk =>
  (orderly_loadNamespace h hk).mono (fun _ _ => id) (fun _ _ => id)
    fun _ ns _ ⟨hm, hn, he⟩ => ⟨hm, hn, hn ns he⟩

end TwigRelations.Pass
