import TwigRelations.Engine
import TwigRelations.Proofs.Program.Orderly

/-!
# Confined programs

A program may be confined to some queries and to some results, whatever it is told on its way. What
such queries do not change holds throughout a run, also where the program moves among others.
-/

namespace TwigRelations

namespace Program

variable {α β μ σ : Type}

/-- A program that asks only certain queries and ends only with certain results. -/
inductive Confined (asks : Query → Prop) (ends : α → Prop) : Program α → Prop
  /-- It ends with a result that it may have. -/
  | done {a} (h : ends a) : Confined asks ends (.done a)
  /-- It looks whether the request was cancelled. -/
  | checkpoint {next} (goesOn : ∀ cancelled, Confined asks ends (next cancelled)) :
    Confined asks ends (.checkpoint next)
  /-- It asks a query that it may ask. -/
  | ask {q next} (hq : asks q) (goesOn : ∀ reply, Confined asks ends (next reply)) :
    Confined asks ends (.ask q next)

/-- What holds of the surroundings is not changed by looking for cancellation or by asking certain
queries. -/
structure Preserves (env : Environment σ) (asks : Query → Prop) (holds : σ → Prop) : Prop where
  /-- Looking for cancellation keeps it. -/
  poll : ∀ s, holds s → holds (env.poll s).2
  /-- Asking one of the queries keeps it. -/
  reply : ∀ q s, asks q → holds s → holds (env.reply q s).2

namespace Confined

variable {asks : Query → Prop} {ends : α → Prop} {ends' : β → Prop} {p : Program α}
  {env : Environment σ} {holds : σ → Prop}

/-- A confined program that goes on with confined ones is confined. -/
theorem bind {f : α → Program β} (h : p.Confined asks ends)
    (hf : ∀ a, ends a → (f a).Confined asks ends') : (p.bind f).Confined asks ends' := by
  induction h with
  | done h => exact hf _ h
  | checkpoint _ ih => exact .checkpoint ih
  | ask hq _ ih => exact .ask hq ih

/-- One interaction leaves a program that is confined as before. -/
theorem step (h : p.Confined asks ends) (henv : Preserves env asks holds) {s : σ} (hs : holds s) :
    (p.step env s).1.Confined asks ends ∧ holds (p.step env s).2 := by
  cases h with
  | done h => exact ⟨.done h, hs⟩
  | checkpoint goesOn => exact ⟨goesOn _, henv.poll s hs⟩
  | ask hq goesOn => exact ⟨goesOn _, henv.reply _ s hq hs⟩

/-- A run ends as it may. -/
theorem run (h : p.Confined asks ends) (henv : Preserves env asks holds) {s : σ} (hs : holds s) :
    ends (p.run env s).1 ∧ holds (p.run env s).2 := by
  induction h generalizing s with
  | done h => exact ⟨h, hs⟩
  | checkpoint _ ih => exact ih _ (henv.poll s hs)
  | ask hq _ ih => exact ih _ (henv.reply _ s hq hs)

end Confined

/-- What an orderly program leaves behind: its result and memory, and what is known by then. -/
def Concludes (fails : Option Namespace → μ → Prop) (ends : Option Namespace → α → μ → Prop)
    (known : Option Namespace) : Except ResolveError α × μ → Prop
  | (.ok a, m) => ends known a m
  | (.error _, m) => fails known m

/-- Once the namespace is known an orderly program does not ask for it, whatever it is told. -/
theorem Orderly.confined {fails : Option Namespace → μ → Prop}
    {ends : Option Namespace → α → μ → Prop} {ready : Bool} {known : Option Namespace}
    {p : Program (Except ResolveError α × μ)}
    (h : Orderly (fun _ _ => True) fails ends ready known p) (hk : known.isSome = true) :
    p.Confined (· ≠ .namespaceEntries) (Concludes fails ends known) := by
  induction h with
  | done h => exact .done h
  | checkpoint hm cancelled _ ih =>
    refine .checkpoint fun found => ?_
    cases found with
    | true =>
      rw [cancelled]
      exact .done hm
    | false => exact ih hk
  | @ask known q next m hq hm failed _ ih =>
    refine .ask (hq hk) fun reply => ?_
    cases reply with
    | error e =>
      rw [failed]
      exact .done hm
    | ok a =>
      have ha := ih a trivial
      rw [Query.learned_of_ne (hq hk)] at ha
      exact ha hk

end Program

namespace Pool

variable {α σ : Type} {asks : Query → Prop} {ends : α → Prop} {env : Environment σ}
  {holds : σ → Prop}

/-- Moving one program of a pool keeps all of them confined. -/
theorem advance_confined (henv : Program.Preserves env asks holds) {i : Nat} {pool : Pool α} {s : σ}
    (h : ∀ p ∈ pool, p.Confined asks ends) (hs : holds s) :
    (∀ p ∈ (advance env i pool s).1, p.Confined asks ends) ∧ holds (advance env i pool s).2 := by
  induction pool generalizing i with
  | nil => cases i <;> exact ⟨h, hs⟩
  | cons p rest ih =>
    obtain ⟨hp, hrest⟩ := List.forall_mem_cons.mp h
    cases i with
    | zero =>
      obtain ⟨hp, hs⟩ := hp.step henv hs
      exact ⟨List.forall_mem_cons.mpr ⟨hp, hrest⟩, hs⟩
    | succ i =>
      obtain ⟨hrest, hs⟩ := ih (i := i) hrest
      exact ⟨List.forall_mem_cons.mpr ⟨hp, hrest⟩, hs⟩

/-- Programs that are confined end as they may when they are run one after the other. -/
theorem finish_confined (henv : Program.Preserves env asks holds) {pool : Pool α} {s : σ}
    (h : ∀ p ∈ pool, p.Confined asks ends) (hs : holds s) :
    (∀ a ∈ (finish env pool s).1, ends a) ∧ holds (finish env pool s).2 := by
  induction pool generalizing s with
  | nil => exact ⟨by simp [finish], hs⟩
  | cons p rest ih =>
    obtain ⟨hp, hrest⟩ := List.forall_mem_cons.mp h
    obtain ⟨ha, hs⟩ := hp.run henv hs
    obtain ⟨has, hs⟩ := ih hrest hs
    exact ⟨List.forall_mem_cons.mpr ⟨ha, has⟩, hs⟩

/-- Programs that are confined end as they may by whatever schedule they are run. -/
theorem run_confined (henv : Program.Preserves env asks holds) (turns : List Nat) {pool : Pool α}
    {s : σ} (h : ∀ p ∈ pool, p.Confined asks ends) (hs : holds s) :
    (∀ a ∈ (run env turns pool s).1, ends a) ∧ holds (run env turns pool s).2 := by
  induction turns generalizing pool s with
  | nil => exact finish_confined henv h hs
  | cons i turns ih =>
    obtain ⟨hpool, hs⟩ := advance_confined henv (i := i) h hs
    exact ih hpool hs

end Pool

end TwigRelations
