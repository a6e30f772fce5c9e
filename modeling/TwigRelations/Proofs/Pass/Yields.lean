import Mathlib.Data.List.Basic
import TwigRelations.Proofs.Collection
import TwigRelations.Proofs.Knowledge
import TwigRelations.Proofs.Pass.Finds

/-!
# Resolvers find what there is

Where each query has one answer, every resolver that comes to its end has found the relationship as
such, however often it had to be started and wherever it failed before.
-/

namespace TwigRelations

namespace Knowledge

variable {α β : Type} (k : Knowledge)

/-- Where queries have the known answers, a computation within a pass has no other result than the
given one. -/
def Yields (p : Pass α) (v : α) : Prop :=
  Pass.Finds (fun q a => a = k q) (· = k.toNamespace) p (· = v)

variable {k}

namespace Yields

theorem pure (v : α) : k.Yields (pure v) v := Pass.Finds.pure rfl

/-- A step yields what follows from what the step before it yields. -/
theorem bind {p : Pass α} {f : α → Pass β} {v : α} {w : β} (h : k.Yields p v)
    (hf : k.Yields (f v) w) : k.Yields (p >>= f) w := by
  refine Pass.Finds.bind h ?_
  rintro _ rfl
  exact hf

theorem checkpoint_bind {f : Unit → Pass α} {v : α} (h : k.Yields (f ()) v) :
    k.Yields (Resolution.checkpoint >>= f) v := Pass.Finds.checkpoint_bind h

/-- A call other than for the namespace yields what follows from the known answer. -/
theorem call_bind {q : Query} {f : q.Answer → Pass α} {v : α} (hq : q ≠ .namespaceEntries)
    (h : k.Yields (f (k q)) v) :
    k.Yields (Resolution.checkpoint >>= fun _ => Resolution.ask q >>= f) v := by
  refine Pass.Finds.call_bind hq ?_
  rintro _ rfl
  exact h

/-- A fold yields the fold of what its steps yield. -/
theorem foldlM {xs : List α} {f : β → α → Pass β} {g : β → α → β} (b : β)
    (h : ∀ b x, k.Yields (f b x) (g b x)) : k.Yields (xs.foldlM f b) (xs.foldl g b) := by
  induction xs generalizing b with
  | nil => exact .pure b
  | cons x xs ih =>
    rw [List.foldlM_cons]
    exact (h b x).bind (ih _)

/-- One computation for each member of a list yields what each of them yields. -/
theorem mapM {xs : List α} {f : α → Pass β} {g : α → β} (h : ∀ x, k.Yields (f x) (g x)) :
    k.Yields (xs.mapM f) (xs.map g) := by
  induction xs with
  | nil => exact .pure []
  | cons x xs ih =>
    rw [List.mapM_cons]
    exact (h x).bind (ih.bind (.pure _))

/-- A fold that unites finds everything that is found for any member of the list. -/
theorem foldlM_union {κ : Type} [Identified β κ] [DecidableEq κ] {xs : List α}
    {f : List β → α → Pass (List β)} {g : α → List β}
    (h : ∀ found x, k.Yields (f found x) (Distinct.union found (g x))) :
    k.Yields (xs.foldlM f []) (Distinct.ofList (xs.flatMap g)) := by
  have hfold : k.Yields (xs.foldlM f [])
      (xs.foldl (fun found x => Distinct.union found (g x)) []) := foldlM [] h
  rwa [Distinct.foldl_union] at hfold

end Yields

open Yields

/-- The namespace that is loaded is the one of the known entries. -/
theorem yields_loadNamespace : k.Yields Pass.loadNamespace k.toNamespace := by
  refine Pass.Finds.loadNamespace ?_
  rintro _ rfl
  rfl

theorem yields_namesFor (t : Template) : k.Yields (Pass.namesFor t) (k.namesFor t) :=
  yields_loadNamespace.bind (.pure _)

/-- The existence check yields what is known of the names. -/
theorem yields_hasIncluders (names : List LogicalName) :
    k.Yields (Pass.hasIncluders names) (k.hasIncluders names) := by
  induction names with
  | nil => exact .pure _
  | cons name names ih =>
    refine .call_bind (by simp) ?_
    rw [hasIncluders, List.any_cons]
    cases k (.hasReferencing name) with
    | true => exact .pure _
    | false => exact ih

theorem yields_includers (names : List LogicalName) :
    k.Yields (Pass.includers names) (k.includers names) :=
  .foldlM_union fun _ _ => .call_bind (by simp) (.pure _)

theorem yields_constructsIn (t : Template) : k.Yields (Pass.constructsIn t) (k.constructsIn t) :=
  .call_bind (by simp) (.pure _)

theorem yields_targetsIn (names : List LogicalName) (t : Template) :
    k.Yields (Pass.targetsIn names t) (k.targetsIn names t) := by
  refine .checkpoint_bind ((yields_constructsIn t).bind ?_)
  rw [targetsIn]
  cases (k.constructsIn t).filter fun c => Distinct.holds names c.target <;> exact .pure _

theorem yields_includeTargets (names : List LogicalName) :
    k.Yields (Pass.includeTargets names) (k.includeTargets names) :=
  (yields_includers names).bind ((mapM (yields_targetsIn names)).bind (.pure _))

theorem yields_overwrites (t : Template) : k.Yields (Pass.overwrites t) (k.overwrites t) :=
  (yields_namesFor t).bind (.foldlM_union fun _ _ => .call_bind (by simp) (.pure _))

theorem yields_descendLevel (parent : Template) (level : List Template) (d : Pass.Descent) :
    k.Yields (Pass.descendLevel parent level d) (k.descendLevel parent level d) :=
  .foldlM d fun _ t => .checkpoint_bind <|
    (yields_namesFor t).bind ((yields_includers _).bind (.pure _))

/-- A descent finds what is known to be below the parent, level by level. -/
theorem yields_descend (parent : Template) (levels : Nat) (d : Pass.Descent) :
    k.Yields (Pass.descend parent levels d) (k.descend parent levels d) := by
  induction levels generalizing d with
  | zero => exact .pure _
  | succ levels ih =>
    rw [Pass.descend, descend]
    cases d.level with
    | nil => exact .pure _
    | cons t level => exact (yields_descendLevel _ _ _).bind (ih _)

theorem yields_children (settings : Settings) (parent : Template) :
    k.Yields (Pass.children settings parent) (k.children settings parent) :=
  yields_descend _ _ _

theorem yields_implementations (settings : Settings) (b : Block) :
    k.Yields (Pass.implementations settings b) (k.implementations settings b) :=
  (yields_children settings b.template).bind
    (.foldlM_union fun _ _ => .call_bind (by simp) (.pure _))

theorem yields_overrides (b : Block) : k.Yields (Pass.overrides b) (k.overrides b) :=
  .call_bind (by simp) (.pure _)

/-- A convention adds the action that is known under the coordinates that it derives. -/
theorem yields_addConventional (name : LogicalName) (found : List Action)
    (convention : Convention) : k.Yields (Pass.addConventional name found convention)
      (Distinct.union found (k.conventional? name convention).toList) := by
  rw [conventional?, Pass.addConventional]
  cases convention.actionRef? name with
  | none => exact .checkpoint_bind (.pure _)
  | some ref =>
    refine .call_bind (by simp) ?_
    rw [Option.bind_some]
    cases k (.actionFor ref) <;> exact .pure _

/-- The conventions add what they derive once each. -/
theorem yields_conventionalUsages (rules : Rules) (t : Template) :
    k.Yields (Pass.conventionalUsages rules t)
      (Distinct.ofList (k.conventionalUsages rules t)) := by
  rw [conventionalUsages, Pass.conventionalUsages]
  split
  · refine (yields_namesFor t).bind (.foldlM_union fun found name => ?_)
    rw [List.filterMap_eq_flatMap_toList, ← Distinct.foldl_union]
    exact .foldlM found fun found convention => yields_addConventional name found convention
  · exact .pure _

/-- The actions that are found are those that the conventions derive, followed by those that are
known to render the template. -/
theorem yields_controllerUsages (rules : Rules) (t : Template) :
    k.Yields (Pass.controllerUsages rules t) (k.controllerUsages rules t) := by
  rw [controllerUsages, Distinct.ofList, Distinct.union_append]
  exact (yields_conventionalUsages rules t).bind (.call_bind (by simp) (.pure _))

end Knowledge

end TwigRelations
