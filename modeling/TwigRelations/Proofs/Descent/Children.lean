import TwigRelations.Proofs.Descent.Distance
import TwigRelations.Proofs.Pass.Yields

/-!
# The child templates of a pass

What a pass finds below a template when its indexes answer each query and nobody cancels it: all
templates near enough by steps of reference, nearest first, and the blocks of those.
-/

namespace TwigRelations

namespace Knowledge

variable {k : Knowledge} {parent t : Template}

/-- The surroundings in which each query has its known answer and no request is cancelled. -/
def environment (k : Knowledge) : Environment Unit := Environment.fixed false fun q => .ok (k q)

/-- Nothing fails where each query has an answer. -/
theorem failure?_of_mem_events {α : Type} (p : Program α) :
    ∀ ev ∈ p.events k.environment (), ev.failure? = none := by
  induction p with
  | done a => simp
  | checkpoint next ih =>
    rw [Program.events_checkpoint, List.forall_mem_cons]
    exact ⟨rfl, ih false⟩
  | ask q next ih =>
    rw [Program.events_ask, List.forall_mem_cons]
    exact ⟨rfl, ih (.ok (k q))⟩

/-- In the surroundings of what is known no other answers are given. -/
theorem admits_environment (k : Knowledge) : k.environment.Admits fun q a => a = k q := by
  intro q s a h
  exact (Except.ok.inj h).symm

/-- The namespace that a pass knows of: none at its beginning, and the one of its index once that
is loaded. -/
def known (k : Knowledge) (loaded : Bool) : Option Namespace :=
  if loaded then some k.toNamespace else none

/-- What a step of a pass finds that is left in peace, before or after the namespace is loaded. -/
def find (k : Knowledge) (loaded : Bool) {α : Type} (p : Pass α) : Except ResolveError α :=
  ((p (k.known loaded)).run k.environment ()).1.1

/-- Left in peace, a resolver finds the relationship as such. -/
theorem find_eq {α : Type} {p : Pass α} {v : α} (loaded : Bool) (h : k.Yields p v) :
    k.find loaded p = .ok v := by
  have hknown : Pass.Knows (· = k.toNamespace) (k.known loaded) := by
    cases loaded with
    | false => simp [Pass.Knows, known]
    | true =>
      rintro ns ⟨rfl⟩
      rfl
  have horderly := h _ hknown
  obtain ⟨w, hw⟩ := horderly.ok_of_quiet k.admits_environment (failure?_of_mem_events _)
  obtain ⟨-, -, rfl⟩ := horderly.ends_of_ok k.admits_environment hw
  exact hw

/-- The children of a template are what a descent from it has after as many levels as the child
depth. -/
theorem searched_children (k : Knowledge) (settings : Settings) (parent : Template) :
    ∃ level, k.Searched parent settings.maxChildDepth ⟨k.children settings parent, level⟩ := by
  obtain ⟨level, hlevel⟩ := (k.searched_zero parent).descend settings.maxChildDepth
  rw [Nat.zero_add] at hlevel
  exact ⟨level, hlevel⟩

/-- Where the child depth is not less than the number of templates with names, the children are all
that a chain of references leads from. -/
theorem holds_children_of_templateCount_le {settings : Settings}
    (h : k.toNamespace.templateCount ≤ settings.maxChildDepth) :
    Distinct.holds (k.children settings parent) t = true ↔
      identity t ≠ identity parent ∧ ∃ steps, Within k.Refers steps t parent := by
  obtain ⟨level, hlevel⟩ := k.searched_children settings parent
  rw [hlevel.holds_found]
  apply and_congr_right
  intro _
  constructor
  · exact fun hwithin => ⟨_, hwithin⟩
  · rintro ⟨steps, hwithin⟩
    exact (within_templateCount hwithin).levels_le h

/-- The implementations of a block are the blocks of its name in the children of its template. -/
theorem holds_implementations {settings : Settings} {b x : Block} :
    Distinct.holds (k.implementations settings b) x = true ↔
      ∃ t ∈ k.children settings b.template, ∃ y ∈ k (.blocksIn t),
        identity y = identity x ∧ y.name = b.name := by
  rw [implementations, Distinct.holds_ofList, Distinct.holds_flatMap]
  apply exists_congr
  intro t
  apply and_congr_right
  intro _
  simp only [Distinct.holds_iff_exists, List.mem_filter, beq_iff_eq]
  apply exists_congr
  intro y
  rw [and_assoc, and_comm (a := y.name = b.name)]

end Knowledge

/-- Whatever the indexes answer, as long as each query has one answer: below a template a pass finds
every other template from which at most as many steps lead to it as the child depth allows, where a
template refers to another by any name that the namespace gives to that. It finds each once, nearest
first. A greater depth adds to what is found; from the number of templates with names on, it is all
from which any number of steps leads. The implementations of a block are the blocks of its name in
the templates found. -/
theorem Pass.children_reachable (k : Knowledge) (settings : Settings) (parent : Template)
    (loaded : Bool) :
    let refers (t u : Template) : Prop :=
      ∃ name ∈ k.toNamespace.namesFor u, Distinct.holds (k (.referencing name)) t = true
    let atDepth (depth : Nat) : Settings := { settings with maxChildDepth := depth }
    ∃ found, k.find loaded (Pass.children settings parent) = .ok found ∧
      Distinct.NoRepeat found ∧
      (∀ t, Distinct.holds found t = true ↔
        identity t ≠ identity parent ∧ Within refers settings.maxChildDepth t parent) ∧
      found.Pairwise (fun t u => ∀ near far,
        Distant refers near t parent → Distant refers far u parent → near ≤ far) ∧
      (∀ more, ∃ farther, k.find loaded (Pass.children (atDepth (settings.maxChildDepth + more))
        parent) = .ok (found ++ farther)) ∧
      (∀ more, ∃ all, k.find loaded (Pass.children (atDepth (k.toNamespace.templateCount + more))
          parent) = .ok all ∧
        ∀ t, Distinct.holds all t = true ↔
          identity t ≠ identity parent ∧ ∃ steps, Within refers steps t parent) ∧
      ∀ name span, ∃ blocks,
        k.find loaded (Pass.implementations settings ⟨parent, name, span⟩) = .ok blocks ∧
        Distinct.NoRepeat blocks ∧
        ∀ x, Distinct.holds blocks x = true ↔
          ∃ t ∈ found, ∃ y ∈ k (.blocksIn t), identity y = identity x ∧ y.name = name := by
  intro refers atDepth
  have hrefers : refers = k.Refers := by
    funext t u
    exact propext Knowledge.refers_iff_exists_name.symm
  rw [hrefers]
  obtain ⟨level, hlevel⟩ := k.searched_children settings parent
  have hchildren (settings : Settings) :
      k.find loaded (Pass.children settings parent) = .ok (k.children settings parent) :=
    Knowledge.find_eq loaded (Knowledge.yields_children settings parent)
  refine ⟨k.children settings parent, hchildren settings, hlevel.noRepeat, hlevel.holds_found,
    hlevel.nearestFirst, fun more => ?_, fun more => ?_, fun name span => ?_⟩
  · obtain ⟨farther, hfarther⟩ :=
      k.exists_descend_add_eq parent settings.maxChildDepth more ⟨[], [parent]⟩
    exact ⟨farther, (hchildren _).trans (congrArg Except.ok hfarther)⟩
  · exact ⟨_, hchildren _, fun t =>
      Knowledge.holds_children_of_templateCount_le (Nat.le_add_right _ _)⟩
  · exact ⟨_, Knowledge.find_eq loaded (Knowledge.yields_implementations settings _),
      Distinct.noRepeat_ofList _, fun x => Knowledge.holds_implementations⟩

end TwigRelations
