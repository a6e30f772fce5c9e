import TwigRelations.Proofs.Collection
import TwigRelations.Proofs.Knowledge
import TwigRelations.Proofs.Namespace

/-!
# How far a descent reaches

A descent over child templates finds every template from which a chain of references leads up to the
parent, provided that the chain is not longer than the descent has levels.
-/

namespace TwigRelations

/-- A chain of at most the given number of steps leads from one template to another. -/
inductive Within (refers : Template → Template → Prop) : Nat → Template → Template → Prop
  /-- A template is within any number of steps of itself. -/
  | refl {levels t u} (h : identity t = identity u) : Within refers levels t u
  /-- One more step at the end of a chain. -/
  | step {levels t u v} (h : Within refers levels t u) (hv : refers u v) :
    Within refers (levels + 1) t v

/-- A chain stays a chain where more references count. -/
theorem Within.mono {refers refers' : Template → Template → Prop} {levels : Nat} {t u : Template}
    (h : Within refers levels t u) (hr : ∀ t u, refers t u → refers' t u) :
    Within refers' levels t u := by
  induction h with
  | refl h => exact .refl h
  | step _ hv ih => exact .step ih (hr _ _ hv)

namespace Knowledge

variable {k : Knowledge} {parent t u : Template} {found new : List Template} {d : Pass.Descent}
  {levels : Nat}

/-- A template refers to another one by a name of that. -/
def Refers (k : Knowledge) (t u : Template) : Prop :=
  Distinct.holds (k.includers (k.namesFor u)) t = true

theorem refers_congr {u' : Template} (h : identity u = identity u') :
    k.Refers t u ↔ k.Refers t u' := by
  rw [Refers, namesFor, Namespace.namesFor_congr h, Refers, namesFor]

/-- A template is the parent of a descent or has been found. -/
def Reached (parent : Template) (found : List Template) (t : Template) : Prop :=
  identity t = identity parent ∨ Distinct.holds found t = true

/-- What is reached stays reached when more is found. -/
theorem Reached.append (h : Reached parent found t) (new : List Template) :
    Reached parent (found ++ new) t :=
  h.imp_right fun hf => Distinct.holds_append.mpr (.inl hf)

theorem Reached.congr (h : Reached parent found u) (hu : identity t = identity u) :
    Reached parent found t := by
  rw [Reached, hu, Distinct.holds_congr hu]
  exact h

/-- The order in which templates were found does not matter to what is reached. -/
theorem reached_iff_of_perm {found' : List Template} (h : found.Perm found') :
    Reached parent found t ↔ Reached parent found' t := by
  rw [Reached, Reached, Distinct.holds_perm h]

/-- New children are the candidates that were not reached. -/
theorem mem_newChildren {candidates : List Template} :
    t ∈ Pass.newChildren parent found candidates ↔ t ∈ candidates ∧ ¬Reached parent found t := by
  rw [Pass.newChildren, List.mem_filter, Bool.and_eq_true, Bool.not_eq_true', Bool.not_eq_true',
    same_eq_false_iff, Reached, not_or, Bool.not_eq_true]

/-- The new children are the candidates that were not reached before. -/
theorem holds_newChildren {candidates : List Template} :
    Distinct.holds (Pass.newChildren parent found candidates) t = true ↔
      Distinct.holds candidates t = true ∧ ¬Reached parent found t := by
  rw [Distinct.holds_iff_exists, Distinct.holds_iff_exists]
  constructor
  · rintro ⟨x, hx, hsame⟩
    obtain ⟨hx, hnew⟩ := mem_newChildren.mp hx
    exact ⟨⟨x, hx, hsame⟩, fun h => hnew (h.congr hsame)⟩
  · rintro ⟨⟨x, hx, hsame⟩, hnew⟩
    exact ⟨x, mem_newChildren.mpr ⟨hx, fun h => hnew (h.congr hsame.symm)⟩, hsame⟩

/-- What a level adds to a descent: each template that refers to one of the level and was not
reached before, once. -/
structure LevelAdds (k : Knowledge) (parent : Template) (level found new : List Template) :
    Prop where
  /-- No template is added twice. -/
  noRepeat : Distinct.NoRepeat new
  /-- Each template that is added was found among the includers of one of the level. -/
  mem_includers : ∀ t ∈ new, ∃ u ∈ level, t ∈ k.includers (k.namesFor u)
  /-- What is added refers to one of the level and was not reached before. -/
  holds_iff (t : Template) :
    Distinct.holds new t = true ↔ ¬Reached parent found t ∧ ∃ u ∈ level, k.Refers t u

/-- The first template of a level adds those that refer to it, and the others add to that. -/
theorem LevelAdds.cons {level : List Template}
    (h : k.LevelAdds parent level
      (found ++ Pass.newChildren parent found (k.includers (k.namesFor u))) new) :
    k.LevelAdds parent (u :: level) found
      (Pass.newChildren parent found (k.includers (k.namesFor u)) ++ new) where
  noRepeat := by
    rw [Distinct.NoRepeat, List.map_append, List.nodup_append]
    refine ⟨?_, h.noRepeat, fun path hchild path' hnew hpath => ?_⟩
    · have hsublist : List.Sublist (Pass.newChildren parent found (k.includers (k.namesFor u)))
          (k.includers (k.namesFor u)) := List.filter_sublist
      exact (hsublist.map identity).nodup (Distinct.noRepeat_ofList _)
    · obtain ⟨x, hx, rfl⟩ := List.mem_map.mp hnew
      rw [hpath, ← Distinct.holds_iff] at hchild
      refine ((h.holds_iff x).mp (Distinct.holds_of_mem hx)).1 (.inr ?_)
      exact Distinct.holds_append.mpr (.inr hchild)
  mem_includers t ht := by
    rcases List.mem_append.mp ht with hchild | hnew
    · exact ⟨u, List.mem_cons_self, (mem_newChildren.mp hchild).1⟩
    · obtain ⟨v, hv, hmem⟩ := h.mem_includers t hnew
      exact ⟨v, List.mem_cons_of_mem _ hv, hmem⟩
  holds_iff t := by
    rw [Distinct.holds_append, holds_newChildren, h.holds_iff]
    constructor
    · rintro (⟨hrefers, hnew⟩ | ⟨hnew, v, hv, hrefers⟩)
      · exact ⟨hnew, u, List.mem_cons_self, hrefers⟩
      · exact ⟨fun hreached => hnew (hreached.append _), v, List.mem_cons_of_mem _ hv, hrefers⟩
    · rintro ⟨hnew, v, hv, hrefers⟩
      by_cases hu : k.Refers t u
      · exact .inl ⟨hu, hnew⟩
      · rcases List.mem_cons.mp hv with rfl | hv
        · exact absurd hrefers hu
        · refine .inr ⟨?_, v, hv, hrefers⟩
          rintro (hparent | hfound)
          · exact hnew (.inl hparent)
          · rcases Distinct.holds_append.mp hfound with hold | hchild
            · exact hnew (.inr hold)
            · exact hu (holds_newChildren.mp hchild).1

/-- Searching the templates of a level adds the same new templates to what was found and to the next
level. -/
theorem descendLevel_spec (k : Knowledge) (parent : Template) (level : List Template)
    (d : Pass.Descent) :
    ∃ new, k.descendLevel parent level d = ⟨d.found ++ new, d.level ++ new⟩ ∧
      k.LevelAdds parent level d.found new := by
  induction level generalizing d with
  | nil => exact ⟨[], by simp [descendLevel], List.nodup_nil, by simp, by simp [Distinct.holds]⟩
  | cons u level ih =>
    let children := Pass.newChildren parent d.found (k.includers (k.namesFor u))
    obtain ⟨new, heq, hadds⟩ := ih ⟨d.found ++ children, d.level ++ children⟩
    refine ⟨children ++ new, ?_, hadds.cons⟩
    rw [← List.append_assoc, ← List.append_assoc]
    exact heq

/-- A level reaches all that refer to one of it. -/
theorem LevelAdds.reached {level : List Template} (h : k.LevelAdds parent level found new)
    (hu : u ∈ level) (ht : k.Refers t u) : Reached parent (found ++ new) t := by
  by_cases hfound : Reached parent found t
  · exact hfound.append new
  · exact .inr (Distinct.holds_append.mpr (.inr ((h.holds_iff t).mpr ⟨hfound, u, hu, ht⟩)))

theorem descend_succ (h : d.level ≠ []) : k.descend parent (levels + 1) d =
    k.descend parent levels (k.descendLevel parent d.level ⟨d.found, []⟩) := by
  rw [descend]
  split
  · contradiction
  · rfl

/-- Each template that was reached is on the level to be searched, or all that refer to it were
reached. -/
def Covers (k : Knowledge) (parent : Template) (d : Pass.Descent) : Prop :=
  ∀ u, Reached parent d.found u → Distinct.holds d.level u = true ∨
    ∀ t, k.Refers t u → Reached parent d.found t

/-- Searching a level reaches all that refer to what was reached before, and still covers what is
reached. -/
theorem Covers.descendLevel (h : k.Covers parent d) :
    let d' := k.descendLevel parent d.level ⟨d.found, []⟩
    k.Covers parent d' ∧ ∀ u, Reached parent d.found u →
      Reached parent d'.found u ∧ ∀ t, k.Refers t u → Reached parent d'.found t := by
  obtain ⟨new, heq, hlevel⟩ := descendLevel_spec k parent d.level ⟨d.found, []⟩
  have hrefers (u : Template) (hu : Reached parent d.found u) (t : Template)
      (ht : k.Refers t u) : Reached parent (d.found ++ new) t := by
    rcases h u hu with hl | hclosed
    · obtain ⟨u', hu', hsame⟩ := Distinct.holds_iff_exists.mp hl
      exact hlevel.reached hu' ((refers_congr hsame).mpr ht)
    · exact (hclosed t ht).append new
  rw [heq, List.nil_append]
  refine ⟨fun u hu => ?_, fun u hu => ⟨hu.append new, hrefers u hu⟩⟩
  rcases hu with hparent | hfound
  · exact .inr (hrefers u (.inl hparent))
  · rcases Distinct.holds_append.mp hfound with hold | hnew
    · exact .inr (hrefers u (.inr hold))
    · exact .inl hnew

/-- A chain of references does not leave what is closed under references. -/
theorem reached_of_closed
    (h : ∀ u, Reached parent found u → ∀ t, k.Refers t u → Reached parent found t)
    (hu : Reached parent found u) (hw : Within k.Refers levels t u) : Reached parent found t := by
  induction hw with
  | refl hsame => exact hu.congr hsame
  | step _ hv ih => exact ih (h _ hu _ hv)

/-- A descent reaches all that is within its levels from what it has reached. -/
theorem reached_descend (h : k.Covers parent d) (hu : Reached parent d.found u)
    (hw : Within k.Refers levels t u) : Reached parent (k.descend parent levels d) t := by
  induction levels generalizing d u with
  | zero =>
    cases hw with
    | refl hsame => exact hu.congr hsame
  | succ levels ih =>
    obtain ⟨hcovers, hreached⟩ := h.descendLevel
    rw [descend]
    split
    · rename_i hlevel
      refine reached_of_closed (fun u hu => (h u hu).resolve_left ?_) hu hw
      simp [hlevel, Distinct.holds]
    · cases hw with
      | refl hsame => exact ih hcovers (hreached u hu).1 (.refl hsame)
      | step hw hv => exact ih hcovers ((hreached u hu).2 _ hv) hw

/-- Every other template within the child depth of a parent is one of its children. -/
theorem holds_children {settings : Settings} (hne : identity t ≠ identity parent)
    (hw : Within k.Refers settings.maxChildDepth t parent) :
    Distinct.holds (k.children settings parent) t = true := by
  have hcovers : k.Covers parent ⟨[], [parent]⟩ := by
    rintro u (hu | hu)
    · exact .inl (Distinct.holds_iff_exists.mpr ⟨parent, List.mem_cons_self, hu.symm⟩)
    · contradiction
  exact (reached_descend hcovers (.inl rfl) hw).resolve_left hne

end Knowledge

end TwigRelations
