import Mathlib.Data.List.Perm.Subperm
import Mathlib.Order.Nat
import TwigRelations.Proofs.Descent

/-!
# How far away children are

A descent finds children level by level: each at the level of its distance from the parent and no
other. So what is found is all that is near enough, nearest first; a deeper descent only adds to it;
and since the shortest chain to a template passes through named templates of different distances, no
descent has more to find than there are named templates on the way.
-/

namespace TwigRelations

variable {refers : Template → Template → Prop} {t t' u v : Template} {steps levels : Nat}

namespace Within

/-- A chain is within any greater number of steps. -/
theorem levels_le (h : Within refers steps t u) (hle : steps ≤ levels) :
    Within refers levels t u := by
  induction h generalizing levels with
  | refl hsame => exact .refl hsame
  | step _ hv ih =>
    obtain ⟨rest, rfl⟩ := Nat.exists_eq_succ_of_ne_zero (Nat.ne_zero_of_lt hle)
    exact (ih (Nat.le_of_succ_le_succ hle)).step hv

/-- Within no steps there is only the template itself. -/
theorem zero_iff : Within refers 0 t u ↔ identity t = identity u := by
  constructor
  · intro h
    cases h with
    | refl hsame => exact hsame
  · exact .refl

theorem congr_left (h : Within refers steps t u) (ht : identity t = identity t') :
    Within refers steps t' u := by
  induction h with
  | refl hsame => exact .refl (ht.symm.trans hsame)
  | step _ hv ih => exact (ih ht).step hv

end Within

/-- The shortest chain from one template to another has the given number of steps. -/
structure Distant (refers : Template → Template → Prop) (steps : Nat) (t u : Template) : Prop where
  /-- There is such a chain. -/
  within : Within refers steps t u
  /-- No chain is shorter. -/
  le_of_within {other : Nat} (h : Within refers other t u) : steps ≤ other

namespace Distant

/-- Two templates have one distance. -/
theorem eq {other : Nat} (h : Distant refers steps t u) (h' : Distant refers other t u) :
    steps = other := Nat.le_antisymm (h.le_of_within h'.within) (h'.le_of_within h.within)

theorem congr_left (h : Distant refers steps t u) (ht : identity t = identity t') :
    Distant refers steps t' u :=
  ⟨h.within.congr_left ht, fun hother => h.le_of_within (hother.congr_left ht.symm)⟩

/-- At no distance there is only the template itself. -/
theorem zero_iff : Distant refers 0 t u ↔ identity t = identity u :=
  ⟨fun h => Within.zero_iff.mp h.within, fun h => ⟨.refl h, fun _ => Nat.zero_le _⟩⟩

/-- A template is at a distance exactly if a chain of so many steps leads to it and no shorter one
does. -/
theorem succ_iff : Distant refers (steps + 1) t u ↔
    Within refers (steps + 1) t u ∧ ¬Within refers steps t u := by
  constructor
  · intro h
    exact ⟨h.within, fun hless => Nat.not_succ_le_self _ (h.le_of_within hless)⟩
  · rintro ⟨h, hless⟩
    refine ⟨h, fun {other} hother => ?_⟩
    by_contra hle
    exact hless (hother.levels_le (by omega))

/-- The last step of a shortest chain comes from a template that is one step nearer. -/
theorem exists_last (h : Distant refers (steps + 1) t v) :
    ∃ u, Distant refers steps t u ∧ refers u v := by
  obtain ⟨hwithin, hfar⟩ := succ_iff.mp h
  cases hwithin with
  | refl hsame => exact absurd (.refl hsame) hfar
  | @step _ _ u _ hu hv =>
    refine ⟨u, ⟨hu, fun hother => ?_⟩, hv⟩
    exact Nat.le_of_succ_le_succ (h.le_of_within (hother.step hv))

/-- On the way to a template there is one at each smaller distance. -/
theorem exists_of_le {near : Nat} (h : Distant refers steps t v) (hle : near ≤ steps) :
    ∃ u, Distant refers near t u := by
  induction steps generalizing v with
  | zero => exact ⟨v, Nat.le_zero.mp hle ▸ h⟩
  | succ steps ih =>
    rcases Nat.le_or_eq_of_le_succ hle with hless | rfl
    · obtain ⟨u, hu, -⟩ := h.exists_last
      exact ih hu hless
    · exact ⟨v, h⟩

end Distant

/-- Where a chain leads from one template to another there is a shortest one. -/
theorem Within.exists_distant (h : Within refers levels t u) :
    ∃ steps ≤ levels, Distant refers steps t u := by
  classical
  have hexists : ∃ steps, Within refers steps t u := ⟨levels, h⟩
  exact ⟨Nat.find hexists, Nat.find_le h, Nat.find_spec hexists, fun hother => Nat.find_le hother⟩

namespace Knowledge

variable {k : Knowledge} {parent : Template} {d : Pass.Descent} {depth : Nat}

theorem refers_congr_left (h : identity t = identity t') : k.Refers t u ↔ k.Refers t' u := by
  rw [Refers, Distinct.holds_congr h, Refers]

/-- A template refers to another one by some name that the namespace gives to that. -/
theorem refers_iff_exists_name : k.Refers t u ↔
    ∃ name ∈ k.toNamespace.namesFor u, Distinct.holds (k (.referencing name)) t = true := by
  rw [Refers, includers, Distinct.holds_ofList, Distinct.holds_flatMap, namesFor]

/-- One more step at the beginning of a chain. -/
theorem within_cons (ht : k.Refers t u) (h : Within k.Refers levels u v) :
    Within k.Refers (levels + 1) t v := by
  induction h with
  | refl hsame => exact .step (.refl rfl) ((refers_congr hsame).mp ht)
  | step _ hv ih => exact (ih ht).step hv

/-- The first step of a chain that has any. -/
theorem exists_first_step (h : Within k.Refers levels t v) :
    identity t = identity v ∨
      ∃ rest u, levels = rest + 1 ∧ k.Refers t u ∧ Within k.Refers rest u v := by
  induction h with
  | refl hsame => exact .inl hsame
  | @step levels t u v _ hv ih =>
    rcases ih with hsame | ⟨rest, w, rfl, hw, hrest⟩
    · exact .inr ⟨levels, v, rfl, (refers_congr_left hsame).mpr hv, .refl rfl⟩
    · exact .inr ⟨rest + 1, w, rfl, hw, hrest.step hv⟩

/-- A chain stays where it is or begins with one step. -/
theorem within_succ_iff : Within k.Refers (levels + 1) t v ↔
    identity t = identity v ∨ ∃ u, k.Refers t u ∧ Within k.Refers levels u v := by
  constructor
  · intro h
    rcases exists_first_step h with hsame | ⟨rest, u, hlevels, hu, hrest⟩
    · exact .inl hsame
    · obtain rfl := Nat.succ.inj hlevels
      exact .inr ⟨u, hu, hrest⟩
  · rintro (hsame | ⟨u, hu, hrest⟩)
    · exact .refl hsame
    · exact within_cons hu hrest

/-- What a descent has after a number of levels: it has found the templates other than the parent
that are within as many steps, each once and nearest first, and those that are just as many steps
away are on its level. -/
structure Searched (k : Knowledge) (parent : Template) (depth : Nat) (d : Pass.Descent) : Prop where
  /-- No template was found twice. -/
  noRepeat : Distinct.NoRepeat d.found
  /-- No template was found before a nearer one. -/
  nearestFirst : d.found.Pairwise fun t u =>
    ∀ near far, Distant k.Refers near t parent → Distant k.Refers far u parent → near ≤ far
  /-- What was found is within so many steps, apart from the parent. -/
  holds_found (t : Template) : Distinct.holds d.found t = true ↔
    identity t ≠ identity parent ∧ Within k.Refers depth t parent
  /-- What is on the level is exactly so many steps away. -/
  holds_level (t : Template) : Distinct.holds d.level t = true ↔ Distant k.Refers depth t parent

/-- In the beginning there is only the parent. -/
theorem searched_zero (k : Knowledge) (parent : Template) : k.Searched parent 0 ⟨[], [parent]⟩ where
  noRepeat := List.nodup_nil
  nearestFirst := .nil
  holds_found t := by simp [Distinct.holds, Within.zero_iff]
  holds_level t := by simp [Distinct.holds, Distant.zero_iff]

namespace Searched

/-- What is reached after a number of levels is within as many steps. -/
theorem reached_iff (h : k.Searched parent depth d) :
    Reached parent d.found t ↔ Within k.Refers depth t parent := by
  rw [Reached, h.holds_found]
  by_cases hsame : identity t = identity parent
  · exact iff_of_true (.inl hsame) (.refl hsame)
  · simp [hsame]

/-- One of the templates on the level is referred to exactly by what is at most one step farther,
among what was not reached. -/
theorem new_iff (h : k.Searched parent depth d) :
    (¬Reached parent d.found t ∧ ∃ u ∈ d.level, k.Refers t u) ↔
      Distant k.Refers (depth + 1) t parent := by
  rw [h.reached_iff, Distant.succ_iff, within_succ_iff, and_comm]
  apply and_congr_left
  intro hnew
  constructor
  · rintro ⟨u, hu, ht⟩
    exact .inr ⟨u, ht, ((h.holds_level u).mp (Distinct.holds_of_mem hu)).within⟩
  · rintro (hsame | ⟨u, ht, hu⟩)
    · exact absurd (.refl hsame) hnew
    · -- A template that is nearer than the level would bring what refers to it within reach.
      have hlevel : Distinct.holds d.level u = true := by
        obtain ⟨steps, hle, hsteps⟩ := hu.exists_distant
        rcases Nat.lt_or_eq_of_le hle with hlt | rfl
        · exact absurd ((within_cons ht hsteps.within).levels_le hlt) hnew
        · exact (h.holds_level u).mpr hsteps
      obtain ⟨w, hw, hsame⟩ := Distinct.holds_iff_exists.mp hlevel
      exact ⟨w, hw, (refers_congr hsame).mpr ht⟩

/-- Searching one more level. -/
theorem descendLevel (h : k.Searched parent depth d) :
    k.Searched parent (depth + 1) (k.descendLevel parent d.level ⟨d.found, []⟩) := by
  obtain ⟨new, heq, hadds⟩ := descendLevel_spec k parent d.level ⟨d.found, []⟩
  have hnew (t : Template) :
      Distinct.holds new t = true ↔ Distant k.Refers (depth + 1) t parent :=
    (hadds.holds_iff t).trans h.new_iff
  rw [heq, List.nil_append]
  exact {
    noRepeat := by
      rw [Distinct.NoRepeat, List.map_append, List.nodup_append]
      refine ⟨h.noRepeat, hadds.noRepeat, fun path hpath path' hpath' hsame => ?_⟩
      obtain ⟨t, ht, rfl⟩ := List.mem_map.mp hpath'
      rw [hsame, ← Distinct.holds_iff] at hpath
      exact ((hadds.holds_iff t).mp (Distinct.holds_of_mem ht)).1 (.inr hpath)
    nearestFirst := by
      rw [List.pairwise_append]
      refine ⟨h.nearestFirst, ?_, ?_⟩
      · refine List.pairwise_of_forall_mem_list fun t ht u hu near far hnear hfar => ?_
        have ht := (hnew t).mp (Distinct.holds_of_mem ht)
        have hu := (hnew u).mp (Distinct.holds_of_mem hu)
        exact ((hnear.eq ht).trans (hu.eq hfar)).le
      · intro t ht u hu near far hnear hfar
        have ht := ((h.holds_found t).mp (Distinct.holds_of_mem ht)).2
        have hu := (hnew u).mp (Distinct.holds_of_mem hu)
        exact (hnear.le_of_within ht).trans ((Nat.le_succ _).trans (hu.eq hfar).le)
    holds_found := fun t => by
      rw [Distinct.holds_append, h.holds_found, hnew, Distant.succ_iff]
      constructor
      · rintro (⟨hne, hold⟩ | ⟨hsucc, hfar⟩)
        · exact ⟨hne, hold.levels_le (Nat.le_succ _)⟩
        · exact ⟨fun hsame => hfar (.refl hsame), hsucc⟩
      · rintro ⟨hne, hsucc⟩
        by_cases hold : Within k.Refers depth t parent
        · exact .inl ⟨hne, hold⟩
        · exact .inr ⟨hsucc, hold⟩
    holds_level := hnew }

end Searched

/-- A descent ends at an empty level. -/
theorem descend_of_level_eq_nil (h : d.level = []) : k.descend parent levels d = d.found := by
  cases levels with
  | zero => rfl
  | succ levels => rw [descend, h]

/-- A descent goes on level by level. That it stops at a level with nothing on it makes no
difference. -/
theorem descend_succ_eq : k.descend parent (levels + 1) d =
    k.descend parent levels (k.descendLevel parent d.level ⟨d.found, []⟩) := by
  by_cases h : d.level = []
  · rw [descend_of_level_eq_nil h, h, descend_of_level_eq_nil rfl]
    rfl
  · exact descend_succ h

/-- What a descent finds in all is what it would have after as many levels. -/
theorem Searched.descend (h : k.Searched parent depth d) (levels : Nat) :
    ∃ level, k.Searched parent (depth + levels) ⟨k.descend parent levels d, level⟩ := by
  induction levels generalizing depth d with
  | zero => exact ⟨d.level, h⟩
  | succ levels ih =>
    obtain ⟨level, hlevel⟩ := ih h.descendLevel
    rw [Nat.add_right_comm, Nat.add_assoc, ← descend_succ_eq] at hlevel
    exact ⟨level, hlevel⟩

/-- A descent keeps what was found, in front. -/
theorem exists_descend_eq_append (k : Knowledge) (parent : Template) (levels : Nat)
    (d : Pass.Descent) : ∃ new, k.descend parent levels d = d.found ++ new := by
  induction levels generalizing d with
  | zero => exact ⟨[], (List.append_nil _).symm⟩
  | succ levels ih =>
    obtain ⟨new, heq, -⟩ := descendLevel_spec k parent d.level ⟨d.found, []⟩
    obtain ⟨newer, hnewer⟩ := ih ⟨d.found ++ new, [] ++ new⟩
    exact ⟨new ++ newer, by rw [descend_succ_eq, heq, hnewer, List.append_assoc]⟩

/-- A deeper descent finds the same and then more. -/
theorem exists_descend_add_eq (k : Knowledge) (parent : Template) (levels more : Nat)
    (d : Pass.Descent) : ∃ farther,
      k.descend parent (levels + more) d = k.descend parent levels d ++ farther := by
  induction levels generalizing d with
  | zero =>
    rw [Nat.zero_add]
    exact k.exists_descend_eq_append parent more d
  | succ levels ih =>
    rw [Nat.add_right_comm, descend_succ_eq, descend_succ_eq]
    exact ih _

/-- What refers to a template refers to it by a name, so that one has names. -/
theorem namesFor_ne_nil (h : k.Refers t u) : k.toNamespace.namesFor u ≠ [] := by
  obtain ⟨name, hname, -⟩ := refers_iff_exists_name.mp h
  exact List.ne_nil_of_mem hname

/-- The first step of a shortest chain leads to a template that is one step nearer. -/
theorem exists_nearer (h : Distant k.Refers (steps + 1) t v) :
    ∃ u, k.Refers t u ∧ Distant k.Refers steps u v := by
  obtain ⟨hwithin, hfar⟩ := Distant.succ_iff.mp h
  rcases within_succ_iff.mp hwithin with hsame | ⟨u, ht, hu⟩
  · exact absurd (.refl hsame) hfar
  · refine ⟨u, ht, hu, fun hother => ?_⟩
    exact Nat.le_of_succ_le_succ (h.le_of_within (within_cons ht hother))

/-- On a shortest chain there are as many named templates as the chain has steps, all of them
different because each is nearer than the one before. -/
theorem exists_on_chain (h : Distant k.Refers steps t v) :
    ∃ chain : List Template, chain.length = steps ∧ Distinct.NoRepeat chain ∧
      ∀ u ∈ chain, k.toNamespace.namesFor u ≠ [] ∧ ∃ near < steps, Distant k.Refers near u v := by
  induction steps generalizing t with
  | zero => exact ⟨[], rfl, List.nodup_nil, by simp⟩
  | succ steps ih =>
    obtain ⟨u, ht, hu⟩ := exists_nearer h
    obtain ⟨chain, hlength, hnoRepeat, hchain⟩ := ih hu
    refine ⟨u :: chain, congrArg (· + 1) hlength, ?_, ?_⟩
    · refine List.nodup_cons.mpr ⟨fun hmem => ?_, hnoRepeat⟩
      obtain ⟨w, hw, hsame⟩ := List.mem_map.mp hmem
      obtain ⟨-, near, hnear, hdistant⟩ := hchain w hw
      exact absurd (hu.eq (hdistant.congr_left hsame)) hnear.ne'
    · rw [List.forall_mem_cons]
      refine ⟨⟨namesFor_ne_nil ht, steps, Nat.lt_succ_self _, hu⟩, fun w hw => ?_⟩
      obtain ⟨hnames, near, hnear, hdistant⟩ := hchain w hw
      exact ⟨hnames, near, Nat.lt_succ_of_lt hnear, hdistant⟩

/-- No shortest chain has more steps than there are templates with names. -/
theorem distant_le_templateCount (h : Distant k.Refers steps t v) :
    steps ≤ k.toNamespace.templateCount := by
  obtain ⟨chain, rfl, hnoRepeat, hchain⟩ := exists_on_chain h
  have hsubset : chain.map identity ⊆ (Table.keys k.toNamespace.byTemplate).map identity := by
    intro path hpath
    obtain ⟨u, hu, rfl⟩ := List.mem_map.mp hpath
    have hnames := (hchain u hu).1
    rw [Namespace.namesFor] at hnames
    cases hrow : Table.get? k.toNamespace.byTemplate u with
    | none => simp [hrow] at hnames
    | some names =>
      obtain ⟨w, hw, hsame⟩ := Table.mem_of_get? hrow
      exact hsame ▸ List.mem_map_of_mem (List.mem_map_of_mem hw)
  simpa [Table.keys, Namespace.templateCount] using (hnoRepeat.subperm hsubset).length_le

/-- Whatever leads to a template at all is within as many steps as there are templates with
names. -/
theorem within_templateCount (h : Within k.Refers steps t v) :
    Within k.Refers k.toNamespace.templateCount t v := by
  obtain ⟨nearest, -, hdistant⟩ := h.exists_distant
  exact hdistant.within.levels_le (distant_le_templateCount hdistant)

end Knowledge

end TwigRelations
