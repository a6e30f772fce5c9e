import Mathlib.Data.List.Basic
import TwigRelations.Template

/-!
# Paths and their components

Paths are ordered by their components, and two paths of which neither comes first are one path. The
components of a path, or of its end, can be read back from the text that they are joined to, so that
no two files strictly below a root have one relative path.
-/

namespace TwigRelations

/-- The pieces that a text is cut into are free of the separator. -/
theorem Text.not_mem_of_mem_splitOn {sep : Char} {cs piece : List Char}
    (h : piece ∈ cs.splitOn sep) : sep ∉ piece := by
  induction cs generalizing piece with
  | nil =>
    rw [List.splitOn_nil, List.mem_singleton] at h
    rw [h]
    exact List.not_mem_nil
  | cons c cs ih =>
    rw [List.splitOn_cons_eq_if_modifyHead] at h
    by_cases hc : c = sep
    · rw [if_pos (beq_iff_eq.mpr hc)] at h
      rcases List.mem_cons.mp h with rfl | h
      · exact List.not_mem_nil
      · exact ih h
    · rw [if_neg (mt beq_iff_eq.mp hc)] at h
      obtain ⟨first, rest, hpieces⟩ := List.exists_cons_of_ne_nil (List.splitOn_ne_nil sep cs)
      rw [hpieces] at h ih
      rcases List.mem_cons.mp h with rfl | h
      · have hfirst := ih List.mem_cons_self
        simp [hfirst, Ne.symm hc]
      · exact ih (List.mem_cons_of_mem _ h)

namespace Component

/-- Components are ordered by rank, and those of one rank by text. -/
theorem compare_eq : (compare : Component → Component → Ordering) =
    compareLex (compareOn rank) (compareOn text) := by
  funext a b
  cases a <;> cases b <;> rfl

instance : Std.TransOrd Component := by
  change Std.TransCmp (compare : Component → Component → Ordering)
  rw [compare_eq]
  infer_instance

instance : Std.LawfulEqOrd Component where
  eq_of_compare {a b} h := by
    rw [compare_eq] at h
    obtain ⟨hrank, htext⟩ := Ordering.then_eq_eq.mp h
    have hrank : a.rank = b.rank := Std.LawfulEqCmp.eq_of_compare hrank
    have htext : a.text = b.text := Std.LawfulEqCmp.eq_of_compare htext
    cases a <;> cases b <;> first | rfl | contradiction | exact congrArg normal htext

/-- A component that a piece between slashes stands for. -/
def IsPiece (c : Component) : Prop := ofPiece? c.text.toList = some c ∧ '/' ∉ c.text.toList

/-- A component that is read from between two slashes is a piece. -/
theorem isPiece_of_ofPiece? {piece : List Char} {c : Component} (h : ofPiece? piece = some c)
    (hslash : '/' ∉ piece) : IsPiece c := by
  have htext : c.text.toList = piece := by
    unfold ofPiece? at h
    split at h
    · contradiction
    · contradiction
    · cases h
      rfl
    · cases h
      exact String.toList_ofList
  rw [IsPiece, htext]
  exact ⟨h, hslash⟩

/-- The root and a dot stand at the beginning only, as they do in a path and in every end of it. -/
def Canonical : List Component → Prop
  | [] => True
  | c :: cs => (c = root ∨ c = current ∨ IsPiece c) ∧ ∀ d ∈ cs, IsPiece d

/-- Pieces by themselves are canonical. -/
theorem canonical_of_isPiece {cs : List Component} (h : ∀ c ∈ cs, IsPiece c) : Canonical cs := by
  cases cs with
  | nil => trivial
  | cons c cs =>
    exact ⟨.inr (.inr (h c List.mem_cons_self)), fun d hd => h d (List.mem_cons_of_mem _ hd)⟩

/-- The components of a text are canonical. -/
theorem canonical_ofText (cs : List Char) : Canonical (ofText cs) := by
  have hpieces (c : Component) (hc : c ∈ (cs.splitOn '/').filterMap ofPiece?) : IsPiece c := by
    obtain ⟨piece, hpiece, hread⟩ := List.mem_filterMap.mp hc
    exact isPiece_of_ofPiece? hread (Text.not_mem_of_mem_splitOn hpiece)
  unfold ofText leading
  split
  · exact ⟨.inl rfl, hpieces⟩
  · exact ⟨.inr (.inl rfl), hpieces⟩
  · exact ⟨.inr (.inl rfl), hpieces⟩
  · exact canonical_of_isPiece hpieces

/-- The end of such components is such, too. -/
theorem Canonical.of_append {cs ds : List Component} (h : Canonical (cs ++ ds)) : Canonical ds := by
  cases cs with
  | nil => exact h
  | cons c cs => exact canonical_of_isPiece fun d hd => h.2 d (List.mem_append_right _ hd)

/-- A name among canonical components is a piece. -/
theorem Canonical.isPiece_of_normal_mem {cs : List Component} {name : String} (h : Canonical cs)
    (hmem : normal name ∈ cs) : IsPiece (normal name) := by
  cases cs with
  | nil => contradiction
  | cons c cs =>
    rcases List.mem_cons.mp hmem with rfl | hmem
    · rcases h.1 with hroot | hcurrent | hpiece
      · contradiction
      · contradiction
      · exact hpiece
    · exact h.2 _ hmem

/-- A piece begins neither at the root nor with a dot, whatever it continues with. -/
theorem IsPiece.leading_append {c : Component} (h : IsPiece c) (rest : List Char) :
    leading (c.text.toList ++ rest) = [] := by
  obtain ⟨hread, hslash⟩ := h
  generalize c.text.toList = piece at hread hslash
  have hne : piece ≠ [] := by
    rintro rfl
    contradiction
  have hdot : piece ≠ ['.'] := by
    rintro rfl
    contradiction
  obtain ⟨first, others, rfl⟩ := List.exists_cons_of_ne_nil hne
  rw [List.mem_cons, not_or] at hslash
  rw [List.cons_append, leading]
  · intro after h
    exact hslash.1 (List.cons.inj h).1.symm
  · intro h
    obtain ⟨rfl, hothers⟩ := List.cons.inj h
    obtain ⟨rfl, -⟩ := List.append_eq_nil_iff.mp hothers
    exact hdot rfl
  · intro after h
    obtain ⟨rfl, hothers⟩ := List.cons.inj h
    cases others with
    | nil => exact hdot rfl
    | cons second others =>
      rw [List.cons_append, List.cons.injEq] at hothers
      exact hslash.2 (hothers.1 ▸ List.mem_cons_self)

/-- The text of components, with slashes between them. -/
def joined (cs : List Component) : List Char := ['/'].intercalate (cs.map fun c => c.text.toList)

theorem toList_intercalate_text (cs : List Component) :
    ("/".intercalate (cs.map text)).toList = joined cs := by
  rw [String.toList_intercalate, List.map_map]
  rfl

/-- Joined components are cut into their texts again, where these hold no slash. -/
theorem splitOn_joined {cs : List Component} (h : ∀ c ∈ cs, '/' ∉ c.text.toList) (hne : cs ≠ []) :
    (joined cs).splitOn '/' = cs.map fun c => c.text.toList := by
  apply List.splitOn_intercalate
  · intro piece hpiece
    obtain ⟨c, hc, rfl⟩ := List.mem_map.mp hpiece
    exact h c hc
  · exact mt List.map_eq_nil_iff.mp hne

theorem joined_cons_cons (c d : Component) (cs : List Component) :
    joined (c :: d :: cs) = c.text.toList ++ '/' :: joined (d :: cs) := by
  rw [joined, List.map_cons, List.map_cons, List.intercalate_cons_cons, List.append_assoc]
  rfl

/-- Pieces are read back from the text that they are joined to. -/
theorem filterMap_splitOn_joined {cs : List Component} (h : ∀ c ∈ cs, IsPiece c) :
    ((joined cs).splitOn '/').filterMap ofPiece? = cs := by
  by_cases hne : cs = []
  · rw [hne]
    rfl
  · rw [splitOn_joined (fun c hc => (h c hc).2) hne, List.filterMap_map]
    have hread : cs.filterMap (ofPiece? ∘ fun c => c.text.toList) = cs.filterMap some :=
      List.filterMap_congr fun c hc => (h c hc).1
    rw [hread, List.filterMap_some]

/-- The components of a path, or of its end, are read back from the text that they are joined to. -/
theorem ofText_joined {cs : List Component} (h : Canonical cs) : ofText (joined cs) = cs := by
  cases cs with
  | nil => rfl
  | cons c cs =>
    obtain ⟨hc, hcs⟩ := h
    have hread := filterMap_splitOn_joined hcs
    cases cs with
    | nil =>
      rcases hc with rfl | rfl | hc
      · rfl
      · rfl
      · have hread := filterMap_splitOn_joined (List.forall_mem_singleton.mpr hc)
        have htext : joined [c] = c.text.toList ++ [] := by
          rw [joined, List.map_singleton, List.intercalate_singleton, List.append_nil]
        rw [ofText, hread, htext, hc.leading_append]
        rfl
    | cons d ds =>
      -- The text of the root is itself a slash, so it leaves only empty pieces behind.
      rw [ofText, joined_cons_cons, List.splitOn_append_cons_self, List.filterMap_append, hread]
      rcases hc with rfl | rfl | hc
      · rfl
      · rfl
      · rw [hc.leading_append, List.splitOn_eq_singleton hc.2, List.filterMap_cons, hc.1]
        rfl

/-- Components that are joined to one text are the same. -/
theorem eq_of_joined_eq {cs ds : List Component} (hcs : Canonical cs) (hds : Canonical ds)
    (h : joined cs = joined ds) : cs = ds := by
  rw [← ofText_joined hcs, h, ofText_joined hds]

end Component

namespace Path

variable {p q root : Path} {cs : List Component}

/-- The components of a path are canonical. -/
theorem canonical_components (p : Path) : Component.Canonical p.components := by
  rw [p.components_eq]
  exact Component.canonical_ofText _

/-- A path is strictly below a root exactly if it continues the components of the root. -/
theorem below?_eq_some_iff :
    p.below? root = some cs ↔ root.components ++ cs = p.components ∧ cs ≠ [] := by
  rw [below?, Option.filter_eq_some_iff, Bool.not_eq_true', List.isEmpty_eq_false_iff]
  apply and_congr_left
  intro _
  exact List.isPrefixOf?_eq_some_iff_append_eq

/-- What remains of two paths below a root is told by the text that it is joined to. -/
theorem components_eq_of_below? {ds : List Component} (hp : p.below? root = some cs)
    (hq : q.below? root = some ds)
    (h : "/".intercalate (cs.map Component.text) = "/".intercalate (ds.map Component.text)) :
    p.components = q.components := by
  obtain ⟨hpath, -⟩ := below?_eq_some_iff.mp hp
  obtain ⟨hpath', -⟩ := below?_eq_some_iff.mp hq
  have hcanonical : Component.Canonical cs := (hpath ▸ canonical_components p).of_append
  have hcanonical' : Component.Canonical ds := (hpath' ▸ canonical_components q).of_append
  have hjoined : Component.joined cs = Component.joined ds := by
    rw [← Component.toList_intercalate_text, h, Component.toList_intercalate_text]
  rw [← hpath, ← hpath', Component.eq_of_joined_eq hcanonical hcanonical' hjoined]

/-- Two paths that are both below the root, or both not, and are the same relative to it are one
path. -/
theorem components_eq_of_relativeTo_eq {root : Option Path}
    (hside : (root.bind p.below?).isSome = (root.bind q.below?).isSome)
    (h : p.relativeTo root = q.relativeTo root) : p.components = q.components := by
  rw [relativeTo, relativeTo] at h
  cases hp : root.bind p.below? with
  | some cs =>
    cases hq : root.bind q.below? with
    | some ds =>
      obtain ⟨base, rfl, hcs⟩ := Option.bind_eq_some_iff.mp hp
      rw [hp, hq] at h
      exact components_eq_of_below? hcs hq h
    | none =>
      rw [hp, hq] at hside
      contradiction
  | none =>
    cases hq : root.bind q.below? with
    | some ds =>
      rw [hp, hq] at hside
      contradiction
    | none =>
      rw [hp, hq] at h
      rw [ext_text h]

/-- The directories of a path are names between slashes. -/
theorem isPiece_of_mem_directories {name : String} (h : name ∈ p.directories) :
    (Component.normal name).IsPiece := by
  obtain ⟨c, hc, hname⟩ := List.mem_filterMap.mp h
  have hc : c ∈ p.components := p.components.dropLast_subset hc
  cases c with
  | root => contradiction
  | current => contradiction
  | parent => contradiction
  | normal directory =>
    obtain rfl : directory = name := Option.some.inj hname
    exact p.canonical_components.isPiece_of_normal_mem hc

/-- The name of a directory holds no slash. -/
theorem slash_not_mem_of_mem_directories {name : String} (h : name ∈ p.directories) :
    '/' ∉ name.toList := (isPiece_of_mem_directories h).2

theorem ne_empty_of_mem_directories {name : String} (h : name ∈ p.directories) : name ≠ "" := by
  rintro rfl
  obtain ⟨hread, -⟩ := isPiece_of_mem_directories h
  contradiction

/-- Below its first component a path is not shown as it is spelled. -/
theorem exists_relativeTo_ne (h : 2 ≤ p.components.length) :
    ∃ root, p.relativeTo (some root) ≠ p.text := by
  obtain ⟨c, cs, hcomponents⟩ := List.exists_cons_of_length_pos (Nat.lt_of_succ_lt h)
  have hcanonical : Component.Canonical (c :: cs) := hcomponents ▸ p.canonical_components
  have hfirst : Component.Canonical [c] := ⟨hcanonical.1, by simp⟩
  have hroot : (ofString c.text).components = [c] := by
    have htext : Component.joined [c] = c.text.toList := List.intercalate_singleton
    change Component.ofText c.text.toList = [c]
    rw [← htext, Component.ofText_joined hfirst]
  have hbelow : p.below? (ofString c.text) = some cs := by
    rw [below?_eq_some_iff, hroot, hcomponents]
    refine ⟨rfl, fun hnone => ?_⟩
    rw [hcomponents, hnone] at h
    contradiction
  refine ⟨ofString c.text, fun hspelled => ?_⟩
  have hread : p.components = cs := by
    rw [relativeTo, Option.bind_some, hbelow] at hspelled
    have htail : Component.Canonical cs :=
      Component.Canonical.of_append (show Component.Canonical ([c] ++ cs) from hcanonical)
    rw [p.components_eq, ← hspelled, Component.toList_intercalate_text,
      Component.ofText_joined htail]
  rw [hcomponents] at hread
  exact absurd (congrArg List.length hread) (Nat.succ_ne_self _)

end Path

namespace Template

instance : Std.TransOrd Template :=
  inferInstanceAs (Std.TransCmp (compareOn fun t : Template => t.path.components))

/-- Templates are equal in order exactly if their paths are one. -/
theorem compare_eq_eq_iff {t u : Template} : compare t u = .eq ↔ identity t = identity u := by
  change compare t.path.components u.path.components = .eq ↔ _
  exact Std.LawfulEqCmp.compare_eq_iff_eq

end Template

end TwigRelations
