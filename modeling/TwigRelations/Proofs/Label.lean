import Mathlib.Data.List.Basic
import TwigRelations.Namespace
import TwigRelations.Proofs.Namespace.Collisions
import TwigRelations.Proofs.Namespace.Layers

/-!
# Labels of colliding templates

A template that collides with others is shown under its folded name and its last directories, under
its path below the root, or under its path as spelled. Labels of one form are different. It is not
asserted that labels of two forms are: a name with directories can be the path of another template,
and a path below the root can be the spelling of another path.
-/

namespace TwigRelations

variable {entries : List NamespaceEntry} {ns : Namespace} {root : Option Path} {t u : Template}

/-- How the label of a template tells it apart from those that it collides with. -/
inductive LabelForm where
  /-- By its last directories, after the folded name. -/
  | directories
  /-- By its path below the root. -/
  | belowRoot
  /-- By its path as spelled. -/
  | spelled
  deriving DecidableEq, Repr

/-- The form of the label of a template that collides with others. -/
def labelForm (ns : Namespace) (root : Option Path) (t : Template) : LabelForm :=
  match distinguishingDirectories t (ns.labelCollisions t), root.bind t.path.below? with
  | some _, _ => .directories
  | none, some _ => .belowRoot
  | none, none => .spelled

/-- The directories of a template are told by its path. -/
theorem directories_congr (h : identity t = identity u) :
    t.path.directories = u.path.directories := by
  have hcomponents : t.path.components = u.path.components := h
  rw [Path.directories, hcomponents, Path.directories]

/-- Distinguishing directories are a trailing run of a template's own that none of the others ends
with. -/
theorem distinguishingDirectories_spec {others : List Template} {dirs : String}
    (h : distinguishingDirectories t others = some dirs) :
    ∃ count, 0 < count ∧ count ≤ t.path.directories.length ∧
      dirs = lastDirectories t.path.directories count ∧
      ∀ o ∈ others, lastDirectories o.path.directories count ≠ dirs := by
  obtain ⟨i, hi, hfound⟩ := List.exists_of_findSome?_eq_some h
  have hi : i < t.path.directories.length := List.mem_range.mp hi
  obtain ⟨hothers, hdirs⟩ := Option.ite_none_right_eq_some.mp hfound
  obtain rfl := Option.some.inj hdirs
  refine ⟨i + 1, by omega, by omega, rfl, fun o ho => ?_⟩
  exact bne_iff_ne.mp (List.all_eq_true.mp hothers o ho)

/-- Nothing distinguishes a template whose directories are the last ones of another. -/
theorem distinguishingDirectories_eq_none {others : List Template}
    (h : Distinct.holds others u = true) (hsuffix : t.path.directories <:+ u.path.directories) :
    distinguishingDirectories t others = none := by
  rw [Option.eq_none_iff_forall_ne_some]
  intro dirs hdirs
  obtain ⟨count, -, hcount, rfl, hothers⟩ := distinguishingDirectories_spec hdirs
  obtain ⟨o, ho, hsame⟩ := Distinct.holds_iff_exists.mp h
  apply hothers o ho
  obtain ⟨before, hbefore⟩ := hsuffix
  rw [directories_congr hsame, ← hbefore, lastDirectories, lastDirectories, List.length_append,
    Nat.add_sub_assoc hcount, List.drop_length_add_append]

/-- Names without slashes are read back from the text that they are joined to. -/
theorem eq_of_intercalate_eq {xs ys : List String} (hx : ∀ x ∈ xs, '/' ∉ x.toList)
    (hy : ∀ y ∈ ys, '/' ∉ y.toList) (hxs : xs ≠ []) (hys : ys ≠ [])
    (h : "/".intercalate xs = "/".intercalate ys) : xs = ys := by
  have hread (names : List String) (hnames : ∀ n ∈ names, '/' ∉ n.toList) (hne : names ≠ []) :
      ("/".intercalate names).toList.splitOn '/' = names.map String.toList := by
    rw [String.toList_intercalate]
    apply List.splitOn_intercalate
    · exact List.forall_mem_map.mpr hnames
    · exact mt List.map_eq_nil_iff.mp hne
  have hlists : xs.map String.toList = ys.map String.toList := by
    rw [← hread xs hx hxs, h, hread ys hy hys]
  exact List.map_injective_iff.mpr (fun a b => String.toList_inj.mp) hlists

/-- Trailing runs of directories that are joined to one text are equally long. -/
theorem count_eq_of_lastDirectories_eq {p q : Path} {m n : Nat} (hm : 0 < m)
    (hmle : m ≤ p.directories.length) (hn : 0 < n) (hnle : n ≤ q.directories.length)
    (h : lastDirectories p.directories m = lastDirectories q.directories n) : m = n := by
  have hslash (p : Path) (n : Nat) (d : String) (hd : d ∈ p.directories.drop n) : '/' ∉ d.toList :=
    Path.slash_not_mem_of_mem_directories (List.mem_of_mem_drop hd)
  have hne (p : Path) (n : Nat) (hn : 0 < n) (hle : n ≤ p.directories.length) :
      p.directories.drop (p.directories.length - n) ≠ [] := by
    rw [ne_eq, List.drop_eq_nil_iff]
    omega
  have hruns := eq_of_intercalate_eq (hslash p _) (hslash q _) (hne p m hm hmle) (hne q n hn hnle) h
  have hlengths := congrArg List.length hruns
  rw [List.length_drop, List.length_drop] at hlengths
  omega

/-- A template that collides with another one is shown under its first name and distinguishing
directories, or under its path. -/
theorem label_of_collides (root : Option Path)
    (h : Distinct.holds (ns.labelCollisions t) u = true) :
    ∃ first, (ns.namesFor t).head? = some first ∧
      label ns root t =
        match distinguishingDirectories t (ns.labelCollisions t) with
        | some dirs => foldName first.raw ++ " (" ++ dirs ++ ")"
        | none => t.path.relativeTo root := by
  rw [label]
  cases hnames : ns.namesFor t with
  | nil =>
    rw [Namespace.labelCollisions, hnames] at h
    contradiction
  | cons first rest =>
    refine ⟨first, rfl, ?_⟩
    cases hothers : ns.labelCollisions t with
    | nil =>
      rw [hothers] at h
      contradiction
    | cons other others => rfl

/-- A template that collides with another one and is not distinguished is shown by its path. -/
theorem label_eq_relativeTo (root : Option Path)
    (h : Distinct.holds (ns.labelCollisions t) u = true)
    (hnone : distinguishingDirectories t (ns.labelCollisions t) = none) :
    label ns root t = t.path.relativeTo root := by
  obtain ⟨first, -, hlabel⟩ := label_of_collides root h
  rwa [hnone] at hlabel

/-- Names of one label are equally long when folded. -/
theorem length_foldName_congr {m n : LogicalName} (h : m.labelKey = n.labelKey) :
    (foldName m.raw).toList.length = (foldName n.raw).toList.length := by
  have hchars := congrArg (fun s => s.toList.length) h
  simpa [LogicalName.labelKey, Text.lowercase, foldName] using hchars

/-- Two colliding templates that are both told apart by their directories have different labels. -/
theorem label_ne_of_directories {dirs dirs' : String}
    (h : Distinct.holds ((Namespace.ofEntries entries).labelCollisions t) u = true)
    (ht : distinguishingDirectories t ((Namespace.ofEntries entries).labelCollisions t) = some dirs)
    (hu : distinguishingDirectories u ((Namespace.ofEntries entries).labelCollisions u) =
      some dirs') :
    label (Namespace.ofEntries entries) root t ≠ label (Namespace.ofEntries entries) root u := by
  obtain ⟨-, shared, hshared, hshared'⟩ := Namespace.holds_labelCollisions.mp h
  have h' : Distinct.holds ((Namespace.ofEntries entries).labelCollisions u) t = true :=
    Namespace.labelCollisions_symm ▸ h
  obtain ⟨first, hfirst, hlabel⟩ := label_of_collides root h
  obtain ⟨first', hfirst', hlabel'⟩ := label_of_collides root h'
  rw [ht] at hlabel
  rw [hu] at hlabel'
  rw [hlabel, hlabel']
  intro heq
  -- Folded names of one label differ in case only, so the suffixes begin at the same place.
  have hlength : (foldName first.raw).toList.length = (foldName first'.raw).toList.length := by
    apply length_foldName_congr
    rw [Namespace.labelOf?, hfirst, Option.map_some] at hshared
    rw [Namespace.labelOf?, hfirst', Option.map_some] at hshared'
    exact Option.some.inj (hshared.trans hshared'.symm)
  have hdirs : dirs = dirs' := by
    have hchars := congrArg String.toList heq
    simp only [String.toList_append, List.append_assoc] at hchars
    have hsuffix := List.append_cancel_left (List.append_inj_right hchars hlength)
    exact String.toList_inj.mp (List.append_cancel_right hsuffix)
  obtain ⟨m, hm, hmle, rfl, hothers⟩ := distinguishingDirectories_spec ht
  obtain ⟨n, hn, hnle, rfl, -⟩ := distinguishingDirectories_spec hu
  obtain ⟨other, hother, hsame⟩ := Distinct.holds_iff_exists.mp h
  have hcount : m = n := count_eq_of_lastDirectories_eq hm hmle hn hnle hdirs
  apply hothers other hother
  rw [directories_congr hsame, hdirs, hcount]

/-- Two colliding templates whose labels are of one form have different labels, under every root. -/
theorem label_ne_of_collides (root : Option Path)
    (h : Distinct.holds ((Namespace.ofEntries entries).labelCollisions t) u = true)
    (hform : labelForm (Namespace.ofEntries entries) root t =
      labelForm (Namespace.ofEntries entries) root u) :
    label (Namespace.ofEntries entries) root t ≠ label (Namespace.ofEntries entries) root u := by
  have h' : Distinct.holds ((Namespace.ofEntries entries).labelCollisions u) t = true :=
    Namespace.labelCollisions_symm ▸ h
  have hne : identity t ≠ identity u := (Namespace.holds_labelCollisions.mp h).1
  rw [labelForm, labelForm] at hform
  cases ht : distinguishingDirectories t ((Namespace.ofEntries entries).labelCollisions t) with
  | some dirs =>
    cases hu : distinguishingDirectories u ((Namespace.ofEntries entries).labelCollisions u) with
    | some dirs' => exact label_ne_of_directories h ht hu
    | none =>
      rw [ht, hu] at hform
      cases hbelow : root.bind u.path.below? <;> rw [hbelow] at hform <;> contradiction
  | none =>
    cases hu : distinguishingDirectories u ((Namespace.ofEntries entries).labelCollisions u) with
    | some dirs' =>
      rw [ht, hu] at hform
      cases hbelow : root.bind t.path.below? <;> rw [hbelow] at hform <;> contradiction
    | none =>
      rw [label_eq_relativeTo root h ht, label_eq_relativeTo root h' hu]
      have hside : (root.bind t.path.below?).isSome = (root.bind u.path.below?).isSome := by
        rw [ht, hu] at hform
        cases hbelow : root.bind t.path.below? <;> cases hbelow' : root.bind u.path.below? <;>
          rw [hbelow, hbelow'] at hform <;> first | rfl | contradiction
      exact mt (Path.components_eq_of_relativeTo_eq hside) hne

/-- Three layers of one name, two of them below each other and one given by a relative path. -/
def threeLayers : List NamespaceEntry := [
  ⟨.ofString "base.html.twig", .ofString "/p/x.twig"⟩,
  ⟨.ofString "base.html.twig", .ofString "/q/p/x.twig"⟩,
  ⟨.ofString "base.html.twig", .ofString "x.twig"⟩]

/-- The first and the last of the three layers collide, and no directories distinguish them: those of
the first one are the last ones of the second, and the last one has none. -/
theorem distinguishingDirectories_threeLayers :
    Distinct.holds ((Namespace.ofEntries threeLayers).labelCollisions (.ofString "/p/x.twig"))
        (.ofString "x.twig") = true ∧
      distinguishingDirectories (.ofString "/p/x.twig")
        ((Namespace.ofEntries threeLayers).labelCollisions (.ofString "/p/x.twig")) = none ∧
      distinguishingDirectories (.ofString "x.twig")
        ((Namespace.ofEntries threeLayers).labelCollisions (.ofString "x.twig")) = none := by
  have hfirst : (Namespace.ofEntries threeLayers).primaryName? (.ofString "/p/x.twig") =
      some (.ofString "base.html.twig") := Namespace.primaryName?_of_given (by decide)
  have hsecond : (Namespace.ofEntries threeLayers).primaryName? (.ofString "/q/p/x.twig") =
      some (.ofString "base.html.twig") := Namespace.primaryName?_of_given (by decide)
  have hlast : (Namespace.ofEntries threeLayers).primaryName? (.ofString "x.twig") =
      some (.ofString "base.html.twig") := Namespace.primaryName?_of_given (by decide)
  have hends : Distinct.holds
      ((Namespace.ofEntries threeLayers).labelCollisions (.ofString "/p/x.twig"))
      (.ofString "x.twig") = true :=
    (Namespace.holds_labelCollisions_iff (by decide) hfirst hlast).mpr rfl
  have hlonger : Distinct.holds
      ((Namespace.ofEntries threeLayers).labelCollisions (.ofString "/p/x.twig"))
      (.ofString "/q/p/x.twig") = true :=
    (Namespace.holds_labelCollisions_iff (by decide) hfirst hsecond).mpr rfl
  exact ⟨hends, distinguishingDirectories_eq_none hlonger (by decide),
    distinguishingDirectories_eq_none (Namespace.labelCollisions_symm.trans hends) (by decide)⟩

/-- Without a root, two of the three layers are shown by their paths as spelled. -/
theorem label_ne_threeLayers :
    Distinct.holds ((Namespace.ofEntries threeLayers).labelCollisions (.ofString "/p/x.twig"))
        (.ofString "x.twig") = true ∧
      labelForm (Namespace.ofEntries threeLayers) none (.ofString "/p/x.twig") =
        labelForm (Namespace.ofEntries threeLayers) none (.ofString "x.twig") ∧
      label (Namespace.ofEntries threeLayers) none (.ofString "/p/x.twig") ≠
        label (Namespace.ofEntries threeLayers) none (.ofString "x.twig") := by
  obtain ⟨hcollide, hfirst, hlast⟩ := distinguishingDirectories_threeLayers
  have hform : labelForm (Namespace.ofEntries threeLayers) none (.ofString "/p/x.twig") =
      labelForm (Namespace.ofEntries threeLayers) none (.ofString "x.twig") := by
    rw [labelForm, hfirst, labelForm, hlast]
    rfl
  exact ⟨hcollide, hform, label_ne_of_collides none hcollide hform⟩

/-- Below the root of one of the three layers, its path is how another one is spelled, and both are
shown under it. -/
theorem label_eq_threeLayers :
    identity (Template.ofString "/p/x.twig") ≠ identity (Template.ofString "x.twig") ∧
      Distinct.holds ((Namespace.ofEntries threeLayers).labelCollisions (.ofString "/p/x.twig"))
        (.ofString "x.twig") = true ∧
      label (Namespace.ofEntries threeLayers) (some (.ofString "/p")) (.ofString "/p/x.twig") =
        label (Namespace.ofEntries threeLayers) (some (.ofString "/p")) (.ofString "x.twig") := by
  obtain ⟨hcollide, hfirst, hlast⟩ := distinguishingDirectories_threeLayers
  refine ⟨by decide, hcollide, ?_⟩
  rw [label_eq_relativeTo _ hcollide hfirst,
    label_eq_relativeTo _ (Namespace.labelCollisions_symm.trans hcollide) hlast]
  decide

end TwigRelations
