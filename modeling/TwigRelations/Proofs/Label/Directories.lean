import TwigRelations.Proofs.Label

/-!
# Directories that tell a template apart

The directories after a label are the shortest trailing run of a template's own that none of the
others ends with. There is one unless all directories of the template are the last ones of a single
other template, and exactly then a template that collides with others is shown by its path.
-/

namespace TwigRelations

/-- A trailing run of a template's directories that none of the others ends with. -/
structure TellsApart (t : Template) (others : List Template) (run : List String) : Prop where
  /-- The run has a directory. -/
  ne_nil : run ≠ []
  /-- The template's directories end with the run. -/
  suffix : run <:+ t.path.directories
  /-- No other template's directories do. -/
  not_suffix : ∀ o ∈ others, ¬run <:+ o.path.directories

/-- The shortest such run. -/
structure ShortestApart (t : Template) (others : List Template) (run : List String) : Prop
    extends TellsApart t others run where
  /-- No shorter run tells the template apart. -/
  length_le {other : List String} (h : TellsApart t others other) : run.length ≤ other.length

variable {t u : Template} {others : List Template} {run : List String} {text : String}

/-- There is one shortest run that tells a template apart. -/
theorem ShortestApart.eq {run' : List String} (h : ShortestApart t others run)
    (h' : ShortestApart t others run') : run = run' := by
  have hlength : run.length = run'.length :=
    Nat.le_antisymm (h.length_le h'.toTellsApart) (h'.length_le h.toTellsApart)
  rw [List.suffix_iff_eq_drop.mp h.suffix, hlength, ← List.suffix_iff_eq_drop.mp h'.suffix]

/-- The last directories of a path. -/
def Path.lastRun (p : Path) (count : Nat) : List String :=
  p.directories.drop (p.directories.length - count)

namespace Path

variable {p q : Path} {count : Nat}

/-- A last run is as long as it is asked for, where the path has so many directories. -/
theorem length_lastRun (h : count ≤ p.directories.length) : (p.lastRun count).length = count := by
  rw [lastRun, List.length_drop]
  omega

theorem lastRun_suffix (p : Path) (count : Nat) : p.lastRun count <:+ p.directories :=
  List.drop_suffix _ _

/-- A trailing run is the last run of its length. -/
theorem eq_lastRun_of_suffix (h : run <:+ p.directories) : run = p.lastRun run.length :=
  List.suffix_iff_eq_drop.mp h

/-- A run of directories that is joined to no text is empty. -/
theorem eq_nil_of_intercalate_eq_empty (h : run <:+ p.directories)
    (hempty : "/".intercalate run = "") : run = [] := by
  by_contra hne
  have hblank : run = [""] := by
    refine eq_of_intercalate_eq (fun d hd => ?_) (by simp) hne (by simp) hempty
    exact slash_not_mem_of_mem_directories (h.subset hd)
  have hmem : "" ∈ p.directories := h.subset (hblank ▸ List.mem_cons_self)
  exact ne_empty_of_mem_directories hmem rfl

/-- Directories are joined to the same text as the last ones of another path exactly if they end
with those. A path with fewer directories gives them all, and these are joined to another text. -/
theorem lastDirectories_eq_iff (hpos : 0 < count) (hle : count ≤ p.directories.length) :
    lastDirectories q.directories count = lastDirectories p.directories count ↔
      p.lastRun count <:+ q.directories := by
  have hne : p.lastRun count ≠ [] := by
    rw [← List.length_pos_iff, length_lastRun hle]
    exact hpos
  constructor
  · intro h
    have hjoined : "/".intercalate (q.lastRun count) = "/".intercalate (p.lastRun count) := h
    have hne' : q.lastRun count ≠ [] := by
      intro hnone
      rw [hnone] at hjoined
      exact hne (eq_nil_of_intercalate_eq_empty (p.lastRun_suffix count) hjoined.symm)
    have hslash (r : Path) (d : String) (hd : d ∈ r.lastRun count) : '/' ∉ d.toList :=
      slash_not_mem_of_mem_directories ((r.lastRun_suffix count).subset hd)
    rw [← eq_of_intercalate_eq (hslash q) (hslash p) hne' hne hjoined]
    exact q.lastRun_suffix count
  · intro h
    have hrun := eq_lastRun_of_suffix h
    rw [length_lastRun hle] at hrun
    exact congrArg ("/".intercalate ·) hrun.symm

end Path

/-- The runs that tell a template apart are told by their lengths. -/
theorem tellsApart_lastRun {i : Nat} (hi : i < t.path.directories.length) :
    TellsApart t others (t.path.lastRun (i + 1)) ↔
      others.all (fun o => lastDirectories o.path.directories (i + 1) !=
        lastDirectories t.path.directories (i + 1)) = true := by
  have hother (o : Template) : lastDirectories o.path.directories (i + 1) ≠
      lastDirectories t.path.directories (i + 1) ↔
        ¬t.path.lastRun (i + 1) <:+ o.path.directories :=
    not_congr (Path.lastDirectories_eq_iff (Nat.succ_pos i) hi)
  simp only [List.all_eq_true, bne_iff_ne, hother]
  constructor
  · exact TellsApart.not_suffix
  · refine fun h => ⟨fun hnone => ?_, t.path.lastRun_suffix _, h⟩
    have hlength := Path.length_lastRun hi
    rw [hnone] at hlength
    contradiction

/-- A run that tells a template apart is a last run of at least one directory. -/
theorem TellsApart.exists_eq_lastRun (h : TellsApart t others run) :
    ∃ i < t.path.directories.length, run = t.path.lastRun (i + 1) := by
  have hlength := h.suffix.length_le
  have hrun := Path.eq_lastRun_of_suffix h.suffix
  obtain ⟨i, hi⟩ := Nat.exists_eq_succ_of_ne_zero (mt List.length_eq_zero_iff.mp h.ne_nil)
  rw [hi] at hlength hrun
  exact ⟨i, hlength, hrun⟩

/-- The search for a run looks for the first length that tells the template apart. -/
theorem distinguishingDirectories_eq (t : Template) (others : List Template) :
    distinguishingDirectories t others =
      ((List.range t.path.directories.length).find? fun i =>
        others.all fun o => lastDirectories o.path.directories (i + 1) !=
          lastDirectories t.path.directories (i + 1)).map fun i =>
            "/".intercalate (t.path.lastRun (i + 1)) := by
  rw [← List.findSome?_guard, List.map_findSome?, distinguishingDirectories]
  congr 1
  funext i
  rw [Function.comp_apply, Option.guard]
  split_ifs with h
  · exact if_pos h
  · exact if_neg h

/-- No directories distinguish a template exactly if no trailing run tells it apart. -/
theorem distinguishingDirectories_eq_none_iff_forall :
    distinguishingDirectories t others = none ↔ ∀ run, ¬TellsApart t others run := by
  rw [distinguishingDirectories_eq, Option.map_eq_none_iff, List.find?_eq_none]
  constructor
  · intro h run hrun
    obtain ⟨i, hi, rfl⟩ := hrun.exists_eq_lastRun
    exact h i (List.mem_range.mpr hi) ((tellsApart_lastRun hi).mp hrun)
  · intro h i hi hrun
    exact h _ ((tellsApart_lastRun (List.mem_range.mp hi)).mpr hrun)

/-- What is found is the shortest run that tells the template apart, joined by slashes. -/
theorem distinguishingDirectories_eq_some_iff : distinguishingDirectories t others = some text ↔
    ∃ run, ShortestApart t others run ∧ text = "/".intercalate run := by
  have hfound {text : String} (h : distinguishingDirectories t others = some text) :
      ∃ run, ShortestApart t others run ∧ text = "/".intercalate run := by
    rw [distinguishingDirectories_eq, Option.map_eq_some_iff] at h
    obtain ⟨i, hfind, rfl⟩ := h
    obtain ⟨hi, hrange, hfirst⟩ := List.find?_range_eq_some.mp hfind
    have hi' := List.mem_range.mp hrange
    refine ⟨_, ⟨(tellsApart_lastRun hi').mpr hi, fun {other} hother => ?_⟩, rfl⟩
    obtain ⟨j, hj, rfl⟩ := hother.exists_eq_lastRun
    rw [Path.length_lastRun hi', Path.length_lastRun hj]
    by_contra hless
    have hfails := hfirst j (by omega)
    rw [(tellsApart_lastRun hj).mp hother] at hfails
    contradiction
  constructor
  · exact hfound
  · rintro ⟨run, hrun, rfl⟩
    cases h : distinguishingDirectories t others with
    | none => exact absurd hrun.toTellsApart (distinguishingDirectories_eq_none_iff_forall.mp h run)
    | some text =>
      obtain ⟨run', hrun', rfl⟩ := hfound h
      rw [hrun.eq hrun']

/-- Nothing tells a template apart from others exactly if one of these ends with all of its
directories: then it ends with every run of them, and else all of them together are such a run. -/
theorem distinguishingDirectories_eq_none_iff (hothers : others ≠ []) :
    distinguishingDirectories t others = none ↔
      ∃ o ∈ others, t.path.directories <:+ o.path.directories := by
  constructor
  · rw [distinguishingDirectories_eq_none_iff_forall]
    intro h
    by_cases hnone : t.path.directories = []
    · obtain ⟨o, ho⟩ := List.exists_mem_of_ne_nil _ hothers
      exact ⟨o, ho, hnone ▸ List.nil_suffix⟩
    · by_contra hall
      exact h _ ⟨hnone, List.suffix_rfl, fun o ho hsuffix => hall ⟨o, ho, hsuffix⟩⟩
  · rintro ⟨o, ho, hsuffix⟩
    exact distinguishingDirectories_eq_none (Distinct.holds_of_mem ho) hsuffix

/-- A template that is told apart by directories has at least two components. -/
theorem TellsApart.two_le_length (h : TellsApart t others run) :
    2 ≤ t.path.components.length := by
  obtain ⟨d, hd⟩ := List.exists_mem_of_ne_nil _ h.ne_nil
  obtain ⟨c, hc, -⟩ := List.mem_filterMap.mp (h.suffix.subset hd)
  have hlength := List.length_pos_of_mem hc
  rw [List.length_dropLast] at hlength
  omega

/-- The directories that tell a template apart from others are the shortest trailing run of its own
that none of the others ends with, and there are none exactly if one of the others ends with all of
them. If these others are those that the template collides with in a namespace, it is shown by its
path exactly in that case, and else by its folded name and that run; and no template that it collides
with and that is told apart by directories as well is shown in the same way. That a label is a path
is said of all roots, because a name with directories may happen to be the path below one root. -/
theorem label_of_directories (t : Template) (others : List Template) (hothers : others ≠ []) :
    (∀ text, distinguishingDirectories t others = some text ↔
      ∃ run, ShortestApart t others run ∧ text = "/".intercalate run) ∧
    (distinguishingDirectories t others = none ↔
      ∃ o ∈ others, t.path.directories <:+ o.path.directories) ∧
    ∀ entries, (Namespace.ofEntries entries).labelCollisions t = others →
      ((∀ root, label (Namespace.ofEntries entries) root t = t.path.relativeTo root) ↔
        ∃ o ∈ others, t.path.directories <:+ o.path.directories) ∧
      ((¬∃ o ∈ others, t.path.directories <:+ o.path.directories) →
        ∃ first run, ((Namespace.ofEntries entries).namesFor t).head? = some first ∧
          ShortestApart t others run ∧
          ∀ root, label (Namespace.ofEntries entries) root t =
            foldName first.raw ++ " (" ++ "/".intercalate run ++ ")") ∧
      ∀ root u dirs dirs', Distinct.holds others u = true →
        distinguishingDirectories t others = some dirs →
        distinguishingDirectories u ((Namespace.ofEntries entries).labelCollisions u) =
          some dirs' →
        label (Namespace.ofEntries entries) root t ≠ label (Namespace.ofEntries entries) root u := by
  have hnone := distinguishingDirectories_eq_none_iff (t := t) hothers
  refine ⟨fun text => distinguishingDirectories_eq_some_iff, hnone, fun entries hcollide => ?_⟩
  obtain ⟨other, hother⟩ := List.exists_mem_of_ne_nil _ hothers
  have hheld : Distinct.holds ((Namespace.ofEntries entries).labelCollisions t) other = true :=
    Distinct.holds_of_mem (hcollide ▸ hother)
  have hsuffixed (h : ¬∃ o ∈ others, t.path.directories <:+ o.path.directories) :
      ∃ first run, ((Namespace.ofEntries entries).namesFor t).head? = some first ∧
        ShortestApart t others run ∧
        ∀ root, label (Namespace.ofEntries entries) root t =
          foldName first.raw ++ " (" ++ "/".intercalate run ++ ")" := by
    obtain ⟨text, htext⟩ := Option.ne_none_iff_exists'.mp (mt hnone.mp h)
    obtain ⟨run, hrun, rfl⟩ := distinguishingDirectories_eq_some_iff.mp htext
    obtain ⟨first, hfirst, -⟩ := label_of_collides none hheld
    refine ⟨first, run, hfirst, hrun, fun root => ?_⟩
    obtain ⟨first', hfirst', hlabel⟩ := label_of_collides root hheld
    obtain rfl := Option.some.inj (hfirst.symm.trans hfirst')
    rwa [hcollide, htext] at hlabel
  refine ⟨⟨fun hpath => ?_, fun hsuffix root => ?_⟩, hsuffixed, ?_⟩
  · by_contra h
    obtain ⟨first, run, -, hrun, hlabel⟩ := hsuffixed h
    -- The name with directories is the same under every root, and the path is not.
    obtain ⟨root, hroot⟩ := Path.exists_relativeTo_ne hrun.two_le_length
    apply hroot
    rw [← hpath (some root), hlabel, ← hlabel none, hpath]
    rfl
  · exact label_eq_relativeTo root hheld (hcollide ▸ hnone.mpr hsuffix)
  · intro root u dirs dirs' hu ht hu'
    rw [← hcollide] at hu ht
    exact label_ne_of_directories hu ht hu'

/-- Two layers of one name, the directories of the first being the last ones of the second. -/
def nestedLayers : List NamespaceEntry := [
  ⟨.ofString "base.html.twig", .ofString "/a/views/base.html.twig"⟩,
  ⟨.ofString "base.html.twig", .ofString "/b/a/views/base.html.twig"⟩]

/-- Nothing tells the first of the two layers apart, which is shown by its path. -/
theorem label_of_directories_nestedLayers :
    (Namespace.ofEntries nestedLayers).labelCollisions (.ofString "/a/views/base.html.twig") =
        [.ofString "/b/a/views/base.html.twig"] ∧
      distinguishingDirectories (.ofString "/a/views/base.html.twig")
        [.ofString "/b/a/views/base.html.twig"] = none ∧
      ∀ root, label (Namespace.ofEntries nestedLayers) root (.ofString "/a/views/base.html.twig") =
        Path.relativeTo (.ofString "/a/views/base.html.twig") root := by
  have hshown : (Namespace.ofEntries nestedLayers).primaryName?
      (.ofString "/a/views/base.html.twig") = some (.ofString "base.html.twig") :=
    Namespace.primaryName?_of_given (by decide)
  have hshown' : (Namespace.ofEntries nestedLayers).primaryName?
      (.ofString "/b/a/views/base.html.twig") = some (.ofString "base.html.twig") :=
    Namespace.primaryName?_of_given (by decide)
  have hcollide : (Namespace.ofEntries nestedLayers).labelCollisions
      (.ofString "/a/views/base.html.twig") = [.ofString "/b/a/views/base.html.twig"] := by
    apply Namespace.labelCollisions_eq_singleton
    · exact (Namespace.holds_labelCollisions_iff (by decide) hshown hshown').mpr rfl
    · decide
  have hsuffix : (Template.ofString "/a/views/base.html.twig").path.directories <:+
      (Template.ofString "/b/a/views/base.html.twig").path.directories := by decide
  obtain ⟨-, hnone, hlabel⟩ := label_of_directories (.ofString "/a/views/base.html.twig")
    [.ofString "/b/a/views/base.html.twig"] (List.cons_ne_nil _ _)
  have hall : ∃ o ∈ [Template.ofString "/b/a/views/base.html.twig"],
      (Template.ofString "/a/views/base.html.twig").path.directories <:+ o.path.directories :=
    ⟨_, List.mem_cons_self, hsuffix⟩
  exact ⟨hcollide, hnone.mpr hall, (hlabel nestedLayers hcollide).1.mpr hall⟩

end TwigRelations
