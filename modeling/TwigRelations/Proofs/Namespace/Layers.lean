import TwigRelations.Proofs.Name.Folded
import TwigRelations.Proofs.Namespace.Arrangement
import TwigRelations.Proofs.Namespace.Collisions

/-!
# Layers of one name

Templates collide by the label that they are shown under, not by the name behind it. Layers whose
first names are one name thus collide where the name is spelled alike but for the case of letters
and folds to equally long labels. Blanks, separators and a leading `./` stay in the label, so layers
that are spelled differently in these do not collide.
-/

namespace TwigRelations.Namespace

variable {entries : List NamespaceEntry} {t u : Template} {m n : LogicalName}

/-- The name under which a template is shown, if it has one. -/
def primaryName? (ns : Namespace) (t : Template) : Option LogicalName := (ns.namesFor t).head?

/-- A template is shown under the first of its names in display order. -/
theorem primaryName?_of_least (hn : n ∈ given entries t)
    (hleast : ∀ m ∈ given entries t, (LogicalName.displayOrder n m).isLE = true) :
    (ofEntries entries).primaryName? t = some n := by
  have hsorted := pairwise_mergeSort_isLE LogicalName.displayOrder (given entries t)
  have hmem (m : LogicalName) : m ∈ (given entries t).mergeSort
      (fun a b => (LogicalName.displayOrder a b).isLE) ↔ m ∈ given entries t := List.mem_mergeSort
  rw [primaryName?, namesFor_ofEntries, arrangeNames]
  cases hsort : (given entries t).mergeSort fun a b => (LogicalName.displayOrder a b).isLE with
  | nil =>
    rw [hsort] at hmem
    exact absurd ((hmem n).mpr hn) List.not_mem_nil
  | cons first rest =>
    rw [hsort] at hmem hsorted
    have hfirst : (LogicalName.displayOrder n first).isLE = true :=
      hleast first ((hmem first).mp List.mem_cons_self)
    have hfirst' : (LogicalName.displayOrder first n).isLE = true := by
      rcases List.mem_cons.mp ((hmem n).mpr hn) with rfl | hrest
      · exact hfirst
      · exact (List.pairwise_cons.mp hsorted).1 n hrest
    rw [LogicalName.eq_of_isLE_displayOrder hfirst hfirst']
    rfl

/-- A template with one name is shown under it. -/
theorem primaryName?_of_given (h : given entries t = [n]) :
    (ofEntries entries).primaryName? t = some n := by
  apply primaryName?_of_least <;> rw [h]
  · exact List.mem_singleton_self n
  · exact List.forall_mem_singleton.mpr Std.ReflCmp.isLE_rfl

/-- Templates collide exactly if the names under which they are shown have one label. -/
theorem holds_labelCollisions_iff (hne : identity t ≠ identity u)
    (ht : (ofEntries entries).primaryName? t = some m)
    (hu : (ofEntries entries).primaryName? u = some n) :
    Distinct.holds ((ofEntries entries).labelCollisions t) u = true ↔ m.labelKey = n.labelKey := by
  have hlabel {t : Template} {m : LogicalName} (h : (ofEntries entries).primaryName? t = some m) :
      labelOf? ((ofEntries entries).namesFor t) = some m.labelKey :=
    congrArg (Option.map LogicalName.labelKey) h
  rw [holds_labelCollisions, hlabel ht, hlabel hu]
  constructor
  · rintro ⟨-, label, hm, hn⟩
    exact Option.some.inj (hm.trans hn.symm)
  · intro hlabels
    exact ⟨hne, _, rfl, congrArg some hlabels.symm⟩

/-- Two layers that are shown under one name collide, seen from either side, exactly if the name is
spelled alike but for the case of letters and folds to equally long labels. -/
theorem layers_collide_iff (hne : identity t ≠ identity u)
    (ht : (ofEntries entries).primaryName? t = some m)
    (hu : (ofEntries entries).primaryName? u = some n) (hname : identity m = identity n) :
    (Distinct.holds ((ofEntries entries).labelCollisions t) u = true ↔
        m.SpelledAlike n ∧ (foldName m.raw).length = (foldName n.raw).length) ∧
      (Distinct.holds ((ofEntries entries).labelCollisions u) t = true ↔
        m.SpelledAlike n ∧ (foldName m.raw).length = (foldName n.raw).length) := by
  have hcollide := (holds_labelCollisions_iff hne ht hu).trans (LogicalName.labelKey_eq_iff hname)
  refine ⟨hcollide, ?_⟩
  rw [labelCollisions_symm]
  exact hcollide

/-- Two layers of a base, with the given spellings of its name. -/
def baseLayers (first second : String) : List NamespaceEntry := [
  ⟨.ofString first, .ofString "/a/base.twig"⟩,
  ⟨.ofString second, .ofString "/b/base.twig"⟩]

/-- Layers that are spelled in another case collide. -/
theorem layers_collide_otherCase :
    let first : Template := .ofString "/a/base.twig"
    let second : Template := .ofString "/b/base.twig"
    let ns := ofEntries (baseLayers "admin/base.twig" "Admin/Base.twig")
    identity first ≠ identity second ∧
      ns.primaryName? first = some (.ofString "admin/base.twig") ∧
      ns.primaryName? second = some (.ofString "Admin/Base.twig") ∧
      identity (LogicalName.ofString "admin/base.twig") =
        identity (LogicalName.ofString "Admin/Base.twig") ∧
      Distinct.holds (ns.labelCollisions first) second = true ∧
      Distinct.holds (ns.labelCollisions second) first = true := by
  intro first second ns
  have hne : identity first ≠ identity second := by decide
  have hfirst : (ofEntries (baseLayers "admin/base.twig" "Admin/Base.twig")).primaryName?
      (.ofString "/a/base.twig") = some (.ofString "admin/base.twig") :=
    primaryName?_of_given (by decide)
  have hsecond : (ofEntries (baseLayers "admin/base.twig" "Admin/Base.twig")).primaryName?
      (.ofString "/b/base.twig") = some (.ofString "Admin/Base.twig") :=
    primaryName?_of_given (by decide)
  have hname : identity (LogicalName.ofString "admin/base.twig") =
      identity (LogicalName.ofString "Admin/Base.twig") := by decide
  have hspelled : (LogicalName.ofString "admin/base.twig").SpelledAlike
        (.ofString "Admin/Base.twig") ∧
      (foldName "admin/base.twig").length = (foldName "Admin/Base.twig").length := by
    unfold LogicalName.SpelledAlike
    decide
  obtain ⟨hcollide, hcollide'⟩ := layers_collide_iff hne hfirst hsecond hname
  exact ⟨hne, hfirst, hsecond, hname, hcollide.mpr hspelled, hcollide'.mpr hspelled⟩

/-- Layers that are shown under one name, but with its separator doubled in one of them, do not
collide. -/
theorem layers_apart_doubledSlash :
    let first : Template := .ofString "/a/base.twig"
    let second : Template := .ofString "/b/base.twig"
    let ns := ofEntries (baseLayers "admin/base.twig" "admin//base.twig")
    identity first ≠ identity second ∧
      ns.primaryName? first = some (.ofString "admin/base.twig") ∧
      ns.primaryName? second = some (.ofString "admin//base.twig") ∧
      identity (LogicalName.ofString "admin/base.twig") =
        identity (LogicalName.ofString "admin//base.twig") ∧
      Distinct.holds (ns.labelCollisions first) second = false ∧
      Distinct.holds (ns.labelCollisions second) first = false := by
  intro first second ns
  have hne : identity first ≠ identity second := by decide
  have hfirst : ns.primaryName? first = some (.ofString "admin/base.twig") :=
    primaryName?_of_given (by decide)
  have hsecond : ns.primaryName? second = some (.ofString "admin//base.twig") :=
    primaryName?_of_given (by decide)
  have hlabels : (LogicalName.ofString "admin/base.twig").labelKey ≠
      (LogicalName.ofString "admin//base.twig").labelKey := by decide
  have hapart : Distinct.holds (ns.labelCollisions first) second = false :=
    Bool.eq_false_iff.mpr (mt (holds_labelCollisions_iff hne hfirst hsecond).mp hlabels)
  exact ⟨hne, hfirst, hsecond, by decide, hapart, labelCollisions_symm.symm.trans hapart⟩

end TwigRelations.Namespace
