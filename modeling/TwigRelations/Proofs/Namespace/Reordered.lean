import TwigRelations.Namespace
import TwigRelations.Proofs.Label
import TwigRelations.Proofs.Namespace.Arrangement
import TwigRelations.Proofs.Namespace.Collisions

/-!
# Namespaces of reordered entries

What a namespace has for a template does not depend on the order of its entries, nor on the order in
which its labels were gathered.
-/

namespace TwigRelations

/-! ## The order of entries

The names of a template are arranged, its collisions are in path order, and its label is told by
both.
-/

namespace Namespace

variable {entries entries' : List NamespaceEntry}

/-- Reordered entries give each template the same names in the same order. -/
theorem namesFor_perm (h : entries.Perm entries') (t : Template) :
    (ofEntries entries).namesFor t = (ofEntries entries').namesFor t := by
  rw [namesFor_ofEntries, namesFor_ofEntries]
  refine arrangeNames_congr fun n => ?_
  simp only [mem_given, h.mem_iff]

/-- Reordered entries give each template the same collisions in the same order, by path. -/
theorem map_identity_labelCollisions_perm (h : entries.Perm entries') (t : Template) :
    ((ofEntries entries).labelCollisions t).map identity =
      ((ofEntries entries').labelCollisions t).map identity := by
  have hholds (u : Template) :
      Distinct.holds ((ofEntries entries).labelCollisions t) u = true ↔
        Distinct.holds ((ofEntries entries').labelCollisions t) u = true := by
    rw [holds_labelCollisions, holds_labelCollisions, namesFor_perm h, namesFor_perm h]
  have hsorted (entries : List NamespaceEntry) :
      (((ofEntries entries).labelCollisions t).map identity).Pairwise fun a b =>
        compare a b = .lt := List.pairwise_map.mpr (pairwise_labelCollisions entries t)
  refine (hsorted entries).eq_of_mem_iff (hsorted entries') fun path => ?_
  constructor
  · intro hpath
    obtain ⟨u, hu, rfl⟩ := List.mem_map.mp hpath
    exact Distinct.holds_iff.mp ((hholds u).mp (Distinct.holds_of_mem hu))
  · intro hpath
    obtain ⟨u, hu, rfl⟩ := List.mem_map.mp hpath
    exact Distinct.holds_iff.mp ((hholds u).mpr (Distinct.holds_of_mem hu))

end Namespace

/-- Directories are told apart by the paths of the others. -/
theorem distinguishingDirectories_congr {others others' : List Template} (t : Template)
    (h : others.map identity = others'.map identity) :
    distinguishingDirectories t others = distinguishingDirectories t others' := by
  have hall (others : List Template) (count : Nat) (candidate : String) :
      (others.all fun o => lastDirectories o.path.directories count != candidate) =
        ((others.map identity).all fun path =>
          lastDirectories (path.dropLast.filterMap Component.name?) count != candidate) := by
    rw [List.all_map]
    rfl
  simp only [distinguishingDirectories, hall, h]

/-- Reordered entries give each template the same label. -/
theorem label_perm {entries entries' : List NamespaceEntry} (h : entries.Perm entries')
    (root : Option Path) (t : Template) :
    label (.ofEntries entries) root t = label (.ofEntries entries') root t := by
  have hcollisions := Namespace.map_identity_labelCollisions_perm h t
  rw [label, label, Namespace.namesFor_perm h]
  cases ho : (Namespace.ofEntries entries).labelCollisions t with
  | nil =>
    rw [ho, List.map_nil] at hcollisions
    rw [List.map_eq_nil_iff.mp hcollisions.symm]
  | cons other others =>
    rw [ho] at hcollisions
    have hdirectories := distinguishingDirectories_congr t hcollisions
    obtain ⟨other', others', ho', -⟩ := List.map_eq_cons_iff.mp hcollisions.symm
    rw [ho'] at hdirectories ⊢
    simp only [hdirectories]

/-! ## The order of gathering

The labels of a namespace are gathered from the rows of its templates, and the order in which the
rows come then is not determined. It does not show: a template is looked up by a key that no other
row has, and the templates of a label are put in path order after they were gathered.
-/

namespace Table

variable {α β κ : Type} [Identified α κ] [DecidableEq κ] {t t' : Table α β} {a : α} {b : β}

/-- Where no key repeats, a key has the value of the row whose key counts as one with it. -/
theorem get?_eq_some_iff (ht : Distinct.NoRepeat (keys t)) :
    get? t a = some b ↔ ∃ x, (x, b) ∈ t ∧ identity x = identity a :=
  ⟨mem_of_get?, fun ⟨_, hmem, hsame⟩ => get?_of_mem ht hmem hsame⟩

/-- Where no key repeats, looking a key up does not depend on the order of the rows. -/
theorem get?_perm (ht : Distinct.NoRepeat (keys t)) (h : t.Perm t') (a : α) :
    get? t a = get? t' a := by
  have ht' : Distinct.NoRepeat (keys t') := ((h.map Prod.fst).map identity).nodup_iff.mp ht
  ext b
  rw [get?_eq_some_iff ht, get?_eq_some_iff ht']
  simp only [h.mem_iff]

end Table

namespace Namespace

variable {entries entries' : List NamespaceEntry} {rows rows' : Table Template (List LogicalName)}

/-- The same namespace, where the templates come in the order of the given rows when their labels
are gathered. -/
def regathered (ns : Namespace) (rows : Table Template (List LogicalName)) : Namespace :=
  { ns with byTemplate := rows, byLabel := tabulateLabels rows }

/-- A template stands under a label once. -/
theorem noRepeat_rowsLabelled (h : Distinct.NoRepeat (Table.keys rows)) (label : String) :
    Distinct.NoRepeat (rowsLabelled rows label) := by
  have hrows : (rowsLabelled rows label).Sublist (Table.keys rows) :=
    List.filter_sublist.map Prod.fst
  exact h.sublist (hrows.map identity)

theorem namesFor_regathered (h : rows.Perm (ofEntries entries).byTemplate) (t : Template) :
    ((ofEntries entries).regathered rows).namesFor t = (ofEntries entries).namesFor t := by
  rw [namesFor, namesFor, Table.get?_perm (noRepeat_byTemplate entries) h.symm]
  rfl

/-- The templates of a label are the same in whatever order they were gathered. -/
theorem labelled_regathered (h : rows.Perm (ofEntries entries).byTemplate) (label : String) :
    ((ofEntries entries).regathered rows).labelled label = (ofEntries entries).labelled label := by
  have hgathered (rows : Table Template (List LogicalName)) :
      ((ofEntries entries).regathered rows).labelled label =
        (Distinct.ofList (rowsLabelled rows label)).mergeSort fun a b => (compare a b).isLE :=
    lookup_tabulateLabels rows label
  have hdistinct : Distinct.NoRepeat (Table.keys rows) :=
    ((h.map Prod.fst).map identity).nodup_iff.mpr (noRepeat_byTemplate entries)
  have hperm : (rowsLabelled rows label).Perm
      (rowsLabelled (ofEntries entries).byTemplate label) := (h.filter _).map Prod.fst
  -- A namespace as it was built has gathered its labels in the order of its own rows.
  change _ = ((ofEntries entries).regathered (ofEntries entries).byTemplate).labelled label
  rw [hgathered, hgathered]
  refine (pairwise_mergeSort_templates (Distinct.noRepeat_ofList _)).eq_of_mem_iff
    (pairwise_mergeSort_templates (Distinct.noRepeat_ofList _)) fun t => ?_
  rw [List.mem_mergeSort, List.mem_mergeSort,
    Distinct.ofList_eq_self (noRepeat_rowsLabelled hdistinct label),
    Distinct.ofList_eq_self (noRepeat_rowsLabelled (noRepeat_byTemplate entries) label),
    hperm.mem_iff]

theorem labelCollisions_regathered (h : rows.Perm (ofEntries entries).byTemplate)
    (t : Template) :
    ((ofEntries entries).regathered rows).labelCollisions t =
      (ofEntries entries).labelCollisions t := by
  rw [labelCollisions, labelCollisions, namesFor_regathered h]
  simp only [labelled_regathered h]

/-- The label of a template does not depend on how labels are gathered. -/
theorem label_regathered (h : rows.Perm (ofEntries entries).byTemplate) (root : Option Path)
    (t : Template) :
    label ((ofEntries entries).regathered rows) root t = label (ofEntries entries) root t := by
  rw [label, label, namesFor_regathered h, labelCollisions_regathered h]

/-- Neither the order of the entries nor the order in which labels were gathered shows in what a
namespace has for a template: its names are the same and spelled the same, it collides with the same
templates in the same order, and its label is the same text. -/
theorem labels_unordered (h : entries.Perm entries')
    (hrows : rows.Perm (ofEntries entries).byTemplate)
    (hrows' : rows'.Perm (ofEntries entries').byTemplate) (t : Template) (root : Option Path) :
    let ns := (ofEntries entries).regathered rows
    let ns' := (ofEntries entries').regathered rows'
    ns.namesFor t = ns'.namesFor t ∧
      (ns.labelCollisions t).map identity = (ns'.labelCollisions t).map identity ∧
      label ns root t = label ns' root t := by
  intro ns ns'
  refine ⟨?_, ?_, ?_⟩
  · rw [namesFor_regathered hrows, namesFor_regathered hrows', namesFor_perm h]
  · rw [labelCollisions_regathered hrows, labelCollisions_regathered hrows',
      map_identity_labelCollisions_perm h]
  · rw [label_regathered hrows, label_regathered hrows', label_perm h]

/-- Two layers of a name, the second one registered twice under different spellings. -/
def respelledLayers : List NamespaceEntry := [
  ⟨.ofString "base", .ofString "/p/b/base.twig"⟩,
  ⟨.ofString "base", .ofString "/p//a/base.twig"⟩,
  ⟨.ofString "Base", .ofString "/p/a/base.twig"⟩]

/-- The layers are labelled alike from either end, also where the labels are gathered from the other
end. -/
theorem labels_unordered_respelledLayers :
    let rows := (ofEntries respelledLayers).byTemplate.reverse
    let rows' := (ofEntries respelledLayers.reverse).byTemplate
    let layer : Template := .ofString "/p/a/base.twig"
    respelledLayers.Perm respelledLayers.reverse ∧
      rows.Perm (ofEntries respelledLayers).byTemplate ∧
      rows'.Perm (ofEntries respelledLayers.reverse).byTemplate ∧
      label ((ofEntries respelledLayers).regathered rows) none layer = "Base (a)" ∧
      label ((ofEntries respelledLayers.reverse).regathered rows') none layer = "Base (a)" := by
  intro rows rows' layer
  have hentries : respelledLayers.Perm respelledLayers.reverse := (List.reverse_perm _).symm
  have hrows : rows.Perm (ofEntries respelledLayers).byTemplate := List.reverse_perm _
  have hrows' : rows'.Perm (ofEntries respelledLayers.reverse).byTemplate := .refl _
  obtain ⟨-, -, hsame⟩ := labels_unordered hentries hrows hrows' layer none
  have hlayer : (ofEntries respelledLayers).primaryName? layer = some (.ofString "Base") :=
    primaryName?_of_least (by decide) (by decide)
  have hother : (ofEntries respelledLayers).primaryName? (.ofString "/p/b/base.twig") =
      some (.ofString "base") := primaryName?_of_given (by decide)
  have hcollide : Distinct.holds ((ofEntries respelledLayers).labelCollisions layer)
      (.ofString "/p/b/base.twig") = true :=
    (holds_labelCollisions_iff (by decide) hlayer hother).mpr (by decide)
  have hshown : label ((ofEntries respelledLayers).regathered
      (ofEntries respelledLayers).byTemplate.reverse) none layer = "Base (a)" := by
    obtain ⟨first, hfirst, hlabel⟩ := label_of_collides none hcollide
    obtain rfl := Option.some.inj (hlayer.symm.trans hfirst)
    rw [label_regathered hrows, hlabel, labelCollisions_eq_singleton hcollide (by decide)]
    decide
  exact ⟨hentries, hrows, hrows', hshown, hsame ▸ hshown⟩

end Namespace

end TwigRelations
