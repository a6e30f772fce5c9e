import TwigRelations.Namespace
import TwigRelations.Proofs.Collection

/-!
# The names of a template

Arranging names for display loses no key, so the names that a namespace has for a template are, up
to their spelling, those that the entries have for it.
-/

namespace TwigRelations

/-- Names of one key are blank together. -/
theorem LogicalName.isEmpty_congr {m n : LogicalName} (h : identity m = identity n) :
    m.isEmpty = n.isEmpty := by
  have hkey : m.key = n.key := h
  rw [isEmpty, hkey, isEmpty]

/-- Dropping names whose key has just been seen loses no key. -/
theorem holds_dropAdjacent (last : LogicalName) (names : List LogicalName) (n : LogicalName) :
    Distinct.holds (last :: dropAdjacent last names) n = true ↔
      Distinct.holds (last :: names) n = true := by
  induction names generalizing last with
  | nil => rfl
  | cons m rest ih =>
    rw [dropAdjacent]
    by_cases h : same m last = true
    · rw [if_pos h, ih]
      have hkey : identity m = identity last := same_iff.mp h
      simp [Distinct.holds_iff, hkey]
    · have hrest := ih m
      rw [if_neg h]
      simp only [Distinct.holds_iff, List.map_cons, List.mem_cons] at hrest ⊢
      rw [hrest]

/-- Arranged names have the same keys. -/
theorem holds_arrangeNames (names : List LogicalName) (n : LogicalName) :
    Distinct.holds (arrangeNames names) n = true ↔ Distinct.holds names n = true := by
  have hsorted : Distinct.holds (names.mergeSort fun a b =>
      (LogicalName.displayOrder a b).isLE) n = true ↔ Distinct.holds names n = true := by
    simp only [Distinct.holds_iff_exists, List.mem_mergeSort]
  rw [arrangeNames, ← hsorted]
  cases names.mergeSort fun a b => (LogicalName.displayOrder a b).isLE with
  | nil => rfl
  | cons first rest => exact holds_dropAdjacent first rest n

namespace Namespace

/-- The names that are listed for a template are those of its entries. -/
theorem listed_tabulateTemplates (entries : List NamespaceEntry) (t : Template) :
    Table.listed (tabulateTemplates entries) t =
      (entries.filter fun e => same t e.template).map (·.name) := by
  rw [tabulateTemplates, Table.listed_foldl_append NamespaceEntry.template NamespaceEntry.name]
  rfl

/-- The names that are not blank of the entries of a template, as they come. -/
def given (entries : List NamespaceEntry) (t : Template) : List LogicalName :=
  ((entries.filter (!·.name.isEmpty)).filter fun e => same t e.template).map (·.name)

/-- A template is given the names of its entries, but no blank ones. -/
theorem mem_given {entries : List NamespaceEntry} {t : Template} {n : LogicalName} :
    n ∈ given entries t ↔
      ∃ e ∈ entries, e.name.isEmpty = false ∧ identity e.template = identity t ∧ e.name = n := by
  rw [given, List.mem_map]
  constructor
  · rintro ⟨e, he, hname⟩
    rw [List.mem_filter, List.mem_filter, same_iff, Bool.not_eq_true'] at he
    exact ⟨e, he.1.1, he.1.2, he.2.symm, hname⟩
  · rintro ⟨e, he, hblank, htemplate, hname⟩
    refine ⟨e, ?_, hname⟩
    rw [List.mem_filter, List.mem_filter, same_iff, Bool.not_eq_true']
    exact ⟨⟨he, hblank⟩, htemplate.symm⟩

/-- A namespace arranges the names that its entries give a template. -/
theorem namesFor_ofEntries (entries : List NamespaceEntry) (t : Template) :
    (ofEntries entries).namesFor t = arrangeNames (given entries t) := by
  rw [given, ← listed_tabulateTemplates, namesFor, ofEntries, Table.get?_map, Table.listed]
  cases Table.get? (tabulateTemplates (entries.filter (!·.name.isEmpty))) t with
  | none => simp [arrangeNames]
  | some names => rfl

/-- A namespace has for a template, up to spelling, the names of its entries that are not blank. -/
theorem holds_namesFor (entries : List NamespaceEntry) (t : Template) (n : LogicalName) :
    Distinct.holds ((ofEntries entries).namesFor t) n = true ↔
      ∃ e ∈ entries, e.name.isEmpty = false ∧ identity e.template = identity t ∧
        identity e.name = identity n := by
  rw [namesFor_ofEntries, holds_arrangeNames, Distinct.holds_iff_exists]
  constructor
  · rintro ⟨name, hname, hkey⟩
    obtain ⟨e, he, hblank, htemplate, rfl⟩ := mem_given.mp hname
    exact ⟨e, he, hblank, htemplate, hkey⟩
  · rintro ⟨e, he, hblank, htemplate, hkey⟩
    exact ⟨e.name, mem_given.mpr ⟨e, he, hblank, htemplate, rfl⟩, hkey⟩

/-- A template is found under its path however that is spelled. -/
theorem namesFor_congr {t u : Template} (h : identity t = identity u) (ns : Namespace) :
    ns.namesFor t = ns.namesFor u := by
  rw [namesFor, Table.get?_congr h, namesFor]

end Namespace

end TwigRelations
