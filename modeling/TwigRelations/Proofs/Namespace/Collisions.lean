import Mathlib.Data.List.Sort
import TwigRelations.Proofs.Namespace
import TwigRelations.Proofs.Path

/-!
# Templates that share a label

A namespace groups its templates by the label of their first name. Each template is in the group of
its own label and in no other, and the groups are in path order, so that a template collides with
exactly the other templates of its label.
-/

namespace TwigRelations.Namespace

variable {entries : List NamespaceEntry} {t u : Template} {label : String}

/-- Adding a template to the group of a label is seen under that label only. -/
theorem lookup_addLabel (added label : String) (t : Template)
    (groups : List (String × List Template)) :
    ((addLabel added t groups).lookup label).getD [] =
      if label = added then Distinct.insert ((groups.lookup label).getD []) t
      else (groups.lookup label).getD [] := by
  induction groups with
  | nil =>
    rw [addLabel, List.lookup_cons]
    by_cases h : label = added
    · rw [if_pos h, h, beq_self_eq_true]
      rfl
    · rw [if_neg h, beq_eq_false_iff_ne.mpr h]
  | cons g rest ih =>
    rw [addLabel]
    by_cases hg : g.1 = added
    · rw [if_pos hg, List.lookup_cons, List.lookup_cons]
      by_cases h : label = added
      · rw [if_pos h, h, hg, beq_self_eq_true]
        rfl
      · rw [if_neg h, hg, beq_eq_false_iff_ne.mpr h]
    · rw [if_neg hg, List.lookup_cons, List.lookup_cons]
      by_cases h : label = g.1
      · rw [h, beq_self_eq_true, if_neg hg]
      · rw [beq_eq_false_iff_ne.mpr h]
        exact ih

/-- The templates of a table whose first name has a label, as they come. -/
def rowsLabelled (rows : Table Template (List LogicalName)) (label : String) : List Template :=
  (rows.filter fun r => labelOf? r.2 == some label).map (·.1)

/-- The rows of a label come in the order of the table. -/
theorem rowsLabelled_cons (r : Template × List LogicalName)
    (rest : Table Template (List LogicalName)) (label : String) :
    rowsLabelled (r :: rest) label =
      if labelOf? r.2 = some label then r.1 :: rowsLabelled rest label
      else rowsLabelled rest label := by
  rw [rowsLabelled, List.filter_cons]
  by_cases h : labelOf? r.2 = some label
  · rw [if_pos h, if_pos (beq_iff_eq.mpr h)]
    rfl
  · rw [if_neg h, if_neg (mt beq_iff_eq.mp h)]
    rfl

/-- Grouping a table by labels unites each group with the templates of its label. -/
theorem lookup_foldl_addLabel (rows : Table Template (List LogicalName)) (label : String)
    (groups : List (String × List Template)) :
    ((rows.foldl (fun groups r =>
        match labelOf? r.2 with
        | some added => addLabel added r.1 groups
        | none => groups) groups).lookup label).getD [] =
      Distinct.union ((groups.lookup label).getD []) (rowsLabelled rows label) := by
  induction rows generalizing groups with
  | nil => rfl
  | cons r rest ih =>
    rw [List.foldl_cons, ih, rowsLabelled_cons]
    cases hlabel : labelOf? r.2 with
    | none => rfl
    | some added =>
      rw [lookup_addLabel]
      by_cases h : label = added
      · rw [if_pos h, if_pos (congrArg some h.symm)]
        rfl
      · rw [if_neg h, if_neg fun he => h (Option.some.inj he).symm]

theorem lookup_map_value {α β γ : Type} [BEq α] (f : β → γ) (rows : List (α × β)) (a : α) :
    (rows.map fun r => (r.1, f r.2)).lookup a = (rows.lookup a).map f := by
  induction rows with
  | nil => rfl
  | cons r rest ih =>
    rw [List.map_cons, List.lookup_cons, List.lookup_cons]
    cases a == r.1 with
    | true => rfl
    | false => exact ih

/-- The group of a label are the templates of its rows, each once and in path order. -/
theorem lookup_tabulateLabels (rows : Table Template (List LogicalName)) (label : String) :
    ((tabulateLabels rows).lookup label).getD [] =
      (Distinct.ofList (rowsLabelled rows label)).mergeSort fun a b => (compare a b).isLE := by
  have hgroup := lookup_foldl_addLabel rows label []
  rw [List.lookup_nil, Option.getD_none, ← Distinct.ofList] at hgroup
  rw [tabulateLabels, ← hgroup,
    lookup_map_value fun ts : List Template => ts.mergeSort fun a b => (compare a b).isLE]
  cases List.lookup label _ with
  | none => exact List.mergeSort_nil.symm
  | some found => rfl

/-- The templates that have rows of names are those of the entries that count, each once. -/
theorem keys_byTemplate (entries : List NamespaceEntry) :
    Table.keys (ofEntries entries).byTemplate =
      Distinct.ofList ((entries.filter (!·.name.isEmpty)).map (·.template)) := by
  rw [ofEntries, Table.keys, List.map_map]
  exact Table.keys_foldl_alter NamespaceEntry.template _ _ []

/-- No template has two rows of names. -/
theorem noRepeat_byTemplate (entries : List NamespaceEntry) :
    Distinct.NoRepeat (Table.keys (ofEntries entries).byTemplate) := by
  rw [keys_byTemplate]
  exact Distinct.noRepeat_ofList _

/-- A template whose first name has a label has a row of names, with that label. -/
theorem holds_rowsLabelled :
    Distinct.holds (rowsLabelled (ofEntries entries).byTemplate label) t = true ↔
      labelOf? ((ofEntries entries).namesFor t) = some label := by
  rw [Distinct.holds_iff_exists, namesFor]
  constructor
  · rintro ⟨x, hx, hsame⟩
    obtain ⟨⟨_, names⟩, hrow, rfl⟩ := List.mem_map.mp hx
    obtain ⟨hrow, hlabel⟩ := List.mem_filter.mp hrow
    rw [Table.get?_of_mem (noRepeat_byTemplate entries) hrow hsame]
    exact beq_iff_eq.mp hlabel
  · intro hlabel
    cases hnames : Table.get? (ofEntries entries).byTemplate t with
    | none =>
      rw [hnames] at hlabel
      contradiction
    | some names =>
      rw [hnames] at hlabel
      obtain ⟨x, hrow, hsame⟩ := Table.mem_of_get? hnames
      have hkept : (x, names) ∈ (ofEntries entries).byTemplate.filter fun r =>
          labelOf? r.2 == some label := List.mem_filter.mpr ⟨hrow, beq_iff_eq.mpr hlabel⟩
      exact ⟨x, List.mem_map_of_mem hkept, hsame⟩

/-- The group of a label has the templates whose first name has it. -/
theorem holds_labelled : Distinct.holds ((ofEntries entries).labelled label) t = true ↔
    labelOf? ((ofEntries entries).namesFor t) = some label := by
  have hgroup : (ofEntries entries).labelled label = _ :=
    lookup_tabulateLabels (ofEntries entries).byTemplate label
  have hrows : Distinct.holds (Distinct.ofList (rowsLabelled (ofEntries entries).byTemplate label))
      t = true ↔ labelOf? ((ofEntries entries).namesFor t) = some label := by
    rw [Distinct.holds_ofList, holds_rowsLabelled]
  rw [← hrows, hgroup, Distinct.holds_iff_exists, Distinct.holds_iff_exists]
  simp only [List.mem_mergeSort]

/-- The group of a label has templates as the entries spell them. -/
theorem exists_entry_of_mem_labelled (h : t ∈ (ofEntries entries).labelled label) :
    ∃ e ∈ entries, e.template = t := by
  have hgroup : (ofEntries entries).labelled label = _ :=
    lookup_tabulateLabels (ofEntries entries).byTemplate label
  rw [hgroup, List.mem_mergeSort] at h
  obtain ⟨row, hrow, rfl⟩ := List.mem_map.mp (Distinct.mem_of_mem_ofList h)
  have hkey : row.1 ∈ Table.keys (ofEntries entries).byTemplate :=
    List.mem_map_of_mem (List.mem_filter.mp hrow).1
  rw [keys_byTemplate] at hkey
  obtain ⟨e, he, htemplate⟩ := List.mem_map.mp (Distinct.mem_of_mem_ofList hkey)
  exact ⟨e, (List.mem_filter.mp he).1, htemplate⟩

/-- Templates that have no repeats are sorted strictly by path. -/
theorem pairwise_mergeSort_templates {templates : List Template}
    (h : Distinct.NoRepeat templates) :
    (templates.mergeSort fun a b => (compare a b).isLE).Pairwise fun a b => compare a b = .lt := by
  have hsorted := pairwise_mergeSort_isLE compare templates
  have hdistinct : (templates.mergeSort fun a b => (compare a b).isLE).Pairwise fun a b =>
      identity a ≠ identity b := by
    have hperm := (List.mergeSort_perm templates fun a b => (compare a b).isLE).map identity
    exact List.pairwise_map.mp (hperm.nodup_iff.mpr h)
  refine (hsorted.and hdistinct).imp fun ⟨hle, hne⟩ => ?_
  rcases Ordering.isLE_iff_eq_lt_or_eq_eq.mp hle with hlt | heq
  · exact hlt
  · exact absurd (Template.compare_eq_eq_iff.mp heq) hne

/-- The group of a label is in path order, with each template once. -/
theorem pairwise_labelled (entries : List NamespaceEntry) (label : String) :
    ((ofEntries entries).labelled label).Pairwise fun a b => compare a b = .lt := by
  have hgroup : (ofEntries entries).labelled label = _ :=
    lookup_tabulateLabels (ofEntries entries).byTemplate label
  rw [hgroup]
  exact pairwise_mergeSort_templates (Distinct.noRepeat_ofList _)

/-- A template collides with the others whose first name has the label of its own. -/
theorem holds_labelCollisions : Distinct.holds ((ofEntries entries).labelCollisions t) u = true ↔
    identity t ≠ identity u ∧ ∃ label, labelOf? ((ofEntries entries).namesFor t) = some label ∧
      labelOf? ((ofEntries entries).namesFor u) = some label := by
  rw [labelCollisions]
  cases labelOf? ((ofEntries entries).namesFor t) with
  | none => simp [Distinct.holds]
  | some label =>
    simp only [Option.some.injEq, exists_eq_left', ← holds_labelled]
    rw [Distinct.holds_iff_exists, Distinct.holds_iff_exists]
    constructor
    · rintro ⟨x, hx, hsame⟩
      obtain ⟨hx, hother⟩ := List.mem_filter.mp hx
      rw [Bool.not_eq_true', same_eq_false_iff, hsame] at hother
      exact ⟨Ne.symm hother, x, hx, hsame⟩
    · rintro ⟨hne, x, hx, hsame⟩
      refine ⟨x, List.mem_filter.mpr ⟨hx, ?_⟩, hsame⟩
      rw [Bool.not_eq_true', same_eq_false_iff, hsame]
      exact Ne.symm hne

/-- Collisions are the same seen from either side. -/
theorem labelCollisions_symm : Distinct.holds ((ofEntries entries).labelCollisions t) u =
    Distinct.holds ((ofEntries entries).labelCollisions u) t := by
  rw [Bool.eq_iff_iff, holds_labelCollisions, holds_labelCollisions]
  constructor
  · rintro ⟨hne, label, ht, hu⟩
    exact ⟨hne.symm, label, hu, ht⟩
  · rintro ⟨hne, label, hu, ht⟩
    exact ⟨hne.symm, label, ht, hu⟩

/-- Collisions are listed in path order, each once. -/
theorem pairwise_labelCollisions (entries : List NamespaceEntry) (t : Template) :
    ((ofEntries entries).labelCollisions t).Pairwise fun a b => compare a b = .lt := by
  rw [labelCollisions]
  split
  · exact (pairwise_labelled entries _).sublist List.filter_sublist
  · exact .nil

/-- A template that collides with one other template only lists that one, as the entries spell
it. -/
theorem labelCollisions_eq_singleton
    (h : Distinct.holds ((ofEntries entries).labelCollisions t) u = true)
    (hone : ∀ e ∈ entries, identity e.template ≠ identity t → e.template = u) :
    (ofEntries entries).labelCollisions t = [u] := by
  have hmem {v : Template} (hv : v ∈ (ofEntries entries).labelCollisions t) : v = u := by
    have hne : identity v ≠ identity t :=
      (holds_labelCollisions.mp (Distinct.holds_of_mem hv)).1.symm
    rw [labelCollisions] at hv
    split at hv
    · obtain ⟨e, he, rfl⟩ := exists_entry_of_mem_labelled (List.mem_filter.mp hv).1
      exact hone e he hne
    · contradiction
  obtain ⟨v, hv, -⟩ := Distinct.holds_iff_exists.mp h
  obtain rfl := hmem hv
  apply (pairwise_labelCollisions entries t).eq_of_mem_iff (List.pairwise_singleton _ v)
  intro w
  rw [List.mem_singleton]
  exact ⟨hmem, fun hw => hw ▸ hv⟩

end TwigRelations.Namespace
