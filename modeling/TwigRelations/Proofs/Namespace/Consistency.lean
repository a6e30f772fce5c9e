import TwigRelations.Proofs.Namespace.Arrangement
import TwigRelations.Proofs.Namespace.Collisions

/-!
# The tables of a namespace agree

A namespace keeps three tables that are filled one after the other. What each of them lists is told
here from the entries alone, and from that the tables agree: a name lists the templates that list
it, and templates collide exactly if they are shown under one label.
-/

namespace TwigRelations.Namespace

variable {entries : List NamespaceEntry} {ns : Namespace} {t u v : Template} {n : LogicalName}

/-- The templates that entries register under a name that is not blank, as they come. -/
def registered (entries : List NamespaceEntry) (n : LogicalName) : List Template :=
  ((entries.filter (!·.name.isEmpty)).filter fun e => same n e.name).map (·.template)

/-- The templates of a name are those registered under it, each once and in the order in which they
came first. -/
theorem templates_ofEntries (entries : List NamespaceEntry) (n : LogicalName) :
    (ofEntries entries).templates n = Distinct.ofList (registered entries n) := by
  have hlisted := Table.listed_foldl_insert NamespaceEntry.name NamespaceEntry.template
    (entries.filter (!·.name.isEmpty)) [] n
  exact hlisted

/-- A template is registered under a name exactly if an entry that counts says so. -/
theorem holds_registered : Distinct.holds (registered entries n) t = true ↔
    ∃ e ∈ entries, e.name.isEmpty = false ∧ identity e.name = identity n ∧
      identity e.template = identity t := by
  rw [Distinct.holds_iff_exists, registered]
  constructor
  · rintro ⟨_, ht, htemplate⟩
    obtain ⟨e, he, rfl⟩ := List.mem_map.mp ht
    rw [List.mem_filter, List.mem_filter, same_iff, Bool.not_eq_true'] at he
    exact ⟨e, he.1.1, he.1.2, he.2.symm, htemplate⟩
  · rintro ⟨e, he, hblank, hname, htemplate⟩
    refine ⟨e.template, List.mem_map_of_mem ?_, htemplate⟩
    rw [List.mem_filter, List.mem_filter, same_iff, Bool.not_eq_true']
    exact ⟨⟨he, hblank⟩, hname.symm⟩

/-- The templates of a name are those of the entries with that name, unless it is blank. -/
theorem holds_templates : Distinct.holds ((ofEntries entries).templates n) t = true ↔
    ∃ e ∈ entries, e.name.isEmpty = false ∧ identity e.name = identity n ∧
      identity e.template = identity t := by
  rw [templates_ofEntries, Distinct.holds_ofList, holds_registered]

/-- A name lists a template exactly if the template lists the name. -/
theorem holds_templates_eq_holds_namesFor :
    Distinct.holds ((ofEntries entries).templates n) t =
      Distinct.holds ((ofEntries entries).namesFor t) n := by
  rw [Bool.eq_iff_iff, holds_templates, holds_namesFor]
  constructor
  · rintro ⟨e, he, hblank, hname, htemplate⟩
    exact ⟨e, he, hblank, htemplate, hname⟩
  · rintro ⟨e, he, hblank, htemplate, hname⟩
    exact ⟨e, he, hblank, hname, htemplate⟩

/-- Two templates are one file or collide. -/
def SharesLabel (ns : Namespace) (t u : Template) : Prop :=
  identity t = identity u ∨ Distinct.holds (ns.labelCollisions t) u = true

/-- Templates that have names share a label exactly if their first names fold to one label. -/
theorem sharesLabel_iff (ht : (ofEntries entries).namesFor t ≠ []) :
    SharesLabel (ofEntries entries) t u ↔
      labelOf? ((ofEntries entries).namesFor t) = labelOf? ((ofEntries entries).namesFor u) := by
  obtain ⟨label, hlabel⟩ : ∃ label, labelOf? ((ofEntries entries).namesFor t) = some label := by
    cases hnames : (ofEntries entries).namesFor t with
    | nil => exact absurd hnames ht
    | cons first rest => exact ⟨_, rfl⟩
  rw [SharesLabel, holds_labelCollisions]
  constructor
  · rintro (hsame | ⟨-, shared, ht, hu⟩)
    · rw [namesFor_congr hsame]
    · rw [ht, hu]
  · intro hshared
    by_cases hsame : identity t = identity u
    · exact .inl hsame
    · exact .inr ⟨hsame, label, hlabel, hshared ▸ hlabel⟩

/-- What the tables of a namespace say of its entries and of each other. -/
structure Consistent (entries : List NamespaceEntry) (ns : Namespace) : Prop where
  /-- A name lists the templates registered under it in the order in which they came first. -/
  templates_eq (n : LogicalName) : ns.templates n = Distinct.ofList (registered entries n)
  /-- A name lists no template twice. -/
  noRepeat_templates (n : LogicalName) : Distinct.NoRepeat (ns.templates n)
  /-- A name lists exactly the templates of entries with that name that is not blank. -/
  templates_iff (n : LogicalName) (t : Template) :
    Distinct.holds (ns.templates n) t = true ↔ ∃ e ∈ entries, e.name.isEmpty = false ∧
      identity e.name = identity n ∧ identity e.template = identity t
  /-- A template lists exactly the names of its entries that are not blank. -/
  names_iff (t : Template) (n : LogicalName) :
    Distinct.holds (ns.namesFor t) n = true ↔ ∃ e ∈ entries, e.name.isEmpty = false ∧
      identity e.template = identity t ∧ identity e.name = identity n
  /-- Each name of a template is listed in the least of the spellings that its entries have, by
  characters and so by bytes, since UTF-8 keeps the order of characters. -/
  spelling_iff (t : Template) (n : LogicalName) :
    n ∈ ns.namesFor t ↔ n ∈ given entries t ∧
      ∀ m ∈ given entries t, identity m = identity n → (compare n.raw m.raw).isLE = true
  /-- Names are listed bundle style first, each part strictly increasing by key. -/
  pairwise_names (t : Template) : (ns.namesFor t).Pairwise LogicalName.ShownBefore
  /-- A name lists a template exactly if the template lists the name. -/
  agree (n : LogicalName) (t : Template) :
    Distinct.holds (ns.templates n) t = Distinct.holds (ns.namesFor t) n
  /-- No template collides with itself. -/
  collisions_irrefl (t : Template) : Distinct.holds (ns.labelCollisions t) t = false
  /-- Of two templates each collides with the other or neither does. -/
  collisions_symm (t u : Template) :
    Distinct.holds (ns.labelCollisions t) u = Distinct.holds (ns.labelCollisions u) t
  /-- Collisions are listed in path order, each once. -/
  pairwise_collisions (t : Template) :
    (ns.labelCollisions t).Pairwise fun u v => compare u v = .lt
  /-- Only templates that have names collide. -/
  named_of_collides (t u : Template) (h : Distinct.holds (ns.labelCollisions t) u = true) :
    ns.namesFor t ≠ [] ∧ ns.namesFor u ≠ []
  /-- Collisions, together with equality, split the templates that have names into classes. -/
  classes : Equivalence fun t u : { t : Template // ns.namesFor t ≠ [] } => SharesLabel ns t u
  /-- The first names of a class have one label, and no other class has it. -/
  sharesLabel_iff_labelOf? (t u : { t : Template // ns.namesFor t ≠ [] }) :
    SharesLabel ns t u ↔ labelOf? (ns.namesFor t) = labelOf? (ns.namesFor u)

/-- Only a template with names has a label among its names. -/
theorem namesFor_ne_nil_of_labelOf? {names : List LogicalName} {label : String}
    (h : labelOf? names = some label) : names ≠ [] := by
  rintro rfl
  contradiction

/-- The namespace of a list of entries is consistent, whatever the entries repeat, respell or leave
blank. -/
theorem consistent_ofEntries (entries : List NamespaceEntry) :
    Consistent entries (ofEntries entries) where
  templates_eq := templates_ofEntries entries
  noRepeat_templates n := by
    rw [templates_ofEntries]
    exact Distinct.noRepeat_ofList _
  templates_iff n t := holds_templates
  names_iff := holds_namesFor entries
  spelling_iff t n := by rw [namesFor_ofEntries, mem_arrangeNames_iff]
  pairwise_names t := by
    rw [namesFor_ofEntries]
    exact pairwise_arrangeNames _
  agree n t := holds_templates_eq_holds_namesFor
  collisions_irrefl t := by
    rw [Bool.eq_false_iff, ne_eq, holds_labelCollisions]
    rintro ⟨hne, -⟩
    exact hne rfl
  collisions_symm t u := labelCollisions_symm
  pairwise_collisions := pairwise_labelCollisions entries
  named_of_collides t u h := by
    obtain ⟨-, label, ht, hu⟩ := holds_labelCollisions.mp h
    exact ⟨namesFor_ne_nil_of_labelOf? ht, namesFor_ne_nil_of_labelOf? hu⟩
  classes := by
    refine ⟨fun t => .inl rfl, fun {t u} h => ?_, fun {t u v} h h' => ?_⟩
    · rw [sharesLabel_iff t.2] at h
      rw [sharesLabel_iff u.2]
      exact h.symm
    · rw [sharesLabel_iff t.2] at h ⊢
      rw [sharesLabel_iff u.2] at h'
      exact h.trans h'
  sharesLabel_iff_labelOf? t u := sharesLabel_iff t.2

end TwigRelations.Namespace
