import Mathlib.Logic.Basic
import TwigRelations.Corpus
import TwigRelations.Proofs.Knowledge
import TwigRelations.Proofs.Namespace

/-!
# The tables of a corpus

What a corpus lists for a name, and which record it keeps for a template, told by the records of its
snapshot.
-/

namespace TwigRelations

/-- No two records of a snapshot have one path. -/
def Snapshot.HasDistinctPaths (s : Snapshot) : Prop :=
  Distinct.NoRepeat (s.templates.map (·.template))

/-- A reference that names a template is of the kind that was written, and its name is not blank. -/
theorem Inclusion.construct?_eq_some {i : Inclusion} {k : Construct} (h : i.construct? = some k) :
    k.kind = i.kind ∧ k.target.isEmpty = false := by
  obtain ⟨target, -, hk⟩ := Option.bind_eq_some_iff.mp h
  split at hk
  · contradiction
  · rename_i hblank
    obtain rfl := Option.some.inj hk
    exact ⟨rfl, Bool.eq_false_iff.mpr hblank⟩

namespace Corpus

variable {c : Corpus} {s : Snapshot} {r : TemplateRecord} {records : List TemplateRecord}
  {n : LogicalName} {t : Template}

/-- What each record adds to a list of a corpus, all records add one after the other. -/
theorem foldl_addRecord (listed : Corpus → List Template) {adds : TemplateRecord → List Template}
    (h : ∀ c r, listed (c.addRecord r) = Distinct.union (listed c) (adds r))
    (records : List TemplateRecord) (c : Corpus) :
    listed (records.foldl addRecord c) = Distinct.union (listed c) (records.flatMap adds) := by
  induction records generalizing c with
  | nil => rfl
  | cons r records ih => rw [List.foldl_cons, ih, h, List.flatMap_cons, Distinct.union_append]

/-- A record is listed under a name once for each of some names that equal it. -/
def listedAs (names : TemplateRecord → List LogicalName) (n : LogicalName) (r : TemplateRecord) :
    List Template :=
  ((names r).filter (same n ·)).map fun _ => r.template

/-- The names under which a record is registered. -/
def registeredNames (r : TemplateRecord) : List LogicalName := r.names.filter (!·.isEmpty)

/-- The names that a record refers to. -/
def targetNames (r : TemplateRecord) : List LogicalName := r.constructs.map (·.target)

/-- A record is added behind the templates of each of its names. -/
theorem templatesNamed_addRecord (c : Corpus) (r : TemplateRecord) :
    (c.addRecord r).templatesNamed n =
      Distinct.union (c.templatesNamed n) (listedAs registeredNames n r) := by
  have hlisted := Table.listed_foldl_insert id (fun _ : LogicalName => r.template)
    (registeredNames r) c.byName n
  exact hlisted

/-- A record is added behind the templates that refer to each of its targets. -/
theorem referencing_addRecord (c : Corpus) (r : TemplateRecord) :
    (c.addRecord r).referencing n =
      Distinct.union (c.referencing n) (listedAs targetNames n r) := by
  have hlisted := Table.listed_foldl_insert id (fun _ : LogicalName => r.template)
    (targetNames r) c.byTarget n
  exact hlisted

/-- The templates of a name are told by its key. -/
theorem templatesNamed_congr {m : LogicalName} (h : identity m = identity n) (c : Corpus) :
    c.templatesNamed m = c.templatesNamed n := by
  rw [templatesNamed, Table.get?_congr h, templatesNamed]

/-- A corpus lists for a name the templates whose records have it, also those of records that were
replaced, each once and in the order of the records. -/
theorem templatesNamed_ofSnapshot (s : Snapshot) (n : LogicalName) :
    (ofSnapshot s).templatesNamed n =
      Distinct.ofList (s.templates.flatMap (listedAs registeredNames n)) :=
  foldl_addRecord (·.templatesNamed n) templatesNamed_addRecord s.templates _

/-- A corpus lists for a name the templates whose records refer to it, also those of records that
were replaced, each once and in the order of the records. -/
theorem referencing_ofSnapshot (s : Snapshot) (n : LogicalName) :
    (ofSnapshot s).referencing n =
      Distinct.ofList (s.templates.flatMap (listedAs targetNames n)) :=
  foldl_addRecord (·.referencing n) referencing_addRecord s.templates _

/-- A record is listed for its own path and under the keys of its names only. -/
theorem holds_listedAs {names : TemplateRecord → List LogicalName} :
    Distinct.holds (listedAs names n r) t = true ↔
      ∃ m ∈ names r, identity m = identity n ∧ identity r.template = identity t := by
  rw [listedAs, Distinct.holds_iff_exists]
  constructor
  · rintro ⟨_, hu, htemplate⟩
    obtain ⟨m, hm, rfl⟩ := List.mem_map.mp hu
    obtain ⟨hm, hkey⟩ := List.mem_filter.mp hm
    exact ⟨m, hm, (same_iff.mp hkey).symm, htemplate⟩
  · rintro ⟨m, hm, hkey, htemplate⟩
    have hkept : m ∈ (names r).filter (same n ·) :=
      List.mem_filter.mpr ⟨hm, same_iff.mpr hkey.symm⟩
    exact ⟨r.template, List.mem_map.mpr ⟨m, hkept, rfl⟩, htemplate⟩

/-- A corpus lists for a name the templates whose records have it, also those of records that were
replaced. -/
theorem holds_templatesNamed :
    Distinct.holds ((ofSnapshot s).templatesNamed n) t = true ↔
      ∃ r ∈ s.templates, ∃ m ∈ r.names, m.isEmpty = false ∧ identity m = identity n ∧
        identity r.template = identity t := by
  rw [templatesNamed_ofSnapshot, Distinct.holds_ofList, Distinct.holds_flatMap]
  simp only [holds_listedAs, registeredNames, List.mem_filter, Bool.not_eq_true', and_assoc]

/-- A corpus lists for a name the templates whose records refer to it, also those of records that
were replaced. -/
theorem holds_referencing :
    Distinct.holds ((ofSnapshot s).referencing n) t = true ↔
      ∃ r ∈ s.templates, ∃ k ∈ r.constructs, identity k.target = identity n ∧
        identity r.template = identity t := by
  rw [referencing_ofSnapshot, Distinct.holds_ofList, Distinct.holds_flatMap]
  simp only [holds_listedAs, targetNames, List.mem_map, exists_exists_and_eq_and]

/-- Records with new paths are kept in order. -/
theorem records_foldl (records : List TemplateRecord) (c : Corpus)
    (h : Distinct.NoRepeat (Table.keys c.records ++ records.map (·.template))) :
    (records.foldl addRecord c).records = c.records ++ records.map fun r => (r.template, r) := by
  induction records generalizing c with
  | nil => simp
  | cons r records ih =>
    have hnew : Distinct.holds (Table.keys c.records) r.template = false := by
      rw [Bool.eq_false_iff, ne_eq, Distinct.holds_iff]
      rw [Distinct.NoRepeat, List.map_append, List.nodup_append] at h
      exact fun hold => h.2.2 _ hold _ (by simp) rfl
    have hrecords : (c.addRecord r).records = c.records ++ [(r.template, r)] :=
      Table.put_of_new hnew r
    rw [List.foldl_cons, ih, hrecords, List.append_assoc]
    · rfl
    · rw [hrecords]
      simpa [Table.keys] using h

/-- Where no path is recorded twice, the records of a corpus are those of its snapshot. -/
theorem records_ofSnapshot (hs : s.HasDistinctPaths) :
    (ofSnapshot s).records = s.templates.map fun r => (r.template, r) :=
  records_foldl s.templates ⟨[], [], [], s.controllers, false⟩ hs

/-- The record of a template is the one with its path, where no two records have one path. -/
theorem record?_eq_some_iff (hs : s.HasDistinctPaths) :
    (ofSnapshot s).record? t = some r ↔ r ∈ s.templates ∧ identity r.template = identity t := by
  rw [record?, records_ofSnapshot hs]
  constructor
  · intro h
    obtain ⟨u, hu, hut⟩ := Table.mem_of_get? h
    obtain ⟨r', hr', he⟩ := List.mem_map.mp hu
    obtain ⟨rfl, rfl⟩ := Prod.mk.inj he
    exact ⟨hr', hut⟩
  · rintro ⟨hr, hrt⟩
    refine Table.get?_of_mem ?_ (List.mem_map_of_mem hr) hrt
    rw [Table.keys, List.map_map]
    exact hs

/-- The entries of a corpus are the names of its records. -/
theorem mem_entries (hs : s.HasDistinctPaths) {e : NamespaceEntry} :
    e ∈ (ofSnapshot s).entries ↔ ∃ r ∈ s.templates, e.template = r.template ∧ e.name ∈ r.names := by
  rw [entries, records_ofSnapshot hs, List.mem_flatMap]
  constructor
  · rintro ⟨row, hrow, he⟩
    obtain ⟨r, hr, rfl⟩ := List.mem_map.mp hrow
    obtain ⟨name, hname, rfl⟩ := List.mem_map.mp he
    exact ⟨r, hr, rfl, hname⟩
  · rintro ⟨r, hr, htemplate, hname⟩
    refine ⟨(r.template, r), List.mem_map_of_mem hr, List.mem_map.mpr ⟨e.name, hname, ?_⟩⟩
    rw [← htemplate]

theorem record?_congr {u : Template} (h : identity t = identity u) (c : Corpus) :
    c.record? t = c.record? u := Table.get?_congr h c.records

theorem mem_inclusionsIn {i : Inclusion} :
    i ∈ c.inclusionsIn t ↔ ∃ r, c.record? t = some r ∧ i ∈ r.inclusions := by
  rw [inclusionsIn]
  cases c.record? t <;> simp

/-- The parents of a template are registered under the targets of its recorded extensions. -/
theorem holds_parents_iff_recorded {u : Template} :
    Distinct.holds ((ofSnapshot s).parents t) u = true ↔
      ∃ r, (ofSnapshot s).record? t = some r ∧ ∃ k ∈ r.constructs, k.kind = .inherit ∧
        ∃ r' ∈ s.templates, identity r'.template = identity u ∧ ∃ n ∈ r'.names,
          identity n = identity k.target := by
  rw [parents, Distinct.holds_flatMap]
  constructor
  · rintro ⟨k, hk, hnamed⟩
    obtain ⟨i, hi, hik⟩ := List.mem_filterMap.mp hk
    obtain ⟨hi, hkind⟩ := List.mem_filter.mp hi
    obtain ⟨r, hrecord, hi⟩ := mem_inclusionsIn.mp hi
    obtain ⟨r', hr', n, hn, -, hkey, hru⟩ := holds_templatesNamed.mp hnamed
    have hinherit : k.kind = .inherit :=
      (Inclusion.construct?_eq_some hik).1.trans (eq_of_beq hkind)
    exact ⟨r, hrecord, k, List.mem_filterMap.mpr ⟨i, hi, hik⟩, hinherit, r', hr', hru, n, hn, hkey⟩
  · rintro ⟨r, hrecord, k, hk, hinherit, r', hr', hru, n, hn, hkey⟩
    obtain ⟨i, hi, hik⟩ := List.mem_filterMap.mp hk
    obtain ⟨hkind, hblank⟩ := Inclusion.construct?_eq_some hik
    have hi : i ∈ ((ofSnapshot s).inclusionsIn t).filter (·.kind == .inherit) :=
      List.mem_filter.mpr ⟨mem_inclusionsIn.mpr ⟨r, hrecord, hi⟩,
        beq_iff_eq.mpr (hkind.symm.trans hinherit)⟩
    refine ⟨k, List.mem_filterMap.mpr ⟨i, hi, hik⟩, holds_templatesNamed.mpr ?_⟩
    exact ⟨r', hr', n, hn, (LogicalName.isEmpty_congr hkey).trans hblank, hkey, hru⟩

/-- Whether a corpus serves a name for a template among its entries. -/
def Enters (c : Corpus) (n : LogicalName) (t : Template) : Prop :=
  ∃ e ∈ c.entries, identity e.name = identity n ∧ identity e.template = identity t

/-- The names of a template are, up to spelling, those served for it that are not blank. -/
theorem holds_namesFor_iff_enters : Distinct.holds (Knowledge.namesFor c.answer t) n = true ↔
    n.isEmpty = false ∧ c.Enters n t := by
  rw [Knowledge.namesFor, Knowledge.toNamespace, Namespace.holds_namesFor]
  constructor
  · rintro ⟨e, he, hblank, htemplate, hkey⟩
    exact ⟨LogicalName.isEmpty_congr hkey ▸ hblank, e, he, hkey, htemplate⟩
  · rintro ⟨hblank, e, he, hkey, htemplate⟩
    exact ⟨e, he, (LogicalName.isEmpty_congr hkey).trans hblank, htemplate, hkey⟩

/-- The names of a template are, up to spelling, those of its record that are not blank. -/
theorem holds_namesFor (hs : s.HasDistinctPaths) :
    Distinct.holds (Knowledge.namesFor (ofSnapshot s).answer t) n = true ↔
      n.isEmpty = false ∧ ∃ r ∈ s.templates, identity r.template = identity t ∧
        ∃ m ∈ r.names, identity m = identity n := by
  rw [holds_namesFor_iff_enters]
  constructor
  · rintro ⟨hblank, e, he, hkey, htemplate⟩
    obtain ⟨r, hr, hrt, hname⟩ := (mem_entries hs).mp he
    exact ⟨hblank, r, hr, hrt ▸ htemplate, e.name, hname, hkey⟩
  · rintro ⟨hblank, r, hr, htemplate, m, hm, hkey⟩
    have he : ⟨m, r.template⟩ ∈ (ofSnapshot s).entries := (mem_entries hs).mpr ⟨r, hr, rfl, hm⟩
    exact ⟨hblank, _, he, hkey, htemplate⟩

/-- The actions of some controllers are held by their ids. -/
theorem holds_map_action {controllers : List ControllerRecord} {p : ControllerRecord → Bool}
    {a : Action} : Distinct.holds ((controllers.filter p).map (·.action)) a = true ↔
      ∃ k ∈ controllers, identity k.action = identity a ∧ p k = true := by
  rw [Distinct.holds_iff_exists]
  constructor
  · rintro ⟨_, hmem, hid⟩
    obtain ⟨k, hk, rfl⟩ := List.mem_map.mp hmem
    obtain ⟨hk, hp⟩ := List.mem_filter.mp hk
    exact ⟨k, hk, hid, hp⟩
  · rintro ⟨k, hk, hid, hp⟩
    exact ⟨k.action, List.mem_map_of_mem (List.mem_filter.mpr ⟨hk, hp⟩), hid⟩

/-- The blocks of a template belong to it. -/
theorem template_of_mem_blocksIn {b : Block} (hb : b ∈ c.blocksIn t) : b.template = t := by
  rw [blocksIn] at hb
  cases hr : c.record? t with
  | none => simp [hr] at hb
  | some r =>
    rw [hr] at hb
    obtain ⟨block, -, rfl⟩ := List.mem_map.mp hb
    rfl

/-- A template has the same blocks however its path is spelled. -/
theorem mem_blocksIn_of_same {u : Template} (h : identity t = identity u) {b : Block}
    (hb : b ∈ c.blocksIn t) : { b with template := u } ∈ c.blocksIn u := by
  rw [blocksIn] at hb ⊢
  rw [← record?_congr h c]
  cases hr : c.record? t with
  | none => simp [hr] at hb
  | some r =>
    rw [hr] at hb
    obtain ⟨block, hblock, rfl⟩ := List.mem_map.mp hb
    exact List.mem_map.mpr ⟨block, hblock, rfl⟩

end Corpus

end TwigRelations
