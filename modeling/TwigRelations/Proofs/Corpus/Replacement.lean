import TwigRelations.Proofs.Corpus.Tables
import TwigRelations.Proofs.Corpus.Undisturbed

/-!
# Records that are replaced

A later record with the path of an earlier one takes its place in what a corpus serves, while the
names and references of the earlier one stay in its tables. The tables list no template twice and
miss nothing that is served; they list nothing else exactly if no record is replaced by one that
lacks a name or a reference of it.
-/

namespace TwigRelations

namespace Snapshot

variable (s : Snapshot)

/-- The record that counts for a template: the last one with its path. -/
def lastRecord? (t : Template) : Option TemplateRecord :=
  s.templates.reverse.find? fun r => same t r.template

/-- No record is replaced by one that lacks a name of it. -/
def KeepsNames : Prop :=
  ∀ r ∈ s.templates, ∀ n ∈ r.names, n.isEmpty = false →
    ∃ last, s.lastRecord? r.template = some last ∧ Distinct.holds last.names n = true

/-- No record is replaced by one that lacks a reference of it. -/
def KeepsReferences : Prop :=
  ∀ r ∈ s.templates, ∀ k ∈ r.constructs,
    ∃ last, s.lastRecord? r.template = some last ∧
      Distinct.holds (last.constructs.map (·.target)) k.target = true

variable {s} {r : TemplateRecord} {t : Template}

theorem mem_of_lastRecord? (h : s.lastRecord? t = some r) :
    r ∈ s.templates ∧ identity r.template = identity t :=
  ⟨List.mem_reverse.mp (List.mem_of_find?_eq_some h),
    (same_iff.mp (List.find?_some (p := fun r : TemplateRecord => same t r.template) h)).symm⟩

theorem lastRecord?_congr {u : Template} (h : identity t = identity u) :
    s.lastRecord? t = s.lastRecord? u := by
  simp only [lastRecord?, same, h]

end Snapshot

namespace Corpus

variable {c : Corpus} {s : Snapshot} {r : TemplateRecord} {n : LogicalName} {t : Template}

/-- Whether a corpus serves a well-formed reference to a name in a template. -/
def RefersIn (c : Corpus) (n : LogicalName) (t : Template) : Prop :=
  ∃ i ∈ c.inclusionsIn t, ∃ k, i.construct? = some k ∧ identity k.target = identity n

/-- Adding a record replaces the one of its path and no other. -/
theorem record?_addRecord (c : Corpus) (r : TemplateRecord) (t : Template) :
    (c.addRecord r).record? t = if same t r.template then some r else c.record? t := by
  by_cases h : identity t = identity r.template
  · rw [if_pos (same_iff.mpr h)]
    exact Table.get?_alter_self _ h c.records
  · rw [if_neg (mt same_iff.mp h)]
    exact Table.get?_alter_of_ne _ h c.records

/-- The last record of a template counts. -/
theorem record?_ofSnapshot (s : Snapshot) (t : Template) :
    (ofSnapshot s).record? t = s.lastRecord? t := by
  have hfold (records : List TemplateRecord) (c : Corpus) :
      (records.foldl addRecord c).record? t =
        (records.reverse.find? fun r => same t r.template).or (c.record? t) := by
    induction records generalizing c with
    | nil => rfl
    | cons r records ih =>
      rw [List.foldl_cons, ih, record?_addRecord, List.reverse_cons, List.find?_append,
        Option.or_assoc]
      cases h : same t r.template <;> simp [h]
  rw [ofSnapshot, hfold]
  exact Option.or_none

/-- Where no two records have one path, each record counts for its template. -/
theorem lastRecord?_of_mem (hs : s.HasDistinctPaths) (hr : r ∈ s.templates) :
    s.lastRecord? r.template = some r := by
  rw [← record?_ofSnapshot]
  exact (record?_eq_some_iff hs).mpr ⟨hr, rfl⟩

/-- Where no two records have one path, no record is replaced. -/
theorem keeps_of_hasDistinctPaths (hs : s.HasDistinctPaths) : s.KeepsNames ∧ s.KeepsReferences :=
  ⟨fun r hr _ hn _ => ⟨r, lastRecord?_of_mem hs hr, Distinct.holds_of_mem hn⟩,
    fun r hr _ hk => ⟨r, lastRecord?_of_mem hs hr, Distinct.holds_of_mem (List.mem_map_of_mem hk)⟩⟩

/-- A corpus has one record for each template. -/
theorem noRepeat_records (s : Snapshot) :
    Distinct.NoRepeat (Table.keys (ofSnapshot s).records) := by
  have hfold (records : List TemplateRecord) (c : Corpus)
      (h : Distinct.NoRepeat (Table.keys c.records)) :
      Distinct.NoRepeat (Table.keys (records.foldl addRecord c).records) := by
    induction records generalizing c with
    | nil => exact h
    | cons r records ih =>
      refine ih _ ?_
      change Distinct.NoRepeat (Table.keys (Table.alter _ _ _))
      rw [Table.keys_alter]
      exact Distinct.noRepeat_insert h _
  exact hfold _ _ List.nodup_nil

/-- What is served as the names of a template are those of its last record. -/
theorem enters_iff : (ofSnapshot s).Enters n t ↔
    ∃ last, s.lastRecord? t = some last ∧ Distinct.holds last.names n = true := by
  rw [← record?_ofSnapshot]
  constructor
  · rintro ⟨e, he, hname, htemplate⟩
    obtain ⟨⟨u, r⟩, hrow, he⟩ := List.mem_flatMap.mp he
    obtain ⟨m, hm, rfl⟩ := List.mem_map.mp he
    exact ⟨r, Table.get?_of_mem (noRepeat_records s) hrow htemplate,
      Distinct.holds_iff_exists.mpr ⟨m, hm, hname⟩⟩
  · rintro ⟨last, hlast, hn⟩
    obtain ⟨u, hrow, hu⟩ := Table.mem_of_get? hlast
    obtain ⟨m, hm, hname⟩ := Distinct.holds_iff_exists.mp hn
    exact ⟨⟨m, u⟩, List.mem_flatMap.mpr ⟨(u, last), hrow, List.mem_map_of_mem hm⟩, hname, hu⟩

/-- What is served as the references of a template are those of its last record. -/
theorem refersIn_iff : (ofSnapshot s).RefersIn n t ↔
    ∃ last, s.lastRecord? t = some last ∧
      Distinct.holds (last.constructs.map (·.target)) n = true := by
  rw [← record?_ofSnapshot]
  constructor
  · rintro ⟨i, hi, k, hik, hname⟩
    obtain ⟨last, hlast, hi⟩ := mem_inclusionsIn.mp hi
    have hk : k ∈ last.constructs := List.mem_filterMap.mpr ⟨i, hi, hik⟩
    exact ⟨last, hlast, Distinct.holds_iff_exists.mpr ⟨_, List.mem_map_of_mem hk, hname⟩⟩
  · rintro ⟨last, hlast, hn⟩
    obtain ⟨m, hm, hname⟩ := Distinct.holds_iff_exists.mp hn
    obtain ⟨k, hk, rfl⟩ := List.mem_map.mp hm
    obtain ⟨i, hi, hik⟩ := List.mem_filterMap.mp hk
    exact ⟨i, mem_inclusionsIn.mpr ⟨last, hlast, hi⟩, k, hik, hname⟩

/-- The name tables and reference tables agree with what is served. -/
def TablesAgree (c : Corpus) : Prop :=
  ∀ n t, n.isEmpty = false →
    (Distinct.holds (c.templatesNamed n) t = true ↔ c.Enters n t) ∧
      (Distinct.holds (c.referencing n) t = true ↔ c.RefersIn n t)

/-- A name that is served is in the tables. -/
theorem holds_templatesNamed_of_enters (hn : n.isEmpty = false)
    (h : (ofSnapshot s).Enters n t) :
    Distinct.holds ((ofSnapshot s).templatesNamed n) t = true := by
  obtain ⟨last, hlast, hname⟩ := enters_iff.mp h
  obtain ⟨hmem, htemplate⟩ := Snapshot.mem_of_lastRecord? hlast
  obtain ⟨m, hm, hkey⟩ := Distinct.holds_iff_exists.mp hname
  exact holds_templatesNamed.mpr
    ⟨last, hmem, m, hm, (LogicalName.isEmpty_congr hkey).trans hn, hkey, htemplate⟩

/-- A reference that is served is in the tables. -/
theorem holds_referencing_of_refersIn (h : (ofSnapshot s).RefersIn n t) :
    Distinct.holds ((ofSnapshot s).referencing n) t = true := by
  obtain ⟨last, hlast, hname⟩ := refersIn_iff.mp h
  obtain ⟨hmem, htemplate⟩ := Snapshot.mem_of_lastRecord? hlast
  obtain ⟨m, hm, hkey⟩ := Distinct.holds_iff_exists.mp hname
  obtain ⟨k, hk, rfl⟩ := List.mem_map.mp hm
  exact holds_referencing.mpr ⟨last, hmem, k, hk, hkey, htemplate⟩

/-- Where no replaced record takes a name with it, a name leads only to templates that have it. -/
theorem enters_of_keepsNames (hs : s.KeepsNames)
    (h : Distinct.holds ((ofSnapshot s).templatesNamed n) t = true) :
    (ofSnapshot s).Enters n t := by
  obtain ⟨r, hr, m, hm, hblank, hkey, htemplate⟩ := holds_templatesNamed.mp h
  obtain ⟨last, hlast, hname⟩ := hs r hr m hm hblank
  rw [Snapshot.lastRecord?_congr htemplate] at hlast
  rw [Distinct.holds_congr hkey] at hname
  exact enters_iff.mpr ⟨last, hlast, hname⟩

/-- Where no replaced record takes a reference with it, only templates with a reference to a name
are said to have one. -/
theorem refersIn_of_keepsReferences (hs : s.KeepsReferences)
    (h : Distinct.holds ((ofSnapshot s).referencing n) t = true) :
    (ofSnapshot s).RefersIn n t := by
  obtain ⟨r, hr, k, hk, hkey, htemplate⟩ := holds_referencing.mp h
  obtain ⟨last, hlast, hname⟩ := hs r hr k hk
  rw [Snapshot.lastRecord?_congr htemplate] at hlast
  rw [Distinct.holds_congr hkey] at hname
  exact refersIn_iff.mpr ⟨last, hlast, hname⟩

/-- Where the tables agree with what is served, no record was replaced by one that lacks a name or a
reference of it. -/
theorem TablesAgree.keeps (h : (ofSnapshot s).TablesAgree) :
    s.KeepsNames ∧ s.KeepsReferences := by
  constructor
  · intro r hr n hn hblank
    have hlisted : Distinct.holds ((ofSnapshot s).templatesNamed n) r.template = true :=
      holds_templatesNamed.mpr ⟨r, hr, n, hn, hblank, rfl, rfl⟩
    exact enters_iff.mp ((h n r.template hblank).1.mp hlisted)
  · intro r hr k hk
    obtain ⟨i, -, hik⟩ := List.mem_filterMap.mp hk
    have hlisted : Distinct.holds ((ofSnapshot s).referencing k.target) r.template = true :=
      holds_referencing.mpr ⟨r, hr, k, hk, rfl, rfl⟩
    have hblank := (Inclusion.construct?_eq_some hik).2
    exact refersIn_iff.mp ((h k.target r.template hblank).2.mp hlisted)

/-- No list of a table has a template twice. -/
theorem noRepeat_tables (s : Snapshot) (n : LogicalName) :
    Distinct.NoRepeat ((ofSnapshot s).templatesNamed n) ∧
      Distinct.NoRepeat ((ofSnapshot s).referencing n) := by
  rw [templatesNamed_ofSnapshot, referencing_ofSnapshot]
  exact ⟨Distinct.noRepeat_ofList _, Distinct.noRepeat_ofList _⟩

/-- Whatever the records of a snapshot, its tables list no template twice and leave out nothing that
is served. They agree with what is served exactly if no record is replaced by one that lacks a name
or a reference of it. -/
theorem tablesAgree_iff (s : Snapshot) :
    ((ofSnapshot s).TablesAgree ↔ s.KeepsNames ∧ s.KeepsReferences) ∧
      (∀ n, Distinct.NoRepeat ((ofSnapshot s).templatesNamed n) ∧
        Distinct.NoRepeat ((ofSnapshot s).referencing n)) ∧
      ∀ n t, n.isEmpty = false →
        ((ofSnapshot s).Enters n t → Distinct.holds ((ofSnapshot s).templatesNamed n) t = true) ∧
          ((ofSnapshot s).RefersIn n t →
            Distinct.holds ((ofSnapshot s).referencing n) t = true) := by
  refine ⟨⟨TablesAgree.keeps, fun ⟨hnames, hreferences⟩ => ?_⟩, noRepeat_tables s, ?_⟩
  · intro n t hn
    exact ⟨⟨enters_of_keepsNames hnames, holds_templatesNamed_of_enters hn⟩,
      refersIn_of_keepsReferences hreferences, holds_referencing_of_refersIn⟩
  · intro n t hn
    exact ⟨holds_templatesNamed_of_enters hn, holds_referencing_of_refersIn⟩

end Corpus

/-- A draft that includes a base and is replaced by a page without references. -/
def Snapshot.pageReplaced : Snapshot where
  templates := [
    { path := .ofString "page.twig"
      names := [.ofString "draft"]
      inclusions := [⟨.include, some "base", .zero⟩]
      blocks := [] },
    { path := .ofString "page.twig"
      names := [.ofString "page"]
      inclusions := []
      blocks := [] }]
  controllers := []

namespace Corpus

/-- A page stays registered under the name of the draft that it replaced, and listed for the
reference of it. -/
theorem not_tablesAgree_pageReplaced :
    Distinct.holds ((ofSnapshot .pageReplaced).templatesNamed (.ofString "draft"))
        (.ofString "page.twig") = true ∧
      Distinct.holds ((ofSnapshot .pageReplaced).referencing (.ofString "base"))
        (.ofString "page.twig") = true ∧
      ¬(ofSnapshot .pageReplaced).Enters (.ofString "draft") (.ofString "page.twig") ∧
      ¬(ofSnapshot .pageReplaced).RefersIn (.ofString "base") (.ofString "page.twig") ∧
      ¬(ofSnapshot .pageReplaced).TablesAgree := by
  have hnamed : Distinct.holds ((ofSnapshot .pageReplaced).templatesNamed (.ofString "draft"))
      (.ofString "page.twig") = true := by decide
  have hreferring : Distinct.holds ((ofSnapshot .pageReplaced).referencing (.ofString "base"))
      (.ofString "page.twig") = true := by decide
  have henters :
      ¬(ofSnapshot .pageReplaced).Enters (.ofString "draft") (.ofString "page.twig") := by
    unfold Enters
    decide
  have hrefers :
      ¬(ofSnapshot .pageReplaced).RefersIn (.ofString "base") (.ofString "page.twig") := by
    rintro ⟨i, hi, -⟩
    contradiction
  refine ⟨hnamed, hreferring, henters, hrefers, fun hagree => henters ?_⟩
  exact (hagree _ _ (by decide)).1.mp hnamed

end Corpus

end TwigRelations
