import TwigRelations.Proofs.Corpus.Replacement
import TwigRelations.Proofs.Document.Agreement

/-!
# Who includes a template

The includers of a document are looked up by its names in a table that was filled when the corpus
was built, and the places where they include it are found by reading each of them. Where no
reference was lost to a replaced record the two agree: whatever is looked up has such a place.
-/

namespace TwigRelations

namespace Snapshot

variable (s : Snapshot) (t : Template)

/-- The names of a template that are not blank, as recorded. -/
def namesOf : List LogicalName :=
  (((s.lastRecord? t).map (·.names)).getD []).filter (!·.isEmpty)

/-- The well-formed references of a template, in source order. -/
def constructsOf : List Construct := ((s.lastRecord? t).map (·.constructs)).getD []

/-- The references of a template that name a document, in source order. -/
def constructsTo (document : Template) : List Construct :=
  (s.constructsOf t).filter fun k => Distinct.holds (s.namesOf document) k.target

variable {s t} {n : LogicalName} {document : Template}

/-- A template has the names of its last record that are not blank. -/
theorem holds_namesOf : Distinct.holds (s.namesOf t) n = true ↔ n.isEmpty = false ∧
    ∃ last, s.lastRecord? t = some last ∧ Distinct.holds last.names n = true := by
  rw [namesOf, Distinct.holds_iff_exists]
  cases s.lastRecord? t with
  | none => simp
  | some last =>
    simp only [Option.map_some, Option.getD_some, Option.some.injEq, exists_eq_left',
      Distinct.holds_iff_exists]
    constructor
    · rintro ⟨m, hm, hkey⟩
      obtain ⟨hm, hblank⟩ := List.mem_filter.mp hm
      rw [Bool.not_eq_true', LogicalName.isEmpty_congr hkey] at hblank
      exact ⟨hblank, m, hm, hkey⟩
    · rintro ⟨hblank, m, hm, hkey⟩
      rw [← LogicalName.isEmpty_congr hkey] at hblank
      exact ⟨m, List.mem_filter.mpr ⟨hm, Bool.not_eq_true' _ ▸ hblank⟩, hkey⟩

/-- A template refers to a document by a well-formed reference to one of its names. -/
theorem constructsTo_ne_nil : s.constructsTo t document ≠ [] ↔
    ∃ k ∈ s.constructsOf t, Distinct.holds (s.namesOf document) k.target = true := by
  rw [constructsTo, ne_eq, List.filter_eq_nil_iff]
  simp

end Snapshot

namespace Corpus

variable {s : Snapshot} {n : LogicalName} {t document : Template}

/-- A document has the names that were recorded for it. -/
theorem holds_namesFor_eq (s : Snapshot) (document : Template) (n : LogicalName) :
    Distinct.holds (Knowledge.namesFor (ofSnapshot s).answer document) n =
      Distinct.holds (s.namesOf document) n := by
  rw [Bool.eq_iff_iff, holds_namesFor_iff_enters, enters_iff, Snapshot.holds_namesOf]

/-- Reading a template finds the references that were recorded for it. -/
theorem constructsIn_eq (s : Snapshot) (t : Template) :
    Knowledge.constructsIn (ofSnapshot s).answer t = s.constructsOf t := by
  change ((ofSnapshot s).inclusionsIn t).filterMap Inclusion.construct? = _
  rw [inclusionsIn, record?_ofSnapshot, Snapshot.constructsOf]
  cases s.lastRecord? t <;> rfl

/-- Where no reference was lost, the templates that are looked up for a name are those with a
reference to it. -/
theorem holds_referencing_iff (hs : s.KeepsReferences) :
    Distinct.holds ((ofSnapshot s).referencing n) t = true ↔
      ∃ k ∈ s.constructsOf t, identity k.target = identity n := by
  have hserved : Distinct.holds ((ofSnapshot s).referencing n) t = true ↔
      (ofSnapshot s).RefersIn n t :=
    ⟨refersIn_of_keepsReferences hs, holds_referencing_of_refersIn⟩
  rw [hserved, refersIn_iff, Snapshot.constructsOf]
  cases s.lastRecord? t <;> simp [Distinct.holds_iff_exists]

/-- Where no reference was lost, the includers of a document are the templates with a reference
that names it. -/
theorem holds_includers (hs : s.KeepsReferences) :
    Distinct.holds (Knowledge.includers (ofSnapshot s).answer
        (Knowledge.namesFor (ofSnapshot s).answer document)) t = true ↔
      ∃ k ∈ s.constructsOf t, Distinct.holds (s.namesOf document) k.target = true := by
  simp only [← holds_namesFor_eq]
  rw [Knowledge.includers, Distinct.holds_ofList, Distinct.holds_flatMap]
  constructor
  · rintro ⟨name, hname, hlisted⟩
    obtain ⟨k, hk, hkey⟩ := (holds_referencing_iff hs).mp hlisted
    exact ⟨k, hk, Distinct.holds_iff_exists.mpr ⟨name, hname, hkey.symm⟩⟩
  · rintro ⟨k, hk, hnamed⟩
    obtain ⟨name, hname, hkey⟩ := Distinct.holds_iff_exists.mp hnamed
    exact ⟨name, hname, (holds_referencing_iff hs).mpr ⟨k, hk, hkey.symm⟩⟩

/-- The places in a template that refers to a document are all its references to it. -/
theorem targetsIn_eq (h : s.constructsTo t document ≠ []) :
    Knowledge.targetsIn (ofSnapshot s).answer
        (Knowledge.namesFor (ofSnapshot s).answer document) t =
      (s.constructsTo t document).map (.construct t) := by
  rw [Knowledge.targetsIn, constructsIn_eq]
  simp only [holds_namesFor_eq]
  rw [← Snapshot.constructsTo]
  -- Only a template without such a reference is answered as a file.
  cases hk : s.constructsTo t document with
  | nil => contradiction
  | cons k rest => rfl

/-- Where no reference was lost, the places that include a document are the references that name it,
template by template. -/
theorem includeTargets_eq (hs : s.KeepsReferences) (document : Template) :
    Knowledge.includeTargets (ofSnapshot s).answer
        (Knowledge.namesFor (ofSnapshot s).answer document) =
      (Knowledge.includers (ofSnapshot s).answer
        (Knowledge.namesFor (ofSnapshot s).answer document)).flatMap fun t =>
          (s.constructsTo t document).map (.construct t) := by
  rw [Knowledge.includeTargets]
  refine List.flatMap_congr fun t ht => targetsIn_eq ?_
  exact Snapshot.constructsTo_ne_nil.mpr ((holds_includers hs).mp (Distinct.holds_of_mem ht))

/-- Where the records of a snapshot have different paths, the includers of a document are the
templates with a reference to one of its names, each once, and the places where it is included are
all those references, includer by includer and in source order. -/
theorem includers_agree (s : Snapshot) (hs : s.HasDistinctPaths) (rules : Rules)
    (document : Template) :
    ∃ includers, (ofSnapshot s).undisturbed rules document .includers = .ok includers ∧
      Distinct.NoRepeat includers ∧
      (∀ t, Distinct.holds includers t = true ↔
        ∃ k ∈ s.constructsOf t, Distinct.holds (s.namesOf document) k.target = true) ∧
      (ofSnapshot s).undisturbed rules document .includeTargets =
        .ok (includers.flatMap fun t => (s.constructsTo t document).map (.construct t)) := by
  have hready := indexing_ofSnapshot s
  have hkeeps := (keeps_of_hasDistinctPaths hs).2
  refine ⟨_, undisturbed_eq hready _, Distinct.noRepeat_ofList _, fun t => holds_includers hkeeps,
    ?_⟩
  rw [undisturbed_eq hready]
  exact congrArg Except.ok (includeTargets_eq hkeeps document)

/-- The base is included by the page that extends it, at the one place where it does. -/
theorem includers_agree_pageOverBase :
    let base : Template := .ofString "base.twig"
    let page : Template := .ofString "page.twig"
    Snapshot.pageOverBase.HasDistinctPaths ∧ ∃ includers,
      (ofSnapshot .pageOverBase).undisturbed (Corpus.rules .default) base .includers =
        .ok includers ∧
      Distinct.holds includers page = true ∧
      (ofSnapshot .pageOverBase).undisturbed (Corpus.rules .default) base .includeTargets =
        .ok [.construct page ⟨.inherit, .ofString "base", .zero⟩] := by
  intro base page
  have hpaths : Snapshot.pageOverBase.HasDistinctPaths := by
    unfold Snapshot.HasDistinctPaths Distinct.NoRepeat
    decide
  obtain ⟨includers, hincluders, -, hholds, htargets⟩ :=
    includers_agree .pageOverBase hpaths (Corpus.rules .default) base
  have hpage : (ofSnapshot .pageOverBase).undisturbed (Corpus.rules .default) base .includers =
      .ok [page] := by decide +kernel
  obtain rfl := Except.ok.inj (hpage.symm.trans hincluders)
  refine ⟨hpaths, [page], hincluders, (hholds page).mpr ?_, ?_⟩
  · exact ⟨⟨.inherit, .ofString "base", .zero⟩, by decide, by decide⟩
  · rw [htargets]
    rfl

end Corpus

end TwigRelations
