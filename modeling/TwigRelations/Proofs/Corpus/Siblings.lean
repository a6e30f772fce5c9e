import TwigRelations.Proofs.Corpus.Includers

/-!
# Layers of one name

The templates that overwrite a template are found from its names as the namespace arranges them, by
looking each up in a table that was filled from the records. Where no record is replaced both
describe the same: which names belong to which templates. So of two templates each overwrites the
other, or neither does.
-/

namespace TwigRelations

namespace Snapshot

/-- Two templates have a name in common that is not blank, however each of them spells it. -/
def ShareName (s : Snapshot) (t u : Template) : Prop :=
  ∃ n ∈ s.namesOf t, Distinct.holds (s.namesOf u) n = true

variable {s : Snapshot} {t u : Template}

/-- Templates that share a name have a name of one key each, and it is not blank. -/
theorem shareName_iff : s.ShareName t u ↔ ∃ n, Distinct.holds (s.namesOf t) n = true ∧
    Distinct.holds (s.namesOf u) n = true :=
  Distinct.exists_mem_iff_exists_holds fun hkey hn => Distinct.holds_congr hkey _ ▸ hn

theorem shareName_comm : s.ShareName t u ↔ s.ShareName u t := by
  simp only [shareName_iff, and_comm]

end Snapshot

namespace Corpus

variable {s : Snapshot} {n : LogicalName} {t u : Template}

/-- Where no name was lost, the templates that are looked up for a name are those that have it. -/
theorem holds_templatesNamed_iff (hs : s.KeepsNames) (hn : n.isEmpty = false) :
    Distinct.holds ((ofSnapshot s).templatesNamed n) t = true ↔
      Distinct.holds (s.namesOf t) n = true := by
  have hserved : Distinct.holds ((ofSnapshot s).templatesNamed n) t = true ↔
      (ofSnapshot s).Enters n t :=
    ⟨enters_of_keepsNames hs, holds_templatesNamed_of_enters hn⟩
  rw [hserved, enters_iff, Snapshot.holds_namesOf, and_iff_right hn]

/-- Where no name was lost, a template is overwritten by the others that share a name with it. -/
theorem holds_overwrites (hs : s.KeepsNames) :
    Distinct.holds (Knowledge.overwrites (ofSnapshot s).answer t) u = true ↔
      identity u ≠ identity t ∧ s.ShareName t u := by
  have hcongr {m n : LogicalName} (hkey : identity m = identity n)
      (h : Distinct.holds (((ofSnapshot s).templatesNamed m).filter (!same · t)) u = true) :
      Distinct.holds (((ofSnapshot s).templatesNamed n).filter (!same · t)) u = true := by
    rwa [← templatesNamed_congr hkey]
  rw [Knowledge.overwrites, Distinct.holds_ofList, Distinct.holds_flatMap, Snapshot.shareName_iff]
  refine (Distinct.exists_mem_iff_exists_holds hcongr).trans ?_
  simp only [Distinct.holds_filter_not_same, holds_namesFor_eq]
  constructor
  · rintro ⟨n, hn, hne, hlisted⟩
    have hblank := (Snapshot.holds_namesOf.mp hn).1
    exact ⟨hne, n, hn, (holds_templatesNamed_iff hs hblank).mp hlisted⟩
  · rintro ⟨hne, n, hn, hnamed⟩
    have hblank := (Snapshot.holds_namesOf.mp hn).1
    exact ⟨n, hn, hne, (holds_templatesNamed_iff hs hblank).mpr hnamed⟩

/-- Where the records of a snapshot have different paths, a template is overwritten by exactly the
other templates that have a name in common with it, each once, and overwrites each of them. -/
theorem overwrites_agree (s : Snapshot) (hs : s.HasDistinctPaths) (t : Template) :
    ∃ siblings, (ofSnapshot s).resolve (Pass.overwrites t) = .ok siblings ∧
      Distinct.NoRepeat siblings ∧ Distinct.holds siblings t = false ∧
      ∀ u, (Distinct.holds siblings u = true ↔ identity u ≠ identity t ∧ s.ShareName t u) ∧
        ∃ back, (ofSnapshot s).resolve (Pass.overwrites u) = .ok back ∧
          Distinct.holds siblings u = Distinct.holds back t := by
  have hready := indexing_ofSnapshot s
  have hkeeps := (keeps_of_hasDistinctPaths hs).1
  have hself : Distinct.holds (Knowledge.overwrites (ofSnapshot s).answer t) t = false := by
    rw [Bool.eq_false_iff, ne_eq, holds_overwrites hkeeps]
    exact fun h => h.1 rfl
  refine ⟨_, resolve_eq hready (Knowledge.yields_overwrites t), Distinct.noRepeat_ofList _, hself,
    fun u => ⟨holds_overwrites hkeeps, _, resolve_eq hready (Knowledge.yields_overwrites u), ?_⟩⟩
  rw [Bool.eq_iff_iff, holds_overwrites hkeeps, holds_overwrites hkeeps, Snapshot.shareName_comm,
    ne_comm]

end Corpus

/-- A theme with a layer of its own for the base of an application. The two have a name in common,
with the theme twice and spelled in three ways; the page has only a blank name in common with
them. -/
def Snapshot.themedBase : Snapshot where
  templates := [
    { path := .ofString "app/base.twig"
      names := [.ofString "base.twig", .ofString "App:base", .ofString ""]
      inclusions := []
      blocks := [] },
    { path := .ofString "theme/base.twig"
      names := [.ofString "Base.twig", .ofString "./base.twig", .ofString " "]
      inclusions := []
      blocks := [] },
    { path := .ofString "page.twig"
      names := [.ofString "page.twig", .ofString "./"]
      inclusions := []
      blocks := [] }]
  controllers := []

namespace Corpus

/-- The base of the application and that of the theme overwrite each other, and the page neither. -/
theorem overwrites_agree_themedBase :
    let base : Template := .ofString "app/base.twig"
    let themed : Template := .ofString "theme/base.twig"
    let page : Template := .ofString "page.twig"
    Snapshot.themedBase.HasDistinctPaths ∧
      ∃ siblings back,
        (ofSnapshot .themedBase).resolve (Pass.overwrites base) = .ok siblings ∧
        (ofSnapshot .themedBase).resolve (Pass.overwrites themed) = .ok back ∧
        Distinct.holds siblings themed = true ∧ Distinct.holds back base = true ∧
        Distinct.holds siblings page = false := by
  intro base themed page
  have hpaths : Snapshot.themedBase.HasDistinctPaths := by
    unfold Snapshot.HasDistinctPaths Distinct.NoRepeat
    decide
  have hshared : Snapshot.themedBase.ShareName base themed := by
    unfold Snapshot.ShareName
    decide
  have hpage : ¬Snapshot.themedBase.ShareName base page := by
    unfold Snapshot.ShareName
    decide
  obtain ⟨siblings, hsiblings, -, -, hholds⟩ := overwrites_agree .themedBase hpaths base
  obtain ⟨hthemed, back, hback, hsymm⟩ := hholds themed
  have hheld : Distinct.holds siblings themed = true := hthemed.mpr ⟨by decide, hshared⟩
  refine ⟨hpaths, siblings, back, hsiblings, hback, hheld, hsymm ▸ hheld, ?_⟩
  rw [Bool.eq_false_iff, ne_eq, (hholds page).1]
  exact fun h => hpage h.2

end Corpus

end TwigRelations
