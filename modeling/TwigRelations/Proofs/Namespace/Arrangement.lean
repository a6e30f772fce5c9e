import Mathlib.Data.List.Destutter
import Mathlib.Data.List.Sort
import TwigRelations.Proofs.Namespace

/-!
# The order in which names are shown

Arranging names sorts them and then drops each name whose key has just been seen. As the sort keeps
the spellings of one key together, what is left are the names bundle style first, each part strictly
increasing by key, and each key in the least of its spellings.
-/

namespace TwigRelations

namespace LogicalName

variable {a b c : LogicalName}

/-- A name stands before another one where names are shown: bundle-style names come first, and the
names of one style are increasing by key. -/
def ShownBefore (a b : LogicalName) : Prop :=
  (a.isBundleStyle = true ∧ b.isBundleStyle = false) ∨
    (a.isBundleStyle = b.isBundleStyle ∧ a.key < b.key)

/-- Names of one key are of one style. -/
theorem isBundleStyle_congr (h : identity a = identity b) : a.isBundleStyle = b.isBundleStyle := by
  have hkey : a.key = b.key := h
  rw [isBundleStyle, hkey, isBundleStyle]

/-- Of two names of one key none is shown before the other. -/
theorem ShownBefore.identity_ne (h : ShownBefore a b) : identity a ≠ identity b := by
  intro hsame
  have hkey : a.key = b.key := hsame
  rcases h with ⟨ha, hb⟩ | ⟨-, hlt⟩
  · rw [isBundleStyle_congr hsame, hb] at ha
    contradiction
  · rw [hkey] at hlt
    exact String.lt_irrefl _ hlt

theorem ShownBefore.trans (h : ShownBefore a b) (h' : ShownBefore b c) : ShownBefore a c := by
  rcases h with ⟨ha, hb⟩ | ⟨hstyle, hlt⟩ <;> rcases h' with ⟨hb', hc⟩ | ⟨hstyle', hlt'⟩
  · exact .inl ⟨ha, hc⟩
  · exact .inl ⟨ha, hstyle' ▸ hb⟩
  · exact .inl ⟨hstyle ▸ hb', hc⟩
  · exact .inr ⟨hstyle.trans hstyle', String.lt_trans hlt hlt'⟩

instance : Trans ShownBefore ShownBefore ShownBefore := ⟨ShownBefore.trans⟩

/-- No name is shown both before and after another one. -/
instance : Std.Asymm ShownBefore := ⟨fun _ _ hab hba => (hab.trans hba).identity_ne rfl⟩

/-- Where names stand is told by their keys. -/
theorem ShownBefore.congr {a' b' : LogicalName} (ha : identity a = identity a')
    (hb : identity b = identity b') (h : ShownBefore a b) : ShownBefore a' b' := by
  have hkeyA : a.key = a'.key := ha
  have hkeyB : b.key = b'.key := hb
  rwa [ShownBefore, ← isBundleStyle_congr ha, ← isBundleStyle_congr hb, ← hkeyA, ← hkeyB]

/-- The display order goes by style, then by key and then by spelling. -/
theorem displayOrder_eq : displayOrder = compareLex (compareOn fun n => !n.isBundleStyle)
    (compareLex (compareOn key) (compareOn raw)) := by
  funext a b
  have hstyle : compare b.isBundleStyle a.isBundleStyle =
      compare (!a.isBundleStyle) (!b.isBundleStyle) := by
    cases a.isBundleStyle <;> cases b.isBundleStyle <;> rfl
  rw [displayOrder, hstyle]
  rfl

instance : Std.TransCmp displayOrder := displayOrder_eq ▸ inferInstance

/-- The spelling decides only between names of one key. -/
theorem isLE_displayOrder_iff : (displayOrder a b).isLE = true ↔
    ShownBefore a b ∨ identity a = identity b ∧ (compare a.raw b.raw).isLE = true := by
  have hlt : compare a.key b.key = .lt ↔ a.key < b.key := compareOfLessAndEq_eq_lt
  have heq : compare a.key b.key = .eq ↔ a.key = b.key := Std.LawfulEqCmp.compare_eq_iff_eq
  have hstyle : a.key = b.key → a.isBundleStyle = b.isBundleStyle := isBundleStyle_congr
  rw [displayOrder, Ordering.isLE_then_iff_or, Ordering.isLE_then_iff_or, hlt, heq, ShownBefore]
  change _ ↔ _ ∨ a.key = b.key ∧ _
  generalize a.isBundleStyle = styleA at *
  generalize b.isBundleStyle = styleB at *
  cases styleA <;> cases styleB <;> simp_all
  decide

/-- Names of which none comes after the other in display order are one name. -/
theorem eq_of_isLE_displayOrder (h : (displayOrder a b).isLE = true)
    (h' : (displayOrder b a).isLE = true) : a = b := by
  have heq : displayOrder a b = .eq := Std.OrientedCmp.isLE_antisymm h h'
  rw [displayOrder, Ordering.then_eq_eq, Ordering.then_eq_eq] at heq
  exact ext_raw (Std.LawfulEqCmp.eq_of_compare heq.2.2)

end LogicalName

open LogicalName

variable {last n m : LogicalName} {names names' : List LogicalName}

/-- Dropping names whose key has just been seen leaves the first of each run of names of one key. -/
theorem cons_dropAdjacent (last : LogicalName) (names : List LogicalName) :
    last :: dropAdjacent last names =
      names.destutter' (fun a b => identity a ≠ identity b) last := by
  induction names generalizing last with
  | nil => rfl
  | cons n rest ih =>
    rw [dropAdjacent, List.destutter'_cons]
    by_cases h : identity n = identity last
    · rw [if_pos (same_iff.mpr h), if_neg (not_not.mpr h.symm), ih]
    · rw [if_neg (mt same_iff.mp h), if_pos (Ne.symm h), ih]

/-- In sorted names, what is left after dropping is in the order in which names are shown. -/
theorem pairwise_dropAdjacent
    (h : (last :: names).Pairwise fun a b => (displayOrder a b).isLE = true) :
    (last :: dropAdjacent last names).Pairwise ShownBefore := by
  rw [cons_dropAdjacent]
  have hsorted := h.sublist (names.destutter'_sublist (fun a b => identity a ≠ identity b) last)
  have hdistinct := names.isChain_destutter' (fun a b => identity a ≠ identity b) last
  rw [← List.isChain_iff_pairwise, List.isChain_iff_getElem]
  intro i hi
  have hne := List.isChain_iff_getElem.mp hdistinct i hi
  have hle := List.pairwise_iff_getElem.mp hsorted i (i + 1) (by omega) hi (by omega)
  exact (isLE_displayOrder_iff.mp hle).resolve_right fun hkey => hne hkey.1

/-- In sorted names, what is left after dropping are the least spellings of the keys. -/
theorem isLE_of_mem_dropAdjacent
    (h : (last :: names).Pairwise fun a b => (displayOrder a b).isLE = true)
    (hn : n ∈ last :: dropAdjacent last names) (hm : m ∈ last :: names)
    (hkey : identity n = identity m) : (displayOrder n m).isLE = true := by
  induction names generalizing last n m with
  | nil =>
    rw [dropAdjacent, List.mem_singleton] at hn
    rw [List.mem_singleton] at hm
    rw [hn, hm]
    exact Std.ReflCmp.isLE_rfl
  | cons first rest ih =>
    obtain ⟨hlast, hrest⟩ := List.pairwise_cons.mp h
    have hfirst : (displayOrder last first).isLE = true := hlast first List.mem_cons_self
    rw [dropAdjacent] at hn
    by_cases hsame : identity first = identity last
    · rw [if_pos (same_iff.mpr hsame)] at hn
      have hpair : (last :: rest).Pairwise fun a b => (displayOrder a b).isLE = true :=
        h.sublist (.cons_cons last (List.sublist_cons_self first rest))
      rcases List.mem_cons.mp hm with rfl | hm
      · exact ih hpair hn List.mem_cons_self hkey
      · rcases List.mem_cons.mp hm with rfl | hm
        · have hle := ih hpair hn List.mem_cons_self (hkey.trans hsame)
          exact Std.TransCmp.isLE_trans hle hfirst
        · exact ih hpair hn (List.mem_cons_of_mem _ hm) hkey
    · rw [if_neg (mt same_iff.mp hsame)] at hn
      rcases List.mem_cons.mp hn with rfl | hlater
      · rcases List.mem_cons.mp hm with rfl | hm
        · exact Std.ReflCmp.isLE_rfl
        · exact hlast m hm
      · rcases List.mem_cons.mp hm with rfl | hm
        · have hshown := pairwise_dropAdjacent h
          rw [dropAdjacent, if_neg (mt same_iff.mp hsame), List.pairwise_cons] at hshown
          exact absurd hkey.symm (hshown.1 n hlater).identity_ne
        · exact ih hrest hlater hm hkey

/-- Arranged names are in the order in which names are shown. -/
theorem pairwise_arrangeNames (names : List LogicalName) :
    (arrangeNames names).Pairwise ShownBefore := by
  have hsorted := pairwise_mergeSort_isLE displayOrder names
  rw [arrangeNames]
  split
  · exact .nil
  · rename_i first rest hsort
    rw [hsort] at hsorted
    exact pairwise_dropAdjacent hsorted

/-- Each arranged name is one of the names, in the least spelling of its key. -/
theorem of_mem_arrangeNames (h : n ∈ arrangeNames names) :
    n ∈ names ∧ ∀ m ∈ names, identity m = identity n → (compare n.raw m.raw).isLE = true := by
  have hsorted := pairwise_mergeSort_isLE displayOrder names
  have hmem (m : LogicalName) : m ∈ names.mergeSort (fun a b => (displayOrder a b).isLE) ↔
      m ∈ names := List.mem_mergeSort
  rw [arrangeNames] at h
  split at h
  · contradiction
  · rename_i first rest hsort
    rw [hsort] at hsorted hmem
    have hkept : n ∈ first :: rest := by
      rw [cons_dropAdjacent] at h
      exact (List.destutter'_sublist _ _ _).mem h
    refine ⟨(hmem n).mp hkept, fun m hm hkey => ?_⟩
    have hle := isLE_of_mem_dropAdjacent hsorted h ((hmem m).mpr hm) hkey.symm
    rcases isLE_displayOrder_iff.mp hle with hbefore | ⟨-, hraw⟩
    · exact absurd hkey.symm hbefore.identity_ne
    · exact hraw

/-- Arranged names are exactly the least spellings of the keys. -/
theorem mem_arrangeNames_iff : n ∈ arrangeNames names ↔
    n ∈ names ∧ ∀ m ∈ names, identity m = identity n → (compare n.raw m.raw).isLE = true := by
  refine ⟨of_mem_arrangeNames, fun ⟨hn, hleast⟩ => ?_⟩
  have hkept : Distinct.holds (arrangeNames names) n = true :=
    (holds_arrangeNames names n).mpr (Distinct.holds_of_mem hn)
  obtain ⟨m, hm, hkey⟩ := Distinct.holds_iff_exists.mp hkept
  obtain ⟨hmem, hleast'⟩ := of_mem_arrangeNames hm
  have hle := hleast m hmem hkey
  have hge := hleast' n hn hkey.symm
  have hraw : m.raw = n.raw :=
    Std.LawfulEqCmp.eq_of_compare (Std.OrientedCmp.isLE_antisymm hge hle)
  rwa [ext_raw hraw] at hm

/-- The keys of names in the order in which they are shown are told by which keys there are. -/
theorem map_identity_eq_of_pairwise_shownBefore (h : names.Pairwise ShownBefore)
    (h' : names'.Pairwise ShownBefore)
    (hholds : ∀ n, Distinct.holds names n = Distinct.holds names' n) :
    names.map identity = names'.map identity := by
  -- Keys are in the order of any names that have them, as a name stands where its key does.
  let before (k k' : String) : Prop := ∃ a b, identity a = k ∧ identity b = k' ∧ ShownBefore a b
  have hasymm : Std.Asymm before := by
    refine ⟨?_⟩
    rintro _ _ ⟨a, b, rfl, rfl, hab⟩ ⟨b', a', hb, ha, hba⟩
    exact Std.Asymm.asymm a b hab (hba.congr hb ha)
  have hbefore {names : List LogicalName} (h : names.Pairwise ShownBefore) :
      (names.map identity).Pairwise before :=
    List.pairwise_map.mpr (h.imp fun hab => ⟨_, _, rfl, rfl, hab⟩)
  have hmem {names names' : List LogicalName}
      (hholds : ∀ n, Distinct.holds names n = Distinct.holds names' n) {k : String}
      (hk : k ∈ names.map identity) : k ∈ names'.map identity := by
    obtain ⟨n, hn, rfl⟩ := List.mem_map.mp hk
    exact Distinct.holds_iff.mp (hholds n ▸ Distinct.holds_of_mem hn)
  refine (hbefore h).eq_of_mem_iff (hbefore h') fun k => ?_
  exact ⟨hmem hholds, hmem fun n => (hholds n).symm⟩

/-- Arranging does not depend on the order of the names, nor on how often each is given. -/
theorem arrangeNames_congr (h : ∀ n, n ∈ names ↔ n ∈ names') :
    arrangeNames names = arrangeNames names' := by
  refine (pairwise_arrangeNames names).eq_of_mem_iff (pairwise_arrangeNames names') fun n => ?_
  rw [mem_arrangeNames_iff, mem_arrangeNames_iff]
  simp only [h]

end TwigRelations
