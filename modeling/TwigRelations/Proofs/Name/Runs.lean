import Mathlib.Data.List.SplitBy
import TwigRelations.Proofs.Name.Canonical

/-!
# Keys in one pass

Normalizing halves pairs of separators in two loops, first of slashes and then of colons. Both loops
end, and what they leave is the text with each maximal run of either separator written once. The
steps after them bring no pair back.
-/

namespace TwigRelations

namespace Text

variable {sep a b : Char} {cs : List Char}

/-- A run of one character, written once if the character is a slash or a colon. -/
def writeRun : List Char → List Char
  | [] => []
  | c :: rest => if c = '/' ∨ c = ':' then [c] else c :: rest

/-- A text with each maximal run of slashes and each maximal run of colons written once. -/
def writeRuns (cs : List Char) : List Char := (cs.splitBy (· == ·)).flatMap writeRun

/-- A character in front of a different one is a run of its own. -/
theorem splitBy_cons_of_ne (h : a ≠ b) (rest : List Char) :
    (a :: b :: rest).splitBy (· == ·) = [a] :: (b :: rest).splitBy (· == ·) := by
  refine List.splitBy_append_cons (l := [a]) rest fun c hc => ?_
  obtain rfl : a = c := Option.some.inj hc
  exact beq_eq_false_iff_ne.mpr h

/-- A character in front of itself makes the first run longer. -/
theorem exists_splitBy_cons_self (a : Char) (rest : List Char) :
    ∃ run runs, (a :: rest).splitBy (· == ·) = (a :: run) :: runs ∧
      (a :: a :: rest).splitBy (· == ·) = (a :: a :: run) :: runs := by
  obtain ⟨first, runs, hruns⟩ :=
    List.exists_cons_of_ne_nil (List.splitBy_ne_nil.mpr (List.cons_ne_nil a rest))
  obtain ⟨htext, hnil, hsame, hapart⟩ := List.splitBy_eq_iff.mp hruns
  rw [List.mem_cons, not_or] at hnil
  obtain ⟨c, run, rfl⟩ := List.exists_cons_of_ne_nil (Ne.symm hnil.1)
  obtain ⟨rfl, hrest⟩ := List.cons.inj htext
  refine ⟨run, runs, hruns, List.splitBy_eq_iff.mpr ⟨?_, ?_, ?_, ?_⟩⟩
  · rw [hrest]
    rfl
  · rw [List.mem_cons, not_or]
    exact ⟨(List.cons_ne_nil _ _).symm, hnil.2⟩
  · rw [List.forall_mem_cons] at hsame ⊢
    exact ⟨List.isChain_cons_cons.mpr ⟨beq_self_eq_true a, hsame.1⟩, hsame.2⟩
  · -- The first run still ends as it did.
    rw [List.isChain_cons] at hapart ⊢
    refine ⟨fun next hnext => ?_, hapart.2⟩
    obtain ⟨hrun, hne, hlast⟩ := hapart.1 next hnext
    refine ⟨List.cons_ne_nil _ _, hne, ?_⟩
    rwa [List.getLast_cons hrun]

/-- A character is left out exactly if it is a separator in front of itself. -/
theorem writeRuns_cons_cons (a b : Char) (rest : List Char) :
    writeRuns (a :: b :: rest) =
      if a = b ∧ (a = '/' ∨ a = ':') then writeRuns (b :: rest) else a :: writeRuns (b :: rest) := by
  by_cases hab : a = b
  · subst hab
    obtain ⟨run, runs, hruns, hlonger⟩ := exists_splitBy_cons_self a rest
    rw [writeRuns, hlonger, writeRuns, hruns, List.flatMap_cons, List.flatMap_cons, writeRun,
      writeRun]
    by_cases hsep : a = '/' ∨ a = ':'
    · rw [if_pos hsep, if_pos hsep, if_pos ⟨rfl, hsep⟩]
    · rw [if_neg hsep, if_neg hsep, if_neg fun h => hsep h.2]
      rfl
  · rw [if_neg (mt And.left hab), writeRuns, splitBy_cons_of_ne hab, List.flatMap_cons, writeRun,
      ite_self]
    rfl

/-- Squeezing one separator after the other writes the runs of both once. -/
theorem squeeze_squeeze (cs : List Char) : squeeze ':' (squeeze '/' cs) = writeRuns cs := by
  induction cs with
  | nil => rfl
  | cons a cs ih =>
    cases cs with
    | nil =>
      change [a] = writeRun [a] ++ []
      rw [writeRun, ite_self]
      rfl
    | cons b rest =>
      rw [writeRuns_cons_cons, ← ih, squeeze]
      by_cases hslash : a = '/' ∧ b = '/'
      · rw [if_pos hslash, if_pos ⟨hslash.1.trans hslash.2.symm, .inl hslash.1⟩]
      · rw [if_neg hslash, squeeze_cons]
        have hfirst : (squeeze '/' (b :: rest)).head? = some b := head?_squeeze '/' (b :: rest)
        by_cases hcolon : a = ':' ∧ b = ':'
        · rw [if_pos ⟨hcolon.1, hfirst.trans (congrArg some hcolon.2)⟩,
            if_pos ⟨hcolon.1.trans hcolon.2.symm, .inr hcolon.1⟩]
        · rw [if_neg, if_neg]
          · rintro ⟨rfl, rfl | rfl⟩
            · exact hslash ⟨rfl, rfl⟩
            · exact hcolon ⟨rfl, rfl⟩
          · rintro ⟨rfl, hb⟩
            exact hcolon ⟨rfl, Option.some.inj (hfirst.symm.trans hb)⟩

/-- Where any two neighbours are apart, no two separators stand side by side. -/
theorem not_infix_of_isChain (h : cs.IsChain (Apart sep)) : ¬[sep, sep] <:+: cs := by
  rintro ⟨front, back, rfl⟩
  have hpair : [sep, sep].IsChain (Apart sep) := h.left_of_append.right_of_append
  exact (List.isChain_cons_cons.mp hpair).1 ⟨rfl, rfl⟩

/-- What lowercasing leaves is no capital of ASCII. -/
theorem not_capital_of_toLower_eq {c : Char} (h : c.toLower = c) : ¬('A' ≤ c ∧ c ≤ 'Z') := by
  rintro ⟨hA, hZ⟩
  have hmoved : c.toLower.toNat = c.toNat + 32 :=
    toNat_toLower ⟨UInt32.le_iff_toNat_le.mp hA, UInt32.le_iff_toNat_le.mp hZ⟩
  rw [h] at hmoved
  omega

end Text

open Text

/-- The key of a spelling, with its runs of separators written once in one pass. -/
def onePassKey (cs : List Char) : List Char :=
  lowercase (dropDotSlash (writeRuns (readAs '\\' '/' (trim cs))))

/-- Both loops of normalizing a spelling end, and the key is the one that a single pass over the
spelling gives. It has no backslash, no two slashes or colons side by side, and no capital of
ASCII. -/
theorem normalize_onePass (s : String) :
    (∃ slashes colons, Halves '/' (readAs '\\' '/' (trim s.toList)) slashes ∧
      Halves ':' slashes colons ∧ (normalize s).toList = lowercase (dropDotSlash colons)) ∧
      (normalize s).toList = onePassKey s.toList ∧
      '\\' ∉ (normalize s).toList ∧
      ¬['/', '/'] <:+: (normalize s).toList ∧
      ¬[':', ':'] <:+: (normalize s).toList ∧
      ¬∃ c ∈ (normalize s).toList, 'A' ≤ c ∧ c ≤ 'Z' := by
  have hkey : (normalize s).toList = normalizeChars s.toList := String.toList_ofList
  have hseparated : IsSeparated (normalizeChars s.toList) := isSeparated_normalizeChars s.toList
  rw [hkey]
  refine ⟨⟨_, _, halves_collapse '/' _, halves_collapse ':' _, rfl⟩, ?_,
    hseparated.backslash_not_mem, not_infix_of_isChain hseparated.slashes_apart,
    not_infix_of_isChain hseparated.colons_apart, ?_⟩
  · rw [normalizeChars, collapse_eq_squeeze, collapse_eq_squeeze, squeeze_squeeze, onePassKey]
  · rintro ⟨c, hc, hcapital⟩
    exact not_capital_of_toLower_eq (toLower_of_mem_normalizeChars hc) hcapital

end TwigRelations
