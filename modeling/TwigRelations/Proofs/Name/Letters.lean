import Mathlib.Data.List.TakeWhile
import TwigRelations.Name
import TwigRelations.Proofs.Name.Separators

/-!
# The letters of a name

The key of a name forgets blanks, separators, a leading dot and the case of letters, and nothing
else. So it has each letter as often as the spelling has it, in either case.
-/

namespace TwigRelations

namespace Text

variable {c : Char} {p : Char → Bool} {sep : Char} {cs : List Char}

/-- Lowercasing moves the capitals of ASCII to the small letters. -/
theorem toNat_toLower (h : 65 ≤ c.toNat ∧ c.toNat ≤ 90) : c.toLower.toNat = c.toNat + 32 := by
  have hcapital : c.val ≥ 'A'.val ∧ c.val ≤ 'Z'.val :=
    ⟨UInt32.le_iff_toNat_le.mpr h.1, UInt32.le_iff_toNat_le.mpr h.2⟩
  unfold Char.toLower
  rw [dif_pos hcapital]
  change (c.val + 32).toNat = c.val.toNat + 32
  rw [UInt32.toNat_add]
  change (c.toNat + 32) % 4294967296 = c.toNat + 32
  omega

/-- Lowercasing changes only the capitals of ASCII. -/
theorem toLower_cases (c : Char) : c.toLower = c ∨
    (65 ≤ c.toNat ∧ c.toNat ≤ 90) ∧ c.toLower.toNat = c.toNat + 32 := by
  by_cases hcapital : 65 ≤ c.toNat ∧ c.toNat ≤ 90
  · exact .inr ⟨hcapital, toNat_toLower hcapital⟩
  · refine .inl (dif_neg fun h => hcapital ?_)
    exact ⟨UInt32.le_iff_toNat_le.mp h.1, UInt32.le_iff_toNat_le.mp h.2⟩

/-- Nothing but itself is lowercased to a character that comes before the small letters. -/
theorem eq_of_toLower_eq {d : Char} (hd : d.toNat < 97) (h : c.toLower = d) : c = d := by
  rcases toLower_cases c with hself | ⟨hcapital, hlower⟩
  · rw [← hself, h]
  · rw [h] at hlower
    omega

/-- The ranges of blanks are in increasing order, so that a search of them may stop early. -/
theorem increasing_blankRanges : Increasing blankRanges := by
  unfold Increasing blankRanges
  decide

/-- No blank is among the letters of ASCII, nor between them. -/
theorem isBlank_eq_false (h : 65 ≤ c.toNat ∧ c.toNat ≤ 122) : isBlank c = false := by
  rw [Bool.eq_false_iff]
  intro hblank
  obtain ⟨range, hrange, hin⟩ := (inRanges_iff increasing_blankRanges _).mp hblank
  simp only [blankRanges, List.mem_cons, List.not_mem_nil, or_false] at hrange
  rcases hrange with rfl | rfl | rfl | rfl | rfl | rfl | rfl | rfl | rfl | rfl <;>
    simp only at hin <;> omega

theorem toLower_eq_self_of_isBlank (h : isBlank c = true) : c.toLower = c := by
  refine (toLower_cases c).resolve_right fun hcapital => ?_
  rw [isBlank_eq_false (by omega)] at h
  contradiction

/-- Nothing is counted among blanks that is no blank. -/
theorem countP_eq_zero_of_blank (hp : ∀ c, isBlank c = true → p c = false)
    (h : ∀ c ∈ cs, isBlank c = true) : cs.countP p = 0 := by
  rw [List.countP_eq_zero]
  intro c hc
  rw [hp c (h c hc)]
  decide

/-- Trimming takes nothing off but blanks. -/
theorem countP_trim (hp : ∀ c, isBlank c = true → p c = false) (cs : List Char) :
    (trim cs).countP p = cs.countP p := by
  obtain ⟨blanks, heq, hblanks⟩ := trimEnd_append_blanks (cs.dropWhile isBlank)
  have hfront : ∀ c ∈ cs.takeWhile isBlank, isBlank c = true := fun c => List.mem_takeWhile_imp
  calc (trim cs).countP p
      = (trimEnd (cs.dropWhile isBlank) ++ blanks).countP p := by
        rw [List.countP_append, countP_eq_zero_of_blank hp hblanks, Nat.add_zero, trim]
    _ = (cs.takeWhile isBlank ++ cs.dropWhile isBlank).countP p := by
        rw [← heq, List.countP_append, countP_eq_zero_of_blank hp hfront, Nat.zero_add]
    _ = cs.countP p := by rw [List.takeWhile_append_dropWhile]

/-- Reading one character as another is not seen where neither is. -/
theorem countP_readAs {old new : Char} (hold : p old = false) (hnew : p new = false)
    (cs : List Char) : (readAs old new cs).countP p = cs.countP p := by
  have hread : p ∘ (fun c => if c = old then new else c) = p := by
    funext c
    by_cases hc : c = old
    · rw [Function.comp_apply, if_pos hc, hc, hold, hnew]
    · rw [Function.comp_apply, if_neg hc]
  rw [readAs, List.countP_map, hread]

/-- Collapsing takes nothing off but separators. -/
theorem countP_collapse (hsep : p sep = false) (cs : List Char) :
    (collapse sep cs).countP p = cs.countP p := by
  rw [collapse_eq_squeeze]
  fun_induction squeeze sep cs with
  | case1 a b rest h ih =>
    have hfront : p a = false := by rw [h.1, hsep]
    rw [ih, List.countP_cons_of_neg (Bool.eq_false_iff.mp hfront)]
  | case2 a b rest h ih => rw [List.countP_cons, ih, ← List.countP_cons]
  | case3 cs => rfl

end Text

open Text

/-- Dropping a leading `./` does not change a count of other characters. -/
theorem countP_dropDotSlash {p : Char → Bool} (hdot : p '.' = false) (hslash : p '/' = false)
    (cs : List Char) : (dropDotSlash cs).countP p = cs.countP p := by
  unfold dropDotSlash
  split
  · simp [hdot, hslash]
  · rfl

/-- What is neither blank nor a separator or dot is kept when a spelling is normalized. -/
theorem countP_normalized {p : Char → Bool} (hblank : ∀ c, isBlank c = true → p c = false)
    (hback : p '\\' = false) (hslash : p '/' = false) (hcolon : p ':' = false)
    (hdot : p '.' = false) (cs : List Char) :
    (dropDotSlash (collapse ':' (collapse '/' (readAs '\\' '/' (trim cs))))).countP p =
      cs.countP p := by
  rw [countP_dropDotSlash hdot hslash, countP_collapse hcolon, countP_collapse hslash,
    countP_readAs hback hslash, countP_trim hblank]

/-- The key of a spelling has each letter as often as the spelling has it, in either case. -/
theorem count_normalizeChars {letter : Char} (hletter : 97 ≤ letter.toNat)
    (hblank : isBlank letter = false) (cs : List Char) :
    (normalizeChars cs).count letter = (lowercase cs).count letter := by
  have hcount (cs : List Char) :
      (lowercase cs).count letter = cs.countP fun c => c.toLower == letter := by
    rw [lowercase, List.count, List.countP_map]
    rfl
  have hother {c : Char} (hsmall : c.toNat < 97) (hself : c.toLower = c) :
      (c.toLower == letter) = false := by
    rw [beq_eq_false_iff_ne, hself]
    rintro rfl
    omega
  have hblanks (c : Char) (hc : isBlank c = true) : (c.toLower == letter) = false := by
    rw [beq_eq_false_iff_ne, toLower_eq_self_of_isBlank hc]
    rintro rfl
    rw [hc] at hblank
    contradiction
  rw [normalizeChars, hcount, hcount]
  exact countP_normalized hblanks (hother (by decide) rfl) (hother (by decide) rfl)
    (hother (by decide) rfl) (hother (by decide) rfl) cs

end TwigRelations
