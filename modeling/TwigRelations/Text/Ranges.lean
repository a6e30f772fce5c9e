/-!
# Tables of code points

A property of characters is tabled as the closed ranges of code points that have it. The ranges of
a table are listed in increasing order and leave a gap between neighbours, so a search may stop at
the first range that starts above the code point.
-/

namespace TwigRelations.Text

/-- Whether a code point lies in one of the ranges of an increasing table. -/
def inRanges : List (Nat × Nat) → Nat → Bool
  | [], _ => false
  | (lo, hi) :: rest, n => if n < lo then false else n ≤ hi || inRanges rest n

/-- A table is increasing when every range is proper and the next one starts above it. -/
def Increasing (ranges : List (Nat × Nat)) : Prop :=
  (∀ r ∈ ranges, r.1 ≤ r.2) ∧ ranges.Pairwise fun a b => a.2 < b.1

/-- The search that stops early finds the same code points as a search of the whole table. -/
theorem inRanges_iff {ranges : List (Nat × Nat)} (h : Increasing ranges) (n : Nat) :
    inRanges ranges n = true ↔ ∃ r ∈ ranges, r.1 ≤ n ∧ n ≤ r.2 := by
  induction ranges with
  | nil => simp [inRanges]
  | cons r rest ih =>
    obtain ⟨lo, hi⟩ := r
    obtain ⟨hproper, hpair⟩ := h
    rw [List.pairwise_cons] at hpair
    have hrest : Increasing rest :=
      ⟨fun s hs => hproper s (List.mem_cons_of_mem _ hs), hpair.2⟩
    simp only [inRanges, List.mem_cons, exists_eq_or_imp]
    by_cases hn : n < lo
    · rw [if_pos hn]
      constructor
      · simp
      · rintro (⟨hlo, _⟩ | ⟨s, hs, hlo, _⟩)
        · omega
        · have := hpair.1 s hs
          have := hproper (lo, hi) (List.mem_cons_self ..)
          simp only at *
          omega
    · rw [if_neg hn, Bool.or_eq_true, decide_eq_true_eq, ih hrest]
      constructor
      · rintro (h | h)
        · exact Or.inl ⟨by omega, h⟩
        · exact Or.inr h
      · rintro (⟨_, h⟩ | h)
        · exact Or.inl h
        · exact Or.inr h

/-! ## White space and trimming

Blank characters are those with the property White_Space. Trimming takes the blanks off both ends
and leaves every blank in between.
-/

/-- The code points with the property White_Space. -/
def blankRanges : List (Nat × Nat) :=
  [(0x9, 0xD), (0x20, 0x20), (0x85, 0x85), (0xA0, 0xA0), (0x1680, 0x1680), (0x2000, 0x200A),
    (0x2028, 0x2029), (0x202F, 0x202F), (0x205F, 0x205F), (0x3000, 0x3000)]

/-- Whether a character is white space. -/
def isBlank (c : Char) : Bool := inRanges blankRanges c.toNat

/-- The text without the blanks at its end. -/
def trimEnd : List Char → List Char
  | [] => []
  | c :: rest =>
    match trimEnd rest with
    | [] => if isBlank c then [] else [c]
    | kept => c :: kept

/-- The text without the blanks at either end. -/
def trim (cs : List Char) : List Char := trimEnd (cs.dropWhile isBlank)

/-- What `trimEnd` keeps, followed by blanks, is the text. -/
theorem trimEnd_append_blanks (cs : List Char) :
    ∃ blanks, cs = trimEnd cs ++ blanks ∧ ∀ c ∈ blanks, isBlank c = true := by
  induction cs with
  | nil => exact ⟨[], rfl, by simp⟩
  | cons c rest ih =>
    obtain ⟨blanks, he, hb⟩ := ih
    unfold trimEnd
    cases hk : trimEnd rest with
    | nil =>
      rw [hk, List.nil_append] at he
      by_cases hc : isBlank c = true
      · refine ⟨c :: rest, by simp [hc], ?_⟩
        intro d hd
        rcases List.mem_cons.mp hd with rfl | hd
        · exact hc
        · exact hb d (he ▸ hd)
      · exact ⟨rest, by simp [hc], fun d hd => hb d (he ▸ hd)⟩
    | cons k ks => exact ⟨blanks, by rw [he, hk]; rfl, hb⟩

/-- Trimmed text does not end in a blank. -/
theorem getLast?_trimEnd (cs : List Char) : ∀ c ∈ (trimEnd cs).getLast?, isBlank c = false := by
  induction cs with
  | nil => simp [trimEnd]
  | cons c rest ih =>
    unfold trimEnd
    cases hk : trimEnd rest with
    | nil => by_cases hc : isBlank c = true <;> simp_all
    | cons k ks => simpa [List.getLast?_cons_cons, hk] using ih

end TwigRelations.Text
