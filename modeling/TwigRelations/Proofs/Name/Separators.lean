import Mathlib.Data.List.Chain
import TwigRelations.Text.Segments

/-!
# Runs of separators

Halving pairs of separators until none is left writes each run of them as one separator, as one pass
over the text does. What stands at either end of a text is kept, and characters that stood apart
before still do.
-/

namespace TwigRelations.Text

variable {sep : Char} {cs : List Char}

/-- Not both of two characters are separators. -/
def Apart (sep a b : Char) : Prop := ¬(a = sep ∧ b = sep)

/-- There is no pair of separators exactly if any two neighbours are apart. -/
theorem hasPair_eq_false_iff : hasPair sep cs = false ↔ cs.IsChain (Apart sep) := by
  fun_induction hasPair sep cs with
  | case1 a b rest ih =>
    rw [List.isChain_cons_cons, Bool.or_eq_false_iff, ih, Bool.and_eq_false_iff,
      beq_eq_false_iff_ne, beq_eq_false_iff_ne, Apart, not_and_or]
  | case2 cs hshort =>
    rcases cs with _ | ⟨a, _ | ⟨b, rest⟩⟩
    · simp
    · simp
    · exact absurd rfl (hshort a b rest)

/-- Halving pairs takes a separator off for each of them. -/
theorem length_halvePairs_le (sep : Char) (cs : List Char) :
    (halvePairs sep cs).length ≤ cs.length := by
  fun_induction halvePairs sep cs with
  | case1 a b rest h ih => simp only [List.length_cons]; omega
  | case2 a b rest h ih => simp only [List.length_cons] at ih ⊢; omega
  | case3 cs => exact Nat.le_refl _

/-- Halving shortens a text that has a pair, which is why the loop ends. -/
theorem length_halvePairs_lt (h : hasPair sep cs = true) :
    (halvePairs sep cs).length < cs.length := by
  fun_induction halvePairs sep cs with
  | case1 a b rest hpair ih =>
    have hle := length_halvePairs_le sep rest
    simp only [List.length_cons]
    omega
  | case2 a b rest hpair ih =>
    rw [hasPair, Bool.or_eq_true, Bool.and_eq_true, beq_iff_eq, beq_iff_eq] at h
    have hrest := ih (h.resolve_left hpair)
    simp only [List.length_cons] at hrest ⊢
    omega
  | case3 cs hshort =>
    rcases cs with _ | ⟨a, _ | ⟨b, rest⟩⟩
    · contradiction
    · contradiction
    · exact absurd rfl (hshort a b rest)

theorem head?_halvePairs (sep : Char) (cs : List Char) :
    (halvePairs sep cs).head? = cs.head? := by
  fun_induction halvePairs sep cs with
  | case1 a b rest h ih => rw [List.head?_cons, List.head?_cons, h.1]
  | case2 a b rest h ih => rfl
  | case3 cs => rfl

/-- Squeezing keeps the first character. -/
theorem head?_squeeze (sep : Char) (cs : List Char) : (squeeze sep cs).head? = cs.head? := by
  fun_induction squeeze sep cs with
  | case1 a b rest h ih => rw [ih, List.head?_cons, List.head?_cons, h.1, h.2]
  | case2 a b rest h ih => rfl
  | case3 cs => rfl

theorem getLast?_squeeze (sep : Char) (cs : List Char) :
    (squeeze sep cs).getLast? = cs.getLast? := by
  fun_induction squeeze sep cs with
  | case1 a b rest h ih => rw [ih, List.getLast?_cons_cons]
  | case2 a b rest h ih => rw [List.getLast?_cons, ih, ← List.getLast?_cons]
  | case3 cs => rfl

/-- Squeezing only leaves characters out. -/
theorem squeeze_sublist (sep : Char) (cs : List Char) : (squeeze sep cs).Sublist cs := by
  fun_induction squeeze sep cs with
  | case1 a b rest h ih => exact ih.cons a
  | case2 a b rest h ih => exact ih.cons_cons a
  | case3 cs => exact List.Sublist.refl _

/-- What any two neighbours are to each other they still are after one pass. -/
theorem isChain_squeeze_of_isChain {r : Char → Char → Prop} (h : cs.IsChain r) :
    (squeeze sep cs).IsChain r := by
  fun_induction squeeze sep cs with
  | case1 a b rest hpair ih => exact ih h.tail
  | case2 a b rest hpair ih =>
    rw [List.isChain_cons, head?_squeeze]
    exact ⟨(List.isChain_cons.mp h).1, ih h.tail⟩
  | case3 cs => exact h

/-- One pass leaves no two separators side by side. -/
theorem isChain_squeeze (sep : Char) (cs : List Char) : (squeeze sep cs).IsChain (Apart sep) := by
  fun_induction squeeze sep cs with
  | case1 a b rest h ih => exact ih
  | case2 a b rest h ih =>
    rw [List.isChain_cons, head?_squeeze]
    refine ⟨fun c hc => ?_, ih⟩
    obtain rfl : b = c := Option.some.inj hc
    exact h
  | case3 cs hshort =>
    rcases cs with _ | ⟨a, _ | ⟨b, rest⟩⟩
    · exact .nil
    · exact .singleton a
    · exact absurd rfl (hshort a b rest)

/-- A text whose separators are apart is squeezed already. -/
theorem squeeze_eq_self (h : cs.IsChain (Apart sep)) : squeeze sep cs = cs := by
  fun_induction squeeze sep cs with
  | case1 a b rest hpair ih => exact absurd hpair (List.isChain_cons_cons.mp h).1
  | case2 a b rest hpair ih => rw [ih h.tail]
  | case3 cs => rfl

/-- One pass over a text with a character in front sees only whether that and the first of the text
are separators. -/
theorem squeeze_cons (sep c : Char) (cs : List Char) :
    squeeze sep (c :: cs) =
      if c = sep ∧ cs.head? = some sep then squeeze sep cs else c :: squeeze sep cs := by
  cases cs with
  | nil => simp [squeeze]
  | cons b rest => simp [squeeze]

/-- Halving pairs first makes no difference to one pass. -/
theorem squeeze_halvePairs (sep : Char) (cs : List Char) :
    squeeze sep (halvePairs sep cs) = squeeze sep cs := by
  fun_induction halvePairs sep cs with
  | case1 a b rest h ih =>
    rw [squeeze, if_pos h, squeeze_cons, squeeze_cons, head?_halvePairs, ih, h.2]
  | case2 a b rest h ih => rw [squeeze_cons, squeeze_cons, head?_halvePairs, ih]
  | case3 cs => rfl

/-- A loop that halves the pairs of separators for as long as there are any, and ends with a text that
has none. -/
inductive Halves (sep : Char) : List Char → List Char → Prop
  /-- There is no pair left. -/
  | done {cs : List Char} (h : hasPair sep cs = false) : Halves sep cs cs
  /-- There is a pair, and the loop goes on with the pairs halved. -/
  | again {cs out : List Char} (h : hasPair sep cs = true)
    (hrest : Halves sep (halvePairs sep cs) out) :
    Halves sep cs out

/-- Each round takes a character off at least, so that there are enough rounds. -/
theorem halves_collapse (sep : Char) (cs : List Char) : Halves sep cs (collapse sep cs) := by
  have hwithin (rounds : Nat) (cs : List Char) (hrounds : cs.length ≤ rounds) :
      Halves sep cs (collapseWithin sep rounds cs) := by
    induction rounds generalizing cs with
    | zero =>
      obtain rfl := List.length_eq_zero_iff.mp (Nat.le_zero.mp hrounds)
      exact .done rfl
    | succ rounds ih =>
      rw [collapseWithin]
      split
      · rename_i hpair
        have hlt := length_halvePairs_lt hpair
        exact .again hpair (ih _ (by omega))
      · rename_i hpair
        exact .done (Bool.eq_false_iff.mpr hpair)
  exact hwithin _ _ (Nat.le_refl _)

/-- Whatever rounds it takes, the loop ends with each run written as one separator. -/
theorem Halves.eq_squeeze {out : List Char} (h : Halves sep cs out) : out = squeeze sep cs := by
  induction h with
  | done h => exact (squeeze_eq_self (hasPair_eq_false_iff.mp h)).symm
  | again _ _ ih => rw [ih, squeeze_halvePairs]

/-- Halving pairs of separators until none is left writes each run of them as one separator. -/
theorem collapse_eq_squeeze (sep : Char) (cs : List Char) : collapse sep cs = squeeze sep cs :=
  (halves_collapse sep cs).eq_squeeze

end TwigRelations.Text
