/-!
# Cutting and joining text

Operations on texts as lists of characters: cutting at the first or the last separator, taking an
ending off, and collapsing runs of one character. Each cutting operation is pinned by the equation
that puts its pieces together again.
-/

namespace TwigRelations.Text

/-- The pieces before and after the first occurrence of a separator. -/
def cut (sep : Char) : List Char → Option (List Char × List Char)
  | [] => none
  | c :: rest =>
    if c = sep then some ([], rest)
    else (cut sep rest).map fun (before, after) => (c :: before, after)

/-- The pieces before and after the last occurrence of a separator. -/
def cutLast (sep : Char) : List Char → Option (List Char × List Char)
  | [] => none
  | c :: rest =>
    match cutLast sep rest with
    | some (before, after) => some (c :: before, after)
    | none => if c = sep then some ([], rest) else none

/-- The text before a given ending, if it has that ending. -/
def dropEnding? (ending cs : List Char) : Option (List Char) :=
  if ending.isSuffixOf cs then some (cs.take (cs.length - ending.length)) else none

/-- Reads one character as another. -/
def readAs (old new : Char) (cs : List Char) : List Char :=
  cs.map fun c => if c = old then new else c

/-- Lowercases the ASCII letters and leaves every other character. -/
def lowercase (cs : List Char) : List Char := cs.map Char.toLower

/-- Replaces each pair of equal separators by one separator, from left to right. -/
def halvePairs (sep : Char) : List Char → List Char
  | a :: b :: rest =>
    if a = sep ∧ b = sep then sep :: halvePairs sep rest else a :: halvePairs sep (b :: rest)
  | cs => cs

/-- Whether two separators stand side by side. -/
def hasPair (sep : Char) : List Char → Bool
  | a :: b :: rest => (a == sep && b == sep) || hasPair sep (b :: rest)
  | _ => false

/-- Halves the pairs of separators at most the given number of times, while there is a pair. -/
def collapseWithin (sep : Char) : Nat → List Char → List Char
  | 0, cs => cs
  | rounds + 1, cs =>
    if hasPair sep cs then collapseWithin sep rounds (halvePairs sep cs) else cs

/-- Halves the pairs of separators until none is left. -/
def collapse (sep : Char) (cs : List Char) : List Char := collapseWithin sep cs.length cs

/-- Writes every maximal run of separators as one separator, in one pass. -/
def squeeze (sep : Char) : List Char → List Char
  | a :: b :: rest =>
    if a = sep ∧ b = sep then squeeze sep (b :: rest) else a :: squeeze sep (b :: rest)
  | cs => cs

/-- Cutting loses nothing but the separator. -/
theorem eq_append_of_cut {sep : Char} {cs before after : List Char}
    (h : cut sep cs = some (before, after)) : cs = before ++ sep :: after := by
  induction cs generalizing before with
  | nil => simp [cut] at h
  | cons c rest ih =>
    rw [cut] at h
    by_cases hc : c = sep
    · simp only [hc, if_true, Option.some.injEq, Prod.mk.injEq] at h
      simp [← h.1, ← h.2, hc]
    · rw [if_neg hc] at h
      cases hr : cut sep rest with
      | none => simp [hr] at h
      | some p =>
        simp only [hr, Option.map_some, Option.some.injEq, Prod.mk.injEq] at h
        obtain ⟨rfl, rfl⟩ := h
        rw [List.cons_append, ← ih hr]

/-- The piece before the first separator holds none. -/
theorem not_mem_of_cut {sep : Char} {cs before after : List Char}
    (h : cut sep cs = some (before, after)) : sep ∉ before := by
  induction cs generalizing before with
  | nil => simp [cut] at h
  | cons c rest ih =>
    rw [cut] at h
    by_cases hc : c = sep
    · simp only [hc, if_true, Option.some.injEq, Prod.mk.injEq] at h
      simp [← h.1]
    · rw [if_neg hc] at h
      cases hr : cut sep rest with
      | none => simp [hr] at h
      | some p =>
        simp only [hr, Option.map_some, Option.some.injEq, Prod.mk.injEq] at h
        obtain ⟨rfl, rfl⟩ := h
        simpa [Ne.symm hc] using ih hr

/-- Taking an ending off and putting it back gives the text. -/
theorem eq_append_of_dropEnding? {ending cs stem : List Char}
    (h : dropEnding? ending cs = some stem) : cs = stem ++ ending := by
  rw [dropEnding?] at h
  split at h
  · rename_i hs
    obtain ⟨front, rfl⟩ := List.isSuffixOf_iff_suffix.mp hs
    simp only [Option.some.injEq] at h
    rw [← h]
    simp
  · simp at h

end TwigRelations.Text
