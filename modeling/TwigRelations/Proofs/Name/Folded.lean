import TwigRelations.Name
import TwigRelations.Proofs.Name.Letters

/-!
# Folded names of one key

Folding takes an extension off a spelling and the ending off its bundle, as far as they are written
in the usual case. Names of one key have the same letters, so if they fold to one label the same
pieces were taken off both, and what was left differs in the case of letters only.
-/

namespace TwigRelations

open Text

/-- The extensions that folding takes off, and none. -/
def foldedExtensions : List (List Char) := [[], ".twig".toList, ".html.twig".toList]

/-- The ending that folding takes off a bundle. -/
def bundleEnding : List Char := "Bundle".toList

/-- The endings that folding takes off a bundle, and none. -/
def bundleEndings : List (List Char) := [[], bundleEnding]

/-- The separator that ends the bundle of a name. -/
def divider (front : List Char) : Char := if front.head? = some '@' then '/' else ':'

/-- The front of a name is a bundle, and the back begins with the separator that ends it. -/
structure Divided (front back : List Char) : Prop where
  /-- There is a bundle. -/
  front_ne_nil : front ≠ []
  /-- The separator that follows the bundle is the first one. -/
  not_mem_front : divider front ∉ front
  /-- The back begins with that separator. -/
  head?_back : back.head? = some (divider front)

/-- The pieces of a spelling: folding keeps the front and the back, and takes off the ending of the
bundle between them and the extension. -/
structure Folding (cs front bundle back extension : List Char) : Prop where
  /-- The pieces make up the spelling. -/
  spelling_eq : cs = front ++ bundle ++ back ++ extension
  /-- The front and the back make up what is folded. -/
  folded_eq : foldChars cs = front ++ back
  /-- The extension is one that is taken off. -/
  extension_mem : extension ∈ foldedExtensions
  /-- The ending of a bundle is taken off only in front of a separator. -/
  bundle_or : (bundle = [] ∧ back = []) ∨ (bundle = bundleEnding ∧ Divided front back)

/-- Folding takes an extension off the end, or nothing. -/
theorem dropExtension_spec (cs : List Char) :
    ∃ extension ∈ foldedExtensions, cs = dropExtension cs ++ extension := by
  rw [dropExtension]
  cases hlong : dropEnding? ".html.twig".toList cs with
  | some stem => exact ⟨_, by simp [foldedExtensions], eq_append_of_dropEnding? hlong⟩
  | none =>
    cases hshort : dropEnding? ".twig".toList cs with
    | some stem => exact ⟨_, by simp [foldedExtensions], eq_append_of_dropEnding? hshort⟩
    | none => exact ⟨[], by simp [foldedExtensions], by simp⟩

/-- A stem is kept as it is, or loses the ending of its bundle, which reaches to the first
separator. -/
theorem shortenBundle_spec (sep : Char) (stem : List Char) : shortenBundle sep stem = stem ∨
    ∃ short path, short ≠ [] ∧ sep ∉ short ∧ stem = short ++ bundleEnding ++ sep :: path ∧
      shortenBundle sep stem = short ++ sep :: path := by
  rw [shortenBundle]
  cases hcut : cut sep stem with
  | none => exact .inl rfl
  | some pieces =>
    obtain ⟨bundle, path⟩ := pieces
    dsimp only
    cases hshort : shortBundle? bundle with
    | none => exact .inl rfl
    | some short =>
      rw [shortBundle?, Option.filter_eq_some_iff, Bool.not_eq_true', List.isEmpty_eq_false_iff]
        at hshort
      have hbundle : bundle = short ++ bundleEnding := eq_append_of_dropEnding? hshort.1
      have hstem : stem = bundle ++ sep :: path := eq_append_of_cut hcut
      have hsep : sep ∉ bundle := not_mem_of_cut hcut
      rw [hbundle] at hstem hsep
      exact .inr ⟨short, path, hshort.2, mt (List.mem_append_left _) hsep, hstem, rfl⟩

/-- Every spelling is folded by taking its pieces off. -/
theorem exists_folding (cs : List Char) :
    ∃ front bundle back extension, Folding cs front bundle back extension := by
  obtain ⟨extension, hextension, hcs⟩ := dropExtension_spec cs
  have hkept (h : foldChars cs = dropExtension cs) :
      ∃ front bundle back extension, Folding cs front bundle back extension :=
    ⟨dropExtension cs, [], [], extension, by simpa using hcs, by simpa using h, hextension,
      .inl ⟨rfl, rfl⟩⟩
  rw [foldChars] at hkept
  split at hkept
  · rename_i rest hstem
    rcases shortenBundle_spec '/' rest with hsame | ⟨short, path, -, hsep, hrest, hshortened⟩
    · exact hkept (by rw [hsame, hstem])
    · refine ⟨'@' :: short, bundleEnding, '/' :: path, extension, ?_, ?_, hextension,
        .inr ⟨rfl, ?_⟩⟩
      · rw [hcs, hstem, hrest]
        rfl
      · rw [foldChars, hstem]
        exact congrArg ('@' :: ·) hshortened
      · exact ⟨by simp, by simpa [divider] using hsep, rfl⟩
  · rename_i hstem
    rcases shortenBundle_spec ':' (dropExtension cs) with
      hsame | ⟨short, path, hne, hsep, hshort, hshortened⟩
    · exact hkept hsame
    · have hdivider : divider short = ':' := by
        obtain ⟨c, rest, rfl⟩ := List.exists_cons_of_ne_nil hne
        refine if_neg fun hat => ?_
        obtain rfl := Option.some.inj hat
        exact hstem _ hshort
      refine ⟨short, bundleEnding, ':' :: path, extension, ?_, ?_, hextension, .inr ⟨rfl, ?_⟩⟩
      · rw [← hshort, ← hcs]
      · rw [foldChars]
        split
        · rename_i rest hat
          exact absurd hat (hstem rest)
        · exact hshortened
      · exact ⟨hne, hdivider ▸ hsep, by rw [hdivider]; rfl⟩

/-- Which pieces were taken off is told by how many characters they have. -/
theorem pieces_eq_of_length : ∀ bundle ∈ bundleEndings, ∀ bundle' ∈ bundleEndings,
    ∀ extension ∈ foldedExtensions, ∀ extension' ∈ foldedExtensions,
      bundle.length + extension.length = bundle'.length + extension'.length →
        bundle = bundle' ∧ extension = extension' := by decide

/-- Letters by which the pieces that are taken off can be told apart. -/
def tellingLetters : List Char := ['u', 'g', 'h']

/-- Which pieces were taken off is told by how often they have three letters. -/
theorem pieces_eq_of_count : ∀ bundle ∈ bundleEndings, ∀ bundle' ∈ bundleEndings,
    ∀ extension ∈ foldedExtensions, ∀ extension' ∈ foldedExtensions,
      (tellingLetters.map fun letter =>
          (lowercase bundle).count letter + (lowercase extension).count letter) =
        (tellingLetters.map fun letter =>
          (lowercase bundle').count letter + (lowercase extension').count letter) →
        bundle = bundle' ∧ extension = extension' := by decide

/-- The telling letters are small letters and no blanks. -/
theorem tellingLetters_spec {letter : Char} (h : letter ∈ tellingLetters) :
    97 ≤ letter.toNat ∧ isBlank letter = false := by
  simp only [tellingLetters, List.mem_cons, List.not_mem_nil, or_false] at h
  rcases h with rfl | rfl | rfl <;> decide

theorem lowercase_append (xs ys : List Char) :
    lowercase (xs ++ ys) = lowercase xs ++ lowercase ys := List.map_append

/-- A text is cut at its first separator. -/
theorem cut_append_cons {sep : Char} {before : List Char} (h : sep ∉ before) (after : List Char) :
    cut sep (before ++ sep :: after) = some (before, after) := by
  induction before with
  | nil => exact if_pos rfl
  | cons c rest ih =>
    rw [List.mem_cons, not_or] at h
    rw [List.cons_append, cut, if_neg (Ne.symm h.1), ih h.2]
    rfl

/-- The separators come before the small letters in the order of characters. -/
theorem divider_lt (front : List Char) : (divider front).toNat < 97 := by
  rw [divider]
  split <;> decide

theorem toLower_divider (front : List Char) : (divider front).toLower = divider front := by
  rw [divider]
  split <;> decide

namespace Divided

variable {front front' back back' word word' : List Char}

/-- The separator that ends a bundle is not in the bundle in lower case either. -/
theorem not_mem_lowercase (h : Divided front back) : divider front ∉ lowercase front := by
  intro hmem
  obtain ⟨c, hc, hlower⟩ := List.mem_map.mp hmem
  exact h.not_mem_front (eq_of_toLower_eq (divider_lt front) hlower ▸ hc)

/-- In lower case the back still begins with the separator that ends the bundle. -/
theorem lowercase_back (h : Divided front back) :
    ∃ path, lowercase back = divider front :: path := by
  obtain ⟨path, rfl⟩ := List.head?_eq_some_iff.mp h.head?_back
  exact ⟨lowercase path, congrArg (· :: lowercase path) (toLower_divider front)⟩

/-- Bundles that begin alike in lower case end at the same separator. -/
theorem divider_congr (h : Divided front back) (h' : Divided front' back')
    (heq : lowercase front ++ word = lowercase front' ++ word') :
    divider front = divider front' := by
  obtain ⟨c, rest, rfl⟩ := List.exists_cons_of_ne_nil h.front_ne_nil
  obtain ⟨c', rest', rfl⟩ := List.exists_cons_of_ne_nil h'.front_ne_nil
  have hhead : c.toLower = c'.toLower := (List.cons.inj heq).1
  have hat : c = '@' ↔ c' = '@' := by
    constructor
    · rintro rfl
      exact eq_of_toLower_eq (by decide) hhead.symm
    · rintro rfl
      exact eq_of_toLower_eq (by decide) hhead
  simp only [divider, List.head?_cons, Option.some.injEq, hat]

/-- The front and the back are told by the whole in lower case, also with a word without separators
between them. -/
theorem lowercase_eq (h : Divided front back) (h' : Divided front' back') (hslash : '/' ∉ word)
    (hcolon : ':' ∉ word)
    (heq : lowercase front ++ word ++ lowercase back =
      lowercase front' ++ word ++ lowercase back') :
    lowercase front = lowercase front' ∧ lowercase back = lowercase back' := by
  have hdivider : divider front = divider front' := by
    rw [List.append_assoc, List.append_assoc] at heq
    exact h.divider_congr h' heq
  have hword (front : List Char) : divider front ∉ word := by
    rw [divider]
    split
    · exact hslash
    · exact hcolon
  have hfront {front back : List Char} (h : Divided front back) :
      divider front ∉ lowercase front ++ word := by
    rw [List.mem_append, not_or]
    exact ⟨h.not_mem_lowercase, hword front⟩
  obtain ⟨path, hpath⟩ := h.lowercase_back
  obtain ⟨path', hpath'⟩ := h'.lowercase_back
  have hcut := congrArg (cut (divider front)) heq
  rw [hpath, hpath', cut_append_cons (hfront h), hdivider, cut_append_cons (hfront h'),
    Option.some.injEq, Prod.mk.injEq] at hcut
  rw [hpath, hpath', hdivider, hcut.2]
  exact ⟨List.append_cancel_right hcut.1, rfl⟩

end Divided

namespace Folding

variable {cs cs' front front' bundle bundle' back back' extension extension' word : List Char}

/-- What is taken off the bundle is its ending, or nothing. -/
theorem bundle_mem (h : Folding cs front bundle back extension) : bundle ∈ bundleEndings := by
  rcases h.bundle_or with ⟨rfl, -⟩ | ⟨rfl, -⟩ <;> simp [bundleEndings]

/-- Folding makes a spelling shorter by the ending and the extension that it takes off. -/
theorem length_eq (h : Folding cs front bundle back extension) :
    cs.length = (foldChars cs).length + (bundle.length + extension.length) := by
  rw [h.folded_eq, h.spelling_eq]
  simp only [List.length_append]
  omega

/-- Folding takes of each letter as many as there are in the ending and in the extension. -/
theorem count_lowercase (h : Folding cs front bundle back extension) (letter : Char) :
    (lowercase cs).count letter = (lowercase (foldChars cs)).count letter +
      ((lowercase bundle).count letter + (lowercase extension).count letter) := by
  rw [h.folded_eq, h.spelling_eq]
  simp only [lowercase_append, List.count_append]
  omega

/-- Where the same was taken off two bundles, what was kept is told by the whole in lower case, also
with a word without separators in place of what was taken off. -/
theorem lowercase_eq (h : Folding cs front bundle back extension)
    (h' : Folding cs' front' bundle back' extension') (hslash : '/' ∉ word) (hcolon : ':' ∉ word)
    (heq : lowercase front ++ word ++ lowercase back =
      lowercase front' ++ word ++ lowercase back') :
    lowercase front = lowercase front' ∧ lowercase back = lowercase back' := by
  have hne : bundleEnding ≠ [] := by decide
  rcases h.bundle_or with ⟨hnone, rfl⟩ | ⟨hsome, hdivided⟩ <;>
    rcases h'.bundle_or with ⟨hnone', rfl⟩ | ⟨hsome', hdivided'⟩
  · exact ⟨List.append_cancel_right (List.append_cancel_right heq), rfl⟩
  · exact absurd (hsome'.symm.trans hnone) hne
  · exact absurd (hsome.symm.trans hnone') hne
  · exact hdivided.lowercase_eq hdivided' hslash hcolon heq

/-- Spellings of one key that fold to one label lost the same pieces, because they have the same
letters. -/
theorem pieces_eq (h : Folding cs front bundle back extension)
    (h' : Folding cs' front' bundle' back' extension')
    (hkey : normalizeChars cs = normalizeChars cs')
    (hlabel : lowercase (foldChars cs) = lowercase (foldChars cs')) :
    bundle = bundle' ∧ extension = extension' := by
  refine pieces_eq_of_count bundle h.bundle_mem bundle' h'.bundle_mem extension h.extension_mem
    extension' h'.extension_mem (List.map_congr_left fun letter hletter => ?_)
  obtain ⟨hsmall, hblank⟩ := tellingLetters_spec hletter
  have hcount (cs : List Char) := count_normalizeChars hsmall hblank cs
  have hcounts := (hcount cs).symm.trans ((congrArg (List.count letter) hkey).trans (hcount cs'))
  rw [h.count_lowercase, h'.count_lowercase, hlabel] at hcounts
  exact Nat.add_left_cancel hcounts

/-- Spellings of one key fold to one label exactly if they are alike but for the case of letters and
what they fold to is equally long. -/
theorem lowercase_foldChars_eq_iff (hkey : normalizeChars cs = normalizeChars cs') :
    lowercase (foldChars cs) = lowercase (foldChars cs') ↔
      lowercase cs = lowercase cs' ∧ (foldChars cs).length = (foldChars cs').length := by
  obtain ⟨front, bundle, back, extension, h⟩ := exists_folding cs
  obtain ⟨front', bundle', back', extension', h'⟩ := exists_folding cs'
  constructor
  · intro hlabel
    obtain ⟨rfl, rfl⟩ := h.pieces_eq h' hkey hlabel
    refine ⟨?_, by simpa [lowercase] using congrArg List.length hlabel⟩
    rw [h.folded_eq, h'.folded_eq, lowercase_append, lowercase_append] at hlabel
    have hnothing : '/' ∉ ([] : List Char) ∧ ':' ∉ ([] : List Char) := by decide
    obtain ⟨hfront, hback⟩ := h.lowercase_eq h' hnothing.1 hnothing.2 (by simpa using hlabel)
    rw [h.spelling_eq, h'.spelling_eq]
    simp only [lowercase_append, hfront, hback]
  · rintro ⟨hcs, hlength⟩
    have hpieces : bundle.length + extension.length = bundle'.length + extension'.length := by
      have hwhole : cs.length = cs'.length := by simpa [lowercase] using congrArg List.length hcs
      rw [h.length_eq, h'.length_eq, hlength] at hwhole
      exact Nat.add_left_cancel hwhole
    obtain ⟨rfl, rfl⟩ := pieces_eq_of_length bundle h.bundle_mem bundle' h'.bundle_mem extension
      h.extension_mem extension' h'.extension_mem hpieces
    have hbundle : ∀ bundle ∈ bundleEndings,
        '/' ∉ lowercase bundle ∧ ':' ∉ lowercase bundle := by decide
    obtain ⟨hslash, hcolon⟩ := hbundle bundle h.bundle_mem
    rw [h.spelling_eq, h'.spelling_eq] at hcs
    simp only [lowercase_append] at hcs
    obtain ⟨hfront, hback⟩ := h.lowercase_eq h' hslash hcolon (List.append_cancel_right hcs)
    rw [h.folded_eq, h'.folded_eq, lowercase_append, lowercase_append, hfront, hback]

end Folding

namespace LogicalName

/-- Two names are spelled alike but for the case of ASCII letters. -/
def SpelledAlike (m n : LogicalName) : Prop := lowercase m.raw.toList = lowercase n.raw.toList

/-- Names of one key have one label exactly if they are spelled alike but for the case of letters
and their folded forms are equally long. -/
theorem labelKey_eq_iff {m n : LogicalName} (h : identity m = identity n) :
    m.labelKey = n.labelKey ↔
      m.SpelledAlike n ∧ (foldName m.raw).length = (foldName n.raw).length := by
  have hkey : normalizeChars m.raw.toList = normalizeChars n.raw.toList := by
    have hnormalized : normalize m.raw = normalize n.raw :=
      m.key_eq.symm.trans (Eq.trans h n.key_eq)
    exact String.ofList_injective hnormalized
  rw [labelKey, labelKey, String.ofList_inj, Folding.lowercase_foldChars_eq_iff hkey]
  simp only [SpelledAlike, foldName, String.length_ofList]

end LogicalName

end TwigRelations
