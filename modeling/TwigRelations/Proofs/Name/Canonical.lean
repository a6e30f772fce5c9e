import TwigRelations.Proofs.Name.Letters

/-!
# Keys as spellings

The key of a name is itself a spelling, and nearly always one with that very key: its separators are
single, its letters are small, and no blank is at its end. Only its front need not be settled. One
leading `./` is dropped, and that after the blanks around the name, so that a further `./` or a
blank can come to stand in front.
-/

namespace TwigRelations

namespace Text

variable {c : Char} {cs : List Char}

/-- Blanks have no case. -/
theorem isBlank_toLower (c : Char) : isBlank c.toLower = isBlank c := by
  rcases toLower_cases c with hself | ⟨hcapital, hlower⟩
  · rw [hself]
  · rw [isBlank_eq_false (by omega), isBlank_eq_false (by omega)]

theorem toLower_toLower (c : Char) : c.toLower.toLower = c.toLower := by
  rcases toLower_cases c with hself | ⟨hcapital, hlower⟩
  · rw [hself, hself]
  · exact (toLower_cases c.toLower).resolve_right fun h => by omega

/-- A character that is no letter of ASCII is the only one lowercased to it. -/
theorem toLower_eq_iff {d : Char} (hd : d.toNat < 65) : c.toLower = d ↔ c = d := by
  refine ⟨eq_of_toLower_eq (by omega), ?_⟩
  rintro rfl
  exact (toLower_cases c).resolve_right fun h => by omega

/-- Lowercasing brings no separators side by side. -/
theorem isChain_lowercase {sep : Char} (hsep : sep.toNat < 65) (h : cs.IsChain (Apart sep)) :
    (lowercase cs).IsChain (Apart sep) := by
  rw [lowercase, List.isChain_map]
  refine h.imp fun a b hapart => ?_
  rwa [Apart, toLower_eq_iff hsep, toLower_eq_iff hsep]

/-- A map that leaves every character of a text leaves the text. -/
theorem map_eq_self {f : Char → Char} (h : ∀ c ∈ cs, f c = c) : cs.map f = cs :=
  (List.map_congr_left h).trans (List.map_id cs)

/-- A text that does not end in a blank has none at its end to be taken off. -/
theorem trimEnd_eq_self (h : ∀ c ∈ cs.getLast?, isBlank c = false) : trimEnd cs = cs := by
  obtain ⟨blanks, heq, hblanks⟩ := trimEnd_append_blanks cs
  cases hlast : blanks.getLast? with
  | none =>
    rw [List.getLast?_eq_none_iff.mp hlast, List.append_nil] at heq
    exact heq.symm
  | some c =>
    have hend : c ∈ cs.getLast? := by
      rw [heq, List.getLast?_append, hlast]
      rfl
    have hblank := hblanks c (List.mem_of_getLast? hlast)
    rw [h c hend] at hblank
    contradiction

/-- Text has no blanks in front exactly if it does not begin with one. -/
theorem dropWhile_isBlank_eq_self_iff (cs : List Char) :
    cs.dropWhile isBlank = cs ↔ cs.head?.any isBlank = false := by
  rw [List.dropWhile_eq_self_iff]
  cases cs <;> simp

/-- Trimmed text does not begin with a blank. -/
theorem head?_trim (cs : List Char) : ∀ c ∈ (trim cs).head?, isBlank c = false := by
  intro c hc
  obtain ⟨blanks, heq, -⟩ := trimEnd_append_blanks (cs.dropWhile isBlank)
  have hfront : (cs.dropWhile isBlank).head? = some c := by
    rw [heq, List.head?_append]
    rw [trim, Option.mem_def] at hc
    rw [hc]
    rfl
  have hnot := List.head?_dropWhile_not isBlank cs
  rw [hfront] at hnot
  simpa using hnot

end Text

open Text

/-- The text trimmed and with single forward slashes and single colons. -/
def separated (cs : List Char) : List Char :=
  collapse ':' (collapse '/' (readAs '\\' '/' (trim cs)))

/-- Whether there is something in front of a text that normalizing takes off: a blank or a `./`. -/
def hasLooseFront (cs : List Char) : Bool := ['.', '/'].isPrefixOf cs || cs.head?.any isBlank

/-- A text has single separators, and no blank at its end. -/
structure IsSeparated (cs : List Char) : Prop where
  /-- Every separator is a forward slash or a colon. -/
  backslash_not_mem : '\\' ∉ cs
  /-- No two slashes stand side by side. -/
  slashes_apart : cs.IsChain (Apart '/')
  /-- No two colons stand side by side. -/
  colons_apart : cs.IsChain (Apart ':')
  /-- No blank ends the text. -/
  last_not_blank : ∀ c ∈ cs.getLast?, isBlank c = false

variable {cs cs' : List Char}

/-- Either a text begins with `./`, which is dropped, or it is kept as it is. -/
theorem dropDotSlash_cases (cs : List Char) :
    (∃ rest, cs = '.' :: '/' :: rest ∧ dropDotSlash cs = rest) ∨
      ['.', '/'].isPrefixOf cs = false ∧ dropDotSlash cs = cs := by
  unfold dropDotSlash
  split
  · rename_i rest
    exact .inl ⟨rest, rfl, rfl⟩
  · rename_i hne
    refine .inr ⟨?_, rfl⟩
    rw [Bool.eq_false_iff, ne_eq, List.isPrefixOf_iff_prefix]
    rintro ⟨rest, rfl⟩
    exact hne rest rfl

/-- Only the front of a text is dropped. -/
theorem dropDotSlash_suffix (cs : List Char) : dropDotSlash cs <:+ cs := by
  rcases dropDotSlash_cases cs with ⟨rest, rfl, hdrop⟩ | ⟨-, hdrop⟩
  · exact ⟨['.', '/'], congrArg (['.', '/'] ++ ·) hdrop⟩
  · exact ⟨[], hdrop⟩

/-- Lowercasing leaves what is loose in front. -/
theorem hasLooseFront_lowercase (cs : List Char) :
    hasLooseFront (lowercase cs) = hasLooseFront cs := by
  have hstart : (lowercase cs).head?.any isBlank = cs.head?.any isBlank := by
    rw [lowercase, List.head?_map, Option.any_map, funext isBlank_toLower]
  rw [hasLooseFront, hstart, hasLooseFront, Bool.eq_iff_iff]
  rcases cs with _ | ⟨a, _ | ⟨b, rest⟩⟩
  · rfl
  · simp [lowercase, List.isPrefixOf]
  · simp [lowercase, List.isPrefixOf, @eq_comm _ '.', @eq_comm _ '/', toLower_eq_iff]

namespace IsSeparated

theorem of_suffix (h : IsSeparated cs) (hsuffix : cs' <:+ cs) : IsSeparated cs' where
  backslash_not_mem := fun hmem => h.backslash_not_mem (hsuffix.mem hmem)
  slashes_apart := h.slashes_apart.suffix hsuffix
  colons_apart := h.colons_apart.suffix hsuffix
  last_not_blank := by
    intro c hc
    obtain ⟨front, rfl⟩ := hsuffix
    refine h.last_not_blank c ?_
    rw [List.getLast?_append, Option.mem_def.mp hc]
    rfl

/-- Lowercasing keeps separators single. -/
theorem lowercase (h : IsSeparated cs) : IsSeparated (Text.lowercase cs) where
  backslash_not_mem := by
    rw [Text.lowercase, List.mem_map]
    rintro ⟨c, hc, hlower⟩
    exact h.backslash_not_mem (eq_of_toLower_eq (by decide) hlower ▸ hc)
  slashes_apart := isChain_lowercase (by decide) h.slashes_apart
  colons_apart := isChain_lowercase (by decide) h.colons_apart
  last_not_blank := by
    intro c hc
    rw [Text.lowercase, List.getLast?_map, Option.mem_def, Option.map_eq_some_iff] at hc
    obtain ⟨d, hd, rfl⟩ := hc
    rw [isBlank_toLower]
    exact h.last_not_blank d hd

/-- Normalizing takes nothing off a text with single separators but at its front. -/
theorem separated_eq (h : IsSeparated cs) : separated cs = cs.dropWhile isBlank := by
  have hrest : IsSeparated (cs.dropWhile isBlank) := h.of_suffix (List.dropWhile_suffix isBlank)
  have htrim : trim cs = cs.dropWhile isBlank := trimEnd_eq_self hrest.last_not_blank
  have hread : readAs '\\' '/' (trim cs) = cs.dropWhile isBlank := by
    rw [htrim]
    refine map_eq_self fun c hc => if_neg ?_
    rintro rfl
    exact hrest.backslash_not_mem hc
  rw [separated, hread, collapse_eq_squeeze, collapse_eq_squeeze,
    squeeze_eq_self hrest.slashes_apart, squeeze_eq_self hrest.colons_apart]

end IsSeparated

/-- Reading backslashes as slashes leaves blanks. -/
theorem isBlank_readAs (c : Char) : isBlank (if c = '\\' then '/' else c) = isBlank c := by
  split
  · rename_i hback
    rw [hback]
    decide
  · rfl

/-- A separated text does not begin with a blank. -/
theorem head?_separated (cs : List Char) : ∀ c ∈ (separated cs).head?, isBlank c = false := by
  intro c hc
  rw [separated, collapse_eq_squeeze, head?_squeeze, collapse_eq_squeeze, head?_squeeze, readAs,
    List.head?_map, Option.mem_def, Option.map_eq_some_iff] at hc
  obtain ⟨d, hd, rfl⟩ := hc
  rw [isBlank_readAs]
  exact head?_trim cs d hd

/-- The separators of a separated text are single, and no blank ends it. -/
theorem isSeparated_separated (cs : List Char) : IsSeparated (separated cs) where
  backslash_not_mem := by
    rw [separated, collapse_eq_squeeze, collapse_eq_squeeze]
    intro hmem
    obtain ⟨c, -, hread⟩ :=
      List.mem_map.mp ((squeeze_sublist _ _).mem ((squeeze_sublist _ _).mem hmem))
    split at hread
    · contradiction
    · contradiction
  slashes_apart := by
    rw [separated, collapse_eq_squeeze, collapse_eq_squeeze]
    exact isChain_squeeze_of_isChain (isChain_squeeze '/' _)
  colons_apart := by
    rw [separated, collapse_eq_squeeze]
    exact isChain_squeeze ':' _
  last_not_blank := by
    intro c hc
    rw [separated, collapse_eq_squeeze, getLast?_squeeze, collapse_eq_squeeze, getLast?_squeeze,
      readAs, List.getLast?_map, Option.mem_def, Option.map_eq_some_iff] at hc
    obtain ⟨d, hd, rfl⟩ := hc
    rw [isBlank_readAs]
    exact getLast?_trimEnd _ d hd

/-- The separators of a key are single, and no blank ends it. -/
theorem isSeparated_normalizeChars (cs : List Char) : IsSeparated (normalizeChars cs) :=
  ((isSeparated_separated cs).of_suffix (dropDotSlash_suffix _)).lowercase

/-- A key is in lower case. -/
theorem toLower_of_mem_normalizeChars {c : Char} (h : c ∈ normalizeChars cs) : c.toLower = c := by
  obtain ⟨d, -, rfl⟩ := List.mem_map.mp h
  exact toLower_toLower d

/-- Normalizing a key takes the blanks off its front, and then a `./`. -/
theorem normalizeChars_normalizeChars (cs : List Char) :
    normalizeChars (normalizeChars cs) = dropDotSlash ((normalizeChars cs).dropWhile isBlank) := by
  have hseparated : separated (normalizeChars cs) = (normalizeChars cs).dropWhile isBlank :=
    (isSeparated_normalizeChars cs).separated_eq
  have hrest : dropDotSlash ((normalizeChars cs).dropWhile isBlank) <:+ normalizeChars cs :=
    (dropDotSlash_suffix _).trans (List.dropWhile_suffix isBlank)
  calc normalizeChars (normalizeChars cs)
      = lowercase (dropDotSlash (separated (normalizeChars cs))) := rfl
    _ = lowercase (dropDotSlash ((normalizeChars cs).dropWhile isBlank)) := by rw [hseparated]
    _ = dropDotSlash ((normalizeChars cs).dropWhile isBlank) :=
      map_eq_self fun c hc => toLower_of_mem_normalizeChars (hrest.mem hc)

/-- Taking off blanks and a `./` changes a text exactly if there are any. -/
theorem dropDotSlash_dropWhile_eq_self_iff (cs : List Char) :
    dropDotSlash (cs.dropWhile isBlank) = cs ↔ hasLooseFront cs = false := by
  have hdropped : (cs.dropWhile isBlank).length ≤ cs.length :=
    (List.dropWhile_suffix isBlank).length_le
  rw [hasLooseFront, Bool.or_eq_false_iff]
  constructor
  · intro h
    -- Nothing can be taken off, or the text would be shorter.
    rcases dropDotSlash_cases (cs.dropWhile isBlank) with ⟨rest, hrest, hdrop⟩ | ⟨hnot, hdrop⟩
    · rw [hrest, ← hdrop, h, List.length_cons, List.length_cons] at hdropped
      omega
    · rw [hdrop] at h
      exact ⟨h ▸ hnot, (dropWhile_isBlank_eq_self_iff cs).mp h⟩
  · rintro ⟨hnot, hstart⟩
    rw [(dropWhile_isBlank_eq_self_iff cs).mpr hstart]
    rcases dropDotSlash_cases cs with ⟨rest, rfl, -⟩ | ⟨-, hdrop⟩
    · contradiction
    · exact hdrop

/-- A key has something loose in front exactly if that stands behind a leading `./` of its spelling,
once that is trimmed and its separators are single. -/
theorem hasLooseFront_normalizeChars (cs : List Char) :
    hasLooseFront (normalizeChars cs) = true ↔
      ∃ rest, separated cs = '.' :: '/' :: rest ∧ hasLooseFront rest = true := by
  change hasLooseFront (lowercase (dropDotSlash (separated cs))) = true ↔ _
  rw [hasLooseFront_lowercase]
  rcases dropDotSlash_cases (separated cs) with ⟨rest, hrest, hdrop⟩ | ⟨hnot, hdrop⟩
  · rw [hdrop, hrest]
    simp
  · have hstart : (separated cs).head?.any isBlank = false := by
      rw [Bool.eq_false_iff, ne_eq, Option.any_eq_true]
      rintro ⟨c, hc, hblank⟩
      rw [head?_separated cs c hc] at hblank
      contradiction
    constructor
    · rw [hdrop, hasLooseFront, hnot, hstart]
      simp
    · rintro ⟨rest, hrest, -⟩
      rw [hrest] at hnot
      simp at hnot

/-- The key of a name is its own key, and spells a name equal to it, except if the spelling begins
with a `./` that a blank or a further `./` stands behind. -/
theorem normalize_normalize_iff (s : String) :
    (normalize (normalize s) = normalize s ↔ hasLooseFront (normalize s).toList = false) ∧
      (identity (LogicalName.ofString (normalize s)) = identity (LogicalName.ofString s) ↔
        hasLooseFront (normalize s).toList = false) ∧
      (hasLooseFront (normalize s).toList = true ↔
        ∃ rest, separated s.toList = '.' :: '/' :: rest ∧ hasLooseFront rest = true) := by
  have hkey : (normalize s).toList = normalizeChars s.toList := String.toList_ofList
  have htwice : normalize (normalize s) = normalize s ↔
      hasLooseFront (normalize s).toList = false := by
    rw [normalize, normalize, String.ofList_inj, String.toList_ofList,
      normalizeChars_normalizeChars, dropDotSlash_dropWhile_eq_self_iff]
  refine ⟨htwice, htwice, ?_⟩
  rw [hkey, hasLooseFront_normalizeChars]

/-- Only one leading `./` is dropped, so a name with two of them is not equal to the name that its
key spells. -/
theorem normalize_normalize_ne : normalize (normalize "././a") ≠ normalize "././a" ∧
    identity (LogicalName.ofString (normalize "././a")) ≠
      identity (LogicalName.ofString "././a") := by
  decide

end TwigRelations
