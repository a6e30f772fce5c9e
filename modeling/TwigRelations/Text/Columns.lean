import TwigRelations.Text.Emoji
import TwigRelations.Text.Extending

/-!
# Terminal columns

The number of columns that a line takes on a terminal. A character counts as many as it takes on its
own, unless it joins what stands behind it, or a selector behind it asks for another form of it. The
tables are those of Unicode 18.
-/

namespace TwigRelations.Text

/-! ## Single characters

The number of columns that a character takes when nothing joins it. A wide East Asian character
takes two columns, a character that extends the one before it or is not shown takes none, and nearly
every other character takes one. A code point that stands for no character yet takes one as well,
unless it is set aside for ideographs, which are wide, or for what is not shown.
-/

/-- The code points whose East_Asian_Width is wide or fullwidth, with those set aside for
ideographs. -/
def wideRanges : List (Nat × Nat) :=
  [(0x1100, 0x115F), (0x231A, 0x231B), (0x2329, 0x232A), (0x23E9, 0x23EC), (0x23F0, 0x23F0),
    (0x23F3, 0x23F3), (0x25FD, 0x25FE), (0x2614, 0x2615), (0x2630, 0x2637), (0x2648, 0x2653),
    (0x267F, 0x267F), (0x268A, 0x268F), (0x2693, 0x2693), (0x26A1, 0x26A1), (0x26AA, 0x26AB),
    (0x26BD, 0x26BE), (0x26C4, 0x26C5), (0x26CE, 0x26CE), (0x26D4, 0x26D4), (0x26EA, 0x26EA),
    (0x26F2, 0x26F3), (0x26F5, 0x26F5), (0x26FA, 0x26FA), (0x26FD, 0x26FD), (0x2705, 0x2705),
    (0x270A, 0x270B), (0x2728, 0x2728), (0x274C, 0x274C), (0x274E, 0x274E), (0x2753, 0x2755),
    (0x2757, 0x2757), (0x2795, 0x2797), (0x27B0, 0x27B0), (0x27BF, 0x27BF), (0x2B1B, 0x2B1C),
    (0x2B50, 0x2B50), (0x2B55, 0x2B55), (0x2E80, 0x2E99), (0x2E9B, 0x2EF3), (0x2F00, 0x2FD5),
    (0x2FF0, 0x303E), (0x3041, 0x3096), (0x3099, 0x30FF), (0x3105, 0x312F), (0x3131, 0x318E),
    (0x3190, 0x31E5), (0x31EF, 0x321E), (0x3220, 0x3247), (0x3250, 0xA48C), (0xA490, 0xA4C6),
    (0xA960, 0xA97C), (0xAC00, 0xD7A3), (0xF900, 0xFAFF), (0xFE10, 0xFE19), (0xFE30, 0xFE52),
    (0xFE54, 0xFE66), (0xFE68, 0xFE6B), (0xFF01, 0xFF60), (0xFFE0, 0xFFE6), (0x16FE0, 0x16FE4),
    (0x16FF0, 0x16FF6), (0x17000, 0x18CD9), (0x18CFF, 0x18D20), (0x18D80, 0x18DF2),
    (0x18E00, 0x19191), (0x191A0, 0x191D2), (0x1AFF0, 0x1AFF3), (0x1AFF5, 0x1AFFB),
    (0x1AFFD, 0x1AFFE), (0x1B000, 0x1B126), (0x1B132, 0x1B132), (0x1B150, 0x1B152),
    (0x1B155, 0x1B155), (0x1B164, 0x1B168), (0x1B170, 0x1B2FB), (0x1D300, 0x1D356),
    (0x1D360, 0x1D376), (0x1F004, 0x1F004), (0x1F0CF, 0x1F0CF), (0x1F18E, 0x1F18E),
    (0x1F191, 0x1F19A), (0x1F1AE, 0x1F1AE), (0x1F200, 0x1F202), (0x1F210, 0x1F23B),
    (0x1F240, 0x1F248), (0x1F250, 0x1F251), (0x1F260, 0x1F265), (0x1F300, 0x1F320),
    (0x1F32D, 0x1F335), (0x1F337, 0x1F37C), (0x1F37E, 0x1F393), (0x1F3A0, 0x1F3CA),
    (0x1F3CF, 0x1F3D3), (0x1F3E0, 0x1F3F0), (0x1F3F4, 0x1F3F4), (0x1F3F8, 0x1F43E),
    (0x1F440, 0x1F440), (0x1F442, 0x1F4FC), (0x1F4FF, 0x1F53D), (0x1F54B, 0x1F54E),
    (0x1F550, 0x1F567), (0x1F57A, 0x1F57A), (0x1F595, 0x1F596), (0x1F5A4, 0x1F5A4),
    (0x1F5FB, 0x1F64F), (0x1F680, 0x1F6C5), (0x1F6CC, 0x1F6CC), (0x1F6D0, 0x1F6D2),
    (0x1F6D5, 0x1F6D9), (0x1F6DC, 0x1F6DF), (0x1F6EB, 0x1F6EC), (0x1F6F4, 0x1F6FC),
    (0x1F7DA, 0x1F7DA), (0x1F7E0, 0x1F7EB), (0x1F7F0, 0x1F7F0), (0x1F90C, 0x1F93A),
    (0x1F93C, 0x1F945), (0x1F947, 0x1F9FF), (0x1FA70, 0x1FA7C), (0x1FA80, 0x1FAC6),
    (0x1FAC8, 0x1FAC8), (0x1FACC, 0x1FADD), (0x1FADF, 0x1FAEB), (0x1FAEF, 0x1FAFA),
    (0x20000, 0x2FFFD), (0x30000, 0x3FFFD)]

/-- The code points of vowel and trailing jamo, which are drawn into the syllable that they end. -/
def jamoRanges : List (Nat × Nat) :=
  [(0x1160, 0x11FF), (0xD7B0, 0xD7C6), (0xD7CB, 0xD7FB)]

/-- The code points of signs that are drawn above or below what follows them, and of letters that
are drawn into it. -/
def leadingRanges : List (Nat × Nat) :=
  [(0x605, 0x605), (0x70F, 0x70F), (0x890, 0x891), (0x8E2, 0x8E2), (0xD4E, 0xD4E), (0xA8FA, 0xA8FA),
    (0x111C2, 0x111C3), (0x113D1, 0x113D1), (0x1193F, 0x1193F), (0x11941, 0x11941),
    (0x11A84, 0x11A89), (0x11D46, 0x11D46), (0x11F02, 0x11F02)]

/-- Whether a code point takes no column, the exceptions of `codeColumns` apart. -/
def isCellless (n : Nat) : Bool :=
  isIgnorable n || isExtending n || inRanges jamoRanges n || inRanges leadingRanges n

/-- The number of columns of a code point on its own. The joiner of Tifinagh is shown unless it
joins, the filler of a leading jamo holds the place of a syllable, and the sign for the end of a
list in Khmer is as wide as three letters. -/
def codeColumns (n : Nat) : Nat :=
  if n = 0x2D7F then 1
  else if n = 0x115F || n = 0x17A4 then 2
  else if n = 0x17D8 then 3
  else if isCellless n then 0
  else if inRanges wideRanges n then 2
  else 1

/-- An ASCII character takes one column. -/
theorem codeColumns_eq_one {n : Nat} (h : n < 0x80) : codeColumns n = 1 := by
  have key : ∀ m : Fin 0x80, codeColumns m = 1 := by decide
  exact key ⟨n, h⟩

/-! ## Characters that share columns

Some characters are drawn as one sign with what stands behind them, so that the two take fewer
columns together than each on its own: the parts of an emoji, and the ligatures of several scripts.
A line is read from its end, and of what has been read only that is remembered which the character
before it may join. Characters are given by their code points.
-/

/-- The code point of the zero-width joiner. -/
def joiner : Nat := 0x200D

/-- The second parts of ligatures whose first part is still to be read. -/
inductive LigatureEnd where
  /-- The Hebrew letter lamed, after alef and a joiner. -/
  | lamed
  /-- The Buginese letter ya, after the vowel sign i and a joiner. -/
  | ya
  /-- The Buginese vowel sign i with a joiner and the letter ya, after the letter a. -/
  | vowelAndYa
  /-- A Tifinagh consonant, after another one and a joiner of either kind. -/
  | consonant
  /-- The joiner of Tifinagh with a consonant, after another one. -/
  | joinerAndConsonant
  /-- The second one of two Lisu tone letters. -/
  | secondTone
  /-- The Old Turkic letter i, after the letter ec and a joiner. -/
  | orkhonI
  /-- A Khmer letter with a form below the line, after the sign coeng. -/
  | subscribable
  deriving DecidableEq, Repr

/-- How many regional indicators stand before a joiner with an emoji behind it. -/
inductive FlagHalves where
  | one
  | even
  | odd
  deriving DecidableEq, Repr

/-- The end of the name of a region: how many of its letters or digits have been read. -/
inductive RegionName where
  | letters (count : Nat)
  | digits (count : Nat)
  deriving DecidableEq, Repr

/-- What has been read of a line, as far as the character before it may join it. -/
inductive Behind where
  /-- Nothing that can be joined. -/
  | plain
  /-- A skin tone. -/
  | tone
  /-- One regional indicator, or several. -/
  | regional (several : Bool)
  /-- An emoji. -/
  | emoji
  /-- A joiner with an emoji behind it. -/
  | joined
  /-- The frame of a keycap before a joined emoji. -/
  | keycap
  /-- Regional indicators before a joined emoji. -/
  | flag (halves : FlagHalves)
  /-- The end of the name of a region before a joined emoji. -/
  | region (name : RegionName)
  /-- The Kirat Rai vowel sign e, an odd number of times. -/
  | signE
  /-- The Kirat Rai vowel sign e, an even number of times. -/
  | signAI
  /-- A form of the Arabic letter alef. -/
  | alef
  /-- The end of another ligature, and whether a joiner stands before it. -/
  | ligature (part : LigatureEnd) (joined : Bool)
  deriving DecidableEq, Repr

/-- The code points that take no column but keep an Arabic ligature apart: those whose Joining_Type
is not Transparent. -/
def opaqueRanges : List (Nat × Nat) :=
  [(0x605, 0x605), (0x890, 0x891), (0x8E2, 0x8E2), (0x9BE, 0x9BE), (0x9D7, 0x9D7), (0xB3E, 0xB3E),
    (0xB57, 0xB57), (0xBBE, 0xBBE), (0xBD7, 0xBD7), (0xCC0, 0xCC0), (0xCC2, 0xCC2), (0xCC7, 0xCC8),
    (0xCCA, 0xCCB), (0xCD5, 0xCD6), (0xD3E, 0xD3E), (0xD4E, 0xD4E), (0xD57, 0xD57), (0xDCF, 0xDCF),
    (0xDDF, 0xDDF), (0x1160, 0x11FF), (0x1715, 0x1715), (0x1734, 0x1734), (0x180E, 0x180E),
    (0x1B35, 0x1B35), (0x1B3B, 0x1B3B), (0x1B3D, 0x1B3D), (0x1B43, 0x1B44), (0x1BAA, 0x1BAA),
    (0x1BF2, 0x1BF3), (0x200C, 0x200D), (0x2065, 0x2069), (0x302E, 0x302F), (0x3164, 0x3164),
    (0xA8FA, 0xA8FA), (0xA953, 0xA953), (0xA9C0, 0xA9C0), (0xD7B0, 0xD7C6), (0xD7CB, 0xD7FB),
    (0xFFA0, 0xFFA0), (0xFFF0, 0xFFF8), (0x111C0, 0x111C0), (0x111C2, 0x111C3), (0x11235, 0x11235),
    (0x1133E, 0x1133E), (0x1134D, 0x1134D), (0x11357, 0x11357), (0x113B8, 0x113B8),
    (0x113C2, 0x113C2), (0x113C5, 0x113C5), (0x113C7, 0x113C9), (0x113CF, 0x113CF),
    (0x113D1, 0x113D1), (0x114B0, 0x114B0), (0x114BD, 0x114BD), (0x115AF, 0x115AF),
    (0x116B6, 0x116B6), (0x11930, 0x11930), (0x1193D, 0x1193D), (0x1193F, 0x1193F),
    (0x11941, 0x11941), (0x11A84, 0x11A89), (0x11D46, 0x11D46), (0x11F02, 0x11F02),
    (0x11F41, 0x11F41), (0x16FF0, 0x16FF1), (0x1D165, 0x1D166), (0x1D16D, 0x1D172),
    (0x1D250, 0x1D252), (0x1D25F, 0x1D25F), (0x1D280, 0x1D281), (0xE0000, 0xE0000),
    (0xE0002, 0xE001F), (0xE0080, 0xE00FF), (0xE01F0, 0xE0FFF)]

/-- Whether an Arabic ligature is formed across a character. -/
def isTransparent (n : Nat) : Bool :=
  codeColumns n == 0 && !inRanges opaqueRanges n

/-- Whether every other ligature is formed across a character: an ignorable mark. -/
def isIgnorableMark (n : Nat) : Bool :=
  inRanges [(0x34F, 0x34F), (0x17B4, 0x17B5), (0x180B, 0x180D), (0x180F, 0x180F), (0xFE00, 0xFE0F),
    (0xE0100, 0xE01EF)] n

/-- Whether a character is a form of the Arabic letter lam. -/
def isLam (n : Nat) : Bool :=
  inRanges [(0x644, 0x644), (0x6B5, 0x6B8), (0x76A, 0x76A), (0x8A6, 0x8A6), (0x8C7, 0x8C7)] n

/-- Whether a character is a form of the Arabic letter alef. -/
def isAlef (n : Nat) : Bool :=
  inRanges [(0x622, 0x623), (0x625, 0x625), (0x627, 0x627), (0x671, 0x673), (0x675, 0x675),
    (0x773, 0x774), (0x870, 0x882)] n

/-- Whether a character is a Tifinagh consonant. -/
def isConsonant (n : Nat) : Bool := inRanges [(0x2D31, 0x2D65), (0x2D6F, 0x2D6F)] n

/-- Whether a character is a Khmer letter with a form below the line. -/
def isSubscribable (n : Nat) : Bool :=
  inRanges [(0x1780, 0x1782), (0x1784, 0x1787), (0x1789, 0x178C), (0x178E, 0x1793),
    (0x1795, 0x1798), (0x179B, 0x179D), (0x17A0, 0x17A0), (0x17A2, 0x17A2), (0x17A7, 0x17A7),
    (0x17AB, 0x17AC), (0x17AF, 0x17AF)] n

/-- What a character leaves to be joined when it joins nothing itself. -/
def Behind.ofCode (n : Nat) : Behind :=
  if n = 0x5DC then ligature .lamed false
  else if isAlef n then alef
  else if isSubscribable n then ligature .subscribable false
  else if n = 0x1A10 then ligature .ya false
  else if isConsonant n then ligature .consonant false
  else if n = 0xA4FC || n = 0xA4FD then ligature .secondTone false
  else if n = 0x10C03 then ligature .orkhonI false
  else if n = 0x16D67 then signE
  else if n = 0x16D68 then signAI
  else if isRegional n then regional false
  else if isTone n then tone
  else if isPicture n then emoji
  else plain

/-- An ASCII character leaves nothing to be joined. -/
theorem Behind.ofCode_eq_plain {n : Nat} (h : n < 0x80) : Behind.ofCode n = .plain := by
  have key : ∀ m : Fin 0x80, Behind.ofCode m = .plain := by decide
  exact key ⟨n, h⟩

/-- What a character adds to the columns of what it joins, and what can be joined then. A character
that takes the place of one behind it may add less than nothing. -/
abbrev Joint := Int × Behind

/-- How a character joins the end of a ligature, which may have a joiner before it. -/
def LigatureEnd.join (n : Nat) : LigatureEnd → Bool → Option Joint
  | lamed, true => if n = 0x5D0 then some (0, .plain) else none
  | ya, true => if n = 0x1A17 then some (0, .ligature .vowelAndYa false) else none
  | vowelAndYa, _ => if n = 0x1A15 then some (0, .plain) else none
  | consonant, joined =>
    if n = 0x2D7F then some (1, .ligature .joinerAndConsonant false)
    else if joined && isConsonant n then some (0, .plain)
    else none
  | joinerAndConsonant, _ => if isConsonant n then some (-1, .plain) else none
  | secondTone, _ => if 0xA4F8 ≤ n && n ≤ 0xA4FB then some (0, .plain) else none
  | orkhonI, true => if n = 0x10C32 then some (0, .plain) else none
  | subscribable, _ => if n = 0x17D2 then some (-1, .plain) else none
  | lamed, false | ya, false | orkhonI, false => none

/-- How a character joins the name of a region: letters and digits are counted, and the black flag
that they follow ends an emoji. -/
def RegionName.join (n : Nat) : RegionName → Option Joint
  | letters count =>
    if isTagLetter n && count < 6 then some (0, .region (letters (count + 1)))
    else if isTagDigit n && count < 5 then some (0, .region (digits 1))
    else if n = 0x1F3F4 && 3 ≤ count then some (0, .emoji)
    else none
  | digits count =>
    if isTagDigit n && count < 3 then some (0, .region (digits (count + 1)))
    else if n = 0x1F3F4 && count = 3 then some (0, .emoji)
    else none

/-- How a character joins what stands behind it, if it does. -/
def Behind.join (n : Nat) : Behind → Option Joint
  | plain | keycap => none
  | tone =>
    if takesTone n then some (0, emoji) else if n = joiner then some (0, joined) else none
  | regional several =>
    if isRegional n then some (1, regional true)
    else if several && n = joiner then some (0, joined)
    else none
  | emoji => if n = joiner then some (0, joined) else none
  | joined =>
    if n = 0x20E3 then some (0, keycap)
    else if isRegional n then some (1, flag .one)
    else if isTone n then some (0, tone)
    else if n = 0xE007F then some (0, region (.letters 0))
    else if isPicture n then some (0, emoji)
    else none
  | flag .one => if isRegional n then some (-1, flag .even) else none
  | flag .even =>
    if isRegional n then some (3, flag .odd) else if n = joiner then some (0, joined) else none
  | flag .odd =>
    if isRegional n then some (-1, flag .even) else if n = joiner then some (0, joined) else none
  | region name => name.join n
  | signE =>
    if n = 0x16D63 || n = 0x16D69 then some (0, plain)
    else if n = 0x16D67 then some (0, signAI)
    else if n = 0x16D68 then some (1, signE)
    else none
  | signAI => if n = 0x16D63 then some (0, plain) else none
  | alef =>
    if isLam n then some (0, plain) else if isTransparent n then some (0, alef) else none
  | ligature part isJoined =>
    if n = joiner then some (0, ligature part true)
    else if isIgnorableMark n then some (0, ligature part isJoined)
    else part.join n isJoined

/-! ## Lines

An emoji is wide in emoji style and narrow in text style, and a curly quote may be fullwidth.
-/

/-- The variation selectors that change how wide the character before them is. -/
inductive Selector where
  /-- Asks for the emoji style. -/
  | emoji
  /-- Asks for the text style. -/
  | text
  /-- Asks for the fullwidth form of a curly quote. -/
  | fullwidth
  deriving DecidableEq, Repr

/-- The selector that a code point is. -/
def Selector.ofCode? (n : Nat) : Option Selector :=
  if n = 0xFE0F then some emoji
  else if n = 0xFE0E then some text
  else if n = 0xFE01 then some fullwidth
  else none

/-- Whether a code point is a curly quote. -/
def isCurlyQuote (n : Nat) : Bool := inRanges [(0x2018, 0x2019), (0x201C, 0x201D)] n

namespace Behind

/-- Whether this is the end of a ligature of letters. -/
def isLetter : Behind → Bool
  | alef | ligature _ _ => true
  | _ => false

/-- Whether an emoji before this becomes part of it. -/
def isJoined : Behind → Bool
  | joined | keycap => true
  | _ => false

end Behind

/-- The part of a line that has been read: what of it may be joined, and the selectors before it. -/
structure Tail where
  /-- What may be joined. -/
  behind : Behind
  /-- The selectors that the next character has behind it, the nearest first. -/
  selectors : List Selector
  deriving DecidableEq, Repr

namespace Tail

/-- A tail without selectors. -/
def ofBehind (b : Behind) : Tail := ⟨b, []⟩

/-- What may be joined by a character that no selector changes. An emoji is not joined across
selectors that change nothing. -/
def unselected (t : Tail) : Behind :=
  if t.selectors.isEmpty || t.behind.isLetter then t.behind else .plain

/-- The tail with a selector before it. Ligatures are formed across selectors, and the emoji style
joins an emoji to the one behind it. -/
def select (t : Tail) (s : Selector) : Tail :=
  let b := t.unselected
  if b.isLetter then ⟨b, s :: t.selectors.filter (· ≠ .emoji)⟩
  else ⟨if s = .emoji && b.isJoined then b else .plain, [s]⟩

/-- What a selector makes of the character before it, if it changes it. -/
def selectedBy (n : Nat) (b : Behind) : Selector → Option Joint
  | .emoji => if isStyled n then some (if b.isJoined then 0 else 2, .emoji) else none
  | .text => if narrowsAsText n then some (1, .plain) else none
  | .fullwidth => if isCurlyQuote n then some (2, .plain) else none

/-- What a character adds to the columns of a tail, and the tail that it makes. -/
def step (t : Tail) (n : Nat) : Int × Tail :=
  match t.selectors.findSome? (selectedBy n t.behind) with
  | some (added, behind) => (added, ofBehind behind)
  | none =>
    match Selector.ofCode? n with
    | some s => (0, t.select s)
    | none =>
      match t.unselected.join n with
      | some (added, behind) => (added, ofBehind behind)
      | none => (codeColumns n, ofBehind (Behind.ofCode n))

end Tail

/-- The number of columns of a line read from its end, and its tail. -/
def readColumns (line : List Char) : Int × Tail :=
  line.foldr
    (fun c (total, tail) =>
      let (added, tail) := tail.step c.toNat
      (total + added, tail))
    (0, .ofBehind .plain)

/-- The number of terminal columns of a line. -/
def columns (line : List Char) : Nat := (readColumns line).1.toNat

/-- Where nothing can be joined an ASCII character takes one column and leaves nothing either. -/
theorem Tail.step_plain {n : Nat} (h : n < 0x80) :
    (ofBehind .plain).step n = (1, ofBehind .plain) := by
  have hs : Selector.ofCode? n = none := by
    unfold Selector.ofCode?
    rw [if_neg (by omega), if_neg (by omega), if_neg (by omega)]
  simp [step, ofBehind, hs, unselected, Behind.join, codeColumns_eq_one h,
    Behind.ofCode_eq_plain h]

/-- A line of ASCII characters takes as many columns as it has characters. -/
theorem columns_eq_length {line : List Char} (h : ∀ c ∈ line, c.toNat < 0x80) :
    columns line = line.length := by
  have key : readColumns line = ((line.length : Int), Tail.ofBehind .plain) := by
    induction line with
    | nil => rfl
    | cons c rest ih =>
      have hrest := ih fun d hd => h d (List.mem_cons_of_mem _ hd)
      have hc := h c (List.mem_cons_self ..)
      unfold readColumns at hrest ⊢
      rw [List.foldr_cons, hrest]
      simp [Tail.step_plain hc]
  rw [columns, key]
  rfl

end TwigRelations.Text
