/-!
# Tokens of JSON text

A text is cut into marks, words, numbers and strings; blanks between them do not count. A token that
is broken ends the text: nothing behind it is looked at.
-/

namespace TwigRelations.Json

/-! ## Faults

What is wrong with a text that should be JSON of a given shape. Of several faults the one that comes
first in the text counts.
-/

/-- The kinds of fault. -/
inductive Fault where
  /-- The text ends too early. -/
  | ended
  /-- The text is not JSON. -/
  | malformed
  /-- The text is JSON of another shape. -/
  | mismatch
  deriving DecidableEq, Repr

/-! ## Numbers

Only one kind of number is of use here: the natural numbers of 64 bits, written as plain digits. Any
other number is recognised as a number, unless it is too large for a double, in which case it can be
skipped but not read.
-/

/-- The largest number of 64 bits. -/
def maxNatural : Nat := UInt64.size - 1

/-- What a number in a text is. -/
inductive Numeral where
  /-- A natural number of 64 bits. -/
  | natural (n : Nat)
  /-- Another number that fits a double. -/
  | other
  /-- A number that is too large for a double. -/
  | tooLarge
  /-- No number: the fault met when reading it. Skipping it always finds it malformed. -/
  | broken (f : Fault)
  deriving DecidableEq, Repr

/-- The nearest number of at most 53 significant bits, ties to even. -/
def roundToDouble (n : Nat) : Nat :=
  if n < 1 <<< 53 then n
  else
    let shift := n.log2 - 52
    let kept := n >>> shift
    let dropped := n % (1 <<< shift)
    let half := 1 <<< (shift - 1)
    let kept := if half < dropped || (dropped == half && kept % 2 == 1) then kept + 1 else kept
    kept <<< shift

/-- Whether `m` times the `e`-th power of ten is too large for a double. Powers of ten above the
308th are not held. -/
def exceedsDouble (m : Nat) (e : Int) : Bool :=
  if m = 0 then false
  else if e > 308 then true
  else if e < 0 then false
  else (1 <<< 1024) - (1 <<< 970) ≤ roundToDouble m * roundToDouble (Nat.pow 10 e.toNat)

/-- Adds digits to a number while it stays within 64 bits. Gives the number, how many digits were
added, and how many were not. -/
def takeDigits (m : Nat) : List Char → Nat × Nat × Nat
  | [] => (m, 0, 0)
  | c :: rest =>
    let next := m * 10 + (c.toNat - '0'.toNat)
    if next ≤ maxNatural then
      let (m, taken, left) := takeDigits next rest
      (m, taken + 1, left)
    else (m, 0, rest.length + 1)

/-- The kind of a number that is no plain natural number. -/
def otherNumeral (m : Nat) (e : Int) : Numeral := if exceedsDouble m e then .tooLarge else .other

/-- The exponent part of a number and the text behind it, from behind the letter. -/
def scanExponent (m : Nat) (e : Int) (cs : List Char) : Numeral × List Char :=
  let (negative, cs) :=
    match cs with
    | '+' :: rest => (false, rest)
    | '-' :: rest => (true, rest)
    | _ => (false, cs)
  match cs with
  | [] => (.broken .ended, [])
  | c :: _ =>
    if c.isDigit then
      let digits := cs.takeWhile Char.isDigit
      let n : Int := Int.ofNat (digits.foldl (fun n c => n * 10 + (c.toNat - '0'.toNat)) 0)
      (otherNumeral m (if negative then e - n else e + n), cs.dropWhile Char.isDigit)
    else (.broken .malformed, [])

/-- The fraction part of a number and what follows it, from behind the point. -/
def scanFraction (m : Nat) (e : Int) (cs : List Char) : Numeral × List Char :=
  let digits := cs.takeWhile Char.isDigit
  let rest := cs.dropWhile Char.isDigit
  if digits.isEmpty then (.broken (if rest.isEmpty then .ended else .malformed), [])
  else
    let (m, taken, _) := takeDigits m digits
    let e := e - taken
    match rest with
    | 'e' :: after | 'E' :: after => scanExponent m e after
    | _ => (otherNumeral m e, rest)

/-- What follows the whole part of a number. -/
def scanAfterWhole (negative : Bool) (digits rest : List Char) : Numeral × List Char :=
  let (m, _, left) := takeDigits 0 digits
  match rest with
  | '.' :: after => scanFraction m left after
  | 'e' :: after | 'E' :: after => scanExponent m left after
  | _ =>
    if negative || left != 0 then (otherNumeral m left, rest) else (.natural m, rest)

/-- The number at the beginning of a text, from behind its sign, and the text behind it. A zero
cannot be followed by another digit. -/
def scanUnsigned (negative : Bool) (cs : List Char) : Numeral × List Char :=
  match cs with
  | [] => (.broken .ended, [])
  | '0' :: rest =>
    if (rest.head?.map Char.isDigit).getD false then (.broken .malformed, [])
    else scanAfterWhole negative ['0'] rest
  | c :: _ =>
    if c.isDigit then
      scanAfterWhole negative (cs.takeWhile Char.isDigit) (cs.dropWhile Char.isDigit)
    else (.broken .malformed, [])

/-- The number at the beginning of a text and the text behind it. -/
def Numeral.scan (cs : List Char) : Numeral × List Char :=
  match cs with
  | '-' :: rest => scanUnsigned true rest
  | _ => scanUnsigned false cs

/-! ## Strings

A string stands between quotation marks, with escapes for quotation marks, backslashes and controls.
An escape by a hexadecimal number gives a unit of UTF-16, so a character outside the basic plane
takes two. A string may be well formed although its units do not pair up; such a string can be
skipped but not read.
-/

/-- What a string is made of: characters written as they are or by a letter, and numbered units. -/
inductive Piece where
  | char (c : Char)
  | unit (n : Nat)
  deriving DecidableEq, Repr

/-- The value of a hexadecimal digit. -/
def hexDigit? (c : Char) : Option Nat :=
  if c.isDigit then some (c.toNat - '0'.toNat)
  else if 'a' ≤ c && c ≤ 'f' then some (c.toNat - 'a'.toNat + 10)
  else if 'A' ≤ c && c ≤ 'F' then some (c.toNat - 'A'.toNat + 10)
  else none

/-- The unit that four hexadecimal digits stand for. -/
def unit? (a b c d : Char) : Option Nat := do
  let a ← hexDigit? a
  let b ← hexDigit? b
  let c ← hexDigit? c
  let d ← hexDigit? d
  return ((a * 16 + b) * 16 + c) * 16 + d

/-- The character that a letter after a backslash stands for. -/
def escape? : Char → Option Char
  | '"' => some '"'
  | '\\' => some '\\'
  | '/' => some '/'
  | 'b' => some '\x08'
  | 'f' => some '\x0c'
  | 'n' => some '\n'
  | 'r' => some '\r'
  | 't' => some '\t'
  | _ => none

/-- The fault of a numbered escape with fewer than four characters behind it: the text ends if
fewer than four bytes are left. -/
def digitFault (cs : List Char) : Fault :=
  if (String.ofList (cs.take 4)).utf8ByteSize < 4 then .ended else .malformed

/-- The pieces of a string, from behind its opening mark, and the text behind its closing mark. The
pieces read so far are given in reverse. -/
def scanString (pieces : List Piece) : List Char → List Piece × Except Fault (List Char)
  | [] => (pieces.reverse, .error .ended)
  | '"' :: rest => (pieces.reverse, .ok rest)
  | ['\\'] => (pieces.reverse, .error .ended)
  | '\\' :: 'u' :: a :: b :: c :: d :: rest =>
    match unit? a b c d with
    | some n => scanString (.unit n :: pieces) rest
    | none => (pieces.reverse, .error .malformed)
  | '\\' :: 'u' :: rest => (pieces.reverse, .error (digitFault rest))
  | '\\' :: e :: rest =>
    match escape? e with
    | some c => scanString (.char c :: pieces) rest
    | none => (pieces.reverse, .error .malformed)
  | c :: rest =>
    if c.toNat < 0x20 then (pieces.reverse, .error .malformed)
    else scanString (.char c :: pieces) rest

/-- Whether a unit is the first half of a character. -/
def isLeading (n : Nat) : Bool := 0xD800 ≤ n && n ≤ 0xDBFF

/-- Whether a unit is the second half of a character. -/
def isTrailing (n : Nat) : Bool := 0xDC00 ≤ n && n ≤ 0xDFFF

/-- The character of two halves. -/
def joinHalves (lead trail : Nat) : Char :=
  Char.ofNat ((lead - 0xD800) * 0x400 + (trail - 0xDC00) + 0x10000)

/-- The characters that pieces stand for. `last` is the fault that follows the pieces, if the string
is not closed. The characters read so far are given in reverse. -/
def joinPieces (last : Option Fault) (done : List Char) : List Piece → Except Fault (List Char)
  | [] =>
    match last with
    | none => .ok done.reverse
    | some f => .error f
  | .char c :: rest => joinPieces last (c :: done) rest
  | .unit n :: rest =>
    if isTrailing n then .error .malformed
    else if isLeading n then
      match rest with
      | [] => .error (last.getD .malformed)
      | .unit m :: rest =>
        if isTrailing m then joinPieces last (joinHalves n m :: done) rest else .error .malformed
      | .char _ :: _ => .error .malformed
    else joinPieces last (Char.ofNat n :: done) rest

/-- A string as it stands in a text. -/
structure Quoted where
  /-- The text that it stands for, or why it stands for none. -/
  value : Except Fault String
  /-- Why it cannot even be skipped, if so. -/
  flaw : Option Fault

/-- The string behind an opening mark, and the text behind it. Behind a string that is not well
formed nothing more is read. -/
def Quoted.scan (cs : List Char) : Quoted × List Char :=
  let (pieces, ending) := scanString [] cs
  match ending with
  | .ok rest => (⟨(joinPieces none [] pieces).map String.ofList, none⟩, rest)
  | .error f => (⟨(joinPieces (some f) [] pieces).map String.ofList, some f⟩, [])

/-- The hexadecimal digit of a number below sixteen. -/
def hexDigit (n : Nat) : Char := if n < 10 then Char.ofNat (48 + n) else Char.ofNat (87 + n)

/-- How a character is written in a string. Only marks, backslashes and controls are escaped. -/
def escapeChar (c : Char) : List Char :=
  if c = '"' then ['\\', '"']
  else if c = '\\' then ['\\', '\\']
  else if c = '\x08' then ['\\', 'b']
  else if c = '\x0c' then ['\\', 'f']
  else if c = '\n' then ['\\', 'n']
  else if c = '\r' then ['\\', 'r']
  else if c = '\t' then ['\\', 't']
  else if c.toNat < 0x20 then
    ['\\', 'u', '0', '0', hexDigit (c.toNat / 16), hexDigit (c.toNat % 16)]
  else [c]

/-- How a string is written. -/
def quoteString (s : String) : List Char := '"' :: s.toList.flatMap escapeChar ++ ['"']

/-! ## Tokens -/

/-- A token. -/
inductive Token where
  | openBrace
  | closeBrace
  | openBracket
  | closeBracket
  | colon
  | comma
  /-- One of the words `null`, `true` and `false`; the first is given as `none`. -/
  | word (value : Option Bool)
  /-- The beginning of one of these words, and why it is not the whole. -/
  | brokenWord (f : Fault)
  | number (n : Numeral)
  | text (s : Quoted)
  /-- A character that begins no token. -/
  | stray

namespace Token

/-- Whether a character may stand between tokens. -/
def isGap (c : Char) : Bool := c == ' ' || c == '\n' || c == '\t' || c == '\r'

/-- The rest of a word that a text must go on with, and the text behind it. -/
def expectWord : List Char → List Char → Except Fault (List Char)
  | [], cs => .ok cs
  | _ :: _, [] => .error .ended
  | e :: expected, c :: cs => if c = e then expectWord expected cs else .error .malformed

/-- The word that a text must go on with, and the text behind it. -/
def scanWord (value : Option Bool) (expected cs : List Char) : Token × List Char :=
  match expectWord expected cs with
  | .ok rest => (word value, rest)
  | .error f => (brokenWord f, [])

/-- The token that begins with a character, and the text behind it. -/
def scan (c : Char) (cs : List Char) : Token × List Char :=
  match c with
  | '{' => (openBrace, cs)
  | '}' => (closeBrace, cs)
  | '[' => (openBracket, cs)
  | ']' => (closeBracket, cs)
  | ':' => (colon, cs)
  | ',' => (comma, cs)
  | '"' =>
    let (s, rest) := Quoted.scan cs
    (text s, rest)
  | 'n' => scanWord none "ull".toList cs
  | 't' => scanWord (some true) "rue".toList cs
  | 'f' => scanWord (some false) "alse".toList cs
  | _ =>
    if c = '-' || c.isDigit then
      let (n, rest) := Numeral.scan (c :: cs)
      (number n, rest)
    else (stray, [])

/-- The first tokens of a text, at most `count` of them, behind those already read, which are given
in reverse. -/
def scanAll (done : List Token) : Nat → List Char → List Token
  | 0, _ => done.reverse
  | count + 1, cs =>
    match cs.dropWhile isGap with
    | [] => done.reverse
    | c :: rest =>
      let (token, rest) := scan c rest
      scanAll (token :: done) count rest

/-- The tokens of a text. Each takes at least one character. -/
def ofText (cs : List Char) : List Token := scanAll [] cs.length cs

end Token

end TwigRelations.Json
