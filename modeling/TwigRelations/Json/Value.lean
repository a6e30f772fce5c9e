import TwigRelations.Json.Token

/-!
# JSON values and how they are written

The values that are written: objects keep their members in order, and numbers are whole. A value
is written on one line without blanks, or over several lines with two blanks for each level.
-/

namespace TwigRelations.Json

/-- A value that can be written. -/
inductive Value where
  | null
  | bool (b : Bool)
  | number (n : Int)
  | text (s : String)
  | array (items : List Value)
  | object (members : List (String × Value))

namespace Value

/-- A value or null. -/
def ofOption {α : Type} (value : α → Value) : Option α → Value
  | none => null
  | some a => value a

/-- An array of values of one kind. -/
def ofList {α : Type} (value : α → Value) (items : List α) : Value := array (items.map value)

/-- A number in decimal digits. -/
def numberChars : Int → List Char
  | .ofNat n => Nat.toDigits 10 n
  | .negSucc n => '-' :: Nat.toDigits 10 (n + 1)

mutual

/-- A value on one line. -/
def compactChars : Value → List Char
  | null => "null".toList
  | bool true => "true".toList
  | bool false => "false".toList
  | number n => numberChars n
  | text s => quoteString s
  | array items => '[' :: compactItems items
  | object members => '\x7b' :: compactMembers members

/-- The items of an array and its closing mark. -/
def compactItems : List Value → List Char
  | [] => [']']
  | [item] => compactChars item ++ [']']
  | item :: rest => compactChars item ++ ',' :: compactItems rest

/-- The members of an object and its closing mark. -/
def compactMembers : List (String × Value) → List Char
  | [] => ['\x7d']
  | [(key, value)] => quoteString key ++ ':' :: compactChars value ++ ['\x7d']
  | (key, value) :: rest =>
    quoteString key ++ ':' :: compactChars value ++ ',' :: compactMembers rest

end

/-- A value on one line, as text. -/
def compact (v : Value) : String := String.ofList v.compactChars

/-- The beginning of a line at a level. -/
def newLine (level : Nat) : List Char := '\n' :: List.replicate (2 * level) ' '

mutual

/-- A value over several lines, at a level. -/
def prettyChars (level : Nat) : Value → List Char
  | null => "null".toList
  | bool true => "true".toList
  | bool false => "false".toList
  | number n => numberChars n
  | text s => quoteString s
  | array [] => ['[', ']']
  | array items => '[' :: prettyItems level items
  | object [] => ['\x7b', '\x7d']
  | object members => '\x7b' :: prettyMembers level members

/-- The items of an array that has any, each on its own line, and the closing mark. -/
def prettyItems (level : Nat) : List Value → List Char
  | [] => newLine level ++ [']']
  | [item] => newLine (level + 1) ++ prettyChars (level + 1) item ++ newLine level ++ [']']
  | item :: rest =>
    newLine (level + 1) ++ prettyChars (level + 1) item ++ ',' :: prettyItems level rest

/-- The members of an object that has any, each on its own line, and the closing mark. -/
def prettyMembers (level : Nat) : List (String × Value) → List Char
  | [] => newLine level ++ ['\x7d']
  | [(key, value)] =>
    newLine (level + 1) ++ quoteString key ++ ':' :: ' ' :: prettyChars (level + 1) value
      ++ newLine level ++ ['\x7d']
  | (key, value) :: rest =>
    newLine (level + 1) ++ quoteString key ++ ':' :: ' ' :: prettyChars (level + 1) value
      ++ ',' :: prettyMembers level rest

end

/-- A value over several lines, as text. -/
def pretty (v : Value) : String := String.ofList (prettyChars 0 v)

end Value

end TwigRelations.Json
