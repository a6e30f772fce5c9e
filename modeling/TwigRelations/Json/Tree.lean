import TwigRelations.Json.Token

/-!
# Trees of JSON text

A tree shows the structure of a text as far as it goes. Where the text stops being JSON, the tree
stops too, and the place holds the fault. A reader that walks the tree in the order of the text thus
meets first what comes first, be it a fault of the text or a value of the wrong shape.
-/

namespace TwigRelations.Json

/-- How a list of items or members ends. -/
inductive Ending where
  /-- With its closing mark. -/
  | closed
  /-- With neither a comma nor its closing mark. -/
  | cut (f : Fault)
  deriving DecidableEq, Repr

/-- The structure of a text. -/
inductive Tree where
  | null
  | bool (b : Bool)
  | number (n : Numeral)
  | text (s : Quoted)
  /-- A misspelt word. -/
  | brokenWord (f : Fault)
  | array (items : List Tree) (ending : Ending)
  /-- Members are pairs of a key and a value. Behind a key that is no string nothing follows. -/
  | object (members : List (Tree × Tree)) (ending : Ending)
  /-- A place where no value begins. -/
  | absent (f : Fault)

/-- Faults that may be none, for lists that are closed. -/
def Ending.check : Ending → Except Fault Unit
  | closed => .ok ()
  | cut f => .error f

namespace Tree

mutual

/-- Checks the structure of a value that is not read. -/
def skip : Tree → Except Fault Unit
  | null => .ok ()
  | bool _ => .ok ()
  | number (.broken _) => .error .malformed
  | number _ => .ok ()
  | text s =>
    match s.flaw with
    | none => .ok ()
    | some f => .error f
  | brokenWord f => .error f
  | array items ending => do
    skipItems items
    ending.check
  | object members ending => do
    skipMembers members
    ending.check
  | absent f => .error f

/-- Checks the structure of items that are not read. -/
def skipItems : List Tree → Except Fault Unit
  | [] => .ok ()
  | item :: rest => do
    skip item
    skipItems rest

/-- Checks the structure of members that are not read. -/
def skipMembers : List (Tree × Tree) → Except Fault Unit
  | [] => .ok ()
  | (key, value) :: rest => do
    skipKey key
    skip value
    skipMembers rest

/-- Checks a key that is not read. -/
def skipKey : Tree → Except Fault Unit
  | text s =>
    match s.flaw with
    | none => .ok ()
    | some f => .error f
  | absent f => .error f
  | _ => .error .malformed

end

/-- The value that a token is, in a place where no list begins. -/
def ofToken : Token → Tree
  | .word none => null
  | .word (some b) => bool b
  | .brokenWord f => brokenWord f
  | .number n => number n
  | .text s => text s
  | .openBracket => array [] (.cut .malformed)
  | .openBrace => object [] (.cut .malformed)
  | _ => absent .malformed

end Tree

/-- A list that is open around the place being read. What it holds so far is given in reverse. -/
inductive Frame where
  | array (items : List Tree)
  | object (members : List (Tree × Tree))
  /-- An object with the key whose value is being read. -/
  | member (members : List (Tree × Tree)) (key : Tree)

/-- What may come next. -/
inductive Expecting where
  /-- A value. -/
  | value
  /-- A value or the end of an array that has no items yet. -/
  | firstItem
  /-- A key or the end of an object that has no members yet. -/
  | firstKey
  /-- A key. -/
  | key
  /-- The colon behind a key. -/
  | colon
  /-- A comma or the end of the innermost list. -/
  | separator
  deriving DecidableEq, Repr

/-- How far a text has been read. -/
inductive Reading where
  /-- Inside the open lists, innermost first. -/
  | inside (frames : List Frame) (expecting : Expecting)
  /-- The tree is complete; `trailing` tells whether anything followed it. -/
  | complete (root : Tree) (trailing : Bool)

namespace Reading

/-- The tree where the text stops with a value as its last part. -/
def stopAt (value : Tree) : List Frame → Tree
  | [] => value
  | .array items :: frames => stopAt (.array (value :: items).reverse (.cut .malformed)) frames
  | .object members :: frames => stopAt (.object members.reverse (.cut .malformed)) frames
  | .member members key :: frames =>
    stopAt (.object ((key, value) :: members).reverse (.cut .malformed)) frames

/-- The tree where the text stops although something must follow. -/
def stop (f : Fault) : List Frame → Expecting → Tree
  | .array items :: frames, .separator => stopAt (.array items.reverse (.cut f)) frames
  | .object members :: frames, .separator => stopAt (.object members.reverse (.cut f)) frames
  | .object members :: frames, .firstKey => stopAt (.object members.reverse (.cut f)) frames
  | .object members :: frames, .key =>
    stopAt (.object ((.absent f, .absent f) :: members).reverse (.cut f)) frames
  | frames, _ => stopAt (.absent f) frames

/-- Goes on behind a value that is complete. -/
def place (value : Tree) : List Frame → Reading
  | [] => complete value false
  | .array items :: frames => inside (.array (value :: items) :: frames) .separator
  | .member members key :: frames => inside (.object ((key, value) :: members) :: frames) .separator
  | .object members :: frames => complete (stopAt value (.object members :: frames)) false

/-- Goes on behind a token in a place where a value must come. -/
def readValue (frames : List Frame) : Token → Reading
  | .openBracket => inside (.array [] :: frames) .firstItem
  | .openBrace => inside (.object [] :: frames) .firstKey
  | .closeBrace | .closeBracket | .colon | .comma | .stray =>
    complete (stopAt (.absent .malformed) frames) false
  | token => place (Tree.ofToken token) frames

/-- Goes on behind a token in a place where a key must come. -/
def readKey (members : List (Tree × Tree)) (frames : List Frame) : Token → Reading
  | .text s => inside (.member members (.text s) :: frames) .colon
  | token =>
    let members := ((Tree.ofToken token, .absent .malformed) :: members).reverse
    complete (stopAt (.object members (.cut .malformed)) frames) false

/-- Goes on behind a token. -/
def next : Reading → Token → Reading
  | complete root _, _ => complete root true
  | inside frames .value, token => readValue frames token
  | inside (.array items :: frames) .firstItem, .closeBracket =>
    place (.array items.reverse .closed) frames
  | inside frames .firstItem, token => readValue frames token
  | inside (.object members :: frames) .firstKey, .closeBrace =>
    place (.object members.reverse .closed) frames
  | inside (.object members :: frames) .firstKey, token => readKey members frames token
  | inside (.object members :: frames) .key, token => readKey members frames token
  | inside frames .colon, .colon => inside frames .value
  | inside (.array items :: frames) .separator, .closeBracket =>
    place (.array items.reverse .closed) frames
  | inside (.array items :: frames) .separator, .comma => inside (.array items :: frames) .value
  | inside (.object members :: frames) .separator, .closeBrace =>
    place (.object members.reverse .closed) frames
  | inside (.object members :: frames) .separator, .comma =>
    inside (.object members :: frames) .key
  | inside frames expecting, _ => complete (stop .malformed frames expecting) false

/-- The tree of a text that ends here, and whether anything followed the tree. -/
def finish : Reading → Tree × Bool
  | complete root trailing => (root, trailing)
  | inside frames expecting => (stop .ended frames expecting, false)

end Reading

/-- A text as its tree, with a note whether anything follows the tree. -/
structure Source where
  /-- The tree. -/
  root : Tree
  /-- Whether anything but blanks follows the tree. -/
  trailing : Bool

/-- The document that a text is. -/
def Source.ofText (s : String) : Source :=
  let (root, trailing) :=
    ((Token.ofText s.toList).foldl Reading.next (.inside [] .value)).finish
  ⟨root, trailing⟩

end TwigRelations.Json
