import TwigRelations.Collection
import TwigRelations.Text.Segments

/-!
# Files

Where a file is, and what comes out of reading it.

A path keeps its spelling and is compared by its components: the spelling is cut at slashes, empty
pieces and dots are dropped, a leading slash is the root and a leading dot of a relative path is
kept. So `/a//b/` and `/a/./b` are one path, and `./a` and `a` are two.
-/

namespace TwigRelations

/-- One step of a path. -/
inductive Component where
  | root
  | current
  | parent
  | normal (name : String)
  deriving DecidableEq, Repr

namespace Component

/-- The component that a piece between slashes stands for, if it stands for one. -/
def ofPiece? : List Char → Option Component
  | [] => none
  | ['.'] => none
  | ['.', '.'] => some parent
  | cs => some (normal (String.ofList cs))

/-- The component that the beginning of a spelling stands for. -/
def leading : List Char → List Component
  | '/' :: _ => [root]
  | ['.'] => [current]
  | '.' :: '/' :: _ => [current]
  | _ => []

/-- The components of a spelling. -/
def ofText (cs : List Char) : List Component :=
  leading cs ++ (cs.splitOn '/').filterMap ofPiece?

/-- The text that a component is shown as. -/
def text : Component → String
  | root => "/"
  | current => "."
  | parent => ".."
  | normal name => name

/-- The place of a kind of component in the order of components. -/
def rank : Component → Nat
  | root => 0
  | current => 1
  | parent => 2
  | normal _ => 3

/-- The directory name that a component is, if it is one. -/
def name? : Component → Option String
  | normal name => some name
  | _ => none

/-- The order of components: root, dot, double dot, then names. -/
protected def compare : Component → Component → Ordering
  | normal a, normal b => Ord.compare a b
  | a, b => Ord.compare a.rank b.rank

instance : Ord Component := ⟨Component.compare⟩

end Component

/-- A path as it was spelled, together with the components that paths are compared by. -/
structure Path where
  /-- The spelling. -/
  text : String
  /-- The components of the spelling. -/
  components : List Component
  components_eq : components = Component.ofText text.toList
  deriving DecidableEq

namespace Path

/-- The path with a given spelling. -/
def ofString (text : String) : Path := ⟨text, Component.ofText text.toList, rfl⟩

instance : Identified Path (List Component) where
  identity p := p.components

/-- The order of paths, by components. -/
protected def compare (a b : Path) : Ordering := Ord.compare a.components b.components

instance : Ord Path := ⟨Path.compare⟩

/-- The components of a path below a root, if there are any. -/
def below? (p root : Path) : Option (List Component) :=
  (root.components.isPrefixOf? p.components).filter (!·.isEmpty)

/-- The path relative to a root: what remains below the root, joined by slashes, or the spelling of
the path where it is not strictly below the root. -/
def relativeTo (p : Path) (root : Option Path) : String :=
  match root.bind p.below? with
  | some rest => "/".intercalate (rest.map Component.text)
  | none => p.text

/-- The names of the directories that a path goes through before its last component. -/
def directories (p : Path) : List String := p.components.dropLast.filterMap Component.name?

/-- Whether a spelling starts at the root. -/
def startsAtRoot (cs : List Char) : Bool := cs.head? == some '/'

/-- A path continued by a spelling. A spelling that starts at the root replaces the path, and no
slash is doubled. -/
def join (p : Path) (rest : String) : Path :=
  if startsAtRoot rest.toList then ofString rest
  else if p.text.isEmpty || p.text.toList.getLast? == some '/' then ofString (p.text ++ rest)
  else ofString (p.text ++ "/" ++ rest)

/-- Two paths with one spelling are one value: the components add nothing. -/
@[ext] theorem ext_text {a b : Path} (h : a.text = b.text) : a = b := by
  obtain ⟨ta, ca, ha⟩ := a
  obtain ⟨tb, cb, hb⟩ := b
  simp only at h
  subst h
  simp [ha, hb]

@[simp] theorem ofString_text (p : Path) : ofString p.text = p := ext_text rfl

end Path

/-! ## The text of a file -/

/-- Why a file has no text. -/
inductive FileError where
  /-- There is no such file. -/
  | notFound
  /-- The bytes of the file are not UTF-8. -/
  | notText
  deriving DecidableEq, Repr

/-- The text of a file with given bytes, or of a file that does not exist. -/
def textOfBytes : Option ByteArray → Except FileError String
  | none => .error .notFound
  | some bytes =>
    match String.fromUTF8? bytes with
    | some s => .ok s
    | none => .error .notText

end TwigRelations
