import TwigRelations.File
import TwigRelations.Name

/-!
# Templates and what stands in them

A template is a file, known by its path. Its content shows as blocks and as inclusions of other
templates by logical name, each with the range of bytes that it takes.
-/

namespace TwigRelations

/-- The bytes from `start` up to `stop`. Nothing forces `start ≤ stop`. -/
structure Span where
  /-- The offset of the first byte. -/
  start : UInt64
  /-- The offset after the last byte. -/
  stop : UInt64
  deriving DecidableEq, Repr

namespace Span

/-- The empty range at the beginning. -/
def zero : Span := ⟨0, 0⟩

/-- The number of bytes, which is zero for a range that ends before it starts. -/
def length (s : Span) : Nat := s.stop.toNat - s.start.toNat

/-- Whether a range holds no byte. -/
def isEmpty (s : Span) : Bool := s.length == 0

/-- The order of ranges: by start, then by stop. -/
protected def compare (a b : Span) : Ordering :=
  (compare a.start.toNat b.start.toNat).then (compare a.stop.toNat b.stop.toNat)

instance : Ord Span := ⟨Span.compare⟩

end Span

/-- A template file. -/
structure Template where
  /-- Where the file is. -/
  path : Path
  deriving DecidableEq

namespace Template

/-- The template at the path with a given spelling. -/
def ofString (text : String) : Template := ⟨Path.ofString text⟩

instance : Identified Template (List Component) where
  identity t := t.path.components

/-- The order of templates, by path. -/
protected def compare (a b : Template) : Ordering := Ord.compare a.path b.path

instance : Ord Template := ⟨Template.compare⟩

end Template

/-- A named block of a template. -/
structure Block where
  /-- The template that defines the block. -/
  template : Template
  /-- The name of the block. -/
  name : String
  /-- Where the block stands. -/
  span : Span
  deriving DecidableEq

namespace Block

instance : Identified Block (List Component × String × Span) where
  identity b := (identity b.template, b.name, b.span)

/-- The order of blocks: by template, then by name, then by range. -/
protected def compare (a b : Block) : Ordering :=
  (Ord.compare a.template b.template).then
    ((Ord.compare a.name b.name).then (Ord.compare a.span b.span))

instance : Ord Block := ⟨Block.compare⟩

end Block

/-- One entry of the template namespace: the name leads to the template. -/
structure NamespaceEntry where
  /-- The name. -/
  name : LogicalName
  /-- The template that has it. -/
  template : Template
  deriving DecidableEq

/-- The ways in which a template refers to another. -/
inductive InclusionKind where
  /-- Puts the output of the other template in its place. -/
  | include
  /-- Includes the other template with some of its blocks replaced. -/
  | embed
  /-- Makes the other template the parent of this one. -/
  | inherit
  /-- Takes all macros of the other template. -/
  | importAll
  /-- Takes some macros of the other template. -/
  | importSome
  /-- Shows the other template as it is written. -/
  | source
  deriving DecidableEq, Repr

namespace InclusionKind

/-- The word that stands for the kind. -/
def word : InclusionKind → String
  | .include => "include"
  | .embed => "embed"
  | .inherit => "extends"
  | .importAll => "import"
  | .importSome => "from"
  | .source => "source"

/-- All kinds. -/
def all : List InclusionKind :=
  [.include, .embed, .inherit, .importAll, .importSome, .source]

/-- The kind that a word stands for. -/
def ofWord? (s : String) : Option InclusionKind := all.find? (·.word == s)

@[simp] theorem ofWord?_word (k : InclusionKind) : ofWord? k.word = some k := by
  cases k <;> decide

end InclusionKind

/-- A reference to another template whose name is known. -/
structure Construct where
  /-- How the template is referred to. -/
  kind : InclusionKind
  /-- The name of the template referred to. -/
  target : LogicalName
  /-- Where the reference stands. -/
  span : Span
  deriving DecidableEq

/-- A reference as it stands in a template. It has no target where the template is not named
literally. -/
structure Inclusion where
  /-- How a template is referred to. -/
  kind : InclusionKind
  /-- The name as written, if there is one. -/
  target : Option String
  /-- Where the reference stands. -/
  span : Span
  deriving DecidableEq

/-- The reference with its name, if it names a template. -/
def Inclusion.construct? (i : Inclusion) : Option Construct :=
  (i.target.map LogicalName.ofString).bind fun target =>
    if target.isEmpty then none else some ⟨i.kind, target, i.span⟩

end TwigRelations
