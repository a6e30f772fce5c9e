import TwigRelations.Relation
import TwigRelations.Resolve.Pass
import TwigRelations.Text.Columns
import TwigRelations.Text.Segments

/-!
# What the command line shows

Tables of text, and the rows in which the relationships of a document are shown: one for each item,
or one row of counts for a document of a batch.
-/

namespace TwigRelations.Cli

/-! ## Tables of text

A table is drawn with its cells to the left, one blank on each side, and columns as wide as their
widest line. A cell of several lines makes its row as high. A plain table has a rule below its head;
a boxed table has rules around every row.
-/

/-- A table: the cells of its head and of its rows, all of the same number. -/
structure TextTable where
  /-- The head. -/
  head : List String
  /-- The rows below. -/
  rows : List (List String)
  deriving DecidableEq, Repr

namespace TextTable

/-- The lines of a cell. -/
def cellLines (cell : String) : List (List Char) := cell.toList.splitOn '\n'

/-- The width of a cell: that of its widest line. -/
def cellWidth (cell : String) : Nat := ((cellLines cell).map Text.columns).foldl max 0

/-- The wider one of each pair of columns. -/
def widen : List Nat → List Nat → List Nat
  | a :: as, b :: bs => max a b :: widen as bs
  | as, [] => as
  | [], bs => bs

/-- The widths of the columns. -/
def widths (t : TextTable) : List Nat :=
  ((t.head :: t.rows).map fun cells => cells.map cellWidth).foldl widen []

/-- A line of a cell with blanks around it, as wide as its column. -/
def padLine (width : Nat) (line : List Char) : List Char :=
  ' ' :: line ++ List.replicate (width - Text.columns line + 1) ' '

/-- The lines of a row. Each joins one line of every cell; a cell with fewer lines is blank
below. -/
def rowLines (border : List Char → List Char) (widths : List Nat) (cells : List String) :
    List (List Char) :=
  let cellsLines := cells.map cellLines
  let height := (cellsLines.map List.length).foldl max 0
  (List.range height).map fun i =>
    border (['|'].intercalate ((widths.zip cellsLines).map fun (width, lines) =>
      padLine width ((lines[i]?).getD [])))

/-- A rule across the table. -/
def rule (widths : List Nat) : List Char :=
  ['+'].intercalate (widths.map fun width => List.replicate (width + 2) '-')

/-- Lines put together. -/
def joinLines (lines : List (List Char)) : String := String.ofList (['\n'].intercalate lines)

/-- A table with a rule below its head. -/
def plain (t : TextTable) : String :=
  joinLines (rowLines id t.widths t.head ++ [rule t.widths]
    ++ t.rows.flatMap (rowLines id t.widths))

/-- Puts a mark on both ends of a line. -/
def enclose (mark : Char) (line : List Char) : List Char := mark :: line ++ [mark]

/-- A table with a rule above and below every row. -/
def boxed (t : TextTable) : String :=
  let line := enclose '+' (rule t.widths)
  joinLines (line :: (t.head :: t.rows).flatMap fun cells =>
    rowLines (enclose '|') t.widths cells ++ [line])

end TextTable

/-! ## Reports as tables

The rows in which the relationships of a document are shown, and the row of counts that stands for a
document in a batch.
-/

/-- A cell for something that may be missing. -/
def cellOr (cell : Option String) : String := cell.getD "-"

/-- The range of an item, where it leads to a range. -/
def spanOf? (i : RelatedItem) : Option Span :=
  match i.target with
  | .block b => some b.span
  | .include (.construct _ c) => some c.span
  | .controller a => a.span
  | _ => none

/-- The row of an item of a group. -/
def itemRow (g : RelatedGroup) (i : RelatedItem) : List String :=
  [g.title, cellOr (g.anchor.map (·.name)), cellOr i.label,
    cellOr (i.inclusionKind.map (·.word)),
    cellOr ((spanOf? i).map fun s => toString s.start.toNat)]

/-- The table of the items of some groups. -/
def relationTable (groups : List RelatedGroup) : TextTable :=
  ⟨["Group", "Block", "Target", "Via", "Offset"], groups.flatMap fun g => g.items.map (itemRow g)⟩

/-- What is shown for a document: its path with its names, and everything that is related to it. -/
def showReport (r : Report) : String :=
  let path := r.document.path.text
  let heading :=
    if r.names.isEmpty then path ++ " has no logical name."
    else path ++ " (" ++ ", ".intercalate (r.names.map (·.raw)) ++ ")"
  let table := relationTable r.groups
  let body := if table.rows.isEmpty then "No related templates found." else table.plain
  heading ++ "\n" ++ body ++ "\n"

/-- The row of a document of a batch. -/
def batchRow : Template × Except ResolveError Report → List String
  | (t, .ok r) =>
    [t.path.text, toString r.includers.length, toString r.overwrites.length,
      toString r.blockImplementations.length ++ " impl / " ++ toString r.blockOverrides.length
        ++ " over",
      toString r.controllerUsages.length]
  | (t, .error e) => [t.path.text, "error: " ++ e.message, "-", "-", "-"]

/-- The table of the documents of a batch. -/
def batchTable (results : List (Template × Except ResolveError Report)) : TextTable :=
  ⟨["Template", "Includers", "Overwrites", "Blocks", "Controllers"], results.map batchRow⟩

/-- Whether a document of a batch has no report. -/
def hasFailed (entry : Template × Except ResolveError Report) : Bool :=
  match entry.2 with
  | .ok _ => false
  | .error _ => true

/-- What is shown for a batch: the counts of each document, and how many documents failed. -/
def showBatch (results : List (Template × Except ResolveError Report)) : String :=
  if results.isEmpty then "Corpus contains no templates.\n"
  else
    let failed := (results.filter hasFailed).length
    (batchTable results).boxed ++ "\nResolved: " ++ toString (results.length - failed)
      ++ ", failed: " ++ toString failed ++ "\n"

end TwigRelations.Cli
