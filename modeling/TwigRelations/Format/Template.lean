import TwigRelations.Json.Decode
import TwigRelations.Json.Value
import TwigRelations.Template

/-!
# Templates in JSON

How names, paths, ranges, templates, blocks and inclusions are written and read. Names and paths are
written as they were spelled. Writing and reading a value gives the value back.
-/

namespace TwigRelations

open Json

/-- A name as it is written. -/
def LogicalName.toJson (n : LogicalName) : Value := .text n.raw

/-- Reads a name. -/
def LogicalName.ofJson : Decoder LogicalName := fun t => t.string.map LogicalName.ofString

/-- A path as it is written. -/
def Path.toJson (p : Path) : Value := .text p.text

/-- Reads a path. -/
def Path.ofJson : Decoder Path := fun t => t.string.map Path.ofString

namespace Span

/-- A range as it is written. -/
def toJson (s : Span) : Value :=
  .object [("start", .number s.start.toNat), ("end", .number s.stop.toNat)]

/-- Reads an offset. -/
def offset : Decoder UInt64 := fun t => t.natural.map UInt64.ofNat

/-- The fields of a range. -/
def fields : Fields (Option UInt64 × Option UInt64)
  | "start", t, (start, stop) => some ((once start offset t).map fun start => (start, stop))
  | "end", t, (start, stop) => some ((once stop offset t).map fun stop => (start, stop))
  | _, _, _ => none

/-- Reads a range. -/
def ofJson : Decoder Span :=
  record fields (none, none)
    (fun (start, stop) => return ⟨← required start, ← required stop⟩)
    (fun ending => return ⟨← Row.field ending offset, ← Row.field ending offset⟩)

end Span

namespace Template

/-- A template as it is written. -/
def toJson (t : Template) : Value := .object [("path", t.path.toJson)]

/-- The fields of a template. -/
def fields : Fields (Option Path)
  | "path", t, path => some (once path Path.ofJson t)
  | _, _, _ => none

/-- Reads a template. -/
def ofJson : Decoder Template :=
  record fields none (fun path => return ⟨← required path⟩)
    (fun ending => return ⟨← Row.field ending Path.ofJson⟩)

end Template

namespace Block

/-- A block as it is written. -/
def toJson (b : Block) : Value :=
  .object [("template", b.template.toJson), ("name", .text b.name), ("span", b.span.toJson)]

/-- What is known of a block while it is read. -/
structure Draft where
  template : Option Template
  name : Option String
  span : Option Span

/-- The fields of a block. -/
def fields : Fields Draft
  | "template", t, d =>
    some ((once d.template Template.ofJson t).map fun v => { d with template := v })
  | "name", t, d => some ((once d.name Tree.string t).map fun v => { d with name := v })
  | "span", t, d => some ((once d.span Span.ofJson t).map fun v => { d with span := v })
  | _, _, _ => none

/-- Reads a block. -/
def ofJson : Decoder Block :=
  record fields ⟨none, none, none⟩
    (fun d => return ⟨← required d.template, ← required d.name, ← required d.span⟩)
    (fun ending => return ⟨← Row.field ending Template.ofJson, ← Row.field ending Tree.string,
      ← Row.field ending Span.ofJson⟩)

end Block

namespace InclusionKind

/-- A kind as it is written. -/
def toJson (k : InclusionKind) : Value := .text k.word

/-- Reads the word for a kind. -/
def ofWordJson (word : Except Fault String) : Except Fault InclusionKind := do
  match ofWord? (← word) with
  | some k => .ok k
  | none => .error .mismatch

/-- Reads a null. -/
def nullJson : Decoder Unit
  | .null => .ok ()
  | t => .error t.wrongKind

/-- Reads a kind: its word, or an object with the word as its only key and a null behind it. -/
def ofJson : Decoder InclusionKind
  | .text s => ofWordJson s.value
  | .object [] .closed => .error .malformed
  | .object [] (.cut f) => .error f
  | .object ((key, value) :: rest) ending => do
    let k ← ofWordJson key.keyName
    nullJson value
    if rest.isEmpty then do
      ending.check
      return k
    else .error .malformed
  | .absent f => .error f
  | _ => .error .malformed

end InclusionKind

/-- What is known of a reference while it is read. -/
structure Inclusion.Draft where
  kind : Option InclusionKind
  target : Option (Option String)
  span : Option Span

namespace Inclusion

/-- A reference as it is written. -/
def toJson (i : Inclusion) : Value :=
  .object [("kind", i.kind.toJson), ("target", .ofOption .text i.target), ("span", i.span.toJson)]

/-- The fields of a reference. -/
def fields : Fields Draft
  | "kind", t, d => some ((once d.kind InclusionKind.ofJson t).map fun v => { d with kind := v })
  | "target", t, d =>
    some ((once d.target (Tree.nullable Tree.string) t).map fun v => { d with target := v })
  | "span", t, d => some ((once d.span Span.ofJson t).map fun v => { d with span := v })
  | _, _, _ => none

/-- Reads a reference. The target and the range may be left out. -/
def ofJson : Decoder Inclusion :=
  record fields ⟨none, none, none⟩
    (fun d => return ⟨← required d.kind, d.target.getD none, d.span.getD .zero⟩)
    (fun ending => return ⟨← Row.field ending InclusionKind.ofJson,
      ← Row.fieldOr ending (Tree.nullable Tree.string) none,
      ← Row.fieldOr ending Span.ofJson .zero⟩)

end Inclusion

/-- What is known of a well-formed reference while it is read. -/
structure Construct.Draft where
  kind : Option InclusionKind
  target : Option LogicalName
  span : Option Span

namespace Construct

/-- A well-formed reference as it is written. -/
def toJson (c : Construct) : Value :=
  .object [("kind", c.kind.toJson), ("target", c.target.toJson), ("span", c.span.toJson)]

/-- The fields of a well-formed reference. -/
def fields : Fields Draft
  | "kind", t, d => some ((once d.kind InclusionKind.ofJson t).map fun v => { d with kind := v })
  | "target", t, d =>
    some ((once d.target LogicalName.ofJson t).map fun v => { d with target := v })
  | "span", t, d => some ((once d.span Span.ofJson t).map fun v => { d with span := v })
  | _, _, _ => none

/-- Reads a well-formed reference. All of its fields must be there. -/
def ofJson : Decoder Construct :=
  record fields ⟨none, none, none⟩
    (fun d => return ⟨← required d.kind, ← required d.target, ← required d.span⟩)
    (fun ending => return ⟨← Row.field ending InclusionKind.ofJson,
      ← Row.field ending LogicalName.ofJson, ← Row.field ending Span.ofJson⟩)

end Construct

end TwigRelations
