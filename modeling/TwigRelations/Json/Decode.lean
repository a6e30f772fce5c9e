import TwigRelations.Json.Tree

/-!
# Reading values from trees

A reader takes a tree to a value or to the first fault that it meets. A record may be written as an
object, whose members may come in any order and among others, or as an array of its fields in order.
-/

namespace TwigRelations.Json

/-- A reader of values of type `α`. -/
abbrev Decoder (α : Type) := Tree → Except Fault α

namespace Tree

/-- The text that a string stands for. -/
def string : Decoder String
  | text s => s.value
  | number (.broken f) => .error f
  | number .tooLarge => .error .malformed
  | brokenWord f => .error f
  | absent f => .error f
  | _ => .error .mismatch

/-- The fault of a value that should have been of another kind: its own, if it is broken. -/
def wrongKind (t : Tree) : Fault :=
  match t with
  | text s =>
    match s.value with
    | .ok _ => .mismatch
    | .error f => f
  | t =>
    match string t with
    | .ok _ => .mismatch
    | .error f => f

/-- A natural number of 64 bits. -/
def natural : Decoder Nat
  | number (.natural n) => .ok n
  | t => .error t.wrongKind

/-- A truth value. -/
def boolean : Decoder Bool
  | bool b => .ok b
  | t => .error t.wrongKind

/-- A value that may be null. -/
def nullable {α : Type} (value : Decoder α) : Decoder (Option α)
  | null => .ok none
  | t => (value t).map some

/-- The items of an array, each read in turn. -/
def items {α : Type} (item : Decoder α) : Decoder (List α)
  | array list ending => do
    let values ← list.mapM item
    ending.check
    return values
  | t => .error t.wrongKind

/-- The name that a key stands for. -/
def keyName : Decoder String
  | text s => s.value
  | absent f => .error f
  | _ => .error .malformed

mutual

/-- Checks that every part of a value can be read, with room for a number of lists inside each
other. -/
def check : Nat → Tree → Except Fault Unit
  | 0, array _ _ => .error .malformed
  | room + 1, array list ending => do
    checkItems room list
    ending.check
  | 0, object _ _ => .error .malformed
  | room + 1, object members ending => do
    checkMembers room members
    ending.check
  | _, null => .ok ()
  | _, bool _ => .ok ()
  | _, number (.natural _) => .ok ()
  | _, number .other => .ok ()
  | _, number .tooLarge => .error .malformed
  | _, number (.broken f) => .error f
  | _, text s => s.value.map fun _ => ()
  | _, brokenWord f => .error f
  | _, absent f => .error f

/-- Checks items one after the other. -/
def checkItems : Nat → List Tree → Except Fault Unit
  | _, [] => .ok ()
  | room, item :: rest => do
    check room item
    checkItems room rest

/-- Checks members one after the other. -/
def checkMembers : Nat → List (Tree × Tree) → Except Fault Unit
  | _, [] => .ok ()
  | room, (key, value) :: rest => do
    let _ ← keyName key
    check room value
    checkMembers room rest

end

end Tree

/-- The fields that a record has been given so far, and what a further member does to them. A member
that is no field gives nothing. -/
abbrev Fields (σ : Type) := String → Tree → σ → Option (Except Fault σ)

/-- A field that may be given once. -/
def once {α : Type} (given : Option α) (value : Decoder α) : Decoder (Option α) := fun t =>
  match given with
  | some _ => .error .mismatch
  | none => (value t).map some

/-- A field that must have been given. -/
def required {α : Type} (given : Option α) : Except Fault α :=
  match given with
  | some a => .ok a
  | none => .error .mismatch

/-- Reads the members of an object in order. Members that are no fields are skipped. -/
def readMembers {σ : Type} (field : Fields σ) : List (Tree × Tree) → σ → Except Fault σ
  | [], s => .ok s
  | (key, value) :: rest, s => do
    let name ← key.keyName
    match field name value s with
    | some result => readMembers field rest (← result)
    | none => do
      value.skip
      readMembers field rest s

/-- The fields of a record that is written as an array: the items not yet read, and how they end. -/
abbrev Row := StateT (List Tree) (Except Fault)

namespace Row

/-- The next field, or a given value where the array has ended. -/
def next {α : Type} (ending : Ending) (value : Decoder α) (default : Except Fault α) : Row α :=
  fun items =>
    match items with
    | item :: rest => (value item).map fun a => (a, rest)
    | [] =>
      match ending with
      | .closed => default.map fun a => (a, [])
      | .cut f => .error f

/-- The next field, which must be there. -/
def field {α : Type} (ending : Ending) (value : Decoder α) : Row α :=
  next ending value (.error .mismatch)

/-- The next field, or its default. -/
def fieldOr {α : Type} (ending : Ending) (value : Decoder α) (default : α) : Row α :=
  next ending value (.ok default)

/-- Reads all fields of an array. More items than fields are not JSON of a record. -/
def read {α : Type} (row : Ending → Row α) (items : List Tree) (ending : Ending) :
    Except Fault α := do
  let (a, rest) ← row ending items
  match rest with
  | [] => do
    ending.check
    return a
  | _ :: _ => .error .malformed

end Row

/-- A record, written as an object or as an array. -/
def record {σ α : Type} (field : Fields σ) (none : σ) (ofFields : σ → Except Fault α)
    (row : Ending → Row α) : Decoder α
  | .object members ending => do
    let fields ← readMembers field members none
    ending.check
    ofFields fields
  | .array items ending => Row.read row items ending
  | t => .error t.wrongKind

/-- A pair, written as an array of its two parts. -/
def pair {α β : Type} (first : Decoder α) (second : Decoder β) : Decoder (α × β)
  | .array items ending =>
    Row.read (fun ending => return (← Row.field ending first, ← Row.field ending second)) items
      ending
  | t => .error t.wrongKind

/-- Reads a whole text. Nothing may follow the value. -/
def Source.read {α : Type} (value : Decoder α) (d : Source) : Except Fault α := do
  let a ← value d.root
  if d.trailing then .error .malformed else .ok a

/-- Reads a text. -/
def readText {α : Type} (value : Decoder α) (s : String) : Except Fault α :=
  (Source.ofText s).read value

end TwigRelations.Json
