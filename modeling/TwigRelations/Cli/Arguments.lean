import TwigRelations.Convention

/-!
# Command lines

How the arguments of the command line are read. Options are taken before and after the name of the
command, each at most once on either side; on the right side they win. A value follows its option as
the next argument or behind an equals sign, and cannot begin with a dash in the first case.

The first thing that stops the reading counts: a wrong argument before a flag for help is wrong, and
one behind it is never seen. A value that follows its option as the next argument is looked at when
the next option or value is taken, so the last one before the name of a command waits until the
command has been read.
-/

namespace TwigRelations.Cli

/-- A command with its arguments. -/
inductive Command where
  /-- Shows everything related to one template. -/
  | relations (corpus template : String) (json : Bool)
  /-- Counts the relationships of every template of a corpus. -/
  | batch (corpus : String)
  /-- Shows the schema of corpus files. -/
  | schema
  deriving DecidableEq, Repr

/-- The options of every command. -/
structure Options where
  /-- The file of settings. -/
  config : Option String
  /-- The directory that labels are relative to. -/
  projectRoot : Option String
  /-- The number of workers. -/
  workers : Option Nat
  /-- How many levels of child templates are searched. -/
  maxChildDepth : Option Nat
  /-- Whether naming conventions are left out. -/
  noImplicitControllers : Bool
  /-- Whether logs also go to the standard error stream. -/
  verbose : Bool
  deriving DecidableEq, Repr

/-- What a command line asks for. -/
inductive Request where
  /-- To run a command. -/
  | run (options : Options) (command : Command)
  /-- To show the version. -/
  | version
  /-- To show help. -/
  | help
  deriving DecidableEq, Repr

/-- The options that may stand on a command line, by their words. -/
inductive Flag where
  | config
  | projectRoot
  | workers
  | maxChildDepth
  | noImplicitControllers
  | verbose
  | json
  | version
  | help
  deriving DecidableEq, Repr

namespace Flag

/-- The flag of a word behind two dashes. -/
def ofWord? : String → Option Flag
  | "config" => some config
  | "project-root" => some projectRoot
  | "workers" => some workers
  | "max-child-depth" => some maxChildDepth
  | "no-implicit-controllers" => some noImplicitControllers
  | "verbose" => some verbose
  | "json" => some json
  | "version" => some version
  | "help" => some help
  | _ => none

/-- The flag of a letter behind one dash. -/
def ofLetter? : Char → Option Flag
  | 'h' => some help
  | 'V' => some version
  | _ => none

/-- Whether a flag takes a value. -/
def takesValue : Flag → Bool
  | config | projectRoot | workers | maxChildDepth => true
  | _ => false

end Flag

/-- Which command is being read, if any yet. -/
inductive Place where
  | top
  | relations
  | batch
  | schema
  deriving DecidableEq, Repr

namespace Place

/-- The command of a word. -/
def ofWord? : String → Option Place
  | "relations" => some relations
  | "batch" => some batch
  | "schema" => some schema
  | _ => none

/-- Whether a flag may stand at a place. -/
def allows : Place → Flag → Bool
  | top, .json => false
  | relations, .version | batch, .version | schema, .version => false
  | relations, .json => true
  | batch, .json | schema, .json => false
  | _, _ => true

end Place

/-- Why reading a command line stops early. -/
inductive Stop where
  /-- The command line is wrong. -/
  | wrong
  | version
  | help
  deriving DecidableEq, Repr

/-- How many values a command takes. -/
def Place.arity : Place → Nat
  | top | schema => 0
  | batch => 1
  | relations => 2

/-- What has been read at one place. -/
structure Given where
  /-- The options. -/
  options : Options
  /-- The flags, each of which may come once. -/
  flags : List Flag
  /-- The option last given with the next argument as its value, which is not yet taken. -/
  pending : Option (Flag × String)
  /-- The other arguments, last first. -/
  values : List String

/-- Nothing read yet. -/
def Given.nothing : Given := ⟨⟨none, none, none, none, false, false⟩, [], none, []⟩

/-- The number of 64 bits that a text is. A plus sign may stand before the digits. -/
def number? (s : String) : Option Nat :=
  let digits :=
    match s.toList with
    | '+' :: rest => rest
    | cs => cs
  if digits.isEmpty || !digits.all Char.isDigit then none
  else
    let n := digits.foldl (fun n c => n * 10 + (c.toNat - '0'.toNat)) 0
    if n < UInt64.size then some n else none

/-- A path, which cannot be empty. -/
def path? (s : String) : Option String := if s.isEmpty then none else some s

/-- Something that must be there. -/
def demand {α : Type} (a : Option α) : Except Stop α :=
  match a with
  | some a => .ok a
  | none => .error .wrong

namespace Given

/-- Notes a flag, which may come once. -/
def note (g : Given) (f : Flag) : Except Stop Given :=
  if g.flags.contains f then .error .wrong else .ok { g with flags := f :: g.flags }

/-- Takes an option with its value. -/
def take (g : Given) (f : Flag) (value : String) : Except Stop Given := do
  let g ← g.note f
  match f with
  | .config => return { g with options.config := some (← demand (path? value)) }
  | .projectRoot => return { g with options.projectRoot := some (← demand (path? value)) }
  | .workers => return { g with options.workers := some (← demand (number? value)) }
  | .maxChildDepth => return { g with options.maxChildDepth := some (← demand (number? value)) }
  | _ => .error .wrong

/-- Takes the pending option. -/
def settle (g : Given) : Except Stop Given :=
  match g.pending with
  | some (f, value) => { g with pending := none }.take f value
  | none => .ok g

/-- Takes a flag without a value. -/
def takeSwitch (g : Given) (f : Flag) : Except Stop Given := do
  let g ← g.settle
  match f with
  | .version => .error .version
  | .help => .error .help
  | _ =>
    let g ← g.note f
    match f with
    | .noImplicitControllers => return { g with options.noImplicitControllers := true }
    | .verbose => return { g with options.verbose := true }
    | _ => return g

/-- Takes an option with its value behind an equals sign. -/
def takeOption (g : Given) (f : Flag) (value : String) : Except Stop Given := do
  (← g.settle).take f value

/-- Leaves an option with the next argument as its value pending. -/
def postpone (g : Given) (f : Flag) (value : String) : Except Stop Given := do
  return { ← g.settle with pending := some (f, value) }

/-- Takes a value of a command. The first one is a path, and there are no more than the command
takes. -/
def takeValue (place : Place) (g : Given) (s : String) : Except Stop Given := do
  let g ← g.settle
  if place.arity ≤ g.values.length || (g.values.isEmpty && s.isEmpty) then .error .wrong
  else return { g with values := s :: g.values }

end Given

/-- The kinds of argument. -/
inductive Argument where
  /-- Two dashes: flags end here. -/
  | separator
  /-- A flag by its word, with the text behind its equals sign. -/
  | long (word : String) (value : Option String)
  /-- Flags by their letters. -/
  | short (letters : List Char)
  /-- Anything else. -/
  | plain (value : String)

/-- The kind of an argument. -/
def Argument.ofString (s : String) : Argument :=
  match s.toList with
  | ['-', '-'] => separator
  | '-' :: '-' :: cs =>
    match Text.cut '=' cs with
    | some (word, value) => long (String.ofList word) (some (String.ofList value))
    | none => long (String.ofList cs) none
  | ['-'] => plain s
  | '-' :: cs => short cs
  | _ => plain s

/-- Whether an argument can be the value of the option before it. -/
def Argument.isValue (s : String) : Bool :=
  match Argument.ofString s with
  | plain _ => true
  | _ => false

/-- Takes flags given by letters. None of them takes a value. -/
def takeLetters (place : Place) : List Char → Given → Except Stop Given
  | [], g => .ok g
  | c :: rest, g => do
    let f ← demand ((Flag.ofLetter? c).filter place.allows)
    takeLetters place rest (← g.takeSwitch f)

/-- The flag of a word, if it may stand at a place. -/
def flagAt (place : Place) (word : String) : Except Stop Flag :=
  demand ((Flag.ofWord? word).filter place.allows)

/-- Whether the arguments after the word help are right: none, or the name of one command. Help is a
command in this sense. -/
def isHelpTopic : List String → Bool
  | [] => true
  | [s] => s == "help" || (Place.ofWord? s).isSome
  | _ => false

/-- What has been read before the command, at the command, and which command it is. -/
structure Progress where
  place : Place
  before : Given
  current : Given

/-- Begins a command with its name. The last option before it stays pending. -/
def Progress.begin (p : Progress) (name : String) : Except Stop Progress := do
  return ⟨← demand (Place.ofWord? name), p.current, .nothing⟩

/-- Reads arguments one after the other. -/
def readArguments : List String → Progress → Except Stop Progress
  | [], p => .ok p
  | s :: rest, p => do
    match Argument.ofString s with
    | .separator =>
      return { p with current := ← rest.foldlM (Given.takeValue p.place) p.current }
    | .plain s =>
      if p.place ≠ .top then
        readArguments rest { p with current := ← p.current.takeValue p.place s }
      else if s = "help" then .error (if isHelpTopic rest then .help else .wrong)
      else readArguments rest (← p.begin s)
    | .short letters =>
      readArguments rest { p with current := ← takeLetters p.place letters p.current }
    | .long word value =>
      let f ← flagAt p.place word
      if f.takesValue then
        match value, rest with
        | some value, rest =>
          readArguments rest { p with current := ← p.current.takeOption f value }
        | none, value :: rest =>
          if Argument.isValue value then
            readArguments rest { p with current := ← p.current.postpone f value }
          else .error .wrong
        | none, [] => .error .wrong
      else if value.isSome then .error .wrong
      else readArguments rest { p with current := ← p.current.takeSwitch f }

/-- Takes what is still pending, at the command first. -/
def Progress.settle (p : Progress) : Except Stop Progress := do
  let current ← p.current.settle
  return { p with current, before := ← p.before.settle }

/-- Options from both sides of the command. Those on the right win. -/
def Options.merge (left right : Options) : Options where
  config := right.config.or left.config
  projectRoot := right.projectRoot.or left.projectRoot
  workers := right.workers.or left.workers
  maxChildDepth := right.maxChildDepth.or left.maxChildDepth
  noImplicitControllers := left.noImplicitControllers || right.noImplicitControllers
  verbose := left.verbose || right.verbose

/-- The command that was read, with exactly its values. -/
def Progress.command? (p : Progress) : Option Command :=
  match p.place, p.current.values.reverse with
  | .relations, [corpus, template] =>
    some (.relations corpus template (p.current.flags.contains .json))
  | .batch, [corpus] => some (.batch corpus)
  | .schema, [] => some .schema
  | _, _ => none

/-- What a command line asks for, or none if it is wrong. -/
def Request.ofArguments (arguments : List String) : Option Request :=
  match readArguments arguments ⟨.top, .nothing, .nothing⟩ >>= Progress.settle with
  | .error .wrong => none
  | .error .version => some .version
  | .error .help => some .help
  | .ok p => p.command?.map (.run (p.before.options.merge p.current.options))

end TwigRelations.Cli
