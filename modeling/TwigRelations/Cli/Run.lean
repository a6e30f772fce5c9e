import TwigRelations.Cli.Arguments
import TwigRelations.Cli.View
import TwigRelations.Engine
import TwigRelations.File
import TwigRelations.Format.Report
import TwigRelations.Format.Settings
import TwigRelations.Format.Snapshot
import TwigRelations.Schema
import TwigRelations.Text.Quoted

/-!
# Running commands

What each command prints and how it fails, given the texts of the files that it names. Settings are
read before the corpus, and the corpus before a template is looked up in it.
-/

namespace TwigRelations.Cli

/-- Why a command fails. -/
inductive Failure where
  /-- A file has no text. -/
  | file (e : FileError)
  /-- The text of a file is not what it should be. -/
  | json (f : Json.Fault)
  /-- The corpus has no such template. -/
  | unknownTemplate (query : String)
  /-- A resolution has no result. -/
  | resolve (e : ResolveError)
  deriving DecidableEq, Repr

/-- The short form of a failure. -/
def Failure.label : Failure → String
  | file _ => "Io"
  | json _ => "Json"
  | unknownTemplate query => "UnknownTemplate(" ++ Text.quote query ++ ")"
  | resolve _ => "Resolve"

/-- The message of a failure. -/
def Failure.message : Failure → String
  | file .notFound => "I/O error: no such file"
  | file .notText => "I/O error: the file is not UTF-8"
  | json _ => "JSON serialization/deserialization error"
  | unknownTemplate query => "Template not found in corpus: " ++ query
  | resolve e => "Resolution error: " ++ e.message

/-- What a run leaves behind. -/
structure Outcome where
  /-- The exit status: zero, one for a failure, two for a wrong command line. -/
  status : Nat
  /-- The text printed. -/
  output : String
  /-- The failure, if there was one. -/
  failure : Option Failure
  deriving DecidableEq, Repr

/-- A way to read files. -/
abbrev Files := String → Except FileError String

/-- Reads the text of a file as a value. -/
def readFile {α : Type} (files : Files) (value : String → Except Json.Fault α) (path : String) :
    Except Failure α := do
  let text ← (files path).mapError .file
  (value text).mapError .json

/-- The settings of a command line: those of its file, or else the defaults, with its own options in
their place. -/
def loadSettings (files : Files) (o : Options) : Except Failure Settings := do
  let s ← match o.config with
    | some path => readFile files Settings.ofText path
    | none => .ok .default
  return {
    maxChildDepth := o.maxChildDepth.getD s.maxChildDepth
    workers := o.workers.or s.workers
    implicitControllers := s.implicitControllers && !o.noImplicitControllers
    projectRoot := (o.projectRoot.map Path.ofString).or s.projectRoot }

/-- The corpus of a file. -/
def loadCorpus (files : Files) (path : String) : Except Failure Corpus :=
  (readFile files Snapshot.ofText path).map Corpus.ofSnapshot

/-- The report of the template that a text leads to. -/
def findReport (c : Corpus) (settings : Settings) (query : String) : Except Failure Report :=
  match c.find? query with
  | some t => (c.report settings t).mapError .resolve
  | none => .error (.unknownTemplate query)

/-- What a command prints. -/
def runCommand (files : Files) (o : Options) : Command → Except Failure String
  | .relations path query json => do
    let settings ← loadSettings files o
    let corpus ← loadCorpus files path
    let report ← findReport corpus settings query
    return if json then report.toJson.pretty ++ "\n" else showReport report
  | .batch path => do
    let settings ← loadSettings files o
    let corpus ← loadCorpus files path
    return showBatch (corpus.batch settings)
  | .schema => return Schema.snapshot.pretty ++ "\n"

/-- What the program prints for its version. -/
def versionText : String := "twigscope 0.1.0\n"

/-- Runs a command line. -/
def run (files : Files) (arguments : List String) : Outcome :=
  match Request.ofArguments arguments with
  | none => ⟨2, "", none⟩
  | some .version => ⟨0, versionText, none⟩
  | some .help => ⟨0, "", none⟩
  | some (.run options command) =>
    match runCommand files options command with
    | .ok output => ⟨0, output, none⟩
    | .error failure => ⟨1, "", some failure⟩

end TwigRelations.Cli
