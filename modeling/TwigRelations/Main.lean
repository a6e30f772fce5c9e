import TwigRelations.Cli.Run

/-!
# The program

Reads the files that a command line names, prints what the command prints, and exits with its
status.
-/

namespace TwigRelations

/-- The text of a file on disk. -/
def loadText (path : String) : IO (Except FileError String) := do
  try
    return textOfBytes (some (← IO.FS.readBinFile path))
  catch _ => return .error .notFound

/-- The files that a command line reads. -/
def filesNamed (arguments : List String) : List String :=
  match Cli.Request.ofArguments arguments with
  | some (.run options command) =>
    options.config.toList ++
      match command with
      | .relations corpus _ _ => [corpus]
      | .batch corpus => [corpus]
      | .schema => []
  | _ => []

end TwigRelations

open TwigRelations in
/-- Runs the command line. -/
def main (arguments : List String) : IO UInt32 := do
  let texts ← (filesNamed arguments).mapM fun path => return (path, ← loadText path)
  let outcome := Cli.run (fun path => (texts.lookup path).getD (.error .notFound)) arguments
  IO.print outcome.output
  match outcome.failure with
  | some failure => IO.eprintln ("Error: " ++ failure.message)
  | none => pure ()
  return UInt32.ofNat outcome.status
