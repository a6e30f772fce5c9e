import TwigRelations.File

/-!
# Logging options

Where and how much a component of the program logs.
-/

namespace TwigRelations

/-- The options of one component. -/
structure LogOptions where
  /-- The component, which names its log file. -/
  component : String
  /-- Whether logs also go to the standard error stream. -/
  toStderr : Bool
  /-- The directory of the log files, or none for the default one. -/
  directory : Option Path
  /-- How much is logged. -/
  directive : String
  deriving DecidableEq

namespace LogOptions

/-- The options of a component where nothing is set. -/
def ofComponent (component : String) : LogOptions := ⟨component, false, none, "info"⟩

/-- The default directory of log files, below the home directory or else the current one. -/
def defaultDirectory (home : Option String) : Path :=
  ((Path.ofString (home.getD ".")).join ".twigscope").join "logs"

end LogOptions

end TwigRelations
