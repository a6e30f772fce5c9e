import TwigRelations.Convention
import TwigRelations.Format.Template

/-!
# Settings in JSON

How settings are written and read. What is left out has its default.
-/

namespace TwigRelations

open Json

/-- What is known of settings while they are read. -/
structure Settings.Draft where
  maxChildDepth : Option Nat
  workers : Option (Option Nat)
  implicitControllers : Option Bool
  projectRoot : Option (Option Path)

namespace Settings

/-- Settings as they are written. -/
def toJson (s : Settings) : Value :=
  .object [("max_child_depth", .number s.maxChildDepth),
    ("workers", .ofOption (fun n => .number n) s.workers),
    ("implicit_controllers", .bool s.implicitControllers),
    ("project_root", .ofOption Path.toJson s.projectRoot)]

/-- The fields of settings. -/
def fields : Fields Draft
  | "max_child_depth", t, d =>
    some ((once d.maxChildDepth Tree.natural t).map fun v => { d with maxChildDepth := v })
  | "workers", t, d =>
    some ((once d.workers (Tree.nullable Tree.natural) t).map fun v => { d with workers := v })
  | "implicit_controllers", t, d =>
    some ((once d.implicitControllers Tree.boolean t).map fun v =>
      { d with implicitControllers := v })
  | "project_root", t, d =>
    some ((once d.projectRoot (Tree.nullable Path.ofJson) t).map fun v =>
      { d with projectRoot := v })
  | _, _, _ => none

/-- Reads settings. -/
def ofJson : Decoder Settings :=
  record fields ⟨none, none, none, none⟩
    (fun d => return {
      maxChildDepth := d.maxChildDepth.getD default.maxChildDepth
      workers := d.workers.getD default.workers
      implicitControllers := d.implicitControllers.getD default.implicitControllers
      projectRoot := d.projectRoot.getD default.projectRoot })
    (fun ending => return {
      maxChildDepth := ← Row.fieldOr ending Tree.natural default.maxChildDepth
      workers := ← Row.fieldOr ending (Tree.nullable Tree.natural) default.workers
      implicitControllers := ← Row.fieldOr ending Tree.boolean default.implicitControllers
      projectRoot := ← Row.fieldOr ending (Tree.nullable Path.ofJson) default.projectRoot })

/-- Reads the text of settings. -/
def ofText (s : String) : Except Fault Settings := readText ofJson s

end Settings

end TwigRelations
