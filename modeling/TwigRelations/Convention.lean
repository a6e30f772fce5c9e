import TwigRelations.Snapshot
import TwigRelations.Text.Word

/-!
# The rules of a resolution

A convention derives from a logical name the coordinates of the action that renders the template.
The convention of Symfony bundles reads `@Foo/Admin/User/edit.html.twig` and
`FooBundle:Admin/User:edit.html.twig` alike as the action `editAction` of the controller
`Admin\UserController` in `FooBundle`. Which conventions count, and how far a search goes, is set by
the user.
-/

namespace TwigRelations

/-- A convention, with the word by which it is listed. -/
structure Convention where
  /-- The word by which the convention is listed. -/
  label : String
  /-- The coordinates that the convention derives from a name, if any. -/
  actionRef? : LogicalName → Option ActionRef

namespace Convention

/-- The parts of a name that a bundle convention looks at. -/
structure BundleName where
  /-- The bundle, with or without its ending. -/
  bundle : List Char
  /-- The directories between the bundle and the file. -/
  dirs : List Char
  /-- The file. -/
  file : List Char
  deriving DecidableEq, Repr

/-- A non-empty run of word characters. -/
def isBundleWord (cs : List Char) : Bool := !cs.isEmpty && cs.all Text.isWord

/-- The parts of `@Bundle/dirs/file`. The directories reach to the last slash and lie on one
line. -/
def namespaced? : List Char → Option BundleName
  | '@' :: rest =>
    match Text.cut '/' rest with
    | some (bundle, below) =>
      match Text.cutLast '/' below with
      | some (dirs, file) =>
        if isBundleWord bundle && !dirs.isEmpty && !dirs.contains '\n' && !file.isEmpty then
          some ⟨bundle, dirs, file⟩
        else none
      | none => none
    | none => none
  | _ => none

/-- The parts of `FooBundle:dirs:file`. The bundle has a name before its ending. -/
def colonSeparated? (cs : List Char) : Option BundleName :=
  match cs.splitOn ':' with
  | [bundle, dirs, file] =>
    if isBundleWord bundle && "Bundle".toList.isSuffixOf bundle && bundle.length > 6
        && !dirs.isEmpty && !file.isEmpty && !file.contains '/' then
      some ⟨bundle, dirs, file⟩
    else none
  | _ => none

/-- The bundle with its ending. -/
def withEnding (bundle : List Char) : List Char :=
  if "Bundle".toList.isSuffixOf bundle then bundle else bundle ++ "Bundle".toList

/-- The controller and action that the parts of a name stand for. The file must have a stem and the
directories a name. -/
def BundleName.actionRef? (n : BundleName) : Option ActionRef :=
  let stem := n.file.takeWhile (· != '.')
  let segments := (n.dirs.splitOn '/').filter (!·.isEmpty)
  if stem.isEmpty || segments.isEmpty then none
  else some {
    bundle := some (String.ofList (withEnding n.bundle))
    controller := String.ofList (['\\'].intercalate segments ++ "Controller".toList)
    action := String.ofList (stem ++ "Action".toList) }

/-- The parts of a name in either bundle notation. Blanks around the name do not count, and a
backslash reads as a slash. -/
def bundleName? (n : LogicalName) : Option BundleName :=
  let written := Text.readAs '\\' '/' (Text.trim n.raw.toList)
  (namespaced? written).or (colonSeparated? written)

/-- The convention of Symfony bundles. -/
def symfony : Convention where
  label := "SymfonyControllerConvention"
  actionRef? n := (bundleName? n).bind BundleName.actionRef?

/-- The convention that looks a spelling up in a table and takes the first row that has it. -/
def table (rows : List (String × ActionRef)) : Convention where
  label := "TableConvention"
  actionRef? n := (rows.find? (·.1 == n.raw)).map (·.2)

/-- The list of conventions as it is shown. -/
def describe (conventions : List Convention) : String :=
  "Collaborators \x7b conventions: [" ++ ", ".intercalate (conventions.map label) ++ "], .. \x7d"

end Convention

/-! ## Settings

What a user may set about the search for relationships.
-/

/-- The settings of a search. -/
structure Settings where
  /-- How many levels of child templates are searched for implementations of a block. -/
  maxChildDepth : Nat
  /-- The number of workers, or none for as many as the machine has. -/
  workers : Option Nat
  /-- Whether naming conventions count as controller usages. -/
  implicitControllers : Bool
  /-- The directory that labels are relative to. -/
  projectRoot : Option Path
  deriving DecidableEq

/-- The settings where the user sets nothing. -/
def Settings.default : Settings := ⟨16, none, true, none⟩

/-- What every resolution of one engine shares: the settings and the naming conventions. -/
structure Rules where
  /-- The settings. -/
  settings : Settings
  /-- The naming conventions, in the order in which they are asked. -/
  conventions : List Convention

end TwigRelations
