import TwigRelations.Collection
import TwigRelations.Name
import TwigRelations.Template

/-!
# The template namespace

A namespace is the list of entries of an index, read in both directions: from a name to the
templates registered under it, and from a template to its names. Several templates under one name
are layers that override each other; templates whose first names fold to one label collide.
-/

namespace TwigRelations

/-- Drops every name whose key equals that of the name before it. -/
def dropAdjacent : LogicalName → List LogicalName → List LogicalName
  | last, n :: rest =>
    if same n last then dropAdjacent last rest else n :: dropAdjacent n rest
  | _, [] => []

/-- Names in display order, one for each key. -/
def arrangeNames (names : List LogicalName) : List LogicalName :=
  match names.mergeSort fun a b => (LogicalName.displayOrder a b).isLE with
  | [] => []
  | n :: rest => n :: dropAdjacent n rest

/-- A namespace at one moment. -/
structure Namespace where
  /-- The templates of each name, in the order of the entries. -/
  byName : Table LogicalName (List Template)
  /-- The names of each template, in display order. -/
  byTemplate : Table Template (List LogicalName)
  /-- The templates whose first name has a given label, in path order. -/
  byLabel : List (String × List Template)

namespace Namespace

/-- The templates of each name that is not blank. -/
def tabulateNames (entries : List NamespaceEntry) : Table LogicalName (List Template) :=
  entries.foldl
    (fun t e => Table.alter (fun old => Distinct.insert (old.getD []) e.template) e.name t) []

/-- The names of each template, as the entries list them. -/
def tabulateTemplates (entries : List NamespaceEntry) : Table Template (List LogicalName) :=
  entries.foldl (fun t e => Table.alter (fun old => old.getD [] ++ [e.name]) e.template t) []

/-- The label of a template by its first name. -/
def labelOf? (names : List LogicalName) : Option String := names.head?.map LogicalName.labelKey

/-- Adds a template to the group of its label. -/
def addLabel (label : String) (t : Template) :
    List (String × List Template) → List (String × List Template)
  | [] => [(label, [t])]
  | g :: rest =>
    if g.1 = label then (g.1, Distinct.insert g.2 t) :: rest else g :: addLabel label t rest

/-- The templates of each label, in path order. -/
def tabulateLabels (named : Table Template (List LogicalName)) : List (String × List Template) :=
  let groups := named.foldl (fun groups r =>
    match labelOf? r.2 with
    | some label => addLabel label r.1 groups
    | none => groups) []
  groups.map fun g => (g.1, g.2.mergeSort fun a b => (compare a b).isLE)

/-- The namespace of a list of entries. Entries with a blank name do not count. -/
def ofEntries (entries : List NamespaceEntry) : Namespace :=
  let named := entries.filter (!·.name.isEmpty)
  let byTemplate := (tabulateTemplates named).map fun r => (r.1, arrangeNames r.2)
  { byName := tabulateNames named
    byTemplate
    byLabel := tabulateLabels byTemplate }

/-- The names of a template. A template outside the namespace has none. -/
def namesFor (ns : Namespace) (t : Template) : List LogicalName :=
  (Table.get? ns.byTemplate t).getD []

/-- The templates registered under a name. -/
def templates (ns : Namespace) (n : LogicalName) : List Template :=
  (Table.get? ns.byName n).getD []

/-- The templates whose first name has a given label. -/
def labelled (ns : Namespace) (label : String) : List Template :=
  (ns.byLabel.lookup label).getD []

/-- The other templates whose first name folds to the same label. -/
def labelCollisions (ns : Namespace) (t : Template) : List Template :=
  match labelOf? (ns.namesFor t) with
  | some label => (ns.labelled label).filter (!same · t)
  | none => []

/-- The number of names. -/
def nameCount (ns : Namespace) : Nat := ns.byName.length

/-- The number of templates that have a name. -/
def templateCount (ns : Namespace) : Nat := ns.byTemplate.length

/-- Whether no template has a name. -/
def isEmpty (ns : Namespace) : Bool := ns.byName.isEmpty

end Namespace

/-! ## Labels

The label under which a template is shown: its first name folded, told apart from the templates of
the same label by the directories that the file lies in, or by its path where these do not help.
-/

/-- The last directories of a path, joined by slashes. -/
def lastDirectories (dirs : List String) (count : Nat) : String :=
  "/".intercalate (dirs.drop (dirs.length - count))

/-- The shortest trailing run of a template's directories that none of the others ends with. -/
def distinguishingDirectories (t : Template) (others : List Template) : Option String :=
  let own := t.path.directories
  (List.range own.length).findSome? fun i =>
    let candidate := lastDirectories own (i + 1)
    if others.all fun o => lastDirectories o.path.directories (i + 1) != candidate then
      some candidate
    else none

/-- The label of a template. A template without names is shown by its path. -/
def label (ns : Namespace) (root : Option Path) (t : Template) : String :=
  match ns.namesFor t with
  | [] => t.path.relativeTo root
  | first :: _ =>
    let folded := foldName first.raw
    match ns.labelCollisions t with
    | [] => folded
    | others =>
      match distinguishingDirectories t others with
      | some dirs => folded ++ " (" ++ dirs ++ ")"
      | none => t.path.relativeTo root

end TwigRelations
