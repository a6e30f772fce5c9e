import TwigRelations.Convention
import TwigRelations.Relation
import TwigRelations.Resolve.Pass

/-!
# The relationships of a template

What a pass asks of a corpus, and puts together: who includes a template, which templates share a
name with it, which actions render it, and how its blocks relate to those further up and down.
-/

namespace TwigRelations.Pass

open Resolution

/-! ## Who includes a template

The templates that refer to any of some names, and the places where they do.
-/

/-- Whether any template refers to one of the names. Stops at the first name that is referred to. -/
def hasIncluders : List LogicalName → Pass Bool
  | [] => return false
  | name :: names => do
    checkpoint
    if ← ask (.hasReferencing name) then return true else hasIncluders names

/-- The templates that refer to any of the names. -/
def includers (names : List LogicalName) : Pass (List Template) :=
  names.foldlM (fun found name => do
    checkpoint
    return Distinct.union found (← ask (.referencing name))) []

/-- The references of a template that name another one, in source order. -/
def constructsIn (t : Template) : Pass (List Construct) := do
  checkpoint
  return (← ask (.inclusionsIn t)).filterMap Inclusion.construct?

/-- The places in one template that refer to any of the names, or the file where there is none. -/
def targetsIn (names : List LogicalName) (t : Template) : Pass (List IncludeTarget) := do
  checkpoint
  match (← constructsIn t).filter fun c => Distinct.holds names c.target with
  | [] => return [.file t]
  | constructs => return constructs.map (.construct t)

/-- The places in all templates that refer to any of the names. -/
def includeTargets (names : List LogicalName) : Pass (List IncludeTarget) := do
  return (← (← includers names).mapM (targetsIn names)).flatten

/-! ## Layers of one name

The other templates registered under a template's names.
-/

/-- The other templates registered under any of a template's names. -/
def overwrites (t : Template) : Pass (List Template) := do
  (← namesFor t).foldlM (fun found name => do
    checkpoint
    let layers ← ask (.templatesNamed name)
    return Distinct.union found (layers.filter (!same · t))) []

/-! ## Controllers that render a template

The actions that the naming conventions derive from a template's names, followed by those that are
known to render it.
-/

/-- Adds the action that one convention derives from a name, if there is such an action. -/
def addConventional (name : LogicalName) (found : List Action) (convention : Convention) :
    Pass (List Action) := do
  checkpoint
  match convention.actionRef? name with
  | none => return found
  | some ref =>
    match ← ask (.actionFor ref) with
    | some action => return Distinct.insert found action
    | none => return found

/-- The actions that the conventions derive from a template's names. -/
def conventionalUsages (rules : Rules) (t : Template) : Pass (List Action) := do
  if rules.settings.implicitControllers then
    (← namesFor t).foldlM (fun found name =>
      rules.conventions.foldlM (addConventional name) found) []
  else return []

/-- The actions that render a template. -/
def controllerUsages (rules : Rules) (t : Template) : Pass (List Action) := do
  let found ← conventionalUsages rules t
  checkpoint
  return Distinct.union found (← ask (.controllersOf t))

/-! ## Child templates and blocks

The templates that include a template directly or through others, found level by level, and what
follows for its blocks: where they are implemented further down, and which ones they override
further up.
-/

/-- The templates found so far below a parent. -/
structure Descent where
  /-- All templates found, nearest first. -/
  found : List Template
  /-- Those found at the level being searched. -/
  level : List Template

/-- The templates of a list that are neither the parent nor found before. -/
def newChildren (parent : Template) (found candidates : List Template) : List Template :=
  candidates.filter fun t => !same t parent && !Distinct.holds found t

/-- Adds the includers of each template of a level to a descent. -/
def descendLevel (parent : Template) (level : List Template) (d : Descent) : Pass Descent :=
  level.foldlM (fun d t => do
    checkpoint
    let children := newChildren parent d.found (← includers (← namesFor t))
    return ⟨d.found ++ children, d.level ++ children⟩) d

/-- Descends at most the given number of levels. -/
def descend (parent : Template) : Nat → Descent → Pass (List Template)
  | 0, d => return d.found
  | levels + 1, d =>
    match d.level with
    | [] => return d.found
    | level => do descend parent levels (← descendLevel parent level ⟨d.found, []⟩)

/-- The templates that include a template, directly or through other children. -/
def children (settings : Settings) (parent : Template) : Pass (List Template) :=
  descend parent settings.maxChildDepth ⟨[], [parent]⟩

/-- The blocks of exactly the same name in the child templates. -/
def implementations (settings : Settings) (b : Block) : Pass (List Block) := do
  (← children settings b.template).foldlM (fun found t => do
    checkpoint
    let blocks ← ask (.blocksIn t)
    return Distinct.union found (blocks.filter (·.name == b.name))) []

/-- The blocks that a block overrides further up. -/
def overrides (b : Block) : Pass (List Block) := do
  checkpoint
  return Distinct.ofList ((← ask (.parentBlocks b)).filter (!same · b))

end TwigRelations.Pass
