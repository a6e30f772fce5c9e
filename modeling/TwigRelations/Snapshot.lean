import TwigRelations.Template

/-!
# Corpus snapshots

A snapshot is a project as it was parsed elsewhere: the templates with their names, inclusions and
blocks, and the controller actions with the names that they render.
-/

namespace TwigRelations

/-! ## Controller actions

A controller action renders templates. It is known by its id, such as
`App\Controller\DefaultController::indexAction`, and may also be referred to by the coordinates that
a naming convention gives: a bundle, a controller and an action.
-/

/-- A controller action. -/
structure Action where
  /-- The name by which the action is known. -/
  id : String
  /-- The file that defines the action, if known. -/
  path : Option Path
  /-- Where the action stands in its file, if known. -/
  span : Option Span
  deriving DecidableEq

namespace Action

instance : Identified Action String where
  identity a := a.id

/-- The text before the first double colon. -/
def beforePair : List Char → List Char
  | ':' :: ':' :: _ => []
  | c :: rest => c :: beforePair rest
  | [] => []

/-- The part of the id after its last double colon. -/
def method (a : Action) : String := String.ofList (beforePair a.id.toList.reverse).reverse

end Action

/-- The coordinates of an action. -/
structure ActionRef where
  /-- The bundle of the controller, if any. -/
  bundle : Option String
  /-- The short name of the controller class. -/
  controller : String
  /-- The name of the action method. -/
  action : String
  deriving DecidableEq, Repr

/-- The coordinates as text. -/
def ActionRef.text (r : ActionRef) : String :=
  let rest := r.controller ++ "::" ++ r.action
  match r.bundle with
  | some bundle => bundle ++ ":" ++ rest
  | none => rest

/-! ## Records -/

/-- A block as it is recorded with its template. -/
structure BlockRecord where
  /-- The name of the block. -/
  name : String
  /-- Where the block stands. -/
  span : Span
  deriving DecidableEq

/-- A template as it is recorded. -/
structure TemplateRecord where
  /-- Where the file is. -/
  path : Path
  /-- The names under which the template can be referred to. -/
  names : List LogicalName
  /-- The references in the template, in source order. -/
  inclusions : List Inclusion
  /-- The blocks of the template, in source order. -/
  blocks : List BlockRecord
  deriving DecidableEq

/-- The template that a record describes. -/
def TemplateRecord.template (r : TemplateRecord) : Template := ⟨r.path⟩

/-- The well-formed references of a record, in source order. -/
def TemplateRecord.constructs (r : TemplateRecord) : List Construct :=
  r.inclusions.filterMap Inclusion.construct?

/-- A controller action as it is recorded. -/
structure ControllerRecord where
  /-- The action. -/
  action : Action
  /-- The names that the action renders. -/
  renders : List LogicalName
  /-- The coordinates that the action answers to, if known. -/
  route : Option ActionRef
  deriving DecidableEq

/-- A parsed project. -/
structure Snapshot where
  /-- The templates. -/
  templates : List TemplateRecord
  /-- The controllers. -/
  controllers : List ControllerRecord
  deriving DecidableEq

end TwigRelations
