import TwigRelations.Json.Value

/-!
# The schema of snapshots

The JSON schema of corpus snapshots, for users who write one by other means. A schema is built from
its members in the order in which they are shown.
-/

namespace TwigRelations.Schema

open Json

/-- The members of a schema. -/
abbrev Members := List (String × Value)

/-- Members with a description in front. -/
def described (description : String) (members : Members) : Members :=
  ("description", .text description) :: members

/-- Any text. -/
def anyText : Members := [("type", .text "string")]

/-- Any text, or null where it is left out. -/
def textOrNull : Members :=
  [("type", .array [.text "string", .text "null"]), ("default", .null)]

/-- What a definition describes. -/
def reference (definition : String) : Members :=
  [("$ref", .text ("#/$defs/" ++ definition))]

/-- What a definition describes, or null where it is left out. -/
def referenceOrNull (definition : String) : Members :=
  [("anyOf", .array [.object (reference definition), .object [("type", .text "null")]]),
    ("default", .null)]

/-- A list of what a definition describes, empty where it is left out. -/
def listOf (definition : String) : Members :=
  [("type", .text "array"), ("default", .array []), ("items", .object (reference definition))]

/-- An object with the given fields, in alphabetical order. -/
def fields (list : List (String × Members)) : Members :=
  [("type", .text "object"),
    ("properties", .object (list.map fun field => (field.1, .object field.2)))]

/-- The fields that may not be left out. -/
def required (names : List String) : Members := [("required", .ofList .text names)]

/-- The offset of a byte. -/
def offset : Members :=
  [("type", .text "integer"), ("format", .text "uint"), ("minimum", .number 0)]

/-- A range, empty at the beginning where it is left out. -/
def spanOrZero : Members :=
  reference "Span" ++ [("default", .object [("end", .number 0), ("start", .number 0)])]

/-- The schema of block records. -/
def blockRecord : Members :=
  fields [("name", anyText), ("span", spanOrZero)] ++ required ["name"]

/-- The schema of the coordinates of actions. -/
def actionRef : Members :=
  described "Controller coordinates derived from a template name by a naming convention." (
    fields [
      ("action", described "Action method name, e.g. `indexAction`." anyText),
      ("bundle", textOrNull),
      ("controller", described "Controller class short name, e.g. `DefaultController`." anyText)]
    ++ required ["controller", "action"])

/-- The schema of controller records. -/
def controllerRecord : Members :=
  described ("A controller action (method or function) that renders templates.\n\n"
    ++ "Two actions are the same action when their `id` matches, wherever they were found.") (
    fields [
      ("id", described "e.g. `App\\Controller\\DefaultController::indexAction`" anyText),
      ("path", textOrNull),
      ("renders", described "Templates the action renders explicitly." (listOf "LogicalName")),
      ("route", described "Convention coordinates this action answers to, when known."
        (referenceOrNull "ControllerActionRef")),
      ("span", referenceOrNull "Span")]
    ++ required ["id"])

/-- The schema of inclusion kinds. -/
def inclusionKind : Members :=
  anyText ++ [("enum", .ofList .text ["include", "embed", "extends", "import", "from", "source"])]

/-- The schema of inclusions. -/
def inclusion : Members :=
  described ("An inclusion construct as reported by a content scanner.\n\n"
    ++ "`target` is `None` when the construct does not name a template literally\n"
    ++ "(e.g. `\x7b% include some_variable %\x7d`).") (
    fields [("kind", reference "InclusionKind"), ("span", spanOrZero), ("target", textOrNull)]
    ++ required ["kind"])

/-- The schema of ranges. -/
def span : Members :=
  described "Byte range `[start, end)` inside a template's content." (
    fields [("end", offset), ("start", offset)] ++ required ["start", "end"])

/-- The schema of template records. -/
def templateRecord : Members :=
  fields [
    ("blocks", listOf "BlockRecord"),
    ("inclusions", listOf "RawInclusion"),
    ("names", described
      "Logical names under which the template can be referenced. May be empty."
      (listOf "LogicalName")),
    ("path", anyText)]
  ++ required ["path"]

/-- The definitions that schemas refer to, in alphabetical order. -/
def definitions : List (String × Members) :=
  [("BlockRecord", blockRecord), ("ControllerActionRef", actionRef),
    ("ControllerRecord", controllerRecord), ("InclusionKind", inclusionKind),
    ("LogicalName", anyText), ("RawInclusion", inclusion), ("Span", span),
    ("TemplateRecord", templateRecord)]

/-- The schema of snapshots. -/
def snapshot : Value :=
  .object ([("$schema", .text "https://json-schema.org/draft/2020-12/schema"),
      ("title", .text "CorpusSnapshot")]
    ++ fields [("controllers", listOf "ControllerRecord"), ("templates", listOf "TemplateRecord")]
    ++ [("$defs", .object (definitions.map fun d => (d.1, .object d.2)))])

end TwigRelations.Schema
