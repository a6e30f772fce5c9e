import TwigRelations.Engine
import TwigRelations.Session.World

/-!
# Sessions

A session is a sequence of steps on one engine: documents are opened and asked, batches and single
passes are run, tokens are cancelled, and the corpus is taken away for indexing and given back.
Every step yields its answer and the calls that it made.
-/

namespace TwigRelations

/-- What may be asked of a single pass. -/
inductive PassQuery where
  | checkpoint
  | fileMap
  | names (t : Template)
  | hasIncluders (names : List LogicalName)
  | includers (names : List LogicalName)
  | includeTargets (names : List LogicalName)
  | constructs (t : Template)
  | overwrites (t : Template)
  | children (t : Template)
  | controllers (t : Template)
  | implementations (b : Block)
  | overrides (b : Block)

namespace PassQuery

/-- The type of answer. -/
@[reducible] def Answer : PassQuery → Type
  | checkpoint => Unit
  | fileMap => Namespace
  | names _ => List LogicalName
  | hasIncluders _ => Bool
  | includers _ => List Template
  | includeTargets _ => List IncludeTarget
  | constructs _ => List Construct
  | overwrites _ => List Template
  | children _ => List Template
  | controllers _ => List Action
  | implementations _ => List Block
  | overrides _ => List Block

/-- What is computed. -/
def resolve (rules : Rules) : (q : PassQuery) → Pass q.Answer
  | checkpoint => Resolution.checkpoint
  | fileMap => Pass.loadNamespace
  | names t => Pass.namesFor t
  | hasIncluders list => Pass.hasIncluders list
  | includers list => Pass.includers list
  | includeTargets list => Pass.includeTargets list
  | constructs t => Pass.constructsIn t
  | overwrites t => Pass.overwrites t
  | children t => Pass.children rules.settings t
  | controllers t => Pass.controllerUsages rules t
  | implementations b => Pass.implementations rules.settings b
  | overrides b => Pass.overrides b

end PassQuery

/-- An answer to one query of a pass. -/
structure PassAnswer where
  /-- What was asked. -/
  query : PassQuery
  /-- The answer. -/
  result : Except ResolveError query.Answer

/-- Answers the queries of one pass in order. What the pass remembers carries over. -/
def runPass {σ : Type} (env : Environment σ) (rules : Rules) :
    List PassQuery → Option Namespace → σ → List PassAnswer × σ
  | [], _, s => ([], s)
  | q :: rest, loaded, s =>
    let ((result, loaded), s) := Program.run env (q.resolve rules loaded) s
    let (answers, s) := runPass env rules rest loaded s
    (⟨q, result⟩ :: answers, s)

/-- A document that is open. -/
structure OpenDocument where
  /-- The name it was opened under. -/
  name : String
  /-- The template. -/
  template : Template
  /-- The token of its pass. -/
  token : Option String
  /-- What it remembers. -/
  memory : Memory

/-- An engine at work. -/
structure Session where
  /-- The settings and conventions. -/
  rules : Rules
  /-- Whether the template index has no existence check of its own. -/
  derivedCheck : Bool
  /-- The surroundings. -/
  world : World
  /-- The documents that are open. -/
  documents : List OpenDocument

namespace Session

/-- A step of a session. -/
inductive Step where
  | setIndexing (on : Bool)
  /-- Cancels a token. Without one there is nothing to cancel. -/
  | cancel (token : Option String)
  | openDocument (name : String) (template : Template) (token : Option String)
  | access (name : String) (accessor : Accessor)
  /-- The documents of a batch are given, or else all templates of the corpus. -/
  | batch (documents : Option (List Template)) (token : Option String)
  | pass (queries : List PassQuery) (token : Option String)

/-- The answer to a step. -/
inductive Answer where
  | nothing
  | access (accessor : Accessor) (result : Except ResolveError accessor.Answer)
  | batch (results : List (Template × Except ResolveError Report))
  | pass (answers : List PassAnswer)
  | noSuchDocument

/-- The session at its beginning. -/
def start (rules : Rules) (derivedCheck : Bool) (corpus : Corpus)
    (disturbances : List Disturbance) : Session :=
  ⟨rules, derivedCheck, ⟨corpus, disturbances.map (·, 0), [], []⟩, []⟩

/-- The surroundings of a request of the session. -/
def environment (s : Session) (token : Option String) : Environment World :=
  if s.derivedCheck then (World.environment token).withDerivedCheck else World.environment token

/-- The documents with one of them replaced or added. -/
def withDocument (documents : List OpenDocument) (d : OpenDocument) : List OpenDocument :=
  d :: documents.filter (·.name != d.name)

/-- Asks an open document. A report takes the document away. -/
def access (s : Session) (d : OpenDocument) (a : Accessor) : Answer × Session :=
  let ((result, memory), world) :=
    Program.run (s.environment d.token) (a.access s.rules d.template d.memory) s.world
  let documents :=
    if a = .report then s.documents.filter (·.name != d.name)
    else withDocument s.documents { d with memory }
  (.access a result, { s with world, documents })

/-- Takes a step. -/
def perform (s : Session) : Step → Answer × Session
  | .setIndexing on =>
    (.nothing, { s with world.corpus := s.world.corpus.setIndexing on })
  | .cancel token =>
    (.nothing, { s with world.cancelled := token.toList ++ s.world.cancelled })
  | .openDocument name template token =>
    let d : OpenDocument := ⟨name, template, token, Memory.fresh none⟩
    (.nothing, { s with documents := withDocument s.documents d })
  | .access name a =>
    match s.documents.find? (·.name == name) with
    | some d => s.access d a
    | none => (.noSuchDocument, s)
  | .batch documents token =>
    let documents := documents.getD s.world.corpus.templates
    let (results, world) := Batch.run (s.environment token) s.rules [] documents s.world
    (.batch results, { s with world })
  | .pass queries token =>
    let (answers, world) := runPass (s.environment token) s.rules queries none s.world
    (.pass answers, { s with world })

/-- The calls of a step as they are listed: in order, or sorted where many documents made them. -/
def listCalls (step : Step) (log : List Call) : List Call :=
  match step with
  | .batch _ _ => log.reverse.mergeSort fun a b => (Call.compare a b).isLE
  | _ => log.reverse

/-- Takes a step and lists the calls it made. -/
def performLogged (s : Session) (step : Step) : (Answer × List Call) × Session :=
  let (answer, s) := perform { s with world.log := [] } step
  ((answer, listCalls step s.world.log), s)

/-- Takes steps one after the other. -/
def performAll : Session → List Step → List (Answer × List Call)
  | _, [] => []
  | s, step :: rest =>
    let (answer, s) := s.performLogged step
    answer :: performAll s rest

end Session

end TwigRelations
