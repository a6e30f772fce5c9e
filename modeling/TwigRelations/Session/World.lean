import TwigRelations.Corpus
import TwigRelations.Program

/-!
# A world that can be disturbed

A corpus together with what may go wrong around it: disturbances that fail or empty certain calls or
cancel a token when one is made, the tokens that are cancelled, and a log of all calls.
-/

namespace TwigRelations

namespace Query

/-- The word for a query in a log. -/
def method : Query → String
  | namespaceEntries => "namespace_entries"
  | templatesNamed _ => "lookup_by_logical_name"
  | referencing _ => "lookup_referencing_templates"
  | hasReferencing _ => "has_referencing_templates"
  | controllersOf _ => "lookup_controllers_for_template"
  | actionFor _ => "find_action"
  | inclusionsIn _ => "scan_inclusion_constructs"
  | blocksIn _ => "scan_blocks"
  | parentBlocks _ => "parent_blocks_of"

/-- What a query is about, in a log. -/
def argument : Query → String
  | namespaceEntries => ""
  | templatesNamed n | referencing n | hasReferencing n => n.raw
  | controllersOf t | inclusionsIn t | blocksIn t => t.path.text
  | actionFor r => r.text
  | parentBlocks b =>
    b.template.path.text ++ "#" ++ b.name ++ "@" ++ toString b.span.start.toNat ++ "-"
      ++ toString b.span.stop.toNat

end Query

/-- A call as it is logged. -/
structure Call where
  /-- The word for the query. -/
  method : String
  /-- What the query is about. -/
  argument : String
  deriving DecidableEq, Repr

/-- The call that a query makes. -/
def Query.call (q : Query) : Call := ⟨q.method, q.argument⟩

/-- The order of calls: by method, then by argument. -/
def Call.compare (a b : Call) : Ordering :=
  (Ord.compare a.method b.method).then (Ord.compare a.argument b.argument)

/-- What a disturbance does to a call. -/
inductive Effect where
  /-- Cancels a token, if there is one; the call goes on. -/
  | cancel (token : Option String)
  /-- The index is unavailable, for a reason. -/
  | unavailable (reason : String)
  /-- Nothing is found. -/
  | empty
  deriving DecidableEq, Repr

/-- Something that happens to certain calls. -/
structure Disturbance where
  /-- The calls it looks at, by their word. -/
  method : String
  /-- What the calls are about, or none for any. -/
  argument : Option String
  /-- The number of the first call that is affected, counted from one. -/
  first : Nat
  /-- How many calls are affected, or none for all that follow. -/
  count : Option Nat
  /-- What happens to them. -/
  effect : Effect
  deriving DecidableEq, Repr

namespace Disturbance

/-- Whether a disturbance looks at a call. -/
def concerns (d : Disturbance) (c : Call) : Bool :=
  d.method == c.method &&
    match d.argument with
    | none => true
    | some argument => argument == c.argument

/-- Whether the call of a given number is affected. -/
def affects (d : Disturbance) (number : Nat) : Bool :=
  d.first ≤ number &&
    match d.count with
    | none => true
    | some count => number < d.first + count

end Disturbance

/-- The state of the surroundings. -/
structure World where
  /-- The corpus that answers. -/
  corpus : Corpus
  /-- The disturbances, each with the number of calls it has looked at. -/
  disturbances : List (Disturbance × Nat)
  /-- The tokens that are cancelled. -/
  cancelled : List String
  /-- The calls made, last first. -/
  log : List Call

namespace World

/-- The effects of a call, in the order of the disturbances. -/
def effects (w : World) (c : Call) : List Effect :=
  w.disturbances.filterMap fun (d, seen) =>
    if d.concerns c && d.affects (seen + 1) then some d.effect else none

/-- The token that an effect cancels. -/
def cancels : Effect → Option String
  | .cancel token => token
  | _ => none

/-- The state after a call: it is logged and counted, and tokens are cancelled. -/
def noteCall (w : World) (c : Call) : World :=
  { w with
    disturbances := w.disturbances.map fun (d, seen) =>
      (d, if d.concerns c then seen + 1 else seen)
    cancelled := (w.effects c).filterMap cancels ++ w.cancelled
    log := c :: w.log }

/-- The reply to a query under some effects: the first that fails or empties it counts. -/
def replyUnder (corpus : Corpus) (q : Query) : List Effect → Reply q
  | [] => corpus.reply q
  | .cancel _ :: rest => replyUnder corpus q rest
  | .unavailable reason :: _ => .error ⟨q.index, reason⟩
  | .empty :: _ => .ok q.nothing

/-- Whether a request is cancelled. A request without a token never is. -/
def isCancelled (w : World) : Option String → Bool
  | none => false
  | some token => w.cancelled.contains token

/-- The surroundings of a request with a given token. -/
def environment (token : Option String) : Environment World where
  poll w := (w.isCancelled token, w)
  reply q w := (replyUnder w.corpus q (w.effects q.call), w.noteCall q.call)

end World

end TwigRelations
