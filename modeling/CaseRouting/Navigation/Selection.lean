import CaseRouting.Navigation.Basic

/-!
# Selecting a flow

At a node with several outgoing flows the candidates are those that the filter of a gateway keeps,
or all of them where no filter decides. A filter chooses by id among the flows offered and can do
nothing else: flows it makes up and changes it makes to a flow have no effect. Of several candidates
the default flow is taken, if it is one of them.
-/

namespace CaseRouting

/-- The default flow, when exactly one of the flows is marked. A graph that has been built has no
more than one at a node. -/
def singleDefault? (flows : List SequenceFlow) : Option SequenceFlow :=
  match flows.filter fun flow => flow.isDefault with
  | [flow] => some flow
  | _ => none

/-- The offered flows whose ids occur in the answer of a filter, in the order offered and as they
were offered. -/
def keptOf (offered answer : List SequenceFlow) : List SequenceFlow :=
  offered.filter fun flow => flow.id ∈ answer.map SequenceFlow.id

/-- Narrows several candidates to the default flow of the node, if it is one of them. -/
def preferDefault (flows candidates : List SequenceFlow) : List SequenceFlow :=
  match singleDefault? flows with
  | some default =>
    if 1 < candidates.length ∧ default.id ∈ candidates.map SequenceFlow.id then [default]
    else candidates
  | none => candidates

/-- The one flow that is left of the candidates at a node. The default is looked for among all flows
of the node, but it is taken only if it is a candidate. -/
def decideFlow (originId nodeId : String) (flows candidates : List SequenceFlow) :
    Except NavigationError SequenceFlow :=
  match preferDefault flows candidates with
  | [chosen] => .ok chosen
  | [] => .error (.zeroPaths originId nodeId)
  | several => .error (.multiplePaths originId nodeId (several.map SequenceFlow.id))

/-- A call of a filter, as the navigation made it, with all that the filter was given. -/
structure FilterCall where
  gatewayId : String
  context : GatewayContext
  offered : List SequenceFlow
  case : CaseData

/-- The filter that is asked at a node: the one registered for it, if it is a gateway. A filter
registered for any other node is never asked. -/
def Navigator.filterAt? (navigator : Navigator) (node : Node) : Option GatewayFilter :=
  if node.isGateway then
    match navigator.registry.resolve node.id with
    | .custom filter => some filter
    | .builtinDefault => none
  else none

/-- How far a navigation has come. The record is kept beside the walk, which looks only at the
number of the calls and at the polls. -/
structure Journey where
  /-- The nodes at which a flow was selected, in order. -/
  trail : List Node
  /-- The filter calls, in order. -/
  calls : List FilterCall
  clock : Clock

namespace Journey

/-- Nothing has happened: no node has been visited and no filter has been called. -/
def start : Journey := ⟨[], [], .start⟩

end Journey

/-- The selection at a node with the given flows, unless a filter is still suspended. A filter call
counts as made when the filter has been polled. -/
def Navigator.select (navigator : Navigator) (request : NavigationRequest) (token : Token)
    (patience : Nat) (node : Node) (flows : List SequenceFlow) (journey : Journey) :
    Option (Except NavigationError SequenceFlow) × Journey :=
  match flows with
  | [only] => (some (.ok only), journey)
  | _ =>
    match navigator.filterAt? node with
    | none => (some (decideFlow request.originId node.id flows flows), journey)
    | some filter =>
      let context := request.context node.id
      let activity := filter.start journey.calls.length flows request.case context
      let (reply, clock) :=
        awaitReply token journey.calls.length activity patience 0 journey.clock
      let call : FilterCall := ⟨filter.gatewayId, context, flows, request.case⟩
      let calls :=
        if clock.polls.length = journey.clock.polls.length then journey.calls
        else journey.calls ++ [call]
      let journey := { journey with calls := calls, clock := clock }
      match reply with
      | .pending => (none, journey)
      | .cancelled => (some (.error .cancelled), journey)
      | .answered (.error error) => (some (.error (.filterFailed error)), journey)
      | .answered (.ok answer) =>
        (some (decideFlow request.originId node.id flows (keptOf flows answer)), journey)

end CaseRouting
