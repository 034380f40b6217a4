import CaseRouting.Gateway.CaseData
import CaseRouting.Graph.Basic

/-!
# Gateway filters

A filter belongs to one gateway and narrows the flows offered there. A call of a filter is an
*activity* that is polled until it answers: a poll may answer, or leave the call suspended, and it
may cancel the navigation that waits for it. An activity may stay suspended for ever. The filters
defined here answer at the first poll and depend on nothing but what they are given.
-/

namespace CaseRouting

/-- A filter could not decide. It blames a gateway of its own choice, which need not be the one that
it was called for. -/
structure FilterError where
  /-- The gateway that is blamed. -/
  gatewayId : String
  reason : String
  deriving DecidableEq, Repr

/-- The message of an error, with the gateway that is blamed and the reason in the words of the
filter. -/
def FilterError.message (error : FilterError) : String :=
  "filter for gateway '" ++ error.gatewayId ++ "' failed: " ++ error.reason

/-- What a filter learns about the call besides the flows and the case. A navigation that comes to
several gateways gives the same origin and action at each. -/
structure GatewayContext where
  /-- The gateway that is being decided. -/
  gatewayId : String
  /-- The node at which the whole navigation started. -/
  originId : String
  /-- The action supplied by the caller. -/
  action : Option String
  deriving DecidableEq, Repr

/-- The answer of a filter: the flows it keeps, or why it cannot decide. Nothing in this type makes
the flows be among those that were offered. -/
abbrev FilterAnswer := Except FilterError (List SequenceFlow)

/-- What happens at one poll of an activity. A poll may cancel the navigation and answer at once. -/
structure Poll where
  /-- The poll cancels the token of the navigation. -/
  cancels : Bool
  /-- The answer, or nothing while the activity is suspended. -/
  answer : Option FilterAnswer

/-- A running call of a filter: what happens at its first poll, at its second and so on. Polls
behind the one that answers do not take place. -/
abbrev Activity := Nat → Poll

namespace Activity

/-- Answers at the first poll, without cancelling the navigation. -/
def done (answer : FilterAnswer) : Activity := fun _ => ⟨false, some answer⟩

/-- Suspends a number of times before it goes on as the given activity does from its own first
poll. -/
def delayed (times : Nat) (activity : Activity) : Activity := fun poll =>
  if poll < times then ⟨false, none⟩ else activity (poll - times)

/-- Never answers, so that only a cancellation ends the navigation that waits for it. -/
def stalled : Activity := fun _ => ⟨false, none⟩

/-- Cancels the token of the navigation at the first poll, whatever else the activity does there. -/
def cancelling (activity : Activity) : Activity := fun poll =>
  { activity poll with cancels := poll = 0 || (activity poll).cancels }

/-- The answer, if it comes within so many polls from the given one on. The number of polls is a
bound on the search only, for an activity that never answers would be searched for ever. -/
def answerWithin (activity : Activity) : Nat → Nat → Option FilterAnswer
  | 0, _ => none
  | patience + 1, poll =>
    match (activity poll).answer with
    | some answer => some answer
    | none => activity.answerWithin patience (poll + 1)

end Activity

/-- A filter of one gateway. It holds the id of that gateway itself, as what registers it asks
for. -/
structure GatewayFilter where
  /-- The gateway the filter is registered for. -/
  gatewayId : String
  /-- Starts a call. The number tells how many filters the navigation has called before, so that
  a filter may answer differently each time. -/
  start : Nat → List SequenceFlow → CaseData → GatewayContext → Activity

namespace GatewayFilter

/-- A filter that answers at once and always in the same way, by a function of what it is given. -/
def answering (gatewayId : String)
    (answer : List SequenceFlow → CaseData → GatewayContext → FilterAnswer) : GatewayFilter :=
  ⟨gatewayId, fun _ offered case context => .done (answer offered case context)⟩

/-- Keeps the flow whose id is the text set on the case under a key; nothing, if there is none. -/
def byDataValue (gatewayId key : String) : GatewayFilter :=
  .answering gatewayId fun offered case _ =>
    match case.dataValue? key with
    | some chosen => .ok (offered.filter fun flow => flow.id = chosen)
    | none => .ok []

/-- Keeps the flows whose condition is the caller's action; without an action, the flows that have
no condition. -/
def byAction (gatewayId : String) : GatewayFilter :=
  .answering gatewayId fun offered _ context =>
    .ok (offered.filter fun flow => flow.condition = context.action)

/-- Keeps the flows with the given ids, in the order in which they were offered. An id that no flow
has is passed over. -/
def byFlowIds (gatewayId : String) (flowIds : List String) : GatewayFilter :=
  .answering gatewayId fun offered _ _ => .ok (offered.filter fun flow => flow.id ∈ flowIds)

end GatewayFilter

end CaseRouting
