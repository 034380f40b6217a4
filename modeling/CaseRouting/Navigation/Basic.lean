import CaseRouting.Gateway.Registry

/-!
# Requests, tokens and failures of a navigation

A navigation asks where a case goes from a node. Its caller may hold a token that cancels the call;
the token counts only at the polls of gateway filters, and there it is looked at before the filter
is polled.
-/

namespace CaseRouting

/-- Why a navigation has no answer. -/
inductive NavigationError where
  /-- The node to start from does not exist. -/
  | nodeNotFound (id : String)
  /-- A filter left no flow. -/
  | zeroPaths (origin gateway : String)
  /-- Several flows are left and no default decides. -/
  | multiplePaths (origin nodeId : String) (candidates : List String)
  /-- A chain of gateways leads back to one of them. -/
  | cycleDetected (origin gateway : String)
  /-- A filter failed. -/
  | filterFailed (error : FilterError)
  /-- The call was cancelled while it waited for a filter. -/
  | cancelled
  deriving DecidableEq, Repr

namespace NavigationError

/-- The message of an error. All of them but two name the node that the navigation began at or could
not find. -/
def message : NavigationError → String
  | .nodeNotFound id => "node '" ++ id ++ "' not found in process"
  | .zeroPaths origin gateway =>
    "No next element selected from " ++ origin ++ ": gateway '" ++ gateway ++
      "' left no outgoing flow"
  | .multiplePaths origin _ _ =>
    "Multiple next elements found from " ++ origin ++
      ". Please supply action and filters or define a default flow."
  | .cycleDetected origin gateway =>
    "cycle detected navigating from " ++ origin ++ ": gateway '" ++ gateway ++ "' reached twice"
  | .filterFailed error => "gateway filter failed: " ++ error.message
  | .cancelled => "navigation cancelled"

/-- Whether the error comes from an undecided gateway rather than from a broken call. A caller may
then ask somebody to choose. -/
def isAmbiguity : NavigationError → Bool
  | .zeroPaths _ _ => true
  | .multiplePaths _ _ _ => true
  | _ => false

end NavigationError

/-- A graph and the filters of its gateways. Nothing makes the gateways of the filters be gateways
of the graph. -/
structure Navigator where
  graph : ProcessGraph
  registry : FilterRegistry

/-- What a navigation is asked. The case and the action are only handed to filters, and the origin
is where the walk begins. -/
structure NavigationRequest where
  /-- The node the case occupies. -/
  originId : String
  /-- The action supplied by the caller. -/
  action : Option String
  case : CaseData

/-- The context of a filter call. The gateway changes from call to call, and the origin and the
action are those of the request. -/
def NavigationRequest.context (request : NavigationRequest) (gatewayId : String) :
    GatewayContext :=
  ⟨gatewayId, request.originId, request.action⟩

/-- The token of a call. It is looked at only when a filter is due to be polled, and never between
two gateways. -/
inductive Token where
  /-- Filters can cancel it, and the caller can: the function tells whether the caller has done so
  by the poll with the given number, polls of the whole navigation being counted from zero. -/
  | shared (cancelledBy : Nat → Bool)
  /-- Nobody can cancel it. -/
  | detached

namespace Token

/-- A token that the caller never cancels, although a filter still may. -/
def fresh : Token := .shared fun _ => false

/-- A token that has been cancelled before the call, so that no filter is ever polled. -/
def spent : Token := .shared fun _ => true

end Token

/-- A poll of a filter that took place, with the filter call that it belongs to. -/
structure FilterPoll where
  /-- The number of the filter call, calls of the whole navigation being counted from zero. -/
  call : Nat
  /-- What happened at the poll. -/
  poll : Poll

/-- How far the polls of a navigation have come. They are all kept, for what happened at them
decides whether the token is cancelled. -/
structure Clock where
  /-- The polls that have taken place, in order. -/
  polls : List FilterPoll

namespace Clock

/-- No poll has taken place, as at the beginning of every navigation. -/
def start : Clock := ⟨[]⟩

/-- Whether a filter has cancelled the token, at any of the polls that have taken place. -/
def cancelled (clock : Clock) : Bool := clock.polls.any fun taken => taken.poll.cancels

/-- Whether the token is cancelled when the next poll is due, by a filter before or by the caller in
the meantime. -/
def isCancelled (clock : Clock) : Token → Bool
  | .shared cancelledBy => clock.cancelled || cancelledBy clock.polls.length
  | .detached => false

/-- The clock behind a poll of a filter call, which adds the poll at the end. -/
def advance (clock : Clock) (call : Nat) (poll : Poll) : Clock := ⟨clock.polls ++ [⟨call, poll⟩]⟩

end Clock

/-- How waiting for a filter ends. That the patience is used up is no end of the program, but of
what is looked at here. -/
inductive Reply where
  | answered (answer : FilterAnswer)
  /-- The token was cancelled when a poll was due. -/
  | cancelled
  /-- The filter is still suspended. -/
  | pending

/-- Polls the activity of a filter call, from the poll with the given number on, until it answers,
the token is cancelled or the patience is used up. -/
def awaitReply (token : Token) (call : Nat) (activity : Activity) :
    Nat → Nat → Clock → Reply × Clock
  | 0, _, clock => (.pending, clock)
  | patience + 1, number, clock =>
    if clock.isCancelled token then (.cancelled, clock)
    else
      let poll := activity number
      let clock := clock.advance call poll
      match poll.answer with
      | some answer => (.answered answer, clock)
      | none => awaitReply token call activity patience (number + 1) clock

end CaseRouting
