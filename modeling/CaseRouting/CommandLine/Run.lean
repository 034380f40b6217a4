import CaseRouting.CommandLine.Arguments
import CaseRouting.Definition.File
import CaseRouting.Gateway.CaseText
import CaseRouting.Graph.Build
import CaseRouting.Graph.Written
import CaseRouting.Navigation.Walk

/-!
# Running the program

A run is a function of the arguments, the files and the standard input. It goes through its stages
in a fixed order and reports the failure of the first stage that fails: the filters are registered,
the definition is loaded and becomes a graph, the case is read, and the navigation takes place.
-/

namespace CaseRouting.CommandLine

/-- What a run can look at besides its arguments. It reads files by their paths and the standard
input to its end, and each at most once. -/
structure RunInput where
  files : FileReader
  stdin : ByteArray

/-- The stage of a run that failed, with the error of that stage and the path or the node that the
report names. -/
inductive Failure where
  | registration (error : RegistryError)
  | definition (path : String) (error : LoadError)
  | graph (path : String) (error : GraphError)
  /-- The file with the case cannot be read. -/
  | caseFile (path : String) (reason : ReadError)
  /-- The text of the case file is no case. -/
  | caseText (path : String) (error : Json.Error)
  /-- The standard input cannot be read. -/
  | stdin (reason : ReadError)
  /-- The text of the standard input is no case. -/
  | stdinText (error : Json.Error)
  | navigation (originId : String) (error : NavigationError)
  /-- A filter never answered. The filters that the arguments ask for all answer at their first
  poll, so that no run of the program ends this way. -/
  | unanswered (originId : String)

namespace Failure

/-- What went wrong, in the words of the stage that failed; the errors below it are reported as its
causes. -/
def summary : Failure → String
  | .registration _ => "failed to register gateway filters"
  | .definition path _ => "failed to load process definition: " ++ path
  | .graph path _ => "invalid process definition: " ++ path
  | .caseFile path _ => "failed to read case file: " ++ path
  | .caseText path _ => "failed to parse case file: " ++ path
  | .stdin _ => "failed to read case data from stdin"
  | .stdinText _ => "failed to parse case data JSON from stdin"
  | .navigation originId _ => "navigation from '" ++ originId ++ "' failed"
  | .unanswered originId => "navigation from '" ++ originId ++ "' failed"

/-- Why it went wrong, from the nearest cause on. What a text that cannot be read should have been
is not reported. -/
def causes : Failure → List String
  | .registration error => [error.message]
  | .definition _ (.unreadable path reason) => [unreadableMessage path reason, reason.message]
  | .definition _ (.json _) => []
  | .definition _ .yaml => []
  | .graph _ error => [error.message]
  | .caseFile _ reason => [reason.message]
  | .caseText _ _ => []
  | .stdin reason => [reason.message]
  | .stdinText _ => []
  | .navigation _ error => [error.message]
  | .unanswered _ => []

/-- A message whose further lines are indented, so that all of its lines stand below the first one
of the report. -/
def indentLines (indent : List Char) (message : String) : List Char :=
  message.toList.flatMap fun c => if c = '\n' then '\n' :: indent else [c]

/-- A cause with its number, right-aligned in five places, as the report writes the causes of a
failure that has several. -/
def numberedCause (number : Nat) (message : String) : List Char :=
  let digits := Decimal.natural number
  List.replicate (5 - digits.length) ' ' ++ digits ++ [':', ' '] ++
    indentLines (List.replicate 7 ' ') message ++ ['\n']

/-- The causes from a number on, each on its line. The report counts them from zero, the nearest
cause first. -/
def numberedCauses : Nat → List String → List Char
  | _, [] => []
  | number, message :: rest => numberedCause number message ++ numberedCauses (number + 1) rest

/-- The report of a failure: what went wrong and, if it is known, why. A single cause stands
indented on a line of its own, and several causes are numbered. -/
def report (failure : Failure) : String :=
  let head := "Error: " ++ failure.summary
  match failure.causes with
  | [] => head
  | [cause] =>
    head ++ "\n\nCaused by:\n    " ++
      String.ofList (indentLines (List.replicate 4 ' ') cause) ++ "\n"
  | several => head ++ "\n\nCaused by:\n" ++ String.ofList (numberedCauses 0 several)

end Failure

/-- How a run ends. The three ways differ in the exit status and in where the program writes. -/
inductive Ending where
  /-- It succeeds and prints a text. -/
  | printed (text : String)
  /-- The arguments are refused. -/
  | refused (error : UsageError)
  /-- A stage fails. -/
  | failed (failure : Failure)

/-- The exit status of a run: zero only for one that prints what it was asked for, and different
ones for bad arguments and for a failing stage. -/
def Ending.status : Ending → Nat
  | .printed _ => 0
  | .refused _ => 2
  | .failed _ => 1

/-- What a run writes to the standard output. Nothing is written there before the run has
succeeded. -/
def Ending.stdout : Ending → String
  | .printed text => text
  | _ => ""

/-- What a run writes to the standard error. The parser of the arguments words its refusals itself;
of these only the one that the program gives it, for a data filter, is written out. -/
def Ending.stderr : Ending → String
  | .printed _ => ""
  | .refused .badUsage => ""
  | .refused (.badDataFilter value) => badDataFilterMessage value
  | .failed failure => failure.report ++ if failure.causes.isEmpty then "\n" else ""

/-- What the program does, for those who give no command: a single line that leads to the help. -/
def summaryText : String := "caseway - use --help to see available commands\n"

/-- The name and the version of the program, as the flag for the version prints them. -/
def versionText : String := "caseway 0.1.0\n"

/-- Loads a definition and builds its graph. Both commands begin with this, and the two ways to fail
are told apart by their stage. -/
def loadGraph (input : RunInput) (path : String) : Except Failure ProcessGraph :=
  match ProcessDefinition.load input.files path with
  | .error error => .error (.definition path error)
  | .ok definition =>
    match ProcessGraph.build definition with
    | .error error => .error (.graph path error)
    | .ok graph => .ok graph

/-- Ids separated by a comma and a space, as the summary of a graph lists them. A list without ids
is an empty text. -/
def joined (ids : List String) : String := String.intercalate ", " ids

/-- The summary of a graph: the process, the numbers of its nodes and flows, and the ids of the
nodes by their kinds, each list in definition order. The line of the name is left out if there is
none. -/
def inspection (graph : ProcessGraph) : String :=
  "process: " ++ graph.processId ++ "\n" ++
  (match graph.name with
    | some name => "name: " ++ name ++ "\n"
    | none => "") ++
  "nodes: " ++ Json.count graph.nodes.length ++ ", flows: " ++ Json.count graph.flows.length ++
  "\n" ++
  "start events: " ++ joined graph.startEventIds ++ "\n" ++
  "tasks: " ++ joined graph.taskIds ++ "\n" ++
  "gateways: " ++ joined graph.gatewayIds ++ "\n" ++
  "end events: " ++ joined graph.endEventIds ++ "\n"

/-- The filters that the arguments ask for: those on data values first, then those on the action,
each in the order of the arguments. -/
def filtersOf (options : NextOptions) : List GatewayFilter :=
  (options.dataFilters.map fun filter => GatewayFilter.byDataValue filter.1 filter.2) ++
    options.actionFilters.map GatewayFilter.byAction

/-- Registers the filters that the arguments ask for. Two of them at one gateway are refused,
whichever the kinds of the two. -/
def registryOf (options : NextOptions) : Except Failure FilterRegistry :=
  match FilterRegistry.ofList (filtersOf options) with
  | .ok registry => .ok registry
  | .error error => .error (.registration error)

/-- The case in a file. A file that cannot be read, or that is no text, fails in another stage than
a text that is no case. -/
def caseOfFile (input : RunInput) (path : String) : Except Failure CaseData :=
  match input.files path >>= textOfBytes with
  | .error reason => .error (.caseFile path reason)
  | .ok text =>
    match CaseData.ofJsonText text with
    | .ok case => .ok case
    | .error error => .error (.caseText path error)

/-- The case in the standard input. White space only stands for a case about which nothing is known,
in contrast to a file, where it is no case at all. -/
def caseOfStdin (input : RunInput) : Except Failure CaseData :=
  match textOfBytes input.stdin with
  | .error reason => .error (.stdin reason)
  | .ok text =>
    if Text.isBlank text then .ok .blank
    else
      match CaseData.ofJsonText text with
      | .ok case => .ok case
      | .error error => .error (.stdinText error)

/-- The case of a run: that of the file if the arguments name one, or else that of the standard
input. -/
def caseOf (input : RunInput) : Option String → Except Failure CaseData
  | some path => caseOfFile input path
  | none => caseOfStdin input

/-- The answer in words: the id and the kind of the node, and its name between quotation marks if it
has one. -/
def describe : Option Node → String
  | none => "no next element"
  | some node =>
    match node.name with
    | some name => "next: " ++ node.id ++ " (" ++ node.kind.name ++ ", \"" ++ name ++ "\")"
    | none => "next: " ++ node.id ++ " (" ++ node.kind.name ++ ")"

/-- The answer of the command `next`, to a call with a token that nobody cancels. The filters answer
at their first poll, so that a patience of one is enough. -/
def nextNode (options : NextOptions) (navigator : Navigator) (case : CaseData) :
    Except Failure (Option Node) :=
  let run := navigator.nextElement ⟨options.originId, options.action, case⟩ .fresh 1
  match run.outcome with
  | some (.ok node) => .ok node
  | some (.error error) => .error (.navigation options.originId error)
  | none => .error (.unanswered options.originId)

/-- What the command `next` prints: the node as indented JSON or in words, and a line break. The
stages come in this order, and the first one that fails is the end of the run. -/
def nextText (input : RunInput) (options : NextOptions) : Except Failure String := do
  let registry ← registryOf options
  let graph ← loadGraph input options.definition
  let case ← caseOf input options.caseFile
  let node ← nextNode options ⟨graph, registry⟩ case
  .ok ((if options.json then (Node.optionalJson node).pretty else describe node) ++ "\n")

/-- What the command `inspect` prints. It needs the graph only, and registers no filters and reads
no case. -/
def inspectText (input : RunInput) (path : String) : Except Failure String := do
  let graph ← loadGraph input path
  .ok (inspection graph)

/-- The end of a run that prints what a command gives, or reports the stage in which the command
failed. -/
def Ending.of : Except Failure String → Ending
  | .ok text => .printed text
  | .error failure => .failed failure

/-- Runs the program. A run that asks for help succeeds; the help itself is laid out by the parser
of the arguments, from the declarations of the commands, and its text is left out. -/
def run (input : RunInput) (arguments : List String) : Ending :=
  match Request.ofArguments arguments with
  | .error error => .refused error
  | .ok .summary => .printed summaryText
  | .ok .version => .printed versionText
  | .ok .help => .printed ""
  | .ok (.inspect path) => .of (inspectText input path)
  | .ok (.next options) => .of (nextText input options)

end CaseRouting.CommandLine
