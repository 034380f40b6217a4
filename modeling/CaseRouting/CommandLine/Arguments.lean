import CaseRouting.Text.ControlSequence

/-!
# Command-line arguments

The program has two commands: `inspect` takes a definition; `next` takes a definition, a node to
start from and what decides at gateways. Arguments are read from left to right. A value in an
argument of its own is kept *pending* and is checked when the next known option or value comes or
the arguments end, so that an unknown argument behind it is reported first; a value attached with
an equals sign is checked at once. Behind `--` every argument is a value.
-/

namespace CaseRouting.CommandLine

/-- Arguments of the command `next`. -/
structure NextOptions where
  /-- The path of the definition. -/
  definition : String
  /-- The node the case occupies. -/
  originId : String
  /-- The path of the case data; standard input when absent. -/
  caseFile : Option String
  action : Option String
  /-- Gateways decided by a value of the case: the gateway and the key. -/
  dataFilters : List (String × String)
  /-- Gateways decided by the action. -/
  actionFilters : List String
  /-- Print the next node as JSON. -/
  json : Bool
  deriving DecidableEq, Repr

/-- What the program is asked to do: to print something about itself, to sum a definition up, or to
find the next node. Reading the arguments gives one of these or a `UsageError`. -/
inductive Request where
  /-- No command was given. -/
  | summary
  | version
  | help
  | inspect (definition : String)
  | next (options : NextOptions)
  deriving DecidableEq, Repr

/-- Why arguments are refused. The parser of the arguments tells many kinds of misuse apart only by
its wording, so that all of them but one are the same refusal here. -/
inductive UsageError where
  /-- An argument is unknown, missing, repeated or lacks its value. -/
  | badUsage
  /-- The value of a data filter is not of the form `GATEWAY=KEY`. -/
  | badDataFilter (value : String)
  deriving DecidableEq, Repr

/-- A text between the control sequences that highlight it on a terminal; they are removed again
where the text goes to no terminal. -/
def highlighted (text : String) : String := "\x1b[1m" ++ text ++ "\x1b[0m"

/-- The message of a data filter of the wrong form, as it is written where there is no terminal: its
highlighting is removed and, with it, any control sequence of the value, even one that goes on
behind the value. -/
def badDataFilterMessage (value : String) : String :=
  Text.withoutControls <|
    highlighted "error:" ++ " invalid value '" ++ highlighted value ++ "' for '" ++
      highlighted "--data-filter <DATA_FILTERS>" ++ "': expected GATEWAY=KEY, got '" ++ value ++
      "'\n\nFor more information, try '" ++ highlighted "--help" ++ "'.\n"

/-- Splits at the first equals sign, which belongs to neither side; a further equals sign stays in
what is behind. Without any there is nothing to split. -/
def splitAtEquals : List Char → Option (List Char × List Char)
  | [] => none
  | c :: rest =>
    if c = '=' then some ([], rest)
    else
      match splitAtEquals rest with
      | some (before, behind) => some (c :: before, behind)
      | none => none

/-- The gateway and the key of a data filter: both non-empty, split at the first equals sign. A
refusal holds the whole value, for its message quotes it. -/
def dataFilterOf (value : String) : Except UsageError (String × String) :=
  match splitAtEquals value.toList with
  | some (gateway, key) =>
    if gateway = [] ∨ key = [] then .error (.badDataFilter value)
    else .ok (String.ofList gateway, String.ofList key)
  | none => .error (.badDataFilter value)

/-- The arguments that take a value: the definition by its position, all others by the name of an
option in front of them. -/
inductive Valued where
  | definition
  | origin
  | caseFile
  | action
  | dataFilter
  | actionFilter
  | logLevel
  deriving DecidableEq, Repr

/-- The arguments that take no value. Two of them end the reading at once, and what stands behind
them is not looked at. -/
inductive Flag where
  | json
  | version
  | help
  deriving DecidableEq, Repr

/-- The commands, as far as they differ in the options they know. The program itself counts as one,
for its own options stand in front of the name of a command. -/
inductive Command where
  | root
  | inspect
  | next
  deriving DecidableEq, Repr

/-- The option with a long name. The log level may be set everywhere, even in front of the command;
all other options belong to `next` alone. -/
def Command.option? (command : Command) (name : String) : Option Valued :=
  if name = "log-level" then some .logLevel
  else if command = .next then
    if name = "from" then some .origin
    else if name = "case" then some .caseFile
    else if name = "action" then some .action
    else if name = "data-filter" then some .dataFilter
    else if name = "action-filter" then some .actionFilter
    else none
  else none

/-- The flag with a long name. Every command shows its help, but only the program itself has a
version, and only `next` prints JSON. -/
def Command.flag? (command : Command) (name : String) : Option Flag :=
  if name = "help" then some .help
  else if command = .root ∧ name = "version" then some .version
  else if command = .next ∧ name = "json" then some .json
  else none

/-- The flag that comes first in a cluster of short flags. Each of these ends the reading, so that
the rest of the cluster does not matter. -/
def Command.shortFlag? (command : Command) (c : Char) : Option Flag :=
  if c = 'h' then some .help
  else if command = .root ∧ c = 'V' then some .version
  else none

/-- What has been read of the arguments of a command. The values of single options are kept as they
come, and those of repeated options in their order. -/
structure Draft where
  definition : Option String
  originId : Option String
  caseFile : Option String
  action : Option String
  dataFilters : List (String × String)
  actionFilters : List String
  json : Bool
  /-- The log level has been set; it has no effect on what is printed. -/
  hasLogLevel : Bool
  /-- An argument with its value, if that has come, which has not been checked yet. Without its
  value the argument waits for the next one. -/
  pending : Option (Valued × Option String)

namespace Draft

/-- Nothing has been read: no option has a value, no flag is set, and no argument waits for its
value. -/
def blank : Draft := ⟨none, none, none, none, [], [], false, false, none⟩

/-- A value that may be given once: the draft that holds it, or a refusal if the value was already
present in the one before. -/
def once (present : Bool) (draft : Draft) : Except UsageError Draft :=
  if present then .error .badUsage else .ok draft

/-- A path, which may be given once and must not be empty. Whether a file stands there is found out
only when the run comes to read it. -/
def oncePath (present : Bool) (path : String) (draft : Draft) : Except UsageError Draft :=
  if present ∨ path = "" then .error .badUsage else .ok draft

/-- Takes the value of an argument. Options that filter gateways gather their values in order; any
other argument is refused if it comes a second time. -/
def assign (draft : Draft) (valued : Valued) (value : String) : Except UsageError Draft :=
  match valued with
  | .definition =>
    oncePath draft.definition.isSome value { draft with definition := some value }
  | .origin => once draft.originId.isSome { draft with originId := some value }
  | .caseFile => oncePath draft.caseFile.isSome value { draft with caseFile := some value }
  | .action => once draft.action.isSome { draft with action := some value }
  | .logLevel => once draft.hasLogLevel { draft with hasLogLevel := true }
  | .actionFilter => .ok { draft with actionFilters := draft.actionFilters ++ [value] }
  | .dataFilter => do
    let filter ← dataFilterOf value
    .ok { draft with dataFilters := draft.dataFilters ++ [filter] }

/-- Checks what is pending, and leaves nothing pending. An argument that still waits for its value
is refused. -/
def settle (draft : Draft) : Except UsageError Draft :=
  match draft.pending with
  | none => .ok draft
  | some (_, none) => .error .badUsage
  | some (valued, some value) => assign { draft with pending := none } valued value

/-- Takes a value that belongs to no option. It can only be the definition of a command that has
none yet, and it is pending from then on instead of what was. -/
def positional (command : Command) (draft : Draft) (value : String) : Except UsageError Draft :=
  let known : Bool := match draft.pending with
    | some (.definition, _) => true
    | _ => draft.definition.isSome
  if command = .root ∨ known = true then .error .badUsage
  else do
    let draft ← draft.settle
    .ok { draft with pending := some (.definition, some value) }

/-- Takes an option by its long name. An attached value is checked at once; without one the option
is pending and waits for the next argument. -/
def takeOption (draft : Draft) (valued : Valued) (attached : Option String) :
    Except UsageError Draft := do
  let draft ← draft.settle
  match attached with
  | some value => assign draft valued value
  | none => .ok { draft with pending := some (valued, none) }

end Draft

/-- How an argument looks, before it is known what it means to the command at hand or whether an
option still waits for its value. -/
inductive Shape where
  /-- Two hyphens, behind which only values come. -/
  | terminator
  /-- A long name, perhaps with an attached value. -/
  | long (name : String) (attached : Option String)
  /-- A cluster of short flags, by the first of them. -/
  | short (first : Char)
  | value

/-- The shape of an argument. A single hyphen is a value, as is the empty text, and a long name ends
at the first equals sign. -/
def Shape.of (argument : String) : Shape :=
  match argument.toList with
  | ['-', '-'] => .terminator
  | '-' :: '-' :: name =>
    match splitAtEquals name with
    | some (name, attached) => .long (String.ofList name) (some (String.ofList attached))
    | none => .long (String.ofList name) none
  | '-' :: c :: _ => .short c
  | _ => .value

/-- What the arguments of a command come to, when they have all been read, when a flag cuts the
reading short, or when a further command begins. -/
inductive Reading where
  /-- All arguments have been read. -/
  | done (draft : Draft)
  /-- A flag that ends the reading. -/
  | stopped (request : Request)
  /-- A command, with the arguments behind it. -/
  | command (name : String) (draft : Draft) (rest : List String)

/-- Takes a flag, once what is pending has been checked: the draft with the flag set, or the request
that ends the reading. -/
def takeFlag (draft : Draft) (flag : Flag) : Except UsageError (Draft ⊕ Request) := do
  let draft ← draft.settle
  match flag with
  | .help => .ok (.inr .help)
  | .version => .ok (.inr .version)
  | .json => if draft.json then .error .badUsage else .ok (.inl { draft with json := true })

/-- Reads arguments behind the terminator, where options and flags have lost their meaning and every
argument is a value by its position. -/
def readValues (command : Command) : Draft → List String → Except UsageError Draft
  | draft, [] => .ok draft
  | draft, argument :: rest => do
    let draft ← draft.positional command argument
    readValues command draft rest

/-- The names of the commands, one of which shows the help. They are known to the program itself
only, not to its commands. -/
def commandNames : List String := ["inspect", "next", "help"]

/-- Reads the arguments of a command, up to the name of a further command if it has any. An option
that awaits its value takes the next argument that looks like a value, be it the name of a command.
What is pending at the end is left to be checked. -/
def readArguments (command : Command) : Draft → List String → Except UsageError Reading
  | draft, [] => .ok (.done draft)
  | draft, argument :: rest =>
    let awaited := match draft.pending with
      | some (valued, none) => some valued
      | _ => none
    if command = .root ∧ awaited.isNone ∧ argument ∈ commandNames then
      .ok (.command argument draft rest)
    else
      match Shape.of argument with
      | .terminator => do
        let draft ← readValues command draft rest
        .ok (.done draft)
      | .long name attached =>
        match command.option? name, command.flag? name with
        | some valued, _ => do
          let draft ← draft.takeOption valued attached
          readArguments command draft rest
        | none, some flag =>
          if attached.isSome then .error .badUsage
          else do
            match ← takeFlag draft flag with
            | .inl draft => readArguments command draft rest
            | .inr request => .ok (.stopped request)
        | none, none => .error .badUsage
      | .short c =>
        match command.shortFlag? c with
        | some flag => do
          match ← takeFlag draft flag with
          | .inl draft => readArguments command draft rest
          | .inr request => .ok (.stopped request)
        | none => .error .badUsage
      | .value =>
        match awaited with
        | some valued =>
          readArguments command { draft with pending := some (valued, some argument) } rest
        | none => do
          let draft ← draft.positional command argument
          readArguments command draft rest

/-- The request of a command, once all its arguments have been read and checked. A definition is
required of both commands, and a node to start from of `next`. -/
def requestOf (command : Command) (draft : Draft) : Except UsageError Request :=
  match command, draft.definition with
  | .root, _ => .ok .summary
  | .inspect, some definition => .ok (.inspect definition)
  | .next, some definition =>
    match draft.originId with
    | some originId => .ok (.next ⟨definition, originId, draft.caseFile, draft.action,
        draft.dataFilters, draft.actionFilters, draft.json⟩)
    | none => .error .badUsage
  | _, none => .error .badUsage

/-- Reads the arguments behind the name of a command, from a draft of its own: nothing is left over
from those in front of the name. -/
def readCommand (command : Command) (arguments : List String) : Except UsageError Request := do
  match ← readArguments command .blank arguments with
  | .stopped request => .ok request
  | .command _ _ _ => .error .badUsage
  | .done draft =>
    let draft ← draft.settle
    requestOf command draft

/-- The request that the arguments of the program make. The options in front of a command are
checked after those behind it, except that a request for help is granted whatever they are. -/
def Request.ofArguments (arguments : List String) : Except UsageError Request := do
  match ← readArguments .root .blank arguments with
  | .stopped request => .ok request
  | .done draft =>
    let draft ← draft.settle
    requestOf .root draft
  | .command name draft rest =>
    if name = "help" then .ok .help
    else
      let request ← readCommand (if name = "inspect" then .inspect else .next) rest
      match request with
      | .help => .ok .help
      | _ =>
        let _ ← draft.settle
        .ok request

end CaseRouting.CommandLine
