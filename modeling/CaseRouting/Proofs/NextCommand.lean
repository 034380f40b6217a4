import CaseRouting.CommandLine.Run
import CaseRouting.Proofs.NodeRoundTrip
import CaseRouting.Proofs.Registration
import CaseRouting.Proofs.Utf8

/-!
# What the command `next` reports

A run of the command goes through five stages. What each stage comes to is said by what it is given
alone: the filters by the flags, the case by the file or the input that holds it, and the answer by
the navigation. The stages are put together so that nothing is said of those behind a failure. The
run ends as the stages do: it prints one rendering of the answer, or it reports the failure of the
first stage that fails and prints nothing.
-/

namespace CaseRouting.CommandLine

open Json (maxDepth readWhole)

/-- The filters that flags ask for, in the order in which they are to be registered. Every flag for
a data filter asks for one that decides its gateway by the value of its key, and every flag for an
action filter, in whatever place it stands among the others, for one behind all of these that
decides its gateway by the action. -/
inductive AsksFor : List (String × String) → List String → List GatewayFilter → Prop
  /-- Without a flag no filter is asked for. -/
  | nothing : AsksFor [] [] []
  /-- An action filter for a gateway. -/
  | byAction {gatewayId : String} {gatewayIds : List String} {filters : List GatewayFilter}
      (hrest : AsksFor [] gatewayIds filters) :
      AsksFor [] (gatewayId :: gatewayIds) (.byAction gatewayId :: filters)
  /-- A data filter for a gateway and a key. -/
  | byDataValue {gatewayId key : String} {pairs : List (String × String)}
      {gatewayIds : List String} {filters : List GatewayFilter}
      (hrest : AsksFor pairs gatewayIds filters) :
      AsksFor ((gatewayId, key) :: pairs) gatewayIds (.byDataValue gatewayId key :: filters)

/-- What comes of registering the filters that the flags of a run ask for: a registry of all of
them, or the first gateway that is named twice. -/
def RegistersFlags (options : NextOptions) (outcome : Except RegistryError FilterRegistry) : Prop :=
  ∃ filters, AsksFor options.dataFilters options.actionFilters filters ∧
    Registers filters outcome

/-- A text of which every character is white space; the empty text is one. -/
def OnlySpace (text : String) : Prop :=
  ∀ c ∈ text.toList, ∃ range ∈ Text.blankRanges, range.1 ≤ c.toNat ∧ c.toNat ≤ range.2

/-- What reading the case comes to: from a file if one is named, else from the standard input. There
is a case for each way to fail and for each way to succeed. -/
inductive ReadsCase (input : RunInput) : Option String → Except Failure CaseData → Prop
  | fileUnreadable {path : String} {reason : ReadError}
      (hfile : input.files path >>= textOfBytes = .error reason) :
      ReadsCase input (some path) (.error (.caseFile path reason))
  | fileRefused {path text : String} {error : Json.Error}
      (hfile : input.files path >>= textOfBytes = .ok text)
      (hcase : CaseData.ofJsonText text = .error error) :
      ReadsCase input (some path) (.error (.caseText path error))
  | file {path text : String} {case : CaseData}
      (hfile : input.files path >>= textOfBytes = .ok text)
      (hcase : CaseData.ofJsonText text = .ok case) : ReadsCase input (some path) (.ok case)
  | stdinUnreadable {reason : ReadError} (hstdin : textOfBytes input.stdin = .error reason) :
      ReadsCase input none (.error (.stdin reason))
  /-- White space only stands for a case about which nothing is known. -/
  | blank {text : String} (hstdin : textOfBytes input.stdin = .ok text)
      (hspace : OnlySpace text) : ReadsCase input none (.ok .blank)
  | stdinRefused {text : String} {error : Json.Error}
      (hstdin : textOfBytes input.stdin = .ok text) (hspace : ¬ OnlySpace text)
      (hcase : CaseData.ofJsonText text = .error error) :
      ReadsCase input none (.error (.stdinText error))
  | stdin {text : String} {case : CaseData} (hstdin : textOfBytes input.stdin = .ok text)
      (hspace : ¬ OnlySpace text) (hcase : CaseData.ofJsonText text = .ok case) :
      ReadsCase input none (.ok case)

/-- What the stages come to: the failure of the first one that fails, or the answer. Each case says
of the stages in front of it that they have succeeded, and nothing of those behind it. -/
inductive Stages (input : RunInput) (options : NextOptions) :
    Except Failure (Option Node) → Prop
  /-- The filters cannot be registered together. -/
  | registration {error : RegistryError}
      (hregistry : RegistersFlags options (.error error)) :
      Stages input options (.error (.registration error))
  /-- The file of the definition holds none. -/
  | definition {registry : FilterRegistry} {error : LoadError}
      (hregistry : RegistersFlags options (.ok registry))
      (hload : ProcessDefinition.load input.files options.definition = .error error) :
      Stages input options (.error (.definition options.definition error))
  /-- The definition has no graph. -/
  | graph {registry : FilterRegistry} {definition : ProcessDefinition} {error : GraphError}
      (hregistry : RegistersFlags options (.ok registry))
      (hload : ProcessDefinition.load input.files options.definition = .ok definition)
      (hbuild : ProcessGraph.build definition = .error error) :
      Stages input options (.error (.graph options.definition error))
  /-- There is no case. -/
  | case {registry : FilterRegistry} {definition : ProcessDefinition} {graph : ProcessGraph}
      {failure : Failure} (hregistry : RegistersFlags options (.ok registry))
      (hload : ProcessDefinition.load input.files options.definition = .ok definition)
      (hbuild : ProcessGraph.build definition = .ok graph)
      (hcase : ReadsCase input options.caseFile (.error failure)) :
      Stages input options (.error failure)
  /-- The navigation of the case fails. -/
  | navigation {registry : FilterRegistry} {definition : ProcessDefinition} {graph : ProcessGraph}
      {case : CaseData} {error : NavigationError}
      (hregistry : RegistersFlags options (.ok registry))
      (hload : ProcessDefinition.load input.files options.definition = .ok definition)
      (hbuild : ProcessGraph.build definition = .ok graph)
      (hcase : ReadsCase input options.caseFile (.ok case))
      (hreturns : (Navigator.mk graph registry).Returns
        ⟨options.originId, options.action, case⟩ .fresh (.error error)) :
      Stages input options (.error (.navigation options.originId error))
  /-- All stages succeed. -/
  | answered {registry : FilterRegistry} {definition : ProcessDefinition} {graph : ProcessGraph}
      {case : CaseData} {node? : Option Node}
      (hregistry : RegistersFlags options (.ok registry))
      (hload : ProcessDefinition.load input.files options.definition = .ok definition)
      (hbuild : ProcessGraph.build definition = .ok graph)
      (hcase : ReadsCase input options.caseFile (.ok case))
      (hreturns : (Navigator.mk graph registry).Returns
        ⟨options.originId, options.action, case⟩ .fresh (.ok node?)) :
      Stages input options (.ok node?)

/-- The word for the kind of a node, as an answer in words has it. -/
inductive KindWord : NodeKind → String → Prop
  | startEvent : KindWord .startEvent "start_event"
  | task {details : TaskDetails} : KindWord (.task details) "task"
  | gateway : KindWord .gateway "gateway"
  | endEvent : KindWord .endEvent "end_event"

/-- The line that says an answer in words: that there is no next element, or the id and the kind of
the element, and its name between quotation marks if it has one. -/
inductive DescribedBy : Option Node → String → Prop
  | nothing : DescribedBy none "no next element"
  | named {node : Node} {name word : String} (hname : node.name = some name)
      (hword : KindWord node.kind word) :
      DescribedBy (some node) ("next: " ++ node.id ++ " (" ++ word ++ ", \"" ++ name ++ "\")")
  | unnamed {node : Node} {word : String} (hname : node.name = none)
      (hword : KindWord node.kind word) :
      DescribedBy (some node) ("next: " ++ node.id ++ " (" ++ word ++ ")")

/-- The texts that render an answer, as JSON or in words, each with the end of its line. -/
inductive Renders (node? : Option Node) : Bool → String → Prop
  /-- The line that says the answer in words. -/
  | words {line : String} (hline : DescribedBy node? line) : Renders node? false (line ++ "\n")
  /-- An indented text that is read back as the answer. -/
  | json (hread : readWhole (Node.readOptional maxDepth)
      ((Node.optionalJson node?).pretty ++ "\n") = .ok node?) :
      Renders node? true ((Node.optionalJson node?).pretty ++ "\n")

/-- The flags of a run ask for the filters that the run registers, and for no others, and in the
same order. -/
theorem asksFor_iff {options : NextOptions} {filters : List GatewayFilter} :
    AsksFor options.dataFilters options.actionFilters filters ↔ filters = filtersOf options := by
  have haction (gatewayIds : List String) {filters : List GatewayFilter} :
      AsksFor [] gatewayIds filters ↔ filters = gatewayIds.map GatewayFilter.byAction := by
    induction gatewayIds generalizing filters with
    | nil =>
      constructor
      · rintro ⟨⟩
        rfl
      · rintro rfl
        exact .nothing
    | cons gatewayId gatewayIds ih =>
      constructor
      · rintro (_ | hrest)
        rw [ih.mp hrest, List.map_cons]
      · rintro rfl
        exact .byAction (ih.mpr rfl)
  rw [filtersOf]
  induction options.dataFilters generalizing filters with
  | nil => exact haction _
  | cons pair pairs ih =>
    constructor
    · rintro (_ | _ | hrest)
      rw [ih.mp hrest, List.map_cons, List.cons_append]
    · rintro rfl
      exact .byDataValue (ih.mpr rfl)

/-- Registering what the flags ask for is registering the filters of the run, so that what is known
of registering lists applies. -/
theorem registersFlags_iff {options : NextOptions}
    {outcome : Except RegistryError FilterRegistry} :
    RegistersFlags options outcome ↔ Registers (filtersOf options) outcome := by
  simp only [RegistersFlags, asksFor_iff, exists_eq_left]

/-- The description of an answer is its line in words, for every kind of node, with and without a
name. -/
theorem describedBy_describe (node? : Option Node) : DescribedBy node? (describe node?) := by
  cases node? with
  | none => exact .nothing
  | some node =>
    have hword : KindWord node.kind node.kind.name := by
      cases node.kind with
      | startEvent => exact .startEvent
      | task details => exact .task
      | gateway => exact .gateway
      | endEvent => exact .endEvent
    dsimp only [describe]
    cases hname : node.name with
    | none => exact .unnamed hname hword
    | some name => exact .named hname hword

/-- A text is blank when all its characters are white space, which the empty text shows at once. -/
theorem isBlank_eq_true_iff {text : String} : Text.isBlank text = true ↔ OnlySpace text := by
  simp [Text.isBlank, Text.inRanges, OnlySpace]

section Case

variable {input : RunInput} {caseFile : Option String}

/-- The case of a run is what reading the case comes to, in each of its ways. -/
theorem caseOf_of_readsCase {outcome : Except Failure CaseData}
    (h : ReadsCase input caseFile outcome) : caseOf input caseFile = outcome := by
  cases h with
  | fileUnreadable hfile => rw [caseOf, caseOfFile, hfile]
  | fileRefused hfile hcase =>
    rw [caseOf, caseOfFile, hfile]
    dsimp only
    rw [hcase]
  | file hfile hcase =>
    rw [caseOf, caseOfFile, hfile]
    dsimp only
    rw [hcase]
  | stdinUnreadable hstdin => rw [caseOf, caseOfStdin, hstdin]
  | blank hstdin hspace =>
    rw [caseOf, caseOfStdin, hstdin]
    exact if_pos (isBlank_eq_true_iff.mpr hspace)
  | stdinRefused hstdin hspace hcase =>
    rw [caseOf, caseOfStdin, hstdin]
    dsimp only
    rw [if_neg fun hblank => hspace (isBlank_eq_true_iff.mp hblank), hcase]
  | stdin hstdin hspace hcase =>
    rw [caseOf, caseOfStdin, hstdin]
    dsimp only
    rw [if_neg fun hblank => hspace (isBlank_eq_true_iff.mp hblank), hcase]

/-- Reading the case always comes to something: a file is named or not, the text is there or not,
and it is a case or not. -/
theorem exists_readsCase (input : RunInput) (caseFile : Option String) :
    ∃ outcome, ReadsCase input caseFile outcome := by
  cases caseFile with
  | some path =>
    cases hfile : input.files path >>= textOfBytes with
    | error reason => exact ⟨_, .fileUnreadable hfile⟩
    | ok text =>
      cases hcase : CaseData.ofJsonText text with
      | error error => exact ⟨_, .fileRefused hfile hcase⟩
      | ok case => exact ⟨_, .file hfile hcase⟩
  | none =>
    cases hstdin : textOfBytes input.stdin with
    | error reason => exact ⟨_, .stdinUnreadable hstdin⟩
    | ok text =>
      by_cases hspace : OnlySpace text
      · exact ⟨_, .blank hstdin hspace⟩
      · cases hcase : CaseData.ofJsonText text with
        | error error => exact ⟨_, .stdinRefused hstdin hspace hcase⟩
        | ok case => exact ⟨_, .stdin hstdin hspace hcase⟩

/-- A failure to read the case is no failure of the navigation, so that the two stages are told
apart by their failures. -/
theorem ReadsCase.failure_ne {failure : Failure} (h : ReadsCase input caseFile (.error failure)) :
    (∀ originId error, failure ≠ .navigation originId error) ∧
      ∀ originId, failure ≠ .unanswered originId := by
  cases h <;> simp

end Case

section Navigation

variable {options : NextOptions} {registry : FilterRegistry}

/-- The filters that arguments ask for follow rules, since no others can be asked for. -/
theorem followsRules_of_registers (h : RegistersFlags options (.ok registry)) :
    registry.FollowsRules := by
  cases registersFlags_iff.mp h with
  | all hfilters =>
    intro filter hfilter
    rw [hfilters, filtersOf, List.mem_append, List.mem_map, List.mem_map] at hfilter
    rcases hfilter with ⟨pair, -, rfl⟩ | ⟨gatewayId, -, rfl⟩
    · exact ⟨.dataValue pair.2, pair.1, rfl⟩
    · exact ⟨.action, gatewayId, rfl⟩

/-- A navigation of the command has a result, which comes at the first polls, from any graph and any
case. -/
theorem exists_result (h : RegistersFlags options (.ok registry)) (graph : ProcessGraph)
    (case : CaseData) :
    ∃ result, (Navigator.mk graph registry).Returns ⟨options.originId, options.action, case⟩
      .fresh result := by
  obtain ⟨result, hresult⟩ := (followsRules_of_registers h).exists_outcome
  exact ⟨result, 1, hresult⟩

/-- The first polls are enough for the result of a navigation of the command, as a navigation has
one result at most. -/
theorem outcome_of_returns (h : RegistersFlags options (.ok registry))
    {graph : ProcessGraph} {case : CaseData} {result : Except NavigationError (Option Node)}
    (hreturns : (Navigator.mk graph registry).Returns ⟨options.originId, options.action, case⟩
      .fresh result) :
    ((Navigator.mk graph registry).nextElement ⟨options.originId, options.action, case⟩ .fresh
      1).outcome = some result := by
  obtain ⟨found, hfound⟩ := (followsRules_of_registers h).exists_outcome
  rwa [Navigator.Returns.unique hreturns ⟨1, hfound⟩]

end Navigation

section Runs

variable {input : RunInput} {options : NextOptions}

/-- The answer of the command, before it is rendered: the stages in a row, of which the first
failure is kept. -/
def answerOf (input : RunInput) (options : NextOptions) : Except Failure (Option Node) := do
  let registry ← registryOf options
  let graph ← loadGraph input options.definition
  let case ← caseOf input options.caseFile
  nextNode options ⟨graph, registry⟩ case

/-- The rendering of an answer, as indented JSON or as a line in words, with the end of its line. -/
def rendering (json : Bool) (node? : Option Node) : String :=
  (if json then (Node.optionalJson node?).pretty else describe node?) ++ "\n"

/-- The command prints the rendering of its answer, and does nothing else with it. -/
theorem nextText_eq (input : RunInput) (options : NextOptions) :
    nextText input options = (answerOf input options).map (rendering options.json) := by
  unfold nextText answerOf
  cases registryOf options with
  | error failure => rfl
  | ok registry =>
    cases loadGraph input options.definition with
    | error failure => rfl
    | ok graph =>
      cases caseOf input options.caseFile with
      | error failure => rfl
      | ok case =>
        simp only [ok_bind]
        cases nextNode options ⟨graph, registry⟩ case <;> rfl

/-- The rendering of an answer renders it. As JSON it is read back as the same answer, down to the
flows of the node. -/
theorem renders_rendering (node? : Option Node) (json : Bool) :
    Renders node? json (rendering json node?) := by
  cases json with
  | false => exact .words (describedBy_describe node?)
  | true => exact .json (Node.readWhole_pretty node? (by simp [Json.Blank, Json.isSpace]))

/-- A registry for the filters that flags ask for is the registry of the run. -/
theorem registryOf_of_registers {registry : FilterRegistry}
    (h : RegistersFlags options (.ok registry)) : registryOf options = .ok registry := by
  rw [registryOf, FilterRegistry.ofList_eq_iff.mpr (registersFlags_iff.mp h)]

/-- A graph that is built of the loaded definition is the graph of the run. -/
theorem loadGraph_of_build {path : String} {definition : ProcessDefinition} {graph : ProcessGraph}
    (hload : ProcessDefinition.load input.files path = .ok definition)
    (hbuild : ProcessGraph.build definition = .ok graph) : loadGraph input path = .ok graph := by
  rw [loadGraph, hload]
  dsimp only
  rw [hbuild]

/-- The answer of the command is what the stages come to, case by case. -/
theorem answerOf_of_stages {result : Except Failure (Option Node)}
    (h : Stages input options result) : answerOf input options = result := by
  cases h with
  | registration hregistry =>
    rw [answerOf, registryOf, FilterRegistry.ofList_eq_iff.mpr (registersFlags_iff.mp hregistry)]
    rfl
  | definition hregistry hload =>
    rw [answerOf, registryOf_of_registers hregistry, ok_bind, loadGraph, hload]
    rfl
  | graph hregistry hload hbuild =>
    rw [answerOf, registryOf_of_registers hregistry, ok_bind, loadGraph, hload]
    dsimp only
    rw [hbuild]
    rfl
  | case hregistry hload hbuild hcase =>
    rw [answerOf, registryOf_of_registers hregistry, ok_bind, loadGraph_of_build hload hbuild,
      ok_bind, caseOf_of_readsCase hcase, error_bind]
  | navigation hregistry hload hbuild hcase hreturns =>
    rw [answerOf, registryOf_of_registers hregistry, ok_bind, loadGraph_of_build hload hbuild,
      ok_bind, caseOf_of_readsCase hcase, ok_bind, nextNode,
      outcome_of_returns hregistry hreturns]
  | answered hregistry hload hbuild hcase hreturns =>
    rw [answerOf, registryOf_of_registers hregistry, ok_bind, loadGraph_of_build hload hbuild,
      ok_bind, caseOf_of_readsCase hcase, ok_bind, nextNode,
      outcome_of_returns hregistry hreturns]

/-- The stages always come to something: each of them fails, or leads on to the next one. -/
theorem exists_stages (input : RunInput) (options : NextOptions) :
    ∃ result, Stages input options result := by
  obtain ⟨outcome, hregistry⟩ : ∃ outcome, RegistersFlags options outcome :=
    ⟨_, registersFlags_iff.mpr (FilterRegistry.ofList_eq_iff.mp rfl)⟩
  cases outcome with
  | error error => exact ⟨_, .registration hregistry⟩
  | ok registry =>
    cases hload : ProcessDefinition.load input.files options.definition with
    | error error => exact ⟨_, .definition hregistry hload⟩
    | ok definition =>
      cases hbuild : ProcessGraph.build definition with
      | error error => exact ⟨_, .graph hregistry hload hbuild⟩
      | ok graph =>
        obtain ⟨outcome, hcase⟩ := exists_readsCase input options.caseFile
        cases outcome with
        | error failure => exact ⟨_, .case hregistry hload hbuild hcase⟩
        | ok case =>
          obtain ⟨result, hreturns⟩ := exists_result hregistry graph case
          cases result with
          | error error => exact ⟨_, .navigation hregistry hload hbuild hcase hreturns⟩
          | ok node? => exact ⟨_, .answered hregistry hload hbuild hcase hreturns⟩

/-- The stages come to what the answer of the command is, and to nothing else, for there is always
something that they come to. -/
theorem stages_iff {result : Except Failure (Option Node)} :
    Stages input options result ↔ answerOf input options = result := by
  obtain ⟨found, hfound⟩ := exists_stages input options
  refine ⟨answerOf_of_stages, fun h => ?_⟩
  rwa [← h, answerOf_of_stages hfound]

/-- A failure of the navigation is neither a cancellation nor that of a filter, since the filters of
the command follow rules and nobody cancels. -/
theorem Stages.navigation_ne {originId : String} {error : NavigationError}
    (h : Stages input options (.error (.navigation originId error))) :
    originId = options.originId ∧ error ≠ .cancelled ∧
      ∀ filterError, error ≠ .filterFailed filterError := by
  cases h with
  | case hregistry hload hbuild hcase => exact absurd rfl (hcase.failure_ne.1 originId error)
  | navigation hregistry hload hbuild hcase hreturns =>
    have hrules := followsRules_of_registers hregistry
    have houtcome := outcome_of_returns hregistry hreturns
    refine ⟨rfl, ?_, ?_⟩
    · rintro rfl
      exact hrules.outcome_ne_cancelled houtcome
    · rintro filterError rfl
      exact hrules.outcome_ne_filterFailed filterError houtcome

/-- A run never ends because a filter does not answer, as no stage comes to this. -/
theorem Stages.ne_unanswered {originId : String} :
    ¬ Stages input options (.error (.unanswered originId)) := by
  intro h
  cases h with
  | case hregistry hload hbuild hcase => exact hcase.failure_ne.2 originId rfl

end Runs

/-- With accepted arguments, the stages of a run come to exactly one thing. If that is an answer,
the exit status is zero and the standard output renders the answer. If it is a failure, the run
reports this failure, prints nothing and has another exit status. A failure of the navigation comes
neither from a filter nor from a cancellation, and no filter stays unanswered. -/
theorem run_next {arguments : List String} {options : NextOptions}
    (hrequest : Request.ofArguments arguments = .ok (.next options)) (input : RunInput) :
    (∃! result, Stages input options result) ∧
      ((run input arguments).status = 0 ↔ ∃ node?, Stages input options (.ok node?)) ∧
      (∀ node?, Stages input options (.ok node?) →
        Renders node? options.json (run input arguments).stdout) ∧
      (∀ failure, Stages input options (.error failure) ↔
        run input arguments = .failed failure) ∧
      ((run input arguments).status ≠ 0 → (run input arguments).stdout = "") ∧
      (∀ originId error, run input arguments = .failed (.navigation originId error) →
        originId = options.originId ∧ error ≠ .cancelled ∧
          ∀ filterError, error ≠ .filterFailed filterError) ∧
      ∀ originId, run input arguments ≠ .failed (.unanswered originId) := by
  have hrun : run input arguments =
      .of ((answerOf input options).map (rendering options.json)) := by
    rw [run, hrequest, ← nextText_eq]
  have hfailed (failure : Failure) : Stages input options (.error failure) ↔
      run input arguments = .failed failure := by
    rw [stages_iff, hrun]
    cases answerOf input options <;> simp [Ending.of]
  refine ⟨⟨_, stages_iff.mpr rfl, fun other hother => (stages_iff.mp hother).symm⟩, ?_, ?_,
    hfailed, ?_, ?_, ?_⟩
  · simp only [stages_iff, hrun]
    cases answerOf input options <;> simp [Ending.of, Ending.status]
  · intro node? hstages
    rw [hrun, stages_iff.mp hstages]
    exact renders_rendering node? options.json
  · rw [hrun]
    cases answerOf input options <;> simp [Ending.of, Ending.status, Ending.stdout]
  · intro originId error hnavigation
    exact ((hfailed _).mpr hnavigation).navigation_ne
  · intro originId hunanswered
    exact Stages.ne_unanswered ((hfailed _).mpr hunanswered)

/-- Every file holds the process of requests, and the standard input holds nothing. -/
def requestInput : RunInput := ⟨fun _ => .ok requestProcess.toText.toUTF8, "".toUTF8⟩

/-- Where a request that has been filed goes under the action of a message, a filter on the action
deciding at the second gateway. -/
def fileOptions : NextOptions :=
  ⟨"request.json", "File", none, some "message", [], ["Route"], false⟩

/-- A file whose name calls for JSON holds that process, which is written there as JSON. -/
theorem load_requestInput {path : String} (hformat : DefinitionFormat.ofPath path = .json) :
    ProcessDefinition.load requestInput.files path = .ok requestProcess := by
  have hfile : requestInput.files path = .ok requestProcess.toText.toUTF8 := rfl
  rw [ProcessDefinition.load, hfile, ok_bind, textOfBytes_toUTF8]
  dsimp only
  rw [hformat, ProcessDefinition.ofText, ofJsonText_written]

/-- Stages of a run on that process that has no file for the case succeed with the element to which
the navigation leads. -/
theorem stages_requestInput {options : NextOptions} {registry : FilterRegistry} {element : Node}
    (hformat : DefinitionFormat.ofPath options.definition = .json)
    (hcaseFile : options.caseFile = none) (hregistry : RegistersFlags options (.ok registry))
    (houtcome : ((Navigator.mk requestProcess.image registry).nextElement
      ⟨options.originId, options.action, .blank⟩ .fresh 1).outcome = some (.ok (some element))) :
    Stages requestInput options (.ok (some element)) := by
  have hcase : ReadsCase requestInput options.caseFile (.ok .blank) := by
    rw [hcaseFile]
    exact .blank (textOfBytes_toUTF8 "") (by simp [OnlySpace])
  exact .answered hregistry (load_requestInput hformat) rfl hcase ⟨1, houtcome⟩

/-- The only line for an answer with no name is that of its id and its kind, so that the printed
text is known. -/
theorem stdout_of_renders {node : Node} {word text : String} (hname : node.name = none)
    (hword : KindWord node.kind word) (h : Renders (some node) false text) :
    text = "next: " ++ node.id ++ " (" ++ word ++ ")\n" := by
  cases h with
  | words hline =>
    cases hline with
    | named hother => cases hname.symm.trans hother
    | unnamed _ hsame =>
      have hwords : ∀ {kind : NodeKind} {first second : String}, KindWord kind first →
          KindWord kind second → first = second := by
        rintro _ _ _ ⟨⟩ ⟨⟩ <;> rfl
      rw [hwords hsame hword, String.append_assoc]
      rfl

/-- Asked where a request goes that has been filed, the program names the message if a filter on the
action decides at the second gateway, and the end of the process if no flag asks for the filter. If
a second flag asks for a filter of this gateway, the run fails and prints nothing. -/
theorem run_next_fileOptions :
    Request.ofArguments ["next", "request.json", "--from", "File", "--action", "message",
        "--action-filter", "Route"] = .ok (.next fileOptions) ∧
      (run requestInput ["next", "request.json", "--from", "File", "--action", "message",
        "--action-filter", "Route"]).status = 0 ∧
      (run requestInput ["next", "request.json", "--from", "File", "--action", "message",
        "--action-filter", "Route"]).stdout = "next: Notify (task)\n" ∧
      (run requestInput ["next", "request.json", "--from", "File", "--action",
        "message"]).stdout = "next: End (end_event)\n" ∧
      run requestInput ["next", "request.json", "--from", "File", "--action", "message",
          "--action-filter", "Route", "--data-filter", "Route=department"] =
        .failed (.registration (.duplicateGateway "Route")) ∧
      (run requestInput ["next", "request.json", "--from", "File", "--action", "message",
        "--action-filter", "Route", "--data-filter", "Route=department"]).stdout = "" := by
  have hrequest : Request.ofArguments ["next", "request.json", "--from", "File", "--action",
      "message", "--action-filter", "Route"] = .ok (.next fileOptions) := by decide
  have hplain : Request.ofArguments ["next", "request.json", "--from", "File", "--action",
      "message"] = .ok (.next { fileOptions with actionFilters := [] }) := by decide
  have htwice : Request.ofArguments ["next", "request.json", "--from", "File", "--action",
      "message", "--action-filter", "Route", "--data-filter", "Route=department"] =
        .ok (.next { fileOptions with dataFilters := [("Route", "department")] }) := by decide
  have hfiltered : Stages requestInput fileOptions
      (.ok (some (requestProcess.imageNode (.task "Notify" "message")))) :=
    @stages_requestInput _ ⟨[.byAction "Route"], List.nodup_singleton _⟩ _ (by decide) rfl
      ⟨_, .byAction .nothing, .all rfl⟩ (by decide +kernel)
  have hunfiltered : Stages requestInput { fileOptions with actionFilters := [] }
      (.ok (some (requestProcess.imageNode (.endEvent "End")))) :=
    @stages_requestInput _ ⟨[], List.nodup_nil⟩ _ (by decide) rfl
      ⟨_, .nothing, .all rfl⟩ (by decide +kernel)
  have hrefused : Stages requestInput { fileOptions with dataFilters := [("Route", "department")] }
      (.error (.registration (.duplicateGateway "Route"))) :=
    .registration ⟨_, .byDataValue (.byAction .nothing),
      @Registers.repeated _ [.byDataValue "Route" "department"] [] (.byAction "Route") rfl
        (List.nodup_singleton _) (List.mem_singleton_self _)⟩
  obtain ⟨-, hstatus, hstdout, -⟩ := run_next hrequest requestInput
  obtain ⟨-, -, hplainStdout, -⟩ := run_next hplain requestInput
  obtain ⟨-, -, -, hfailed, -⟩ := run_next htwice requestInput
  have hfailure := (hfailed _).mp hrefused
  refine ⟨hrequest, hstatus.mpr ⟨_, hfiltered⟩, ?_, ?_, hfailure, ?_⟩
  · exact stdout_of_renders rfl .task (hstdout _ hfiltered)
  · exact stdout_of_renders rfl .endEvent (hplainStdout _ hunfiltered)
  · rw [hfailure]
    rfl

end CaseRouting.CommandLine
