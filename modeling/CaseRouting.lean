import CaseRouting.Main
import CaseRouting.Graph.Read
import CaseRouting.Proofs.Outcomes
import CaseRouting.Proofs.GraphImage
import CaseRouting.Proofs.GraphValidation
import CaseRouting.Proofs.GraphFidelity
import CaseRouting.Proofs.WalkPasses
import CaseRouting.Proofs.FilterWait
import CaseRouting.Proofs.FlowSelection
import CaseRouting.Proofs.FilterCalls
import CaseRouting.Proofs.WalkProgress
import CaseRouting.Proofs.Patience
import CaseRouting.Proofs.Cancellation
import CaseRouting.Proofs.MaximalChain
import CaseRouting.Proofs.ResolvedPath
import CaseRouting.Proofs.Route
import CaseRouting.Proofs.CallRecord
import CaseRouting.Proofs.Termination
import CaseRouting.Proofs.LockStep
import CaseRouting.Proofs.FilterChoice
import CaseRouting.Proofs.RegisteredFilters
import CaseRouting.Proofs.CycleGuard
import CaseRouting.Proofs.FailureCauses
import CaseRouting.Proofs.LinkedGraph
import CaseRouting.Proofs.DefaultFlows
import CaseRouting.Proofs.GatewayOrigin
import CaseRouting.Proofs.Locality
import CaseRouting.Proofs.DefinitionOrder
import CaseRouting.Proofs.JsonGrammar
import CaseRouting.Proofs.TextReading
import CaseRouting.Proofs.JsonReading
import CaseRouting.Proofs.JsonSkipping
import CaseRouting.Proofs.RecordReading
import CaseRouting.Proofs.RecordMembers
import CaseRouting.Proofs.DefinitionShape
import CaseRouting.Proofs.KindShape
import CaseRouting.Proofs.DefinitionReading
import CaseRouting.Proofs.JsonWriting
import CaseRouting.Proofs.DefinitionRoundTrip
import CaseRouting.Proofs.CaseRoundTrip
import CaseRouting.Proofs.GatewayDecisions
import CaseRouting.Proofs.RenamedNavigation
import CaseRouting.Proofs.JsonIndenting
import CaseRouting.Proofs.ElementRoundTrip
import CaseRouting.Proofs.Utf8
import CaseRouting.Proofs.NextCommand
import CaseRouting.Proofs.NodeKinds
import CaseRouting.Proofs.JsonAsYaml
import CaseRouting.Proofs.BlockLexing
import CaseRouting.Proofs.BlockSteps
import CaseRouting.Proofs.BlockTokens
import CaseRouting.Proofs.BlockDocument
import CaseRouting.Proofs.PlainDefinitions
import CaseRouting.Proofs.FilterFlags
import CaseRouting.Proofs.DefinitionFiles
