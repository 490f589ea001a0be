import RpcConformance.Client.Conversation
import RpcConformance.Main
import RpcConformance.Proofs.PacedOutput
import RpcConformance.Reporter.Recorder
import RpcConformance.Reporter.Script
import RpcConformance.Scope.Board
import RpcConformance.Service.Transcript
import RpcConformance.Trailers
import RpcConformance.Proofs.Admission
import RpcConformance.Proofs.ClientSide
import RpcConformance.Proofs.Dialogue
import RpcConformance.Proofs.FullDuplex
import RpcConformance.Proofs.HalfDuplex
import RpcConformance.Proofs.Conversations
import RpcConformance.Proofs.Base64
import RpcConformance.Proofs.Numerals
import RpcConformance.Proofs.HeaderText
import RpcConformance.Proofs.TimeoutGrammar
import RpcConformance.Proofs.TimeoutCodec
import RpcConformance.Proofs.RequestTimeout
import RpcConformance.Proofs.AnnouncedDeadline
import RpcConformance.Proofs.EchoValues
import RpcConformance.Proofs.StreamItems
import RpcConformance.Proofs.SessionFrame
import RpcConformance.Proofs.EchoParts
import RpcConformance.Proofs.EchoRoundTrip
import RpcConformance.Proofs.PendingTrailers
import RpcConformance.Proofs.Sending
import RpcConformance.Proofs.StreamOutcome
import RpcConformance.Proofs.TriggeredScope
import RpcConformance.Proofs.RequestFeed
import RpcConformance.Proofs.JoinedCall
import RpcConformance.Proofs.InputSum
import RpcConformance.Proofs.StreamingInput
import RpcConformance.Proofs.IndependentRuns
import RpcConformance.Proofs.ConsoleReports
import RpcConformance.Proofs.ClientVerdict
import RpcConformance.Proofs.TypedDetails
import RpcConformance.Proofs.JsonRecords
import RpcConformance.Proofs.JsonGrammar
import RpcConformance.Proofs.RecordSpelling
import RpcConformance.Proofs.DescriptorSpelling
import RpcConformance.Proofs.DescriptorLine
import RpcConformance.Proofs.AuthorityText
import RpcConformance.Proofs.AddressText
import RpcConformance.Proofs.AnnouncedAddress
import RpcConformance.Proofs.TimeoutOrder
import RpcConformance.Proofs.ClosedSending
import RpcConformance.Proofs.LoggedRuns
import RpcConformance.Proofs.ScopeHistories
import RpcConformance.Proofs.Forecasts
import RpcConformance.Proofs.ForetoldCalls
import RpcConformance.Proofs.ForetoldStreams
import RpcConformance.Proofs.PlainCalls
import RpcConformance.Proofs.ScenarioSteps
import RpcConformance.Proofs.PayloadSizes
import RpcConformance.Proofs.PayloadSteps
import RpcConformance.Proofs.PayloadScenarios
import RpcConformance.Proofs.RefusedReplays
import RpcConformance.Proofs.InputTotals
import RpcConformance.Proofs.ScriptedCalls
import RpcConformance.Proofs.SingleVerdicts
import RpcConformance.Proofs.ScriptedSessions
import RpcConformance.Proofs.SingleAnswers
import RpcConformance.Proofs.SingleResults
import RpcConformance.Proofs.HistogramCounts
import RpcConformance.Proofs.HistogramText
import RpcConformance.Proofs.SoakIterations
import RpcConformance.Proofs.SoakRuns
import RpcConformance.Proofs.BinarySpelling
import RpcConformance.Proofs.SoakOptions
import RpcConformance.Proofs.SoakLimits
import RpcConformance.Proofs.RecordedReports
import RpcConformance.Proofs.ExactSelection
import RpcConformance.Proofs.LossyText
import RpcConformance.Proofs.ToldErrors
import RpcConformance.Proofs.EchoChecks
import RpcConformance.Proofs.ScriptedStreams
import RpcConformance.Proofs.StreamVerdicts
import RpcConformance.Proofs.JsonLayout
import RpcConformance.Proofs.SummaryReport
