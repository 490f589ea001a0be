import RpcConformance.Scenario.Abandoned
import RpcConformance.Scenario.DetailedFailure
import RpcConformance.Scenario.MetadataEcho
import RpcConformance.Scenario.MissingMethods
import RpcConformance.Scenario.RequestedStatus
import RpcConformance.Scenario.SingleResponses
import RpcConformance.Scenario.Soak
import RpcConformance.Scenario.Streams

/-!
# The catalogue

Every scenario, in the order in which they are run.
-/

namespace RpcConformance

open Scenarios

variable (ρ : Type) [Reporter ρ]

/-- Every scenario, in order. -/
def catalogue : List (Scenario ρ) :=
  [⟨⟨"empty-unary", .unary, []⟩, emptyUnary⟩,
    ⟨⟨"large-unary", .unary, []⟩, largeUnary⟩,
    ⟨⟨"cacheable-unary", .unary, []⟩, cacheableUnary⟩,
    ⟨⟨"client-streaming", .streaming, []⟩, clientStreaming⟩,
    ⟨⟨"server-streaming", .streaming, []⟩, serverStreamingSizes⟩,
    ⟨⟨"ping-pong", .streaming, [.fullDuplex]⟩, pingPong⟩,
    ⟨⟨"empty-stream", .streaming, [.fullDuplex]⟩, emptyStream⟩,
    ⟨⟨"half-duplex", .streaming, []⟩, halfDuplex⟩,
    ⟨⟨"timeout-on-sleeping-server", .cancellation, [.fullDuplex]⟩, timeoutOnSleepingServer⟩,
    ⟨⟨"cancel-after-begin", .cancellation, []⟩, cancelAfterBegin⟩,
    ⟨⟨"cancel-after-first-response", .cancellation, [.fullDuplex]⟩, cancelAfterFirstResponse⟩,
    ⟨⟨"custom-metadata-unary", .metadata, [.trailers]⟩, (metadataUnary · .single)⟩,
    ⟨⟨"custom-metadata-server-streaming", .metadata, [.trailers]⟩,
      (metadataServerStreaming · .single)⟩,
    ⟨⟨"custom-metadata-full-duplex", .metadata, [.fullDuplex, .trailers]⟩,
      (metadataFullDuplex · .single)⟩,
    ⟨⟨"duplicated-custom-metadata-unary", .metadata, [.trailers]⟩, (metadataUnary · .duplicated)⟩,
    ⟨⟨"duplicated-custom-metadata-server-streaming", .metadata, [.trailers]⟩,
      (metadataServerStreaming · .duplicated)⟩,
    ⟨⟨"duplicated-custom-metadata-full-duplex", .metadata, [.fullDuplex, .trailers]⟩,
      (metadataFullDuplex · .duplicated)⟩,
    ⟨⟨"status-code-and-message-unary", .status, []⟩, statusCodeAndMessageUnary⟩,
    ⟨⟨"status-code-and-message-full-duplex", .status, [.fullDuplex]⟩,
      statusCodeAndMessageFullDuplex⟩,
    ⟨⟨"special-status-message", .status, []⟩, specialStatusMessage⟩,
    ⟨⟨"unimplemented-method", .unimplemented, []⟩, unimplementedMethod⟩,
    ⟨⟨"unimplemented-server-streaming-method", .unimplemented, []⟩,
      unimplementedServerStreamingMethod⟩,
    ⟨⟨"unimplemented-service", .unimplemented, []⟩, unimplementedService⟩,
    ⟨⟨"unimplemented-server-streaming-service", .unimplemented, []⟩,
      unimplementedServerStreamingService⟩,
    ⟨⟨"fail-with-non-ascii-error", .errors, []⟩, failWithNonAsciiError⟩,
    ⟨⟨"fail-server-streaming-with-non-ascii-error", .errors, []⟩,
      failServerStreamingWithNonAsciiError⟩,
    ⟨⟨"fail-server-streaming-after-response", .errors, []⟩, failServerStreamingAfterResponse⟩,
    ⟨⟨"unresolvable-host", .diagnostic, []⟩, unresolvableHost⟩,
    ⟨⟨"pick-first-unary", .diagnostic, []⟩, pickFirst⟩,
    ⟨⟨"soak", .diagnostic, []⟩, soak⟩]

end RpcConformance
