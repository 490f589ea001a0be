import RpcConformance.Scenario.Calls

/-!
# Scenarios with methods that are not there
-/

namespace RpcConformance.Scenarios

open ScenarioM

variable {ρ : Type} [Reporter ρ]

/-- The call must have failed as unimplemented. -/
def checkMissing (r : Except Status Unit) (what : String) : ScenarioM ρ Unit :=
  match r with
  | .ok () => error (what ++ " succeeded")
  | .error s => checkCode s.code .unimplemented (what ++ " status code")

def callUnimplemented (c : Context) (service : ServiceName) :
    ScenarioM ρ (Except Status Unit) := do
  let o ← plainOptions
  let r ← unary c.client service .unimplementedCall o
  return r.map fun _ => ()

/-- The status may come when the stream is opened, or with the first thing that is received. -/
def streamUnimplemented (c : Context) (service : ServiceName) :
    ScenarioM ρ (Except Status Unit) := do
  let o ← plainOptions
  let r ← serverStreaming c.client service .unimplementedStreamingOutputCall o
  match r with
  | .error s => return .error s
  | .ok st =>
    let (r, _) ← receiveServer st
    match r with
    | .error s => return .error s
    | other => return .error (.internal ("expected an error, got " ++ describeReceived other))

def unimplementedMethod (c : Context) : ScenarioM ρ Unit := do
  let r ← callUnimplemented c .test
  checkMissing r "UnimplementedCall"
  success "successful unimplemented method"

def unimplementedServerStreamingMethod (c : Context) : ScenarioM ρ Unit := do
  let r ← streamUnimplemented c .test
  checkMissing r "UnimplementedStreamingOutputCall"
  success "successful unimplemented server streaming method"

def unimplementedService (c : Context) : ScenarioM ρ Unit := do
  let r ← callUnimplemented c .unimplemented
  checkMissing r "UnimplementedService.UnimplementedCall"
  success "successful unimplemented service"

def unimplementedServerStreamingService (c : Context) : ScenarioM ρ Unit := do
  let r ← streamUnimplemented c .unimplemented
  checkMissing r "UnimplementedService.UnimplementedStreamingOutputCall"
  success "successful unimplemented server streaming service"

end RpcConformance.Scenarios
