import RpcConformance.CommandLine.Arguments
import RpcConformance.Descriptor.Basic
import RpcConformance.IpAddress
import RpcConformance.Service.Reference

/-!
# The server program

It listens at a numeric address of its own machine and announces itself in one line. Where it
cannot listen it ends with exit code 1.
-/

namespace RpcConformance.CommandLine

/-- The settings of the server program. -/
structure ServerSettings where
  host : String := "127.0.0.1"
  /-- Zero stands for any port that is free. -/
  port : Nat := 0
  serverId : String := "crosstest-server"
deriving DecidableEq

namespace ServerSettings

/-- The options of the server program. -/
def rules : List (OptionRule ServerSettings) :=
  [.single "host" some fun v s => { s with host := v },
    .single "port" (readNumber 16) fun v s => { s with port := v },
    .single "server-id" some fun v s => { s with serverId := v }]

/-- Reads the settings from arguments. -/
def ofArguments (arguments : List String) : Except UsageError ServerSettings :=
  read rules {} arguments

end ServerSettings

/-- How the server program starts. -/
inductive ServerStart
  | exits (code : Nat) (stdout : String)
  /-- It has announced itself and serves. -/
  | serves (descriptor : Descriptor) (server : ReferenceServer)

namespace ServerProgram

/-- The name of the program. -/
def name : String := "crosstest_server"

/-- Starts the program on a machine with a free port, and with a name if it has one. -/
def start (arguments : List String) (freePort : Nat) (hostname : Option String) : ServerStart :=
  match ServerSettings.ofArguments arguments with
  | .error .helpAsked => .exits 0 (helpText name ServerSettings.rules)
  | .error e => .exits e.exitCode ""
  | .ok s =>
    match IpAddress.ofText? s.host with
    | some a =>
      if a.isOwn then
        .serves (.grpc a.text (if s.port = 0 then freePort else s.port))
          (.new s.serverId hostname)
      else .exits 1 ""
    | none => .exits 1 ""

end ServerProgram

end RpcConformance.CommandLine
