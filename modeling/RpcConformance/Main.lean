import RpcConformance.CommandLine.ClientProgram
import RpcConformance.CommandLine.ServerProgram

/-!
# The command line

The first argument names the program. The client runs against the reference server, which is
in the same process; the server announces itself.
-/

namespace RpcConformance

/-- The port of the server in the same process. -/
def localPort : Nat := 8080

/-- Writes what a program has written, and gives its exit code. -/
def finish (e : CommandLine.ProgramEnd) : IO UInt32 := do
  for (level, message) in e.log do
    IO.eprintln (level.name ++ " " ++ message)
  IO.print e.stdout
  return UInt32.ofNat e.exit

/-- Runs the client program. -/
def runClient (arguments : List String) : IO UInt32 := do
  let input ← match CommandLine.ClientSettings.ofArguments arguments with
    | .ok s => if s.cross && !s.list then (← IO.getStdin).getLine else pure ""
    | .error _ => pure ""
  let hostname ← IO.getEnv "HOSTNAME"
  let server := Backend.reference (.new "crosstest-server" hostname)
  let run := CommandLine.ClientProgram.execute (catalogue LineReporter) arguments
    ⟨input, ⟨some localPort⟩, server⟩
  for line in run.skips do
    IO.eprintln (LogLevel.info.name ++ " " ++ line)
  finish run.toProgramEnd

/-- Runs the server program. -/
def runServer (arguments : List String) : IO UInt32 := do
  let hostname ← IO.getEnv "HOSTNAME"
  match CommandLine.ServerProgram.start arguments localPort hostname with
  | .exits code text => finish ⟨code, text, []⟩
  | .serves descriptor _ => finish ⟨0, descriptor.line ++ "\n", []⟩

end RpcConformance

/-- Runs the program that the first argument names. -/
def main (arguments : List String) : IO UInt32 :=
  match arguments with
  | "client" :: rest => RpcConformance.runClient rest
  | "server" :: rest => RpcConformance.runServer rest
  | _ => RpcConformance.finish ⟨2, "", []⟩
