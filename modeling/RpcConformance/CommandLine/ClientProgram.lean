import RpcConformance.CommandLine.Arguments
import RpcConformance.Descriptor.Reader
import RpcConformance.Reporter.Lines
import RpcConformance.Scenario.Catalogue
import RpcConformance.Suite.Run
import RpcConformance.Suite.Selection
import RpcConformance.Text.Terminal

/-!
# The client program

It selects scenarios, and lists them or runs them against one server. The server's address is
among the options, or in the first line of standard input. What the program cannot start with
is logged, and ends it with exit code 2; a run that fails ends it with 1.
-/

namespace RpcConformance.CommandLine

/-- How a summary is printed. -/
inductive SummaryFormat
  | text
  | json
deriving DecidableEq

/-- The settings of the client program. -/
structure ClientSettings where
  host : String := "localhost"
  port : Nat := 8080
  /-- Reads the address of the server from standard input, and writes reports to standard
  output. -/
  cross : Bool := false
  selection : Selection := {}
  list : Bool := false
  format : SummaryFormat := .text
  sizes : Sizes := .extended
  compression : Bool := false
  halfDuplexOnly : Bool := false
  soak : SoakPlan := {}
  unresolvableHost : String := Agreed.unresolvableHost
deriving DecidableEq

namespace ClientSettings

/-- Changes how the soak runs. -/
def withSoak (s : ClientSettings) (f : SoakPlan → SoakPlan) : ClientSettings :=
  { s with soak := f s.soak }

/-- Changes what is selected. -/
def withSelection (s : ClientSettings) (f : Selection → Selection) : ClientSettings :=
  { s with selection := f s.selection }

/-- The options of the client program. -/
def rules : List (OptionRule ClientSettings) :=
  [.single "host" some fun v s => { s with host := v },
    .single "port" (readNumber 16) fun v s => { s with port := v },
    .flag "cross" fun s => { s with cross := true },
    .repeated "scenario" some fun v s =>
      s.withSelection fun x => { x with names := x.names ++ [v] },
    .repeated "category" (fun v => (Category.read v).toOption) fun v s =>
      s.withSelection fun x => { x with categories := x.categories ++ [v] },
    .flag "list" fun s => { s with list := true },
    .single "format" (readChoice [("text", SummaryFormat.text), ("json", .json)]) fun v s =>
      { s with format := v },
    .single "sizes" (readChoice [("classic", Sizes.classic), ("extended", .extended)]) fun v s =>
      { s with sizes := v },
    .flag "gzip" fun s => { s with compression := true },
    .flag "half-duplex-only" fun s => { s with halfDuplexOnly := true },
    .flag "soak-reset-channel" fun s => s.withSoak fun c => { c with resetChannel := true },
    .single "soak-iterations" (readNumber 32) fun v s =>
      s.withSoak fun c => { c with iterations := v },
    .single "soak-max-failures" (readNumber 32) fun v s =>
      s.withSoak fun c => { c with maxFailures := v },
    .single "soak-per-iteration-max-latency-ms" (Decimal.unsigned? 64) fun v s =>
      s.withSoak fun c => { c with maxLatency := .ofMillis v },
    .single "soak-overall-timeout-seconds" (Decimal.unsigned? 64) fun v s =>
      s.withSoak fun c => { c with overallTimeout := .ofSecs v },
    .single "unresolvable-host" some fun v s => { s with unresolvableHost := v }]

/-- Reads the settings from arguments. -/
def ofArguments (arguments : List String) : Except UsageError ClientSettings :=
  read rules {} arguments

def capabilities (s : ClientSettings) : Capabilities := ⟨!s.halfDuplexOnly, true⟩

end ClientSettings

/-- Why the client program runs no scenario. -/
inductive ClientFailure
  | selection (e : SelectionError)
  | descriptor (line : String) (e : Json.ReadError)
  | noPort
  | address (c : Target) (fault : Authority.Fault)
  | refused (c : Target)

namespace ClientFailure

/-- What is logged: each cause after what it caused. -/
def message : ClientFailure → String
  | selection e => e.message
  | descriptor line e => "couldn't parse server metadata: " ++ Descriptor.errorMessage line e
  | noPort => "server metadata lists no gRPC port"
  | address c fault => c.invalidMessage ++ ": invalid URI: " ++ fault.message
  | refused c =>
    "couldn't connect to " ++ c.uri ++ ": transport error: tcp connect error: "
      ++ "tcp connect error: Connection refused (os error 111)"

end ClientFailure

/-- What a program has written when it ends, and its exit code. -/
structure ProgramEnd where
  exit : Nat
  stdout : String := ""
  log : List (LogLevel × String) := []
deriving DecidableEq

namespace ProgramEnd

/-- The lines of a list that go to standard output, as one text. -/
def stdoutText (lines : List OutputLine) : String :=
  String.join (lines.filterMap fun l =>
    match l with
    | .stdout text => some (text ++ "\n")
    | .log _ _ => none)

/-- A line of the log, which has no terminal controls. -/
def logged (level : LogLevel) (message : String) : LogLevel × String :=
  (level, Terminal.shownText message)

/-- The lines of a list that go to the log. -/
def logLines (lines : List OutputLine) : List (LogLevel × String) :=
  lines.filterMap fun l =>
    match l with
    | .log level message => some (logged level message)
    | .stdout _ => none

/-- The end of a program that has written lines and then a text to standard output. -/
def after (exit : Nat) (lines : List OutputLine) (text : String) : ProgramEnd :=
  ⟨exit, stdoutText lines ++ text, logLines lines⟩

end ProgramEnd

/-- A run of the program: how it ends, and what was logged while scenarios were selected. -/
structure ProgramRun extends ProgramEnd where
  skips : List String

/-- The machine on which the client program runs. -/
structure ClientMachine where
  /-- What can be read from standard input. -/
  stdin : String
  network : Network
  /-- What listens on the network, if anything does. -/
  server : Backend

namespace ClientProgram

/-- The name under which the program logs. -/
def name : String := "crosstest_client"

/-- The exit code of a program that crashed. -/
def crashCode : Nat := 101

/-- The first line of a text. -/
def firstLine (s : String) : String := String.ofList (s.toList.takeWhile (· ≠ '\n'))

/-- How the server is reached. -/
def serverConfig (s : ClientSettings) (stdin : String) : Except ClientFailure Target :=
  if s.cross then
    let line := firstLine stdin
    match Descriptor.ofLine line with
    | .error e => .error (.descriptor line e)
    | .ok d =>
      match d.portFor .grpc with
      | none => .error .noPort
      | some port => .ok { host := d.host, port := port, compression := s.compression }
  else .ok { host := s.host, port := s.port, compression := s.compression }

/-- A client with a connection. -/
def connect (c : Target) (n : Network) : Except ClientFailure Client :=
  match c.fault? with
  | some fault => .error (.address c fault)
  | none => if n.reaches c then .ok ⟨c, true⟩ else .error (.refused c)

/-- The summary as the program prints it. -/
def printed (s : ClientSettings) (summary : Summary) : String :=
  match s.format with
  | .json => summary.jsonText ++ "\n"
  | .text => if s.cross then "" else summary.text ++ "\n"

/-- A client's world by a clock that never stands still, where each call takes some time. -/
def session (m : ClientMachine) : Session := { Session.start m.server with lag := ⟨1⟩ }

/-- What the scenarios work with. -/
def context (s : ClientSettings) (m : ClientMachine) (client : Client) : Context :=
  { client := client, sizes := s.sizes, soak := s.soak,
    unresolvable := { host := s.unresolvableHost, port := 80 }, network := m.network }

/-- Where the lines of reports go. -/
def sink (s : ClientSettings) : Sink := if s.cross then .stdout else .log

/-- The bench before the first scenario. -/
def bench (s : ClientSettings) (m : ClientMachine) : Bench LineReporter :=
  ⟨{ sink := sink s }, session m, []⟩

/-- The end of the program after a run. -/
def ended (s : ClientSettings) : Except Halt Summary × Bench LineReporter → ProgramEnd
  | (.ok summary, b) =>
    .after (if summary.passed then 0 else 1) b.reporter.lines (printed s summary)
  | (.error (.exited code), b) => .after code b.reporter.lines ""
  | (.error _, b) => .after crashCode b.reporter.lines ""

/-- Runs scenarios with a client. -/
def runWith (s : ClientSettings) (m : ClientMachine) (client : Client)
    (scenarios : List (Scenario LineReporter)) : ProgramEnd :=
  ended s (Suite.run (context s m client) scenarios (bench s m))

/-- Lists the selected scenarios, or runs them. -/
def start (selected : Except SelectionError (List (Scenario LineReporter)))
    (s : ClientSettings) (m : ClientMachine) : Except ClientFailure ProgramEnd :=
  match selected with
  | .error e => .error (.selection e)
  | .ok scenarios =>
    if s.list then
      .ok ⟨0, ScenarioInfo.listing (scenarios.map (·.toScenarioInfo)) ++ "\n", []⟩
    else do
      let config ← serverConfig s m.stdin
      let client ← connect config m.network
      return runWith s m client scenarios

/-- The end of the program, which logs why it has failed. -/
def concluded : Except ClientFailure ProgramEnd → ProgramEnd
  | .ok e => e
  | .error f => ⟨2, "", [ProgramEnd.logged .error (name ++ ": " ++ f.message)]⟩

/-- Runs the program with the scenarios that it knows. -/
def execute (known : List (Scenario LineReporter)) (arguments : List String)
    (m : ClientMachine) : ProgramRun :=
  match ClientSettings.ofArguments arguments with
  | .error .helpAsked => ⟨⟨0, helpText name ClientSettings.rules, []⟩, []⟩
  | .error e => ⟨⟨e.exitCode, "", []⟩, []⟩
  | .ok s =>
    let (selected, skips) := s.selection.selectLogging known s.capabilities
    ⟨concluded (start selected s m), skips⟩

/-- How the program ends with the scenarios that it knows. -/
def runFrom (known : List (Scenario LineReporter)) (arguments : List String)
    (m : ClientMachine) : ProgramEnd :=
  (execute known arguments m).toProgramEnd

/-- Runs the program with the scenarios of the catalogue. -/
def run (arguments : List String) (m : ClientMachine) : ProgramEnd :=
  runFrom (catalogue LineReporter) arguments m

end ClientProgram

end RpcConformance.CommandLine
