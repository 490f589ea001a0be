import Mathlib.Data.List.Forall2
import RpcConformance.Proofs.PayloadSizes
import RpcConformance.Proofs.ScenarioSteps
import RpcConformance.Proofs.ScriptedStreams
import RpcConformance.Proofs.ToldErrors
import RpcConformance.Scenario.Catalogue
import RpcConformance.Suite.Run

/-!
# The verdict on a stream of responses

The scenario that asks for a response of each size of a table goes through whatever the server
sends.  It compares the length of each payload for which it has a size, goes on after an error,
and compares the number of responses at the end; a failure of the call is fatal at once.  So its
reports say which response it was: it succeeds for a successful end behind payloads of exactly the
wanted lengths, and for nothing else.

## Main results

* `Scenarios.receiveSizes_gives` — the loop over a response of any length.
* `Scenarios.serverStreamingSizes_eq` — the scenario as a function of the response.
* `Scenarios.streamErrors_eq_nil_iff` — for which responses it reports no error.
* `Suite.server_streaming_certifies_the_transcript` — the whole of it, as a run records it.
-/

namespace RpcConformance

open ReadResponse

/-! ## Behind errors and failures -/

namespace ScenarioM

variable {ρ α β : Type} [Reporter ρ] {b b' : Bench ρ}

/-- Nothing comes behind a fatal failure. -/
theorem bind_of_fatal {m : ScenarioM ρ α} {f : α → ScenarioM ρ β} {message : String}
    (h : m b = (fatal message : ScenarioM ρ α) b') :
    (m >>= f) b = (fatal message : ScenarioM ρ β) b' := by
  simp only [bind, h, fatal, report, halt]
  cases Reporter.fatal message b'.reporter <;> rfl

theorem bind_of_tells {m : ScenarioM ρ α} {f : α → ScenarioM ρ β} {a : α} {messages : List String}
    (h : Tells m a messages) (b : Bench ρ) : (m >>= f) b = f a (b.told messages) :=
  bind_of_ok (h b)

end ScenarioM

namespace Scenarios

open ScenarioM

variable {ρ : Type} [Reporter ρ]

/-! ## What is said of a response -/

/-- The error on the length of one message, if there is a size that it should have. -/
def lengthError (expected : List Int) (index : Nat) (m : Reply) : List String :=
  match expected[index]? with
  | some size =>
    if payloadLength m.payload = wordSize size then []
    else [mismatchMessage ("length of response " ++ Decimal.text index)
      (Decimal.text (payloadLength m.payload)) (Decimal.text (wordSize size))]
  | none => []

/-- The errors on the lengths of messages, the first of which has a given index. -/
def lengthErrors (expected : List Int) : Nat → List Reply → List String
  | _, [] => []
  | index, m :: rest => lengthError expected index m ++ lengthErrors expected (index + 1) rest

/-- The error on the number of messages. -/
def countError (expected : List Int) (count : Nat) : List String :=
  if count = expected.length then []
  else [mismatchMessage "number of responses" (Decimal.text count)
    (Decimal.text expected.length)]

/-- How a stream fails behind some messages. -/
def failedAfter (count : Nat) (s : Status) : String :=
  "StreamingOutputCall failed after " ++ Decimal.text count ++ " responses: " ++ s.describe

/-- The errors that are reported of a response. -/
def streamErrors (expected : List Int) : ReadResponse → List String
  | .refused _ => []
  | .opened _ messages s =>
    lengthErrors expected 0 messages ++
      if s.code = .ok then countError expected messages.length else []

/-- The fatal failure that is reported of a response. -/
def streamFailure? : ReadResponse → Option String
  | .refused s => some ("couldn't open StreamingOutputCall: " ++ s.describe)
  | .opened _ messages s => if s.code = .ok then none else some (failedAfter messages.length s)

/-- The words with which the scenario reports its success. -/
def streamSuccess : String := "successful server streaming"

section Opened

variable (expected : List Int) (headers : Metadata) (messages : List Reply) {s : Status}

theorem streamErrors_of_ok (h : s.code = .ok) :
    streamErrors expected (.opened headers messages s) =
      lengthErrors expected 0 messages ++ countError expected messages.length := by
  simp only [streamErrors, if_pos h]

theorem streamErrors_of_failed (h : s.code ≠ .ok) :
    streamErrors expected (.opened headers messages s) = lengthErrors expected 0 messages := by
  simp only [streamErrors, if_neg h, List.append_nil]

theorem streamFailure?_of_ok (h : s.code = .ok) :
    streamFailure? (.opened headers messages s) = none := by
  simp only [streamFailure?, if_pos h]

theorem streamFailure?_of_failed (h : s.code ≠ .ok) :
    streamFailure? (.opened headers messages s) = some (failedAfter messages.length s) := by
  simp only [streamFailure?, if_neg h]

end Opened

/-- The report that ends the scenario. -/
def streamEnd (read : ReadResponse) : ScenarioM ρ Unit :=
  match streamFailure? read with
  | some message => fatal message
  | none => success streamSuccess

/-! ## The loop -/

omit [Reporter ρ] in
theorem receiveServer_of_answered {st st' : ServerStream} {b : Bench ρ} {s' : Session}
    {r : Except Status (Option Reply)} (h : st.receive b.session = (.answered r, st', s')) :
    receiveServer st b = (.ok (r, st'), { b with session := s' }) := by
  simp only [receiveServer, awaitWith, h]

/-- **A message is checked**, and the loop goes on behind it. -/
theorem receiveSizes_message (expected : List Int) (fuel index : Nat) {st : ServerStream}
    {m : Reply} {b : Bench ρ} {s' : Session}
    (h : st.receive b.session = (.answered (.ok (some m)), st, s')) :
    receiveSizes expected (fuel + 1) index st b = receiveSizes expected fuel (index + 1) st
      (Bench.told { b with session := s' } (lengthError expected index m)) := by
  rw [receiveSizes, bind_of_ok (receiveServer_of_answered h)]
  unfold lengthError
  cases expected[index]? with
  | none => rfl
  | some size => exact bind_of_tells (tells_checkEq _ _ _ _) _

/-- **The loop ends with the response**, and a failure is fatal. -/
theorem receiveSizes_ended (expected : List Int) (fuel index : Nat) {st st' : ServerStream}
    {status : Status} {b : Bench ρ} {s' : Session}
    (h : st.receive b.session = (.answered status.atEnd, st', s')) :
    receiveSizes expected (fuel + 1) index st b =
      (if status.code = .ok then pure index else fatal (failedAfter index status) :
        ScenarioM ρ Nat) { b with session := s' } := by
  rw [receiveSizes, bind_of_ok (receiveServer_of_answered h)]
  unfold Status.atEnd
  by_cases hcode : status.code = .ok
  · rw [if_pos hcode, if_pos hcode]
  · rw [if_neg hcode, if_neg hcode]
    rfl

/-- **The loop over a response.**  Every message is checked, and at the end there is the number of
messages or a fatal failure. -/
theorem receiveSizes_gives (expected : List Int) {fuel : Nat} (index : Nat) {st : ServerStream}
    {id : CallId} {messages : List Reply} {status : Status} {behind : List Event} {b : Bench ρ}
    (hlive : st.responses.state = .live id) (hidle : st.scope.Idle b.session)
    (h : b.session.Gives id (messages.map .message ++ .ended status :: behind))
    (hfuel : messages.length < fuel) :
    ∃ s', receiveSizes expected fuel index st b =
      (if status.code = .ok then pure (index + messages.length)
        else fatal (failedAfter (index + messages.length) status) : ScenarioM ρ Nat)
        (Bench.told { b with session := s' } (lengthErrors expected index messages)) := by
  induction messages generalizing fuel index b with
  | nil =>
      obtain ⟨fuel, rfl⟩ := Nat.exists_eq_add_of_lt hfuel
      obtain ⟨st', s', hreceive⟩ := st.receive_ended hlive hidle h
      exact ⟨s', receiveSizes_ended expected _ index hreceive⟩
  | cons m rest ih =>
      obtain ⟨fuel, rfl⟩ := Nat.exists_eq_add_of_lt hfuel
      obtain ⟨s₁, hreceive, hrest, hkept⟩ := st.receive_message hlive hidle h
      have hfuel' : rest.length < rest.length + 1 + fuel := by omega
      have hindex : index + 1 + rest.length = index + (m :: rest).length := by
        rw [List.length_cons]
        omega
      obtain ⟨s', hloop⟩ := ih (index + 1)
        (b := Bench.told { b with session := s₁ } (lengthError expected index m))
        (hidle.kept hkept) hrest hfuel'
      refine ⟨s', ?_⟩
      rw [List.length_cons, receiveSizes_message expected _ index hreceive, hloop, hindex]
      have htold := Bench.told_told { b with session := s' } (lengthError expected index m)
        (lengthErrors expected (index + 1) rest)
      exact congrArg _ htold

/-! ## The scenario -/

/-- What the scenario does with the result of its call. -/
def streamThrough (expected : List Int) (r : Except Status ServerStream) : ScenarioM ρ Unit := do
  let st ← requireOk Status.describe r "couldn't open StreamingOutputCall"
  let bound ← messageBound
  let received ← receiveSizes expected (bound + 1) 0 st
  checkEq Decimal.text received expected.length "number of responses"
  success streamSuccess

theorem streamThrough_refused (expected : List Int) (s : Status) (b : Bench ρ) :
    streamThrough expected (.error s) b = streamEnd (.refused s) b :=
  bind_of_fatal rfl

/-- **A stream is gone through** up to its end. -/
theorem streamThrough_opened (expected : List Int) (st : ServerStream) {id : CallId}
    (headers : Metadata) {messages : List Reply} {status : Status} {behind : List Event}
    {b : Bench ρ} (hlive : st.responses.state = .live id) (hidle : st.scope.Idle b.session)
    (h : b.session.Gives id (messages.map .message ++ .ended status :: behind)) :
    ∃ s', streamThrough expected (.ok st) b = streamEnd (.opened headers messages status)
      (Bench.told { b with session := s' }
        (streamErrors expected (.opened headers messages status))) := by
  obtain ⟨s', hloop⟩ := receiveSizes_gives expected 0 hlive hidle h
    (Nat.lt_succ_of_le h.length_le)
  rw [Nat.zero_add] at hloop
  have hstream : (requireOk Status.describe (.ok st) "couldn't open StreamingOutputCall" :
      ScenarioM ρ ServerStream) b = (.ok st, b) := rfl
  have hbound : (messageBound : ScenarioM ρ Nat) b = (.ok b.session.messageBound, b) := rfl
  refine ⟨s', ?_⟩
  rw [streamThrough, bind_of_ok hstream, bind_of_ok hbound, streamEnd]
  by_cases hcode : status.code = .ok
  · rw [if_pos hcode] at hloop
    rw [streamFailure?_of_ok headers messages hcode,
      streamErrors_of_ok expected headers messages hcode, ← Bench.told_told, bind_of_ok hloop]
    exact bind_of_tells (tells_checkEq Decimal.text _ _ _) _
  · rw [if_neg hcode] at hloop
    rw [streamFailure?_of_failed headers messages hcode,
      streamErrors_of_failed expected headers messages hcode]
    exact bind_of_fatal hloop

/-- The options of the call: no metadata, and a scope that only a signal can trigger. -/
def streamOptions (s : Session) : CallOptions := ⟨.empty, ⟨none, s.nextToken⟩⟩

/-- The request of the scenario. -/
def streamInvocation (c : Context) : Invocation :=
  .streamingOutputCall (.ofSizes c.sizes.response.toList)

/-- The call of the scenario. -/
def streamCall (c : Context) (s : Session) : CallSpec :=
  c.client.spec .test (streamInvocation c) (streamOptions s) s

/-- What a scripted server sends in answer to it. -/
def streamResponse (c : Context) (methods : List (String × List Behaviour)) (s : Session) :
    List ResponsePart :=
  (Backend.behaviour methods (streamCall c s).scriptName
    (s.seen.countP fun call => call.path = (streamCall c s).path)).parts

/-- How its client reads the answer. -/
def streamReception (c : Context) : Reception :=
  ⟨streamInvocation c, c.client.target.compression, false⟩

theorem serverStreamingSizes_of_answered {c : Context} {b : Bench ρ} {s s' : Session}
    {r : Except Status ServerStream}
    (hs : s = { b.session with nextToken := b.session.nextToken + 1 })
    (h : c.client.serverStreaming .test (streamInvocation c) (streamOptions b.session) s =
      (.answered r, s')) :
    serverStreamingSizes c b =
      streamThrough c.sizes.response.toList r { b with session := s' } := by
  have hrequest : (requireOk PayloadError.message (outputRequest c.sizes.response.toList none)
      "couldn't build request" : ScenarioM ρ StreamingOutputRequest) b =
        (.ok (.ofSizes c.sizes.response.toList), b) := rfl
  have hplain : (plainOptions : ScenarioM ρ CallOptions) b =
      (.ok (streamOptions b.session), { b with session := s }) := by
    rw [hs]
    rfl
  have hcall : (serverStreaming c.client .test (streamInvocation c) (streamOptions b.session) :
      ScenarioM ρ _) { b with session := s } = (.ok r, { b with session := s' }) := by
    simp only [serverStreaming, await, h]
  rw [serverStreamingSizes, bind_of_ok hrequest, bind_of_ok hplain]
  exact bind_of_ok hcall

section Whole

variable {c : Context} {methods : List (String × List Behaviour)} {b : Bench ρ}
  (hreachable : c.client.reachable = true) (hserver : b.session.server = .scripted methods)
  (hs : b.session.Scripted)
  (hunsignalled : b.session.moment.isCancelled b.session.nextToken = false)

include hreachable hserver hs hunsignalled

/-- **The scenario as a function of the response**: it reports the errors of the response, and then
how it ends. -/
theorem serverStreamingSizes_eq {read : ReadResponse}
    (hread : Reads ((streamReception c).eventsOf (streamResponse c methods b.session)) read) :
    ∃ s', serverStreamingSizes c b = streamEnd read
      (Bench.told { b with session := s' } (streamErrors c.sizes.response.toList read)) := by
  obtain ⟨s, hs₁⟩ : ∃ s : Session,
      s = { b.session with nextToken := b.session.nextToken + 1 } := ⟨_, rfl⟩
  have hserver₁ : s.server = .scripted methods := hs₁ ▸ hserver
  have hscripted₁ : s.Scripted := hs₁ ▸ hs
  have hidle : (streamOptions b.session).scope.Idle s := hs₁ ▸ ⟨rfl, hunsignalled⟩
  have hread₁ : Reads (scriptedEvents methods
      (c.client.spec .test (streamInvocation c) (streamOptions b.session) s)
      (s.seen.countP fun call =>
        call.path = (c.client.spec .test (streamInvocation c) (streamOptions b.session) s).path))
      read := hs₁ ▸ hread
  cases read with
  | refused status =>
      obtain ⟨s', hopen⟩ :=
        Client.serverStreaming_refused hreachable hidle hserver₁ hscripted₁ rfl hread₁
      refine ⟨s', ?_⟩
      rw [serverStreamingSizes_of_answered hs₁ hopen]
      exact streamThrough_refused _ status _
  | opened headers messages status =>
      obtain ⟨behind, s₂, hopen, hgives, hkept⟩ :=
        Client.serverStreaming_opened hreachable hidle hserver₁ hscripted₁ rfl hread₁
      obtain ⟨s', hthrough⟩ := streamThrough_opened c.sizes.response.toList
        ⟨Responses.opened s.slots.length headers, (streamOptions b.session).scope⟩ headers
        (b := { b with session := s₂ }) rfl (hidle.kept hkept) hgives
      exact ⟨s', (serverStreamingSizes_of_answered hs₁ hopen).trans hthrough⟩

end Whole

end Scenarios

/-! ## Which responses are the right ones -/

namespace ReadResponse

/-- The response ends well, behind payloads of the wanted sizes and no others. -/
def Conforms (sizes : List Int) : ReadResponse → Prop
  | .refused _ => False
  | .opened _ messages s =>
    s.code = .ok ∧ messages.map (fun m => payloadLength m.payload) = sizes.map Int.toNat

/-- The call fails, perhaps behind some messages. -/
def Fails : ReadResponse → Prop
  | .refused _ => True
  | .opened _ _ s => s.code ≠ .ok

theorem Conforms.not_fails {sizes : List Int} {read : ReadResponse} (h : read.Conforms sizes) :
    ¬read.Fails := by
  cases read with
  | refused s => exact absurd h not_false
  | opened headers messages s => exact not_not_intro h.1

end ReadResponse

namespace Scenarios

theorem lengthError_eq_nil_iff {expected : List Int} {index : Nat} {size : Int}
    (h : expected[index]? = some size) (m : Reply) :
    lengthError expected index m = [] ↔ payloadLength m.payload = wordSize size := by
  simp [lengthError, h]

/-- **No length is wrong**, by induction on the messages; `before` are the sizes of those that have
been checked. -/
theorem lengthErrors_eq_nil_iff (before : List Int) {sizes : List Int} {messages : List Reply}
    (hlength : messages.length = sizes.length) :
    lengthErrors (before ++ sizes) before.length messages = [] ↔
      messages.map (fun m => payloadLength m.payload) = sizes.map wordSize := by
  induction messages generalizing before sizes with
  | nil =>
      obtain rfl := List.eq_nil_of_length_eq_zero hlength.symm
      exact iff_of_true rfl rfl
  | cons m rest ih =>
      obtain ⟨size, sizes, rfl⟩ := List.exists_cons_of_length_eq_add_one hlength.symm
      have hsize : (before ++ size :: sizes)[before.length]? = some size := by
        rw [List.getElem?_append_right (Nat.le_refl _), Nat.sub_self]
        rfl
      have hrest := ih (before ++ [size]) (Nat.succ.inj hlength)
      rw [List.length_append, List.append_assoc] at hrest
      rw [lengthErrors, List.append_eq_nil_iff, lengthError_eq_nil_iff hsize, List.map_cons,
        List.map_cons, List.cons.injEq]
      exact and_congr_right fun _ => hrest

theorem streamFailure?_eq_none_iff (read : ReadResponse) :
    streamFailure? read = none ↔ ¬read.Fails := by
  cases read with
  | refused s => simp [streamFailure?, Fails]
  | opened headers messages s => simp [streamFailure?, Fails]

/-- **No error is reported of a response that ends well** exactly where it is the right one. -/
theorem streamErrors_eq_nil_iff {sizes : List Int}
    (hsizes : ∀ size ∈ sizes, 0 ≤ size ∧ size < wordLimit) {read : ReadResponse}
    (h : ¬read.Fails) : streamErrors sizes read = [] ↔ read.Conforms sizes := by
  cases read with
  | refused s => exact absurd trivial h
  | opened headers messages s =>
      have hcode : s.code = .ok := not_not.mp h
      have hwords : sizes.map wordSize = sizes.map Int.toNat :=
        List.map_congr_left fun size hsize =>
          wordSize_of_nonneg (hsizes size hsize).1 (hsizes size hsize).2
      have hcount : countError sizes messages.length = [] ↔ messages.length = sizes.length := by
        simp [countError]
      rw [streamErrors_of_ok sizes headers messages hcode, List.append_eq_nil_iff, hcount, Conforms]
      constructor
      · rintro ⟨hlengths, hlength⟩
        rw [← hwords]
        exact ⟨hcode, (lengthErrors_eq_nil_iff [] hlength).mp hlengths⟩
      · rintro ⟨-, hmap⟩
        have hlength : messages.length = sizes.length := by
          have hmapped := congrArg List.length hmap
          rwa [List.length_map, List.length_map] at hmapped
        rw [← hwords] at hmap
        exact ⟨(lengthErrors_eq_nil_iff [] hlength).mpr hmap, hlength⟩

end Scenarios

/-! ## What is recorded -/

namespace Suite

open Scenarios

/-- Errors as a recorder keeps them. -/
def errorReports (name : String) (messages : List String) : List ReportEvent :=
  messages.map fun message => ⟨name, .error, message⟩

section Ends

variable {c : Context} {x : Scenario Recorder} {b b' : Bench Recorder} {errors : List String}
  {message : String}

/-- A recorder that has been told of some errors in a scenario. -/
theorem reporter_told (hreporter : b'.reporter = Reporter.begin x.name b.reporter) :
    (b'.told errors).reporter =
      ⟨x.name, !errors.isEmpty, b.reporter.events ++ errorReports x.name errors⟩ := by
  rw [Bench.told_recorder, hreporter]
  rfl

/-- A scenario that reports some errors and then a fatal failure. -/
theorem runOne_of_fatal (hreporter : b'.reporter = Reporter.begin x.name b.reporter)
    (h : x.run c { b with reporter := Reporter.begin x.name b.reporter } =
      (ScenarioM.fatal message : ScenarioM Recorder Unit) (b'.told errors)) :
    ∃ b'', runOne c x b = (.ok (outcomeOf x.toScenarioInfo (some ⟨message⟩) true), b'') ∧
      b''.reporter.events = b.reporter.events ++
        (errorReports x.name errors ++ [⟨x.name, .fatal, message⟩]) := by
  have hfatal : (ScenarioM.fatal message : ScenarioM Recorder Unit) (b'.told errors) =
      (.error (.fatal ⟨message⟩), { b'.told errors with
        reporter := (b'.told errors).reporter.record .fatal message }) := rfl
  refine ⟨cleared { b'.told errors with
    reporter := (b'.told errors).reporter.record .fatal message }, ?_, ?_⟩
  · simp only [runOne, h, hfatal]
  · show ((b'.told errors).reporter.record .fatal message).events = _
    rw [reporter_told hreporter]
    exact List.append_assoc ..

/-- A scenario that reports some errors and then its success, which is a failure behind errors. -/
theorem runOne_of_success (hreporter : b'.reporter = Reporter.begin x.name b.reporter)
    (h : x.run c { b with reporter := Reporter.begin x.name b.reporter } =
      ScenarioM.success message (b'.told errors)) :
    ∃ b'', runOne c x b = (.ok (outcomeOf x.toScenarioInfo none !errors.isEmpty), b'') ∧
      b''.reporter.events = b.reporter.events ++ (errorReports x.name errors ++
        [if errors = [] then ⟨x.name, .success, message⟩
          else ⟨x.name, .failure, message ++ afterErrors⟩]) := by
  have hsuccess : ScenarioM.success message (b'.told errors) =
      (.ok (), { b'.told errors with
        reporter := if (b'.told errors).reporter.failed then
            (b'.told errors).reporter.record .failure (message ++ afterErrors)
          else (b'.told errors).reporter.record .success message }) := rfl
  rw [reporter_told hreporter] at hsuccess
  rw [hsuccess] at h
  cases errors <;>
    exact ⟨_, by simp only [runOne, h]; rfl, List.append_assoc ..⟩

end Ends

/-- The verdict on a response: the outcome of the scenario, and all that it reports. -/
structure StreamJudged (name : String) (sizes : List Int) (read : ReadResponse)
    (outcome : ScenarioOutcome) (reports : List ReportEvent) : Prop where
  passed_iff : outcome.passed = true ↔ read.Conforms sizes
  success_iff : (∃ e ∈ reports, e.kind = .success) ↔ read.Conforms sizes
  conforming : read.Conforms sizes → reports = [⟨name, .success, streamSuccess⟩]
  /-- A failing call ends in a fatal failure, behind the errors on the messages before. -/
  failing : read.Fails → ∃ message, streamFailure? read = some message ∧
    outcome.message = some message ∧
    reports = errorReports name (streamErrors sizes read) ++ [⟨name, .fatal, message⟩]
  /-- Every other response that is not the right one ends in a failure behind errors. -/
  differing : ¬read.Fails → ¬read.Conforms sizes → streamErrors sizes read ≠ [] ∧
    reports = errorReports name (streamErrors sizes read) ++
      [⟨name, .failure, streamSuccess ++ afterErrors⟩]

section Judged

variable {sizes : List Int} {read : ReadResponse} (info : ScenarioInfo)

theorem exists_success_iff (name : String) (errors : List String) (last : ReportEvent) :
    (∃ e ∈ errorReports name errors ++ [last], e.kind = .success) ↔ last.kind = .success := by
  simp [errorReports]

theorem streamJudged_of_failure {message : String} (h : streamFailure? read = some message) :
    StreamJudged info.name sizes read (outcomeOf info (some ⟨message⟩) true)
      (errorReports info.name (streamErrors sizes read) ++ [⟨info.name, .fatal, message⟩]) := by
  have hfails : read.Fails := by
    by_contra hnot
    rw [(streamFailure?_eq_none_iff read).mpr hnot] at h
    cases h
  have hdiffers : ¬read.Conforms sizes := fun hconforms => hconforms.not_fails hfails
  refine ⟨iff_of_false nofun hdiffers, ?_, fun hconforms => absurd hconforms hdiffers,
    fun _ => ⟨message, h, rfl, rfl⟩, fun hnot => absurd hfails hnot⟩
  rw [exists_success_iff]
  exact iff_of_false nofun hdiffers

theorem streamJudged_of_end (hsizes : ∀ size ∈ sizes, 0 ≤ size ∧ size < wordLimit)
    (h : streamFailure? read = none) :
    StreamJudged info.name sizes read (outcomeOf info none !(streamErrors sizes read).isEmpty)
      (errorReports info.name (streamErrors sizes read) ++
        [if streamErrors sizes read = [] then ⟨info.name, .success, streamSuccess⟩
          else ⟨info.name, .failure, streamSuccess ++ afterErrors⟩]) := by
  have hends := (streamFailure?_eq_none_iff read).mp h
  have hnone := streamErrors_eq_nil_iff hsizes hends
  by_cases hconforms : read.Conforms sizes
  · rw [hnone.mpr hconforms]
    refine ⟨iff_of_true rfl hconforms, ?_, fun _ => rfl, fun hfails => absurd hfails hends,
      fun _ hdiffers => absurd hconforms hdiffers⟩
    rw [exists_success_iff]
    exact iff_of_true rfl hconforms
  · have hsome : streamErrors sizes read ≠ [] := fun hnil => hconforms (hnone.mp hnil)
    obtain ⟨first, rest, hcons⟩ := List.exists_cons_of_ne_nil hsome
    rw [if_neg hsome]
    refine ⟨?_, ?_, fun h => absurd h hconforms, fun hfails => absurd hfails hends,
      fun _ _ => ⟨hsome, rfl⟩⟩
    · rw [hcons]
      exact iff_of_false nofun hconforms
    · rw [exists_success_iff]
      exact iff_of_false nofun hconforms

end Judged

/-! ## Every response -/

/-- The scenario of the catalogue. -/
def streamScenario : Scenario Recorder :=
  ⟨⟨"server-streaming", .streaming, []⟩, serverStreamingSizes⟩

theorem catalogue_serverStreaming :
    (catalogue Recorder).filter (fun x => x.name = "server-streaming") = [streamScenario] := rfl

theorem eq_streamScenario {x : Scenario Recorder} (hx : x ∈ catalogue Recorder)
    (hname : x.name = "server-streaming") : x = streamScenario := by
  have hfiltered : x ∈ (catalogue Recorder).filter (fun x => x.name = "server-streaming") :=
    List.mem_filter.mpr ⟨hx, decide_eq_true hname⟩
  rw [catalogue_serverStreaming] at hfiltered
  exact List.mem_singleton.mp hfiltered

/-- A run of the scenario comes to the verdict on the response. -/
theorem runOne_judged {c : Context} (hreachable : c.client.reachable = true)
    (hsizes : ∀ size ∈ c.sizes.response.toList, 0 ≤ size ∧ size < wordLimit)
    {methods : List (String × List Behaviour)} {b : Bench Recorder}
    (hserver : b.session.server = .scripted methods) (hs : b.session.Scripted)
    (hunsignalled : b.session.moment.isCancelled b.session.nextToken = false)
    {read : ReadResponse}
    (hread : Reads ((streamReception c).eventsOf (streamResponse c methods b.session)) read) :
    ∃ outcome b' reports, runOne c streamScenario b = (.ok outcome, b') ∧
      b'.reporter.events = b.reporter.events ++ reports ∧
      StreamJudged streamScenario.name c.sizes.response.toList read outcome reports := by
  obtain ⟨s', hrun⟩ := serverStreamingSizes_eq
    (b := { b with reporter := Reporter.begin streamScenario.name b.reporter })
    hreachable hserver hs hunsignalled hread
  rw [streamEnd] at hrun
  cases hfailure : streamFailure? read with
  | some message =>
      rw [hfailure] at hrun
      obtain ⟨b', hone, hevents⟩ :=
        runOne_of_fatal (c := c) (x := streamScenario) (b := b) rfl hrun
      exact ⟨_, b', _, hone, hevents, streamJudged_of_failure _ hfailure⟩
  | none =>
      rw [hfailure] at hrun
      obtain ⟨b', hone, hevents⟩ :=
        runOne_of_success (c := c) (x := streamScenario) (b := b) rfl hrun
      exact ⟨_, b', _, hone, hevents, streamJudged_of_end _ hsizes hfailure⟩

/-- Every whole response is the answer of some server, to whichever call it is. -/
theorem exists_streamResponse (c : Context) {parts : List ResponsePart} (h : WholeResponse parts) :
    ∃ methods, ∀ s, streamResponse c methods s = parts := by
  obtain ⟨behaviour, rfl⟩ := Behaviour.exists_of_wholeResponse h
  refine ⟨[("StreamingOutputCall", [behaviour])], fun s => ?_⟩
  unfold streamResponse
  cases s.seen.countP fun call => call.path = (streamCall c s).path <;> rfl

/-- The parts of a response with some payloads and nothing among its headers. -/
def plainParts (payloads : List (Option Payload)) (ending : Status) : List ResponsePart :=
  .headers .empty :: ((payloads.map .output).map .message ++ [.trailers ending])

/-- A plain response is read as it was sent. -/
theorem reads_plainParts (c : Context) {payloads : List (Option Payload)} (ending : Status)
    (hshort : ∀ p ∈ payloads, c.client.target.compression = true ∨
      (Reply.output p).encodedLength ≤ maxMessageLength) :
    Reads ((streamReception c).eventsOf (plainParts payloads ending))
      (.opened .empty (payloads.map .output) ending.delivered) := by
  refine reads_plain _ ending rfl rfl (List.forall₂_same.mpr ?_)
  intro m hm
  obtain ⟨p, hp, rfl⟩ := List.mem_map.mp hm
  exact ⟨rfl, hshort p hp⟩

/-- **The scenario certifies the right transcripts and no others.**  The sizes of the table are not
negative, and being of 32 bits they are words.  A server answers the call with any whole response,
with any payloads in any number and any end, and a client reads every response as one: a plain one
as it was sent, one whose messages cannot be read as a failure.  The scenario passes and reports its
success, and nothing else, exactly where the response ends well behind payloads of the wanted
lengths, entry by entry and in number; an absent payload has length zero.  A call that fails, also
behind right messages, ends in a fatal failure.  Every other response ends in a failure behind at
least one error. -/
theorem server_streaming_certifies_the_transcript {c : Context}
    (hreachable : c.client.reachable = true)
    (hsizes : ∀ size ∈ c.sizes.response.toList, 0 ≤ size ∧ size < wordLimit)
    {x : Scenario Recorder} (hx : x ∈ catalogue Recorder) (hname : x.name = "server-streaming") :
    (∀ parts, WholeResponse parts ↔ ∃ methods, ∀ s, streamResponse c methods s = parts) ∧
    (∀ payloads ending,
      (∀ p ∈ payloads, c.client.target.compression = true ∨
        (Reply.output p).encodedLength ≤ maxMessageLength) →
      Reads ((streamReception c).eventsOf (plainParts payloads ending))
        (.opened .empty (payloads.map .output) ending.delivered)) ∧
    ∀ methods (b : Bench Recorder), b.session.server = .scripted methods → b.session.Scripted →
      b.session.moment.isCancelled b.session.nextToken = false →
      (∃ read, Reads ((streamReception c).eventsOf (streamResponse c methods b.session)) read) ∧
      ∀ read, Reads ((streamReception c).eventsOf (streamResponse c methods b.session)) read →
        ∃ outcome b' reports, runOne c x b = (.ok outcome, b') ∧
          b'.reporter.events = b.reporter.events ++ reports ∧
          StreamJudged x.name c.sizes.response.toList read outcome reports := by
  obtain rfl := eq_streamScenario hx hname
  refine ⟨fun parts => ⟨exists_streamResponse c, ?_⟩,
    fun payloads ending hshort => reads_plainParts c ending hshort, ?_⟩
  · rintro ⟨methods, h⟩
    rw [← h (.start (.scripted methods))]
    exact Behaviour.wholeResponse _
  · intro methods b hserver hs hunsignalled
    exact ⟨exists_read _ (Behaviour.wholeResponse _),
      fun read hread => runOne_judged hreachable hsizes hserver hs hunsignalled hread⟩

namespace StreamSample

def context : Context :=
  { client := ⟨{}, true⟩, sizes := ⟨⟨0, 0, 0, 0⟩, ⟨2, 0, 1, 3⟩, 0, 0⟩, network := ⟨none⟩ }

/-- Payloads of the sizes of the table, the empty one left out. -/
def payloads : List (Option Payload) :=
  [some (Payload.zeroed 2), none, some (Payload.zeroed 1), some (Payload.zeroed 3)]

/-- A server that answers with some payloads, after a pause. -/
def methods (payloads : List (Option Payload)) : List (String × List Behaviour) :=
  [("StreamingOutputCall", [{
    steps := .pause (.fresh (.ofMillis 5)) :: payloads.map fun p => .reply (.output p) }])]

def bench (payloads : List (Option Payload)) : Bench Recorder :=
  ⟨{}, .start (.scripted (methods payloads)), []⟩

end StreamSample

open StreamSample in
theorem sampleTranscripts_certified :
    (∀ size ∈ context.sizes.response.toList, 0 ≤ size ∧ size < wordLimit) ∧
      streamScenario ∈ catalogue Recorder ∧
      (∃ outcome b', runOne context streamScenario (bench payloads) = (.ok outcome, b') ∧
        outcome.passed = true ∧ b'.reporter.events =
          [⟨"server-streaming", .success, "successful server streaming"⟩]) ∧
      ∃ outcome b', runOne context streamScenario (bench payloads.reverse) = (.ok outcome, b') ∧
        outcome.passed = false ∧ ∀ e ∈ b'.reporter.events, e.kind ≠ .success := by
  have hsizes : ∀ size ∈ context.sizes.response.toList, 0 ≤ size ∧ size < wordLimit := by decide
  have hmem : streamScenario ∈ catalogue Recorder := by
    refine List.mem_of_mem_filter (p := fun x => x.name = "server-streaming") ?_
    rw [catalogue_serverStreaming]
    exact List.mem_singleton_self _
  obtain ⟨-, hplain, hruns⟩ :=
    server_streaming_certifies_the_transcript (c := context) rfl hsizes hmem rfl
  have hended : Status.success.delivered = .success := by decide +kernel
  have hright : (opened .empty (payloads.map .output) Status.success.delivered).Conforms
      context.sizes.response.toList := ⟨by rw [hended]; rfl, by decide⟩
  have hwrong : ¬(opened .empty (payloads.reverse.map .output) Status.success.delivered).Conforms
      context.sizes.response.toList := fun h => absurd h.2 (by decide)
  refine ⟨hsizes, hmem, ?_, ?_⟩
  · have hread := hplain payloads .success (by decide +kernel)
    obtain ⟨-, hjudged⟩ := hruns (methods payloads) (bench payloads) rfl
      (Session.scripted_start _) rfl
    obtain ⟨outcome, b', reports, hrun, hevents, hverdict⟩ := hjudged _ hread
    refine ⟨outcome, b', hrun, hverdict.passed_iff.mpr hright, ?_⟩
    rw [hevents, hverdict.conforming hright]
    rfl
  · have hread := hplain payloads.reverse .success (by decide +kernel)
    obtain ⟨-, hjudged⟩ := hruns (methods payloads.reverse) (bench payloads.reverse) rfl
      (Session.scripted_start _) rfl
    obtain ⟨outcome, b', reports, hrun, hevents, hverdict⟩ := hjudged _ hread
    refine ⟨outcome, b', hrun, Bool.eq_false_iff.mpr fun h => hwrong (hverdict.passed_iff.mp h), ?_⟩
    intro e he hkind
    rw [hevents] at he
    exact hwrong (hverdict.success_iff.mp ⟨e, he, hkind⟩)

end Suite

end RpcConformance
