import RpcConformance.Proofs.AnnouncedDeadline
import RpcConformance.Proofs.SoakOptions
import RpcConformance.Proofs.SoakRuns

/-!
# The limits of a soak

The numbers of a soak have several widths: its counters 32 bits, the entries of its histogram and
its latencies in milliseconds 64, and instants a range of their own.  Each of them stays in its
range for every plan that can be asked for, whatever the iterations give and however long they
take, and the time left of a call can always be sent along.  There is one exception: the overall
deadline is the present instant and the overall timeout, and where that sum is past the last
instant the soak crashes before its first iteration.  Every other soak ends by a report.

What does not crash is shown by going through the procedure: `ScenarioM.Concludes` says that a
procedure ends with a value or by a report, and it is closed under what scenarios are made of.

## Main results

* `Scenarios.inRange_countAll` — the counters, after any iterations.
* `Scenarios.announced_timeout` — the timeout that a call sends along.
* `Scenarios.concludes_soakLoop`, `Scenarios.concludes_soakThrough` — runs with a deadline.
* `Scenarios.soak_has_verdict_iff` — all of it, and when a soak crashes.
-/

namespace RpcConformance

/-! ## Instants -/

/-- Where whole seconds lead past the last instant. -/
theorem Instant.later?_ofSecs_eq_none {t : Instant} {seconds : Nat} :
    t.later? (.ofSecs seconds) = none ↔ secondsLimit ≤ t.nanos / 1000000000 + seconds := by
  have hsum : (t.later (.ofSecs seconds)).nanos / 1000000000 = t.nanos / 1000000000 + seconds :=
    Nat.add_mul_div_right _ _ (by decide)
  unfold later?
  dsimp only
  rw [hsum]
  split
  · exact ⟨nofun, fun h => by omega⟩
  · exact ⟨fun _ => by omega, fun _ => rfl⟩

theorem Duration.secs_ofSecs (n : Nat) : (Duration.ofSecs n).secs = n :=
  Nat.mul_div_cancel n (by decide)

/-- The time between two instants is a number of seconds of 64 bits. -/
theorem Instant.secs_since_lt {t earlier : Instant} (h : t.nanos / 1000000000 < secondsLimit) :
    (t.since earlier).secs < wordLimit := by
  have hlimit : secondsLimit < wordLimit := by decide
  have hle : (t.nanos - earlier.nanos) / 1000000000 ≤ t.nanos / 1000000000 :=
    Nat.div_le_div_right (Nat.sub_le _ _)
  show (t.nanos - earlier.nanos) / 1000000000 < wordLimit
  omega

/-! ## Procedures that conclude -/

/-- What halts a scenario is a report: a fatal failure, or the end of the program. -/
inductive Halt.ByReport : Halt → Prop
  | fatal (f : Fatal) : ByReport (.fatal f)
  | exited (code : Nat) : ByReport (.exited code)

namespace ScenarioM

variable {ρ α β : Type}

/-- The procedure ends: with a value, of which `P` holds, or by a report.  It does not crash, and it
does not get stuck. -/
def Concludes (m : ScenarioM ρ α) (b : Bench ρ) (P : α → Bench ρ → Prop) : Prop :=
  (∃ a b', m b = (.ok a, b') ∧ P a b') ∨ ∃ h b', m b = (.error h, b') ∧ h.ByReport

variable {m : ScenarioM ρ α} {f : α → ScenarioM ρ β} {b b' : Bench ρ} {a : α}
  {P : α → Bench ρ → Prop} {Q : β → Bench ρ → Prop}

theorem concludes_of_ok (h : m b = (.ok a, b')) (hP : P a b') : Concludes m b P :=
  Or.inl ⟨a, b', h, hP⟩

theorem concludes_bind_of_ok (h : m b = (.ok a, b')) (hf : Concludes (f a) b' Q) :
    Concludes (m >>= f) b Q := by
  unfold Concludes
  rw [bind_of_ok h]
  exact hf

/-- **What concludes may follow what concludes.** -/
theorem Concludes.bind (h : Concludes m b P) (hf : ∀ a b', P a b' → Concludes (f a) b' Q) :
    Concludes (m >>= f) b Q := by
  rcases h with ⟨a, b', hm, hP⟩ | ⟨h, b', hm, hreport⟩
  · exact concludes_bind_of_ok hm (hf a b' hP)
  · exact Or.inr ⟨h, b', Scenarios.bind_of_error hm, hreport⟩

theorem Concludes.mono {P' : α → Bench ρ → Prop} (h : Concludes m b P)
    (hP : ∀ a b', P a b' → P' a b') : Concludes m b P' :=
  h.imp_left fun ⟨a, b', hm, ha⟩ => ⟨a, b', hm, hP a b' ha⟩

theorem concludes_report (g : ρ → Reported ρ α) (hP : ∀ a r, P a { b with reporter := r }) :
    Concludes (report g) b P := by
  unfold Concludes report
  cases g b.reporter with
  | returned a r => exact Or.inl ⟨a, _, rfl, hP a r⟩
  | exited code r => exact Or.inr ⟨_, _, rfl, .exited code⟩

variable [Reporter ρ]

theorem concludes_fatal (message : String) : Concludes (fatal message) b P :=
  (concludes_report (P := fun _ _ => True) _ fun _ _ => trivial).bind
    fun f b' _ => Or.inr ⟨_, b', rfl, .fatal f⟩

theorem concludes_check (condition : Bool) (message : String) :
    Concludes (check condition message) b fun _ _ => True := by
  unfold check
  split
  · exact concludes_of_ok rfl trivial
  · exact concludes_of_ok rfl trivial

end ScenarioM

namespace Scenarios

open ScenarioM Suite CommandLine

/-! ## Numbers -/

/-- Every number of a soak is in its range, its histogram has a bucket for every value, and it can
be shown. -/
structure SoakState.InRange (s : SoakState) : Prop where
  done : s.done < powerOfTwo 32
  failures : s.failures < powerOfTwo 32
  histogram : s.histogram.Fits
  width : 0 < s.histogram.width
  bucket : ∀ value, s.histogram.bucketOf value < s.histogram.counts.length
  shown : ∃ text, s.histogram.render = .ok text

theorem latencyMillis_lt (elapsed : Duration) : latencyMillis elapsed < wordLimit := by
  have hpos : 0 < wordLimit := by decide
  unfold latencyMillis
  omega

/-- **The counters are in range after any iterations**, as long as there are no more of them than a
plan can ask for. -/
theorem inRange_countAll (plan : SoakPlan) {trace : List Iteration}
    (hmany : trace.length < powerOfTwo 32) : (SoakState.start.countAll plan trace).InRange := by
  have hcounts := counts_countAll plan trace
  have hfilled : (SoakState.start.countAll plan trace).histogram =
      .filled 20 1 0 (trace.map fun i => latencyMillis i.latency) := hcounts.histogram
  have hwords : powerOfTwo 32 < wordLimit := by decide
  have hlength := Histogram.length_filled 20 1 0 (trace.map fun i => latencyMillis i.latency)
  have hwidth := Histogram.width_filled 20 1 0 (trace.map fun i => latencyMillis i.latency)
  have hmin := Histogram.min_filled 20 1 0 (trace.map fun i => latencyMillis i.latency)
  rw [← hfilled] at hlength hwidth hmin
  have hbuckets : (SoakState.start.countAll plan trace).histogram.counts ≠ [] := by
    rw [← List.length_pos_iff, hlength]
    decide
  refine ⟨?_, ?_, ?_, ?_, fun value => Histogram.bucketOf_lt _ hbuckets value, ?_⟩
  · rw [hcounts.done]
    exact hmany
  · have hle := hcounts.failures_le
    rw [hcounts.done] at hle
    exact Nat.lt_of_le_of_lt hle hmany
  · rw [hfilled]
    refine Histogram.fits_filled 20 1 0 ?_ ?_
    · rw [List.length_map]
      exact Nat.lt_trans hmany hwords
    · intro value hvalue
      obtain ⟨i, -, rfl⟩ := List.mem_map.mp hvalue
      exact latencyMillis_lt i.latency
  · rw [hwidth]
    decide
  · exact Histogram.render_ok hmin hwidth (by rw [hlength]; decide)

/-! ## The timeout of a call -/

/-- **A call with a deadline sends a timeout along**, which is at most the time that is left. -/
theorem announced_timeout {deadline : Instant} (token : Token) (m : Moment)
    (hdeadline : deadline.nanos / 1000000000 < Instant.secondsLimit) :
    ∃ md announced, (⟨.empty, ⟨some deadline, token⟩⟩ : CallOptions).request m = .ok md ∧
      Scope.announced md = some announced ∧ announced ≤ deadline.since m.now ∧
      (deadline.since m.now).secs < wordLimit := by
  have hmd := CallOptions.request_of_deadline (o := ⟨.empty, ⟨some deadline, token⟩⟩) (m := m) rfl
  have hsingle : ((⟨.empty, ⟨some deadline, token⟩⟩ : CallOptions).requestMetadata m).getAll
      Timeout.header = [Timeout.encode (deadline.since m.now)].map HeaderValue.ofText := by
    rw [hmd, Metadata.getAll_insert_self]
    rfl
  refine ⟨_, Timeout.written (deadline.since m.now), CallOptions.request_eq _ m, ?_,
    Timeout.written_le _, Instant.secs_since_lt hdeadline⟩
  rw [Scope.announced_of_texts hsingle ?_]
  · exact Timeout.parse_encode _
  · intro s hs
    rw [List.mem_singleton.mp hs]
    exact Timeout.ofAscii_encode _

/-! ## Runs -/

section Runs

variable {ρ : Type} {c : Context} {channel : ScenarioM ρ Client} {deadline : Instant}

/-- A way to new clients that concludes, and keeps the sessions that a soak relies on. -/
def Opens (channel : ScenarioM ρ Client) : Prop :=
  ∀ b, b.session.Scripted → Concludes channel b fun _ b' => b'.session.Scripted

/-- **The loop concludes**, with the counters of some iterations, no more than were left. -/
theorem concludes_soakLoop (hchannel : Opens channel) (c : Context) (deadline : Instant)
    (left : Nat) (s : SoakState) {b : Bench ρ} (hs : b.session.Scripted) :
    Concludes (soakLoop c channel deadline left s) b fun s' _ =>
      ∃ trace : List Iteration, trace.length ≤ left ∧ s' = s.countAll c.soak trace := by
  induction left generalizing s b with
  | zero => exact concludes_of_ok rfl ⟨[], Nat.le_refl _, rfl⟩
  | succ left ih =>
      have hclient : Concludes (iterationClient c channel) b fun _ b' => b'.session.Scripted := by
        unfold iterationClient
        split
        · exact hchannel b hs
        · exact concludes_of_ok rfl hs
      by_cases hlate : deadline ≤ b.session.moment.now
      · exact concludes_of_ok (soakLoop_of_late hlate _ s) ⟨[], Nat.zero_le _, rfl⟩
      rw [soakLoop]
      refine concludes_bind_of_ok (now_apply b) ?_
      rw [if_neg hlate]
      refine hclient.bind fun client b₁ hs₁ => concludes_bind_of_ok (now_apply b₁) ?_
      refine concludes_bind_of_ok (a := ⟨some deadline, b₁.session.nextToken⟩) rfl ?_
      -- The session behind a new scope differs only in the number of tokens.
      obtain ⟨r, b₂, hcall, hkept, -⟩ := soakCall_timely client c.sizes
        ⟨some deadline, b₁.session.nextToken⟩
        (b := { b₁ with session := { b₁.session with nextToken := b₁.session.nextToken + 1 } })
        hs₁ rfl
      refine concludes_bind_of_ok hcall (concludes_bind_of_ok (now_apply b₂) ?_)
      have hrest := fun s lines => ih (b := { b₂ with log := lines }) s hkept.scripted
      refine concludes_bind_of_ok rfl ((hrest _ _).mono fun s' _ htrace => ?_)
      obtain ⟨trace, hlength, hs'⟩ := htrace
      exact ⟨⟨b.session.moment.now, b₁.session.moment.now, b₂.session.moment.now, r⟩ :: trace,
        Nat.succ_le_succ hlength, hs'⟩

variable [Reporter ρ]

/-- A new connection of a client is a way to new clients. -/
theorem opens_newChannel (client : Client) : Opens (newChannel client : ScenarioM ρ Client) := by
  intro b hs
  have hconnect : (onSession client.reconnect : ScenarioM ρ (Except String Client)) b =
      (.ok (if client.reachable then .ok client else .error "couldn't reconnect: transport error"),
        { b with session := b.session.settle }) := rfl
  refine concludes_bind_of_ok hconnect ?_
  cases client.reachable with
  | true => exact concludes_of_ok rfl hs.settle
  | false => exact concludes_fatal _

/-- **A soak with a deadline concludes.** -/
theorem concludes_soakThrough (hchannel : Opens channel) {b : Bench ρ}
    (hs : b.session.Scripted) (hplan : c.soak.Admitted)
    (hdeadline : b.session.moment.now.later? c.soak.overallTimeout = some deadline) :
    Concludes (soakThrough c channel) b fun _ _ => True := by
  rw [soakThrough]
  refine concludes_bind_of_ok (now_apply b) ?_
  rw [hdeadline]
  refine (concludes_soakLoop hchannel c deadline c.soak.iterations .start hs).bind
    fun s b₁ htrace => ?_
  obtain ⟨trace, hlength, rfl⟩ := htrace
  obtain ⟨text, hshown⟩ :=
    (inRange_countAll c.soak (Nat.lt_of_le_of_lt hlength hplan.iterations)).shown
  rw [hshown]
  refine concludes_bind_of_ok rfl (concludes_bind_of_ok rfl ?_)
  refine (concludes_check _ _).bind fun _ b₂ _ => (concludes_check _ _).bind fun _ b₃ _ => ?_
  exact concludes_report _ fun _ _ => trivial

/-- A soak whose deadline is past the last instant crashes. -/
theorem soakThrough_of_no_deadline (c : Context) (channel : ScenarioM ρ Client) {b : Bench ρ}
    (h : b.session.moment.now.later? c.soak.overallTimeout = none) :
    soakThrough c channel b = (.error (.crashed .instant), b) := by
  unfold soakThrough
  rw [bind_of_ok (now_apply b), h]
  rfl

/-- A run of a scenario with a verdict: the scenario's outcome, or the end of the program by a
report. -/
inductive HasVerdict : Except Halt ScenarioOutcome × Bench ρ → Prop
  | outcome (o : ScenarioOutcome) (b : Bench ρ) : HasVerdict (.ok o, b)
  | exited (code : Nat) (b : Bench ρ) : HasVerdict (.error (.exited code), b)

/-- A scenario that concludes has a verdict. -/
theorem hasVerdict_runOne {s : Scenario ρ} {b : Bench ρ}
    (h : Concludes (s.run c) { b with reporter := Reporter.begin s.name b.reporter }
      fun _ _ => True) : HasVerdict (runOne c s b) := by
  rcases h with ⟨⟨⟩, b', hrun, -⟩ | ⟨h, b', hrun, hreport⟩
  · rw [runOne, hrun]
    exact .outcome _ _
  · rw [runOne, hrun]
    cases hreport with
    | fatal f => exact .outcome _ _
    | exited code => exact .exited code b'

end Runs

/-- **A soak has a verdict exactly as long as its deadline is an instant.**  A run of it, with any
reporter and any server, ends with an outcome or by a report where the overall timeout, counted from
the present instant, does not lead past the last instant that can be represented; otherwise it
crashes when it computes the deadline, before anything is called.

Nothing else can leave its range.  The loop concludes with the counters of some iterations, no more
than the plan asks for, and after such iterations, whatever they gave and however long they took,
every number is in its range and the histogram can be shown.  A call with a deadline always sends a
timeout along, no longer than the time left.  A plan that arguments ask for is admitted, and no
scenario begins with a session that is not scripted. -/
theorem soak_has_verdict_iff {ρ : Type} [Reporter ρ] {c : Context} (hplan : c.soak.Admitted)
    (info : ScenarioInfo) {b : Bench ρ} (hs : b.session.Scripted) :
    (HasVerdict (runOne c ⟨info, soak⟩ b) ↔
      b.session.moment.now.nanos / 1000000000 + c.soak.overallTimeout.secs <
        Instant.secondsLimit) ∧
    (Instant.secondsLimit ≤
        b.session.moment.now.nanos / 1000000000 + c.soak.overallTimeout.secs →
      runOne c ⟨info, soak⟩ b = (.error (.crashed .instant),
        { b with reporter := Reporter.begin info.name b.reporter })) ∧
    (∀ deadline, Concludes
      (soakLoop c (newChannel c.client) deadline c.soak.iterations .start) b fun s _ =>
        ∃ trace : List Iteration, trace.length ≤ c.soak.iterations ∧
          s = SoakState.start.countAll c.soak trace) ∧
    (∀ trace : List Iteration, trace.length ≤ c.soak.iterations →
      (SoakState.start.countAll c.soak trace).InRange ∧
        ∀ i ∈ trace, latencyMillis i.latency < wordLimit) ∧
    (∀ (deadline : Instant) (token : Token) (m : Moment),
      deadline.nanos / 1000000000 < Instant.secondsLimit →
      ∃ md announced, (⟨.empty, ⟨some deadline, token⟩⟩ : CallOptions).request m = .ok md ∧
        Scope.announced md = some announced ∧ announced ≤ deadline.since m.now ∧
        (deadline.since m.now).secs < wordLimit) ∧
    (∀ (arguments : List String) (s : ClientSettings),
      ClientSettings.ofArguments arguments = .ok s → s.soak.Admitted) ∧
    ∀ (m : ClientMachine) (b' : Bench ρ),
      (ClientProgram.session m).Scripted ∧ (cleared b').session.Scripted := by
  have hnone : b.session.moment.now.later? c.soak.overallTimeout = none ↔ Instant.secondsLimit ≤
      b.session.moment.now.nanos / 1000000000 + c.soak.overallTimeout.secs := by
    obtain ⟨seconds, -, htimeout⟩ := hplan.overallTimeout
    rw [htimeout, Duration.secs_ofSecs]
    exact Instant.later?_ofSecs_eq_none
  have hcrashes : Instant.secondsLimit ≤
        b.session.moment.now.nanos / 1000000000 + c.soak.overallTimeout.secs →
      runOne c ⟨info, soak⟩ b = (.error (.crashed .instant),
        { b with reporter := Reporter.begin info.name b.reporter }) := by
    intro hlate
    have hcrashed := soakThrough_of_no_deadline c (newChannel c.client)
      (b := { b with reporter := Reporter.begin info.name b.reporter }) (hnone.mpr hlate)
    simp only [runOne, soak, hcrashed]
  refine ⟨⟨fun hverdict => ?early, fun hearly => ?verdict⟩, hcrashes,
    fun deadline => concludes_soakLoop (opens_newChannel c.client) c deadline _ _ hs,
    fun trace hlength => ?numbers, fun _ token m => announced_timeout token m,
    fun _ _ h => ClientSettings.admitted_ofArguments h,
    fun m b' => ⟨Session.scripted_start m.server, scripted_cleared b'⟩⟩
  case early =>
    by_contra hlate
    rw [hcrashes (Nat.not_lt.mp hlate)] at hverdict
    cases hverdict
  case verdict =>
    obtain ⟨deadline, hdeadline⟩ := Option.ne_none_iff_exists'.mp fun h =>
      absurd (hnone.mp h) (Nat.not_le.mpr hearly)
    exact hasVerdict_runOne (s := ⟨info, soak⟩)
      (concludes_soakThrough (opens_newChannel c.client) hs hplan hdeadline)
  case numbers =>
    exact ⟨inRange_countAll c.soak (Nat.lt_of_le_of_lt hlength hplan.iterations),
      fun i _ => latencyMillis_lt i.latency⟩

namespace LongestSoak

/-- A soak with the largest numbers there are, and as much time as the clock has. -/
def context : Context :=
  { client := ⟨{}, true⟩
    soak := { resetChannel := true, iterations := 4294967295, maxFailures := 4294967295,
              maxLatency := .ofMillis 18446744073709551615,
              overallTimeout := .ofSecs 9223372036854775806 }
    network := ⟨none⟩ }

def info : ScenarioInfo := ⟨"soak", .diagnostic, []⟩

def bench : Bench LineReporter := ⟨{ sink := .log }, .start (.scripted []), []⟩

end LongestSoak

open LongestSoak in
theorem longestSoak_hasVerdict :
    context.soak.Admitted ∧ bench.session.Scripted ∧
      HasVerdict (runOne context ⟨info, soak⟩ bench) := by
  have hplan : context.soak.Admitted :=
    ⟨by decide, by decide, ⟨18446744073709551615, by decide, rfl⟩,
      ⟨9223372036854775806, by decide, rfl⟩⟩
  have hs : bench.session.Scripted := Session.scripted_start (.scripted [])
  exact ⟨hplan, hs, (soak_has_verdict_iff hplan info hs).1.mpr (by decide)⟩

namespace EndlessSoak

/-- The options of a soak with the longest timeout that can be asked for. -/
def arguments : List String :=
  ["--host", "127.0.0.1", "--port", "8080", "--scenario", "soak", "--soak-iterations", "1",
    "--soak-overall-timeout-seconds", "18446744073709551615"]

def machine : ClientMachine := ⟨"", ⟨some 8080⟩, .reference ⟨"server", "localhost"⟩⟩

end EndlessSoak

open EndlessSoak in
/-- A soak without a verdict: the program crashes and has reported nothing. -/
theorem endlessSoak_crashes :
    ClientProgram.run arguments machine = ⟨ClientProgram.crashCode, "", []⟩ := by
  decide +kernel

end Scenarios

end RpcConformance
