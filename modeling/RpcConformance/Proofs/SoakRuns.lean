import RpcConformance.Proofs.HistogramText
import RpcConformance.Proofs.SoakIterations
import RpcConformance.Reporter.Recorder
import RpcConformance.Suite.Run

/-!
# Runs of the soak scenario

The loop of a soak goes through iterations until all have been run, the deadline has been reached
or there is no new client.  Its counters say what the iterations were: how many, how many of them
failed, and how long each took.  The scenario passes if none is missing and not too many failed.

Nothing is assumed of the server or of the time that a new connection takes, so the iterations may
be any sequence of results and latencies.

## Main results

* `Histogram.render_ok` — the histogram is shown, whatever it holds.
* `Scenarios.Connects.soaks` — where the loop ends.
* `Scenarios.soak_of_unreachable` — a soak whose server is gone.
* `Scenarios.soak_is_counted_and_judged` — the counters and the verdict.
-/

namespace RpcConformance

/-! ## The histogram -/

namespace Histogram

/-- A histogram in unit steps from zero is shown, whatever it holds, as long as its bounds are
words. -/
theorem render_ok {h : Histogram} (hmin : h.min = 0) (hwidth : h.width = 1)
    (hlength : h.counts.length < wordLimit) : ∃ text, h.render = .ok text := by
  cases hcounts : h.counts with
  | nil => exact ⟨_, by rw [render, hcounts]; rfl⟩
  | cons n rest =>
      have hlast : h.counts.length = rest.length + 1 := by rw [hcounts, List.length_cons]
      have hfits : h.lowerBound rest.length < wordLimit := by
        rw [lowerBound, hmin, hwidth]
        omega
      obtain ⟨text, hrender, -⟩ := h.render_of_fits hlast hfits
      exact ⟨text, hrender⟩

end Histogram

namespace Scenarios

open ScenarioM Suite

variable {ρ : Type} {c : Context} {channel : ScenarioM ρ Client} {deadline : Instant}

/-! ## Counters -/

theorem Iteration.result_eq_succeeded_iff (plan : SoakPlan) (i : Iteration) :
    i.result plan = .succeeded ↔ ¬i.Failed plan := by
  unfold Iteration.result Iteration.Failed iterationResult
  cases i.answer with
  | error reason =>
      exact ⟨nofun, fun h => absurd (Or.inl ⟨reason, rfl⟩) h⟩
  | ok =>
      dsimp only
      split
      · rename_i hslow
        exact ⟨nofun, fun h => absurd (Or.inr hslow) h⟩
      · rename_i hquick
        refine ⟨fun _ => ?_, fun _ => rfl⟩
        rintro (⟨reason, ⟨⟩⟩ | hslow)
        exact hquick hslow

/-- The counters after some iterations. -/
def SoakState.countAll (plan : SoakPlan) (s : SoakState) (trace : List Iteration) : SoakState :=
  trace.foldl (fun s i => s.count (i.result plan) i.latency) s

theorem SoakState.countAll_eq (plan : SoakPlan) (s : SoakState) (trace : List Iteration) :
    s.countAll plan trace = ⟨s.done + trace.length,
      s.failures + trace.countP fun i => i.Failed plan,
      s.histogram.addAll (trace.map fun i => latencyMillis i.latency)⟩ := by
  induction trace generalizing s with
  | nil => rfl
  | cons i rest ih =>
      have hdone : (s.count (i.result plan) i.latency).done + rest.length =
          s.done + (i :: rest).length := by
        show s.done + 1 + rest.length = _
        rw [List.length_cons]
        omega
      have hfailures : (s.count (i.result plan) i.latency).failures +
          rest.countP (fun i => i.Failed plan) =
            s.failures + (i :: rest).countP fun i => i.Failed plan := by
        have hresult := i.result_eq_succeeded_iff plan
        show s.failures + (if i.result plan = .succeeded then 0 else 1) + _ = _
        rw [List.countP_cons]
        by_cases hfailed : i.Failed plan
        · rw [if_neg (fun h => hresult.mp h hfailed), if_pos (decide_eq_true hfailed)]
          omega
        · rw [if_pos (hresult.mpr hfailed), if_neg (by simpa using hfailed)]
          omega
      show (s.count (i.result plan) i.latency).countAll plan rest = _
      rw [ih, hdone, hfailures]
      rfl

/-- What the counters of a soak say of its iterations. -/
structure Counts (plan : SoakPlan) (trace : List Iteration) (s : SoakState) : Prop where
  done : s.done = trace.length
  failures : s.failures = trace.countP fun i => i.Failed plan
  failures_le : s.failures ≤ s.done
  histogram : s.histogram =
    (Histogram.linear 20 1 0).addAll (trace.map fun i => latencyMillis i.latency)
  count : s.histogram.count = s.done
  held : s.histogram.counts.sum = s.done

/-- **The counters are right.** -/
theorem counts_countAll (plan : SoakPlan) (trace : List Iteration) :
    Counts plan trace (SoakState.start.countAll plan trace) := by
  have hextends := Histogram.extends_addAll (Histogram.linear 20 1 0) (by decide)
    (trace.map fun i => latencyMillis i.latency)
  rw [List.length_map] at hextends
  rw [SoakState.countAll_eq]
  refine ⟨Nat.zero_add _, Nat.zero_add _, ?_, rfl, ?_, ?_⟩
  · show 0 + _ ≤ 0 + trace.length
    rw [Nat.zero_add, Nat.zero_add]
    exact List.countP_le_length
  · exact hextends.count
  · exact hextends.held

/-! ## The loop -/

/-- Some iterations, one after another. -/
inductive Soaks (c : Context) (channel : ScenarioM ρ Client) (deadline : Instant) :
    Nat → Bench ρ → List Iteration → Bench ρ → Prop
  | none (number : Nat) (b : Bench ρ) : Soaks c channel deadline number b [] b
  | more {number : Nat} {b b' b'' : Bench ρ} {i : Iteration} {rest : List Iteration}
      (h : Iterates c channel deadline number b i b')
      (hrest : Soaks c channel deadline (number + 1) b' rest b'') :
      Soaks c channel deadline number b (i :: rest) b''

theorem Iterates.entered {number : Nat} {b b' : Bench ρ} {i : Iteration}
    (h : Iterates c channel deadline number b i b') : i.entered < deadline := by
  cases h with
  | intro hearly _ _ _ hi =>
      rw [hi]
      exact hearly

/-- **No iteration is entered at the deadline or after it.** -/
theorem Soaks.entered {number : Nat} {b b' : Bench ρ} {trace : List Iteration}
    (h : Soaks c channel deadline number b trace b') : ∀ i ∈ trace, i.entered < deadline := by
  induction h with
  | none => exact nofun
  | more hfirst _ ih => exact List.forall_mem_cons.mpr ⟨hfirst.entered, ih⟩

/-- How the loop ends behind some iterations, of which there may be so many: all have been run or
the deadline has been reached, or there is no new client. -/
inductive LoopEnds (c : Context) (channel : ScenarioM ρ Client) (deadline : Instant) (most : Nat)
    (trace : List Iteration) (b : Bench ρ) (s : SoakState) :
    Except Halt SoakState × Bench ρ → Prop
  | finished (h : trace.length = most ∨ deadline ≤ b.session.moment.now) :
      LoopEnds c channel deadline most trace b s (.ok s, b)
  | unconnected {f : Fatal} {b' : Bench ρ} (hmore : trace.length < most)
      (hearly : b.session.moment.now < deadline) (hreset : c.soak.resetChannel = true)
      (hchannel : channel b = (.error (.fatal f), b')) :
      LoopEnds c channel deadline most trace b s (.error (.fatal f), b')

/-- **Where the loop ends.** -/
theorem Connects.soaks (h : Connects channel) (c : Context) (deadline : Instant) (left : Nat)
    (s : SoakState) {b : Bench ρ} (hs : b.session.Scripted) :
    ∃ trace b', Soaks c channel deadline s.done b trace b' ∧ trace.length ≤ left ∧
      Undisturbed b b' ∧
      (∀ i ∈ trace, AnsweredInTime deadline i.begun i.ended b.session.lag
        (∃ reason, i.answer = .error reason)) ∧
      LoopEnds c channel deadline left trace b' (s.countAll c.soak trace)
        (soakLoop c channel deadline left s b) := by
  induction left generalizing s b with
  | zero => exact ⟨[], b, .none _ b, Nat.le_refl _, ⟨hs, rfl, rfl⟩, nofun, .finished (Or.inl rfl)⟩
  | succ left ih =>
      by_cases hlate : deadline ≤ b.session.moment.now
      · rw [soakLoop_of_late hlate]
        exact ⟨[], b, .none _ b, Nat.zero_le _, ⟨hs, rfl, rfl⟩, nofun, .finished (Or.inr hlate)⟩
      have hearly : b.session.moment.now < deadline := Nat.not_le.mp hlate
      rcases h.iterates (c := c) hs hearly s.done with
        ⟨i, b₁, hiterates, hkept, htimely⟩ | ⟨hreset, f, b', hchannel⟩
      · obtain ⟨trace, b', hsoaks, hlength, hkept', htimely', hends⟩ :=
          ih (s.count (i.result c.soak) i.latency) hkept.scripted
        rw [hkept.lag] at htimely'
        rw [hiterates.loop]
        refine ⟨i :: trace, b', .more hiterates hsoaks, Nat.succ_le_succ hlength,
          hkept.trans hkept', List.forall_mem_cons.mpr ⟨htimely, htimely'⟩, ?_⟩
        generalize soakLoop c channel deadline left _ b₁ = ended at hends
        cases hends with
        | finished hover => exact .finished (hover.imp_left (congrArg Nat.succ))
        | unconnected hmore hearly' hreset hchannel =>
            exact .unconnected (Nat.succ_lt_succ hmore) hearly' hreset hchannel
      · rw [soakLoop_of_unconnected hearly hreset hchannel]
        exact ⟨[], b, .none _ b, Nat.zero_le _, ⟨hs, rfl, rfl⟩, nofun,
          .unconnected (Nat.succ_pos _) hearly hreset hchannel⟩

/-! ## The verdict -/

/-- A check leaves everything alone but for the error that it reports. -/
theorem check_apply (condition : Bool) (message : String) (b : Bench Recorder) :
    check condition message b = (.ok (), { b with reporter :=
      if condition then b.reporter else b.reporter.record .error message }) := by
  unfold check
  cases condition <;> rfl

/-- The mark of failure is not changed by a success. -/
theorem success_apply (message : String) (b : Bench Recorder) :
    ∃ b', success message b = (.ok (), b') ∧ b'.reporter.failed = b.reporter.failed := by
  refine ⟨_, rfl, ?_⟩
  dsimp only
  cases hfailed : b.reporter.failed with
  | true => simp only [if_true, Recorder.record, hfailed, Bool.true_or]
  | false => simp [Recorder.record, hfailed]

section Verdict

variable {channel : ScenarioM Recorder Client} {b b' : Bench Recorder}

/-- **A soak whose loop is over ends well**, and it marks a failure where an iteration is missing or
too many of them failed. -/
theorem soakThrough_of_over {s : SoakState}
    (hdeadline : b.session.moment.now.later? c.soak.overallTimeout = some deadline)
    (hloop : soakLoop c channel deadline c.soak.iterations .start b = (.ok s, b'))
    {text : String} (hrender : s.histogram.render = .ok text)
    (hunfailed : b'.reporter.failed = false) :
    ∃ b'', soakThrough c channel b = (.ok (), b'') ∧ (b''.reporter.failed = false ↔
      c.soak.iterations ≤ s.done ∧ s.failures ≤ c.soak.maxFailures) := by
  have hchecked : (checked s.histogram.render : ScenarioM Recorder String) b' = (.ok text, b') := by
    rw [hrender]
    rfl
  have hlog : ∀ line, (log line : ScenarioM Recorder Unit) b' =
      (.ok (), { b' with log := b'.log ++ [line] }) := fun _ => rfl
  unfold soakThrough
  rw [bind_of_ok (now_apply b), hdeadline]
  dsimp only
  rw [bind_of_ok hloop, bind_of_ok hchecked, bind_of_ok (hlog _), bind_of_ok (check_apply _ _ _),
    bind_of_ok (check_apply _ _ _)]
  obtain ⟨b'', hsuccess, hmark⟩ := success_apply "successful soak" _
  refine ⟨b'', hsuccess, ?_⟩
  rw [hmark]
  by_cases hall : c.soak.iterations ≤ s.done <;>
    by_cases hfew : s.failures ≤ c.soak.maxFailures <;>
      simp [hall, hfew, hunfailed, Recorder.record]

/-- A soak without a new client ends there. -/
theorem soakThrough_of_unconnected {f : Fatal}
    (hdeadline : b.session.moment.now.later? c.soak.overallTimeout = some deadline)
    (hloop : soakLoop c channel deadline c.soak.iterations .start b = (.error (.fatal f), b')) :
    soakThrough c channel b = (.error (.fatal f), b') := by
  unfold soakThrough
  rw [bind_of_ok (now_apply b), hdeadline]
  dsimp only
  rw [bind_of_error hloop]

end Verdict

/-! ## New connections -/

/-- What is said when there is no new connection. -/
def unconnectedMessage : String :=
  "couldn't create a new channel: couldn't reconnect: transport error"

/-- A way to new clients that connects to the server of a client.  Calls go on meanwhile.  Where the
server cannot be reached, that is reported, and it ends the scenario. -/
structure ConnectsTo (client : Client) (channel : ScenarioM Recorder Client) : Prop where
  reached : client.reachable = true → ∀ b,
    channel b = (.ok client, { b with session := b.session.settle })
  unreached : client.reachable = false → ∀ b,
    channel b = (.error (.fatal ⟨unconnectedMessage⟩), { b with
      session := b.session.settle, reporter := b.reporter.record .fatal unconnectedMessage })

/-- A new channel is a new connection. -/
theorem connectsTo_newChannel (client : Client) : ConnectsTo client (newChannel client) := by
  have hconnect : ∀ b, (onSession client.reconnect : ScenarioM Recorder _) b =
      (.ok (if client.reachable then .ok client else .error "couldn't reconnect: transport error"),
        { b with session := b.session.settle }) := fun _ => rfl
  constructor
  · intro hreachable b
    rw [newChannel, bind_of_ok (hconnect b), if_pos hreachable]
    rfl
  · intro hunreachable b
    rw [newChannel, bind_of_ok (hconnect b), hunreachable]
    rfl

/-- It gives a client and disturbs nothing, or it ends the scenario. -/
theorem ConnectsTo.connects {client : Client} {channel : ScenarioM Recorder Client}
    (h : ConnectsTo client channel) : Connects channel := by
  intro b hs
  cases hreachable : client.reachable with
  | true => exact Or.inl ⟨_, _, h.reached hreachable b, hs.settle, Session.lag_beginAll _ _, rfl⟩
  | false => exact Or.inr ⟨_, _, h.unreached hreachable b⟩

/-- **Without a server a soak that renews its client ends at its first iteration**, which is
reported and nothing else. -/
theorem soak_of_unreachable {b : Bench Recorder}
    (hdeadline : b.session.moment.now.later? c.soak.overallTimeout = some deadline)
    (hearly : b.session.moment.now < deadline) (hsome : 0 < c.soak.iterations)
    (hreset : c.soak.resetChannel = true) (hunreachable : c.client.reachable = false) :
    soak c b = (.error (.fatal ⟨unconnectedMessage⟩), { b with
      session := b.session.settle, reporter := b.reporter.record .fatal unconnectedMessage }) := by
  have hchannel := (connectsTo_newChannel c.client).unreached hunreachable b
  obtain ⟨left, hleft⟩ : ∃ left, c.soak.iterations = left + 1 := Nat.exists_eq_add_one.mpr hsome
  refine soakThrough_of_unconnected hdeadline ?_
  rw [hleft]
  exact soakLoop_of_unconnected hearly hreset hchannel left .start

/-- The soak as a scenario. -/
def soakScenario (info : ScenarioInfo) (channel : ScenarioM Recorder Client) :
    Scenario Recorder :=
  ⟨info, fun c => soakThrough c channel⟩

/-- A bench as a run hands it to a scenario. -/
def handed (info : ScenarioInfo) (b : Bench Recorder) : Bench Recorder :=
  { b with reporter := Reporter.begin info.name b.reporter }

/-- How a soak ends behind its iterations and how a run reports it. -/
inductive SoakEnds (c : Context) (channel : ScenarioM Recorder Client) (info : ScenarioInfo)
    (deadline : Instant) (trace : List Iteration) (s : SoakState) (b b₁ : Bench Recorder) : Prop
  /-- All iterations have been run or the deadline has been reached. It ends well, and passes if
  no iteration is missing and not too many failed. -/
  | judged {b₂ b₃ : Bench Recorder} {outcome : ScenarioOutcome}
      (hover : trace.length = c.soak.iterations ∨ deadline ≤ b₁.session.moment.now)
      (hloop : soakLoop c channel deadline c.soak.iterations .start (handed info b) = (.ok s, b₁))
      (hends : soakThrough c channel (handed info b) = (.ok (), b₂))
      (houtcome : runOne c (soakScenario info channel) b = (.ok outcome, b₃))
      (hpassed : outcome.passed = true ↔
        c.soak.iterations ≤ s.done ∧ s.failures ≤ c.soak.maxFailures)
  /-- There is no new client. It ends at once with that failure. -/
  | unconnected {f : Fatal} {b₂ b₃ : Bench Recorder} {outcome : ScenarioOutcome}
      (hmore : trace.length < c.soak.iterations) (hearly : b₁.session.moment.now < deadline)
      (hreset : c.soak.resetChannel = true) (hchannel : channel b₁ = (.error (.fatal f), b₂))
      (hends : soakThrough c channel (handed info b) = (.error (.fatal f), b₂))
      (houtcome : runOne c (soakScenario info channel) b = (.ok outcome, b₃))
      (hfailed : outcome.passed = false)

/-- The end of the loop decides how the soak ends. -/
theorem soakEnds_of_loopEnds {channel : ScenarioM Recorder Client} (info : ScenarioInfo)
    {b b₁ : Bench Recorder} {trace : List Iteration} {s : SoakState} {text : String}
    (hdeadline : b.session.moment.now.later? c.soak.overallTimeout = some deadline)
    (hreporter : b₁.reporter = (handed info b).reporter) (hrender : s.histogram.render = .ok text)
    (h : LoopEnds c channel deadline c.soak.iterations trace b₁ s
      (soakLoop c channel deadline c.soak.iterations .start (handed info b))) :
    SoakEnds c channel info deadline trace s b b₁ := by
  have hstarted : (handed info b).session.moment.now.later? c.soak.overallTimeout =
      some deadline := hdeadline
  generalize hloop : soakLoop c channel deadline c.soak.iterations .start (handed info b) = ended
    at h
  cases h with
  | finished hover =>
      have hunfailed : b₁.reporter.failed = false := by
        rw [hreporter]
        rfl
      obtain ⟨b₂, hends, hpassed⟩ := soakThrough_of_over hstarted hloop hrender hunfailed
      have houtcome : runOne c (soakScenario info channel) b =
          (.ok (outcomeOf info none b₂.reporter.failed), cleared b₂) := by
        rw [handed] at hends
        simp only [runOne, soakScenario, hends]
        rfl
      refine .judged hover hloop hends houtcome (Iff.trans ?_ hpassed)
      cases b₂.reporter.failed with
      | true => exact ⟨nofun, nofun⟩
      | false => exact ⟨fun _ => rfl, fun _ => rfl⟩
  | @unconnected f b₂ hmore hearly hreset hchannel =>
      have hends := soakThrough_of_unconnected hstarted hloop
      have houtcome : runOne c (soakScenario info channel) b =
          (.ok (outcomeOf info (some f) true), cleared b₂) := by
        rw [handed] at hends
        simp only [runOne, soakScenario, hends]
      exact .unconnected hmore hearly hreset hchannel hends houtcome rfl

/-- Between two scenarios there are no calls, so none that a soak could wait for. -/
theorem scripted_cleared [Reporter ρ] (b : Bench ρ) : (cleared b).session.Scripted := by
  intro id
  show ((b.session.slots.map fun _ => Slot.vacant).getD id .vacant).Scripted _
  rw [List.getD_map b.session.slots Slot.vacant fun _ => Slot.vacant]
  trivial

/-- **The counters and the verdict of a soak.**  Whatever the server does and however long a new
connection takes, the loop ends behind some iterations, no more than are wanted and none of them
entered at the overall deadline or after it.  Its counters say how many there were, how many of them
failed or took longer than they may, from their client on, and how long each took.  Every call is
answered at the latest when the timer of the deadline fires, and then it has failed.  If there was
always a client, the soak ends well, and it passes if no iteration is missing and no more failed
than may; and if there is no new client, it ends at once with that failure.  A new client is there
exactly if the server can be reached, so without a server no iteration is run. -/
theorem soak_is_counted_and_judged :
    (∀ c : Context, (soak c : ScenarioM Recorder Unit) = soakThrough c (newChannel c.client) ∧
      ConnectsTo c.client (newChannel c.client) ∧
      Connects (newChannel c.client : ScenarioM Recorder Client)) ∧
    (∀ (c : Context) (b : Bench Recorder) (deadline : Instant),
      b.session.moment.now.later? c.soak.overallTimeout = some deadline →
      b.session.moment.now < deadline → 0 < c.soak.iterations → c.soak.resetChannel = true →
      c.client.reachable = false →
        soak c b = (.error (.fatal ⟨unconnectedMessage⟩), { b with
          session := b.session.settle,
          reporter := b.reporter.record .fatal unconnectedMessage })) ∧
    (∀ (server : Backend) (b : Bench Recorder),
      (Session.start server).Scripted ∧ (cleared b).session.Scripted) ∧
    ∀ (c : Context) (channel : ScenarioM Recorder Client) (info : ScenarioInfo)
      (b : Bench Recorder) (deadline : Instant), Connects channel → b.session.Scripted →
      b.session.moment.now.later? c.soak.overallTimeout = some deadline →
      ∃ trace s b₁, Soaks c channel deadline 0 (handed info b) trace b₁ ∧
        trace.length ≤ c.soak.iterations ∧ Counts c.soak trace s ∧
        (∀ i ∈ trace, i.entered < deadline ∧
          AnsweredInTime deadline i.begun i.ended b.session.lag
            (∃ reason, i.answer = .error reason)) ∧
        SoakEnds c channel info deadline trace s b b₁ := by
  refine ⟨fun c => ⟨rfl, connectsTo_newChannel c.client,
      (connectsTo_newChannel c.client).connects⟩,
    fun c b deadline => soak_of_unreachable,
    fun server b => ⟨Session.scripted_start server, scripted_cleared b⟩, ?_⟩
  intro c channel info b deadline hchannel hs hdeadline
  obtain ⟨trace, b₁, hsoaks, hlength, hkept, htimely, hends⟩ :=
    hchannel.soaks c deadline c.soak.iterations .start (b := handed info b) hs
  have hcounts := counts_countAll c.soak trace
  obtain ⟨text, hrender⟩ : ∃ text,
      (SoakState.start.countAll c.soak trace).histogram.render = .ok text := by
    have hextends := Histogram.extends_addAll (Histogram.linear 20 1 0) (by decide)
      (trace.map fun i => latencyMillis i.latency)
    rw [← hcounts.histogram] at hextends
    exact Histogram.render_ok hextends.min hextends.width (by rw [hextends.length]; decide)
  exact ⟨trace, _, b₁, hsoaks, hlength, hcounts,
    fun i hi => ⟨hsoaks.entered i hi, htimely i hi⟩,
    soakEnds_of_loopEnds info hdeadline hkept.reporter hrender hends⟩

namespace SoakSample

/-- A server that answers its first call and refuses the others. -/
def server : Backend :=
  .scripted [("UnaryCall",
    [{ steps := [.reply (.simple { payload := some ⟨Payload.compressable, [0, 0, 0]⟩ })] },
      { refusal := some ⟨.unavailable, "gone", [], .empty⟩ }])]

/-- Two iterations with a new client each, one of which may fail. -/
def context : Context :=
  { client := ⟨{}, true⟩
    sizes := { Sizes.extended with largeRequest := 2, largeResponse := 3 }
    soak :=
      { resetChannel := true, iterations := 2, maxFailures := 1, overallTimeout := .ofSecs 10 }
    network := ⟨none⟩ }

def info : ScenarioInfo := ⟨"soak", .diagnostic, []⟩

def bench : Bench Recorder := ⟨{}, .start server, []⟩

end SoakSample

open SoakSample in
/-- One iteration succeeds and one fails, which is as many as may. -/
theorem sampleSoak_passes :
    ∃ trace s b₁ outcome b',
      Soaks context (newChannel context.client) ⟨10000000000⟩ 0 (handed info bench) trace b₁ ∧
        Counts context.soak trace s ∧ s.done = 2 ∧ s.failures = 1 ∧
        runOne context ⟨info, soak⟩ bench = (.ok outcome, b') ∧ outcome.passed = true := by
  obtain ⟨hsoak, -, hscripted, hruns⟩ := soak_is_counted_and_judged
  obtain ⟨-, hconnects, hconnected⟩ := hsoak context
  obtain ⟨trace, s, b₁, hsoaks, -, hcounts, -, hends⟩ :=
    hruns context (newChannel context.client) info bench ⟨10000000000⟩ hconnected
      (hscripted server bench).1 (by decide)
  have hstate : (soakLoop context (newChannel context.client) ⟨10000000000⟩ 2 .start
      (handed info bench)).1 = .ok ⟨2, 1, (Histogram.linear 20 1 0).addAll [0, 0]⟩ := by
    decide +kernel
  cases hends with
  | judged _ hloop _ houtcome hpassed =>
      have hs : s = ⟨2, 1, (Histogram.linear 20 1 0).addAll [0, 0]⟩ :=
        Except.ok.inj ((congrArg Prod.fst hloop).symm.trans hstate)
      have henough : context.soak.iterations ≤ s.done ∧ s.failures ≤ context.soak.maxFailures := by
        rw [hs]
        decide
      exact ⟨trace, s, b₁, _, _, hsoaks, hcounts, by rw [hs], by rw [hs], houtcome,
        hpassed.mpr henough⟩
  | unconnected _ _ _ hchannel =>
      rw [hconnects.reached rfl] at hchannel
      cases hchannel

end Scenarios

end RpcConformance
