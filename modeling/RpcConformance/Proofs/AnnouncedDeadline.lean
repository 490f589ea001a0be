import RpcConformance.Proofs.EchoValues

/-!
# Deadlines on their way to the server

A client with a deadline announces the time that is left, in place of any timeout among its
options, and the server counts that time from the instant at which the call arrives.  Writing a
timeout only shortens it, so the server's deadline is at most the client's, and it is earlier by at
most a hundred-thousandth of the time left.  A deadline that has passed leaves no time at all.
Without a deadline the options are sent as they are, and the first timeout among them counts.

Options are built by steps, of which only those that attach a text can touch the timeout header:
a binary value has a key that ends otherwise.

## Main results

* `timeouts_of_build` — the timeouts among some options are those that were attached.
* `Scope.announced_of_texts` — a server reads the first of the texts it is sent.
* `deadline_reaches_server` — the server's deadline, with and without one of the client's.
-/

namespace RpcConformance

/-! ## Building options -/

/-- A step in which options are built. -/
inductive OptionStep
  | ascii (key value : String)
  /-- A binary value, under a key that ends in `-bin`. -/
  | binary (stem : String) (value : List UInt8)
  | scope (s : Scope)

/-- The texts that some steps attach as timeouts. -/
def OptionStep.timeouts (steps : List OptionStep) : List String :=
  steps.filterMap fun
    | ascii key value => if key = Timeout.header then some value else none
    | _ => none

namespace CallOptions

/-- Options after a step; a text that may not travel is refused. -/
def step (o : CallOptions) : OptionStep → Except AsciiValueError CallOptions
  | .ascii key value => o.withAscii key value
  | .binary stem value => .ok (o.withBinary (stem ++ "-bin") value)
  | .scope s => .ok (o.withScope s)

/-- Options after some steps. -/
def build (o : CallOptions) : List OptionStep → Except AsciiValueError CallOptions
  | [] => .ok o
  | a :: rest => (o.step a).bind fun o => o.build rest

end CallOptions

/-- A binary key is never that of the timeout. -/
theorem binaryKey_ne_header (stem : String) : stem ++ "-bin" ≠ Timeout.header := by
  intro h
  have hlast : (stem ++ "-bin").toList.getLast? = Timeout.header.toList.getLast? := by rw [h]
  have hbin : "-bin".toList.getLast? = some 'n' := by decide
  rw [String.toList_append, List.getLast?_append, hbin, Option.some_or] at hlast
  exact absurd hlast (by decide)

/-- The timeouts that a step adds travel as they are. -/
theorem CallOptions.timeouts_of_step {o o' : CallOptions} {a : OptionStep}
    (h : o.step a = .ok o') :
    o'.metadata.getAll Timeout.header =
        o.metadata.getAll Timeout.header ++ (OptionStep.timeouts [a]).map HeaderValue.ofText ∧
      ∀ s ∈ OptionStep.timeouts [a], HeaderValue.ofAscii s = .ok (.ofText s) := by
  cases a with
  | ascii key value =>
      obtain ⟨hascii, rfl⟩ := withAscii_eq_ok h
      by_cases hkey : key = Timeout.header
      · subst hkey
        have htimeouts : OptionStep.timeouts [.ascii Timeout.header value] = [value] := rfl
        rw [htimeouts]
        refine ⟨Metadata.getAll_append_self _ _ _, fun s hs => ?_⟩
        rw [List.mem_singleton.mp hs]
        exact hascii
      · have htimeouts : OptionStep.timeouts [.ascii key value] = [] := by
          simp [OptionStep.timeouts, hkey]
        rw [htimeouts, List.map_nil, List.append_nil]
        exact ⟨Metadata.getAll_append_of_ne _ _ hkey, nofun⟩
  | binary stem value =>
      cases h
      have hsame := Metadata.getAll_append_of_ne o.metadata (.ofBinary value)
        (binaryKey_ne_header stem)
      exact ⟨hsame.trans (List.append_nil _).symm, nofun⟩
  | scope s =>
      cases h
      exact ⟨(List.append_nil _).symm, nofun⟩

/-- **The timeouts among some options are those that were attached**, in order, behind those that
were there. -/
theorem CallOptions.timeouts_of_build {o o' : CallOptions} {steps : List OptionStep}
    (h : o.build steps = .ok o') :
    o'.metadata.getAll Timeout.header =
        o.metadata.getAll Timeout.header ++ (OptionStep.timeouts steps).map HeaderValue.ofText ∧
      ∀ s ∈ OptionStep.timeouts steps, HeaderValue.ofAscii s = .ok (.ofText s) := by
  induction steps generalizing o with
  | nil =>
      cases h
      exact ⟨(List.append_nil _).symm, nofun⟩
  | cons a rest ih =>
      simp only [build] at h
      cases hstep : o.step a with
      | error e => rw [hstep] at h; cases h
      | ok o₁ =>
          rw [hstep] at h
          obtain ⟨hfirst, hfirstText⟩ := timeouts_of_step hstep
          obtain ⟨hrest, hrestText⟩ := ih h
          have hsplit : OptionStep.timeouts (a :: rest) =
              OptionStep.timeouts [a] ++ OptionStep.timeouts rest := by
            rw [OptionStep.timeouts, OptionStep.timeouts, OptionStep.timeouts,
              ← List.filterMap_append, List.singleton_append]
          rw [hsplit]
          constructor
          · rw [hrest, hfirst, List.map_append, List.append_assoc]
          · intro s hs
            rcases List.mem_append.mp hs with hs | hs
            · exact hfirstText s hs
            · exact hrestText s hs

/-! ## What a server makes of a timeout -/

/-- **A server reads the first of the texts it is sent.** -/
theorem Scope.announced_of_texts {md : Metadata} {values : List String}
    (hvalues : md.getAll Timeout.header = values.map HeaderValue.ofText)
    (htext : ∀ s ∈ values, HeaderValue.ofAscii s = .ok (.ofText s)) :
    Scope.announced md = values.head?.bind Timeout.parse := by
  cases values with
  | nil => rw [announced, Metadata.get?, hvalues]; rfl
  | cons first rest =>
      have hread : (HeaderValue.ofText first).text? = some first :=
        HeaderValue.text?_of_ofAscii (htext first List.mem_cons_self)
      rw [announced, Metadata.get?, hvalues, List.map_cons, List.head?_cons, Option.bind_some,
        hread]
      rfl

/-- With a deadline the only timeout of a request is the time that is left. -/
theorem CallOptions.request_of_deadline {o : CallOptions} {m : Moment} {deadline : Instant}
    (h : o.scope.deadline = some deadline) :
    o.requestMetadata m = o.metadata.insert Timeout.header
      (.ofText (Timeout.encode (deadline.since m.now))) := by
  have hleft : o.scope.remaining m = some (deadline.since m.now) := by
    rw [Scope.remaining, h]
    rfl
  rw [requestMetadata, hleft]

theorem CallOptions.request_of_unlimited {o : CallOptions} {m : Moment}
    (h : o.scope.deadline = none) : o.requestMetadata m = o.metadata := by
  have hleft : o.scope.remaining m = none := by
    rw [Scope.remaining, h]
    rfl
  rw [requestMetadata, hleft]

/-! ## Deadlines -/

/-- What is left of the time until a deadline, counted from the instant at which it was measured, is
at most the deadline, or that instant where the deadline had passed. -/
theorem Instant.later_written_le (deadline now : Instant) :
    (now.later (Timeout.written (deadline.since now))).nanos ≤ max deadline.nanos now.nanos := by
  have hle : (Timeout.written (deadline.since now)).nanos ≤ deadline.nanos - now.nanos :=
    Timeout.written_le (deadline.since now)
  show now.nanos + (Timeout.written (deadline.since now)).nanos ≤ max deadline.nanos now.nanos
  omega

theorem Instant.later_written_close {deadline now : Instant}
    (h : deadline.since now < Timeout.hours 100000000) :
    100000 * (max deadline.nanos now.nanos -
        (now.later (Timeout.written (deadline.since now))).nanos) ≤
      max deadline.nanos now.nanos - now.nanos := by
  have hle : (Timeout.written (deadline.since now)).nanos ≤ deadline.nanos - now.nanos :=
    Timeout.written_le (deadline.since now)
  have hclose : 100000 * (deadline.nanos - now.nanos -
      (Timeout.written (deadline.since now)).nanos) ≤ deadline.nanos - now.nanos :=
    Timeout.written_close h
  show 100000 * (max deadline.nanos now.nanos -
      (now.nanos + (Timeout.written (deadline.since now)).nanos)) ≤
    max deadline.nanos now.nanos - now.nanos
  omega

/-- What is read as a timeout is less than a hundred million hours, so it can be added to an instant
that is as long before the end of the clock. -/
theorem Instant.later?_of_parse {now : Instant} {s : String} {d : Duration}
    (hparse : Timeout.parse s = some d)
    (hroom : (now.later? (Timeout.hours 100000000)).isSome = true) :
    now.later? d = some (now.later d) := by
  have hshort : d.nanos ≤ (Timeout.hours 100000000).nanos := by
    obtain ⟨n, u, hn, rfl⟩ := Timeout.counts_of_parse hparse
    exact Nat.mul_le_mul (Nat.le_succ_of_le hn) u.nanos_le_hour
  have hend : (now.later (Timeout.hours 100000000)).nanos / 1000000000 < secondsLimit := by
    unfold later? at hroom
    dsimp only at hroom
    split at hroom
    · assumption
    · cases hroom
  have hless : (now.later d).nanos / 1000000000 ≤
      (now.later (Timeout.hours 100000000)).nanos / 1000000000 :=
    Nat.div_le_div_right (Nat.add_le_add_left hshort now.nanos)
  exact if_pos (Nat.lt_of_le_of_lt hless hend)

/-- The server's deadline lies the announced timeout after the instant of the call. -/
theorem Scope.deadline_ofMetadata {md : Metadata} {now received : Instant} {token : Token} :
    (Scope.ofMetadata md now token).deadline = some received ↔
      ∃ d, Scope.announced md = some d ∧ received = now.later d := by
  show (Scope.announced md).map now.later = some received ↔ _
  rw [Option.map_eq_some_iff]
  exact exists_congr fun d => and_congr_right fun _ => eq_comm

/-- **What a deadline is for the server.**  Whatever steps have built the options, a request with a
deadline carries exactly one timeout, and the server's deadline is at most the client's, or the
instant of the call where the client's had passed; for less than a hundred million hours it is
earlier by at most a hundred-thousandth of the time left.  Without a deadline the options are sent
as they are, and the server has a deadline exactly when the first timeout among them is well
formed, that much after the instant of the call.  The sum is an instant of the clock unless the
clock has less than a hundred million hours to go. -/
theorem deadline_reaches_server {own : Token} {steps : List OptionStep} {o : CallOptions}
    (hbuilt : CallOptions.build ⟨.empty, none, own⟩ steps = .ok o) (m : Moment) (token : Token) :
    ∃ md, o.request m = .ok md ∧
      (∀ deadline, o.scope.deadline = some deadline →
        ∃ v received, md.getAll Timeout.header = [v] ∧
          (Scope.ofMetadata md m.now token).deadline = some received ∧
          received.nanos ≤ max deadline.nanos m.now.nanos ∧
          (deadline.since m.now < Timeout.hours 100000000 →
            100000 * (max deadline.nanos m.now.nanos - received.nanos) ≤
              max deadline.nanos m.now.nanos - m.now.nanos)) ∧
      (o.scope.deadline = none →
        md = o.metadata ∧
        md.getAll Timeout.header = (OptionStep.timeouts steps).map HeaderValue.ofText ∧
        ∀ received, (Scope.ofMetadata md m.now token).deadline = some received ↔
          ∃ first rest digits unit, OptionStep.timeouts steps = first :: rest ∧
            Timeout.Spells first digits unit ∧
            received = m.now.later ⟨Decimal.value digits * unit.nanos⟩) ∧
      (∀ d, Scope.announced md = some d → (m.now.later? (Timeout.hours 100000000)).isSome = true →
        m.now.later? d = (Scope.ofMetadata md m.now token).deadline) := by
  obtain ⟨hvalues, htext⟩ := CallOptions.timeouts_of_build hbuilt
  refine ⟨o.requestMetadata m, o.request_eq m, ?_, ?_, ?_⟩
  · intro deadline hdeadline
    have hmd := CallOptions.request_of_deadline (m := m) hdeadline
    have hsingle : (o.requestMetadata m).getAll Timeout.header =
        [Timeout.encode (deadline.since m.now)].map HeaderValue.ofText := by
      rw [hmd, Metadata.getAll_insert_self]
      rfl
    have hannounced : Scope.announced (o.requestMetadata m) =
        some (Timeout.written (deadline.since m.now)) := by
      rw [Scope.announced_of_texts hsingle ?_]
      · exact Timeout.parse_encode _
      · intro s hs
        rw [List.mem_singleton.mp hs]
        exact Timeout.ofAscii_encode _
    exact ⟨_, _, hsingle, Scope.deadline_ofMetadata.mpr ⟨_, hannounced, rfl⟩,
      Instant.later_written_le deadline m.now, Instant.later_written_close⟩
  · intro hdeadline
    have hmd := CallOptions.request_of_unlimited (m := m) hdeadline
    have hown : (o.requestMetadata m).getAll Timeout.header =
        (OptionStep.timeouts steps).map HeaderValue.ofText := by
      rw [hmd, hvalues, Metadata.getAll_empty, List.nil_append]
    refine ⟨hmd, hown, fun received => ?_⟩
    rw [Scope.deadline_ofMetadata, Scope.announced_of_texts hown htext]
    constructor
    · rintro ⟨d, hd, rfl⟩
      obtain ⟨first, hfirst, hparse⟩ := Option.bind_eq_some_iff.mp hd
      obtain ⟨rest, htimeouts⟩ := List.head?_eq_some_iff.mp hfirst
      obtain ⟨digits, unit, hspells, rfl⟩ := Timeout.parse_eq_some_iff.mp hparse
      exact ⟨first, rest, digits, unit, htimeouts, hspells, rfl⟩
    · rintro ⟨first, rest, digits, unit, htimeouts, hspells, rfl⟩
      refine ⟨_, ?_, rfl⟩
      rw [htimeouts, List.head?_cons, Option.bind_some]
      exact Timeout.parse_eq_some_iff.mpr ⟨digits, unit, hspells, rfl⟩
  · intro d hd hroom
    obtain ⟨v, hv, hparse⟩ := Option.bind_eq_some_iff.mp hd
    rw [Instant.later?_of_parse hparse hroom]
    exact (Scope.deadline_ofMetadata.mpr ⟨d, hd, rfl⟩).symm

namespace DeadlineSample

/-- Two timeouts among the options of a call whose deadline is a second and a half away. -/
def steps : List OptionStep :=
  [.ascii Timeout.header "5S", .binary "key" [1, 2], .scope ⟨some ⟨1750000321⟩, 7⟩,
    .ascii Timeout.header "soon"]

/-- The options that these steps build. -/
def options : CallOptions :=
  ⟨⟨[(Timeout.header, .ofText "5S"), ("key-bin", .ofBinary [1, 2]),
    (Timeout.header, .ofText "soon")]⟩, ⟨some ⟨1750000321⟩, 7⟩⟩

/-- The call is opened a quarter of a second after the start. -/
def moment : Moment := ⟨⟨250000000⟩, []⟩

end DeadlineSample

open DeadlineSample in
theorem sampleOptions_deadline :
    CallOptions.build ⟨.empty, none, 0⟩ steps = .ok options ∧
      ∃ md v received, options.request moment = .ok md ∧
        md.getAll Timeout.header = [v] ∧
        (Scope.ofMetadata md moment.now 1).deadline = some received ∧
        received.nanos ≤ 1750000321 ∧ 100000 * (1750000321 - received.nanos) ≤ 1500000321 := by
  have hbuilt : CallOptions.build ⟨.empty, none, 0⟩ steps = .ok options := by rfl
  obtain ⟨md, hmd, hdeadline, -⟩ := deadline_reaches_server hbuilt moment 1
  obtain ⟨v, received, hsingle, hreceived, hle, hclose⟩ := hdeadline ⟨1750000321⟩ rfl
  exact ⟨hbuilt, md, v, received, hmd, hsingle, hreceived, hle, hclose (by decide)⟩

end RpcConformance
