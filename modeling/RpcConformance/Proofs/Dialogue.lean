import RpcConformance.Proofs.ClientSide
import RpcConformance.Proofs.PacedOutput
import RpcConformance.Service.Duplex

/-!
# What a conversation answers

A conversation answers request by request, each with all of its responses, up to the first one
that fails.  This *dialogue* is a recursion on the requests and knows nothing of polls, pauses
or inboxes.  Both conversations follow it; they differ in when they begin.

## Main results

* `followed_turn` — what one poll for the responses to a request can do.
* `conversation_append`, `conversation_of_failure` — a dialogue goes on with the requests
  behind those that have been answered, and stops at one that fails.
-/

namespace RpcConformance

/-! ## One request -/

/-- What is wrong with a parameter: its size is looked at before its interval. -/
def ResponseParameters.fault? (p : ResponseParameters) : Option Status :=
  if p.size < 0 then some (.invalidArgument
    ("requested a negative payload size: " ++ Decimal.signedText p.size))
  else if p.intervalMicros < 0 then some (.invalidArgument
    ("requested a negative interval: " ++ Decimal.signedText p.intervalMicros))
  else none

theorem ResponseParameters.fault?_of_answerable {p : ResponseParameters} (h : p.Answerable) :
    p.fault? = none := by
  obtain ⟨hsize, hinterval⟩ := h
  rw [fault?, if_neg (by omega), if_neg (by omega)]

theorem ParameterFault.fault?_eq {p : ResponseParameters} {st : Status}
    (h : ParameterFault p st) : p.fault? = some st := by
  cases h with
  | size hsize => rw [ResponseParameters.fault?, if_pos hsize]
  | interval hsize hinterval =>
      rw [ResponseParameters.fault?, if_neg (by omega), if_pos hinterval]

namespace StreamingOutputRequest

/-- What is wrong with a request: its payload type, or else the first of its parameters that
cannot be answered. -/
def fault? (r : StreamingOutputRequest) : Option Status :=
  if r.responseType ≠ Payload.compressable then some (.invalidArgument
    ("unsupported payload type: " ++ Decimal.signedText r.responseType))
  else r.parameters.findSome? ResponseParameters.fault?

/-- The status that a request asks for; the code zero asks for none. -/
def asked? (r : StreamingOutputRequest) : Option Status :=
  (r.responseStatus.filter fun e => e.code ≠ 0).map fun e =>
    ⟨Code.ofNumber e.code, e.message, [], .empty⟩

/-- The responses to a request: none where it is refused. -/
def responses (r : StreamingOutputRequest) : List Item :=
  if r.fault? = none then r.parameters.map fun p => .response p.payload else []

/-- How a request fails: it is refused, or it asks for a status. -/
def failure? (r : StreamingOutputRequest) : Option Status := r.fault?.or r.asked?

variable {r : StreamingOutputRequest}

theorem fault?_of_answerable (h : Answerable r.responseType r.parameters) :
    r.fault? = none := by
  rw [fault?, if_neg (not_not.mpr h.1), List.findSome?_eq_none_iff]
  exact fun p hp => ResponseParameters.fault?_of_answerable (h.2 p hp)

theorem fault?_of_fault {st : Status} (h : RequestFault r.responseType r.parameters st) :
    r.fault? = some st := by
  cases h with
  | kind hkind => rw [fault?, if_pos hkind]
  | parameter hkind hsplit hbefore hfault =>
      rw [fault?, if_neg (not_not.mpr hkind), hsplit, List.findSome?_append,
        List.findSome?_eq_none_iff.mpr fun q hq =>
          ResponseParameters.fault?_of_answerable (hbefore q hq),
        Option.none_or, List.findSome?_cons, hfault.fault?_eq]

/-- The service reads the status that is asked for in the same way. -/
theorem requestedStatus?_eq_asked? (r : StreamingOutputRequest) :
    requestedStatus? r.responseStatus = r.asked? := by
  unfold asked? requestedStatus?
  cases r.responseStatus with
  | none => rfl
  | some e => by_cases hcode : e.code = 0 <;> simp [Option.filter, hcode]

/-- A request asks for the status whose number and message it has, unless the number is zero. -/
theorem asked?_eq_some_iff {st : Status} : r.asked? = some st ↔
    ∃ e, r.responseStatus = some e ∧ e.code ≠ 0 ∧
      st = ⟨Code.ofNumber e.code, e.message, [], .empty⟩ := by
  rw [asked?, Option.map_eq_some_iff]
  refine exists_congr fun e => ?_
  rw [Option.filter_eq_some_iff, decide_eq_true_eq, and_assoc, eq_comm (a := st)]

theorem responses_of_answerable (h : Answerable r.responseType r.parameters) :
    r.responses = r.parameters.map fun p => .response p.payload := by
  rw [responses, if_pos (fault?_of_answerable h)]

theorem failure?_eq_asked? (h : Answerable r.responseType r.parameters) :
    r.failure? = r.asked? := by
  rw [failure?, fault?_of_answerable h, Option.none_or]

theorem failure?_of_answerable (h : Answerable r.responseType r.parameters) :
    r.failure? = requestedStatus? r.responseStatus := by
  rw [failure?_eq_asked? h, requestedStatus?_eq_asked?]

theorem responses_of_fault {st : Status} (h : RequestFault r.responseType r.parameters st) :
    r.responses = [] := by
  rw [responses, if_neg (by simp [fault?_of_fault h])]

theorem failure?_of_fault {st : Status} (h : RequestFault r.responseType r.parameters st) :
    r.failure? = some st := by
  rw [failure?, fault?_of_fault h, Option.some_or]

/-- What comes of a request, as its fields say it. -/
theorem refused_or_answered :
    (∀ st, RequestFault r.responseType r.parameters st →
      r.responses = [] ∧ r.failure? = some st) ∧
    (Answerable r.responseType r.parameters →
      (r.responses = r.parameters.map fun p => .response p.payload) ∧
      ∀ st, r.failure? = some st ↔ ∃ e, r.responseStatus = some e ∧ e.code ≠ 0 ∧
        st = ⟨Code.ofNumber e.code, e.message, [], .empty⟩) := by
  refine ⟨fun st hfault => ⟨responses_of_fault hfault, failure?_of_fault hfault⟩, ?_⟩
  intro hanswerable
  refine ⟨responses_of_answerable hanswerable, fun st => ?_⟩
  rw [failure?_eq_asked? hanswerable]
  exact asked?_eq_some_iff

end StreamingOutputRequest

/-! ## The whole conversation -/

/-- Answers the requests in order, up to the first one that fails; what closes the conversation
comes when none has failed. -/
def conversation (closing : List Item) : List StreamingOutputRequest → List Item
  | [] => closing
  | r :: rest =>
    r.responses ++ match r.failure? with
      | some st => [.failed st]
      | none => conversation closing rest

section Conversation

variable {closing : List Item} {earlier rest : List StreamingOutputRequest}
  {r : StreamingOutputRequest}

theorem conversation_append (hearlier : ∀ q ∈ earlier, q.failure? = none) :
    conversation closing (earlier ++ rest) =
      earlier.flatMap StreamingOutputRequest.responses ++ conversation closing rest := by
  induction earlier with
  | nil => rfl
  | cons q earlier ih =>
      have hq : q.failure? = none := hearlier q List.mem_cons_self
      rw [List.cons_append, conversation, hq, List.flatMap_cons, List.append_assoc]
      rw [ih fun p hp => hearlier p (List.mem_cons_of_mem q hp)]

theorem conversation_of_unfailing (hearlier : ∀ q ∈ earlier, q.failure? = none) :
    conversation closing earlier =
      earlier.flatMap StreamingOutputRequest.responses ++ closing := by
  have happend : conversation closing (earlier ++ []) =
      earlier.flatMap StreamingOutputRequest.responses ++ conversation closing [] :=
    conversation_append hearlier
  rwa [List.append_nil] at happend

theorem unfailing_concat (hearlier : ∀ q ∈ earlier, q.failure? = none)
    (hr : r.failure? = none) : ∀ q ∈ earlier ++ [r], q.failure? = none := by
  intro q hq
  rcases List.mem_append.mp hq with hq | hq
  · exact hearlier q hq
  · rw [List.mem_singleton.mp hq]
    exact hr

/-- A request that fails ends the conversation, whatever comes behind it. -/
theorem conversation_of_failure {st : Status} (hearlier : ∀ q ∈ earlier, q.failure? = none)
    (hr : r.failure? = some st) :
    conversation closing (earlier ++ r :: rest) =
      earlier.flatMap StreamingOutputRequest.responses ++ (r.responses ++ [.failed st]) := by
  rw [conversation_append hearlier, conversation, hr]

end Conversation

namespace InputEnd

/-- What the end of the input adds to a conversation that has answered everything. -/
def closing : InputEnd → List Item
  | .ongoing => []
  | e =>
    match e.failure? with
    | some st => [.failed st]
    | none => [.finished]

theorem closing_of_failure {e : InputEnd} {st : Status} (h : e.failure? = some st) :
    e.closing = [.failed st] := by
  cases e with
  | failed own => simp only [closing, h]
  | ongoing => cases h
  | closed => cases h

theorem closing_of_over {e : InputEnd} (hover : e ≠ .ongoing) (h : e.failure? = none) :
    e.closing = [.finished] := by
  cases e with
  | failed own => simp only [closing, h]
  | ongoing => exact absurd rfl hover
  | closed => rfl

end InputEnd

namespace ClientSide

/-- What has been asked for so far, in a conversation that answers at once. -/
def dialogue (c : ClientSide StreamingOutputRequest) : List Item :=
  conversation c.ending.closing c.requests

/-- What has been asked for so far, in one that answers at the end of its input; an input that
fails is not answered. -/
def replay (c : ClientSide StreamingOutputRequest) : List Item :=
  match c.ending with
  | .ongoing => []
  | e =>
    match e.failure? with
    | some st => [.failed st]
    | none => conversation [.finished] c.requests

/-- A conversation that answers at once has its end. -/
def Settled (c : ClientSide StreamingOutputRequest) : Prop :=
  c.ending ≠ .ongoing ∨ ∃ q ∈ c.requests, q.failure? ≠ none

theorem replay_of_ongoing {c : ClientSide StreamingOutputRequest} (h : c.ending = .ongoing) :
    c.replay = [] := by
  unfold replay
  rw [h]

theorem replay_of_failure {c : ClientSide StreamingOutputRequest} {st : Status}
    (h : c.ending.failure? = some st) : c.replay = [.failed st] := by
  rcases c with ⟨requests, _ | _ | own⟩
  · cases h
  · cases h
  · dsimp only at h
    simp only [replay, h]

/-- Both conversations give the same for an input that ends. -/
theorem replay_eq_dialogue {c : ClientSide StreamingOutputRequest} (hover : c.ending ≠ .ongoing)
    (hno : c.ending.failure? = none) : c.replay = c.dialogue := by
  rw [dialogue, InputEnd.closing_of_over hover hno]
  rcases c with ⟨requests, _ | _ | st⟩
  · exact absurd rfl hover
  · rfl
  · dsimp only at hno
    simp only [replay, hno]

end ClientSide

/-! ## The responses to one request -/

section Followed

variable {scope : Scope} {r : StreamingOutputRequest} {now : Instant} {given : List Item}
  {s : OutputStream}

/-- A request is being answered: what has been given of its responses, and the stream that
gives the rest. -/
inductive Followed (scope : Scope) (r : StreamingOutputRequest) (now : Instant) :
    List Item → OutputStream → Prop
  | refused {st : Status} (hfault : RequestFault r.responseType r.parameters st) :
      Followed scope r now [] (.forRequest scope r)
  | live {done left : List ResponseParameters} {last : Instant} {phase : OutputPhase}
      (hanswerable : Answerable r.responseType r.parameters)
      (hsplit : r.parameters = done ++ left) (hlast : last ≤ now)
      (hphase : OutputStream.Pausable last now left phase) :
      Followed scope r now (done.map fun p => .response p.payload)
        ⟨scope, Payload.compressable, left, requestedStatus? r.responseStatus, phase⟩

theorem followed_start (scope : Scope) (r : StreamingOutputRequest) (now : Instant) :
    Followed scope r now [] (.forRequest scope r) := by
  rcases answerable_or_fault r.responseType r.parameters with hanswerable | ⟨st, hfault⟩
  · have hkind : r.responseType = Payload.compressable := hanswerable.1
    rw [OutputStream.forRequest, hkind]
    exact @Followed.live scope r now [] r.parameters now .unchecked hanswerable rfl
      (Instant.le_refl now) .unchecked
  · exact .refused hfault

theorem Followed.isPrefix (h : Followed scope r now given s) : given <+: r.responses := by
  cases h with
  | refused hfault => exact List.nil_prefix
  | live hanswerable hsplit hlast hphase =>
      rw [StreamingOutputRequest.responses_of_answerable hanswerable, hsplit, List.map_append]
      exact List.prefix_append _ _

theorem Followed.mono {later : Instant} (h : Followed scope r now given s)
    (hlater : now ≤ later) : Followed scope r later given s := by
  cases h with
  | refused hfault => exact .refused hfault
  | live hanswerable hsplit hlast hphase =>
      exact .live hanswerable hsplit (Instant.le_trans hlast hlater) (hphase.mono hlater)

/-- A stream waits in a pause of one of the parameters of its request. -/
def PausedIn (r : StreamingOutputRequest) (now : Instant) (s : OutputStream) : Prop :=
  ∃ begun p, p ∈ r.parameters ∧ begun ≤ now ∧ s.parameters ≠ [] ∧
    s.phase = .pausing (.racing (.until (begun.later p.interval)))

/-- **What one poll for the responses to a request can do**, in an untriggered scope: it
waits in a pause, it gives the next response, or all have been given and the request fails, or
ends, as it asks for. -/
theorem followed_turn {m : Moment} (huntriggered : scope.failure? m = none)
    (h : Followed scope r m.now given s) :
    (∃ s', s.turn m = .waiting s' ∧ Followed scope r m.now given s' ∧ PausedIn r m.now s') ∨
    (∃ p s', s.turn m = .ready (.response p, s') ∧
      Followed scope r m.now (given ++ [.response p]) s') ∨
    (∃ st s', s.turn m = .ready (.failed st, s') ∧ r.failure? = some st ∧
      r.responses = given) ∨
    (∃ s', s.turn m = .ready (.finished, s') ∧ r.failure? = none ∧ r.responses = given) := by
  cases h with
  | @refused st hfault =>
      have hturn : (OutputStream.forRequest scope r).turn m =
          .ready ((OutputStream.forRequest scope r).failWith st) := by
        simp only [OutputStream.turn, OutputStream.forRequest, OutputStream.start,
          admitRequest_of_fault hfault]
      exact Or.inr (Or.inr (Or.inl ⟨st, _, hturn,
        StreamingOutputRequest.failure?_of_fault hfault,
        StreamingOutputRequest.responses_of_fault hfault⟩))
  | @live done left last phase hanswerable hsplit hlast hphase =>
      have hmem : ∀ p ∈ left, p ∈ r.parameters :=
        fun p hp => hsplit ▸ List.mem_append_right done hp
      have hleft : Answerable Payload.compressable left :=
        ⟨rfl, fun p hp => hanswerable.2 p (hmem p hp)⟩
      have hresponses := StreamingOutputRequest.responses_of_answerable hanswerable
      have hfailure := StreamingOutputRequest.failure?_of_answerable hanswerable
      obtain ⟨pause, hturn, hpause⟩ := OutputStream.turn_of_pausable scope
        (requestedStatus? r.responseStatus) hphase hleft hlast
      rw [hturn]
      cases left with
      | nil =>
          rw [List.append_nil] at hsplit
          rw [OutputStream.advance_nil rfl, hfailure, hresponses, hsplit]
          dsimp only
          cases requestedStatus? r.responseStatus with
          | some st => exact Or.inr (Or.inr (Or.inl ⟨st, _, rfl, rfl, rfl⟩))
          | none => exact Or.inr (Or.inr (Or.inr ⟨_, rfl, rfl, rfl⟩))
      | cons p rest =>
          obtain ⟨begun, hbegun, hnow, hdue⟩ := hpause p rest rfl
          have hsize : 0 ≤ p.size := (hleft.2 p List.mem_cons_self).1
          rcases OutputStream.advance_cons (s := ⟨scope, Payload.compressable, p :: rest,
            requestedStatus? r.responseStatus, phase⟩) rfl rfl hsize pause m with
            ⟨st, htriggered, _⟩ | ⟨_, _, hadvance⟩ | ⟨_, _, hadvance⟩
          · rw [show scope.failure? m = some st from htriggered] at huntriggered
            cases huntriggered
          · rw [hadvance]
            refine Or.inr (Or.inl ⟨p.payload, _, rfl, ?_⟩)
            have hsplit' : r.parameters = (done ++ [p]) ++ rest := by
              rw [hsplit, List.append_assoc, List.singleton_append]
            have hnext := @Followed.live scope r m.now (done ++ [p]) rest m.now .idle
              hanswerable hsplit' (Instant.le_refl m.now) .idle
            rwa [List.map_append] at hnext
          · rw [hadvance, hdue]
            refine Or.inl ⟨_, rfl, ?_, ?_⟩
            · exact .live hanswerable hsplit hlast (.pausing rfl hbegun hnow)
            · exact ⟨begun, p, hmem p List.mem_cons_self, hnow, by simp, rfl⟩

/-- Time for the longest pause is followed by an item that is not the end. -/
theorem turn_of_pausedIn {m m' : Moment} (h : PausedIn r m.now s)
    (hlong : ∀ p ∈ r.parameters, m.now.nanos + p.interval.nanos + 999999 ≤ m'.now.nanos) :
    ∃ i s', s.turn m' = .ready (i, s') ∧ i ≠ .finished := by
  obtain ⟨begun, p, hp, hbegun, hleft, hphase⟩ := h
  have hfired : Instant.fired (begun.later p.interval) m'.now = true := by
    apply Instant.fired_of_later
    have hpast : begun.nanos ≤ m.now.nanos := hbegun
    have hgap := hlong p hp
    show begun.nanos + p.interval.nanos + 999999 ≤ m'.now.nanos
    omega
  obtain ⟨i, s', hadvance, hitem⟩ := OutputStream.advance_of_fired s
    (g := .racing (.until (begun.later p.interval))) hfired
  refine ⟨i, s', ?_, hitem hleft⟩
  simp only [OutputStream.turn, hphase]
  exact hadvance

end Followed

end RpcConformance
