import RpcConformance.Proofs.EchoValues
import RpcConformance.Proofs.PeerTurns
import RpcConformance.Proofs.SessionFrame
import RpcConformance.Proofs.StreamItems

/-!
# The parts of a call that echoes

A call that echoes goes through two states.  Before its first part the server is about to send
headers with the leading values, or to refuse the call with a status that carries both lists.
After the headers every end of the call carries the trailing values, which the trailers layer
puts there, and every message is one that is asked for.  The second state is kept by everything
that can happen to a call, as long as the requests ask for no other messages, and what the client
learns in it is either of the server's making or the client's own refusal of such a message that
is too long.

## Main results

* `Peer.begun_handle` — a method that echoes begins in the first state.
* `Call.Echoing.step` — the second state is kept by every step of a call.
* `Call.Begun.advance` — the first thing that a client learns leads from the first state to the
  second, or is a refusal with both lists.
-/

namespace RpcConformance

variable {e : Echo} {compressed : Bool} {asked : Reply → Prop}

/-- The methods that echo. -/
def Invocation.Echoes : Invocation → Prop
  | unaryCall _ => True
  | cacheableUnaryCall _ => True
  | streamingOutputCall _ => True
  | fullDuplexCall => True
  | halfDuplexCall => True
  | _ => False

/-! ## What is asked for -/

/-- The response to a simple request: as many zero bytes as it asks for, and who has answered,
where it wants to know. -/
def ReferenceServer.reply (server : ReferenceServer) (r : SimpleRequest) : Reply :=
  .simple ⟨some ⟨Payload.compressable, List.replicate r.responseSize.toNat 0⟩,
    if r.fillServerId then server.serverId else "",
    if r.fillServerId then server.hostname else ""⟩

/-- The messages that a call asks for as it begins. -/
inductive ReferenceServer.Asked (server : ReferenceServer) : Invocation → Reply → Prop
  | unary (r : SimpleRequest) : server.Asked (.unaryCall r) (server.reply r)
  | cacheable (r : SimpleRequest) : server.Asked (.cacheableUnaryCall r) (server.reply r)
  | output {r : StreamingOutputRequest} {p : ResponseParameters} (h : p ∈ r.parameters) :
      server.Asked (.streamingOutputCall r) p.reply

/-- The messages that a request of an open stream asks for. -/
inductive Request.Asks : Request → Reply → Prop
  | output {r : StreamingOutputRequest} {p : ResponseParameters} (h : p ∈ r.parameters) :
      Request.Asks (.output r) p.reply

theorem Request.within_toOutput {q : Request} (h : ∀ m, q.Asks m → asked m) :
    q.toOutput.Within asked := by
  cases q with
  | input r => exact fun p hp => absurd hp List.not_mem_nil
  | output r => exact fun p hp => h _ (.output hp)

/-! ## Parts and events -/

/-- Headers that carry the leading values, and none of the transport's own. -/
structure Echo.HeadersIn (e : Echo) (headers : Metadata) : Prop where
  leading : e.LeadingIn headers
  status : headers.get? Status.codeKey = none
  encoding : headers.get? Status.encodingKey = none

/-- Metadata with both lists of a call. -/
structure Echo.BothIn (e : Echo) (md : Metadata) : Prop where
  leading : e.LeadingIn md
  trailing : e.TrailingIn md

theorem Echo.headersIn_headers (e : Echo) : e.HeadersIn (e.addHeaders .empty) :=
  ⟨leadingIn_headers e, headers_get? (by decide), headers_get? (by decide)⟩

/-- A part behind the headers: a message that is asked for and that the client can read, or an
end with the trailing values. -/
def ResponsePart.Echoing (e : Echo) (asked : Reply → Prop) (invocation : Invocation) :
    ResponsePart → Prop
  | .message m => asked m ∧ ∃ m', invocation.read m = .ok m'
  | .trailers st => e.TrailingIn st.metadata
  | _ => False

/-- The client's own end of a call with a message that was asked for and is too long. -/
inductive Overlong (compressed : Bool) (asked : Reply → Prop) : Status → Prop
  | refused {m : Reply} (hasked : asked m) (hplain : compressed = false)
      (hlong : maxMessageLength < m.encodedLength) :
      Overlong compressed asked (tooLong m.encodedLength)

/-- What the client learns after the headers: a message, an end with the trailing values, or an
end of its own. -/
inductive Event.Echoing (e : Echo) (compressed : Bool) (asked : Reply → Prop) : Event → Prop
  | message (r : Reply) : Event.Echoing e compressed asked (.message r)
  | ended {st : Status} (h : e.TrailingIn st.metadata) :
      Event.Echoing e compressed asked (.ended st)
  | overlong {st : Status} (h : Overlong compressed asked st) :
      Event.Echoing e compressed asked (.ended st)

/-- A message that is short enough, or travels compressed, is not refused. -/
theorem not_overlong {compressed : Bool} {length : Nat}
    (h : compressed = true ∨ length ≤ maxMessageLength) :
    (!compressed && decide (maxMessageLength < length)) = false := by
  rcases h with hcompressed | hshort
  · rw [hcompressed]
    rfl
  · rw [decide_eq_false (Nat.not_lt.mpr hshort), Bool.and_false]

namespace Reception

variable {r : Reception}

theorem ofHeaders?_headers {headers : Metadata} (h : e.HeadersIn headers) :
    Status.ofHeaders? headers = none := by
  rw [Status.ofHeaders?, h.status]
  rfl

theorem events_headers {headers : Metadata} (h : e.HeadersIn headers) :
    r.events (.headers headers) = [.opened headers] := by
  have hunreadable : Status.unreadable? r.compressed headers = none := by
    rw [Status.unreadable?, h.encoding]
  simp only [events, hunreadable, ofHeaders?_headers h]

theorem after_headers (hsettled : r.settled = false) {headers : Metadata}
    (h : e.HeadersIn headers) : r.after (.headers headers) = r := by
  show { r with settled := (Status.ofHeaders? headers).isSome } = r
  rw [ofHeaders?_headers h, Option.isSome_none, ← hsettled]

theorem events_refusal {st : Status} (h : st.code ≠ .ok) :
    r.events (.refusal st) = [.ended st.delivered] := by
  simp only [events, Status.delivered_code_ne_ok h, if_false]

theorem events_trailers (hsettled : r.settled = false) (st : Status) :
    r.events (.trailers st) = [.ended st.delivered] := by
  simp only [events, hsettled]
  rfl

/-- A message that is not refused is read as one of the method's own type. -/
theorem events_short {m m' : Reply}
    (hread : r.invocation.read m = .ok m')
    (hfits : r.compressed = true ∨ m.encodedLength ≤ maxMessageLength) :
    r.events (.message m) = [.message m'] := by
  simp only [events, not_overlong hfits, hread]
  rfl

/-- The end of a success without trailers. -/
theorem events_success (hsettled : r.settled = false) :
    r.events (.trailers .success) = [.ended .success] := by
  have hdelivered : Status.success.delivered = Status.success := by decide +kernel
  rw [events_trailers hsettled, hdelivered]

/-- A message of the right type is read, or is too long. -/
theorem events_message {m m' : Reply} (hasked : asked m)
    (hread : r.invocation.read m = .ok m') :
    r.events (.message m) = [.message m'] ∨
      ∃ st, r.events (.message m) = [.ended st] ∧ Overlong r.compressed asked st := by
  by_cases hlong : r.compressed = false ∧ maxMessageLength < m.encodedLength
  · refine Or.inr ⟨tooLong m.encodedLength, ?_, .refused hasked hlong.1 hlong.2⟩
    simp only [events, hlong, Bool.not_false, decide_true, Bool.and_self, if_true]
  · have hfits : r.compressed = true ∨ m.encodedLength ≤ maxMessageLength := by
      rw [not_and, Nat.not_lt] at hlong
      cases hcompressed : r.compressed with
      | true => exact Or.inl rfl
      | false => exact Or.inr (hlong hcompressed)
    exact Or.inl (events_short hread hfits)

theorem after_echoing {part : ResponsePart} (h : part.Echoing e asked r.invocation) :
    r.after part = r := by
  cases part with
  | headers md => exact h.elim
  | message m => rfl
  | trailers st => rfl
  | refusal st => rfl

theorem events_echoing {part : ResponsePart} (hsettled : r.settled = false)
    (h : part.Echoing e asked r.invocation) :
    ∀ event ∈ r.events part, event.Echoing e r.compressed asked := by
  cases part with
  | headers md => exact h.elim
  | refusal st => exact h.elim
  | trailers st =>
      rw [events_trailers hsettled]
      intro event hevent
      rw [List.mem_singleton.mp hevent]
      exact .ended (Status.trailingIn_delivered h)
  | message m =>
      obtain ⟨hasked, m', hread⟩ := h
      intro event hevent
      rcases events_message hasked hread with hmessage | ⟨st, hended, hlong⟩
      · rw [hmessage] at hevent
        rw [List.mem_singleton.mp hevent]
        exact .message m'
      · rw [hended] at hevent
        rw [List.mem_singleton.mp hevent]
        exact .overlong hlong

end Reception

/-! ## The server's side -/

/-- The trailers layer delivers the trailing values that a method has left with its response. -/
theorem Echo.getAll_undelivered {α : Type} (e : Echo) (message : α) (key : String) :
    ((e.respond message).undelivered.getD .empty).getAll key =
      (e.addTrailers .empty).getAll key := by
  rw [Response.getAll_undelivered, pendingTrailers_respond]

theorem Echo.trailingIn_undelivered {α : Type} (e : Echo) (message : α) :
    e.TrailingIn ((e.respond message).undelivered.getD .empty) := by
  rw [TrailingIn, getAll_undelivered]
  exact e.trailingIn_trailers

/-- Trailers that are plain have the trailing values once the pending ones stand behind them. -/
theorem Echo.TrailingIn.joined {pending : Option Metadata}
    (h : e.TrailingIn (pending.getD .empty)) : e.TrailingIn (Metadata.empty.joined pending) := by
  rw [TrailingIn, Metadata.getAll_joined, Metadata.getAll_empty, List.nil_append]
  exact h

/-- The parts of a single response with echoes. -/
theorem Echo.single_respond (e : Echo) (m : Reply) :
    Peer.single (e.respond m) = [.headers (e.addHeaders .empty), .message m,
      .trailers { Status.success with
        metadata := Metadata.empty.joined (e.respond m).undelivered }] :=
  Peer.single_eq _

/-- The responses of a stream can be read. -/
def Invocation.ReadsOutputs (invocation : Invocation) : Prop :=
  ∀ p, ∃ m, invocation.read (.output p) = .ok m

namespace Peer

/-- The server's side behind the headers. -/
inductive Echoing (e : Echo) (asked : Reply → Prop) (invocation : Invocation) : Peer → Prop
  | replying {parts : List ResponsePart} (h : ∀ part ∈ parts, part.Echoing e asked invocation) :
      Echoing e asked invocation (.replying parts)
  | streaming {s : ResponseStream} {inbox : Inbox StreamingOutputRequest}
      {pending : Option Metadata} (hreads : invocation.ReadsOutputs) (hs : s.Proper asked)
      (hinbox : inbox.Proper (·.Within asked)) (hpending : e.TrailingIn (pending.getD .empty)) :
      Echoing e asked invocation (.streaming none s inbox pending)

/-- The server's side before its first part. -/
inductive Begun (e : Echo) (asked : Reply → Prop) (invocation : Invocation) : Peer → Prop
  | answering {headers : Metadata} {parts : List ResponsePart} (hheaders : e.HeadersIn headers)
      (h : ∀ part ∈ parts, part.Echoing e asked invocation) :
      Begun e asked invocation (.replying (.headers headers :: parts))
  | refusing {st : Status} (hcode : st.code ≠ .ok) (h : e.BothIn st.metadata) :
      Begun e asked invocation (.replying [.refusal st])
  | streaming {headers : Metadata} {s : ResponseStream} {inbox : Inbox StreamingOutputRequest}
      {pending : Option Metadata} (hheaders : e.HeadersIn headers)
      (h : Echoing e asked invocation (.streaming none s inbox pending)) :
      Begun e asked invocation (.streaming (some headers) s inbox pending)

variable {invocation : Invocation} {p : Peer} {pending : Option Metadata}

/-- What an item of a proper stream becomes carries the trailing values at the end. -/
theorem echoing_part (hreads : invocation.ReadsOutputs)
    (hpending : e.TrailingIn (pending.getD .empty)) {i : Item} (h : i.Proper asked) :
    (i.part pending).Echoing e asked invocation := by
  cases i with
  | response payload => exact ⟨h, hreads (some payload)⟩
  | finished => exact hpending.joined
  | failed st =>
      have hplain : st.metadata = .empty := h
      show e.TrailingIn (st.metadata.joined pending)
      rw [hplain]
      exact hpending.joined

theorem echoing_afterItem (hreads : invocation.ReadsOutputs)
    (hpending : e.TrailingIn (pending.getD .empty)) {s : ResponseStream}
    {inbox : Inbox StreamingOutputRequest} (i : Item) (hs : s.Proper asked)
    (hinbox : inbox.Proper (·.Within asked)) :
    (afterItem s inbox pending i).Echoing e asked invocation := by
  cases i with
  | response payload => exact .streaming hreads hs hinbox hpending
  | failed st => exact .replying nofun
  | finished => exact .replying nofun

/-- Behind the headers the server waits, or sends a part that echoes. -/
theorem Echoing.turn (h : p.Echoing e asked invocation) (now : Instant) :
    (∃ p', p.turn now = .waiting p' ∧ p'.Echoing e asked invocation) ∨
      ∃ part p', p.turn now = .ready (some part, p') ∧ part.Echoing e asked invocation ∧
        p'.Echoing e asked invocation := by
  cases h with
  | @replying parts hparts =>
      cases parts with
      | nil => exact Or.inl ⟨_, rfl, .replying hparts⟩
      | cons part rest =>
          exact Or.inr ⟨part, .replying rest, rfl, hparts part (List.mem_cons_self ..),
            .replying fun q hq => hparts q (List.mem_cons_of_mem _ hq)⟩
  | @streaming s inbox pending hreads hs hinbox hpending =>
      obtain ⟨hpoll, hleft⟩ :=
        ResponseStream.proper_turn (w := ⟨Peer.moment now, inbox⟩) hs hinbox
      rw [turn_streaming]
      rcases hturn : s.turn ⟨Peer.moment now, inbox⟩ with ⟨⟨i, s'⟩ | s', w'⟩ <;>
        rw [hturn] at hpoll hleft <;> cases hpoll
      · rename_i hi hs'
        exact Or.inr ⟨_, _, rfl, echoing_part hreads hpending hi,
          echoing_afterItem hreads hpending i hs' hleft⟩
      · rename_i hs'
        exact Or.inl ⟨_, rfl, .streaming hreads hs' hleft hpending⟩

/-- A request behind the headers that asks for nothing else changes nothing about the echoes. -/
theorem Echoing.push (h : p.Echoing e asked invocation) {q : Request}
    (hq : ∀ m, q.Asks m → asked m) : (p.push compressed q).Echoing e asked invocation := by
  cases h with
  | replying hparts => exact .replying hparts
  | streaming hreads hs hinbox hpending =>
      refine .streaming hreads hs (Inbox.proper_push hinbox ?_) hpending
      unfold arrival
      split
      · exact Request.within_toOutput hq
      · unfold Arrival.limited
        dsimp only
        split
        · rfl
        · exact Request.within_toOutput hq

theorem Echoing.close (h : p.Echoing e asked invocation) :
    p.close.Echoing e asked invocation := by
  cases h with
  | replying hparts => exact .replying hparts
  | streaming hreads hs hinbox hpending => exact .streaming hreads hs hinbox hpending

end Peer

/-! ## How the methods begin -/

/-- No number but zero is that of a success. -/
theorem Code.ofNumber_ne_ok {n : Int} (h : n ≠ 0) : Code.ofNumber n ≠ .ok := by
  have hfailures : ∀ c ∈ Code.all.tail, c ≠ .ok := by decide
  cases n with
  | negSucc k => exact nofun
  | ofNat k =>
      cases k with
      | zero => exact absurd rfl h
      | succ k =>
          show Code.all.tail.getD k .unknown ≠ .ok
          rw [List.getD_eq_getElem?_getD]
          cases hc : Code.all.tail[k]? with
          | none => exact nofun
          | some c => exact hfailures c (List.mem_of_getElem? hc)

theorem requestedStatus?_code {s : Option EchoStatus} {st : Status}
    (h : requestedStatus? s = some st) : st.code ≠ .ok := by
  unfold requestedStatus? at h
  split at h
  · split at h
    · cases h
    · rename_i hnumber
      cases h
      exact Code.ofNumber_ne_ok hnumber
  · cases h

/-- What a method that echoes does with a call. -/
inductive EchoedHandling (e : Echo) (asked : Reply → Prop) (invocation : Invocation) :
    Handling → Prop
  | refused {st : Status} (hcode : st.code ≠ .ok) (hplain : st.Plain) :
      EchoedHandling e asked invocation (.refused (e.fail st))
  | answered {r : Reply} (hasked : asked r) (hread : invocation.read r = .ok r) :
      EchoedHandling e asked invocation (.answered (e.respond r))
  | streaming {s : ResponseStream} (hreads : invocation.ReadsOutputs) (hs : s.Proper asked) :
      EchoedHandling e asked invocation (.streaming (e.respond s))

namespace ReferenceServer

variable (server : ReferenceServer) (md : Metadata)

/-- A simple request is answered with the response that it asks for. -/
theorem answerSimple_eq {r : SimpleRequest} {response : SimpleResponse}
    (h : server.answerSimple r = .ok response) : .simple response = server.reply r := by
  unfold answerSimple at h
  split at h
  · cases h
  · rename_i payload hpayload
    cases h
    rw [reply, eq_of_zeros hpayload]
    cases r.fillServerId <;> rfl

theorem echoed_unaryCall (r : SimpleRequest) (hasked : asked (server.reply r))
    {invocation : Invocation}
    (hread : ∀ response, invocation.read (.simple response) = .ok (.simple response)) :
    EchoedHandling (Echo.ofMetadata md) asked invocation (server.unaryCall md r) := by
  unfold unaryCall
  dsimp only
  split
  · rename_i st hrequested
    exact .refused (requestedStatus?_code hrequested) (requestedStatus?_plain hrequested)
  · split
    · rename_i st hrefused
      unfold answerSimple at hrefused
      split at hrefused
      · rename_i error hzeros
        cases hrefused
        exact .refused (by cases error <;> exact nofun) error.plain_toStatus
      · cases hrefused
    · rename_i response hresponse
      rw [← server.answerSimple_eq hresponse] at hasked
      exact .answered hasked (hread response)

theorem echoed_streamingOutputCall (now : Instant) (token : Token)
    {r : StreamingOutputRequest} (hasked : r.Within asked) :
    EchoedHandling (Echo.ofMetadata md) asked (.streamingOutputCall r)
      (streamingOutputCall md now token r) := by
  unfold streamingOutputCall
  dsimp only
  split
  · rename_i st hrefused
    have hfault := admitRequest_error_iff.mp hrefused
    refine .refused ?_ hfault.plain
    rw [hfault.code]
    exact nofun
  · exact .streaming (fun p => ⟨_, rfl⟩) (OutputStream.proper_forRequest _ hasked)

/-- **Every method that echoes** refuses with a plain status and both lists, answers with a
message that is asked for and that the client can read, or opens a proper stream of responses. -/
theorem echoed_handle {invocation : Invocation} (h : invocation.Echoes)
    (hasked : ∀ m, server.Asked invocation m → asked m) (now : Instant) (token : Token) :
    EchoedHandling (Echo.ofMetadata md) asked invocation
      (server.handle invocation md now token) := by
  cases invocation with
  | unaryCall r => exact echoed_unaryCall server md r (hasked _ (.unary r)) fun _ => rfl
  | cacheableUnaryCall r => exact echoed_unaryCall server md r (hasked _ (.cacheable r)) fun _ => rfl
  | streamingOutputCall r =>
      exact echoed_streamingOutputCall md now token fun p hp => hasked _ (.output hp)
  | fullDuplexCall => exact .streaming (fun p => ⟨_, rfl⟩) trivial
  | halfDuplexCall =>
      exact .streaming (fun p => ⟨_, rfl⟩) fun r hr => absurd hr List.not_mem_nil
  | emptyCall => exact h.elim
  | failUnaryCall r => exact h.elim
  | unimplementedCall => exact h.elim
  | failStreamingOutputCall r => exact h.elim
  | unimplementedStreamingOutputCall => exact h.elim
  | streamingInputCall => exact h.elim

/-- A method with a single response opens no stream. -/
theorem handle_ne_streaming {invocation : Invocation} (h : invocation.shape = .unary)
    (now : Instant) (token : Token) (r : Response ResponseStream) :
    server.handle invocation md now token ≠ .streaming r := by
  have hunary : ∀ q, server.unaryCall md q ≠ .streaming r := by
    intro q
    unfold unaryCall
    dsimp only
    split
    · exact nofun
    · split <;> exact nofun
  cases invocation with
  | unaryCall q => exact hunary q
  | cacheableUnaryCall q => exact hunary q
  | emptyCall => exact nofun
  | failUnaryCall q => exact nofun
  | unimplementedCall => exact nofun
  | _ => cases h

end ReferenceServer

/-- A method that echoes begins before its headers. -/
theorem Peer.begun_ofHandling {invocation : Invocation} {handling : Handling}
    (h : EchoedHandling e asked invocation handling) (sums : Inbox StreamingInputRequest)
    {outputs : Inbox StreamingOutputRequest} (houtputs : outputs.Proper (·.Within asked)) :
    (Peer.ofHandling sums outputs handling).Begun e asked invocation := by
  cases h with
  | refused hcode hplain =>
      exact .refusing hcode ⟨(Echo.carried_fail hplain).1, (Echo.carried_fail hplain).2⟩
  | @answered r hasked hread =>
      show (Peer.replying (single (e.respond r))).Begun e asked invocation
      rw [Echo.single_respond]
      refine .answering e.headersIn_headers ?_
      intro part hpart
      simp only [List.mem_cons, List.not_mem_nil, or_false] at hpart
      rcases hpart with rfl | rfl
      · exact ⟨hasked, r, hread⟩
      · exact (e.trailingIn_undelivered r).joined
  | @streaming s hreads hs =>
      rw [ofHandling_streaming]
      exact .streaming e.headersIn_headers
        (.streaming hreads hs houtputs (e.trailingIn_undelivered s))

/-! ## A call in progress -/

namespace Call

/-- A call whose headers the client has seen. -/
structure Echoing (e : Echo) (compressed : Bool) (asked : Reply → Prop) (c : Call) : Prop where
  compression : c.reception.compressed = compressed
  settled : c.reception.settled = false
  peer : c.peer.Echoing e asked c.reception.invocation
  waiting : ∀ event ∈ c.waiting, event.Echoing e compressed asked

variable {c : Call}

theorem echoing_advanceWithin (h : c.Echoing e compressed asked) (now : Instant) (fuel : Nat) :
    (advanceWithin now fuel c).Echoing e compressed asked := by
  induction fuel generalizing c with
  | zero => exact h
  | succ fuel ih =>
      rcases h.peer.turn now with ⟨peer', hturn, hpeer⟩ | ⟨part, peer', hturn, hpart, hpeer⟩
      · simp only [advanceWithin, hturn]
        exact ⟨h.compression, h.settled, hpeer, h.waiting⟩
      · simp only [advanceWithin, hturn, Reception.after_echoing hpart]
        refine ih ⟨h.compression, h.settled, hpeer, ?_⟩
        intro event hevent
        rcases List.mem_append.mp hevent with hold | hnew
        · exact h.waiting event hold
        · rw [← h.compression]
          exact Reception.events_echoing h.settled hpart event hnew

theorem Echoing.advance (h : c.Echoing e compressed asked) (now : Instant) :
    (c.advance now).Echoing e compressed asked := by
  obtain ⟨hcompression, hsettled, hpeer, hwaiting⟩ :=
    echoing_advanceWithin h now (c.peer.work + 1)
  exact ⟨hcompression, hsettled, hpeer, hwaiting⟩

/-- Events are taken from the front. -/
theorem Echoing.take {taken left : List Event} (h : c.Echoing e compressed asked)
    (hwaiting : c.waiting = taken ++ left) :
    ({ c with waiting := left } : Call).Echoing e compressed asked := by
  refine ⟨h.compression, h.settled, h.peer, ?_⟩
  intro event hevent
  refine h.waiting event ?_
  rw [hwaiting]
  exact List.mem_append_right taken hevent

end Call

/-- A call whose headers the client has seen, as long as it has not been given up. -/
inductive Slot.Echoing (e : Echo) (compressed : Bool) (asked : Reply → Prop) : Slot → Prop
  | vacant : Slot.Echoing e compressed asked .vacant
  | live {c : Call} (h : c.Echoing e compressed asked) : Slot.Echoing e compressed asked (.live c)

/-- **What can happen to a call leaves its echoes alone**, as long as nobody feeds it. -/
theorem Slot.Echoing.step {server : Backend} {own feeds : Prop} (hfeeds : ¬feeds)
    {slot slot' : Slot} (h : slot.Echoing e compressed asked)
    (hstep : SlotStep server own feeds slot slot') : slot'.Echoing e compressed asked := by
  cases hstep with
  | goOn now c =>
      cases h with
      | live hc => exact .live (hc.advance now)
  | beginQueued => cases h
  | touched htouch =>
      cases htouch with
      | giveUp => exact .vacant
      | take _ c taken left hwaiting =>
          cases h with
          | live hc => exact .live (hc.take hwaiting)
      | push hfed => exact absurd hfed hfeeds
      | close hfed => exact absurd hfed hfeeds
      | queueRequest => cases h
      | queueEnd => cases h

theorem Slot.Echoing.evolves {server : Backend} {own feeds : Prop} {slot slot' : Slot}
    (h : slot.Echoing e compressed asked) (hfeeds : ¬feeds)
    (hevolves : Slot.Evolves server own feeds slot slot') : slot'.Echoing e compressed asked :=
  hevolves.induction (fun _ _ hstep hslot => hslot.step hfeeds hstep) h

/-- Its client may send what asks for nothing else. -/
theorem Slot.Echoing.push {c : Call} (h : (Slot.live c).Echoing e compressed asked) {q : Request}
    (hq : ∀ m, q.Asks m → asked m) : (Slot.live (c.push q)).Echoing e compressed asked := by
  cases h with
  | live hc => exact .live ⟨hc.compression, hc.settled, hc.peer.push hq, hc.waiting⟩

theorem Slot.Echoing.close {c : Call} (h : (Slot.live c).Echoing e compressed asked) :
    (Slot.live c.close).Echoing e compressed asked := by
  cases h with
  | live hc => exact .live ⟨hc.compression, hc.settled, hc.peer.close, hc.waiting⟩

/-! ## The first thing that a client learns -/

namespace Call

/-- A call whose headers the client has not seen, and whose server has sent nothing. -/
structure Begun (e : Echo) (compressed : Bool) (asked : Reply → Prop) (c : Call) : Prop where
  compression : c.reception.compressed = compressed
  settled : c.reception.settled = false
  peer : c.peer.Begun e asked c.reception.invocation
  waiting : c.waiting = []

/-- What a client finds of a call that has begun. -/
inductive Opening (e : Echo) (compressed : Bool) (asked : Reply → Prop) (c : Call) : Prop
  | opened {headers : Metadata} {rest : List Event} (hwaiting : c.waiting = .opened headers :: rest)
      (hleading : e.LeadingIn headers)
      (hrest : ({ c with waiting := rest } : Call).Echoing e compressed asked)
  | refused {st : Status} (hwaiting : c.waiting = [.ended st]) (hcode : st.code ≠ .ok)
      (hboth : e.BothIn st.metadata)

/-- Events that wait already are left in front. -/
theorem advanceWithin_waiting (now : Instant) (fuel : Nat) (front : List Event) (c : Call) :
    advanceWithin now fuel { c with waiting := front ++ c.waiting } =
      { advanceWithin now fuel c with
        waiting := front ++ (advanceWithin now fuel c).waiting } := by
  induction fuel generalizing c with
  | zero => rfl
  | succ fuel ih =>
      simp only [advanceWithin]
      rcases c.peer.turn now with ⟨_ | part, peer⟩ | peer
      · exact ih { c with peer := peer }
      · dsimp only
        rw [List.append_assoc]
        exact ih { c with
          peer := peer
          reception := c.reception.after part
          waiting := c.waiting ++ c.reception.events part }
      · rfl

variable {c : Call}

/-- Where the first part is headers with the leading values, the call is opened with them. -/
theorem opening_of_headers {headers : Metadata} {peer : Peer} {now : Instant} (fuel : Nat)
    (h : c.Begun e compressed asked) (hturn : c.peer.turn now = .ready (some (.headers headers), peer))
    (hheaders : e.HeadersIn headers) (hpeer : peer.Echoing e asked c.reception.invocation) :
    (advanceWithin now (fuel + 1) c).Opening e compressed asked := by
  have hbehind : ({ c with peer := peer, waiting := [] } : Call).Echoing e compressed asked :=
    ⟨h.compression, h.settled, hpeer, nofun⟩
  have hrest := echoing_advanceWithin hbehind now fuel
  have hcall := advanceWithin_waiting now fuel [.opened headers]
    { c with peer := peer, waiting := [] }
  rw [List.append_nil] at hcall
  simp only [advanceWithin, hturn, h.waiting, Reception.events_headers hheaders,
    Reception.after_headers h.settled hheaders, List.nil_append]
  rw [hcall]
  exact .opened rfl hheaders.leading hrest

/-- Where the first part is a refusal with both lists, that is all there is. -/
theorem opening_of_refusal {st : Status} {now : Instant} (fuel : Nat)
    (h : c.Begun e compressed asked) (hpeer : c.peer = .replying [.refusal st]) (hcode : st.code ≠ .ok)
    (hboth : e.BothIn st.metadata) : (advanceWithin now (fuel + 2) c).Opening e compressed asked := by
  simp only [advanceWithin, hpeer, Peer.turn, h.waiting, Reception.events_refusal hcode]
  exact .refused rfl (Status.delivered_code_ne_ok hcode)
    ⟨Status.leadingIn_delivered hboth.leading, Status.trailingIn_delivered hboth.trailing⟩

/-- **The first thing that a client learns** opens the call with the leading values, or refuses
it with both lists. -/
theorem Begun.advance (h : c.Begun e compressed asked) (now : Instant) :
    (c.advance now).Opening e compressed asked := by
  have hwithin : (advanceWithin now (c.peer.work + 1) c).Opening e compressed asked := by
    have hpeer := h.peer
    cases hc : c.peer with
    | scripted run inbox => rw [hc] at hpeer; cases hpeer
    | summing scope state inbox => rw [hc] at hpeer; cases hpeer
    | replying parts =>
        rw [hc] at hpeer
        cases hpeer with
        | refusing hcode hboth => exact opening_of_refusal 0 h hc hcode hboth
        | answering hheaders hparts =>
            exact opening_of_headers _ h (by rw [hc]; rfl) hheaders (.replying hparts)
    | streaming headers s inbox pending =>
        rw [hc] at hpeer
        cases hpeer with
        | streaming hheaders hbehind =>
            exact opening_of_headers _ h (by rw [hc]; rfl) hheaders hbehind
  cases hwithin with
  | opened hwaiting hleading hrest =>
      exact .opened hwaiting hleading
        ⟨hrest.compression, hrest.settled, hrest.peer, hrest.waiting⟩
  | refused hwaiting hcode hboth => exact .refused hwaiting hcode hboth

end Call

/-! ## Single responses -/

/-- What a client learns from parts, one after another. -/
def Reception.eventsOf : Reception → List ResponsePart → List Event
  | _, [] => []
  | r, part :: rest => r.events part ++ (r.after part).eventsOf rest

/-- What a client learns of a response without headers and trailers. -/
theorem Reception.eventsOf_single {r : Reception} (hsettled : r.settled = false) {m m' : Reply}
    (hread : r.invocation.read m = .ok m')
    (hfits : r.compressed = true ∨ m.encodedLength ≤ maxMessageLength) :
    r.eventsOf (Peer.single ⟨m, .empty, none⟩) =
      [.opened .empty, .message m', .ended .success] := by
  have hheaders : r.events (.headers .empty) = [.opened .empty] := rfl
  have hafter : r.after (.headers .empty) = r := by
    show { r with settled := false } = r
    rw [← hsettled]
  simp only [Peer.single_plain, Reception.eventsOf, hheaders, hafter, events_short hread hfits]
  rw [show r.after (.message m) = r from rfl, events_success hsettled]
  rfl

/-- A server that has decided on everything sends it all at once. -/
theorem Call.advanceWithin_replying (now : Instant) {fuel : Nat} {parts : List ResponsePart}
    {c : Call} (hpeer : c.peer = .replying parts) (hfuel : parts.length ≤ fuel) :
    advanceWithin now fuel c =
      { c with
        peer := .replying []
        reception := parts.foldl Reception.after c.reception
        waiting := c.waiting ++ c.reception.eventsOf parts } := by
  induction parts generalizing fuel c with
  | nil =>
      rw [Reception.eventsOf, List.append_nil, List.foldl_nil, ← hpeer]
      cases fuel with
      | zero => rfl
      | succ fuel =>
          simp only [advanceWithin, hpeer, Peer.turn]
  | cons part rest ih =>
      cases fuel with
      | zero => exact absurd hfuel (Nat.not_succ_le_zero _)
      | succ fuel =>
          simp only [advanceWithin, hpeer, Peer.turn, Reception.eventsOf]
          rw [ih rfl (Nat.le_of_succ_le_succ hfuel), List.append_assoc, List.foldl_cons]

theorem Call.waiting_advance (now : Instant) {parts : List ResponsePart} {c : Call}
    (hpeer : c.peer = .replying parts) :
    (c.advance now).waiting = c.waiting ++ c.reception.eventsOf parts := by
  have hfuel : parts.length ≤ c.peer.work + 1 := by
    rw [hpeer]
    exact Nat.le_succ _
  rw [advance, Call.advanceWithin_replying now hpeer hfuel]

/-- A success arrives as one, whatever trailing values it carries. -/
theorem Echo.delivered_success {α : Type} (e : Echo) (message : α) :
    Status.code (Status.delivered { Status.success with
      metadata := Metadata.empty.joined (e.respond message).undelivered }) = .ok := by
  have hmessage : (Metadata.empty.joined (e.respond message).undelivered).get?
      Status.messageKey = none := by
    rw [Metadata.get?, Metadata.getAll_joined, Metadata.getAll_empty, List.nil_append,
      getAll_undelivered, addTrailers, Metadata.getAll_appendAll_of_ne _ _ (by decide),
      Metadata.getAll_empty]
    rfl
  have hread : Percent.read [] = .ok "" := by decide
  simp only [Status.delivered, Status.messageHeader, Status.success, hmessage, if_true]
  rw [show ((none : Option HeaderValue).map (·.bytes)).getD [] = [] from rfl, hread]

/-- The result of a call with a single response: a response with the leading values in its
headers and the trailing ones in its trailers, a refusal with both lists, or the client's own
refusal of the response, which was asked for and is too long. -/
inductive SingleEchoed (e : Echo) (compressed : Bool) (asked : Reply → Prop) :
    Except Status SingleResponse → Prop
  | answered {r : SingleResponse} (hleading : e.LeadingIn r.headers)
      (htrailing : e.TrailingIn r.trailers) : SingleEchoed e compressed asked (.ok r)
  | refused {st : Status} (hcode : st.code ≠ .ok) (hboth : e.BothIn st.metadata) :
      SingleEchoed e compressed asked (.error st)
  | overlong {st : Status} (h : Overlong compressed asked st) :
      SingleEchoed e compressed asked (.error st)

/-- A handler without a stream of responses decides on everything at once, and its client reads
it to the end. -/
theorem Call.single_advance {handling : Handling} {c : Call}
    (h : EchoedHandling e asked c.reception.invocation handling)
    (hno : ∀ s, handling ≠ .streaming s)
    {sums : Inbox StreamingInputRequest} {outputs : Inbox StreamingOutputRequest}
    (hpeer : c.peer = Peer.ofHandling sums outputs handling) (hwaiting : c.waiting = [])
    (hcompression : c.reception.compressed = compressed) (hsettled : c.reception.settled = false)
    (now : Instant) :
    ∃ r, Single.absorb .unopened (c.advance now).waiting = .ready r ∧
      SingleEchoed e compressed asked r := by
  cases h with
  | streaming hreads hs => exact absurd rfl (hno _)
  | @refused st hcode hplain =>
      have hcarried := Echo.carried_fail (e := e) hplain
      have hcode' : (e.fail st).code ≠ .ok := hcode
      rw [Call.waiting_advance now hpeer, hwaiting]
      simp only [Reception.eventsOf, Reception.events_refusal hcode', List.append_nil,
        List.nil_append]
      exact ⟨_, rfl, .refused (Status.delivered_code_ne_ok hcode')
        ⟨Status.leadingIn_delivered hcarried.1, Status.trailingIn_delivered hcarried.2⟩⟩
  | @answered reply hasked hread =>
      have hparts : c.peer = .replying (Peer.single (e.respond reply)) := hpeer
      rw [Echo.single_respond] at hparts
      have hafter : c.reception.after (.message reply) = c.reception := rfl
      rw [Call.waiting_advance now hparts, hwaiting]
      simp only [Reception.eventsOf, Reception.events_headers e.headersIn_headers,
        Reception.after_headers hsettled e.headersIn_headers, hafter,
        Reception.events_trailers hsettled, List.append_nil, List.nil_append,
        List.singleton_append]
      rcases Reception.events_message hasked hread with hmessage | ⟨st, hended, hlong⟩
      · rw [hmessage]
        simp only [List.singleton_append, Single.absorb, Single.step, e.delivered_success reply,
          if_true]
        exact ⟨_, rfl, .answered e.leadingIn_headers
          (Status.trailingIn_delivered (e.trailingIn_undelivered reply).joined)⟩
      · rw [hended]
        rw [hcompression] at hlong
        -- A message that is too long has a code by which the call has failed.
        cases hlong with
        | refused hasked' hplain hlong =>
            exact ⟨_, rfl, .overlong (.refused hasked' hplain hlong)⟩

end RpcConformance
