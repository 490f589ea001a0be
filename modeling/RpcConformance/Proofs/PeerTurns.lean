import RpcConformance.Call.Peer
import RpcConformance.Proofs.PendingTrailers

/-!
# Responses behind the trailers layer

The body of a response reaches its client through the trailers layer.  What it comes to is told
here once: a poll of a stream gives its next item as a part, the part that ends the call has the
pending trailers behind its own metadata, and a single response is polled to its end at once.

## Main results

* `EchoBody.poll_last` — the trailers of a body get the pending ones.
* `Peer.turn_streaming` — one turn of a stream of responses, item by item.
* `Peer.single_eq` — the parts of a single response.
-/

namespace RpcConformance

/-- The trailers of a body with the pending ones, where there are any, behind them. -/
def Metadata.joined (md : Metadata) : Option Metadata → Metadata
  | none => md
  | some extra => md.absorb extra

theorem Metadata.getAll_joined (md : Metadata) (pending : Option Metadata) (key : String) :
    (md.joined pending).getAll key = md.getAll key ++ (pending.getD .empty).getAll key := by
  cases pending with
  | none => simp [joined]
  | some extra => exact getAll_absorb md extra key

namespace EchoBody

variable {δ β : Type} [Body δ β] {b : β}

/-- A poll that gives no trailers leaves the pending ones where they are. -/
theorem poll_before (hended : (Body.poll b).1 ≠ .ended) (htrailers : Trailerless (Body.poll b).1)
    (pending : Option Metadata) :
    Body.poll (EchoBody.mk b pending) = ((Body.poll b).1, ⟨(Body.poll b).2, pending⟩) := by
  cases pending with
  | none => exact poll_none b
  | some extra => exact poll_other hended htrailers extra

/-- The trailers of the inner body get the pending ones, which are pending no longer. -/
theorem poll_last {md : Metadata} (h : (Body.poll b).1 = .frame (.trailers md))
    (pending : Option Metadata) :
    Body.poll (EchoBody.mk b pending) =
      (.frame (.trailers (md.joined pending)), ⟨(Body.poll b).2, none⟩) := by
  cases pending with
  | none =>
      rw [poll_none, h]
      rfl
  | some extra => exact poll_trailers h extra

end EchoBody

/-- What the layer takes from a response to deliver at its end. -/
def Response.undelivered {α : Type} (r : Response α) : Option Metadata :=
  r.pendingTrailers.filter (!·.isEmpty)

/-- Empty trailers are not delivered, and nobody finds a value less. -/
theorem Response.getAll_undelivered {α : Type} (r : Response α) (key : String) :
    (r.undelivered.getD .empty).getAll key = (r.pendingTrailers.getD .empty).getAll key := by
  unfold undelivered
  cases r.pendingTrailers with
  | none => rfl
  | some extra =>
      cases hempty : extra.isEmpty with
      | false => rw [Option.filter_some, if_pos (by simpa using hempty)]
      | true =>
          have hnone : extra = .empty := congrArg Metadata.mk (List.isEmpty_iff.mp hempty)
          subst hnone
          rfl

/-- The part that an item of a stream becomes. -/
def Item.part (pending : Option Metadata) : Item → ResponsePart
  | .response p => .message (.output (some p))
  | .failed st => .trailers { st with metadata := st.metadata.joined pending }
  | .finished => .trailers { Status.success with metadata := Metadata.empty.joined pending }

namespace Peer

/-- What follows an item: nothing, once the stream has ended. -/
def afterItem (s : ResponseStream) (inbox : Inbox StreamingOutputRequest)
    (pending : Option Metadata) : Item → Peer
  | .response _ => .streaming none s inbox pending
  | _ => .replying []

/-- **One turn of a stream of responses**: it waits, or its next item goes out as a part. -/
theorem turn_streaming (now : Instant) (s : ResponseStream)
    (inbox : Inbox StreamingOutputRequest) (pending : Option Metadata) :
    (streaming none s inbox pending).turn now =
      match s.turn ⟨moment now, inbox⟩ with
      | (.waiting s, w) => .waiting (.streaming none s w.inbox pending)
      | (.ready (item, s), w) =>
        .ready (some (item.part pending), afterItem s w.inbox pending item) := by
  rcases hturn : s.turn ⟨moment now, inbox⟩ with ⟨⟨p | st | _, s'⟩ | s', w⟩
  · have hpoll : Body.poll (ReplyBody.stream s ⟨moment now, inbox⟩) =
        (.frame (.data (.output (some p))), .stream s' w) := by
      simp only [Body.poll, ReplyBody.poll, hturn]
    simp only [turn]
    rw [EchoBody.poll_before (by rw [hpoll]; exact nofun) (by rw [hpoll]; exact nofun), hpoll]
    rfl
  · have hpoll : Body.poll (ReplyBody.stream s ⟨moment now, inbox⟩) =
        (.frame (.trailers st.metadata), .closed st) := by
      simp only [Body.poll, ReplyBody.poll, hturn]
    simp only [turn]
    rw [EchoBody.poll_last (congrArg Prod.fst hpoll), hpoll]
    rfl
  · have hpoll : Body.poll (ReplyBody.stream s ⟨moment now, inbox⟩) =
        (.frame (.trailers .empty), .closed .success) := by
      simp only [Body.poll, ReplyBody.poll, hturn]
    simp only [turn]
    rw [EchoBody.poll_last (congrArg Prod.fst hpoll), hpoll]
    rfl
  · have hpoll : Body.poll (ReplyBody.stream s ⟨moment now, inbox⟩) =
        (.pending, .stream s' w) := by
      simp only [Body.poll, ReplyBody.poll, hturn]
    simp only [turn]
    rw [EchoBody.poll_before (by rw [hpoll]; exact nofun) (by rw [hpoll]; exact nofun), hpoll]
    rfl

/-- **The parts of a single response**: its headers, its message, and the trailers of a
success. -/
theorem single_eq (r : Response Reply) :
    single r = [.headers r.headers, .message r.message,
      .trailers { Status.success with metadata := Metadata.empty.joined r.undelivered }] := by
  have hmessage : Body.poll (EchoBody.mk (ReplyBody.single (some r.message)) r.undelivered) =
      (.frame (.data r.message), ⟨.single none, r.undelivered⟩) :=
    EchoBody.poll_before (by rintro ⟨⟩) (by rintro _ ⟨⟩) r.undelivered
  have htrailers : Body.poll (EchoBody.mk (ReplyBody.single none) r.undelivered) =
      (.frame (.trailers (Metadata.empty.joined r.undelivered)), ⟨.closed .success, none⟩) :=
    EchoBody.poll_last rfl r.undelivered
  have hended : Body.poll (EchoBody.mk (ReplyBody.closed .success) none) =
      (.ended, ⟨.closed .success, none⟩) := EchoBody.poll_none _
  have hanswer : (Answered.withEcho ⟨ReplyBody.single (some r.message), r.pendingTrailers⟩).body =
      ⟨.single (some r.message), r.undelivered⟩ := rfl
  simp only [single, hanswer, observe, nextPoll, hmessage, htrailers, hended]
  rfl

/-- A response without pending trailers. -/
theorem single_plain (m : Reply) (headers : Metadata) :
    single ⟨m, headers, none⟩ = [.headers headers, .message m, .trailers .success] :=
  single_eq ⟨m, headers, none⟩

/-- A method that opens a stream leaves its pending trailers with the stream. -/
theorem ofHandling_streaming (sums : Inbox StreamingInputRequest)
    (outputs : Inbox StreamingOutputRequest) (r : Response ResponseStream) :
    ofHandling sums outputs (.streaming r) =
      .streaming (some r.headers) r.message outputs r.undelivered := rfl

end Peer

end RpcConformance
