import RpcConformance.Client.Basic
import RpcConformance.Proofs.PeerTurns
import RpcConformance.Proofs.ScriptedCalls

/-!
# The verdict on a response

The client of a call reads a response as a refusal, or as headers, some messages and an end; what a
server sends behind the end is not looked at.  A call with a single response succeeds for exactly
one message and a successful end.  Its verdict is stated here for a whole response and compared with
the machine that takes one event after another.

## Main results

* `ReadResponse.absorb_events` — the machine comes to the verdict on the whole response.
* `ReadResponse.verdict_eq_ok_iff` — for which responses it is a success.
* `ReadResponse.exists_read`, `ReadResponse.reads_plain` — every response is read as one, and
  a plain one is read as it was sent.
-/

namespace RpcConformance

/-- A response as its client reads it. -/
inductive ReadResponse
  | refused (s : Status)
  | opened (headers : Metadata) (messages : List Reply) (ending : Status)

/-- The parts of a whole response: a refusal, or headers, messages and an end. -/
inductive WholeResponse : List ResponsePart → Prop
  | refused (s : Status) : WholeResponse [.refusal s]
  | opened (headers : Metadata) (messages : List Reply) (ending : Status) :
      WholeResponse (.headers headers :: (messages.map .message ++ [.trailers ending]))

namespace ReadResponse

/-- What the client learns of a response, up to its end. -/
def events : ReadResponse → List Event
  | refused s => [.ended s]
  | opened headers messages ending =>
    .opened headers :: (messages.map .message ++ [.ended ending])

/-- What a call with a single response makes of a response. -/
def verdict : ReadResponse → Except Status SingleResponse
  | refused s => .error s
  | opened _ [] s => .error (if s.code = .ok then Single.missing else s)
  | opened headers [m] s => if s.code = .ok then .ok ⟨m, headers, s.metadata⟩ else .error s
  | opened _ (_ :: _ :: _) _ => .error Single.doubled

/-- Some events are those of a response, perhaps with more behind its end.  A success is no
refusal. -/
structure Reads (events : List Event) (read : ReadResponse) : Prop where
  begins : read.events <+: events
  failure : ∀ s, read = .refused s → s.code ≠ .ok

/-! ## The verdict -/

/-- **The machine comes to the verdict on the whole response**, whatever comes behind it. -/
theorem absorb_events (read : ReadResponse) (behind : List Event) :
    Single.absorb .unopened (read.events ++ behind) = .ready read.verdict := by
  rcases read with s | ⟨headers, _ | ⟨m, _ | ⟨m', messages⟩⟩, s⟩
  · rfl
  · rfl
  · rfl
  · rfl

theorem Reads.absorb {events : List Event} {read : ReadResponse} (h : Reads events read) :
    Single.absorb .unopened events = .ready read.verdict := by
  obtain ⟨behind, rfl⟩ := h.begins
  exact read.absorb_events behind

/-- **A call succeeds for exactly one message and a successful end**, and then it has the message,
the headers and the trailers. -/
theorem verdict_eq_ok_iff {read : ReadResponse} {response : SingleResponse} :
    read.verdict = .ok response ↔
      ∃ s, s.code = .ok ∧ read = .opened response.headers [response.message] s ∧
        response.trailers = s.metadata := by
  constructor
  · intro h
    rcases read with s | ⟨headers, _ | ⟨m, _ | ⟨m', messages⟩⟩, s⟩
    · cases h
    · cases h
    · by_cases hcode : s.code = .ok
      · rw [verdict, if_pos hcode] at h
        cases h
        exact ⟨s, hcode, rfl, rfl⟩
      · rw [verdict, if_neg hcode] at h
        cases h
    · cases h
  · rintro ⟨s, hcode, rfl, htrailers⟩
    rw [verdict, if_pos hcode, ← htrailers]

/-- An end without a message is never a success. -/
theorem verdict_of_empty (headers : Metadata) {s : Status} (hcode : s.code = .ok) :
    (opened headers [] s).verdict = .error Single.missing := by
  rw [verdict, if_pos hcode]

/-- Neither is a second message, whatever comes of the call. -/
theorem verdict_of_several (headers : Metadata) {messages : List Reply} (s : Status)
    (h : 2 ≤ messages.length) : (opened headers messages s).verdict = .error Single.doubled := by
  rcases messages with _ | ⟨m, _ | ⟨m', messages⟩⟩
  · cases h
  · exact absurd h (Nat.not_succ_le_self 1)
  · rfl

/-- A failure that comes before or directly after the first message is what the call fails
with. -/
theorem verdict_of_failure (headers : Metadata) {messages : List Reply} {s : Status}
    (h : messages.length ≤ 1) (hcode : s.code ≠ .ok) :
    (opened headers messages s).verdict = .error s := by
  rcases messages with _ | ⟨m, _ | ⟨m', messages⟩⟩
  · rw [verdict, if_neg hcode]
  · rw [verdict, if_neg hcode]
  · exact absurd h (by simp)

/-! ## How a response is read -/

variable {r : Reception}

/-- Messages are read up to the end, or up to one that cannot be read, which ends the call. -/
theorem exists_ending (r : Reception) (messages : List Reply) (ending : Status) :
    ∃ (read : List Reply) (s : Status), (read.map Event.message ++ [.ended s]) <+:
      r.eventsOf (messages.map .message ++ [.trailers ending]) := by
  induction messages with
  | nil =>
      simp only [List.map_nil, List.nil_append, Reception.eventsOf, Reception.events]
      split <;> exact ⟨[], _, List.prefix_refl _⟩
  | cons m rest ih =>
      simp only [List.map_cons, List.cons_append, Reception.eventsOf, Reception.events]
      split
      · exact ⟨[], _, List.prefix_append _ _⟩
      · split
        · rename_i m' _
          obtain ⟨read, s, hread⟩ := ih
          exact ⟨m' :: read, s, (List.cons_prefix_cons).mpr ⟨rfl, hread⟩⟩
        · exact ⟨[], _, List.prefix_append _ _⟩

/-- **Every response is read as one.** -/
theorem exists_read (r : Reception) {parts : List ResponsePart} (h : WholeResponse parts) :
    ∃ read, Reads (r.eventsOf parts) read := by
  cases h with
  | refused s =>
      simp only [Reception.eventsOf, Reception.events]
      split
      · refine ⟨.opened s.delivered.metadata [] .success, List.prefix_refl _, ?_⟩
        rintro _ ⟨⟩
      · rename_i hcode
        refine ⟨.refused s.delivered, List.prefix_refl _, ?_⟩
        rintro s' ⟨⟩
        exact hcode
  | opened headers messages ending =>
      obtain ⟨read, s, hread⟩ := exists_ending (r.after (.headers headers)) messages ending
      have hopened : ∃ read, Reads (.opened headers ::
          (r.after (.headers headers)).eventsOf (messages.map .message ++ [.trailers ending]))
          read := by
        refine ⟨.opened headers read s, (List.cons_prefix_cons).mpr ⟨rfl, hread⟩, ?_⟩
        rintro _ ⟨⟩
      have hended : ∀ st : Status, st.code ≠ .ok → ∃ read, Reads (.ended st ::
          (r.after (.headers headers)).eventsOf (messages.map .message ++ [.trailers ending]))
          read := by
        intro st hcode
        refine ⟨.refused st, List.prefix_append [_] _, ?_⟩
        rintro s' ⟨⟩
        exact hcode
      rw [Reception.eventsOf]
      cases hunreadable : Status.unreadable? r.compressed headers with
      | some st =>
          have hcode : st.code ≠ .ok := by
            rw [Status.unreadable?] at hunreadable
            split at hunreadable
            · cases hunreadable
            · split at hunreadable <;> cases hunreadable
              rintro ⟨⟩
          simp only [Reception.events, hunreadable, List.singleton_append]
          exact hended st hcode
      | none =>
          cases hstatus : Status.ofHeaders? headers with
          | none =>
              simp only [Reception.events, hunreadable, hstatus, List.singleton_append]
              exact hopened
          | some st =>
              by_cases hcode : st.code = .ok
              · simp only [Reception.events, hunreadable, hstatus, hcode, if_true,
                  List.singleton_append]
                exact hopened
              · simp only [Reception.events, hunreadable, hstatus, hcode, if_false,
                  List.singleton_append]
                exact hended st hcode

/-- **A plain response is read as it was sent**: one whose headers spell no status and no
compression, and whose messages can all be read. -/
theorem reads_plain (r : Reception) {headers : Metadata} {messages read : List Reply}
    (ending : Status) (hunreadable : Status.unreadable? r.compressed headers = none)
    (hstatus : Status.ofHeaders? headers = none)
    (hmessages : List.Forall₂ (fun m m' => r.invocation.read m = .ok m' ∧
      (r.compressed = true ∨ m.encodedLength ≤ maxMessageLength)) messages read) :
    Reads (r.eventsOf (.headers headers :: (messages.map .message ++ [.trailers ending])))
      (.opened headers read ending.delivered) := by
  refine ⟨?_, nofun⟩
  have hafter : r.after (.headers headers) = { r with settled := false } := by
    simp only [Reception.after, hstatus, Option.isSome_none]
  have hrest : ({ r with settled := false } : Reception).eventsOf
      (messages.map .message ++ [.trailers ending]) =
        read.map .message ++ [.ended ending.delivered] := by
    induction hmessages with
    | nil =>
        simp only [List.map_nil, List.nil_append, Reception.eventsOf, List.append_nil]
        exact Reception.events_trailers rfl ending
    | @cons m m' messages read hm _ ih =>
        have hmessage : ({ r with settled := false } : Reception).events (.message m) =
            [.message m'] := Reception.events_short hm.1 hm.2
        simp only [List.map_cons, List.cons_append, Reception.eventsOf, hmessage,
          Reception.after] at ih ⊢
        rw [ih]
        rfl
  rw [Reception.eventsOf, hafter, hrest]
  simp only [Reception.events, hunreadable, hstatus]
  exact List.prefix_refl _

end ReadResponse

/-! ## What servers send -/

/-- The messages that some steps send. -/
def ScriptStep.replies (steps : List ScriptStep) : List Reply :=
  steps.filterMap fun
    | .reply r => some r
    | _ => none

namespace Behaviour

theorem partsFrom_eq (b : Behaviour) (steps : List ScriptStep) :
    b.partsFrom steps =
      (ScriptStep.replies steps).map .message ++ [.trailers (ScriptRun.closing b)] := by
  induction steps with
  | nil => rfl
  | cons step rest ih => cases step <;> simp only [partsFrom, ih, ScriptStep.replies,
      List.filterMap_cons, List.map_cons, List.cons_append]

/-- A script sends a whole response. -/
theorem wholeResponse (b : Behaviour) : WholeResponse b.parts := by
  unfold parts
  cases b.refusal with
  | some s => exact .refused s
  | none =>
      rw [partsFrom_eq]
      exact .opened b.headers _ _

/-- Every whole response is what some script sends. -/
theorem exists_of_wholeResponse {parts : List ResponsePart} (h : WholeResponse parts) :
    ∃ b : Behaviour, b.parts = parts := by
  cases h with
  | refused s => exact ⟨{ refusal := some s }, rfl⟩
  | opened headers messages ending =>
      refine ⟨{ headers, steps := messages.map .reply, status := ending }, ?_⟩
      have hreplies : ScriptStep.replies (messages.map .reply) = messages := by
        rw [ScriptStep.replies, List.filterMap_map]
        exact List.filterMap_some
      have hclosing :
          ScriptRun.closing { headers, steps := messages.map .reply, status := ending } =
            ending := by
        simp only [ScriptRun.closing, Metadata.merge, Metadata.empty, List.append_nil]
      simp only [parts, partsFrom_eq, hreplies, hclosing]

end Behaviour

/-- A single response is a whole one. -/
theorem Peer.wholeResponse_single (r : Response Reply) : WholeResponse (single r) := by
  rw [single_eq]
  exact .opened r.headers [r.message] _

end RpcConformance
