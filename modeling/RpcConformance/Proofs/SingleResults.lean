import RpcConformance.Proofs.SingleAnswers
import RpcConformance.Proofs.SingleVerdicts
import RpcConformance.Proofs.StreamingInput

/-!
# Results of calls with a single response

A call with a single response succeeds only for a response that is complete and successful and has
exactly one message.  Whatever response the server sends, and however long it takes over it, the
client comes to the verdict on that response, unless the scope of the call is triggered before.
This holds of calls with one request and of calls with many, which run by themselves while their
client feeds them.

## Main results

* `Client.unary_comesToVerdict`, `ClientStream.closeAndReceive_comesToVerdict` — the two kinds of
  calls.
* `single_success_is_one_whole_message` — when they succeed, and with what.
-/

namespace RpcConformance

open ReadResponse

/-- A call with a single response gives the verdict on the response, unless its scope has been
triggered by then; and it never succeeds with anything else. -/
def ComesToVerdict (scope : Scope) (m : Moment) (events : List Event)
    (res : Except Status SingleResponse) : Prop :=
  ∃ read, Reads events read ∧ (scope.failure? m = none → res = read.verdict) ∧
    ∀ response, res = .ok response → read.verdict = .ok response

/-- What a wait for a response concludes, seen from a later moment. -/
theorem Session.Concludes.comesToVerdict {scope : Scope} {s s' : Session} {read : ReadResponse}
    {res : Except Status SingleResponse} {events : List Event} {m : Moment}
    (h : s.Concludes scope read.verdict res s') (hread : Reads events read)
    (hlater : s'.moment.Precedes m) : ComesToVerdict scope m events res :=
  ⟨read, hread, fun hnone => h.untriggered (Scope.untriggered_of_precedes hlater hnone),
    fun response hok => (h.succeeds response hok).1⟩

/-! ## Calls with one request -/

/-- A call with one request has all of its input when it begins. -/
theorem Backend.inputOver_accept (methods : List (String × List Behaviour)) {spec : CallSpec}
    (hclosed : spec.isOpenEnded = false) (now : Instant) (earlier : Nat) :
    ((Backend.scripted methods).accept spec now earlier).InputOver := by
  show (firstRequests spec).closed = true
  rw [firstRequests, hclosed]
  rfl

theorem CallSpec.isOpenEnded_of_unary {spec : CallSpec} (hshape : spec.invocation.shape = .unary) :
    spec.isOpenEnded = false := by
  unfold isOpenEnded
  cases hinvocation : spec.invocation <;> rw [hinvocation] at hshape <;>
    first | rfl | cases hshape

/-- The response that a scripted server sends to a call, as its client is told of it. -/
def scriptedEvents (methods : List (String × List Behaviour)) (spec : CallSpec) (earlier : Nat) :
    List Event :=
  (Reception.mk spec.invocation spec.compressed false).eventsOf
    (Backend.behaviour methods spec.scriptName earlier).parts

theorem Session.outstanding_accept {s : Session} {methods : List (String × List Behaviour)}
    (hserver : s.server = .scripted methods) (spec : CallSpec) :
    (s.accept spec).1.peer.Scripted ∧ (s.accept spec).1.outstanding =
      scriptedEvents methods spec (s.seen.countP fun c => c.path = spec.path) := by
  simp only [accept, hserver]
  exact ⟨Backend.scripted_accept methods spec _ _, rfl⟩

theorem exists_reads_scripted (methods : List (String × List Behaviour)) (spec : CallSpec)
    (earlier : Nat) : ∃ read, Reads (scriptedEvents methods spec earlier) read :=
  exists_read _ (Behaviour.wholeResponse _)

/-- **A call with one request comes to the verdict on its response.** -/
theorem Client.unary_comesToVerdict (target : Target) {s : Session}
    {methods : List (String × List Behaviour)} (hserver : s.server = .scripted methods)
    (hs : s.Scripted) (service : ServiceName) {invocation : Invocation}
    (hshape : invocation.shape = .unary) (o : CallOptions) :
    ∃ res s', (Client.mk target true).unary service invocation o s = (.answered res, s') ∧
      ComesToVerdict o.scope s'.moment
        (scriptedEvents methods ((Client.mk target true).spec service invocation o s)
          (s.seen.countP fun c =>
            c.path = ((Client.mk target true).spec service invocation o s).path)) res := by
  generalize hspec : (Client.mk target true).spec service invocation o s = spec
  have hshape' : spec.invocation.shape = .unary := by
    rw [← hspec]
    exact hshape
  obtain ⟨hpeer, houtstanding⟩ := Session.outstanding_accept hserver spec
  obtain ⟨read, hread⟩ := exists_reads_scripted methods spec
    (s.seen.countP fun c => c.path = spec.path)
  have hover : (s.accept spec).1.peer.InputOver := by
    simp only [Session.accept, hserver]
    exact Backend.inputOver_accept methods (CallSpec.isOpenEnded_of_unary hshape') _ _
  obtain ⟨res, s', hrun, hconcludes⟩ := Session.run_unary o.scope hs hpeer
    ⟨by rw [houtstanding, hread.absorb], hover⟩
  refine ⟨res, (s'.abandon s.slots.length).delay, ?_, hconcludes.comesToVerdict hread ?_⟩
  · rw [unary_eq, hspec]
    simp only [hrun, if_true]
  · exact Moment.precedes_of_le (s'.moment.now.le_later s'.lag)

/-! ## Calls with many requests -/

/-- What a scripted server sends does not depend on what it gets. -/
theorem Call.Fed.outstanding {c₀ c : Call} {requests : List Request} {closed : Bool}
    (h : c₀.Fed requests closed c) (hpeer : c₀.peer.Scripted) :
    c.peer.Scripted ∧ c.outstanding = c₀.outstanding ∧ (closed = true → c.peer.InputOver) := by
  induction h with
  | begun => exact ⟨hpeer, rfl, nofun⟩
  | goOn now _ ih =>
      obtain ⟨hscripted, hsame, hover⟩ := ih
      have hadvanced := Call.advanced_advance hscripted now
      exact ⟨hadvanced.scripted, hadvanced.outstanding.trans hsame,
        fun hclosed => (hadvanced.inputOver (hover hclosed)).1⟩
  | push q _ _ ih =>
      obtain ⟨hscripted, hsame, -⟩ := ih
      obtain ⟨hscripted', hsame'⟩ := Call.outstanding_push hscripted q
      exact ⟨hscripted', hsame'.trans hsame, nofun⟩
  | close _ ih =>
      obtain ⟨hscripted, hsame, -⟩ := ih
      obtain ⟨hscripted', hsame', hover⟩ := Call.outstanding_close hscripted
      exact ⟨hscripted', hsame'.trans hsame, fun _ => hover⟩

theorem ClientStream.steps_closing (st : ClientStream) (s : Session) :
    s.Steps (fun _ => True) (fun _ => True) (st.closing s) := by
  unfold closing
  split
  · exact s.steps_close trivial
  · exact .refl

/-- **A call with many requests comes to the verdict on its response** as well. -/
theorem ClientStream.closeAndReceive_comesToVerdict (st : ClientStream) {s : Session}
    (spec : CallSpec) {methods : List (String × List Behaviour)} {requests : List Request}
    (hserver : s.server = .scripted methods) (hs : s.Scripted)
    (hconnected : spec.connected = true)
    (hfed : st.scope.failure? s.moment = none →
      ((st.closing s).slot st.call).Fed (.scripted methods) spec requests true) :
    ∃ earlier res s', st.closeAndReceive s = (.answered res, s') ∧
      ComesToVerdict st.scope s'.moment (scriptedEvents methods spec earlier) res := by
  have hclosing := st.steps_closing s
  have hscripted : (st.closing s).Scripted := hclosing.scripted hserver hs
  have hserver' : (st.closing s).server = .scripted methods :=
    hclosing.evolves.server.trans hserver
  have hmoment := st.moment_closing s
  -- The call is joined, and its result is that of the client.
  have hjoined : ∀ {read : ReadResponse} {earlier : Nat} {res : Except Status SingleResponse}
      {s' : Session}, Reads (scriptedEvents methods spec earlier) read →
      (st.closing s).run (st.scope.guard (joinOperation st.call)) (.fresh .unopened) =
        (.answered res, s') →
      (st.closing s).Concludes st.scope read.verdict res s' →
      ∃ earlier res s', st.closeAndReceive s = (.answered res, s') ∧
        ComesToVerdict st.scope s'.moment (scriptedEvents methods spec earlier) res :=
    fun hread hrun hconcludes => ⟨_, _, _, closeAndReceive_eq hrun,
      hconcludes.comesToVerdict hread (.refl _)⟩
  cases hscope : st.scope.failure? s.moment with
  | some own =>
      obtain ⟨read, hread⟩ := exists_reads_scripted methods spec 0
      rw [← hmoment] at hscope
      exact hjoined hread (Operation.run_guard_of_triggered _ _ hscope)
        (Session.concludes_of_triggered hscripted hscope)
  | none =>
      have hcall := hfed hscope
      generalize hslot : (st.closing s).slot st.call = slot at hcall
      cases hcall with
      | unconnected hnone =>
          rw [hconnected] at hnone
          cases hnone
      | @live s₀ c hserver₀ hgot =>
          obtain ⟨hpeer, houtstanding⟩ := Session.outstanding_accept hserver₀ spec
          obtain ⟨-, hsame, hover⟩ := hgot.outstanding hpeer
          obtain ⟨read, hread⟩ := exists_reads_scripted methods spec
            (s₀.seen.countP fun c => c.path = spec.path)
          obtain ⟨res, s', hrun, hconcludes⟩ := Session.run_join st.scope hscripted
            hslot ⟨by rw [hsame, houtstanding, hread.absorb], hover rfl⟩
          exact hjoined hread hrun hconcludes
      | queued =>
          obtain ⟨r, res, s', ⟨earlier, read, hread, rfl⟩, hrun, hconcludes⟩ :=
            Session.run_join_queued st.scope
              (P := fun r => ∃ earlier read,
                Reads (scriptedEvents methods spec earlier) read ∧ r = read.verdict)
              hscripted hslot fun s₁ hserver₁ => by
                obtain ⟨-, houtstanding⟩ :=
                  Session.outstanding_accept (hserver₁.trans hserver') spec
                obtain ⟨read, hread⟩ := exists_reads_scripted methods spec
                  (s₁.seen.countP fun c => c.path = spec.path)
                refine ⟨_, ⟨_, read, hread, rfl⟩, ?_⟩
                rw [s₁.reach_connected hconnected, houtstanding, hread.absorb]
          exact hjoined hread hrun hconcludes

/-! ## Clients of scripted servers -/

namespace Conversation

theorem client_receiveAll (fuel n : Nat) (k : Conversation) :
    (receiveAll fuel n k).2.client = k.client := by
  induction fuel generalizing k with
  | zero => rfl
  | succ fuel ih =>
      have hfirst : (k.receive n).2.client = k.client := by
        unfold receive
        split <;> rfl
      unfold receiveAll
      split <;> rename_i heq <;> rw [heq] at hfirst
      · exact hfirst
      · exact (ih _).trans hfirst
      · exact hfirst

theorem client_call (k : Conversation) (service : ServiceName) (invocation : Invocation)
    (choices : CallChoices) : (k.call service invocation choices).2.client = k.client := by
  unfold call
  split
  · rfl
  · split <;> split <;> rfl

/-- Whatever a client does, it stays the same client. -/
theorem client_perform (k : Conversation) (a : ClientAction) :
    (k.perform a).2.client = k.client := by
  cases a with
  | call service invocation choices => exact k.client_call service invocation choices
  | receiveAll n => exact client_receiveAll (k.session.messageBound + 1) n k
  | receive n =>
      have hreceive : (k.receive n).2.client = k.client := by
        unfold receive
        split <;> rfl
      simp only [perform]
      split <;> rename_i heq <;> rw [heq] at hreceive <;> exact hreceive
  | scope | sleep | reconnect => rfl
  | send n r =>
      simp only [perform, send]
      split <;> rfl
  | closeAndReceive n =>
      simp only [perform]
      split
      · split <;> rfl
      · rfl
  | cancel | closeSend | drop | metadata =>
      simp only [perform]
      split <;> rfl

theorem client_performed (k : Conversation) (actions : List ClientAction) :
    (k.performed actions).client = k.client := by
  induction actions generalizing k with
  | nil => rfl
  | cons a rest ih => exact (ih _).trans (k.client_perform a)

/-- All calls of a client of a scripted server have a scripted server. -/
theorem scripted_performed {k : Conversation} {methods : List (String × List Behaviour)}
    (hserver : k.session.server = .scripted methods) (h : k.session.Scripted)
    (actions : List ClientAction) : (k.performed actions).session.Scripted := by
  induction actions generalizing k with
  | nil => exact h
  | cons a rest ih =>
      have hsteps := k.steps_perform a
      exact ih (hsteps.evolves.server.trans hserver) (hsteps.scripted hserver h)

end Conversation

/-- What a verdict on a response has to be. -/
structure ReadResponse.SoundVerdict (verdict : ReadResponse → Except Status SingleResponse) :
    Prop where
  /-- Success is for exactly one message and a successful end, with the message, the headers and
  the trailers apart. -/
  ok_iff : ∀ read response, verdict read = .ok response ↔
    ∃ s, s.code = .ok ∧ read = .opened response.headers [response.message] s ∧
      response.trailers = s.metadata
  missing : ∀ headers s, s.code = .ok →
    verdict (.opened headers [] s) = .error (.internal "call ended without a response message")
  doubled : ∀ headers messages s, 2 ≤ messages.length → verdict (.opened headers messages s) =
    .error (.internal "call returned more than one response message")
  /-- Before or directly after the first message. -/
  failed : ∀ headers messages s, messages.length ≤ 1 → s.code ≠ .ok →
    verdict (.opened headers messages s) = .error s
  refused : ∀ s, verdict (.refused s) = .error s

theorem ReadResponse.sound_verdict : SoundVerdict verdict where
  ok_iff _ _ := verdict_eq_ok_iff
  missing headers _ hcode := verdict_of_empty headers hcode
  doubled headers _ s h := verdict_of_several headers s h
  failed headers _ _ h hcode := verdict_of_failure headers h hcode
  refused _ := rfl

/-- **A call with a single response succeeds for one whole message and nothing else.**  The server
sends any whole response, and a plain one is read as it was sent.  The client comes to the verdict
on it: a success for exactly one message and a successful end, with the message, the headers and the
trailers apart, and otherwise a failure, which is the one that comes before or directly after the
first message, if there is any.  So it is for calls with one request, and for calls with many, made
at any time and with whatever else the client does in between, unless the scope of the call is
triggered before they end. -/
theorem single_success_is_one_whole_message (target : Target)
    (methods : List (String × List Behaviour)) (before : List ClientAction) :
    SoundVerdict ReadResponse.verdict ∧
    (∀ parts, WholeResponse parts ↔ ∃ b : Behaviour, b.parts = parts) ∧
    (∀ (r : Reception) (headers : Metadata) (messages read : List Reply) (ending : Status),
      Status.unreadable? r.compressed headers = none → Status.ofHeaders? headers = none →
      List.Forall₂ (fun m m' => r.invocation.read m = .ok m' ∧
        (r.compressed = true ∨ m.encodedLength ≤ maxMessageLength)) messages read →
      Reads (r.eventsOf (.headers headers :: (messages.map .message ++ [.trailers ending])))
        (.opened headers read ending.delivered)) ∧
    ∀ k, k = (Conversation.start ⟨target, true⟩ (.scripted methods)).performed before →
      (∀ service (invocation : Invocation) (o : CallOptions), invocation.shape = .unary →
        ∃ earlier res s', k.client.unary service invocation o k.session = (.answered res, s') ∧
          ComesToVerdict o.scope s'.moment
            (scriptedEvents methods (k.client.spec service invocation o k.session) earlier) res) ∧
      ∀ service choices n k' actions,
        k.perform (.call service .streamingInputCall choices) = (.stream n, k') →
        .drop n ∉ actions → .closeAndReceive n ∉ actions →
          ∃ o s st earlier res s', k.options choices = (.ok o, s) ∧
            (k'.performed actions).stream? n = some (.client st) ∧ st.scope = o.scope ∧
            st.closeAndReceive (k'.performed actions).session = (.answered res, s') ∧
            ComesToVerdict o.scope s'.moment
              (scriptedEvents methods (k.client.spec .test .streamingInputCall o s) earlier)
              res := by
  refine ⟨sound_verdict, ?_, ?_, ?_⟩
  · intro parts
    constructor
    · exact Behaviour.exists_of_wholeResponse
    · rintro ⟨b, rfl⟩
      exact b.wholeResponse
  · intro r headers messages read ending hunreadable hstatus hmessages
    exact reads_plain r ending hunreadable hstatus hmessages
  · rintro k rfl
    have hclient : ((Conversation.start ⟨target, true⟩ (.scripted methods)).performed
        before).client = ⟨target, true⟩ := Conversation.client_performed _ before
    have hserver : ((Conversation.start ⟨target, true⟩ (.scripted methods)).performed
        before).session.server = .scripted methods := Conversation.server_performed _ before
    have hscripted : ((Conversation.start ⟨target, true⟩ (.scripted methods)).performed
        before).session.Scripted :=
      Conversation.scripted_performed rfl (Session.scripted_start _) before
    have horderly := Conversation.orderly_performed ⟨target, true⟩ (.scripted methods) before
    generalize (Conversation.start ⟨target, true⟩ (.scripted methods)).performed before = k at *
    constructor
    · intro service invocation o hshape
      obtain ⟨res, s', hunary, hjudged⟩ :=
        Client.unary_comesToVerdict target hserver hscripted service hshape o
      rw [hclient]
      exact ⟨_, res, s', hunary, hjudged⟩
    · intro service choices n k' actions hopened hdrop hclose
      obtain ⟨o, s, hoptions, -, hfeeding⟩ :=
        Conversation.feeding_opened horderly hserver hopened
      have hfed := (hfeeding _ .queued).performed (Slot.fedKept rfl rfl) hdrop hclose
      obtain ⟨st, hstream, hcall, hscope, -⟩ := hfed.stream
      have hafter : k' = (k.perform (.call service .streamingInputCall choices)).2 := by
        rw [hopened]
      have hscripted' : (k'.performed actions).session.Scripted := by
        rw [hafter]
        exact Conversation.scripted_performed hserver hscripted
          (.call service .streamingInputCall choices :: actions)
      obtain ⟨earlier, res, s', hresult, hjudged⟩ :=
        st.closeAndReceive_comesToVerdict (k.client.spec .test .streamingInputCall o s) hfed.server
          hscripted' (by rw [hclient]; rfl) <| by
          intro huntriggered
          obtain ⟨hsender, hslot⟩ := hfed.kept hstream huntriggered
          simp only [ClientStream.closing, hsender]
          exact hslot.close
      rw [hscope] at hjudged
      exact ⟨o, s, st, earlier, res, s', hoptions, hstream, hscope, hresult, hjudged⟩

/-- A method that answers with one message. -/
def oneMessage : List (String × List Behaviour) := [("EmptyCall", [{ steps := [.reply .empty] }])]

/-- Its answer is a success. -/
theorem oneMessage_succeeds :
    ∃ s', (Client.mk {} true).unary .test .emptyCall ⟨.empty, ⟨none, 0⟩⟩
        (Session.start (.scripted oneMessage)) =
      (.answered (.ok ⟨.empty, .empty, .empty⟩), s') := by
  obtain ⟨-, -, -, hcalls⟩ := single_success_is_one_whole_message {} oneMessage []
  obtain ⟨earlier, res, s', hcall, read, hread, hverdict, -⟩ :=
    (hcalls _ rfl).1 .test .emptyCall ⟨.empty, ⟨none, 0⟩⟩ rfl
  have huntriggered : Scope.failure? ⟨none, 0⟩ s'.moment = none := by
    have hs' : _ = s' := congrArg Prod.snd hcall
    rw [← hs']
    rfl
  have hbehaviour : Backend.behaviour oneMessage "EmptyCall" earlier =
      { steps := [.reply .empty] } := by
    cases earlier <;> rfl
  have habsorb := hread.absorb
  change Single.absorb .unopened (Reception.eventsOf _
    (Backend.behaviour oneMessage "EmptyCall" earlier).parts) = _ at habsorb
  rw [hbehaviour] at habsorb
  rw [hverdict huntriggered, ← Turn.ready.inj habsorb] at hcall
  exact ⟨s', hcall⟩

end RpcConformance
