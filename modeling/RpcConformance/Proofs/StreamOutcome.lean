import RpcConformance.Proofs.Sending

/-!
# The outcome of a stream

A stream of responses ends once for its client: a receive gives the end or a failure, and the
receiving side keeps it from then on.  One thing can still take its place.  A request that is
sent on a sending side which is still open, in a scope that has been triggered by then, gives the
stream up with the scope's failure, whatever has been received before.  This happens at most once,
since it closes the sending side, and never to a stream of responses to one request.

## Main results

* `Responses.receive_step` — what receiving makes of a receiving side.
* `Conversation.perform_stream` — what any action makes of it.
* `Conversation.outcome_final_unless_overruled` — what a client sees of a stream after its end.
-/

namespace RpcConformance

/-- What is received is the end of a stream, or its failure. -/
def IsEnd (outcome : Except Status (Option Reply)) : Prop := ∀ m, outcome ≠ .ok (some m)

variable {s : Session} {scope : Scope} {outcome : Except Status (Option Reply)}

/-! ## The receiving side -/

namespace Responses

variable {r r' : Responses}

/-- The outcome that every further receive gives. -/
def outcome? (r : Responses) : Option (Except Status (Option Reply)) :=
  match r.state with
  | .live _ => none
  | .finished => some (.ok none)
  | .failed st => some (.error st)

theorem isEnd_of_outcome (h : r.outcome? = some outcome) : IsEnd outcome := by
  cases hstate : r.state <;> simp only [outcome?, hstate] at h <;> cases h <;> exact nofun

theorem receive_of_outcome (h : r.outcome? = some outcome) (scope : Scope) (s : Session) :
    r.receive scope s = (.answered outcome, r, s) := by
  cases hstate : r.state <;> simp only [outcome?, hstate] at h <;> cases h <;>
    simp only [receive, hstate]

/-- A receiving side comes to its end.  The trailers belong to an end without a failure. -/
structure Ends (r : Responses) (outcome : Except Status (Option Reply)) (r' : Responses) :
    Prop where
  isOpen : r.outcome? = none
  isEnd : IsEnd outcome
  kept : r'.outcome? = some outcome
  headers : r'.headers = r.headers
  trailers : outcome ≠ .ok none → r'.trailers = r.trailers

/-- What receiving makes of a receiving side: nothing, or it comes to its end. -/
inductive ReceiveStep (r : Responses) :
    Outcome (Except Status (Option Reply)) → Responses → Prop
  | unfinished : ReceiveStep r .unfinished r
  | message (m : Reply) : ReceiveStep r (.answered (.ok (some m))) r
  | again {outcome : Except Status (Option Reply)} (h : r.outcome? = some outcome) :
      ReceiveStep r (.answered outcome) r
  | ended {outcome : Except Status (Option Reply)} {r' : Responses} (h : r.Ends outcome r') :
      ReceiveStep r (.answered outcome) r'

/-- **What receiving makes of a receiving side.** -/
theorem receive_step (r : Responses) (scope : Scope) (s : Session) :
    r.ReceiveStep (r.receive scope s).1 (r.receive scope s).2.1 := by
  cases houtcome : r.outcome? with
  | some outcome =>
      rw [receive_of_outcome houtcome]
      exact .again houtcome
  | none =>
      have hfailed : ∀ st, r.ReceiveStep (.answered (.error st)) (r.fail st) :=
        fun st => .ended ⟨houtcome, nofun, rfl, rfl, fun _ => rfl⟩
      cases hstate : r.state with
      | finished => simp only [outcome?, hstate] at houtcome; cases houtcome
      | failed st => simp only [outcome?, hstate] at houtcome; cases houtcome
      | live id =>
          simp only [receive, hstate]
          rcases s.run (scope.guard (nextOperation id)) (.fresh ()) with
            ⟨(st | m | trailers) | _, s'⟩
          · exact hfailed st
          · exact .message m
          · dsimp only
            cases scope.check s'.moment with
            | error st => exact hfailed st
            | ok _ => exact .ended ⟨houtcome, nofun, rfl, rfl, fun hne => absurd rfl hne⟩
          · exact .unfinished

end Responses

namespace Conversation

variable {k k' : Conversation} {n : Nat} {handle : Handle} {r : Responses} {a : ClientAction}

/-! ## What an action makes of it -/

/-- In this action the client receives something of a stream. -/
inductive Hears (k : Conversation) (n : Nat) (outcome : Except Status (Option Reply)) :
    ClientAction → Prop
  | receive {k' : Conversation} (h : k.perform (.receive n) = (.received outcome, k')) :
      Hears k n outcome (.receive n)
  | receiveAll {rs : List (Except Status (Option Reply))} {k' : Conversation}
      (h : k.perform (.receiveAll n) = (.receivedAll rs, k')) (hmem : outcome ∈ rs) :
      Hears k n outcome (.receiveAll n)

/-- The failure with which an action gives up a stream whatever its outcome is: a request is sent
on a sending side that is open, and the scope has been triggered. -/
def overruling? (k : Conversation) (n : Nat) : ClientAction → Option Status
  | .send m _ =>
    match k.stream? m with
    | some (.bidi st) =>
      if m = n ∧ st.sender.isSome then st.scope.failure? k.session.moment else none
    | _ => none
  | _ => none

/-- What an action makes of the receiving side of a stream: nothing, it comes to its end in what
the client receives, or it is given up. -/
inductive StreamStep (k : Conversation) (n : Nat) (a : ClientAction) (r : Responses) :
    Responses → Prop
  | kept (h : k.overruling? n a = none) : StreamStep k n a r r
  | ended {outcome : Except Status (Option Reply)} {r' : Responses}
      (h : k.overruling? n a = none) (hears : k.Hears n outcome a) (hends : r.Ends outcome r') :
      StreamStep k n a r r'
  | overruled {own : Status} (h : k.overruling? n a = some own) : StreamStep k n a r (r.fail own)

/-- A stream has a receiving side, and sends to no other calls than a given one. -/
def GoesOn (k : Conversation) (n : Nat) (handle : Handle) (r : Responses) (scope : Scope) : Prop :=
  ∃ handle', k.stream? n = some handle' ∧ handle'.responses? = some (r, scope) ∧
    ∀ id, handle'.Sends id → handle.Sends id

theorem goesOn_self (hstream : k.stream? n = some handle)
    (hresponses : handle.responses? = some (r, scope)) : k.GoesOn n handle r scope :=
  ⟨handle, hstream, hresponses, fun _ => id⟩

theorem GoesOn.mono {handle' : Handle} (h : k.GoesOn n handle' r scope)
    (hsends : ∀ id, handle'.Sends id → handle.Sends id) : k.GoesOn n handle r scope := by
  obtain ⟨handle'', hstream, hresponses, hsends'⟩ := h
  exact ⟨handle'', hstream, hresponses, fun id hid => hsends id (hsends' id hid)⟩

/-! ### Receiving -/

/-- What receiving some outcomes makes of a stream: the receiving side is left alone, or comes to
its end, and what has been received as the end is its outcome. -/
def Receives (k' : Conversation) (n : Nat) (handle : Handle) (r : Responses) (scope : Scope)
    (rs : List (Except Status (Option Reply))) : Prop :=
  ∃ r', k'.GoesOn n handle r' scope ∧ (r' = r ∨ ∃ outcome ∈ rs, r.Ends outcome r') ∧
    ∀ outcome ∈ rs, IsEnd outcome → r'.outcome? = some outcome

theorem receives_receive (hstream : k.stream? n = some handle)
    (hresponses : handle.responses? = some (r, scope)) :
    (k.receive n).2.Receives n handle r scope (k.receive n).1.toList := by
  have hstep := r.receive_step scope k.session
  rw [receive_eq hstream hresponses]
  rcases hresult : r.receive scope k.session with ⟨answer, r', s'⟩
  rw [hresult] at hstep
  have hgoesOn : (k.setStream n (handle.withResponses r') s').GoesOn n handle r' scope :=
    ⟨_, stream?_setStream hstream _ _, Handle.responses?_withResponses hresponses _,
      fun id => (handle.sends_withResponses _).mp⟩
  refine ⟨r', hgoesOn, ?_⟩
  cases hstep with
  | unfinished => exact ⟨Or.inl rfl, nofun⟩
  | message m =>
      refine ⟨Or.inl rfl, fun outcome hmem hend => ?_⟩
      cases List.mem_singleton.mp hmem
      exact absurd rfl (hend m)
  | again houtcome =>
      refine ⟨Or.inl rfl, fun outcome hmem _ => ?_⟩
      cases List.mem_singleton.mp hmem
      exact houtcome
  | ended hends =>
      refine ⟨Or.inr ⟨_, List.mem_singleton_self _, hends⟩, fun outcome hmem _ => ?_⟩
      cases List.mem_singleton.mp hmem
      exact hends.kept

theorem receiveAll_of_end (fuel : Nat) (h : k.receive n = (some outcome, k'))
    (hend : IsEnd outcome) : receiveAll (fuel + 1) n k = ([outcome], k') := by
  simp only [receiveAll, h]
  rcases outcome with st | _ | m
  · rfl
  · rfl
  · exact absurd rfl (hend m)

theorem receives_receiveAll (fuel : Nat) (hstream : k.stream? n = some handle)
    (hresponses : handle.responses? = some (r, scope)) :
    (receiveAll fuel n k).2.Receives n handle r scope (receiveAll fuel n k).1 := by
  induction fuel generalizing k handle with
  | zero => exact ⟨r, goesOn_self hstream hresponses, Or.inl rfl, nofun⟩
  | succ fuel ih =>
      have hfirst := receives_receive hstream hresponses
      rcases hreceive : k.receive n with ⟨_ | outcome, k'⟩
      · have hall : receiveAll (fuel + 1) n k = ([], k') := by simp only [receiveAll, hreceive]
        rw [hreceive] at hfirst
        rw [hall]
        exact hfirst
      · rw [hreceive] at hfirst
        by_cases hend : IsEnd outcome
        · rw [receiveAll_of_end fuel hreceive hend]
          exact hfirst
        · obtain ⟨m, rfl⟩ : ∃ m, outcome = .ok (some m) := by
            by_contra hnone
            exact hend fun m hm => hnone ⟨m, hm⟩
          have hall : receiveAll (fuel + 1) n k =
              (.ok (some m) :: (receiveAll fuel n k').1, (receiveAll fuel n k').2) := by
            simp only [receiveAll, hreceive]
          obtain ⟨r₁, ⟨handle₁, hstream₁, hresponses₁, hsends₁⟩, hsame, -⟩ := hfirst
          have hr₁ : r₁ = r := by
            refine hsame.resolve_right ?_
            rintro ⟨outcome, hmem, hends⟩
            cases List.mem_singleton.mp hmem
            exact hends.isEnd m rfl
          subst hr₁
          obtain ⟨r', hgoesOn, hends, houtcome⟩ := ih hstream₁ hresponses₁
          rw [hall]
          refine ⟨r', hgoesOn.mono hsends₁, hends.imp_right ?_, ?_⟩
          · rintro ⟨outcome, hmem, hends⟩
            exact ⟨outcome, List.mem_cons_of_mem _ hmem, hends⟩
          · intro outcome hmem houtcomeEnd
            rcases List.mem_cons.mp hmem with rfl | hrest
            · exact absurd rfl (houtcomeEnd m)
            · exact houtcome outcome hrest houtcomeEnd

/-! ### Sending -/

theorem overruling?_eq_some_iff {own : Status} : k.overruling? n a = some own ↔
    ∃ q st id, a = .send n q ∧ k.stream? n = some (.bidi st) ∧ st.sender = some id ∧
      st.scope.failure? k.session.moment = some own := by
  constructor
  · intro h
    cases a with
    | send m q =>
        simp only [overruling?] at h
        split at h
        · rename_i st hstream
          split at h
          · rename_i hopen
            obtain ⟨rfl, hsender⟩ := hopen
            obtain ⟨id, hid⟩ := Option.isSome_iff_exists.mp hsender
            exact ⟨q, st, id, rfl, hstream, hid, h⟩
          · cases h
        · cases h
    | _ => cases h
  · rintro ⟨q, st, id, rfl, hstream, hsender, hscope⟩
    simp [overruling?, hstream, hsender, hscope]

/-- A stream that sends to no call is not given up by sending. -/
theorem overruling?_of_closed (hstream : k.stream? n = some handle)
    (hclosed : ∀ id, ¬handle.Sends id) (a : ClientAction) : k.overruling? n a = none := by
  refine Option.eq_none_iff_forall_ne_some.mpr fun own h => ?_
  obtain ⟨q, st, id, -, hbidi, hsender, -⟩ := overruling?_eq_some_iff.mp h
  rw [hstream] at hbidi
  cases hbidi
  exact hclosed id hsender

/-- What sending makes of the receiving side of a stream in both directions. -/
theorem send_step {st : BidiStream} (hstream : k.stream? n = some (.bidi st)) (q : Request) :
    ∃ r', (k.perform (.send n q)).2.GoesOn n (.bidi st) r' st.scope ∧
      k.StreamStep n (.send n q) st.responses r' := by
  have hset : ∀ st' s', (∀ id, (Handle.bidi st').Sends id → (Handle.bidi st).Sends id) →
      st'.scope = st.scope →
        (k.setStream n (.bidi st') s').GoesOn n (.bidi st) st'.responses st.scope := by
    intro st' s' hsends hscope
    exact ⟨.bidi st', stream?_setStream hstream _ _, by rw [← hscope]; rfl, hsends⟩
  have hperform : (k.perform (.send n q)).2 =
      k.setStream n (.bidi (st.send q k.session).2.1) (st.send q k.session).2.2 := by
    simp only [perform, send, hstream]
  rw [hperform]
  cases hsender : st.sender with
  | none =>
      rw [BidiStream.send_of_closed hsender]
      refine ⟨_, hset _ _ (fun _ => id) rfl, .kept ?_⟩
      simp [overruling?, hstream, hsender]
  | some id =>
      cases hscope : st.scope.failure? k.session.moment with
      | none =>
          obtain ⟨b, s', hsend, -⟩ := BidiStream.send_of_untriggered hsender hscope q
          rw [hsend]
          refine ⟨_, hset _ _ (fun _ h => h) rfl, .kept ?_⟩
          simp [overruling?, hstream, hsender, hscope]
      | some own =>
          rw [BidiStream.send_of_triggered hsender hscope]
          have hown : k.overruling? n (.send n q) = some own :=
            overruling?_eq_some_iff.mpr ⟨q, st, id, rfl, hstream, hsender, hscope⟩
          exact ⟨_, hset _ _ (by rintro _ ⟨⟩) rfl, .overruled hown⟩

/-! ### Any action -/

theorem not_hears (hreceive : a ≠ .receive n) (hreceiveAll : a ≠ .receiveAll n)
    (outcome : Except Status (Option Reply)) : ¬k.Hears n outcome a := by
  intro hears
  cases hears with
  | receive => exact hreceive rfl
  | receiveAll => exact hreceiveAll rfl

/-- **What any action makes of the receiving side of a stream**, as long as the stream is not
dropped.  What the client receives in it as the end is the outcome from then on. -/
theorem perform_stream (hstream : k.stream? n = some handle)
    (hresponses : handle.responses? = some (r, scope)) (ha : a ≠ .drop n) :
    ∃ r', (k.perform a).2.GoesOn n handle r' scope ∧ k.StreamStep n a r r' ∧
      ∀ outcome, k.Hears n outcome a → IsEnd outcome → r'.outcome? = some outcome := by
  by_cases hon : a.stream? = some n
  case neg =>
    have hnone : k.overruling? n a = none := by
      refine Option.eq_none_iff_forall_ne_some.mpr fun own h => ?_
      obtain ⟨q, -, -, rfl, -⟩ := overruling?_eq_some_iff.mp h
      exact hon rfl
    refine ⟨r, goesOn_self (perform_keeps hon hstream) hresponses, .kept hnone, ?_⟩
    exact fun outcome hears => absurd hears
      (not_hears (fun h => hon (by rw [h]; rfl)) (fun h => hon (by rw [h]; rfl)) outcome)
  have hsame : ∀ answer, k.perform a = (answer, k) → k.overruling? n a = none →
      (∀ outcome, ¬k.Hears n outcome a) →
      ∃ r', (k.perform a).2.GoesOn n handle r' scope ∧ k.StreamStep n a r r' ∧
        ∀ outcome, k.Hears n outcome a → IsEnd outcome → r'.outcome? = some outcome := by
    intro answer hperform hnone hsilent
    rw [hperform]
    exact ⟨r, goesOn_self hstream hresponses, .kept hnone,
      fun outcome hears => absurd hears (hsilent outcome)⟩
  cases a with
  | scope | cancel | sleep | reconnect | call => cases hon
  | drop m => cases hon; exact absurd rfl ha
  | metadata m =>
      cases hon
      exact hsame _ (metadata_eq hstream hresponses) rfl (not_hears (by rintro ⟨⟩) (by rintro ⟨⟩))
  | send m q =>
      cases hon
      cases handle with
      | client | gone => cases hresponses
      | server st =>
          refine hsame .noStream ?_ ?_ (not_hears (by rintro ⟨⟩) (by rintro ⟨⟩))
          · simp only [perform, send, hstream]
          · simp only [overruling?, hstream]
      | bidi st =>
          cases hresponses
          have hsilent : ∀ outcome, ¬k.Hears n outcome (.send n q) := not_hears (by rintro ⟨⟩) (by rintro ⟨⟩)
          obtain ⟨r', hgoesOn, hstep⟩ := send_step hstream q
          exact ⟨r', hgoesOn, hstep, fun outcome hears => absurd hears (hsilent outcome)⟩
  | closeSend m =>
      cases hon
      cases handle with
      | client | gone => cases hresponses
      | server st =>
          exact hsame .noStream (by simp only [perform, hstream]) rfl (not_hears (by rintro ⟨⟩) (by rintro ⟨⟩))
      | bidi st =>
          cases hresponses
          have hsilent : ∀ outcome, ¬k.Hears n outcome (.closeSend n) := not_hears (by rintro ⟨⟩) (by rintro ⟨⟩)
          obtain ⟨hsame, hscope⟩ := st.responses_closeSend k.session
          refine ⟨st.responses, ⟨.bidi (st.closeSend k.session).1, ?_, ?_, ?_⟩, .kept rfl,
            fun outcome hears => absurd hears (hsilent outcome)⟩
          · simp only [perform, hstream]
            exact stream?_setStream hstream _ _
          · rw [← hsame, ← hscope]
            rfl
          · intro id hsends
            cases (st.sender_closeSend k.session).symm.trans hsends
  | closeAndReceive m =>
      cases hon
      refine hsame .noStream ?_ rfl (not_hears (by rintro ⟨⟩) (by rintro ⟨⟩))
      cases handle <;> cases hresponses <;> simp only [perform, hstream]
  | receive m =>
      cases hon
      obtain ⟨r', hgoesOn, hends, houtcome⟩ := receives_receive hstream hresponses
      rcases hreceive : k.receive n with ⟨answer, k'⟩
      rw [hreceive] at hgoesOn hends houtcome
      refine ⟨r', ?_, ?_, ?_⟩
      · cases answer <;> simp only [perform, hreceive] <;> exact hgoesOn
      · rcases hends with rfl | ⟨outcome, hmem, hends⟩
        · exact .kept rfl
        · cases answer with
          | none => cases hmem
          | some found =>
              cases List.mem_singleton.mp hmem
              exact .ended rfl (.receive (perform_receive_iff.mpr hreceive)) hends
      · intro outcome hears
        cases hears with
        | receive h =>
            cases hreceive.symm.trans (perform_receive_iff.mp h)
            exact houtcome outcome (List.mem_singleton_self _)
  | receiveAll m =>
      cases hon
      obtain ⟨r', hgoesOn, hends, houtcome⟩ :=
        receives_receiveAll (k.session.messageBound + 1) hstream hresponses
      refine ⟨r', hgoesOn, ?_, ?_⟩
      · rcases hends with rfl | ⟨outcome, hmem, hends⟩
        · exact .kept rfl
        · exact .ended rfl (.receiveAll rfl hmem) hends
      · intro outcome hears
        cases hears with
        | receiveAll h hmem =>
            cases h
            exact houtcome outcome hmem

/-! ## Histories -/

/-- The client receives an outcome in one of its actions. -/
def HearsIn (k : Conversation) (n : Nat) (outcome : Except Status (Option Reply))
    (actions : List ClientAction) : Prop :=
  ∃ before a after, actions = before ++ a :: after ∧ (k.performed before).Hears n outcome a

/-- The stream is given up by sending in one of the actions of its client. -/
def OverruledIn (k : Conversation) (n : Nat) (own : Status) (actions : List ClientAction) : Prop :=
  ∃ before a after, actions = before ++ a :: after ∧
    (k.performed before).overruling? n a = some own

theorem HearsIn.cons {rest : List ClientAction} (h : (k.perform a).2.HearsIn n outcome rest) :
    k.HearsIn n outcome (a :: rest) := by
  obtain ⟨before, b, after, rfl, hears⟩ := h
  exact ⟨a :: before, b, after, rfl, hears⟩

theorem OverruledIn.cons {own : Status} {rest : List ClientAction}
    (h : (k.perform a).2.OverruledIn n own rest) : k.OverruledIn n own (a :: rest) := by
  obtain ⟨before, b, after, rfl, hown⟩ := h
  exact ⟨a :: before, b, after, rfl, hown⟩

theorem OverruledIn.of_cons {own : Status} {rest : List ClientAction}
    (h : k.OverruledIn n own (a :: rest)) :
    k.overruling? n a = some own ∨ (k.perform a).2.OverruledIn n own rest := by
  obtain ⟨before, b, after, hactions, hown⟩ := h
  cases before with
  | nil =>
      cases hactions
      exact Or.inl hown
  | cons first before =>
      cases hactions
      exact Or.inr ⟨before, b, after, rfl, hown⟩

/-- A history leaves the headers of a stream alone, and its trailers as long as no end is
received. -/
theorem performed_metadata (hstream : k.stream? n = some handle)
    (hresponses : handle.responses? = some (r, scope)) {actions : List ClientAction}
    (hlife : .drop n ∉ actions) :
    ∃ r', (k.performed actions).GoesOn n handle r' scope ∧ r'.headers = r.headers ∧
      (¬k.HearsIn n (.ok none) actions → r'.trailers = r.trailers) := by
  induction actions generalizing k handle r with
  | nil => exact ⟨r, goesOn_self hstream hresponses, rfl, fun _ => rfl⟩
  | cons a rest ih =>
      obtain ⟨ha, hrest⟩ := not_or.mp (List.mem_cons.not.mp hlife)
      obtain ⟨r₁, ⟨handle₁, hstream₁, hresponses₁, hsends₁⟩, hstep, -⟩ :=
        perform_stream hstream hresponses (Ne.symm ha)
      obtain ⟨r', hgoesOn, hheaders, htrailers⟩ := ih hstream₁ hresponses₁ hrest
      have hfirst : r₁.headers = r.headers ∧
          (¬k.HearsIn n (.ok none) (a :: rest) → r₁.trailers = r.trailers) := by
        cases hstep with
        | kept => exact ⟨rfl, fun _ => rfl⟩
        | overruled => exact ⟨rfl, fun _ => rfl⟩
        | ended _ hears hends =>
            refine ⟨hends.headers, fun hsilent => hends.trailers ?_⟩
            rintro rfl
            exact hsilent ⟨[], a, rest, rfl, hears⟩
      refine ⟨r', hgoesOn.mono hsends₁, hheaders.trans hfirst.1, fun hsilent => ?_⟩
      exact (htrailers fun hears => hsilent hears.cons).trans (hfirst.2 hsilent)

/-- A stream that sends to no call is not given up by sending at any later time. -/
theorem not_overruledIn_of_closed (hstream : k.stream? n = some handle)
    (hresponses : handle.responses? = some (r, scope)) (hclosed : ∀ id, ¬handle.Sends id)
    {actions : List ClientAction} (hlife : .drop n ∉ actions) (own : Status) :
    ¬k.OverruledIn n own actions := by
  rintro ⟨before, a, after, rfl, hown⟩
  have hbefore : .drop n ∉ before := fun hmem => hlife (List.mem_append_left _ hmem)
  obtain ⟨r', ⟨handle', hstream', -, hsends⟩, -⟩ :=
    performed_metadata hstream hresponses hbefore
  rw [overruling?_of_closed hstream' (fun id hid => hclosed id (hsends id hid)) a] at hown
  cases hown

/-- A request that gives a stream up closes its sending side. -/
theorem closed_of_overruling {own : Status} {after : Handle} {id : CallId}
    (hown : k.overruling? n a = some own) (hafter : (k.perform a).2.stream? n = some after) :
    ¬after.Sends id := by
  obtain ⟨q, st, id', rfl, hbidi, hsender, hscope⟩ := overruling?_eq_some_iff.mp hown
  have hperform : (k.perform (.send n q)).2 =
      k.setStream n (.bidi (st.send q k.session).2.1) (st.send q k.session).2.2 := by
    simp only [perform, send, hbidi]
  rw [hperform, stream?_setStream hbidi] at hafter
  cases hafter
  rw [BidiStream.send_of_triggered hsender hscope]
  rintro ⟨⟩

/-- **A history keeps the outcome of a stream**, or the lack of one while no end is received, with
its headers and trailers, until the stream is given up by sending; from then on its outcome is the
failure of the scope. -/
theorem performed_outcome (hstream : k.stream? n = some handle)
    (hresponses : handle.responses? = some (r, scope)) {actions : List ClientAction}
    (hlife : .drop n ∉ actions)
    (hsilent : r.outcome? = none → ∀ outcome, IsEnd outcome → ¬k.HearsIn n outcome actions) :
    ∃ r', (k.performed actions).GoesOn n handle r' scope ∧ r'.headers = r.headers ∧
      r'.trailers = r.trailers ∧
      ((∀ own, ¬k.OverruledIn n own actions) → r'.outcome? = r.outcome?) ∧
      ∀ own, k.OverruledIn n own actions → r'.outcome? = some (.error own) := by
  induction actions generalizing k handle r with
  | nil =>
      refine ⟨r, goesOn_self hstream hresponses, rfl, rfl, fun _ => rfl, ?_⟩
      rintro own ⟨before, a, after, hnil, -⟩
      cases before <;> cases hnil
  | cons a rest ih =>
      obtain ⟨ha, hrest⟩ := not_or.mp (List.mem_cons.not.mp hlife)
      obtain ⟨r₁, ⟨handle₁, hstream₁, hresponses₁, hsends₁⟩, hstep, -⟩ :=
        perform_stream hstream hresponses (Ne.symm ha)
      cases hstep with
      | ended _ hears hends =>
          exact absurd ⟨[], a, rest, rfl, hears⟩ (hsilent hends.isOpen _ hends.isEnd)
      | kept hnone =>
          obtain ⟨r', hgoesOn, hheaders, htrailers, hsame, hoverruled⟩ :=
            ih hstream₁ hresponses₁ hrest
              fun hopen outcome hend hears => hsilent hopen outcome hend hears.cons
          refine ⟨r', hgoesOn.mono hsends₁, hheaders, htrailers,
            fun hnever => hsame fun own h => hnever own h.cons, fun own h => hoverruled own ?_⟩
          refine h.of_cons.resolve_left fun hown => ?_
          rw [hnone] at hown
          cases hown
      | @overruled own hown =>
          -- The sending side is closed now, so this does not happen again.
          have hnever := not_overruledIn_of_closed hstream₁ hresponses₁
            (fun _ => closed_of_overruling hown hstream₁) hrest
          obtain ⟨r', hgoesOn, hheaders, htrailers, hsame, -⟩ :=
            ih hstream₁ hresponses₁ hrest nofun
          refine ⟨r', hgoesOn.mono hsends₁, hheaders, htrailers, ?_, ?_⟩
          · exact fun h => absurd ⟨[], a, rest, rfl, hown⟩ (h own)
          · intro own' h
            rcases h.of_cons with hfirst | hlater
            · cases hown.symm.trans hfirst
              exact hsame hnever
            · exact absurd hlater (hnever own')

/-! ## From the opening on -/

/-- A stream that has been opened has the scope of its options, has come to no end, and has no
trailers. -/
theorem opened_stream {service : ServiceName} {invocation : Invocation} {choices : CallChoices}
    (h : k.perform (.call service invocation choices) = (.stream n, k'))
    (hshape : invocation.shape ≠ .clientStreaming) :
    ∃ o s handle r, k.options choices = (.ok o, s) ∧ k'.stream? n = some handle ∧
      handle.responses? = some (r, o.scope) ∧ r.outcome? = none ∧ r.trailers = .empty := by
  have hadded : ∀ {handle s'}, k.addStream handle s' = (.stream n, k') →
      k'.stream? n = some handle := by
    rintro handle s' hadd
    cases hadd
    exact List.getElem?_concat_length
  change k.call service invocation choices = (.stream n, k') at h
  unfold call at h
  split at h
  · cases h
  · rename_i o s hoptions
    cases hkind : invocation.shape with
    | clientStreaming => exact absurd hkind hshape
    | unary =>
        simp only [hkind] at h
        split at h <;> cases h
    | serverStreaming =>
        simp only [hkind, Client.serverStreaming] at h
        rcases hopen : k.client.openCall service invocation o s with
          ⟨(st | ⟨id, r⟩) | _, s'⟩ <;> rw [hopen] at h
        · cases h
        · obtain ⟨headers, rfl⟩ := k.client.opened_of_openCall service invocation o hopen
          exact ⟨o, s, _, _, hoptions, hadded h, rfl, rfl, rfl⟩
        · cases h
    | bidiStreaming =>
        simp only [hkind, Client.bidiStreaming] at h
        rcases hopen : k.client.openCall .test invocation o s with
          ⟨(st | ⟨id, r⟩) | _, s'⟩ <;> rw [hopen] at h
        · cases h
        · obtain ⟨headers, rfl⟩ := k.client.opened_of_openCall .test invocation o hopen
          exact ⟨o, s, _, _, hoptions, hadded h, rfl, rfl, rfl⟩
        · cases h

/-- From now on the client receives nothing of a stream but this. -/
def HearsOnly (k : Conversation) (n : Nat) (outcome : Except Status (Option Reply)) : Prop :=
  k.perform (.receive n) = (.received outcome, k) ∧
    k.perform (.receiveAll n) = (.receivedAll [outcome], k)

theorem hearsOnly_of_outcome (hstream : k.stream? n = some handle)
    (hresponses : handle.responses? = some (r, scope)) (houtcome : r.outcome? = some outcome) :
    k.HearsOnly n outcome := by
  have hset : k.setStream n (handle.withResponses r) k.session = k := by
    have hhandle : handle.withResponses r = handle := by
      cases handle <;> cases hresponses <;> rfl
    have hsame : k.streams.set n handle = k.streams := by
      obtain ⟨hn, hget⟩ := List.getElem?_eq_some_iff.mp hstream
      rw [← hget]
      exact List.set_getElem_self hn
    rw [hhandle, setStream, hsame]
  have hreceive : k.receive n = (some outcome, k) := by
    rw [receive_eq hstream hresponses, Responses.receive_of_outcome houtcome, hset]
    rfl
  refine ⟨perform_receive_iff.mpr hreceive, ?_⟩
  simp only [perform, receiveAll_of_end _ hreceive (Responses.isEnd_of_outcome houtcome)]

/-- What a client sees of a stream whose outcome it has received, for as long as it does not drop
the stream: the same outcome again and again, unless the stream is given up by sending, and then
the failure of the scope. -/
structure AfterEnd (k : Conversation) (n : Nat) (headers trailers : Metadata)
    (outcome : Except Status (Option Reply)) : Prop where
  metadata : ∀ later, .drop n ∉ later →
    ((k.performed later).perform (.metadata n)).1 = .metadata headers trailers
  final : ∀ later, .drop n ∉ later → (∀ own, ¬k.OverruledIn n own later) →
    (k.performed later).HearsOnly n outcome
  overruled : ∀ later own, .drop n ∉ later → k.OverruledIn n own later →
    (k.performed later).HearsOnly n (.error own)

/-- What a client sees of a stream from its opening on, for as long as it does not drop it. -/
structure StreamLife (k : Conversation) (n : Nat) (headers : Metadata) : Prop where
  /-- The headers never change, and there are no trailers before an end has been received. -/
  metadata : ∀ actions, .drop n ∉ actions → ∃ trailers,
    ((k.performed actions).perform (.metadata n)).1 = .metadata headers trailers ∧
      (¬k.HearsIn n (.ok none) actions → trailers = .empty)
  outcome : ∀ before a outcome, .drop n ∉ before → a ≠ .drop n →
    (k.performed before).Hears n outcome a → IsEnd outcome →
      ∃ trailers, ((k.performed before).perform a).2.AfterEnd n headers trailers outcome
  /-- A stream without an open sending side is never given up by sending. -/
  closed : ∀ before, .drop n ∉ before →
    (∀ handle id, (k.performed before).stream? n = some handle → ¬handle.Sends id) →
      ∀ later own, .drop n ∉ later → ¬(k.performed before).OverruledIn n own later

/-- **The outcome of a stream is final unless it is overruled.**  Once a receive has given the end
of a stream or its failure, every later one gives the same, no message comes any more, and the
headers and trailers stay as they are, whatever the client does and however much time passes.  The
only exception is a request on a sending side that is still open, in a scope that has been
triggered by then: from that request on every receive gives the failure of the scope. -/
theorem outcome_final_unless_overruled {service : ServiceName} {invocation : Invocation}
    {choices : CallChoices}
    (hopened : k.perform (.call service invocation choices) = (.stream n, k'))
    (hshape : invocation.shape ≠ .clientStreaming) :
    ∃ headers, (k'.perform (.metadata n)).1 = .metadata headers .empty ∧
      k'.StreamLife n headers := by
  obtain ⟨o, _, handle, r, -, hstream, hresponses, hopen, hempty⟩ := opened_stream hopened hshape
  refine ⟨r.headers, ?_, ?_, ?_, ?_⟩
  · rw [metadata_eq hstream hresponses, hempty]
  · intro actions hlife
    obtain ⟨r', ⟨handle', hstream', hresponses', -⟩, hheaders, htrailers⟩ :=
      performed_metadata hstream hresponses hlife
    refine ⟨r'.trailers, ?_, fun hsilent => (htrailers hsilent).trans hempty⟩
    rw [metadata_eq hstream' hresponses', hheaders]
  · intro before a outcome hbefore ha hears hend
    obtain ⟨r₁, ⟨handle₁, hstream₁, hresponses₁, -⟩, hheaders₁, -⟩ :=
      performed_metadata hstream hresponses hbefore
    obtain ⟨r₂, ⟨handle₂, hstream₂, hresponses₂, -⟩, hstep, hkept⟩ :=
      perform_stream hstream₁ hresponses₁ ha
    have hheaders₂ : r₂.headers = r₁.headers := by
      cases hstep with
      | kept => rfl
      | overruled => rfl
      | ended _ _ hends => exact hends.headers
    have houtcome := hkept outcome hears hend
    have hlater := fun later (hlife : ClientAction.drop n ∉ later) =>
      performed_outcome hstream₂ hresponses₂ hlife fun hnone => by
        rw [houtcome] at hnone
        cases hnone
    refine ⟨r₂.trailers, ?_, ?_, ?_⟩
    · intro later hlife
      obtain ⟨r₃, ⟨handle₃, hstream₃, hresponses₃, -⟩, hheaders₃, htrailers₃, -⟩ :=
        hlater later hlife
      rw [metadata_eq hstream₃ hresponses₃, hheaders₃, hheaders₂, hheaders₁, htrailers₃]
    · intro later hlife hnever
      obtain ⟨r₃, ⟨handle₃, hstream₃, hresponses₃, -⟩, -, -, hsame, -⟩ := hlater later hlife
      exact hearsOnly_of_outcome hstream₃ hresponses₃ ((hsame hnever).trans houtcome)
    · intro later own hlife hown
      obtain ⟨r₃, ⟨handle₃, hstream₃, hresponses₃, -⟩, -, -, -, hoverruled⟩ := hlater later hlife
      exact hearsOnly_of_outcome hstream₃ hresponses₃ (hoverruled own hown)
  · intro before hbefore hclosed later own hlater
    obtain ⟨r₁, ⟨handle₁, hstream₁, hresponses₁, -⟩, -, -⟩ :=
      performed_metadata hstream hresponses hbefore
    exact not_overruledIn_of_closed hstream₁ hresponses₁
      (fun id => hclosed handle₁ id hstream₁) hlater own

namespace OutcomeSample

/-- A client with one scope, of a reference server. -/
def beginning : Conversation :=
  (start ⟨{}, true⟩ (.reference ⟨"server", "localhost"⟩)).performed [.scope none]

/-- It opens a stream in both directions. -/
def opening : ClientAction := .call .test .fullDuplexCall { scope := some 0 }

/-- It asks the server for a failure. -/
def asked : Conversation :=
  (beginning.perform opening).2.performed
    [.send 0 (.output { responseStatus := some ⟨5, "gone"⟩ })]

/-- It receives the failure, cancels the scope, and sends once more. -/
def overruled : Conversation :=
  asked.performed [.receive 0, .cancel 0, .send 0 (.output {})]

/-- The failure that a receive has given. -/
def failure? : ClientAnswer → Option Status
  | .received (.error st) => some st
  | _ => none

end OutcomeSample

open OutcomeSample in
theorem sampleStream_life :
    ∃ headers, (beginning.perform opening).1 = .stream 0 ∧
      Invocation.shape .fullDuplexCall ≠ .clientStreaming ∧
      (beginning.perform opening).2.StreamLife 0 headers := by
  have hshape : Invocation.shape .fullDuplexCall ≠ .clientStreaming := by decide
  have hopened : beginning.perform opening = (.stream 0, (beginning.perform opening).2) := rfl
  obtain ⟨headers, -, hlife⟩ := outcome_final_unless_overruled hopened hshape
  exact ⟨headers, rfl, hshape, hlife⟩

open OutcomeSample in
/-- The failure that is received first is not the one that is received last. -/
theorem sampleOutcome_overruled :
    failure? (asked.perform (.receive 0)).1 = some ⟨.notFound, "gone", [], .empty⟩ ∧
      failure? (overruled.perform (.receive 0)).1 = some Scope.cancelledStatus := by
  decide +kernel

end Conversation

end RpcConformance
