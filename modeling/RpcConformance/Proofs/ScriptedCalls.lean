import RpcConformance.Proofs.EchoParts

/-!
# Calls to scripted servers

A scripted server may answer a call with any response there is: any headers, any number of messages
and any end, with pauses between them and waits for the client's requests.  However it waits, the
parts that it has sent and the parts of the steps that are left are always the parts of its whole
script.  What is left to do gets less with every part that it sends and every timer that fires, and
once the client has closed its side nothing but a timer can keep the script from its end.

A server that has decided on everything it is going to send is the same without the waiting, so
both are treated alike.

## Main results

* `Behaviour.parts` — the response that a script sends.
* `Peer.scriptTurned` — what one turn of such a server makes of what is left.
* `Call.advanced_advance`, `Call.work_advance_lt` — what it makes of it when it goes on.
-/

namespace RpcConformance

/-! ## Pauses -/

namespace Pause

variable {W : Type} [Timeline W]

/-- A pause is over, or it waits for its timer. -/
theorem turn_cases (p : Pause) (w : W) :
    (operation.turn p w).1 = .ready () ∨ ∃ due, (operation.turn p w).1 = .waiting (.until due) := by
  cases p <;>
    · simp only [operation]
      split
      · exact Or.inl rfl
      · exact Or.inr ⟨_, rfl⟩

theorem turn_of_fired {due : Instant} {w : W}
    (h : Instant.fired due (Timeline.moment w).now = true) :
    (operation.turn (.until due) w).1 = .ready () := by
  simp only [operation, h, if_true]

end Pause

/-! ## Scripts -/

namespace Behaviour

/-- What some steps send, and the end of the call behind it. -/
def partsFrom (b : Behaviour) : List ScriptStep → List ResponsePart
  | [] => [.trailers (ScriptRun.closing b)]
  | .reply r :: rest => .message r :: b.partsFrom rest
  | _ :: rest => b.partsFrom rest

/-- The whole response of a script. -/
def parts (b : Behaviour) : List ResponsePart :=
  match b.refusal with
  | some s => [.refusal s]
  | none => .headers b.headers :: b.partsFrom b.steps

end Behaviour

/-- Nothing but requests has arrived. -/
def Inbox.OnlyRequests (i : Inbox Unit) : Prop := ∀ a ∈ i.arrivals, a = .message ()

namespace Inbox.OnlyRequests

variable {i : Inbox Unit}

theorem push (h : i.OnlyRequests) : (i.push (.message ())).OnlyRequests := by
  intro a ha
  rcases List.mem_append.mp ha with ha | ha
  · exact h a ha
  · exact List.mem_singleton.mp ha

/-- A server that reads a request finds one, or the end, or has to wait for either. -/
theorem read (h : i.OnlyRequests) (m : Moment) :
    (Inbox.read m i.arrivals i.closed).2.OnlyRequests ∧
      (Inbox.read m i.arrivals i.closed).2.closed = i.closed ∧
      ((Inbox.read m i.arrivals i.closed).1 = .waiting () → i.closed = false) := by
  rcases i with ⟨_ | ⟨a, rest⟩, closed⟩
  · refine ⟨nofun, rfl, ?_⟩
    cases closed with
    | false => exact fun _ => rfl
    | true => exact nofun
  · obtain rfl : a = .message () := h _ List.mem_cons_self
    exact ⟨fun b hb => h b (List.mem_cons_of_mem _ hb), rfl, nofun⟩

end Inbox.OnlyRequests

namespace ScriptRun

variable {b : Behaviour} {steps rest : List ScriptStep} {m : Moment} {i : Inbox Unit}

/-- What a script is still going to send. -/
def parts (r : ScriptRun) : List ResponsePart :=
  match r.phase with
  | .opening _ => r.behaviour.parts
  | .playing steps => r.behaviour.partsFrom steps
  | .finished => []
  | .refused => []

/-- What becomes of some steps: they wait, and after the end of the input for a timer only, or they
send the next part that is left. -/
inductive Played (b : Behaviour) (steps : List ScriptStep) (closed : Bool) :
    Turn ScriptPhase (ResponsePart × ScriptPhase) × Inbox Unit → Prop
  | waits {steps' : List ScriptStep} {i : Inbox Unit}
      (hparts : b.partsFrom steps' = b.partsFrom steps) (hwork : steps'.length ≤ steps.length)
      (honly : i.OnlyRequests) (hclosed : i.closed = closed)
      (hwhy : closed = true → ∃ due rest, steps' = .pause (.until due) :: rest) :
      Played b steps closed (.waiting (.playing steps'), i)
  | sends {part : ResponsePart} {phase : ScriptPhase} {i : Inbox Unit}
      (hparts : b.partsFrom steps = part :: ScriptRun.parts ⟨b, phase⟩)
      (hwork : ScriptRun.work ⟨b, phase⟩ < steps.length + 2)
      (honly : i.OnlyRequests) (hclosed : i.closed = closed) :
      Played b steps closed (.ready (part, phase), i)

/-- A step that sends nothing is left behind. -/
theorem Played.skip {closed : Bool} {step : ScriptStep}
    {t : Turn ScriptPhase (ResponsePart × ScriptPhase) × Inbox Unit}
    (h : Played b rest closed t) (hparts : b.partsFrom (step :: rest) = b.partsFrom rest) :
    Played b (step :: rest) closed t := by
  cases h with
  | waits hsame hwork honly hclosed hwhy =>
      exact .waits (hsame.trans hparts.symm) (Nat.le_succ_of_le hwork) honly hclosed hwhy
  | sends hsame hwork honly hclosed =>
      refine .sends (hparts.trans hsame) ?_ honly hclosed
      rw [List.length_cons]
      omega

/-- **What becomes of the steps of a script.** -/
theorem played (b : Behaviour) (m : Moment) (steps : List ScriptStep) {i : Inbox Unit}
    (honly : i.OnlyRequests) : Played b steps i.closed (play b m steps i) := by
  induction steps generalizing i with
  | nil => exact .sends rfl (Nat.succ_pos _) honly rfl
  | cons step rest ih =>
      cases step with
      | reply r => exact .sends rfl (Nat.lt_succ_self _) honly rfl
      | pause p =>
          rcases Pause.turn_cases p m with hover | ⟨due, hwaits⟩
          · simp only [play, hover]
            exact (ih honly).skip rfl
          · simp only [play, hwaits]
            exact .waits rfl (Nat.le_refl _) honly rfl fun _ => ⟨due, rest, rfl⟩
      | drain =>
          have hempty : Inbox.OnlyRequests ⟨[], i.closed⟩ := nofun
          cases hclosed : i.closed with
          | true =>
              have hrest := ih hempty
              simp only [play, drainInbox, hclosed] at hrest ⊢
              exact hrest.skip rfl
          | false =>
              rw [hclosed] at hempty
              simp only [play, drainInbox, hclosed]
              exact .waits rfl (Nat.le_refl _) hempty rfl nofun
      | receive =>
          obtain ⟨hleft, hclosed, hwhy⟩ := honly.read m
          rcases hread : Inbox.read m i.arrivals i.closed with ⟨_ | ⟨⟩, i'⟩
          · rw [hread] at hleft hclosed
            simp only [play, hread]
            have hrest : Played b (.receive :: rest) i'.closed (play b m rest i') :=
              (ih hleft).skip rfl
            rwa [hclosed] at hrest
          · rw [hread] at hleft hclosed hwhy
            simp only [play, hread]
            refine .waits rfl (Nat.le_refl _) hleft hclosed fun hover => ?_
            rw [hwhy rfl] at hover
            cases hover

/-- What becomes of a script that is being played. -/
inductive Turned (r : ScriptRun) (closed : Bool) :
    Turn ScriptRun (ResponsePart × ScriptRun) × Inbox Unit → Prop
  | waits {r' : ScriptRun} {i : Inbox Unit} (hparts : r'.parts = r.parts)
      (hwork : r'.work ≤ r.work) (honly : i.OnlyRequests) (hclosed : i.closed = closed)
      (hwhy : closed = true → r'.parts = [] ∨ ∃ due, r'.alarm = some due) :
      Turned r closed (.waiting r', i)
  | sends {part : ResponsePart} {r' : ScriptRun} {i : Inbox Unit}
      (hparts : r.parts = part :: r'.parts) (hwork : r'.work < r.work)
      (honly : i.OnlyRequests) (hclosed : i.closed = closed) :
      Turned r closed (.ready (part, r'), i)

theorem turned (r : ScriptRun) (m : Moment) (honly : i.OnlyRequests) :
    Turned r i.closed (r.turn m i) := by
  rcases r with ⟨b, p | steps | _ | _⟩
  · rcases Pause.turn_cases p m with hover | ⟨due, hwaits⟩
    · simp only [turn, hover]
      cases hrefusal : b.refusal with
      | none =>
          refine .sends ?_ ?_ honly rfl
          · simp only [parts, Behaviour.parts, hrefusal]
          · show b.steps.length + 2 < b.steps.length + 3
            omega
      | some s =>
          refine .sends ?_ (Nat.succ_pos _) honly rfl
          simp only [parts, Behaviour.parts, hrefusal]
    · simp only [turn, hwaits]
      exact .waits rfl (Nat.le_refl _) honly rfl fun _ => Or.inr ⟨due, rfl⟩
  · have hplayed := played b m steps honly
    simp only [turn]
    generalize play b m steps i = t at hplayed
    cases hplayed with
    | waits hparts hwork honly' hclosed hwhy =>
        refine .waits hparts (Nat.add_le_add_right hwork 2) honly' hclosed fun hover => ?_
        obtain ⟨due, rest, rfl⟩ := hwhy hover
        exact Or.inr ⟨due, rfl⟩
    | sends hparts hwork honly' hclosed => exact .sends hparts hwork honly' hclosed
  · exact .waits rfl (Nat.le_refl _) honly rfl fun _ => Or.inl rfl
  · exact .waits rfl (Nat.le_refl _) honly rfl fun _ => Or.inl rfl

/-- A script that still waits after its timer has fired has less to do than before. -/
theorem work_lt_of_fired {r r' : ScriptRun} {i' : Inbox Unit} {due : Instant}
    (honly : i.OnlyRequests) (halarm : r.alarm = some due)
    (hfired : Instant.fired due m.now = true) (hturn : r.turn m i = (.waiting r', i')) :
    r'.work < r.work := by
  have hover : (Pause.operation.turn (.until due) m).1 = .ready () := Pause.turn_of_fired hfired
  rcases r with ⟨b, (d | due') | (_ | ⟨_ | _ | (d | due') | _, rest⟩) | _ | _⟩ <;> cases halarm
  · simp only [turn, hover] at hturn
    split at hturn <;> cases hturn
  · have hplayed := played b m rest honly
    simp only [turn, play, hover] at hturn
    generalize play b m rest i = t at hplayed hturn
    cases hplayed with
    | sends => cases hturn
    | waits hparts hwork honly' hclosed hwhy =>
        cases hturn
        simp only [work, List.length_cons]
        omega

end ScriptRun

/-! ## Peers -/

namespace Peer

/-- All that the server's side is going to send has been decided, by a script at least. -/
def Scripted : Peer → Prop
  | .replying _ => True
  | .scripted _ i => i.OnlyRequests
  | _ => False

/-- What such a side is still going to send. -/
def parts : Peer → List ResponsePart
  | .replying parts => parts
  | .scripted run _ => run.parts
  | _ => []

/-- The client has closed its side, or nobody would notice. -/
def InputOver : Peer → Prop
  | .scripted _ i => i.closed = true
  | _ => True

/-- What a turn makes of such a side: it sends the next part that is left, or it waits, and after
the end of the input for a timer only. -/
inductive ScriptTurned (p : Peer) : Turn Peer (Option ResponsePart × Peer) → Prop
  | waits {p' : Peer} (hscripted : p'.Scripted) (hparts : p'.parts = p.parts)
      (hwork : p'.work ≤ p.work)
      (hover : p.InputOver → p'.InputOver ∧
        (p'.parts = [] ∨ ∃ due, ∀ now, p'.alarm now = some due)) :
      ScriptTurned p (.waiting p')
  | sends {part : ResponsePart} {p' : Peer} (hscripted : p'.Scripted)
      (hparts : p.parts = part :: p'.parts) (hwork : p'.work < p.work)
      (hover : p.InputOver → p'.InputOver) :
      ScriptTurned p (.ready (some part, p'))

/-- **What a turn of a scripted server makes of what is left.** -/
theorem scriptTurned {p : Peer} (h : p.Scripted) (now : Instant) :
    p.ScriptTurned (p.turn now) := by
  rcases p with (_ | ⟨part, rest⟩) | ⟨scope, state, inbox⟩ | ⟨headers, s, inbox, trailers⟩ |
    ⟨run, inbox⟩
  · exact .waits trivial rfl (Nat.le_refl _) fun _ => ⟨trivial, Or.inl rfl⟩
  · exact .sends trivial rfl (Nat.lt_succ_self _) fun _ => trivial
  · cases h
  · cases h
  · have honly : inbox.OnlyRequests := h
    have hturned := run.turned (moment now) honly
    simp only [turn]
    generalize run.turn (moment now) inbox = t at hturned
    cases hturned with
    | waits hparts hwork honly' hclosed hwhy =>
        refine .waits honly' hparts hwork fun hover => ⟨hclosed.trans hover, ?_⟩
        rcases hwhy hover with hdone | ⟨due, hdue⟩
        · exact Or.inl hdone
        · exact Or.inr ⟨due, fun _ => hdue⟩
    | sends hparts hwork honly' hclosed =>
        exact .sends honly' hparts hwork fun hover => hclosed.trans hover

theorem work_lt_of_fired {p p' : Peer} {due now earlier : Instant} (h : p.Scripted)
    (halarm : p.alarm earlier = some due) (hfired : Instant.fired due now = true)
    (hturn : p.turn now = .waiting p') : p'.work < p.work := by
  rcases p with parts | ⟨scope, state, inbox⟩ | ⟨headers, s, inbox, trailers⟩ | ⟨run, inbox⟩
  · cases halarm
  · cases h
  · cases h
  · have honly : inbox.OnlyRequests := h
    simp only [turn] at hturn
    rcases hrun : run.turn (moment now) inbox with ⟨⟨part, run'⟩ | run', inbox'⟩ <;>
      rw [hrun] at hturn <;> cases hturn
    exact ScriptRun.work_lt_of_fired honly halarm hfired hrun

theorem Scripted.push {p : Peer} (h : p.Scripted) (compressed : Bool) (q : Request) :
    (p.push compressed q).Scripted ∧ (p.push compressed q).parts = p.parts := by
  rcases p with parts | ⟨scope, state, inbox⟩ | ⟨headers, s, inbox, trailers⟩ | ⟨run, inbox⟩
  · exact ⟨trivial, rfl⟩
  · cases h
  · cases h
  · exact ⟨Inbox.OnlyRequests.push h, rfl⟩

theorem Scripted.close {p : Peer} (h : p.Scripted) :
    p.close.Scripted ∧ p.close.parts = p.parts ∧ p.close.InputOver := by
  rcases p with parts | ⟨scope, state, inbox⟩ | ⟨headers, s, inbox, trailers⟩ | ⟨run, inbox⟩
  · exact ⟨trivial, rfl, trivial⟩
  · cases h
  · cases h
  · exact ⟨h, rfl, rfl⟩

end Peer

/-! ## Calls -/

namespace Call

/-- All events of a call that its client has not taken: those that wait, and those of the parts
that are still to be sent. -/
def outstanding (c : Call) : List Event := c.waiting ++ c.reception.eventsOf c.peer.parts

/-- What becomes of a call to a scripted server that goes on. -/
structure Advanced (c c' : Call) : Prop where
  scripted : c'.peer.Scripted
  /-- Nothing is lost or added. -/
  outstanding : c'.outstanding = c.outstanding
  work : c'.peer.work ≤ c.peer.work
  /-- Once the input is over, only a timer keeps the server from its end. -/
  inputOver : c.peer.InputOver → c'.peer.InputOver ∧
    (c'.peer.parts = [] ∨ ∃ due, ∀ now, c'.peer.alarm now = some due)

variable {c : Call} {now : Instant}

theorem advanced_advanceWithin (h : c.peer.Scripted) {fuel : Nat} (hfuel : c.peer.work < fuel) :
    c.Advanced (advanceWithin now fuel c) := by
  induction fuel generalizing c with
  | zero => exact absurd hfuel (Nat.not_lt_zero _)
  | succ fuel ih =>
      have hturned := Peer.scriptTurned h now
      simp only [advanceWithin]
      generalize c.peer.turn now = t at hturned
      cases hturned with
      | waits hscripted hparts hwork hover =>
          refine ⟨hscripted, ?_, hwork, hover⟩
          simp only [Call.outstanding, hparts]
      | @sends part p' hscripted hparts hwork hover =>
          have hrest : Call.Advanced _ (advanceWithin now fuel
              { c with
                peer := p'
                reception := c.reception.after part
                waiting := c.waiting ++ c.reception.events part }) :=
            ih hscripted (Nat.lt_of_lt_of_le hwork (Nat.le_of_lt_succ hfuel))
          refine ⟨hrest.scripted, hrest.outstanding.trans ?_, ?_,
            fun hin => hrest.inputOver (hover hin)⟩
          · simp only [Call.outstanding, hparts, Reception.eventsOf, List.append_assoc]
          · exact Nat.le_trans hrest.work (Nat.le_of_lt hwork)

/-- **What becomes of a call to a scripted server that goes on.** -/
theorem advanced_advance (h : c.peer.Scripted) (now : Instant) : c.Advanced (c.advance now) := by
  have hwithin : c.Advanced (advanceWithin now (c.peer.work + 1) c) :=
    advanced_advanceWithin h (Nat.lt_succ_self c.peer.work)
  exact ⟨hwithin.scripted, hwithin.outstanding, hwithin.work, hwithin.inputOver⟩

/-- **A timer that has fired leaves the server less to do.** -/
theorem work_advance_lt {due earlier : Instant} (h : c.peer.Scripted)
    (halarm : c.peer.alarm earlier = some due) (hfired : Instant.fired due now = true) :
    (c.advance now).peer.work < c.peer.work := by
  have hturned := Peer.scriptTurned h now
  show (advanceWithin now (c.peer.work + 1) c).peer.work < c.peer.work
  simp only [advanceWithin]
  rcases hturn : c.peer.turn now with ⟨part, p'⟩ | p' <;> rw [hturn] at hturned
  · cases hturned with
    | @sends part p' hscripted hparts hwork hover =>
        have hrest : Call.Advanced _ (advanceWithin now c.peer.work
            { c with
              peer := p'
              reception := c.reception.after part
              waiting := c.waiting ++ c.reception.events part }) :=
          advanced_advanceWithin hscripted hwork
        exact Nat.lt_of_le_of_lt hrest.work hwork
  · exact Peer.work_lt_of_fired h halarm hfired hturn

end Call

end RpcConformance
