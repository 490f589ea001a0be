import RpcConformance.Proofs.HalfDuplex
import RpcConformance.Service.Reference

/-!
# What a response stream gives

A failure that the service makes up itself is plain: it has no metadata.  So is every failure of
a response stream, and every response of one is a message that a parameter of its requests asks
for, whatever the requests are and however the polls fall.  The request stream has to keep to the
same rules: its messages ask for messages of a given set, and it fails plainly.

## Main results

* `ResponseStream.proper_turn` — what a poll of a response stream gives is proper, and what is
  left stays proper.
-/

namespace RpcConformance

/-- A status without metadata. -/
def Status.Plain (st : Status) : Prop := st.metadata = .empty

/-- The message that a parameter asks for. -/
def ResponseParameters.reply (p : ResponseParameters) : Reply := .output (some p.payload)

/-- A request that asks for messages of a set. -/
def StreamingOutputRequest.Within (asked : Reply → Prop) (r : StreamingOutputRequest) : Prop :=
  ∀ p ∈ r.parameters, asked p.reply

/-- A response out of those that are asked for, the end, or a plain failure. -/
def Item.Proper (asked : Reply → Prop) : Item → Prop
  | .response payload => asked (.output (some payload))
  | .failed st => st.Plain
  | .finished => True

/-- What a poll for an item gives is proper, and so is what is left. -/
inductive ProperTurn {σ : Type} (asked : Reply → Prop) (P : σ → Prop) :
    Turn σ (Item × σ) → Prop
  | waits {s : σ} (h : P s) : ProperTurn asked P (.waiting s)
  | gives {i : Item} {s : σ} (hi : i.Proper asked) (h : P s) : ProperTurn asked P (.ready (i, s))

/-! ## Scopes and requests -/

namespace Scope

theorem failure?_plain {s : Scope} {m : Moment} {st : Status} (h : s.failure? m = some st) :
    st.Plain := by
  unfold failure? at h
  split at h
  · cases h
    rfl
  · split at h
    · cases h
      rfl
    · cases h

theorem overrule_plain {s : Scope} {m : Moment} {st : Status} (h : st.Plain) :
    (s.overrule m st).Plain := by
  unfold overrule
  split
  · rename_i own hown
    split
    · exact h
    · exact failure?_plain hown
  · exact h

end Scope

theorem requestedStatus?_plain {s : Option EchoStatus} {st : Status}
    (h : requestedStatus? s = some st) : st.Plain := by
  unfold requestedStatus? at h
  split at h
  · split at h
    · cases h
    · cases h
      rfl
  · cases h

theorem PayloadError.plain_toStatus (e : PayloadError) : e.toStatus.Plain := by
  cases e <;> rfl

theorem RequestFault.plain {kind : Int} {parameters : List ResponseParameters} {st : Status}
    (h : RequestFault kind parameters st) : st.Plain := by
  cases h with
  | kind => rfl
  | parameter _ _ _ hfault => cases hfault <;> rfl

/-! ## Request streams -/

section Requests

variable {ρ : Type} {good : ρ → Prop}

/-- A request of some kind, a pause, or a plain failure. -/
def Arrival.Proper (good : ρ → Prop) : Arrival ρ → Prop
  | .message r => good r
  | .failure st => st.Plain
  | .pause _ => True

def Inbox.Proper (good : ρ → Prop) (i : Inbox ρ) : Prop := ∀ a ∈ i.arrivals, a.Proper good

/-- What is read of a request stream: a request of some kind, the end, or a plain failure. -/
def ProperRead (good : ρ → Prop) : Except Status (Option ρ) → Prop
  | .ok (some r) => good r
  | .ok none => True
  | .error st => st.Plain

namespace Inbox

theorem proper_nil (closed : Bool) : Proper good ⟨[], closed⟩ :=
  fun _ ha => absurd ha List.not_mem_nil

theorem proper_push {i : Inbox ρ} {a : Arrival ρ} (h : i.Proper good) (ha : a.Proper good) :
    (i.push a).Proper good := by
  intro b hb
  rcases List.mem_append.mp hb with hold | hnew
  · exact h b hold
  · rw [List.mem_singleton.mp hnew]
    exact ha

theorem proper_read (m : Moment) {arrivals : List (Arrival ρ)} (closed : Bool)
    (h : ∀ a ∈ arrivals, a.Proper good) :
    (∀ result, (read m arrivals closed).1 = .ready result → ProperRead good result) ∧
      (read m arrivals closed).2.Proper good := by
  induction arrivals with
  | nil =>
      refine ⟨?_, proper_nil closed⟩
      intro result hresult
      simp only [read] at hresult
      split at hresult <;> cases hresult
      trivial
  | cons a rest ih =>
      have ha := h a List.mem_cons_self
      have hrest : ∀ a ∈ rest, a.Proper good := fun a ha => h a (List.mem_cons_of_mem _ ha)
      cases a with
      | message r =>
          refine ⟨?_, hrest⟩
          intro result hresult
          cases hresult
          exact ha
      | failure own =>
          refine ⟨?_, proper_nil true⟩
          intro result hresult
          simp only [read] at hresult
          split at hresult <;> cases hresult
          · trivial
          · exact ha
      | pause p =>
          simp only [read]
          rcases Pause.operation.turn p m with ⟨_ | p', _⟩
          · exact ih hrest
          · refine ⟨fun _ hresult => (by cases hresult), ?_⟩
            intro a ha
            rcases List.mem_cons.mp ha with rfl | ha
            · trivial
            · exact hrest a ha

/-- A guarded read is proper, and leaves proper requests. -/
theorem proper_guarded_read (scope : Scope) (g : Scope.Guarded Unit) {w : Seat ρ}
    (h : w.inbox.Proper good) :
    (∀ result, ((scope.guard next).turn g w).1 = .ready result → ProperRead good result) ∧
      ((scope.guard next).turn g w).2.inbox.Proper good := by
  obtain ⟨hread, hleft⟩ := proper_read w.moment w.inbox.closed h
  constructor
  · intro result hresult
    rcases hturn : (scope.guard next).turn g w with ⟨t, w'⟩
    rw [hturn] at hresult
    dsimp only at hresult
    rw [hresult] at hturn
    rcases result with st | r
    · rcases Scope.guard_turn_error scope next hturn with ⟨hown, _⟩ | ⟨own, hown, rfl⟩
      · exact Scope.failure?_plain hown
      · exact Scope.overrule_plain (hread (.error own) (congrArg Prod.fst hown))
    · obtain ⟨_, hok⟩ := Scope.guard_turn_ok scope next hturn
      exact hread (.ok r) (congrArg Prod.fst hok)
  · rcases scope.guard_turn_world next g w with hsame | hturn
    · rw [hsame]
      exact h
    · rw [hturn]
      exact hleft

end Inbox

/-- What comes of reading a whole request stream keeps to what holds of a collection, or is a
plain failure. -/
inductive Collected.ProperTurn {σ : Type} (P : σ → Prop) :
    Turn (Collected σ) (Except Status σ) → Prop
  | waits {c : Collected σ} (h : P c.soFar) : ProperTurn P (.waiting c)
  | fails {st : Status} (h : st.Plain) : ProperTurn P (.ready (.error st))
  | collects {s : σ} (h : P s) : ProperTurn P (.ready (.ok s))

theorem Collected.proper_turnWithin {σ : Type} {P : σ → Prop} (scope : Scope) {step : σ → ρ → σ}
    (hstep : ∀ s r, P s → good r → P (step s r)) {fuel : Nat} {c : Collected σ} {w : Seat ρ}
    (hc : P c.soFar) (hinbox : w.inbox.Proper good) :
    Collected.ProperTurn P (turnWithin scope step fuel c w).1 ∧
      (turnWithin scope step fuel c w).2.inbox.Proper good := by
  induction fuel generalizing c w with
  | zero => exact ⟨.waits hc, hinbox⟩
  | succ fuel ih =>
      have hread := Inbox.proper_guarded_read scope c.reading hinbox
      rcases hturn : (scope.guard Inbox.next).turn c.reading w with ⟨⟨st | _ | r⟩ | g', w'⟩ <;>
        simp only [turnWithin, hturn] <;> rw [hturn] at hread
      · exact ⟨.fails (hread.1 _ rfl), hread.2⟩
      · exact ⟨.collects hc, hread.2⟩
      · exact ih (hstep _ r hc (hread.1 _ rfl)) hread.2
      · exact ⟨.waits hc, hread.2⟩

end Requests

/-! ## Response streams -/

variable {asked : Reply → Prop}

/-- A stream that has left to send what is asked for, and closes plainly, if with a status at
all. -/
structure OutputStream.Proper (asked : Reply → Prop) (s : OutputStream) : Prop where
  parameters : ∀ p ∈ s.parameters, asked p.reply
  closing : ∀ st, s.closing = some st → st.Plain

namespace OutputStream

theorem proper_forRequest (scope : Scope) {r : StreamingOutputRequest} (h : r.Within asked) :
    (forRequest scope r).Proper asked :=
  ⟨h, fun _ hst => requestedStatus?_plain hst⟩

theorem proper_advance {s : OutputStream} (h : s.Proper asked)
    (pause : Option (Scope.Guarded Pause)) (m : Moment) :
    ProperTurn asked (Proper asked) (s.advance pause m) := by
  unfold advance
  split
  · split
    · rename_i st hclosing
      exact .gives (h.closing st hclosing) ⟨h.parameters, h.closing⟩
    · exact .gives trivial ⟨h.parameters, h.closing⟩
  · rename_i p rest hparameters
    rcases s.scope.sleep_turn_cases (pause.getD (.fresh (.fresh p.interval))) m with
      ⟨st, hfailure, hturn⟩ | ⟨_, _, hturn⟩ | ⟨_, _, hturn⟩
    · rw [hturn]
      exact .gives (Scope.failure?_plain hfailure) ⟨h.parameters, h.closing⟩
    · rw [hturn]
      dsimp only
      split
      · rename_i e he
        exact .gives e.plain_toStatus ⟨h.parameters, h.closing⟩
      · rename_i payload hpayload
        have hall := h.parameters
        rw [hparameters] at hall
        refine .gives ?_ ⟨fun q hq => hall q (List.mem_cons_of_mem p hq), h.closing⟩
        rw [show payload = p.payload from eq_of_zeros hpayload]
        exact hall p List.mem_cons_self
    · rw [hturn]
      exact .waits ⟨h.parameters, h.closing⟩

theorem proper_turn {s : OutputStream} (h : s.Proper asked) (m : Moment) :
    ProperTurn asked (Proper asked) (s.turn m) := by
  unfold turn
  split
  · exact .gives trivial h
  · split
    · rename_i st hrefused
      exact .gives (admitRequest_error_iff.mp hrefused).plain ⟨h.parameters, h.closing⟩
    · exact proper_advance h none m
  · exact proper_advance h none m
  · exact proper_advance h _ m

end OutputStream

namespace FullDuplex

/-- The responses that are given are proper ones. -/
def PhaseProper (asked : Reply → Prop) : FullDuplexPhase → Prop
  | .answering s => s.Proper asked
  | _ => True

theorem proper_turnWithin (scope : Scope) (fuel : Nat) {phase : FullDuplexPhase}
    {w : Seat StreamingOutputRequest} (hphase : PhaseProper asked phase)
    (hinbox : w.inbox.Proper (·.Within asked)) :
    ProperTurn asked (PhaseProper asked) (turnWithin scope fuel phase w).1 ∧
      (turnWithin scope fuel phase w).2.inbox.Proper (·.Within asked) := by
  induction fuel generalizing phase w with
  | zero => exact ⟨.waits hphase, hinbox⟩
  | succ fuel ih =>
      cases phase with
      | ended => exact ⟨.gives trivial trivial, hinbox⟩
      | reading g =>
          have hread := Inbox.proper_guarded_read scope g hinbox
          rcases hturn : (scope.guard Inbox.next).turn g w with ⟨⟨st | _ | r⟩ | g', w'⟩ <;>
            simp only [turnWithin, hturn] <;> rw [hturn] at hread
          · exact ⟨.gives (hread.1 _ rfl) trivial, hread.2⟩
          · exact ⟨.gives trivial trivial, hread.2⟩
          · exact ih (OutputStream.proper_forRequest scope (hread.1 _ rfl)) hread.2
          · exact ⟨.waits trivial, hread.2⟩
      | answering s =>
          have hpoll := OutputStream.proper_turn hphase w.moment
          rcases hturn : s.turn w.moment with ⟨(p | st | _), s'⟩ | s' <;>
            simp only [turnWithin, hturn] <;> rw [hturn] at hpoll <;> cases hpoll
          · rename_i hi hs
            exact ⟨.gives hi hs, hinbox⟩
          · rename_i hi _
            exact ⟨.gives hi trivial, hinbox⟩
          · exact ih trivial hinbox
          · rename_i hs
            exact ⟨.waits hs, hinbox⟩

end FullDuplex

namespace HalfDuplex

/-- The responses that are given and the requests that are still to be answered are proper
ones. -/
def PhaseProper (asked : Reply → Prop) : HalfDuplexPhase → Prop
  | .buffering c => ∀ r ∈ c.soFar, r.Within asked
  | .answering s rest => s.Proper asked ∧ ∀ r ∈ rest, r.Within asked
  | .ended => True

theorem proper_answerAll (scope : Scope) (m : Moment) {requests : List StreamingOutputRequest}
    (h : ∀ r ∈ requests, r.Within asked) :
    ProperTurn asked (PhaseProper asked) (answerAll scope m requests) := by
  induction requests with
  | nil => exact .gives trivial trivial
  | cons r rest ih =>
      obtain ⟨hr, hrest⟩ := List.forall_mem_cons.mp h
      have hpoll := OutputStream.proper_turn (OutputStream.proper_forRequest scope hr) m
      rw [answerAll, answer_eq]
      rcases hturn : (OutputStream.forRequest scope r).turn m with ⟨(p | st | _), s'⟩ | s' <;>
        rw [hturn] at hpoll <;> cases hpoll
      · rename_i hi hs
        exact .gives hi ⟨hs, hrest⟩
      · rename_i hi _
        exact .gives hi trivial
      · exact ih hrest
      · rename_i hs
        exact .waits ⟨hs, hrest⟩

theorem proper_answer (scope : Scope) (m : Moment) {s : OutputStream} (h : s.Proper asked)
    {rest : List StreamingOutputRequest} (hrest : ∀ r ∈ rest, r.Within asked) :
    ProperTurn asked (PhaseProper asked) (answer scope m s rest) := by
  have hpoll := OutputStream.proper_turn h m
  rw [answer_eq]
  rcases hturn : s.turn m with ⟨(p | st | _), s'⟩ | s' <;> rw [hturn] at hpoll <;> cases hpoll
  · rename_i hi hs
    exact .gives hi ⟨hs, hrest⟩
  · rename_i hi _
    exact .gives hi trivial
  · exact proper_answerAll scope m hrest
  · rename_i hs
    exact .waits ⟨hs, hrest⟩

theorem proper_phaseTurn (scope : Scope) {phase : HalfDuplexPhase}
    {w : Seat StreamingOutputRequest} (hphase : PhaseProper asked phase)
    (hinbox : w.inbox.Proper (·.Within asked)) :
    ProperTurn asked (PhaseProper asked) (phaseTurn scope phase w).1 ∧
      (phaseTurn scope phase w).2.inbox.Proper (·.Within asked) := by
  cases phase with
  | ended => exact ⟨.gives trivial trivial, hinbox⟩
  | answering s rest => exact ⟨proper_answer scope w.moment hphase.1 hphase.2, hinbox⟩
  | buffering state =>
      have hstep : ∀ (requests : List StreamingOutputRequest) (r : StreamingOutputRequest),
          (∀ q ∈ requests, q.Within asked) → r.Within asked →
            ∀ q ∈ requests ++ [r], q.Within asked := by
        intro requests r hrequests hr q hq
        rcases List.mem_append.mp hq with hq | hq
        · exact hrequests q hq
        · rw [List.mem_singleton.mp hq]
          exact hr
      have hbuffer : Collected.ProperTurn (∀ r ∈ ·, r.Within asked)
            ((buffer scope).turn state w).1 ∧
          ((buffer scope).turn state w).2.inbox.Proper (·.Within asked) :=
        Collected.proper_turnWithin scope hstep hphase hinbox
      rcases hturn : (buffer scope).turn state w with ⟨⟨st | requests⟩ | state', w'⟩ <;>
        simp only [phaseTurn, hturn] <;> rw [hturn] at hbuffer <;>
        obtain ⟨hcollected, hleft⟩ := hbuffer <;> cases hcollected
      · rename_i hst
        exact ⟨.gives hst trivial, hleft⟩
      · rename_i hrequests
        exact ⟨proper_answerAll scope w'.moment hrequests, hleft⟩
      · rename_i hsoFar
        exact ⟨.waits hsoFar, hleft⟩

end HalfDuplex

namespace ResponseStream

/-- What is left of the stream is proper. -/
def Proper (asked : Reply → Prop) : ResponseStream → Prop
  | .output s => s.Proper asked
  | .fullDuplex d => FullDuplex.PhaseProper asked d.phase
  | .halfDuplex d => HalfDuplex.PhaseProper asked d.phase

/-- **A response stream fails plainly and gives what is asked for**, at every poll and of every
kind. -/
theorem proper_turn {s : ResponseStream} {w : Seat StreamingOutputRequest} (h : s.Proper asked)
    (hinbox : w.inbox.Proper (·.Within asked)) :
    ProperTurn asked (Proper asked) (s.turn w).1 ∧
      (s.turn w).2.inbox.Proper (·.Within asked) := by
  cases s with
  | output s =>
      have hpoll := OutputStream.proper_turn h w.moment
      rcases hturn : s.turn w.moment with ⟨i, s'⟩ | s' <;> simp only [turn, hturn] <;>
        rw [hturn] at hpoll <;> cases hpoll
      · rename_i hi hs
        exact ⟨.gives hi hs, hinbox⟩
      · rename_i hs
        exact ⟨.waits hs, hinbox⟩
  | fullDuplex d =>
      obtain ⟨hpoll, hleft⟩ := FullDuplex.proper_turnWithin d.scope
        (2 * w.inbox.arrivals.length + 3) h hinbox
      rcases hturn : FullDuplex.turnWithin d.scope (2 * w.inbox.arrivals.length + 3) d.phase w
        with ⟨⟨i, phase⟩ | phase, w'⟩ <;> simp only [turn, FullDuplex.turn, hturn] <;>
        rw [hturn] at hpoll hleft <;> cases hpoll
      · rename_i hi hs
        exact ⟨.gives hi hs, hleft⟩
      · rename_i hs
        exact ⟨.waits hs, hleft⟩
  | halfDuplex d =>
      obtain ⟨hpoll, hleft⟩ := HalfDuplex.proper_phaseTurn d.scope h hinbox
      rcases hturn : HalfDuplex.phaseTurn d.scope d.phase w with ⟨⟨i, phase⟩ | phase, w'⟩ <;>
        simp only [turn, HalfDuplex.turn, hturn] <;> rw [hturn] at hpoll hleft <;> cases hpoll
      · rename_i hi hs
        exact ⟨.gives hi hs, hleft⟩
      · rename_i hs
        exact ⟨.waits hs, hleft⟩

end ResponseStream

end RpcConformance
