import RpcConformance.Proofs.FullDuplex
import RpcConformance.Proofs.HalfDuplex
import RpcConformance.Service.Reference

/-!
# What a stream is still going to give

A *forecast* says of a stream in its seat which payloads it is still going to give and how it
ends, as far as its client has said so yet.  A forecast is sound where every poll does what it
says: it gives the first of the payloads, or the end behind the last of them, or it waits, and
then the stream is in a pause whose timer will make it go on, or its client is to speak first.

There are three sound forecasts, one for each kind of stream.  Both conversations have theirs from
what has been given of the dialogue so far.

## Main results

* `OutputStream.forecast_sound`, `FullDuplex.forecast_sound`, `HalfDuplex.forecast_sound` — the
  three forecasts.
* `FullDuplex.Forecast.sent`, `FullDuplex.Forecast.closed`, `HalfDuplex.Forecast.sent`,
  `HalfDuplex.Forecast.closed` — what the client adds to a forecast.
-/

namespace RpcConformance

/-! ## Pauses -/

/-- The stream is in a pause before one of its responses, and no deadline ends it. -/
structure OutputStream.Pausing (s : OutputStream) (due : Instant) : Prop where
  unlimited : s.scope.deadline = none
  parameters : s.parameters ≠ []
  phase : s.phase = .pausing (.racing (.until due))

/-- A pause of a stream without a deadline. -/
theorem PausedIn.pausing {r : StreamingOutputRequest} {now : Instant} {s : OutputStream}
    (h : PausedIn r now s) (hunlimited : s.scope.deadline = none) : ∃ due, s.Pausing due := by
  obtain ⟨begun, p, _, _, hparameters, hphase⟩ := h
  exact ⟨begun.later p.interval, hunlimited, hparameters, hphase⟩

namespace OutputStream.Pausing

variable {s : OutputStream} {due : Instant} {m : Moment}

theorem alarm (h : s.Pausing due) (hsignals : m.cancelled = []) : s.alarm m = some due := by
  have hsignal : s.scope.isCancelled m = false := by
    rw [Scope.isCancelled, Moment.isCancelled, hsignals]
    rfl
  rw [OutputStream.alarm, h.phase]
  show (if s.scope.isCancelled m then some Instant.start
    else Instant.earliest s.scope.deadline (some due)) = some due
  rw [hsignal, h.unlimited]
  rfl

theorem turn (h : s.Pausing due) (hfired : Instant.fired due m.now = true) :
    ∃ i s', s.turn m = .ready (i, s') ∧ i ≠ .finished := by
  obtain ⟨i, s', hadvance, hitem⟩ :=
    OutputStream.advance_of_fired s (g := .racing (.until due)) hfired
  refine ⟨i, s', ?_, hitem h.parameters⟩
  simp only [OutputStream.turn, h.phase]
  exact hadvance

end OutputStream.Pausing

namespace ResponseStream

/-- The stream is in a pause before one of its responses. -/
inductive Pausing (due : Instant) : ResponseStream → Prop
  | output {s : OutputStream} (h : s.Pausing due) : Pausing due (.output s)
  | fullDuplex {scope : Scope} {s : OutputStream} (h : s.Pausing due) :
      Pausing due (.fullDuplex ⟨scope, .answering s⟩)
  | halfDuplex {scope : Scope} {s : OutputStream} {rest : List StreamingOutputRequest}
      (h : s.Pausing due) : Pausing due (.halfDuplex ⟨scope, .answering s rest⟩)

variable {due : Instant} {st : ResponseStream} {w : Seat StreamingOutputRequest}

theorem Pausing.alarm (h : st.Pausing due) (hsignals : w.moment.cancelled = []) :
    st.alarm w = some due := by
  cases h with
  | output h => exact h.alarm hsignals
  | fullDuplex h => exact h.alarm hsignals
  | halfDuplex h => exact h.alarm hsignals

/-- The end of a pause makes the stream go on. -/
theorem Pausing.turn (h : st.Pausing due) (hfired : Instant.fired due w.moment.now = true) :
    ∃ i st' w', st.turn w = (.ready (i, st'), w') := by
  cases h with
  | @output s h =>
      obtain ⟨i, s', hturn, _⟩ := h.turn hfired
      exact ⟨i, .output s', w, by simp only [ResponseStream.turn, hturn]⟩
  | @fullDuplex scope s h =>
      obtain ⟨i, s', hturn, hi⟩ := h.turn hfired
      obtain ⟨phase, hready⟩ :=
        FullDuplex.turnWithin_of_ready scope (2 * w.inbox.arrivals.length + 2) hturn hi
      exact ⟨i, .fullDuplex ⟨scope, phase⟩, w,
        by simp only [ResponseStream.turn, FullDuplex.turn, hready]⟩
  | @halfDuplex scope s rest h =>
      obtain ⟨i, s', hturn, hi⟩ := h.turn hfired
      obtain ⟨phase, hready⟩ := HalfDuplex.answer_of_ready scope rest hturn hi
      exact ⟨i, .halfDuplex ⟨scope, phase⟩, w,
        by simp only [ResponseStream.turn, HalfDuplex.turn, HalfDuplex.phaseTurn, hready]⟩

end ResponseStream

/-! ## Forecasts -/

/-- What streams are still going to give: some payloads, and then an end, or none as long as the
client goes on. -/
abbrev Forecast : Type :=
  List Payload → Option Item → Seat StreamingOutputRequest → ResponseStream → Prop

namespace Forecast

/-- A poll does what was foretold. -/
inductive Foretold (F : Forecast) (payloads : List Payload) (ending : Option Item) (m : Moment) :
    Turn ResponseStream (Item × ResponseStream) × Seat StreamingOutputRequest → Prop
  | pauses {due : Instant} {st : ResponseStream} {w : Seat StreamingOutputRequest}
      (hmoment : w.moment = m) (h : F payloads ending w st) (hpausing : st.Pausing due) :
      Foretold F payloads ending m (.waiting st, w)
  | listens {st : ResponseStream} {w : Seat StreamingOutputRequest}
      (hmoment : w.moment = m) (h : F payloads ending w st) (hpayloads : payloads = [])
      (hending : ending = none) : Foretold F payloads ending m (.waiting st, w)
  | gives {p : Payload} {rest : List Payload} {st : ResponseStream}
      {w : Seat StreamingOutputRequest} (hmoment : w.moment = m) (hpayloads : payloads = p :: rest)
      (h : F rest ending w st) : Foretold F payloads ending m (.ready (.response p, st), w)
  | ends {item : Item} {st : ResponseStream} {w : Seat StreamingOutputRequest}
      (hmoment : w.moment = m) (hpayloads : payloads = []) (hending : ending = some item)
      (hitem : ∀ p, item ≠ .response p) : Foretold F payloads ending m (.ready (item, st), w)

/-- Time and polls do what was foretold. -/
structure Sound (F : Forecast) : Prop where
  pass : ∀ {payloads ending st w} (d : Duration), F payloads ending w st →
    F payloads ending { w with moment := w.moment.after ⟨d, []⟩ } st
  poll : ∀ {payloads ending st w}, w.moment.cancelled = [] → F payloads ending w st →
    F.Foretold payloads ending w.moment (st.turn w)

/-- The items that a forecast names. -/
def items (payloads : List Payload) (ending : Option Item) : List Item :=
  payloads.map .response ++ ending.toList

end Forecast

/-- Without signals, nothing triggers a scope without a deadline. -/
theorem Scope.untriggered_of_unlimited {scope : Scope} {m : Moment}
    (hdeadline : scope.deadline = none) (hsignals : m.cancelled = []) :
    scope.failure? m = none := by
  refine failure?_eq_none_iff.mpr ⟨?_, ?_⟩
  · rw [isCancelled, Moment.isCancelled, hsignals]
    rfl
  · rw [isExpired, hdeadline]

/-! ### The responses to one request -/

namespace OutputStream

/-- The last item of a stream. -/
def closingItem : Option Status → Item
  | some st => .failed st
  | none => .finished

/-- The responses to the parameters that are left, and then the end. -/
inductive Forecast : RpcConformance.Forecast
  | mk {scope : Scope} {left : List ResponseParameters} {closing : Option Status}
      {phase : OutputPhase} {last : Instant} {w : Seat StreamingOutputRequest}
      (hdeadline : scope.deadline = none) (hleft : Answerable Payload.compressable left)
      (hlast : last ≤ w.moment.now) (hphase : Pausable last w.moment.now left phase) :
      Forecast (left.map ResponseParameters.payload) (some (closingItem closing)) w
        (.output ⟨scope, Payload.compressable, left, closing, phase⟩)

theorem forecast_start {scope : Scope} (hdeadline : scope.deadline = none)
    {parameters : List ResponseParameters}
    (hparameters : Answerable Payload.compressable parameters) (closing : Option Status) (w : Seat StreamingOutputRequest) :
    Forecast (parameters.map ResponseParameters.payload) (some (closingItem closing)) w
      (.output (start scope Payload.compressable parameters closing)) :=
  .mk hdeadline hparameters (Instant.le_refl w.moment.now) .unchecked

/-- **A stream gives the responses that are left**, and then its end. -/
theorem forecast_sound : Forecast.Sound Forecast where
  pass {_ _ _ w} d h := by
    have hlater := w.moment.now_le_after ⟨d, []⟩
    cases h with
    | mk hdeadline hleft hlast hphase =>
        exact .mk hdeadline hleft (Instant.le_trans hlast hlater) (hphase.mono hlater)
  poll {payloads ending st w} hsignals h := by
    cases h with
    | @mk scope left closing phase last _ hdeadline hleft hlast hphase =>
        have huntriggered := Scope.untriggered_of_unlimited hdeadline hsignals
        obtain ⟨pause, hturn, hpause⟩ := turn_of_pausable scope closing hphase hleft hlast
        simp only [ResponseStream.turn, hturn]
        cases left with
        | nil =>
            rw [advance_nil rfl]
            cases closing <;> exact .ends rfl rfl rfl nofun
        | cons p rest =>
            obtain ⟨begun, hbegun, hnow, hdue⟩ := hpause p rest rfl
            have hsize : 0 ≤ p.size := (hleft.2 p List.mem_cons_self).1
            have hrest : Answerable Payload.compressable rest :=
              ⟨rfl, fun q hq => hleft.2 q (List.mem_cons_of_mem p hq)⟩
            rcases advance_cons (s := ⟨scope, Payload.compressable, p :: rest, closing, phase⟩)
              rfl rfl hsize pause w.moment with
              ⟨st, htriggered, _⟩ | ⟨_, _, hadvance⟩ | ⟨_, _, hadvance⟩
            · rw [show scope.failure? w.moment = some st from htriggered] at huntriggered
              cases huntriggered
            · rw [hadvance]
              exact .gives rfl rfl
                (.mk hdeadline hrest (Instant.le_refl w.moment.now) .idle)
            · rw [hadvance, hdue]
              have hpausing : OutputStream.Pausing ⟨scope, Payload.compressable, p :: rest, closing,
                  .pausing (.racing (.until (begun.later p.interval)))⟩
                  (begun.later p.interval) :=
                ⟨hdeadline, List.cons_ne_nil p rest, rfl⟩
              exact .pauses rfl (.mk hdeadline hleft hlast (.pausing rfl hbegun hnow))
                (.output hpausing)

end OutputStream

/-! ### Conversations -/

/-- A stream of responses to one request stays in the scope of its conversation. -/
theorem Followed.scope_eq {scope : Scope} {r : StreamingOutputRequest} {now : Instant}
    {given : List Item} {s : OutputStream} (h : Followed scope r now given s) :
    s.scope = scope := by
  cases h <;> rfl

namespace InputEnd

theorem closing_ne_nil {e : InputEnd} (hover : e ≠ .ongoing) : e.closing ≠ [] := by
  cases hfailure : e.failure? with
  | none =>
      rw [closing_of_over hover hfailure]
      exact List.cons_ne_nil _ _
  | some st =>
      rw [closing_of_failure hfailure]
      exact List.cons_ne_nil _ _

theorem closing_ne_response {e : InputEnd} (p : Payload) : e.closing ≠ [.response p] := by
  by_cases hongoing : e = .ongoing
  · rw [hongoing]
    exact nofun
  · cases hfailure : e.failure? with
    | none =>
        rw [closing_of_over hongoing hfailure]
        exact nofun
    | some st =>
        rw [closing_of_failure hfailure]
        exact nofun

end InputEnd

theorem ClientSide.hear_pass {ρ : Type} (c : ClientSide ρ) (g : Gap) :
    c.hear (.event (.pass g)) = c := by
  rcases c with ⟨requests, _ | _ | _⟩ <;> rfl

/-- What is left of a script of which some items have been given. -/
structure ClientSide.Left (c : ClientSide StreamingOutputRequest) (script given : List Item)
    (payloads : List Payload) (ending : Option Item) : Prop where
  closing : c.ending.closing = ending.toList
  rest : given ++ Forecast.items payloads ending = script

namespace ClientSide.Left

variable {c : ClientSide StreamingOutputRequest} {script given : List Item}
  {payloads : List Payload} {ending : Option Item} {item : Item}

theorem nothing (h : c.Left script given payloads ending) (hall : given = script) :
    payloads = [] ∧ ending = none := by
  have hrest : given ++ Forecast.items payloads ending = given ++ [] := by
    rw [h.rest, hall, List.append_nil]
  have hitems : payloads.map Item.response ++ ending.toList = [] := List.append_cancel_left hrest
  obtain ⟨hpayloads, hending⟩ := List.append_eq_nil_iff.mp hitems
  exact ⟨List.map_eq_nil_iff.mp hpayloads, Option.toList_eq_nil_iff.mp hending⟩

/-- The end of a script is not repeated before it has come. -/
theorem isPrefix (h : c.Left script given payloads ending) (hover : c.ending ≠ .ongoing)
    {again : Nat} (hnext : given ++ [item] = script ++ List.replicate again .finished) :
    given ++ [item] <+: script := by
  have hending : 0 < ending.toList.length := by
    rw [← h.closing]
    exact List.length_pos_iff.mpr (InputEnd.closing_ne_nil hover)
  have hlength := congrArg List.length hnext
  rw [← h.rest, Forecast.items] at hlength
  simp only [List.length_append, List.length_map, List.length_replicate, List.length_cons,
    List.length_nil] at hlength
  have hagain : again = 0 := by omega
  rw [hagain, List.replicate_zero, List.append_nil] at hnext
  exact ⟨[], by rw [hnext, List.append_nil]⟩

/-- **The next item of a script** is a response, or the end behind all of them. -/
theorem next (h : c.Left script given payloads ending) (hnext : given ++ [item] <+: script) :
    (∃ p rest, item = .response p ∧ payloads = p :: rest ∧
      c.Left script (given ++ [item]) rest ending) ∨
    (payloads = [] ∧ ending = some item ∧ ∀ p, item ≠ .response p) := by
  rw [← h.rest] at hnext
  obtain ⟨tail, htail⟩ := (List.prefix_append_right_inj _).mp hnext
  rw [List.singleton_append, Forecast.items] at htail
  cases payloads with
  | cons p rest =>
      obtain ⟨rfl, rfl⟩ := List.cons.inj htail
      refine Or.inl ⟨p, rest, rfl, rfl, h.closing, ?_⟩
      rw [← h.rest, List.append_assoc]
      rfl
  | nil =>
      have hending : ending = some item := by
        cases ending with
        | none => cases htail
        | some last => cases htail; rfl
      refine Or.inr ⟨rfl, hending, ?_⟩
      rintro p rfl
      have hclosing := h.closing
      rw [hending] at hclosing
      exact InputEnd.closing_ne_response _ hclosing

/-- An item that the script has next was foretold. -/
theorem foretold (h : c.Left script given payloads ending) (hnext : given ++ [item] <+: script)
    {F : Forecast} {m : Moment} {w : Seat StreamingOutputRequest} {st : ResponseStream}
    (hmoment : w.moment = m)
    (hF : ∀ rest, c.Left script (given ++ [item]) rest ending → F rest ending w st) :
    F.Foretold payloads ending m (.ready (item, st), w) := by
  rcases h.next hnext with ⟨p, rest, rfl, rfl, hleft⟩ | ⟨rfl, rfl, hitem⟩
  · exact .gives hmoment rfl (hF rest hleft)
  · exact .ends hmoment rfl rfl hitem

end ClientSide.Left

namespace FullDuplex

theorem Engaged.scope_answering {scope : Scope} {c : ClientSide StreamingOutputRequest}
    {items : List Item} {s : OutputStream} {w : Seat StreamingOutputRequest}
    (h : Engaged scope c items (.answering s) w) : s.scope = scope := by
  cases h with
  | answering _ _ _ hs => exact hs.scope_eq

/-- An inbox is open as long as its client goes on. -/
theorem Engaged.inbox_open {scope : Scope} {c : ClientSide StreamingOutputRequest}
    {items : List Item} {phase : FullDuplexPhase} {w : Seat StreamingOutputRequest}
    (h : Engaged scope c items phase w) (hongoing : c.ending = .ongoing) :
    w.inbox.closed = false := by
  cases h with
  | reading _ hinbox _ => rw [hinbox, hongoing]; rfl
  | answering _ hinbox _ _ => rw [hinbox, hongoing]; rfl
  | failed _ _ hinbox _ _ => rw [hinbox, hongoing]; rfl
  | closed _ hover _ _ => exact absurd hongoing hover

/-- What has been asked for and has not been given. -/
inductive Forecast (c : ClientSide StreamingOutputRequest) : RpcConformance.Forecast
  | mk {scope : Scope} {phase : FullDuplexPhase} {given : List Item} {payloads : List Payload}
      {ending : Option Item} {w : Seat StreamingOutputRequest}
      (hdeadline : scope.deadline = none) (hplain : ∀ q ∈ c.requests, q.failure? = none)
      (h : Engaged scope c given phase w) (hleft : c.Left c.dialogue given payloads ending) :
      Forecast c payloads ending w (.fullDuplex ⟨scope, phase⟩)

/-- **A conversation that answers at once gives what is left of its dialogue.** -/
theorem forecast_sound (c : ClientSide StreamingOutputRequest) :
    RpcConformance.Forecast.Sound (Forecast c) where
  pass d h := by
    cases h with
    | mk hdeadline hplain h hleft =>
        have hlater := h.act (.pass ⟨d, []⟩)
        rw [ClientSide.hear_pass] at hlater
        exact .mk hdeadline hplain hlater hleft
  poll {payloads ending st w} hsignals h := by
    cases h with
    | @mk scope phase given _ _ _ hdeadline hplain h hleft =>
        have huntriggered := Scope.untriggered_of_unlimited hdeadline hsignals
        have hpolled := engaged_turn huntriggered h
        simp only [ResponseStream.turn, turn]
        generalize turnWithin scope (2 * w.inbox.arrivals.length + 3) phase w = turned at hpolled
        cases hpolled with
        | waits hmoment h' hstalled =>
            cases hstalled with
            | listening hongoing =>
                obtain ⟨hpayloads, hending⟩ := hleft.nothing rfl
                exact .listens hmoment (.mk hdeadline hplain h' hleft) hpayloads hending
            | @pausing _ r s hr hpaused =>
                obtain ⟨due, hpausing⟩ := hpaused.pausing (h'.scope_answering ▸ hdeadline)
                exact .pauses hmoment (.mk hdeadline hplain h' hleft) (.fullDuplex hpausing)
        | @gives item phase' w' hmoment h' =>
            have hnext : given ++ [item] <+: c.dialogue := by
              rcases h'.follows with hprefix | ⟨hsettled, again, hagain⟩
              · exact hprefix
              · refine hleft.isPrefix (hsettled.resolve_right ?_) hagain
                rintro ⟨q, hq, hfails⟩
                exact hfails (hplain q hq)
            exact hleft.foretold hnext hmoment fun rest hleft' => .mk hdeadline hplain h' hleft'

theorem forecast_start {scope : Scope} (hdeadline : scope.deadline = none) (m : Moment) :
    Forecast ⟨[], .ongoing⟩ [] none ⟨m, .empty⟩ (.fullDuplex (start scope)) := by
  have hstart : Engaged scope ⟨[], .ongoing⟩ [] (start scope).phase ⟨m, .empty⟩ :=
    @Engaged.reading scope ⟨[], .ongoing⟩ [] [] _ _ rfl rfl (by simp)
  exact .mk hdeadline (by simp) hstart ⟨rfl, rfl⟩

variable {requests : List StreamingOutputRequest} {payloads : List Payload}
  {w : Seat StreamingOutputRequest} {st : ResponseStream}

/-- The responses to another request come behind all others. -/
theorem Forecast.sent (h : Forecast ⟨requests, .ongoing⟩ payloads none w st)
    {r : StreamingOutputRequest} (hr : r.failure? = none) {more : List Payload}
    (hmore : r.responses = more.map .response) :
    Forecast ⟨requests ++ [r], .ongoing⟩ (payloads ++ more) none
      { w with inbox := w.inbox.push (.message r) } st := by
  cases h with
  | mk hdeadline hplain h hleft =>
      have hopen := h.inbox_open rfl
      have hsent := h.act (.send r)
      simp only [ClientAct.act, hopen, Bool.false_eq_true, if_false] at hsent
      have hplain' := unfailing_concat hplain hr
      refine .mk hdeadline hplain' hsent ⟨rfl, ?_⟩
      have hbefore := hleft.rest
      rw [ClientSide.dialogue, conversation_of_unfailing hplain] at hbefore
      rw [ClientSide.dialogue, conversation_of_unfailing hplain', List.flatMap_append,
        List.flatMap_singleton, hmore]
      simp only [RpcConformance.Forecast.items, InputEnd.closing, Option.toList_none,
        List.append_nil, List.map_append] at hbefore ⊢
      rw [← hbefore, List.append_assoc]

/-- A client that closes its side asks for the end. -/
theorem Forecast.closed (h : Forecast ⟨requests, .ongoing⟩ payloads none w st) :
    Forecast ⟨requests, .closed⟩ payloads (some .finished)
      { w with inbox := w.inbox.close } st := by
  cases h with
  | mk hdeadline hplain h hleft =>
      refine .mk hdeadline hplain (h.act .close) ⟨rfl, ?_⟩
      have hbefore := hleft.rest
      rw [ClientSide.dialogue, conversation_of_unfailing hplain] at hbefore
      rw [ClientSide.dialogue, conversation_of_unfailing hplain]
      simp only [RpcConformance.Forecast.items, InputEnd.closing, Option.toList_none,
        List.append_nil] at hbefore
      rw [← hbefore, List.append_assoc]
      rfl

end FullDuplex

namespace HalfDuplex

theorem Held.scope_answering {scope : Scope} {c : ClientSide StreamingOutputRequest}
    {items : List Item} {s : OutputStream} {rest : List StreamingOutputRequest}
    {w : Seat StreamingOutputRequest} (h : Held scope c items (.answering s rest) w) :
    s.scope = scope := by
  cases h with
  | answering _ _ _ _ hs => exact hs.scope_eq

/-- An inbox is open as long as its client goes on. -/
theorem Held.inbox_open {scope : Scope} {c : ClientSide StreamingOutputRequest}
    {items : List Item} {phase : HalfDuplexPhase} {w : Seat StreamingOutputRequest}
    (h : Held scope c items phase w) (hongoing : c.ending = .ongoing) :
    w.inbox.closed = false := by
  cases h with
  | listening _ hinbox => rw [hinbox, hongoing]; rfl
  | answering hover _ _ _ _ => exact absurd hongoing hover
  | ended _ hover => exact absurd hongoing hover

/-- What has been asked for by the end of the input, and has not been given. -/
inductive Forecast (c : ClientSide StreamingOutputRequest) : RpcConformance.Forecast
  | mk {scope : Scope} {phase : HalfDuplexPhase} {given : List Item} {payloads : List Payload}
      {ending : Option Item} {w : Seat StreamingOutputRequest}
      (hdeadline : scope.deadline = none) (hplain : ∀ q ∈ c.requests, q.failure? = none)
      (h : Held scope c given phase w) (hleft : c.Left c.replay given payloads ending) :
      Forecast c payloads ending w (.halfDuplex ⟨scope, phase⟩)

/-- **A conversation that answers at the end gives what is left of its replay.** -/
theorem forecast_sound (c : ClientSide StreamingOutputRequest) :
    RpcConformance.Forecast.Sound (Forecast c) where
  pass d h := by
    cases h with
    | mk hdeadline hplain h hleft =>
        have hlater := h.act (.pass ⟨d, []⟩)
        rw [ClientSide.hear_pass] at hlater
        exact .mk hdeadline hplain hlater hleft
  poll {payloads ending st w} hsignals h := by
    cases h with
    | @mk scope phase given _ _ _ hdeadline hplain h hleft =>
        have huntriggered := Scope.untriggered_of_unlimited hdeadline hsignals
        have hpolled := held_turn huntriggered h
        simp only [ResponseStream.turn, turn]
        generalize phaseTurn scope phase w = turned at hpolled
        cases hpolled with
        | waits hmoment h' hstalled =>
            cases hstalled with
            | listening hongoing =>
                have hall : given = c.replay := by
                  rcases h'.follows with hprefix | ⟨hover, _⟩
                  · rw [ClientSide.replay_of_ongoing hongoing] at hprefix ⊢
                    exact List.prefix_nil.mp hprefix
                  · exact absurd hongoing hover
                obtain ⟨hpayloads, hending⟩ := hleft.nothing hall
                exact .listens hmoment (.mk hdeadline hplain h' hleft) hpayloads hending
            | @pausing r rest s hr hpaused =>
                obtain ⟨due, hpausing⟩ := hpaused.pausing (h'.scope_answering ▸ hdeadline)
                exact .pauses hmoment (.mk hdeadline hplain h' hleft) (.halfDuplex hpausing)
        | @gives item phase' w' hmoment h' =>
            have hnext : given ++ [item] <+: c.replay := by
              rcases h'.follows with hprefix | ⟨hover, again, hagain⟩
              · exact hprefix
              · exact hleft.isPrefix hover hagain
            exact hleft.foretold hnext hmoment fun rest hleft' => .mk hdeadline hplain h' hleft'

theorem forecast_start {scope : Scope} (hdeadline : scope.deadline = none) (m : Moment) :
    Forecast ⟨[], .ongoing⟩ [] none ⟨m, .empty⟩ (.halfDuplex (start scope)) := by
  have hstart : Held scope ⟨[], .ongoing⟩ [] (start scope).phase ⟨m, .empty⟩ :=
    @Held.listening scope ⟨[], .ongoing⟩ [] [] _ _ rfl rfl
  exact .mk hdeadline (by simp) hstart ⟨rfl, rfl⟩

variable {requests : List StreamingOutputRequest} {payloads : List Payload}
  {w : Seat StreamingOutputRequest} {st : ResponseStream}

/-- Another request changes nothing yet. -/
theorem Forecast.sent (h : Forecast ⟨requests, .ongoing⟩ payloads none w st)
    {r : StreamingOutputRequest} (hr : r.failure? = none) :
    Forecast ⟨requests ++ [r], .ongoing⟩ payloads none
      { w with inbox := w.inbox.push (.message r) } st := by
  cases h with
  | mk hdeadline hplain h hleft =>
      have hopen := h.inbox_open rfl
      have hsent := h.act (.send r)
      simp only [ClientAct.act, hopen, Bool.false_eq_true, if_false] at hsent
      exact .mk hdeadline (unfailing_concat hplain hr) hsent ⟨rfl, hleft.rest⟩

/-- A client that closes its side asks for everything at once. -/
theorem Forecast.closed (h : Forecast ⟨requests, .ongoing⟩ payloads none w st)
    {all : List Payload}
    (hall : requests.flatMap StreamingOutputRequest.responses = all.map .response) :
    Forecast ⟨requests, .closed⟩ (payloads ++ all) (some .finished)
      { w with inbox := w.inbox.close } st := by
  cases h with
  | @mk scope phase given _ _ _ hdeadline hplain h hleft =>
      obtain ⟨hgiven, hitems⟩ := List.append_eq_nil_iff.mp hleft.rest
      have hpayloads : payloads = [] :=
        List.map_eq_nil_iff.mp (List.append_eq_nil_iff.mp hitems).1
      refine .mk hdeadline hplain (h.act .close) ⟨rfl, ?_⟩
      show given ++ _ = conversation [.finished] requests
      rw [conversation_of_unfailing hplain, hall, hgiven, hpayloads]
      rfl

end HalfDuplex

end RpcConformance
