import RpcConformance.Trailers

/-!
# Pending trailers are delivered once

A body behind the trailers layer polls the inner body exactly once per poll, so it is described
by what the inner body gives: a *script* of polls, after which the inner body stays at its end.
Waits, data and failures pass through in their places.  The pending trailers go into the first
trailers frame of the script, or behind the script where it has none, and no second time.

A map hands its values out key by key, and only the first value of a key comes with the name.
The loop that takes them in again has to remember the name, and `Metadata.getAll_absorb` is what
it comes to: each key has its own values first and the other map's values behind them.

## Main results

* `Metadata.getAll_absorb` — the values of a key after two maps are joined.
* `EchoBody.gives_delivered` — the script of a body with trailers to deliver.
* `Answered.pending_trailers_delivered_once` — what becomes of a response that passes the layer.
-/

namespace RpcConformance

/-! ## Joining two maps -/

namespace Metadata

theorem appendAll_cons (m : Metadata) (key : String) (value : HeaderValue)
    (values : List HeaderValue) :
    m.appendAll key (value :: values) = (m.append key value).appendAll key values := by
  simp [appendAll, append]

/-- Values that come without a name go to the key named last. -/
theorem takeIn_unnamed (m : Metadata) (key : String) (values : List HeaderValue)
    (rest : List (Option String × HeaderValue)) :
    m.takeIn (some key) (values.map (none, ·) ++ rest) =
      (m.appendAll key values).takeIn (some key) rest := by
  induction values generalizing m with
  | nil => simp [appendAll]
  | cons value values ih =>
      rw [appendAll_cons, ← ih]
      rfl

/-- The values of one key are taken in together, whatever was named before. -/
theorem takeIn_named (m : Metadata) (last : Option String) (key : String)
    (values : List HeaderValue) (rest : List (Option String × HeaderValue)) :
    ∃ last', m.takeIn last (named key values ++ rest) =
      (m.appendAll key values).takeIn last' rest := by
  cases values with
  | nil => exact ⟨last, by simp [named, appendAll]⟩
  | cons value values =>
      refine ⟨some key, ?_⟩
      rw [appendAll_cons, ← takeIn_unnamed]
      rfl

theorem getAll_takeIn_keys (other : Metadata) (key : String) {keys : List String}
    (hkeys : keys.Nodup) (m : Metadata) (last : Option String) :
    (m.takeIn last (keys.flatMap fun k => named k (other.getAll k))).getAll key =
      m.getAll key ++ if key ∈ keys then other.getAll key else [] := by
  induction keys generalizing m last with
  | nil => simp [takeIn]
  | cons k keys ih =>
      obtain ⟨hnew, hrest⟩ := List.nodup_cons.mp hkeys
      obtain ⟨last', htaken⟩ := takeIn_named m last k (other.getAll k)
        (keys.flatMap fun k => named k (other.getAll k))
      rw [List.flatMap_cons, htaken, ih hrest]
      by_cases hk : k = key
      · subst hk
        simp [hnew]
      · simp [getAll_appendAll_of_ne _ _ hk, Ne.symm hk]

private theorem nodup_eraseDups {α : Type} [BEq α] [LawfulBEq α] (l : List α) :
    l.eraseDups.Nodup := by
  match l with
  | [] => simp
  | a :: as =>
      have hrest := nodup_eraseDups (as.filter fun b => !b == a)
      rw [List.eraseDups_cons, List.nodup_cons]
      exact ⟨by simp [List.mem_eraseDups], hrest⟩
termination_by l.length
decreasing_by exact Nat.lt_succ_of_le (List.length_filter_le _ _)

theorem nodup_keys (m : Metadata) : m.keys.Nodup := nodup_eraseDups _

theorem getAll_of_notMem_keys {m : Metadata} {key : String} (h : key ∉ m.keys) :
    m.getAll key = [] := by
  rw [keys, List.mem_eraseDups, List.mem_map] at h
  rw [getAll, List.filterMap_eq_nil_iff]
  intro e he
  exact if_neg fun hkey => h ⟨e, he, hkey⟩

/-- Each key has its own values first, and behind them those of the other map. -/
@[simp] theorem getAll_absorb (m other : Metadata) (key : String) :
    (m.absorb other).getAll key = m.getAll key ++ other.getAll key := by
  rw [absorb, handOut, getAll_takeIn_keys other key (nodup_keys other)]
  by_cases hkey : key ∈ other.keys
  · rw [if_pos hkey]
  · rw [if_neg hkey, getAll_of_notMem_keys hkey]

end Metadata

/-! ## Scripts of bodies -/

namespace Body

variable {δ β : Type} [Body δ β]

/-- A body after some polls. -/
def after : Nat → β → β
  | 0, b => b
  | n + 1, b => after n (poll b).2

/-- Every poll gives the end. -/
def Ended (b : β) : Prop := ∀ n, (poll (after n b)).1 = .ended

/-- The polls give these results in order, and the end from then on. -/
def Gives (b : β) : List (Poll δ) → Prop
  | [] => Ended b
  | p :: script => p ≠ .ended ∧ (poll b).1 = p ∧ Gives (poll b).2 script

/-- The body calls itself at its end only when nothing comes any more. -/
def HintHolds (b : β) : Prop := ∀ n, atEnd (after n b) = true → Ended (after n b)

end Body

open Body

namespace PlayedBody

/-- What the poll gives at which this is played. -/
def polled : Play → Poll (List UInt8)
  | .wait => .pending
  | .frame f => .frame f
  | .fail message => .failed message

theorem poll_cons (play : Play) (plays : List Play) :
    poll (⟨play :: plays⟩ : PlayedBody) = (polled play, ⟨plays⟩) := by
  cases play <;> rfl

theorem after_done (n : Nat) : after n (⟨[]⟩ : PlayedBody) = ⟨[]⟩ := by
  induction n with
  | zero => rfl
  | succ n ih => exact ih

theorem ended_done : Ended (⟨[]⟩ : PlayedBody) := by
  intro n
  rw [after_done]
  rfl

theorem gives (plays : List Play) : Gives (⟨plays⟩ : PlayedBody) (plays.map polled) := by
  induction plays with
  | nil => exact ended_done
  | cons play plays ih =>
      refine ⟨by cases play <;> simp [polled], ?_, ?_⟩
      · rw [poll_cons]
      · rw [poll_cons]
        exact ih

theorem hintHolds (b : PlayedBody) : HintHolds b := by
  intro n hend
  have hdone : after n b = ⟨[]⟩ := congrArg PlayedBody.mk (List.isEmpty_iff.mp hend)
  rw [hdone]
  exact ended_done

end PlayedBody

/-! ## The body behind the layer -/

namespace EchoBody

variable {δ β : Type} [Body δ β]

/-- The script with the pending trailers in their place. -/
def delivered (pending : Metadata) : List (Poll δ) → List (Poll δ)
  | [] => [.frame (.trailers pending)]
  | .frame (.trailers md) :: script => .frame (.trailers (md.absorb pending)) :: script
  | p :: script => p :: delivered pending script

/-- A poll that gives no trailers frame. -/
def Trailerless (p : Poll δ) : Prop := ∀ md, p ≠ .frame (.trailers md)

theorem delivered_cons {p : Poll δ} (h : Trailerless p) (pending : Metadata)
    (script : List (Poll δ)) : delivered pending (p :: script) = p :: delivered pending script := by
  match p, h with
  | .pending, _ | .failed _, _ | .ended, _ | .frame (.data _), _ => rfl
  | .frame (.trailers md), h => exact absurd rfl (h md)

theorem delivered_append {before : List (Poll δ)} (h : ∀ p ∈ before, Trailerless p)
    (pending : Metadata) (script : List (Poll δ)) :
    delivered pending (before ++ script) = before ++ delivered pending script := by
  induction before with
  | nil => rfl
  | cons p before ih =>
      obtain ⟨hp, hbefore⟩ := List.forall_mem_cons.mp h
      rw [List.cons_append, delivered_cons hp, ih hbefore, List.cons_append]

/-! ### One poll -/

theorem poll_none (b : β) :
    Body.poll (⟨b, none⟩ : EchoBody β) = ((Body.poll b).1, ⟨(Body.poll b).2, none⟩) := by
  show EchoBody.poll _ = _
  unfold EchoBody.poll
  split <;> simp_all

theorem poll_trailers {b : β} {md : Metadata} (h : (Body.poll b).1 = .frame (.trailers md))
    (pending : Metadata) :
    Body.poll (⟨b, some pending⟩ : EchoBody β) =
      (.frame (.trailers (md.absorb pending)), ⟨(Body.poll b).2, none⟩) := by
  show EchoBody.poll _ = _
  unfold EchoBody.poll
  split <;> simp_all

theorem poll_ended {b : β} (h : (Body.poll b).1 = .ended) (pending : Metadata) :
    Body.poll (⟨b, some pending⟩ : EchoBody β) =
      (.frame (.trailers pending), ⟨(Body.poll b).2, none⟩) := by
  show EchoBody.poll _ = _
  unfold EchoBody.poll
  split <;> simp_all

theorem poll_other {b : β} (hended : (Body.poll b).1 ≠ .ended)
    (htrailers : Trailerless (Body.poll b).1) (pending : Metadata) :
    Body.poll (⟨b, some pending⟩ : EchoBody β) =
      ((Body.poll b).1, ⟨(Body.poll b).2, some pending⟩) := by
  show EchoBody.poll _ = _
  unfold EchoBody.poll
  split <;> simp_all [Trailerless]

/-- The inner body is polled once, whatever the poll makes of it. -/
theorem inner_poll (e : EchoBody β) : (Body.poll e).2.inner = (Body.poll e.inner).2 := by
  show e.poll.2.inner = _
  unfold EchoBody.poll
  split <;> simp_all

/-! ### Any number of polls -/

theorem inner_after (n : Nat) (e : EchoBody β) : (after n e).inner = after n e.inner := by
  induction n generalizing e with
  | zero => rfl
  | succ n ih => rw [after, ih, inner_poll, after]

theorem after_none (n : Nat) (b : β) :
    after n (⟨b, none⟩ : EchoBody β) = ⟨after n b, none⟩ := by
  induction n generalizing b with
  | zero => rfl
  | succ n ih => rw [after, poll_none, ih, after]

theorem ended_none {b : β} (h : Ended b) : Ended (⟨b, none⟩ : EchoBody β) := by
  intro n
  rw [after_none, poll_none]
  exact h n

/-- Without trailers to deliver the inner body's script is given. -/
theorem gives_none {b : β} {script : List (Poll δ)} (h : Gives b script) :
    Gives (⟨b, none⟩ : EchoBody β) script := by
  induction script generalizing b with
  | nil => exact ended_none h
  | cons p script ih =>
      obtain ⟨hgoes, hp, hscript⟩ := h
      refine ⟨hgoes, ?_, ?_⟩
      · rw [poll_none]
        exact hp
      · rw [poll_none]
        exact ih hscript

/-- With trailers to deliver they are given once, in their place in the script. -/
theorem gives_delivered {b : β} {script : List (Poll δ)} (h : Gives b script)
    (pending : Metadata) :
    Gives (⟨b, some pending⟩ : EchoBody β) (delivered pending script) := by
  induction script generalizing b with
  | nil =>
      have hended : (Body.poll b).1 = .ended := h 0
      have hpoll := poll_ended hended pending
      refine ⟨by simp, ?_, ?_⟩
      · rw [hpoll]
      · rw [hpoll]
        exact ended_none fun n => h (n + 1)
  | cons p script ih =>
      obtain ⟨hgoes, hp, hscript⟩ := h
      by_cases htrailers : ∃ md, p = .frame (.trailers md)
      · obtain ⟨md, rfl⟩ := htrailers
        have hpoll := poll_trailers hp pending
        refine ⟨by simp, ?_, ?_⟩
        · rw [hpoll]
        · rw [hpoll]
          exact gives_none hscript
      · have hother : Trailerless p := fun md hmd => htrailers ⟨md, hmd⟩
        have hpoll := poll_other (hp ▸ hgoes) (hp ▸ hother) pending
        rw [delivered_cons hother]
        refine ⟨hgoes, ?_, ?_⟩
        · rw [hpoll, hp]
        · rw [hpoll]
          exact ih hscript

/-- The body is at its end only when the inner one is and nothing is left to deliver. -/
theorem atEnd_iff (e : EchoBody β) :
    Body.atEnd e = true ↔ e.pending = none ∧ Body.atEnd e.inner = true := by
  show (e.pending.isNone && Body.atEnd e.inner) = true ↔ _
  rw [Bool.and_eq_true, Option.isNone_iff_eq_none]

end EchoBody

/-! ## A response that passes the layer -/

namespace Answered

variable {δ β : Type}

theorem withEcho_of_empty (body : β) {pending : Option Metadata}
    (h : ∀ md ∈ pending, md.isEmpty = true) :
    Answered.withEcho ⟨body, pending⟩ = ⟨⟨body, none⟩, none⟩ := by
  have hnone : pending.filter (!·.isEmpty) = none := by
    rw [Option.filter_eq_none_iff]
    intro md hmd
    simp [h md hmd]
  rw [withEcho, hnone]

theorem withEcho_some (body : β) {extra : Metadata} (h : extra.isEmpty = false) :
    Answered.withEcho ⟨body, some extra⟩ = ⟨⟨body, some extra⟩, none⟩ := by
  rw [withEcho, Option.filter_some, if_pos (by simpa using h)]

variable [Body δ β]

/-- What the layer makes of a response whose body gives the script. -/
structure DeliversOnce (script : List (Poll δ)) (pending : Option Metadata)
    (r : Answered (EchoBody β)) : Prop where
  /-- The handler's trailers no longer stand beside the body. -/
  taken : r.pendingTrailers = none
  /-- Nothing to deliver changes nothing. -/
  unchanged : (∀ md ∈ pending, md.isEmpty = true) → Gives r.body script
  /-- The first trailers frame gets the values, behind its own; every other poll stays. -/
  merged : ∀ extra ∈ pending, extra.isEmpty = false → ∀ before md after,
    script = before ++ .frame (.trailers md) :: after →
    (∀ p ∈ before, EchoBody.Trailerless p) →
    ∃ both, (∀ key, both.getAll key = md.getAll key ++ extra.getAll key) ∧
      Gives r.body (before ++ .frame (.trailers both) :: after)
  /-- Where there is no trailers frame, one comes behind everything else. -/
  added : ∀ extra ∈ pending, extra.isEmpty = false →
    (∀ p ∈ script, EchoBody.Trailerless p) →
    Gives r.body (script ++ [.frame (.trailers extra)])
  /-- A body that calls itself at its end has delivered everything, and nothing follows. -/
  hint : ∀ n, Body.atEnd (Body.after n r.body) = true →
    (Body.after n r.body).pending = none ∧ Ended (Body.after n r.body)

/-- The trailers layer loses, repeats and reorders nothing: whatever the inner body gives, in
whatever order its waits, data, trailers and failures come, and whatever trailers the handler
left. -/
theorem pending_trailers_delivered_once {body : β} {script : List (Poll δ)}
    (hbody : Gives body script) (hhint : HintHolds body) (pending : Option Metadata) :
    DeliversOnce script pending (Answered.withEcho ⟨body, pending⟩) where
  taken := rfl
  unchanged := by
    intro hempty
    rw [withEcho_of_empty body hempty]
    exact EchoBody.gives_none hbody
  merged := by
    rintro extra rfl hextra before md after rfl hbefore
    refine ⟨md.absorb extra, fun key => Metadata.getAll_absorb md extra key, ?_⟩
    have hgives := EchoBody.gives_delivered hbody extra
    rw [EchoBody.delivered_append hbefore] at hgives
    rw [withEcho_some body hextra]
    exact hgives
  added := by
    rintro extra rfl hextra hscript
    have hgives := EchoBody.gives_delivered hbody extra
    have hplace := EchoBody.delivered_append hscript extra []
    rw [List.append_nil] at hplace
    rw [hplace] at hgives
    rw [withEcho_some body hextra]
    exact hgives
  hint := by
    intro n hend
    have hinner := EchoBody.inner_after n (Answered.withEcho ⟨body, pending⟩).body
    generalize Body.after n (Answered.withEcho ⟨body, pending⟩).body = e at hend hinner ⊢
    obtain ⟨hnone, hatEnd⟩ := (EchoBody.atEnd_iff e).mp hend
    refine ⟨hnone, ?_⟩
    have he : e = ⟨e.inner, none⟩ := congrArg (EchoBody.mk e.inner) hnone
    rw [he]
    apply EchoBody.ended_none
    rw [hinner] at hatEnd ⊢
    exact hhint n hatEnd

/-- A body that waits between its data and its trailers, and trailers left for it with values
of one key apart. -/
def sampleAnswer : Answered PlayedBody where
  body := ⟨[.frame (.data [1]), .wait, .frame (.trailers ⟨[("a", ⟨[2]⟩)]⟩)]⟩
  pendingTrailers := some ⟨[("a", ⟨[3]⟩), ("b", ⟨[4]⟩), ("a", ⟨[5]⟩)]⟩

theorem sampleAnswer_delivers :
    ∃ both : Metadata, both.getAll "a" = [⟨[2]⟩, ⟨[3]⟩, ⟨[5]⟩] ∧ both.getAll "b" = [⟨[4]⟩] ∧
      Gives sampleAnswer.withEcho.body
        [.frame (.data [1]), .pending, .frame (.trailers both)] := by
  have hdelivers : DeliversOnce (sampleAnswer.body.plays.map PlayedBody.polled)
      sampleAnswer.pendingTrailers sampleAnswer.withEcho :=
    pending_trailers_delivered_once (PlayedBody.gives _) (PlayedBody.hintHolds _) _
  obtain ⟨both, hvalues, hgives⟩ := hdelivers.merged _ rfl rfl
    [.frame (.data [1]), .pending] _ [] rfl (by simp [EchoBody.Trailerless])
  refine ⟨both, ?_, ?_, hgives⟩
  · rw [hvalues]
    decide
  · rw [hvalues]
    decide

end Answered

end RpcConformance
