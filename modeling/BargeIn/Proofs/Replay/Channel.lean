import Mathlib
import BargeIn.Replay.Channel

/-!
# Every message is received

Jobs run in any order, before and after the session is given up.  Whatever the order, the channel is
not over before every job that was started has sent its message and every message has been received
(`received_of_isOver`), and while it is not over something can still happen
(`exists_step_of_not_isOver`), though not for ever (`pending_step`).  So a replay receives a message
for each of its jobs (`messages_eq`).
-/

namespace BargeIn.Replay.Channel

variable {c d : Channel} {e : Event} {events : List Event}

/-- The channel after events one after the other, each of which must be possible. -/
def after (c : Channel) (events : List Event) : Option Channel := events.foldlM step c

theorem after_cons : c.after (e :: events) = (c.step e).bind fun d => d.after events := rfl

theorem after_append {more : List Event} :
    c.after (events ++ more) = (c.after events).bind fun d => d.after more := by
  unfold after
  rw [List.foldlM_append]
  rfl

/-- The events that must still happen after the session was given up: three for a job that waits,
one for a job that leaves and for a message. -/
def pending (c : Channel) : Nat := 3 * c.waiting + c.leaving + c.queued

/-! ## One event -/

/-- What an event needs and what it makes of a channel. -/
theorem step_cases (h : c.step e = some d) :
    (e = .start ∧ c.held = true ∧ d = { c with waiting := c.waiting + 1 }) ∨
    (e = .release ∧ c.held = true ∧ d = { c with held := false }) ∨
    (e = .send ∧ 0 < c.waiting ∧
      d = { c with waiting := c.waiting - 1, leaving := c.leaving + 1, queued := c.queued + 1 }) ∨
    (e = .leave ∧ 0 < c.leaving ∧ d = { c with leaving := c.leaving - 1 }) ∨
    (e = .receive ∧ c.held = false ∧ 0 < c.queued ∧
      d = { c with queued := c.queued - 1, received := c.received + 1 }) := by
  cases e <;> simp only [step, Option.ite_none_right_eq_some, Option.some.injEq] at h <;>
    obtain ⟨hpossible, rfl⟩ := h <;> simp_all

/-- Messages are neither lost nor made up: each belongs to a job that was started. -/
theorem jobs_step (h : c.step e = some d) :
    d.waiting + d.queued + d.received =
      c.waiting + c.queued + c.received + if e = .start then 1 else 0 := by
  rcases step_cases h with ⟨rfl, -, rfl⟩ | ⟨rfl, -, rfl⟩ | ⟨rfl, hpos, rfl⟩ | ⟨rfl, hpos, rfl⟩ |
    ⟨rfl, -, hpos, rfl⟩ <;> simp only [reduceCtorEq, if_true, if_false] <;> omega

/-- Once the session has been given up, every event is one of those that were pending. -/
theorem pending_step (h : c.step e = some d) (hheld : c.held = false) :
    e ≠ .start ∧ d.held = false ∧ d.pending + 1 = c.pending := by
  unfold pending
  rcases step_cases h with ⟨-, htrue, -⟩ | ⟨-, htrue, -⟩ | ⟨rfl, hpos, rfl⟩ | ⟨rfl, hpos, rfl⟩ |
    ⟨rfl, -, hpos, rfl⟩
  · simp [hheld] at htrue
  · simp [hheld] at htrue
  all_goals exact ⟨by simp, hheld, by simp only; omega⟩

theorem isOver_iff : c.isOver = true ↔ c.held = false ∧ c.pending = 0 := by
  simp only [isOver, pending, Bool.and_eq_true, Bool.not_eq_true', beq_iff_eq]
  constructor
  · rintro ⟨⟨⟨hheld, hwaiting⟩, hleaving⟩, hqueued⟩
    exact ⟨hheld, by omega⟩
  · rintro ⟨hheld, hpending⟩
    exact ⟨⟨⟨hheld, by omega⟩, by omega⟩, by omega⟩

/-- Nobody waits in vain: while something is pending, something can happen. -/
theorem advance_cases (hheld : c.held = false) :
    c.pending = 0 ∧ c.advance = none ∨ ∃ e d, c.step e = some d ∧ c.advance = some d := by
  have hstep : ∀ e, c.advance = c.step e → (c.step e).isSome = true →
      ∃ e d, c.step e = some d ∧ c.advance = some d := by
    intro e hadvance hsome
    obtain ⟨d, hd⟩ := Option.isSome_iff_exists.1 hsome
    exact ⟨e, d, hd, hadvance.trans hd⟩
  by_cases hwaiting : 0 < c.waiting
  · exact .inr (hstep .send (by simp [advance, step, hwaiting]) (by simp [step, hwaiting]))
  by_cases hleaving : 0 < c.leaving
  · exact .inr (hstep .leave (by simp [advance, step, hwaiting, hleaving])
      (by simp [step, hleaving]))
  by_cases hqueued : 0 < c.queued
  · exact .inr (hstep .receive (by simp [advance, step, hwaiting, hleaving])
      (by simp [step, hheld, hqueued]))
  · exact .inl ⟨by unfold pending; omega, by simp [advance, step, hwaiting, hleaving, hqueued]⟩

/-! ## Runs -/

theorem jobs_after (h : c.after events = some d) :
    d.waiting + d.queued + d.received =
      c.waiting + c.queued + c.received + events.count .start := by
  induction events generalizing c with
  | nil =>
    obtain rfl : c = d := Option.some.inj h
    simp
  | cons e events ih =>
    rw [after_cons, Option.bind_eq_some_iff] at h
    obtain ⟨m, hm, hd⟩ := h
    rw [ih hd, jobs_step hm, List.count_cons]
    simp only [beq_iff_eq]
    omega

/-- A channel that is over has received a message from every job that was started, in whatever order
everything happened. -/
theorem received_of_isOver (h : opened.after events = some c) (hover : c.isOver = true) :
    c.received = events.count .start := by
  have hjobs := jobs_after h
  have hpending := (isOver_iff.1 hover).2
  simp only [pending, opened] at hjobs hpending
  omega

/-- Settling is one of the runs, at the end of which the channel is over. -/
theorem after_settle {moves : Nat} (hheld : c.held = false) (hmoves : c.pending ≤ moves) :
    (∃ events, c.after events = some (settle moves c) ∧ events.count .start = 0) ∧
      (settle moves c).isOver = true := by
  induction moves generalizing c with
  | zero => exact ⟨⟨[], rfl, rfl⟩, isOver_iff.2 ⟨hheld, Nat.le_zero.1 hmoves⟩⟩
  | succ moves ih =>
    unfold settle
    rcases advance_cases hheld with ⟨hpending, hnone⟩ | ⟨e, d, hstep, hadvance⟩
    · rw [hnone]
      exact ⟨⟨[], rfl, rfl⟩, isOver_iff.2 ⟨hheld, hpending⟩⟩
    · rw [hadvance]
      obtain ⟨hstart, hheld, hpending⟩ := pending_step hstep hheld
      obtain ⟨⟨events, hevents, hcount⟩, hover⟩ := ih hheld (by omega)
      refine ⟨⟨e :: events, ?_, ?_⟩, hover⟩
      · rw [after_cons, hstep]
        exact hevents
      · rw [List.count_cons, hcount]
        simpa using hstart

theorem after_replicate_start (jobs : Nat) :
    opened.after (List.replicate jobs .start ++ [.release]) = some (released jobs) := by
  -- the session has started some jobs already
  have hgeneral : ∀ waiting, after ⟨true, waiting, 0, 0, 0⟩
      (List.replicate jobs .start ++ [.release]) = some (released (waiting + jobs)) := by
    induction jobs with
    | zero => exact fun waiting => rfl
    | succ jobs ih =>
      intro waiting
      have hadd : waiting + (jobs + 1) = waiting + 1 + jobs := by omega
      rw [List.replicate_succ, List.cons_append, after_cons, hadd]
      exact ih (waiting + 1)
  have hzero := hgeneral 0
  rwa [Nat.zero_add] at hzero

/-- As many messages are received as jobs were started. -/
theorem messages_eq (jobs : Nat) : messages jobs = jobs := by
  have hpending : (released jobs).pending ≤ 3 * jobs := by simp [pending, released]
  obtain ⟨⟨events, hevents, hcount⟩, hover⟩ := after_settle rfl hpending
  have hrun : opened.after ((List.replicate jobs .start ++ [.release]) ++ events) =
      some (settle (3 * jobs) (released jobs)) := by
    rw [after_append, after_replicate_start]
    exact hevents
  unfold messages
  rw [received_of_isOver hrun hover]
  simp [hcount]

end BargeIn.Replay.Channel
