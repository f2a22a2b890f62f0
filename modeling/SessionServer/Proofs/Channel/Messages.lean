/-
# No message is lost on a text connection

Messages that are written to a text channel wait in its buffer until the sink takes them.  Several
people may write and close at once, and the sink goes on all the time, so that the steps of all of
them are mixed in any way.  Closing is done in two steps: first the channel lets go of its buffer,
so that nothing can be written any more, and then a close message is put behind what waits, if there
is room for it by then.  As long as somebody is between the two, the sink does not take an empty
buffer for the end.

What carries everything is that only the last message can be a close message.  The sink stops when
it has handed that one over, or when there is none and nothing waits; in both cases it has handed
over everything else before.

Main results: how a connection stands after any steps (`Stands.after`), when the sink is through
(`sink_steps`), and what has become of the messages (`nothing_accepted_is_lost`).
-/
import Mathlib.Data.List.Basic
import SessionServer.Channel.Text

namespace SessionServer

namespace TextChannel

variable {c : TextChannel} {data : Bytes} {m : TextMessage} {rest : List TextMessage} {n : ℕ}

/-! ## The halves of closing -/

/-- The first half of closing a channel: nothing can be written to it any more. -/
def leave (c : TextChannel) : TextChannel := { c with attached := false }

/-- The second half of closing a channel: a close message is added if there is room for it. -/
def farewell (c : TextChannel) : TextChannel :=
  if c.sink = .running && c.hasRoom then { c with waiting := c.waiting ++ [.close] } else c

/-- A channel is closed by both halves, one right after the other. -/
lemma close_eq (c : TextChannel) : c.close = if c.attached then c.leave.farewell else c := by
  unfold close
  cases c.attached <;> rfl

/-! ## What stays -/

@[simp] lemma capacity_tryWrite (c : TextChannel) (data : Bytes) :
    (c.tryWrite data).2.capacity = c.capacity := by
  unfold tryWrite
  (repeat' split) <;> rfl

@[simp] lemma attached_tryWrite (c : TextChannel) (data : Bytes) :
    (c.tryWrite data).2.attached = c.attached := by
  unfold tryWrite
  (repeat' split) <;> rfl

@[simp] lemma capacity_step (c : TextChannel) : c.step.capacity = c.capacity := by
  unfold step
  (repeat' split) <;> rfl

@[simp] lemma attached_step (c : TextChannel) : c.step.attached = c.attached := by
  unfold step
  (repeat' split) <;> rfl

@[simp] lemma capacity_farewell (c : TextChannel) : c.farewell.capacity = c.capacity := by
  unfold farewell
  split <;> rfl

@[simp] lemma attached_farewell (c : TextChannel) : c.farewell.attached = c.attached := by
  unfold farewell
  split <;> rfl

/-! ## Writing -/

lemma tryWrite_of_left (h : c.attached = false) (data : Bytes) :
    c.tryWrite data = (.error closedFault, c) := by
  simp [tryWrite, h]

/-- A channel that has not been closed takes a message as long as there is room. -/
lemma tryWrite_of_attached (h : c.attached = true) (hsink : c.sink = .running) (data : Bytes) :
    c.tryWrite data
      = if c.waiting.length < c.capacity then
          (.ok data.length, { c with waiting := c.waiting ++ [.binary data] })
        else (.error .wouldBlock, c) := by
  by_cases hroom : c.waiting.length < c.capacity <;> simp [tryWrite, hasRoom, h, hsink, hroom]

lemma length_tryWrite_le (h : c.waiting.length ≤ c.capacity) (data : Bytes) :
    (c.tryWrite data).2.waiting.length ≤ c.capacity := by
  unfold tryWrite
  split
  · exact h
  · split
    · exact h
    · split
      · exact h
      · next hroom =>
        rw [Bool.not_eq_true', Bool.not_eq_false] at hroom
        simpa [hasRoom, Nat.succ_le_iff] using hroom

lemma length_farewell_le (h : c.waiting.length ≤ c.capacity) :
    c.farewell.waiting.length ≤ c.capacity := by
  unfold farewell
  split
  · next hroom => simpa [hasRoom, Nat.succ_le_iff] using (Bool.and_eq_true_iff.1 hroom).2
  · exact h

/-! ## The sink -/

lemma length_step_le (c : TextChannel) : c.step.waiting.length ≤ c.waiting.length := by
  unfold step
  split
  · exact Nat.le_refl _
  · split
    · next hw => rw [hw]; exact Nat.le_succ _
    · next hw => rw [hw]; exact Nat.le_succ _
    · split <;> exact Nat.le_refl _

lemma step_of_binary (hsink : c.sink = .running) (hw : c.waiting = .binary data :: rest) :
    c.step = { c with waiting := rest, delivered := c.delivered ++ [.binary data] } := by
  simp [step, hsink, hw]

lemma step_of_close (hsink : c.sink = .running) (hw : c.waiting = .close :: rest) :
    c.step
      = { c with waiting := rest, delivered := c.delivered ++ [.close], sink := .finished } := by
  simp [step, hsink, hw]

lemma step_of_nil (hw : c.waiting = []) (h : c.attached = true) : c.step = c := by
  simp [step, hw, h]

lemma step_of_nil_of_left (hsink : c.sink = .running) (hw : c.waiting = [])
    (h : c.attached = false) : c.step = { c with sink := .finished } := by
  simp [step, hsink, hw, h]

lemma step_of_finished (hsink : c.sink = .finished) : c.step = c := by
  simp [step, hsink]

lemma steps_of_finished (hsink : c.sink = .finished) (n : ℕ) : c.steps n = c := by
  induction n with
  | zero => rfl
  | succ n ih => rw [steps, step_of_finished hsink, ih]

/-- The sink of a closed channel is through after one step more than messages wait. -/
lemma sink_steps (h : c.attached = false) (hsink : c.sink = .running)
    (hn : c.waiting.length < n) : (c.steps n).sink = .finished := by
  -- each step takes one message, and nobody adds any
  induction n generalizing c with
  | zero => exact absurd hn (Nat.not_lt_zero _)
  | succ n ih =>
    rw [steps]
    cases hw : c.waiting with
    | nil =>
      rw [step_of_nil_of_left hsink hw h, steps_of_finished rfl]
    | cons m rest =>
      have hrest : rest.length < n := by
        rw [hw, List.length_cons] at hn
        omega
      cases m with
      | binary data =>
        rw [step_of_binary hsink hw]
        exact ih h hsink hrest
      | close => rw [step_of_close hsink hw, steps_of_finished rfl]

end TextChannel

/-- A text connection that is written to and closed. -/
structure TextLine where
  channel : TextChannel
  /-- Somebody has done the first half of closing the channel, but not the second one. -/
  leaving : Bool := false

namespace TextLine

/-- What is done to a text connection, one step at a time. -/
inductive Move where
  /-- Somebody writes. -/
  | write (data : Bytes)
  /-- The sink receives what waits and hands it over, or stops. -/
  | receive
  /-- Somebody does the first half of closing the channel. -/
  | leave
  /-- Whoever has done the first half does the second one. -/
  | part
deriving DecidableEq, Repr

/-- A fresh connection. -/
def start (id : ChannelId) (capacity : ℕ) : TextLine := { channel := .start id capacity }

/-- What a step does. -/
def act (l : TextLine) : Move → TextLine
  | .write data => { l with channel := (l.channel.tryWrite data).2 }
  | .receive =>
    -- as long as somebody may still put a message into the buffer, an empty one is not the end
    if l.leaving ∧ l.channel.waiting = [] then l else { l with channel := l.channel.step }
  | .leave => if l.channel.attached then { channel := l.channel.leave, leaving := true } else l
  | .part => if l.leaving then { channel := l.channel.farewell } else l

/-- A connection after some steps. -/
def after (l : TextLine) (moves : List Move) : TextLine := moves.foldl act l

/-- The bytes that a step writes, if they are accepted. -/
def taken? (l : TextLine) : Move → Option Bytes
  | .write data =>
    match (l.channel.tryWrite data).1 with
    | .ok _ => some data
    | .error _ => none
  | _ => none

/-- What is written and accepted in some steps, first write first. -/
def accepted (l : TextLine) : List Move → List Bytes
  | [] => []
  | m :: moves => (l.taken? m).toList ++ accepted (l.act m) moves

variable {l : TextLine} {m : Move} {moves : List Move} {taken handed left : List Bytes}
  {last : List TextMessage}

lemma after_cons (l : TextLine) (m : Move) (moves : List Move) :
    l.after (m :: moves) = (l.act m).after moves := rfl

/-- The steps of somebody who closes a channel and is not interrupted. -/
lemma after_leave_part (h : l.leaving = false) :
    l.after [.leave, .part] = { l with channel := l.channel.close } := by
  obtain ⟨c, leaving⟩ := l
  obtain rfl : leaving = false := h
  rw [TextChannel.close_eq]
  cases hc : c.attached <;> simp [after, act, hc]

/-! ## What stays -/

@[simp] lemma capacity_act (l : TextLine) (m : Move) :
    (l.act m).channel.capacity = l.channel.capacity := by
  cases m with
  | write data => exact l.channel.capacity_tryWrite data
  | receive => simp only [act]; split <;> simp
  | leave => simp only [act]; split <;> rfl
  | part => simp only [act]; split <;> simp

@[simp] lemma capacity_after (l : TextLine) (moves : List Move) :
    (l.after moves).channel.capacity = l.channel.capacity := by
  induction moves generalizing l with
  | nil => rfl
  | cons m moves ih => rw [after_cons, ih, capacity_act]

/-- No more messages wait than may wait. -/
def Fits (l : TextLine) : Prop := l.channel.waiting.length ≤ l.channel.capacity

lemma Fits.act (h : l.Fits) (m : Move) : (l.act m).Fits := by
  unfold Fits
  rw [capacity_act]
  cases m with
  | write data => exact TextChannel.length_tryWrite_le h data
  | receive =>
    simp only [TextLine.act]
    split
    · exact h
    · exact Nat.le_trans l.channel.length_step_le h
  | leave => simp only [TextLine.act]; split <;> exact h
  | part =>
    simp only [TextLine.act]
    split
    · exact TextChannel.length_farewell_le h
    · exact h

lemma Fits.after (h : l.Fits) (moves : List Move) : (l.after moves).Fits := by
  induction moves generalizing l with
  | nil => exact h
  | cons m moves ih => exact ih (h.act m)

/-- Nothing but the first half of closing makes a channel closed. -/
lemma attached_act (l : TextLine) (m : Move) :
    (l.act m).channel.attached = true ↔ l.channel.attached = true ∧ m ≠ .leave := by
  cases m with
  | write data => simp [act]
  | receive => simp only [act]; split <;> simp
  | leave => simp only [act]; split <;> simp_all [TextChannel.leave]
  | part => simp only [act]; split <;> simp

lemma attached_after (l : TextLine) (moves : List Move) :
    (l.after moves).channel.attached = true ↔ l.channel.attached = true ∧ .leave ∉ moves := by
  induction moves generalizing l with
  | nil => simp [after]
  | cons m moves ih =>
    rw [after_cons, ih, attached_act, List.mem_cons, not_or, and_assoc, ne_comm]

/-! ## Closed channels -/

/-- The channel has been closed. -/
structure Closed (l : TextLine) : Prop where
  attached_eq : l.channel.attached = false
  leaving_eq : l.leaving = false

lemma not_closed_of_attached (h : l.channel.attached = true) : ¬ l.Closed := fun hc =>
  absurd (h.symm.trans hc.attached_eq) nofun

lemma not_closed_of_leaving (h : l.leaving = true) : ¬ l.Closed := fun hc =>
  absurd (h.symm.trans hc.leaving_eq) nofun

/-- A channel accepts nothing any more when the first half of closing it has been done. -/
lemma taken?_of_left (h : l.channel.attached = false) (m : Move) : l.taken? m = none := by
  cases m with
  | write data => simp only [taken?, TextChannel.tryWrite_of_left h]
  | _ => rfl

lemma act_write_of_left (h : l.channel.attached = false) (data : Bytes) :
    l.act (.write data) = l := by
  simp only [act, TextChannel.tryWrite_of_left h]

lemma Closed.act_receive (h : l.Closed) :
    l.act .receive = { l with channel := l.channel.step } := by
  simp [TextLine.act, h.leaving_eq]

/-- Nobody but the sink does anything to a connection whose channel has been closed. -/
lemma Closed.act_of_ne (h : l.Closed) (hm : m ≠ .receive) : l.act m = l := by
  cases m with
  | write data => exact act_write_of_left h.attached_eq data
  | receive => exact absurd rfl hm
  | leave => simp [TextLine.act, h.attached_eq]
  | part => simp [TextLine.act, h.leaving_eq]

/-! ## How a connection stands -/

/-- What comes behind the messages that were written: a close message at the most, and that only
when the channel has been closed. -/
def Ends (l : TextLine) (last : List TextMessage) : Prop :=
  last = [] ∨ last = [.close] ∧ l.Closed

lemma Ends.eq_nil (h : l.Ends last) (hopen : ¬ l.Closed) : last = [] :=
  h.resolve_right fun hclosed => hopen hclosed.2

/-- Some of the messages that were accepted were handed over, and the others wait. -/
structure Busy (l : TextLine) (handed left : List Bytes) (last : List TextMessage) : Prop where
  delivered_eq : l.channel.delivered = handed.map .binary
  waiting_eq : l.channel.waiting = left.map .binary ++ last
  ends : l.Ends last
  sink_eq : l.channel.sink = .running
  attached_eq : l.leaving = true → l.channel.attached = false

/-- All messages that were accepted were handed over, and the connection is shut. -/
structure Shut (l : TextLine) (taken : List Bytes) (last : List TextMessage) : Prop where
  delivered_eq : l.channel.delivered = taken.map .binary ++ last
  waiting_eq : l.channel.waiting = []
  ends : l.Ends last
  sink_eq : l.channel.sink = .finished
  closed : l.Closed

/-- How a connection stands that has accepted some messages. -/
inductive Stands (taken : List Bytes) (l : TextLine) : Prop where
  | busy {handed left : List Bytes} {last : List TextMessage} (h : l.Busy handed left last)
      (taken_eq : handed ++ left = taken)
  | shut {last : List TextMessage} (h : l.Shut taken last)

/-- A message that is accepted waits behind the others; there is no close message yet. -/
lemma Busy.write (h : l.Busy handed left last) (data : Bytes) :
    Stands (handed ++ left ++ (l.taken? (.write data)).toList) (l.act (.write data)) := by
  cases ha : l.channel.attached with
  | false =>
    rw [taken?_of_left ha, act_write_of_left ha, Option.toList_none, List.append_nil]
    exact .busy h rfl
  | true =>
    have hwrite := TextChannel.tryWrite_of_attached ha h.sink_eq data
    by_cases hroom : l.channel.waiting.length < l.channel.capacity
    · rw [if_pos hroom] at hwrite
      have hlast : last = [] := h.ends.eq_nil (not_closed_of_attached ha)
      have hwaiting : l.channel.waiting ++ [.binary data]
          = (left ++ [data]).map .binary ++ [] := by
        rw [h.waiting_eq, hlast, List.append_nil, List.append_nil, List.map_append]
        rfl
      simp only [act, taken?, hwrite]
      exact .busy ⟨h.delivered_eq, hwaiting, .inl rfl, h.sink_eq, h.attached_eq⟩
        (List.append_assoc ..).symm
    · rw [if_neg hroom] at hwrite
      simp only [act, taken?, hwrite, Option.toList_none, List.append_nil]
      exact .busy h rfl

/-- The sink hands over the first message that waits.  It stops when that is the close message, or
when nothing waits and nothing can come any more. -/
lemma Busy.receive (h : l.Busy handed left last) : Stands (handed ++ left) (l.act .receive) := by
  by_cases hpending : l.leaving ∧ l.channel.waiting = []
  · rw [act, if_pos hpending]
    exact .busy h rfl
  · rw [act, if_neg hpending]
    have hwaiting := h.waiting_eq
    -- the first message is one that was written; or all of those were handed over, and it is the
    -- close message; or there is none
    cases left with
    | cons data left =>
      rw [TextChannel.step_of_binary h.sink_eq hwaiting]
      have hdelivered : l.channel.delivered ++ [.binary data] = (handed ++ [data]).map .binary := by
        rw [h.delivered_eq, List.map_append]
        rfl
      refine .busy ⟨hdelivered, rfl, ?_, h.sink_eq, h.attached_eq⟩ (List.append_assoc ..)
      exact h.ends.imp_right fun hlast => ⟨hlast.1, ⟨hlast.2.attached_eq, hlast.2.leaving_eq⟩⟩
    | nil =>
      rcases h.ends with rfl | ⟨rfl, hclosed⟩
      · cases ha : l.channel.attached with
        | true =>
          rw [TextChannel.step_of_nil hwaiting ha]
          exact .busy h rfl
        | false =>
          have hleaving : l.leaving = false := Bool.eq_false_iff.2 fun hl => hpending ⟨hl, hwaiting⟩
          rw [TextChannel.step_of_nil_of_left h.sink_eq hwaiting ha]
          have hdelivered : l.channel.delivered = (handed ++ []).map .binary ++ [] := by
            simp [h.delivered_eq]
          exact .shut ⟨hdelivered, hwaiting, .inl rfl, rfl, ⟨ha, hleaving⟩⟩
      · rw [TextChannel.step_of_close h.sink_eq hwaiting]
        have hdelivered : l.channel.delivered ++ [.close]
            = (handed ++ []).map .binary ++ [.close] := by
          simp [h.delivered_eq]
        obtain ⟨ha, hleaving⟩ := hclosed
        exact .shut ⟨hdelivered, rfl, .inr ⟨rfl, ⟨ha, hleaving⟩⟩, rfl, ⟨ha, hleaving⟩⟩

lemma Busy.leave (h : l.Busy handed left last) : (l.act .leave).Busy handed left last := by
  cases ha : l.channel.attached with
  | false =>
    rw [act, if_neg (by simp [ha])]
    exact h
  | true =>
    have hlast : last = [] := h.ends.eq_nil (not_closed_of_attached ha)
    rw [act, if_pos ha]
    exact ⟨h.delivered_eq, h.waiting_eq, .inl hlast, h.sink_eq, fun _ => rfl⟩

/-- Between the halves of closing there is no close message yet. -/
lemma Busy.part (h : l.Busy handed left last) :
    ∃ last', (l.act .part).Busy handed left last' := by
  cases hleaving : l.leaving with
  | false =>
    rw [act, if_neg (by simp [hleaving])]
    exact ⟨last, h⟩
  | true =>
    obtain rfl : last = [] := h.ends.eq_nil (not_closed_of_leaving hleaving)
    have ha := h.attached_eq hleaving
    rw [act, if_pos hleaving, TextChannel.farewell]
    split
    · exact ⟨[.close], h.delivered_eq, by simp [h.waiting_eq], .inr ⟨rfl, ⟨ha, rfl⟩⟩, h.sink_eq,
        nofun⟩
    · exact ⟨[], h.delivered_eq, h.waiting_eq, .inl rfl, h.sink_eq, nofun⟩

lemma Shut.act_eq (h : l.Shut taken last) (m : Move) : l.act m = l := by
  by_cases hm : m = .receive
  · subst hm
    rw [h.closed.act_receive, TextChannel.step_of_finished h.sink_eq]
  · exact h.closed.act_of_ne hm

namespace Stands

lemma start (id : ChannelId) (capacity : ℕ) : Stands [] (start id capacity) := by
  have hbusy : (TextLine.start id capacity).Busy [] [] [] := ⟨rfl, rfl, .inl rfl, rfl, nofun⟩
  exact .busy hbusy rfl

lemma act (h : Stands taken l) (m : Move) :
    Stands (taken ++ (l.taken? m).toList) (l.act m) := by
  cases h with
  | shut h =>
    rw [taken?_of_left h.closed.attached_eq, h.act_eq m, Option.toList_none, List.append_nil]
    exact .shut h
  | busy h taken_eq =>
    subst taken_eq
    cases m with
    | write data => exact h.write data
    | receive => exact (List.append_nil _).symm ▸ h.receive
    | leave => exact .busy h.leave (List.append_nil _).symm
    | part =>
      obtain ⟨last', hpart⟩ := h.part
      exact .busy hpart (List.append_nil _).symm

lemma after (h : Stands taken l) (moves : List Move) :
    Stands (taken ++ l.accepted moves) (l.after moves) := by
  induction moves generalizing l taken with
  | nil => exact (List.append_nil taken).symm ▸ h
  | cons m moves ih =>
    rw [accepted, ← List.append_assoc]
    exact ih (h.act m)

/-- The sink has handed over or will hand over everything that was accepted, in order. -/
lemma traffic_eq (h : Stands taken l) :
    ∃ last, l.Ends last ∧ l.channel.delivered ++ l.channel.waiting = taken.map .binary ++ last := by
  cases h with
  | @busy handed left last h taken_eq =>
    refine ⟨last, h.ends, ?_⟩
    rw [h.delivered_eq, h.waiting_eq, ← taken_eq, List.map_append, List.append_assoc]
  | @shut last h =>
    refine ⟨last, h.ends, ?_⟩
    rw [h.delivered_eq, h.waiting_eq, List.append_nil]

lemma sink_eq_of_attached (h : Stands taken l) (ha : l.channel.attached = true) :
    l.channel.sink = .running := by
  cases h with
  | busy h _ => exact h.sink_eq
  | shut h => exact absurd h.closed (not_closed_of_attached ha)

lemma shut_of_finished (h : Stands taken l) (hsink : l.channel.sink = .finished) :
    ∃ last, l.Shut taken last := by
  cases h with
  | busy h _ => exact absurd (h.sink_eq.symm.trans hsink) nofun
  | shut h => exact ⟨_, h⟩

end Stands

/-! ## After closing -/

lemma Closed.act (h : l.Closed) (m : Move) : (l.act m).Closed := by
  by_cases hm : m = .receive
  · subst hm
    rw [h.act_receive]
    exact ⟨(l.channel.attached_step).trans h.attached_eq, h.leaving_eq⟩
  · rwa [h.act_of_ne hm]

/-- Nothing happens to a connection whose channel has been closed but what its sink does. -/
lemma Closed.after_eq (h : l.Closed) (moves : List Move) :
    l.after moves = { l with channel := l.channel.steps (moves.count .receive) } := by
  induction moves generalizing l with
  | nil => rfl
  | cons m moves ih =>
    rw [after_cons, ih (h.act m)]
    by_cases hm : m = .receive
    · subst hm
      rw [h.act_receive, List.count_cons_self, TextChannel.steps]
    · rw [h.act_of_ne hm, List.count_cons_of_ne hm]

/-- The connection is shut after one step of the sink more than messages wait. -/
lemma Closed.sink_after (h : l.Closed) (hl : Stands taken l)
    (hn : l.channel.waiting.length < moves.count .receive) :
    (l.after moves).channel.sink = .finished := by
  rw [h.after_eq]
  cases hl with
  | busy hl _ => exact TextChannel.sink_steps h.attached_eq hl.sink_eq hn
  | shut hl => rw [TextChannel.steps_of_finished hl.sink_eq, hl.sink_eq]

lemma Closed.accepted_eq (h : l.Closed) (moves : List Move) : l.accepted moves = [] := by
  induction moves generalizing l with
  | nil => rfl
  | cons m moves ih =>
    rw [accepted, taken?_of_left h.attached_eq, ih (h.act m)]
    rfl

/-- **No message that is accepted is lost.**  A fresh text channel is written to, emptied by the
sink and closed, step by step in any order.

* The messages that were handed over and those that wait are the bytes of the writes that were
  accepted, each in one message and in order; behind them is a close message at the most, and that
  only when the channel has been closed.
* Never do more messages wait than may wait.  As long as nobody has begun to close the channel, a
  write is accepted as a whole if there is room for one more message, and otherwise it would block
  and changes nothing.  From then on every write fails because the channel is closed.
* The connection is shut only when the channel has been closed and nothing waits; and when it has
  been closed, it is shut after one step of the sink more than messages wait, whatever else is done,
  and all that was accepted has been handed over.
* Whoever closes the channel and is not interrupted does what `close` does. -/
theorem nothing_accepted_is_lost (id : ChannelId) (n : ℕ) (moves : List Move) :
    let l := (start id n).after moves
    let c := l.channel
    let taken := (start id n).accepted moves
    (∃ last, l.Ends last ∧ c.delivered ++ c.waiting = taken.map .binary ++ last) ∧
    c.waiting.length ≤ max n 1 ∧
    (.leave ∉ moves → ∀ data, c.tryWrite data
      = if c.waiting.length < max n 1 then
          (.ok data.length, { c with waiting := c.waiting ++ [.binary data] })
        else (.error .wouldBlock, c)) ∧
    (.leave ∈ moves → ∀ data, c.tryWrite data = (.error TextChannel.closedFault, c)) ∧
    (c.sink = .finished → l.Closed ∧ c.waiting = []) ∧
    (l.Closed → ∀ more : List Move, c.waiting.length < more.count .receive →
      (l.after more).channel.sink = .finished ∧
        ∃ last, (last = [] ∨ last = [.close]) ∧
          (l.after more).channel.delivered = taken.map .binary ++ last) ∧
    (l.leaving = false → l.after [.leave, .part] = { l with channel := c.close }) := by
  intro l c taken
  have hl : Stands taken l := (Stands.start id n).after moves
  have hcapacity : c.capacity = max n 1 := capacity_after (start id n) moves
  have hfits : l.Fits := Fits.after (l := start id n) (Nat.zero_le _) moves
  have hattached : c.attached = true ↔ .leave ∉ moves :=
    (attached_after (start id n) moves).trans (and_iff_right rfl)
  refine ⟨hl.traffic_eq, hcapacity ▸ hfits, fun hopen data => ?_, fun hleft data => ?_,
    fun hsink => ?_, fun hclosed more hn => ?_, after_leave_part⟩
  · have ha := hattached.2 hopen
    rw [TextChannel.tryWrite_of_attached ha (hl.sink_eq_of_attached ha), hcapacity]
  · have ha : c.attached = false := Bool.eq_false_iff.2 fun ha => hattached.1 ha hleft
    exact TextChannel.tryWrite_of_left ha data
  · obtain ⟨last, hshut⟩ := hl.shut_of_finished hsink
    exact ⟨hshut.closed, hshut.waiting_eq⟩
  · have hsink := hclosed.sink_after hl hn
    have hmore : Stands taken (l.after more) := by
      have := hl.after more
      rwa [hclosed.accepted_eq, List.append_nil] at this
    obtain ⟨last, hshut⟩ := hmore.shut_of_finished hsink
    exact ⟨hsink, last, hshut.ends.imp_right And.left, hshut.delivered_eq⟩

/-- There is room for one message.  A second one is refused, and the channel is closed while the
first one still waits, so that there is no room for a close message. -/
theorem nothing_accepted_is_lost_when_full :
    let moves : List Move := [.write [1], .write [2], .leave, .part]
    let more : List Move := [.write [3], .receive, .leave, .receive]
    let full := (start ⟨1⟩ 1).after [.write [1]]
    let l := (start ⟨1⟩ 1).after moves
    full.channel.tryWrite [2] = (.error .wouldBlock, full.channel) ∧
      (start ⟨1⟩ 1).accepted moves = [[1]] ∧ l.Closed ∧
      l.channel.tryWrite [3] = (.error TextChannel.closedFault, l.channel) ∧
      (l.after more).channel.sink = .finished ∧
      ∃ last, (last = [] ∨ last = [.close]) ∧
        (l.after more).channel.delivered = [.binary [1]] ++ last := by
  intro moves more full l
  obtain ⟨-, -, hopen, -⟩ := nothing_accepted_is_lost ⟨1⟩ 1 [.write [1]]
  obtain ⟨-, -, -, hleft, -, hshut, -⟩ := nothing_accepted_is_lost ⟨1⟩ 1 moves
  have hclosed : l.Closed := ⟨rfl, rfl⟩
  exact ⟨hopen (by decide) [2], rfl, hclosed, hleft (by decide) [3],
    hshut hclosed more (by decide)⟩

end TextLine

end SessionServer
