/-
# No request is lost or handed out twice

Every request that is let in is handed to the handler once, or waits, or is thrown away when the
dispatcher is stopped, whoever queues and takes requests in which order, and whichever handlers
panic.  A request is refused only if the dispatcher is stopped or its queue is full, and what is
refused leaves no trace.  Once the dispatcher is stopped nothing is let in or handed out any more,
and once its workers are let go it cannot be started again.

Main result: `accepted_accounted_for`.
-/
import SessionServer.Proofs.Dispatch.Crew

namespace SessionServer

namespace Dispatcher

variable {α : Type} {d : Dispatcher α} {priority timestamp : ℕ} {request : α} {err : DispatchError}

/-- A request is refused for one of two reasons, of which being stopped comes first. -/
lemma enqueue_eq_error_iff (hle : d.length ≤ d.capacity) :
    (d.enqueue priority timestamp request).1 = .error err ↔
      (d.stopped = true ∧ err = .stopped) ∨
        (d.stopped = false ∧ d.length = d.capacity ∧ err = .queueFull d.capacity) := by
  rcases d.enqueue_cases priority timestamp request with
    ⟨hs, hout⟩ | ⟨hs, hfull, hout⟩ | ⟨hs, hroom, hout⟩
  · simp [hout, hs, eq_comm]
  · have heq : d.length = d.capacity := Nat.le_antisymm hle hfull
    simp [hout, hs, heq, eq_comm]
  · simp [hout, hs, hroom.ne]

/-- A request that is refused leaves no trace. -/
lemma enqueue_of_error (h : (d.enqueue priority timestamp request).1 = .error err) :
    (d.enqueue priority timestamp request).2 = d := by
  rcases d.enqueue_cases priority timestamp request with ⟨-, hout⟩ | ⟨-, -, hout⟩ | ⟨-, -, hout⟩
  · rw [hout]
  · rw [hout]
  · rw [hout] at h
    exact absurd h nofun

lemma enqueue_of_stopped (h : d.stopped = true) :
    d.enqueue priority timestamp request = (.error .stopped, d) := if_pos h

lemma start_of_error (h : d.start.1 = .error err) : d.start.2 = d := by
  rcases d.start_cases with ⟨-, hout⟩ | ⟨-, -, hout⟩ | ⟨-, -, hout⟩
  · rw [hout]
  · rw [hout]
  · rw [hout] at h
    exact absurd h nofun

lemma start_of_stopped (hworkers : d.workers = 0) (hs : d.stopped = true) :
    d.start = (.error .stopped, d) := by
  rcases d.start_cases with ⟨hne, -⟩ | ⟨-, -, hout⟩ | ⟨-, hopen, -⟩
  · exact absurd hworkers hne
  · exact hout
  · exact absurd (hs.symm.trans hopen) nofun

lemma stop_eq_self (hs : d.stopped = true) (hwaiting : d.waiting = []) : d.stop = d := by
  obtain ⟨config, waiting, arrivals, workers, stopped⟩ := d
  obtain rfl : stopped = true := hs
  obtain rfl : waiting = [] := hwaiting
  rfl

lemma dismiss_eq_self (hworkers : d.workers = 0) : d.dismiss = d := by
  obtain ⟨config, waiting, arrivals, workers, stopped⟩ := d
  obtain rfl : workers = 0 := hworkers
  rfl

end Dispatcher

namespace Crew

variable {α : Type} {c : Crew α} {es : List (Event α)} {config : DispatcherConfig}

/-- **No request is lost or handed out twice.**  After whatever has happened, in whatever order,

* the requests that were let in are those that were handed to the handler, those that wait and
  those that were thrown away when the dispatcher was first stopped, and no more wait than there may
  be; they are told apart by their numbers of arrival, as long as these are enough;
* a request that comes now is refused if the dispatcher was stopped, or else if as many wait as
  there may be, and only then, and neither a request nor a start that is refused changes anything;
* if the dispatcher was stopped, nothing waits, no worker can take anything, every request is
  refused and stopping it once more changes nothing;
* if its workers were let go as well, it can neither be started nor shut down any further. -/
theorem accepted_accounted_for (h : Run (ofConfig config) es c) :
    ((accepted es).length ≤ UInt64.size → ((accepted es).map (·.arrival)).Nodup) ∧
    (accepted es).Perm (taken es ++ c.dispatcher.waiting ++ discarded es) ∧
    c.dispatcher.length ≤ config.validated.maxQueueSize ∧
    (∀ priority timestamp request err,
      (c.dispatcher.enqueue priority timestamp request).1 = .error err ↔
        Stopped es ∧ err = .stopped ∨
          ¬ Stopped es ∧ c.dispatcher.length = config.validated.maxQueueSize ∧
            err = .queueFull config.validated.maxQueueSize) ∧
    (∀ priority timestamp request err,
      (c.dispatcher.enqueue priority timestamp request).1 = .error err →
        (c.dispatcher.enqueue priority timestamp request).2 = c.dispatcher) ∧
    (∀ err, c.dispatcher.start.1 = .error err → c.dispatcher.start.2 = c.dispatcher) ∧
    (Stopped es →
      c.dispatcher.waiting = [] ∧ (∀ worker w c', ¬ Step c (.taken worker w) c') ∧
        (∀ priority timestamp request,
          c.dispatcher.enqueue priority timestamp request = (.error .stopped, c.dispatcher)) ∧
        c.dispatcher.stop = c.dispatcher) ∧
    (.dismissed ∈ es →
      Stopped es ∧ c.dispatcher.start = (.error .stopped, c.dispatcher) ∧
        c.dispatcher.shutdown = c.dispatcher) := by
  have hacc := Account.of_run h
  have hcapacity : c.dispatcher.capacity = config.validated.maxQueueSize := by
    rw [Dispatcher.capacity, hacc.config_eq]
  have hle := hacc.ordered.length_le
  refine ⟨hacc.nodup_arrival, hacc.perm, hcapacity ▸ hle, ?_, ?_, ?_, ?_, ?_⟩
  · intro priority timestamp request err
    rw [Dispatcher.enqueue_eq_error_iff hle, hcapacity, ← hacc.stopped_iff, Bool.not_eq_true]
  · exact fun _ _ _ _ => Dispatcher.enqueue_of_error
  · exact fun _ => Dispatcher.start_of_error
  · intro hstopped
    have hs := hacc.stopped_iff.2 hstopped
    have hwaiting := hacc.waiting_eq_nil hs
    refine ⟨hwaiting, fun worker w c' hstep => ?_, fun _ _ _ => Dispatcher.enqueue_of_stopped hs,
      Dispatcher.stop_eq_self hs hwaiting⟩
    obtain ⟨hopen, -⟩ := hstep.front_of_taken
    exact absurd (hs.symm.trans hopen) nofun
  · intro hdismissed
    obtain ⟨hs, hworkers⟩ := hacc.of_dismissed hdismissed
    refine ⟨hacc.stopped_iff.1 hs, Dispatcher.start_of_stopped hworkers hs, ?_⟩
    rw [Dispatcher.shutdown_eq, Dispatcher.stop_eq_self hs (hacc.waiting_eq_nil hs),
      Dispatcher.dismiss_eq_self hworkers]

/-- Two workers and room for two.  One handler panics, and the other one is still busy when the
dispatcher is stopped and a third request is thrown away; between the two steps of stopping, the
workers count as started. -/
theorem accepted_accounted_for_of_panic :
    let config : DispatcherConfig := { workers := 2, maxQueueSize := 2 }
    let actions : List (Action String) :=
      [.offer 1 5 "a", .offer 1 6 "b", .offer 1 7 "late", .start, .start, .take 0,
        .offer 1 8 "c", .handle 0 true, .take 1, .stop, .offer 0 9 "later", .start, .dismiss,
        .handle 1 false, .start]
    ∃ es c, (ofConfig config).play actions = some (es, c) ∧
      taken es = [⟨1, 5, 0, "a"⟩, ⟨1, 6, 1, "b"⟩] ∧ discarded es = [⟨1, 8, 2, "c"⟩] ∧
      (accepted es).Perm (taken es ++ [] ++ discarded es) ∧
      c.dispatcher.start = (.error .stopped, c.dispatcher) := by
  intro config actions
  have hplay : ((ofConfig config).play actions).map (fun r => (taken r.1, discarded r.1,
      decide (Event.dismissed ∈ r.1)))
      = some ([⟨1, 5, 0, "a"⟩, ⟨1, 6, 1, "b"⟩], [⟨1, 8, 2, "c"⟩], true) := by
    decide +kernel
  obtain ⟨⟨es, c⟩, hplayed, hout⟩ := Option.map_eq_some_iff.1 hplay
  simp only [Prod.mk.injEq, decide_eq_true_eq] at hout
  obtain ⟨htaken, hdiscarded, hdismissed⟩ := hout
  obtain ⟨-, hperm, -, -, -, -, hstopped, hover⟩ := accepted_accounted_for (run_of_play hplayed)
  obtain ⟨hs, hstart, -⟩ := hover hdismissed
  refine ⟨es, c, hplayed, htaken, hdiscarded, ?_, hstart⟩
  rwa [(hstopped hs).1] at hperm

end Crew

end SessionServer
