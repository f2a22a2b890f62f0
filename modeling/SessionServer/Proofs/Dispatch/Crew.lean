/-
# The workers of a dispatcher

A *crew* is a dispatcher together with what each of its workers is handling.  Whoever has requests
queues them, and a worker that handles nothing takes one and hands it to the handler at once; when
the handler comes back, or panics, the worker is free again.  Stopping is done in two steps, since
the queue and the list of workers are not changed at the same moment: first what waits is thrown
away, then the workers are let go, while some of them may still be handling what they took.

What happens is a list of events, and everything that is said about a crew is said about the
events that led to it.

Main results: what an event does to the dispatcher (`Step.change`), and what has become of the
requests after some events (`Account.of_run`).
-/
import Mathlib.Data.List.Nodup
import Mathlib.Logic.Function.Basic
import SessionServer.Proofs.Dispatch.Queue

namespace SessionServer

namespace Dispatcher

variable {α : Type}

/-- The dispatcher with what waits thrown away and closed for all that comes. -/
def stop (d : Dispatcher α) : Dispatcher α := { d with waiting := [], stopped := true }

/-- The dispatcher with its workers let go. -/
def dismiss (d : Dispatcher α) : Dispatcher α := { d with workers := 0 }

lemma shutdown_eq (d : Dispatcher α) : d.shutdown = d.stop.dismiss := rfl

end Dispatcher

/-- A dispatcher and its workers. -/
structure Crew (α : Type) where
  dispatcher : Dispatcher α
  /-- What a worker is handling. -/
  busy : ℕ → Option (Waiting α) := fun _ => none

namespace Crew

/-- What is done to a crew. -/
inductive Action (α : Type) where
  | start
  | offer (priority timestamp : ℕ) (request : α)
  /-- A worker takes a request. -/
  | take (worker : ℕ)
  /-- The handler comes back to a worker, or panics. -/
  | handle (worker : ℕ) (panicked : Bool)
  | stop
  | dismiss

/-- What happens to a crew. -/
inductive Event (α : Type) where
  /-- The workers were to be started. -/
  | started (answer : Except DispatchError Unit)
  /-- A request was to be queued. -/
  | offered (w : Waiting α) (answer : Except DispatchError Unit)
  /-- A worker took a request and handed it to the handler. -/
  | taken (worker : ℕ) (w : Waiting α)
  /-- The handler came back to a worker, or panicked. -/
  | handled (worker : ℕ) (w : Waiting α) (panicked : Bool)
  | stopped (thrown : List (Waiting α))
  | dismissed
deriving DecidableEq, Repr

variable {α : Type} {c c' : Crew α} {d d' : Dispatcher α} {e : Event α} {es es' : List (Event α)}
  {config : DispatcherConfig} {w : Waiting α} {worker : ℕ}

/-- A crew with nothing to do. -/
def ofConfig (config : DispatcherConfig) : Crew α := { dispatcher := .ofConfig config }

/-- What an action does to a crew, if it can be done. -/
def act (c : Crew α) : Action α → Option (Event α × Crew α)
  | .start =>
    some (.started c.dispatcher.start.1, { c with dispatcher := c.dispatcher.start.2 })
  | .offer priority timestamp request =>
    some
      (.offered (c.dispatcher.arrival priority timestamp request)
          (c.dispatcher.enqueue priority timestamp request).1,
        { c with dispatcher := (c.dispatcher.enqueue priority timestamp request).2 })
  | .take worker =>
    -- only a worker that there is and that handles nothing takes a request
    if worker < c.dispatcher.workers ∧ (c.busy worker).isNone then
      match c.dispatcher.waiting, c.dispatcher.take? with
      | w :: _, some (_, d) =>
        some (.taken worker w, ⟨d, Function.update c.busy worker (some w)⟩)
      | _, _ => none
    else none
  | .handle worker panicked =>
    (c.busy worker).map fun w =>
      (.handled worker w panicked, { c with busy := Function.update c.busy worker none })
  | .stop => some (.stopped c.dispatcher.waiting, { c with dispatcher := c.dispatcher.stop })
  | .dismiss =>
    -- the workers are let go by somebody who has stopped the dispatcher before
    if c.dispatcher.stopped then some (.dismissed, { c with dispatcher := c.dispatcher.dismiss })
    else none

/-- What can happen to a crew next. -/
def Step (c : Crew α) (e : Event α) (c' : Crew α) : Prop := ∃ action, c.act action = some (e, c')

/-- What can happen to a crew, event by event. -/
inductive Run (c : Crew α) : List (Event α) → Crew α → Prop
  | nil : Run c [] c
  | snoc {es : List (Event α)} {e : Event α} {c₁ c₂ : Crew α} (hrun : Run c es c₁)
      (hstep : Step c₁ e c₂) : Run c (es ++ [e]) c₂

/-- Does some actions, as far as they can be done, and tells what has happened. -/
def play (c : Crew α) : List (Action α) → Option (List (Event α) × Crew α)
  | [] => some ([], c)
  | action :: actions =>
    (c.act action).bind fun (e, c₁) => (c₁.play actions).map fun (es, c₂) => (e :: es, c₂)

/-- A run can be interrupted anywhere. -/
lemma Run.of_append (h : Run c (es ++ es') c') : ∃ c₁, Run c es c₁ ∧ Run c₁ es' c' := by
  generalize hall : es ++ es' = all at h
  induction h generalizing es' with
  | nil =>
    obtain ⟨rfl, rfl⟩ := List.append_eq_nil_iff.1 hall
    exact ⟨c, .nil, .nil⟩
  | @snoc before e c₁ c₂ hrun hstep ih =>
    rcases List.eq_nil_or_concat es' with rfl | ⟨front, last, rfl⟩
    · rw [List.append_nil] at hall
      exact ⟨c₂, hall ▸ hrun.snoc hstep, .nil⟩
    · rw [List.concat_eq_append, ← List.append_assoc] at hall
      obtain ⟨hbefore, hlast⟩ := List.append_inj' hall rfl
      obtain rfl : last = e := List.head_eq_of_cons_eq hlast
      obtain ⟨c₀, hfirst, hsecond⟩ := ih hbefore
      rw [List.concat_eq_append]
      exact ⟨c₀, hfirst, hsecond.snoc hstep⟩

lemma Run.append {c₁ c₂ : Crew α} (h : Run c es c₁) (h' : Run c₁ es' c₂) :
    Run c (es ++ es') c₂ := by
  induction h' with
  | nil => rwa [List.append_nil]
  | snoc _ hstep ih =>
    rw [← List.append_assoc]
    exact ih.snoc hstep

lemma run_of_play {actions : List (Action α)} (h : c.play actions = some (es, c')) :
    Run c es c' := by
  induction actions generalizing c es with
  | nil =>
    simp only [play, Option.some.injEq, Prod.mk.injEq] at h
    obtain ⟨rfl, rfl⟩ := h
    exact .nil
  | cons action actions ih =>
    simp only [play, Option.bind_eq_some_iff, Option.map_eq_some_iff, Prod.mk.injEq] at h
    obtain ⟨⟨e, c₁⟩, hact, ⟨es', c₂⟩, hplay, rfl, rfl⟩ := h
    exact Run.append (Run.nil.snoc ⟨action, hact⟩) (ih hplay)

lemma Run.step_of_singleton (h : Run c [e] c') : Step c e c' := by
  generalize hall : [e] = all at h
  cases h with
  | nil => exact absurd hall (List.cons_ne_nil e [])
  | @snoc es last c₁ _ hrun hstep =>
    obtain ⟨hnil, hlast⟩ := List.append_inj' ((List.nil_append [e]).trans hall) rfl
    obtain rfl : e = last := List.head_eq_of_cons_eq hlast
    subst hnil
    generalize hes : ([] : List (Event α)) = es at hrun
    cases hrun with
    | nil => exact hstep
    | snoc _ _ => simp at hes

/-! ## What the events say -/

/-- The request that was let in by an event. -/
def Event.accepted? : Event α → Option (Waiting α)
  | .offered w (.ok ()) => some w
  | _ => none

/-- The request that was handed to the handler by an event. -/
def Event.taken? : Event α → Option (Waiting α)
  | .taken _ w => some w
  | _ => none

/-- The requests that were thrown away by an event. -/
def Event.thrown? : Event α → Option (List (Waiting α))
  | .stopped thrown => some thrown
  | _ => none

/-- The requests that were let in, first one first. -/
def accepted (es : List (Event α)) : List (Waiting α) := es.filterMap Event.accepted?

/-- The requests that were handed to the handler, first one first. -/
def taken (es : List (Event α)) : List (Waiting α) := es.filterMap Event.taken?

/-- The requests that were thrown away when the dispatcher was stopped for the first time. -/
def discarded (es : List (Event α)) : List (Waiting α) := (es.findSome? Event.thrown?).getD []

/-- The dispatcher was stopped. -/
def Stopped (es : List (Event α)) : Prop := ∃ thrown, Event.stopped thrown ∈ es

/-! ## What an event does to the dispatcher -/

/-- What an event does to a dispatcher, sorted by what is changed and not by who does it. -/
inductive Change : Dispatcher α → Event α → Dispatcher α → Prop
  | none {d : Dispatcher α} {e : Event α} (hstarted : e ≠ .started (.ok ()))
      (haccepted : e.accepted? = none) (htaken : e.taken? = none) (hthrown : e.thrown? = none)
      (hdismissed : e ≠ .dismissed) : Change d e d
  | opened {d : Dispatcher α} (hworkers : d.workers = 0) (hopen : d.stopped = false) :
      Change d (.started (.ok ())) { d with workers := d.config.workers }
  | admitted {d : Dispatcher α} {priority timestamp : ℕ} {request : α} (hopen : d.stopped = false)
      (hroom : d.length < d.capacity) :
      Change d (.offered (d.arrival priority timestamp request) (.ok ()))
        (d.receive priority timestamp request)
  | taken {d : Dispatcher α} {worker : ℕ} {w : Waiting α} {rest : List (Waiting α)}
      (hopen : d.stopped = false) (hworkers : d.workers ≠ 0) (hfront : d.waiting = w :: rest) :
      Change d (.taken worker w) { d with waiting := rest }
  | stopped {d : Dispatcher α} : Change d (.stopped d.waiting) d.stop
  | dismissed {d : Dispatcher α} (hstopped : d.stopped = true) : Change d .dismissed d.dismiss

/-- What is taken is what waits at the front. -/
lemma Step.front_of_taken (h : Step c (.taken worker w) c') :
    c.dispatcher.stopped = false ∧ c.dispatcher.workers ≠ 0 ∧ c.busy worker = none ∧
      ∃ rest, c.dispatcher.waiting = w :: rest ∧
        c' = ⟨{ c.dispatcher with waiting := rest }, Function.update c.busy worker (some w)⟩ := by
  obtain ⟨action, hact⟩ := h
  cases action with
  | take k =>
    simp only [act] at hact
    split_ifs at hact with hcan
    split at hact
    next v rest request d hwaiting htake =>
      simp only [Option.some.injEq, Prod.mk.injEq, Event.taken.injEq] at hact
      obtain ⟨⟨rfl, rfl⟩, rfl⟩ := hact
      obtain ⟨hopen, hworkers, v', rest', hfront, -, rfl⟩ := Dispatcher.take?_eq_some_iff.1 htake
      obtain ⟨-, rfl⟩ := List.cons_eq_cons.1 (hwaiting.symm.trans hfront)
      exact ⟨hopen, hworkers, Option.isNone_iff_eq_none.1 hcan.2, rest, hwaiting, rfl⟩
    next => exact absurd hact nofun
  | _ => simp [act] at hact

lemma Step.change (h : Step c e c') : Change c.dispatcher e c'.dispatcher := by
  obtain ⟨action, hact⟩ := id h
  cases action with
  | start =>
    simp only [act, Option.some.injEq, Prod.mk.injEq] at hact
    obtain ⟨rfl, rfl⟩ := hact
    rcases c.dispatcher.start_cases with ⟨-, hout⟩ | ⟨-, -, hout⟩ | ⟨hworkers, hopen, hout⟩
    · rw [hout]
      exact .none nofun rfl rfl rfl nofun
    · rw [hout]
      exact .none nofun rfl rfl rfl nofun
    · rw [hout]
      exact .opened hworkers hopen
  | offer priority timestamp request =>
    simp only [act, Option.some.injEq, Prod.mk.injEq] at hact
    obtain ⟨rfl, rfl⟩ := hact
    rcases c.dispatcher.enqueue_cases priority timestamp request with
      ⟨-, hout⟩ | ⟨-, -, hout⟩ | ⟨hopen, hroom, hout⟩
    · rw [hout]
      exact .none nofun rfl rfl rfl nofun
    · rw [hout]
      exact .none nofun rfl rfl rfl nofun
    · rw [hout]
      exact .admitted hopen hroom
  | take worker =>
    have htaken : ∃ w, e = .taken worker w := by
      simp only [act] at hact
      split_ifs at hact
      split at hact
      · obtain ⟨rfl, -⟩ := Prod.mk.inj (Option.some.inj hact)
        exact ⟨_, rfl⟩
      · exact absurd hact nofun
    obtain ⟨w, rfl⟩ := htaken
    obtain ⟨hopen, hworkers, -, rest, hfront, rfl⟩ := h.front_of_taken
    exact .taken hopen hworkers hfront
  | handle worker panicked =>
    obtain ⟨w, -, hout⟩ := Option.map_eq_some_iff.1 hact
    obtain ⟨rfl, rfl⟩ := Prod.mk.inj hout
    exact .none nofun rfl rfl rfl nofun
  | stop =>
    obtain ⟨rfl, rfl⟩ := Prod.mk.inj (Option.some.inj hact)
    exact .stopped
  | dismiss =>
    simp only [act] at hact
    split_ifs at hact with hstopped
    obtain ⟨rfl, rfl⟩ := Prod.mk.inj (Option.some.inj hact)
    exact .dismissed hstopped

/-! ## Accounts -/

/-- How what has happened to a crew shows in its dispatcher. -/
structure Account (config : DispatcherConfig) (es : List (Event α)) (d : Dispatcher α) : Prop where
  config_eq : d.config = config.validated
  ordered : d.Ordered
  /-- Arrivals are counted. -/
  arrivals_eq : d.arrivals = UInt64.ofNat (accepted es).length
  map_arrival : (accepted es).map (·.arrival)
    = (List.range (accepted es).length).map UInt64.ofNat
  /-- What was let in was handed out, waits or was thrown away. -/
  perm : (accepted es).Perm (taken es ++ d.waiting ++ discarded es)
  stopped_iff : d.stopped = true ↔ Stopped es
  waiting_eq_nil : d.stopped = true → d.waiting = []
  /-- Before the dispatcher is started nothing is handed out. -/
  taken_eq_nil : d.stopped = false → d.workers = 0 → taken es = []
  of_dismissed : .dismissed ∈ es → d.stopped = true ∧ d.workers = 0

lemma accepted_snoc (es : List (Event α)) (e : Event α) :
    accepted (es ++ [e]) = accepted es ++ e.accepted?.toList := by
  cases h : e.accepted? <;> simp [accepted, h]

lemma taken_snoc (es : List (Event α)) (e : Event α) :
    taken (es ++ [e]) = taken es ++ e.taken?.toList := by
  cases h : e.taken? <;> simp [taken, h]

lemma taken_append (es es' : List (Event α)) : taken (es ++ es') = taken es ++ taken es' :=
  List.filterMap_append

lemma stopped_snoc (es : List (Event α)) (e : Event α) :
    Stopped (es ++ [e]) ↔ Stopped es ∨ ∃ thrown, e = .stopped thrown := by
  unfold Stopped
  simp only [List.mem_append, List.mem_singleton, exists_or, eq_comm]

lemma discarded_snoc_of_none (hthrown : e.thrown? = none) (es : List (Event α)) :
    discarded (es ++ [e]) = discarded es := by
  simp [discarded, List.findSome?_append, hthrown]

lemma findSome?_thrown?_isSome (h : Stopped es) : (es.findSome? Event.thrown?).isSome = true := by
  obtain ⟨thrown, hmem⟩ := h
  rw [List.findSome?_isSome_iff]
  exact ⟨_, hmem, rfl⟩

/-- Only the first time something is thrown away. -/
lemma discarded_snoc_of_stopped (h : Stopped es) (e : Event α) :
    discarded (es ++ [e]) = discarded es := by
  obtain ⟨thrown, hthrown⟩ := Option.isSome_iff_exists.1 (findSome?_thrown?_isSome h)
  simp [discarded, List.findSome?_append, hthrown]

lemma findSome?_thrown?_eq_none (h : ¬ Stopped es) : es.findSome? Event.thrown? = none := by
  rw [List.findSome?_eq_none_iff]
  intro e he
  cases e with
  | stopped thrown => exact absurd ⟨thrown, he⟩ h
  | _ => rfl

lemma discarded_eq_nil (h : ¬ Stopped es) : discarded es = [] := by
  rw [discarded, findSome?_thrown?_eq_none h]
  rfl

lemma discarded_snoc_stopped (h : ¬ Stopped es) (thrown : List (Waiting α)) :
    discarded (es ++ [.stopped thrown]) = thrown := by
  rw [discarded, List.findSome?_append, findSome?_thrown?_eq_none h]
  rfl

lemma account_nil (config : DispatcherConfig) :
    Account config ([] : List (Event α)) (.ofConfig config) where
  config_eq := rfl
  ordered := Dispatcher.ordered_ofConfig config
  arrivals_eq := rfl
  map_arrival := rfl
  perm := List.Perm.refl _
  stopped_iff := ⟨nofun, nofun⟩
  waiting_eq_nil := nofun
  taken_eq_nil _ _ := rfl
  of_dismissed := nofun

namespace Account

/-! ### Arrivals that do not repeat -/

lemma map_toNat_arrival (h : Account config es d) (hle : (accepted es).length ≤ UInt64.size) :
    (accepted es).map (·.arrival.toNat) = List.range (accepted es).length := by
  have hnat : (accepted es).map (·.arrival.toNat)
      = ((accepted es).map (·.arrival)).map UInt64.toNat := by
    rw [List.map_map]
    rfl
  rw [hnat, h.map_arrival, List.map_map]
  refine (List.map_congr_left fun i hi => ?_).trans (List.map_id _)
  have hlt : i < UInt64.size := Nat.lt_of_lt_of_le (List.mem_range.1 hi) hle
  exact UInt64.toNat_ofNat_of_lt hlt

lemma nodup_arrival (h : Account config es d) (hle : (accepted es).length ≤ UInt64.size) :
    ((accepted es).map (·.arrival)).Nodup := by
  refine List.Nodup.of_map UInt64.toNat ?_
  rw [List.map_map]
  have hrange := h.map_toNat_arrival hle
  exact hrange ▸ List.nodup_range

lemma nodup_waiting (h : Account config es d) (hle : (accepted es).length ≤ UInt64.size) :
    (d.waiting.map (·.arrival)).Nodup := by
  have hall := (h.perm.map (·.arrival)).nodup_iff.1 (h.nodup_arrival hle)
  rw [List.map_append, List.map_append] at hall
  exact (List.nodup_append.1 (List.nodup_append.1 hall).1).2.1

/-- Whatever was let in has a number below the next one. -/
lemma arrival_lt (h : Account config es d) (hle : (accepted es).length ≤ UInt64.size)
    (hw : w ∈ accepted es) : w.arrival.toNat < (accepted es).length := by
  have hrange : w.arrival.toNat ∈ (accepted es).map (·.arrival.toNat) := List.mem_map_of_mem hw
  rwa [h.map_toNat_arrival hle, List.mem_range] at hrange

/-- The number of the next request, as long as there is one left for it. -/
lemma toNat_arrivals (h : Account config es d) (hlt : (accepted es).length < UInt64.size) :
    d.arrivals.toNat = (accepted es).length := by
  rw [h.arrivals_eq]
  exact UInt64.toNat_ofNat_of_lt hlt

/-! ### What events do to accounts -/

/-- An event that lets nothing in and hands and throws nothing out changes the workers at most. -/
lemma staff (h : Account config es d) (haccepted : e.accepted? = none) (htaken : e.taken? = none)
    (hthrown : e.thrown? = none) {workers : ℕ}
    (hworkers : d.stopped = false → workers = 0 → d.workers = 0)
    (hdismissed : .dismissed ∈ es ++ [e] → d.stopped = true ∧ workers = 0) :
    Account config (es ++ [e]) { d with workers } := by
  have haccepted' : accepted (es ++ [e]) = accepted es := by
    rw [accepted_snoc, haccepted, Option.toList_none, List.append_nil]
  have htaken' : taken (es ++ [e]) = taken es := by
    rw [taken_snoc, htaken, Option.toList_none, List.append_nil]
  have hstopped : Stopped (es ++ [e]) ↔ Stopped es := by
    rw [stopped_snoc, or_iff_left]
    rintro ⟨thrown, rfl⟩
    exact absurd hthrown nofun
  exact
    { config_eq := h.config_eq
      ordered := ⟨h.ordered.sorted, h.ordered.length_le⟩
      arrivals_eq := by rw [haccepted']; exact h.arrivals_eq
      map_arrival := by rw [haccepted']; exact h.map_arrival
      perm := by rw [haccepted', htaken', discarded_snoc_of_none hthrown]; exact h.perm
      stopped_iff := h.stopped_iff.trans hstopped.symm
      waiting_eq_nil := h.waiting_eq_nil
      taken_eq_nil := fun hopen hzero => htaken'.trans (h.taken_eq_nil hopen (hworkers hopen hzero))
      of_dismissed := hdismissed }

lemma not_stopped (h : Account config es d) (hopen : d.stopped = false) : ¬ Stopped es := by
  intro hstopped
  rw [h.stopped_iff.2 hstopped] at hopen
  exact Bool.noConfusion hopen

/-- Nobody has been dismissed as long as the dispatcher is open. -/
lemma dismissed_not_mem (h : Account config es d) (hopen : d.stopped = false) :
    .dismissed ∉ es := by
  intro hmem
  rw [(h.of_dismissed hmem).1] at hopen
  exact Bool.noConfusion hopen

lemma receive (h : Account config es d) (hopen : d.stopped = false) (hroom : d.length < d.capacity)
    (priority timestamp : ℕ) (request : α) :
    Account config (es ++ [.offered (d.arrival priority timestamp request) (.ok ())])
      (d.receive priority timestamp request) := by
  obtain ⟨w, hw⟩ : ∃ w, w = d.arrival priority timestamp request := ⟨_, rfl⟩
  have hwaiting : (d.receive priority timestamp request).waiting = Waiting.insert w d.waiting := by
    rw [hw]
    rfl
  rw [← hw]
  have haccepted : accepted (es ++ [.offered w (.ok ())]) = accepted es ++ [w] := accepted_snoc es _
  have htaken : taken (es ++ [.offered w (.ok ())]) = taken es := by
    rw [taken_snoc]
    exact List.append_nil _
  have hstopped : ¬ Stopped (es ++ [.offered w (.ok ())]) := by
    rw [stopped_snoc, not_or]
    exact ⟨h.not_stopped hopen, nofun⟩
  have hopen' : (d.receive priority timestamp request).stopped = false := hopen
  refine
    { config_eq := h.config_eq
      ordered := h.ordered.receive hroom priority timestamp request
      arrivals_eq := ?_, map_arrival := ?_, perm := ?_
      stopped_iff := iff_of_false (by simp [hopen']) hstopped
      waiting_eq_nil := fun hs => absurd (hs.symm.trans hopen') nofun
      taken_eq_nil := fun _ hworkers => htaken.trans (h.taken_eq_nil hopen hworkers)
      of_dismissed := fun hmem => ?_ }
  · rw [haccepted, List.length_append, UInt64.ofNat_add, ← h.arrivals_eq]
    rfl
  · -- the new request gets the next number
    rw [haccepted, List.map_append, List.length_append, List.length_singleton, List.range_succ,
      List.map_append, h.map_arrival, List.map_singleton, List.map_singleton, ← h.arrivals_eq, hw]
    rfl
  · rw [haccepted, htaken, hwaiting, discarded_snoc_of_none rfl,
      discarded_eq_nil (h.not_stopped hopen), List.append_nil]
    have hperm := h.perm
    rw [discarded_eq_nil (h.not_stopped hopen), List.append_nil] at hperm
    have hinsert : (taken es ++ w :: d.waiting).Perm (taken es ++ Waiting.insert w d.waiting) :=
      (Waiting.perm_insert w d.waiting).symm.append_left (taken es)
    exact (List.perm_append_singleton w _).trans
      ((hperm.cons w).trans (List.perm_middle.symm.trans hinsert))
  · rcases List.mem_append.1 hmem with hmem | hmem
    · exact absurd hmem (h.dismissed_not_mem hopen)
    · exact absurd (List.mem_singleton.1 hmem) nofun

lemma take {rest : List (Waiting α)} (h : Account config es d) (hopen : d.stopped = false)
    (hworkers : d.workers ≠ 0) (hfront : d.waiting = w :: rest) (worker : ℕ) :
    Account config (es ++ [.taken worker w]) { d with waiting := rest } := by
  have haccepted : accepted (es ++ [.taken worker w]) = accepted es := by
    rw [accepted_snoc]
    exact List.append_nil _
  have htaken : taken (es ++ [.taken worker w]) = taken es ++ [w] := taken_snoc es _
  have hstopped : ¬ Stopped (es ++ [.taken worker w]) := by
    rw [stopped_snoc, not_or]
    exact ⟨h.not_stopped hopen, nofun⟩
  refine
    { config_eq := h.config_eq
      ordered := h.ordered.take hfront
      arrivals_eq := by rw [haccepted]; exact h.arrivals_eq
      map_arrival := by rw [haccepted]; exact h.map_arrival
      perm := ?_
      stopped_iff := iff_of_false (by simp [hopen]) hstopped
      waiting_eq_nil := fun hs => absurd (hs.symm.trans hopen) nofun
      taken_eq_nil := fun _ hzero => absurd hzero hworkers
      of_dismissed := fun hmem => ?_ }
  · have hperm := h.perm
    rw [hfront] at hperm
    rw [haccepted, htaken, discarded_snoc_of_none rfl]
    simpa only [List.append_assoc, List.cons_append, List.nil_append] using hperm
  · rcases List.mem_append.1 hmem with hmem | hmem
    · exact absurd hmem (h.dismissed_not_mem hopen)
    · exact absurd (List.mem_singleton.1 hmem) nofun

lemma stop (h : Account config es d) : Account config (es ++ [.stopped d.waiting]) d.stop := by
  have haccepted : accepted (es ++ [.stopped d.waiting]) = accepted es := by
    rw [accepted_snoc]
    exact List.append_nil _
  have htaken : taken (es ++ [.stopped d.waiting]) = taken es := by
    rw [taken_snoc]
    exact List.append_nil _
  refine
    { config_eq := h.config_eq
      ordered := ⟨List.Pairwise.nil, Nat.zero_le _⟩
      arrivals_eq := by rw [haccepted]; exact h.arrivals_eq
      map_arrival := by rw [haccepted]; exact h.map_arrival
      perm := ?_
      stopped_iff := iff_of_true rfl ((stopped_snoc es _).2 (.inr ⟨_, rfl⟩))
      waiting_eq_nil := fun _ => rfl
      taken_eq_nil := nofun
      of_dismissed := fun hmem => ⟨rfl, ?_⟩ }
  · rw [haccepted, htaken]
    change (accepted es).Perm (taken es ++ [] ++ discarded (es ++ [.stopped d.waiting]))
    have hperm := h.perm
    by_cases hs : Stopped es
    · -- nothing was left to throw away
      rw [h.waiting_eq_nil (h.stopped_iff.2 hs)] at hperm
      rwa [discarded_snoc_of_stopped hs]
    · rw [discarded_eq_nil hs, List.append_nil] at hperm
      rwa [discarded_snoc_stopped hs, List.append_nil]
  · rcases List.mem_append.1 hmem with hmem | hmem
    · exact (h.of_dismissed hmem).2
    · exact absurd (List.mem_singleton.1 hmem) nofun

/-- The account goes on when something happens. -/
lemma snoc (h : Account config es d) (hc : Change d e d') : Account config (es ++ [e]) d' := by
  cases hc with
  | none hstarted haccepted htaken hthrown hdismissed =>
    refine h.staff haccepted htaken hthrown (fun _ hzero => hzero) fun hmem => ?_
    rcases List.mem_append.1 hmem with hmem | hmem
    · exact h.of_dismissed hmem
    · exact absurd (List.mem_singleton.1 hmem).symm hdismissed
  | opened hworkers hopen =>
    refine h.staff rfl rfl rfl (fun _ _ => hworkers) fun hmem => ?_
    rcases List.mem_append.1 hmem with hmem | hmem
    · exact absurd hmem (h.dismissed_not_mem hopen)
    · exact absurd (List.mem_singleton.1 hmem) nofun
  | admitted hopen hroom => exact h.receive hopen hroom _ _ _
  | taken hopen hworkers hfront => exact h.take hopen hworkers hfront _
  | stopped => exact h.stop
  | dismissed hstopped =>
    exact h.staff rfl rfl rfl (fun hopen => absurd (hopen.symm.trans hstopped) nofun)
      fun _ => ⟨hstopped, rfl⟩

end Account

/-- What has become of the requests after a run. -/
lemma Account.of_run (h : Run (ofConfig config) es c) : Account config es c.dispatcher := by
  induction h with
  | nil => exact account_nil config
  | snoc _ hstep ih => exact ih.snoc hstep.change

end Crew

end SessionServer
