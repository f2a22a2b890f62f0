/-
# Requests are taken in order

Whenever a worker takes a request, it takes the least one of all that wait.  What that means for
the order in which requests are taken depends on when they arrive: a request that arrives late may
overtake others, but not one with the same priority and the same time.  Requests that were let in
before the dispatcher was started are all there when the first one is taken, and leave in the
stable order of their priorities and times.

Main result: `taken_in_order`.
-/
import SessionServer.Proofs.Dispatch.Crew

namespace SessionServer

namespace Waiting

variable {α : Type} {l l' : List (Waiting α)}

/-- One request may be taken before another as far as priorities and times are concerned. -/
def rankLe (a b : Waiting α) : Bool := a.rank ≤ b.rank

lemma rankLe_iff {a b : Waiting α} : rankLe a b = true ↔ a.rank ≤ b.rank := decide_eq_true_iff

lemma rankLe_trans (a b c : Waiting α) (hab : rankLe a b = true) (hbc : rankLe b c = true) :
    rankLe a c = true :=
  rankLe_iff.2 ((rankLe_iff.1 hab).trans (rankLe_iff.1 hbc))

lemma rankLe_total (a b : Waiting α) : (rankLe a b || rankLe b a) = true := by
  simpa only [Bool.or_eq_true, rankLe_iff] using le_total a.rank b.rank

/-- The requests in the stable order of their priorities and times. -/
def sortByRank (l : List (Waiting α)) : List (Waiting α) := l.mergeSort rankLe

lemma perm_sortByRank (l : List (Waiting α)) : (sortByRank l).Perm l := List.mergeSort_perm l rankLe

lemma pairwise_sortByRank (l : List (Waiting α)) :
    (sortByRank l).Pairwise fun a b => a.rank ≤ b.rank :=
  (List.pairwise_mergeSort rankLe_trans rankLe_total l).imp rankLe_iff.1

/-- Sorting leaves requests with the same priority and time in the order in which they were. -/
lemma filter_sortByRank (l : List (Waiting α)) (r : ℕ ×ₗ ℕ) :
    (sortByRank l).filter (fun w => w.rank = r) = l.filter fun w => w.rank = r := by
  have hle : (l.filter fun w => w.rank = r).Pairwise fun a b => rankLe a b = true := by
    refine List.pairwise_of_forall_mem_list fun a ha b hb => rankLe_iff.2 ?_
    have har : a.rank = r := by simpa using (List.mem_filter.1 ha).2
    have hbr : b.rank = r := by simpa using (List.mem_filter.1 hb).2
    exact (har.trans hbr.symm).le
  have hsub := (List.sublist_mergeSort rankLe_trans rankLe_total hle List.filter_sublist).filter
    fun w => decide (w.rank = r)
  rw [List.filter_filter] at hsub
  simp only [Bool.and_self] at hsub
  have hlen := ((perm_sortByRank l).filter fun w => decide (w.rank = r)).length_eq
  exact (hsub.eq_of_length hlen.symm).symm

/-- A queue that holds requests which came in the given order is that order, sorted by priority
and time. -/
lemma sortByRank_eq_of_sorted (hsorted : l'.Pairwise fun a b => a.key < b.key) (hperm : l.Perm l')
    (harrival : l.Pairwise fun a b => a.arrival < b.arrival) : sortByRank l = l' := by
  have hkeys : (sortByRank l).Pairwise fun a b => a.key < b.key := by
    rw [List.pairwise_iff_forall_sublist]
    intro a b hab
    have hrank : a.rank ≤ b.rank :=
      List.pairwise_iff_forall_sublist.1 (pairwise_sortByRank l) hab
    rcases hrank.lt_or_eq with hlt | heq
    · exact key_lt_iff.2 (.inl hlt)
    · -- the two have the same rank, and so are in the order in which they came
      have hsub := hab.filter fun w => decide (w.rank = b.rank)
      rw [filter_sortByRank] at hsub
      simp only [List.filter_cons, heq, decide_true, if_true, List.filter_nil] at hsub
      have hcame := List.pairwise_iff_forall_sublist.1 harrival (hsub.trans List.filter_sublist)
      exact key_lt_iff.2 (.inr ⟨heq, hcame⟩)
  have hperm' : (sortByRank l).Perm l' := (perm_sortByRank l).trans hperm
  exact hperm'.eq_of_pairwise (fun a b _ _ hab hba => absurd hba hab.asymm) hkeys hsorted

end Waiting

namespace Crew

variable {α : Type} {c c₁ c' : Crew α} {d d' : Dispatcher α} {e : Event α}
  {es before after : List (Event α)} {config : DispatcherConfig} {w v : Waiting α}

/-! ## The least request -/

/-- No request comes before the one at the front. -/
lemma key_le_of_front {rest : List (Waiting α)} (h : d.Ordered) (hfront : d.waiting = w :: rest) :
    ∀ v ∈ d.waiting, w.key ≤ v.key := by
  intro v hv
  have hsorted := h.sorted
  rw [hfront] at hsorted hv
  rcases List.mem_cons.1 hv with rfl | hv
  · exact le_rfl
  · exact (List.pairwise_cons.1 hsorted).1 v hv

/-- As long as arrivals do not repeat, the request at the front comes before all others. -/
lemma key_lt_of_front {rest : List (Waiting α)} (h : Account config es d)
    (hle : (accepted es).length ≤ UInt64.size) (hfront : d.waiting = w :: rest) :
    ∀ v ∈ d.waiting, v = w ∨ w.key < v.key := by
  intro v hv
  have hsorted := h.ordered.sorted.pairwise_lt (h.nodup_waiting hle)
  rw [hfront] at hsorted hv
  rcases List.mem_cons.1 hv with rfl | hv
  · exact .inl rfl
  · exact .inr ((List.pairwise_cons.1 hsorted).1 v hv)

/-! ## Requests with the same priority and time -/

/-- The two requests do not agree in priority and time, or the first one arrived first. -/
def Fair (a b : Waiting α) : Prop := a.rank = b.rank → a.arrival < b.arrival

lemma Account.mem_accepted_of_taken (h : Account config es d) (hw : w ∈ taken es) :
    w ∈ accepted es := by
  rw [h.perm.mem_iff]
  exact List.mem_append_left _ (List.mem_append_left _ hw)

lemma length_accepted_le_snoc (es : List (Event α)) (e : Event α) :
    (accepted es).length ≤ (accepted (es ++ [e])).length := by
  rw [accepted_snoc, List.length_append]
  exact Nat.le_add_right _ _

/-- There was a number left for whatever was let in. -/
lemma length_accepted_lt (hle : (accepted (es ++ [.offered w (.ok ())])).length ≤ UInt64.size) :
    (accepted es).length < UInt64.size := by
  rw [accepted_snoc, List.length_append] at hle
  exact hle

/-- Of two requests with the same priority and time, the later one is not taken first. -/
structure Fairness (es : List (Event α)) (d : Dispatcher α) : Prop where
  pairwise : (taken es).Pairwise Fair
  ahead : ∀ a ∈ taken es, ∀ b ∈ d.waiting, Fair a b

lemma Fairness.snoc (h : Fairness es d) (hacc : Account config es d) (hc : Change d e d')
    (hle : (accepted (es ++ [e])).length ≤ UInt64.size) : Fairness (es ++ [e]) d' := by
  have hsame : e.taken? = none → taken (es ++ [e]) = taken es := by
    intro htaken
    rw [taken_snoc, htaken, Option.toList_none, List.append_nil]
  cases hc with
  | none _ _ htaken _ _ => exact ⟨hsame htaken ▸ h.pairwise, hsame htaken ▸ h.ahead⟩
  | opened _ _ => exact ⟨hsame rfl ▸ h.pairwise, hsame rfl ▸ h.ahead⟩
  | admitted hopen hroom =>
    refine ⟨hsame rfl ▸ h.pairwise, fun a ha b hb => ?_⟩
    rw [hsame rfl] at ha
    rcases (Waiting.mem_insert _ b d.waiting).1 hb with rfl | hb
    · -- the new request has arrived after all that were taken
      have hlt := length_accepted_lt hle
      refine fun _ => UInt64.lt_iff_toNat_lt.2 ?_
      rw [Dispatcher.arrival, hacc.toNat_arrivals hlt]
      exact hacc.arrival_lt hlt.le (hacc.mem_accepted_of_taken ha)
    · exact h.ahead a ha b hb
  | @taken worker w rest hopen hworkers hfront =>
    have htaken : taken (es ++ [.taken worker w]) = taken es ++ [w] := taken_snoc es _
    refine ⟨?_, fun a ha b hb => ?_⟩
    · rw [htaken, List.pairwise_append]
      refine ⟨h.pairwise, List.pairwise_singleton _ w, fun a ha b hb => ?_⟩
      obtain rfl := List.mem_singleton.1 hb
      exact h.ahead a ha b (hfront ▸ List.mem_cons_self)
    · rw [htaken] at ha
      rcases List.mem_append.1 ha with ha | ha
      · exact h.ahead a ha b (hfront ▸ List.mem_cons_of_mem w hb)
      · obtain rfl := List.mem_singleton.1 ha
        have hbefore := (length_accepted_le_snoc es _).trans hle
        have hsorted := hacc.ordered.sorted.pairwise_lt (hacc.nodup_waiting hbefore)
        rw [hfront] at hsorted
        exact Waiting.arrival_lt_of_key_lt ((List.pairwise_cons.1 hsorted).1 b hb)
  | stopped => exact ⟨hsame rfl ▸ h.pairwise, fun a _ b hb => absurd hb List.not_mem_nil⟩
  | dismissed hstopped => exact ⟨hsame rfl ▸ h.pairwise, hsame rfl ▸ h.ahead⟩

lemma Fairness.of_run (h : Run (ofConfig config) es c)
    (hle : (accepted es).length ≤ UInt64.size) : Fairness es c.dispatcher := by
  induction h with
  | nil => exact ⟨List.Pairwise.nil, nofun⟩
  | snoc hrun hstep ih =>
    have hbefore := (length_accepted_le_snoc _ _).trans hle
    exact (ih hbefore).snoc (Account.of_run hrun) hstep.change hle

/-! ## Requests that wait when the dispatcher is started -/

/-- The request is one of the first `n` that arrived. -/
def early (n : ℕ) (w : Waiting α) : Bool := w.arrival.toNat < n

/-- What was not taken of the first `n` requests: what still waits, and what was thrown away. -/
def leftOver (n : ℕ) (es : List (Event α)) (d : Dispatcher α) : List (Waiting α) :=
  (d.waiting ++ discarded es).filter (early n)

/-- What is taken of the first requests is taken from the front of what is left of them. -/
lemma leftOver_snoc {n : ℕ} (hacc : Account config es d) (hc : Change d e d')
    (hle : (accepted (es ++ [e])).length ≤ UInt64.size) (hn : n ≤ (accepted es).length) :
    e.taken?.toList.filter (early n) ++ leftOver n (es ++ [e]) d' = leftOver n es d := by
  unfold leftOver
  cases hc with
  | none _ _ htaken hthrown _ =>
    rw [htaken, discarded_snoc_of_none hthrown]
    rfl
  | opened _ _ =>
    rw [discarded_snoc_of_none rfl]
    rfl
  | @admitted priority timestamp request hopen hroom =>
    have hlate : early n (d.arrival priority timestamp request) = false := by
      refine decide_eq_false (Nat.not_lt.2 ?_)
      rw [Dispatcher.arrival, hacc.toNat_arrivals (length_accepted_lt hle)]
      exact hn
    rw [discarded_snoc_of_none rfl, Dispatcher.receive, List.filter_append,
      Waiting.filter_insert_of_neg _ hlate, ← List.filter_append]
    rfl
  | @taken worker w rest hopen hworkers hfront =>
    rw [discarded_snoc_of_none rfl, hfront, ← List.filter_append]
    rfl
  | stopped =>
    by_cases hs : Stopped es
    · rw [discarded_snoc_of_stopped hs, hacc.waiting_eq_nil (hacc.stopped_iff.2 hs)]
      rfl
    · rw [discarded_snoc_stopped hs, discarded_eq_nil hs, List.append_nil]
      rfl
  | dismissed _ =>
    rw [discarded_snoc_of_none rfl]
    rfl

/-- From any moment on, the requests that wait then are taken in the order of the queue. -/
lemma taken_append_leftOver {n : ℕ} (h : Run (ofConfig config) before c₁)
    (hn : n ≤ (accepted before).length) (h' : Run c₁ after c)
    (hle : (accepted (before ++ after)).length ≤ UInt64.size) :
    (taken after).filter (early n) ++ leftOver n (before ++ after) c.dispatcher
      = leftOver n before c₁.dispatcher := by
  induction h' with
  | nil =>
    rw [List.append_nil]
    rfl
  | @snoc after e c₂ c₃ hrun hstep ih =>
    rw [← List.append_assoc] at hle ⊢
    have hmore : n ≤ (accepted (before ++ after)).length := by
      rw [accepted, List.filterMap_append, List.length_append]
      exact Nat.le_add_right_of_le hn
    have hleft := leftOver_snoc (Account.of_run (h.append hrun)) hstep.change hle hmore
    rw [taken_snoc, List.filter_append, List.append_assoc, hleft]
    exact ih ((length_accepted_le_snoc _ e).trans hle)

/-- The requests that wait when the dispatcher is started are all that were let in before, in the
stable order of their priorities and times. -/
lemma waiting_eq_sortByRank (h : Account config es d)
    (hle : (accepted es).length ≤ UInt64.size) (hopen : d.stopped = false)
    (hworkers : d.workers = 0) : d.waiting = Waiting.sortByRank (accepted es) := by
  have hperm := h.perm
  rw [h.taken_eq_nil hopen hworkers, discarded_eq_nil (h.not_stopped hopen), List.nil_append,
    List.append_nil] at hperm
  have harrival : ((accepted es).map (·.arrival.toNat)).Pairwise (· < ·) := by
    rw [h.map_toNat_arrival hle]
    exact List.pairwise_lt_range
  have hsorted := h.ordered.sorted.pairwise_lt (h.nodup_waiting hle)
  exact (Waiting.sortByRank_eq_of_sorted hsorted hperm
    ((List.pairwise_map.1 harrival).imp UInt64.lt_iff_toNat_lt.2)).symm

/-! ## The theorem -/

/-- **Requests are taken in order.**  After whatever has happened, in whatever order, a request that
a worker takes next is one that waits, and none that waits comes before it, by priority, time and
number of arrival.  Arrivals are numbered in the order in which the requests were let in, in 64
bits.  As long as these numbers do not repeat,

* the request that is taken next comes before all others that wait;
* of the requests with the same priority and time none has been taken before one that arrived
  earlier;
* those let in before the dispatcher was started have been taken, as far as they have been taken,
  in the stable order of their priorities and times: what has been taken of them, followed by what
  still waits and what was thrown away, is that order. -/
theorem taken_in_order (h : Run (ofConfig config) es c) :
    (∀ worker w c', Step c (.taken worker w) c' →
      w ∈ c.dispatcher.waiting ∧ ∀ v ∈ c.dispatcher.waiting, w.key ≤ v.key) ∧
    (accepted es).map (·.arrival) = (List.range (accepted es).length).map UInt64.ofNat ∧
    ((accepted es).length ≤ UInt64.size →
      (∀ worker w c', Step c (.taken worker w) c' →
        ∀ v ∈ c.dispatcher.waiting, v = w ∨ w.key < v.key) ∧
      (taken es).Pairwise (fun a b => a.rank = b.rank → a.arrival < b.arrival) ∧
      ∀ before after, es = before ++ .started (.ok ()) :: after →
        (taken es).filter (early (accepted before).length) ++
            leftOver (accepted before).length es c.dispatcher
          = Waiting.sortByRank (accepted before)) := by
  have hacc := Account.of_run h
  refine ⟨fun worker w c' hstep => ?_, hacc.map_arrival, fun hle => ⟨fun worker w c' hstep => ?_,
    (Fairness.of_run h hle).pairwise, ?_⟩⟩
  · obtain ⟨-, -, -, rest, hfront, -⟩ := hstep.front_of_taken
    exact ⟨hfront ▸ List.mem_cons_self, key_le_of_front hacc.ordered hfront⟩
  · obtain ⟨-, -, -, rest, hfront, -⟩ := hstep.front_of_taken
    exact key_lt_of_front hacc hle hfront
  · rintro before after rfl
    obtain ⟨c₁, hbefore, hafter⟩ := h.of_append
    have hacc₁ := Account.of_run hbefore
    have hle₁ : (accepted before).length ≤ UInt64.size := by
      rw [accepted, List.filterMap_append, List.length_append] at hle
      exact (Nat.le_add_right _ _).trans hle
    -- the workers could be started, so that nobody has taken anything before
    obtain ⟨hopen, hworkers⟩ : c₁.dispatcher.stopped = false ∧ c₁.dispatcher.workers = 0 := by
      have hsplit : Run c₁ ([.started (.ok ())] ++ after) c := hafter
      obtain ⟨c₂, hstart, -⟩ := hsplit.of_append
      have hchange := hstart.step_of_singleton.change
      generalize c₂.dispatcher = d at hchange
      cases hchange with
      | none hstarted => exact absurd rfl hstarted
      | opened hworkers hopen => exact ⟨hopen, hworkers⟩
    have hearly : ∀ w ∈ c₁.dispatcher.waiting, early (accepted before).length w = true := by
      intro w hw
      refine decide_eq_true (hacc₁.arrival_lt hle₁ ?_)
      rw [hacc₁.perm.mem_iff]
      exact List.mem_append_left _ (List.mem_append_right _ hw)
    have hleft := taken_append_leftOver hbefore le_rfl hafter hle
    rw [taken_append, hacc₁.taken_eq_nil hopen hworkers, List.nil_append, hleft, leftOver,
      discarded_eq_nil (hacc₁.not_stopped hopen), List.append_nil, List.filter_eq_self.2 hearly]
    exact waiting_eq_sortByRank hacc₁ hle₁ hopen hworkers

/-- Three requests fill the queue before the two workers are started.  Two of them agree in
priority and time.  One that arrives while the first of them is handled overtakes the other, and
the handler panics in between. -/
theorem taken_in_order_of_overtaking :
    let config : DispatcherConfig := { workers := 2, maxQueueSize := 3 }
    let slow : Waiting String := ⟨2, 7, 0, "slow"⟩
    let first : Waiting String := ⟨1, 9, 1, "first"⟩
    let second : Waiting String := ⟨1, 9, 2, "second"⟩
    let urgent : Waiting String := ⟨0, 11, 3, "urgent"⟩
    let before : List (Event String) :=
      [.offered slow (.ok ()), .offered first (.ok ()), .offered second (.ok ()),
        .offered urgent (.error (.queueFull 3))]
    let after : List (Event String) :=
      [.taken 0 first, .offered urgent (.ok ()), .taken 1 urgent, .handled 0 first true,
        .taken 0 second]
    ∃ c, Run (ofConfig config) (before ++ .started (.ok ()) :: after) c ∧
      c.dispatcher.waiting = [slow] ∧
      taken (before ++ .started (.ok ()) :: after) = [first, urgent, second] ∧
      Waiting.sortByRank [slow, first, second] = [first, second, slow] := by
  intro config slow first second urgent before after
  let actions : List (Action String) :=
    [.offer 2 7 "slow", .offer 1 9 "first", .offer 1 9 "second", .offer 0 11 "urgent", .start,
      .take 0, .offer 0 11 "urgent", .take 1, .handle 0 true, .take 0]
  have hplay : ((ofConfig config).play actions).map (fun r => (r.1, r.2.dispatcher.waiting))
      = some (before ++ .started (.ok ()) :: after, [slow]) := by
    decide +kernel
  obtain ⟨⟨es, c⟩, hplayed, hout⟩ := Option.map_eq_some_iff.1 hplay
  obtain ⟨rfl, hwaiting⟩ := Prod.mk.inj hout
  have hrun := run_of_play hplayed
  obtain ⟨-, -, hnumbered⟩ := taken_in_order hrun
  obtain ⟨-, -, hsorted⟩ := hnumbered (by decide)
  refine ⟨c, hrun, hwaiting, rfl, ?_⟩
  have hleft : leftOver 3 (before ++ .started (.ok ()) :: after) c.dispatcher = [slow] := by
    rw [leftOver, hwaiting]
    rfl
  have hall := hsorted before after rfl
  change _ ++ leftOver 3 _ _ = Waiting.sortByRank [slow, first, second] at hall
  rw [← hall, hleft]
  rfl

end Crew

end SessionServer
