/-
# The order in which requests wait

A request is ordered by its priority, its time and its arrival, in this order of weight, and the
smallest comes first.  The queue of a dispatcher is kept sorted, so that a least request is at the
front.  Arrivals are numbers that do not repeat as long as there are any left, and as long as they
do not repeat, no two requests that wait compare as equal.

Main results: putting a request in its place keeps a queue sorted (`pairwise_insert`), and what
queueing and taking do to a dispatcher (`enqueue_cases`, `take?_eq_some_iff`) leaves it in order
(`Ordered.receive`, `Ordered.take`).
-/
import Mathlib.Data.Prod.Lex
import SessionServer.Dispatcher

namespace SessionServer

namespace Waiting

variable {α : Type} {u v w : Waiting α} {l : List (Waiting α)}

/-- What the order of requests looks at before it looks at their arrival. -/
def rank (w : Waiting α) : ℕ ×ₗ ℕ := toLex (w.priority, w.timestamp)

/-- What requests are ordered by. -/
def key (w : Waiting α) : ℕ ×ₗ ℕ ×ₗ ℕ := toLex (w.priority, toLex (w.timestamp, w.arrival.toNat))

/-- A request comes before another one if it compares as greater. -/
lemma before_iff_key_lt : w.before v = true ↔ w.key < v.key := by
  simp only [before, cmp, key, decide_eq_true_eq, Ordering.then_eq_gt, Std.compare_eq_gt,
    Std.compare_eq_iff_eq, Prod.Lex.toLex_lt_toLex, UInt64.lt_iff_toNat_lt,
    eq_comm (a := v.priority), eq_comm (a := v.timestamp)]

lemma key_lt_iff : w.key < v.key ↔ w.rank < v.rank ∨ w.rank = v.rank ∧ w.arrival < v.arrival := by
  simp only [key, rank, Prod.Lex.toLex_lt_toLex, toLex_inj, Prod.mk.injEq, UInt64.lt_iff_toNat_lt]
  tauto

/-- Of two requests with the same priority and time, the one that comes first arrived first. -/
lemma arrival_lt_of_key_lt (h : w.key < v.key) (hrank : w.rank = v.rank) :
    w.arrival < v.arrival := by
  rcases key_lt_iff.1 h with hlt | ⟨-, hlt⟩
  · exact absurd hrank hlt.ne
  · exact hlt

lemma key_ne_of_arrival_ne (h : w.arrival ≠ v.arrival) : w.key ≠ v.key := by
  intro hkey
  simp only [key, toLex_inj, Prod.mk.injEq] at hkey
  exact h (UInt64.toNat_inj.1 hkey.2.2)

/-! ## Queues -/

/-- Nothing in the queue comes before anything in front of it. -/
abbrev Sorted (l : List (Waiting α)) : Prop := l.Pairwise fun a b => a.key ≤ b.key

lemma perm_insert (w : Waiting α) (l : List (Waiting α)) : (insert w l).Perm (w :: l) := by
  induction l with
  | nil => exact List.Perm.refl _
  | cons v l ih =>
    unfold insert
    split_ifs
    · exact List.Perm.refl _
    · exact (ih.cons v).trans (List.Perm.swap w v l)

lemma pairwise_insert (hl : Sorted l) : Sorted (insert w l) := by
  induction l with
  | nil => exact List.pairwise_singleton _ w
  | cons v l ih =>
    obtain ⟨hv, hl'⟩ := List.pairwise_cons.1 hl
    unfold insert
    split_ifs with hb
    · -- `w` goes to the front, and comes before `v` and so before all that `v` comes before
      have hwv : w.key ≤ v.key := (before_iff_key_lt.1 hb).le
      refine List.pairwise_cons.2 ⟨fun u hu => ?_, hl⟩
      rcases List.mem_cons.1 hu with rfl | hu
      · exact hwv
      · exact hwv.trans (hv u hu)
    · have hvw : v.key ≤ w.key := not_lt.1 fun hlt => hb (before_iff_key_lt.2 hlt)
      refine List.pairwise_cons.2 ⟨fun u hu => ?_, ih hl'⟩
      rcases (mem_insert w u l).1 hu with rfl | hu
      · exact hvw
      · exact hv u hu

/-- Requests of different arrivals do not compare as equal. -/
lemma Sorted.pairwise_lt (hl : Sorted l) (harrival : (l.map (·.arrival)).Nodup) :
    l.Pairwise fun a b => a.key < b.key := by
  have hne : l.Pairwise fun a b => a.arrival ≠ b.arrival := List.pairwise_map.1 harrival
  exact hl.imp₂ (fun a b hle hne => lt_of_le_of_ne hle (key_ne_of_arrival_ne hne)) hne

/-- A request before which all requests of some kind come is put behind them. -/
lemma filter_insert (p : Waiting α → Bool) (hl : Sorted l) (hw : p w = true)
    (hlast : ∀ v ∈ l, p v = true → v.key ≤ w.key) :
    (insert w l).filter p = l.filter p ++ [w] := by
  induction l with
  | nil => simp [insert, hw]
  | cons v l ih =>
    obtain ⟨hv, hl'⟩ := List.pairwise_cons.1 hl
    have ih' := ih hl' fun u hu hpu => hlast u (List.mem_cons_of_mem v hu) hpu
    unfold insert
    split_ifs with hb
    · -- none of the kind is left from `v` on, since `w` comes before all of that
      have hwv : w.key < v.key := before_iff_key_lt.1 hb
      have hnone : (v :: l).filter p = [] := by
        rw [List.filter_eq_nil_iff]
        intro u hu hpu
        have hlt : w.key < u.key := by
          rcases List.mem_cons.1 hu with rfl | hu
          · exact hwv
          · exact hwv.trans_le (hv u hu)
        exact absurd (hlast u hu hpu) (not_le.2 hlt)
      rw [List.filter_cons_of_pos hw, hnone, List.nil_append]
    · rw [List.filter_cons, List.filter_cons, ih']
      split_ifs <;> rfl

/-- A request of another kind does not show among the requests of a kind. -/
lemma filter_insert_of_neg (p : Waiting α → Bool) (hw : p w = false) (l : List (Waiting α)) :
    (insert w l).filter p = l.filter p := by
  induction l with
  | nil => simp [insert, hw]
  | cons v l ih =>
    unfold insert
    split_ifs
    · simp [List.filter_cons, hw]
    · rw [List.filter_cons, List.filter_cons, ih]

end Waiting

namespace Dispatcher

variable {α : Type} {d d' : Dispatcher α} {w : Waiting α} {request : α}

/-! ## What is done to a dispatcher -/

/-- A request as it would wait if it arrived next. -/
def arrival (d : Dispatcher α) (priority timestamp : ℕ) (request : α) : Waiting α :=
  { priority, timestamp, arrival := d.arrivals, request }

/-- The dispatcher with one more request that waits. -/
def receive (d : Dispatcher α) (priority timestamp : ℕ) (request : α) : Dispatcher α :=
  { d with
    waiting := Waiting.insert (d.arrival priority timestamp request) d.waiting
    arrivals := d.arrivals + 1 }

/-- The workers are not started because they run or because the dispatcher is stopped, and are
started otherwise. -/
lemma start_cases (d : Dispatcher α) :
    (d.workers ≠ 0 ∧ d.start = (.error .alreadyStarted, d)) ∨
      (d.workers = 0 ∧ d.stopped = true ∧ d.start = (.error .stopped, d)) ∨
      (d.workers = 0 ∧ d.stopped = false ∧
        d.start = (.ok (), { d with workers := d.config.workers })) := by
  unfold start
  by_cases hworkers : d.workers = 0
  · right
    rw [if_neg (not_not.2 hworkers)]
    by_cases hs : d.stopped = true
    · exact .inl ⟨hworkers, hs, if_pos hs⟩
    · exact .inr ⟨hworkers, eq_false_of_ne_true hs, if_neg hs⟩
  · exact .inl ⟨hworkers, if_pos hworkers⟩

/-- A request is refused because the dispatcher is stopped or because it is full, and let in
otherwise. -/
lemma enqueue_cases (d : Dispatcher α) (priority timestamp : ℕ) (request : α) :
    (d.stopped = true ∧ d.enqueue priority timestamp request = (.error .stopped, d)) ∨
      (d.stopped = false ∧ d.capacity ≤ d.length ∧
        d.enqueue priority timestamp request = (.error (.queueFull d.capacity), d)) ∨
      (d.stopped = false ∧ d.length < d.capacity ∧
        d.enqueue priority timestamp request = (.ok (), d.receive priority timestamp request)) := by
  unfold enqueue
  by_cases hs : d.stopped = true
  · exact .inl ⟨hs, if_pos hs⟩
  · right
    have hopen : d.stopped = false := eq_false_of_ne_true hs
    rw [if_neg hs]
    by_cases hfull : d.capacity ≤ d.length
    · exact .inl ⟨hopen, hfull, if_pos hfull⟩
    · exact .inr ⟨hopen, Nat.lt_of_not_le hfull, if_neg hfull⟩

lemma enqueue_of_room (hopen : d.stopped = false) (hroom : d.length < d.capacity)
    (priority timestamp : ℕ) (request : α) :
    d.enqueue priority timestamp request = (.ok (), d.receive priority timestamp request) := by
  rcases enqueue_cases d priority timestamp request with
    ⟨hs, -⟩ | ⟨-, hfull, -⟩ | ⟨-, -, hout⟩
  · exact absurd (hs.symm.trans hopen) nofun
  · exact absurd hfull (Nat.not_le.2 hroom)
  · exact hout

/-- The request that is taken is the one at the front. -/
lemma take?_eq_some_iff :
    d.take? = some (request, d') ↔
      d.stopped = false ∧ d.workers ≠ 0 ∧
        ∃ w rest, d.waiting = w :: rest ∧ w.request = request ∧ d' = { d with waiting := rest } := by
  unfold take?
  constructor
  · intro h
    split_ifs at h with hidle
    obtain ⟨hs, hworkers⟩ : d.stopped = false ∧ d.workers ≠ 0 := by simpa using hidle
    cases hw : d.waiting with
    | nil => simp [hw] at h
    | cons w rest =>
      simp only [hw, Option.some.injEq, Prod.mk.injEq] at h
      exact ⟨hs, hworkers, w, rest, rfl, h.1, h.2.symm⟩
  · rintro ⟨hs, hworkers, w, rest, hw, rfl, rfl⟩
    simp [hs, hworkers, hw]

/-! ## Dispatchers in order -/

/-- What waits is sorted, and there is room for it. -/
structure Ordered (d : Dispatcher α) : Prop where
  sorted : Waiting.Sorted d.waiting
  length_le : d.length ≤ d.capacity

lemma ordered_ofConfig (config : DispatcherConfig) : (ofConfig config : Dispatcher α).Ordered where
  sorted := List.Pairwise.nil
  length_le := Nat.zero_le _

lemma Ordered.receive (h : d.Ordered) (hroom : d.length < d.capacity) (priority timestamp : ℕ)
    (request : α) : (d.receive priority timestamp request).Ordered where
  sorted := Waiting.pairwise_insert h.sorted
  length_le := by
    have hlen : (d.receive priority timestamp request).length = d.length + 1 :=
      Waiting.length_insert _ d.waiting
    rw [hlen]
    exact hroom

lemma Ordered.take {rest : List (Waiting α)} (h : d.Ordered) (hw : d.waiting = w :: rest) :
    Ordered { d with waiting := rest } where
  sorted := (List.pairwise_cons.1 (hw ▸ h.sorted)).2
  length_le := by
    have hlen : d.length = rest.length + 1 := by rw [length, hw, List.length_cons]
    have hle := h.length_le
    change rest.length ≤ d.capacity
    omega

end Dispatcher

end SessionServer
