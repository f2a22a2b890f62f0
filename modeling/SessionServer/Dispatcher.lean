/-
# The dispatcher

Requests wait in one bounded queue and are taken by workers.  The request that is taken is always
the one with the lowest priority number; among those the one with the earliest timestamp, and
among those the one that came first.  The queue hands out its greatest request, so that requests
compare the other way round.

Requests may be queued before the workers are started.  Stopping the dispatcher throws away what
waits, and a stopped dispatcher never starts again.

Main results: putting a request in its place keeps all the others (`mem_insert`), and the queue is
longer by one then (`length_insert`).
-/
namespace SessionServer

/-- The settings of a dispatcher. -/
structure DispatcherConfig where
  /-- The first part of the names of the workers. -/
  name : String := "corvid-dispatch"
  workers : Nat := 4
  /-- How many requests may wait. -/
  maxQueueSize : Nat := 10000
deriving DecidableEq, Repr

namespace DispatcherConfig

/-- The settings with at least one worker and room for at least one request. -/
def validated (c : DispatcherConfig) : DispatcherConfig :=
  { c with workers := max c.workers 1, maxQueueSize := max c.maxQueueSize 1 }

/-- The name of a worker; workers are counted from one. -/
def workerName (c : DispatcherConfig) (n : Nat) : String := s!"{c.name}-{n}"

end DispatcherConfig

/-- Why the dispatcher did not do as it was told. -/
inductive DispatchError where
  /-- So many requests wait already. -/
  | queueFull (capacity : Nat)
  | stopped
  | alreadyStarted
  /-- A worker could not be started. -/
  | spawn (detail : String)
deriving DecidableEq, Repr

/-- The name of a dispatch error, without its details. -/
def DispatchError.label : DispatchError → String
  | queueFull _ => "QueueFull"
  | stopped => "Stopped"
  | alreadyStarted => "AlreadyStarted"
  | spawn _ => "Spawn"

/-- The wording of a dispatch error. -/
def DispatchError.message : DispatchError → String
  | queueFull capacity => s!"request queue full (capacity {capacity})"
  | stopped => "dispatcher stopped"
  | alreadyStarted => "dispatcher already started"
  | spawn detail => s!"failed to spawn worker: {detail}"

/-- A request that waits. -/
structure Waiting (α : Type) where
  /-- How urgent it is; lower is more urgent. -/
  priority : Nat
  timestamp : Nat
  /-- Its place in the order of arrival. -/
  arrival : UInt64
  request : α
deriving DecidableEq, Repr

namespace Waiting

variable {α : Type}

/-- How two requests compare: by priority, then by time, then by arrival.  The greatest request is
taken first, and that is to be the one with the smallest numbers. -/
def cmp (a b : Waiting α) : Ordering :=
  (compare b.priority a.priority).then
    ((compare b.timestamp a.timestamp).then (compare b.arrival a.arrival))

/-- Whether one request is taken before another. -/
def before (a b : Waiting α) : Bool := a.cmp b = .gt

/-- Puts a request at its place in a queue: in front of the first one it comes before. -/
def insert (w : Waiting α) : List (Waiting α) → List (Waiting α)
  | [] => [w]
  | v :: rest => if w.before v then w :: v :: rest else v :: insert w rest

theorem mem_insert (w v : Waiting α) (l : List (Waiting α)) : v ∈ insert w l ↔ v = w ∨ v ∈ l := by
  induction l with
  | nil => simp [insert]
  | cons u l ih =>
    by_cases hb : w.before u
    · simp [insert, hb]
    · simp only [insert, hb]
      simp only [Bool.false_eq_true, if_false, List.mem_cons, ih]
      constructor
      · rintro (h | h | h)
        · exact Or.inr (Or.inl h)
        · exact Or.inl h
        · exact Or.inr (Or.inr h)
      · rintro (h | h | h)
        · exact Or.inr (Or.inl h)
        · exact Or.inl h
        · exact Or.inr (Or.inr h)

@[simp] theorem length_insert (w : Waiting α) (l : List (Waiting α)) :
    (insert w l).length = l.length + 1 := by
  induction l with
  | nil => rfl
  | cons v l ih =>
    unfold insert
    split
    · rfl
    · simp [ih]

end Waiting

/-- A bounded queue of requests with workers that take them. -/
structure Dispatcher (α : Type) where
  config : DispatcherConfig
  /-- The requests that wait, in the order in which they will be taken. -/
  waiting : List (Waiting α) := []
  /-- How many requests were queued so far.  It starts again at zero after `2 ^ 64 - 1`. -/
  arrivals : UInt64 := 0
  /-- The number of workers that run. -/
  workers : Nat := 0
  stopped : Bool := false

namespace Dispatcher

variable {α : Type}

/-- A dispatcher with corrected settings and nothing to do. -/
def ofConfig (config : DispatcherConfig) : Dispatcher α := { config := config.validated }

/-- The number of requests that wait. -/
def length (d : Dispatcher α) : Nat := d.waiting.length

/-- How many requests may wait. -/
def capacity (d : Dispatcher α) : Nat := d.config.maxQueueSize

/-- Starts the workers. -/
def start (d : Dispatcher α) : Except DispatchError Unit × Dispatcher α :=
  if d.workers ≠ 0 then (.error .alreadyStarted, d)
  else if d.stopped then (.error .stopped, d)
  else (.ok (), { d with workers := d.config.workers })

/-- Queues a request. -/
def enqueue (d : Dispatcher α) (priority timestamp : Nat) (request : α) :
    Except DispatchError Unit × Dispatcher α :=
  if d.stopped then (.error .stopped, d)
  else if d.capacity ≤ d.length then (.error (.queueFull d.capacity), d)
  else
    (.ok (),
      { d with
        waiting := Waiting.insert ⟨priority, timestamp, d.arrivals, request⟩ d.waiting
        arrivals := d.arrivals + 1 })

/-- What a worker takes next. -/
def take? (d : Dispatcher α) : Option (α × Dispatcher α) :=
  if d.stopped || d.workers = 0 then none
  else
    match d.waiting with
    | [] => none
    | w :: rest => some (w.request, { d with waiting := rest })

/-- All that the workers take before they rest, in that order. -/
def takeAll (d : Dispatcher α) : List α × Dispatcher α :=
  if d.stopped || d.workers = 0 then ([], d)
  else (d.waiting.map (·.request), { d with waiting := [] })

/-- Stops the workers and throws away what waits. -/
def shutdown (d : Dispatcher α) : Dispatcher α :=
  { d with waiting := [], workers := 0, stopped := true }

end Dispatcher

end SessionServer
