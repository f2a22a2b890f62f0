/-
# What the application is told

The application sees sessions through requests.  It logs a player in when a session is connected,
and relies on being told so first and once, and on hearing nothing of sessions that are over.  There
are five ways for a frame to come in, and each of them looks at the session on its own; what they
have in common is that a request is made of a session that is ready for it (`Outline.Admits`).

What was told of a session is settled by how far the session has come (`Narrates`): nothing while it
is fresh, and that it is connected before anything else once it is active.  The same holds for the
counters: with each request that is made, one frame is counted, and one more number is taken.

Main result: whatever happens, the requests of a session begin with the one that connects it and go
on with messages and second channels, requests are made of active sessions only, they are numbered
in the order in which they are made, and of the frames that are counted each one was accepted by
the dispatcher or counted as dropped (`requests_orderly_and_counted`).
-/
import SessionServer.Proofs.Inbound.Occurrences

namespace SessionServer

/-- Nothing was told, or first that the session is connected, and after that anything else. -/
def InSequence (events : List RequestEvent) : Prop :=
  events = [] ∨ ∃ later, events = .connected :: later ∧
    ∀ event ∈ later, event = .message ∨ event = .secondaryAttached

/-- What some requests tell of a session. -/
def tidings (k : SessionId) (requests : List Request) : List RequestEvent :=
  (requests.filter (·.session = k)).map (·.event)

@[simp] lemma tidings_append (k : SessionId) (requests more : List Request) :
    tidings k (requests ++ more) = tidings k requests ++ tidings k more := by
  simp [tidings]

lemma tidings_singleton (k : SessionId) (q : Request) :
    tidings k [q] = if q.session = k then [q.event] else [] := by
  unfold tidings
  split_ifs with hk <;> simp [hk]

lemma InSequence.append {events : List RequestEvent} (h : InSequence events) (hne : events ≠ [])
    {event : RequestEvent} (hevent : event = .message ∨ event = .secondaryAttached) :
    InSequence (events ++ [event]) := by
  rcases h with hnone | ⟨later, rfl, hlater⟩
  · exact absurd hnone hne
  · refine .inr ⟨later ++ [event], rfl, fun other hother => ?_⟩
    rcases List.mem_append.1 hother with hmem | hmem
    · exact hlater other hmem
    · rwa [List.mem_singleton.1 hmem]

namespace Outline

variable {o o' : Outline} {k : SessionId} {requests : List Request} {q : Request}

/-- The requests have told of every session what is to be told of it at its stage. -/
structure Narrates (o : Outline) (requests : List Request) : Prop where
  orderly : ∀ k, InSequence (tidings k requests)
  silent : ∀ k, o.stage k = none ∨ o.stage k = some .fresh → tidings k requests = []
  told : ∀ k, o.stage k = some .active → tidings k requests ≠ []

/-- As long as no session becomes active, nothing has to be told. -/
lemma Narrates.keep (h : o.Narrates requests)
    (hstage : ∀ k, o'.stage k = o.stage k ∨ (o.stage k = none ∧ o'.stage k = some .fresh) ∨
      o'.stage k = some .closed) : o'.Narrates requests := by
  refine ⟨h.orderly, fun k hk => ?_, fun k hk => ?_⟩
  · rcases hstage k with hsame | ⟨hnone, -⟩ | hclosed
    · exact h.silent k (hsame ▸ hk)
    · exact h.silent k (.inl hnone)
    · rw [hclosed] at hk
      simp at hk
  · rcases hstage k with hsame | ⟨-, hfresh⟩ | hclosed
    · exact h.told k (hsame.symm.trans hk)
    · exact absurd (hfresh.symm.trans hk) nofun
    · exact absurd (hclosed.symm.trans hk) nofun

/-- A request of a session that is ready for it goes on with the story. -/
lemma Narrates.append (h : o.Narrates requests) (hq : o.Admits q.session q.event) :
    (o.activate q.session).Narrates (requests ++ [q]) := by
  have hself : tidings q.session (requests ++ [q]) = tidings q.session requests ++ [q.event] := by
    rw [tidings_append, tidings_singleton, if_pos rfl]
  have hothers : ∀ k, k ≠ q.session → tidings k (requests ++ [q]) = tidings k requests := by
    intro k hk
    rw [tidings_append, tidings_singleton, if_neg hk.symm, List.append_nil]
  have hstage : ∀ k, k ≠ q.session → (o.activate q.session).stage k = o.stage k := by
    intro k hk
    rw [stage_activate, if_neg fun heq => hk heq.1]
  refine ⟨fun k => ?_, fun k hk => ?_, fun k hk => ?_⟩
  · by_cases hkq : k = q.session
    · rw [hkq, hself]
      cases hevent : q.event with
      | connected =>
        rw [hevent] at hq
        rw [h.silent q.session (.inr hq)]
        exact .inr ⟨[], rfl, nofun⟩
      | message =>
        rw [hevent] at hq
        exact (h.orderly q.session).append (h.told q.session hq) (.inl rfl)
      | secondaryAttached =>
        rw [hevent] at hq
        exact (h.orderly q.session).append (h.told q.session hq) (.inr rfl)
    · rw [hothers k hkq]
      exact h.orderly k
  · have hkq : k ≠ q.session := by
      rintro rfl
      rw [hq.stage_activate] at hk
      simp at hk
    rw [hothers k hkq]
    exact h.silent k (hstage k hkq ▸ hk)
  · by_cases hkq : k = q.session
    · rw [hkq, hself]
      simp
    · rw [hothers k hkq]
      exact h.told k ((hstage k hkq).symm.trans hk)

end Outline

namespace Engine

variable {e : Engine} {setup : Setup} {o : Occurrence} {os : List Occurrence} {n : ℕ}
  {requests accepted : List Request}

/-- The requests that are made by an occurrence and find room at the dispatcher. -/
def placed (setup : Setup) (e : Engine) (o : Occurrence) : List Request :=
  (e.makes setup o).filter e.hasRoom

/-- The requests that were made are told in order, numbered and counted. -/
structure Reports (e : Engine) (requests accepted : List Request) : Prop where
  narrates : e.registry.outline.Narrates requests
  nextRequestId : e.nextRequestId = UInt64.ofNat (requests.length + 1)
  ids : requests.map (·.id) = (List.range requests.length).map fun i => UInt64.ofNat (i + 1)
  frames : e.reader.frames = UInt64.ofNat requests.length
  droppedFrames : e.reader.frames = UInt64.ofNat accepted.length + e.reader.droppedFrames
  arrivals : e.dispatcher.arrivals = UInt64.ofNat accepted.length

/-- A request counts as queued if there is room for it. -/
lemma arrivals_dispatcherWith (e : Engine) (q : Request) :
    (e.dispatcherWith q).arrivals
      = e.dispatcher.arrivals + UInt64.ofNat ([q].filter e.hasRoom).length := by
  unfold dispatcherWith
  rcases Dispatcher.enqueue_cases e.dispatcher q.priority.toNat q.timestamp q with
    ⟨-, hout⟩ | ⟨-, -, hout⟩ | ⟨-, -, hout⟩
  all_goals
    have hroom : e.hasRoom q
        = (e.dispatcher.enqueue q.priority.toNat q.timestamp q).1.isOk := rfl
    rw [hout] at hroom ⊢
    simp [hroom, Except.isOk, Except.toBool, Dispatcher.receive]

/-- Nothing but arrivals is counted by the reader, and nothing else is queued. -/
lemma reader_occur (setup : Setup) (e : Engine) (harrival : ∀ a, o ≠ .arrival a) :
    (e.occur setup o).nextRequestId = e.nextRequestId ∧ (e.occur setup o).reader = e.reader ∧
      (e.occur setup o).dispatcher.arrivals = e.dispatcher.arrivals := by
  cases o with
  | arrival a => exact absurd rfl (harrival a)
  | operation op =>
    have hintake := intake_operate setup e op
    exact ⟨congrArg Intake.nextRequestId hintake, congrArg Intake.reader hintake,
      congrArg (·.dispatcher.arrivals) hintake⟩
  | start =>
    refine ⟨rfl, rfl, ?_⟩
    rw [occur]
    rcases e.dispatcher.start_cases with ⟨-, hout⟩ | ⟨-, -, hout⟩ | ⟨-, -, hout⟩
    all_goals rw [hout]
  | work =>
    refine ⟨rfl, rfl, ?_⟩
    rw [occur]
    cases htake : e.dispatcher.take? with
    | none => rfl
    | some taken =>
      obtain ⟨-, -, w, rest, -, -, hrest⟩ := Dispatcher.take?_eq_some_iff.1 htake
      have harrivals : taken.2.arrivals = e.dispatcher.arrivals := by rw [hrest]
      exact harrivals
  | _ => exact ⟨rfl, rfl, rfl⟩

lemma Reports.receive (h : e.Reports requests accepted) (hr : e.registry.Keyed) (setup : Setup)
    (a : Arrival) :
    (e.receive setup a).Reports (requests ++ e.made setup a)
      (accepted ++ (e.made setup a).filter e.hasRoom) := by
  rcases made_cases hr setup a with
    ⟨hnone, hsame, calls, htally⟩ | ⟨q, hmade, hid, hadmits, hoffered, htally⟩
  · have houtline : (e.receive setup a).registry.outline = e.registry.outline.closeAll calls :=
      congrArg Tally.outline htally
    have hnext : (e.receive setup a).nextRequestId = e.nextRequestId :=
      congrArg Tally.nextRequestId htally
    have hframes : (e.receive setup a).reader.frames = e.reader.frames :=
      congrArg Tally.frames htally
    have hdropped : (e.receive setup a).reader.droppedFrames = e.reader.droppedFrames :=
      congrArg Tally.droppedFrames htally
    rw [hnone, List.filter_nil, List.append_nil, List.append_nil]
    refine ⟨?_, hnext.trans h.nextRequestId, h.ids, hframes.trans h.frames, ?_, ?_⟩
    · rw [houtline]
      refine h.narrates.keep fun k => ?_
      exact (Outline.stage_closeAll _ calls k).imp_right fun hclosed => .inr hclosed.2
    · rw [hframes, hdropped]
      exact h.droppedFrames
    · rw [hsame]
      exact h.arrivals
  · have houtline : (e.receive setup a).registry.outline = e.registry.outline.activate q.session :=
      congrArg Tally.outline htally
    have hnext : (e.receive setup a).nextRequestId = e.nextRequestId + 1 :=
      congrArg Tally.nextRequestId htally
    have hframes : (e.receive setup a).reader.frames = e.reader.frames + 1 :=
      congrArg Tally.frames htally
    have hdropped : (e.receive setup a).reader.droppedFrames
        = if e.hasRoom q then e.reader.droppedFrames else e.reader.droppedFrames + 1 :=
      congrArg Tally.droppedFrames htally
    have hid' : q.id = UInt64.ofNat (requests.length + 1) := hid.trans h.nextRequestId
    rw [hmade]
    refine ⟨?_, ?_, ?_, ?_, ?_, ?_⟩
    · rw [houtline]
      exact h.narrates.append hadmits
    · rw [hnext, h.nextRequestId, List.length_append, List.length_singleton,
        UInt64.ofNat_add (requests.length + 1)]
      rfl
    · rw [List.map_append, h.ids, List.length_append, List.length_singleton, List.range_succ,
        List.map_append, List.map_singleton, List.map_singleton, hid']
    · rw [hframes, h.frames, List.length_append, UInt64.ofNat_add]
      rfl
    · rw [hframes, hdropped, h.droppedFrames]
      cases hroom : e.hasRoom q with
      | true =>
        rw [List.filter_cons_of_pos hroom, List.length_append, UInt64.ofNat_add, if_pos rfl]
        simp only [List.filter_nil, List.length_singleton]
        rw [show UInt64.ofNat 1 = 1 from rfl]
        ac_rfl
      | false =>
        rw [List.filter_cons_of_neg (by simp [hroom]), List.filter_nil, List.append_nil,
          if_neg Bool.false_ne_true, UInt64.add_assoc]
    · rw [hoffered, arrivals_dispatcherWith, h.arrivals, List.length_append, UInt64.ofNat_add]

lemma Reports.occur (h : e.Reports requests accepted) (hn : e.Named n) (setup : Setup)
    (hroom : o.opens = true → n + 1 < UInt64.size)
    (hactivate : ∀ k, o ≠ .operation (.registry (.activate k))) :
    (e.occur setup o).Reports (requests ++ e.makes setup o) (accepted ++ e.placed setup o) := by
  by_cases harrival : ∃ a, o = .arrival a
  · obtain ⟨a, rfl⟩ := harrival
    exact h.receive hn.keyed setup a
  · have hother : ∀ a, o ≠ .arrival a := not_exists.1 harrival
    have hnone : e.makes setup o = [] := by
      cases o with
      | arrival a => exact absurd rfl (hother a)
      | _ => rfl
    obtain ⟨hnext, hreader, harrivals⟩ := reader_occur setup e hother
    rw [placed, hnone, List.filter_nil, List.append_nil, List.append_nil]
    exact ⟨h.narrates.keep (stage_occur hn setup hroom hother hactivate),
      hnext.trans h.nextRequestId, h.ids, hreader ▸ h.frames, hreader ▸ h.droppedFrames,
      harrivals.trans h.arrivals⟩

lemma reports_undergo (setup : Setup) (queueCapacity shards : ℕ) (config : DispatcherConfig)
    (hactivate : ∀ k, .operation (.registry (.activate k)) ∉ os)
    (hcount : os.countP Occurrence.opens < UInt64.size) :
    let e := Engine.start queueCapacity shards config
    (e.undergo setup os).Reports (gather (occur setup) (makes setup) e os)
      (gather (occur setup) (placed setup) e os) := by
  intro e
  induction os using List.reverseRecOn with
  | nil =>
    refine ⟨⟨fun _ => .inl rfl, fun _ _ => rfl, fun k hk => ?_⟩, rfl, rfl, rfl, rfl, rfl⟩
    exact absurd hk nofun
  | append_singleton os o ih =>
    obtain ⟨hbefore, hroom⟩ := room_of_opens hcount
    have hactivate' : ∀ k, .operation (.registry (.activate k)) ∉ os :=
      fun k hmem => hactivate k (List.mem_append_left _ hmem)
    have hlast : ∀ k, o ≠ .operation (.registry (.activate k)) :=
      fun k heq => hactivate k (by simp [heq])
    rw [undergo_concat, gather_concat, gather_concat]
    exact (ih hactivate' hbefore).occur (named_undergo setup queueCapacity shards config hbefore)
      setup hroom hlast

/-- The numbers of requests grow as long as there are any left. -/
lemma Reports.pairwise_ids (h : e.Reports requests accepted)
    (hlt : requests.length < UInt64.size) : (requests.map (·.id)).Pairwise (· < ·) := by
  rw [h.ids, List.pairwise_map]
  refine List.pairwise_lt_range.imp_of_mem fun {i j} hi hj hij => ?_
  rw [List.mem_range] at hi hj
  rw [UInt64.lt_iff_toNat_lt, UInt64.toNat_ofNat', UInt64.toNat_ofNat']
  have hsize : UInt64.size = 2 ^ 64 := rfl
  rw [Nat.mod_eq_of_lt (by omega), Nat.mod_eq_of_lt (by omega)]
  omega

/-- A session of which a request is made is open, and is active when the request is made. -/
lemma active_of_mem_makes (hr : e.registry.Keyed) (setup : Setup) (o : Occurrence) :
    ∀ q ∈ e.makes setup o, e.registry.isOpen q.session = true ∧
      (e.occur setup o).registry.outline.stage q.session = some .active := by
  intro q hq
  cases o with
  | arrival a =>
    rcases made_cases hr setup a with ⟨hnone, -⟩ | ⟨made, hmade, -, hadmits, -, htally⟩
    · rw [makes, hnone] at hq
      cases hq
    · rw [makes, hmade] at hq
      obtain rfl := List.mem_singleton.1 hq
      have houtline : (e.receive setup a).registry.outline
          = e.registry.outline.activate q.session := congrArg Tally.outline htally
      refine ⟨(Registry.isOpen_outline e.registry q.session).symm.trans hadmits.isOpen, ?_⟩
      rw [occur, houtline]
      exact hadmits.stage_activate
  | _ => cases hq

/-- **What the application is told.**  Anything happens from the start on, in any order, but only
the reader makes sessions active, and there are names for all sessions.  What the requests tell of a
session is at first that it is connected, which they tell once, and then that messages came in or
second channels were added.  Whenever a request is made, its session was not over, and is active.
Requests are numbered from one in the order in which they are made, so that numbers grow until there
are none left.  The frames that are counted are as many as the requests that were made, which are
those that the dispatcher accepted and counts as queued, and those that are counted as dropped. -/
theorem requests_orderly_and_counted (setup : Setup) (queueCapacity shards : ℕ)
    (config : DispatcherConfig) (os : List Occurrence)
    (hactivate : ∀ k, .operation (.registry (.activate k)) ∉ os)
    (hcount : os.countP Occurrence.opens < UInt64.size) :
    let e := Engine.start queueCapacity shards config
    let e' := e.undergo setup os
    let requests := gather (occur setup) (makes setup) e os
    let accepted := gather (occur setup) (placed setup) e os
    (∀ k, InSequence (tidings k requests)) ∧
      EachStep (occur setup) (fun e o => ∀ q ∈ e.makes setup o,
        e.registry.isOpen q.session = true ∧
          (e.occur setup o).registry.outline.stage q.session = some .active) e os ∧
      requests.map (·.id) = (List.range requests.length).map (fun i => UInt64.ofNat (i + 1)) ∧
      (requests.length < UInt64.size → (requests.map (·.id)).Pairwise (· < ·)) ∧
      e'.reader.frames = UInt64.ofNat requests.length ∧
      e'.reader.frames = UInt64.ofNat accepted.length + e'.reader.droppedFrames ∧
      e'.dispatcher.arrivals = UInt64.ofNat accepted.length := by
  intro e e' requests accepted
  have h : e'.Reports requests accepted :=
    reports_undergo setup queueCapacity shards config hactivate hcount
  refine ⟨h.narrates.orderly, eachStep_of_forall fun before o hbefore => ?_, h.ids, h.pairwise_ids,
    h.frames, h.droppedFrames, h.arrivals⟩
  have hfirst : before.countP Occurrence.opens < UInt64.size :=
    Nat.lt_of_le_of_lt (List.Sublist.countP_le
      ((List.prefix_append before [o]).trans hbefore).sublist) hcount
  exact active_of_mem_makes (named_undergo setup queueCapacity shards config hfirst).keyed setup o

/-- A frame arrives on a stream connection, and a token and another frame from an endpoint, for
which the dispatcher has no room any more.  Then a bad datagram is dropped, the session is closed,
and one more frame on the connection makes no request. -/
theorem requests_of_connection_and_endpoint :
    let setup : Setup :=
      { codec := .plain, resolve := fun token => token.head?.map fun b => ⟨b.toUInt64⟩ }
    let header : Header := { counting := true, dataType := .zero }
    let os : List Occurrence := [.channel (.stream { id := ⟨50⟩ }),
      .operation (.registry (.create ⟨0⟩)), .arrival (.bytes ⟨1⟩ 4),
      .arrival (.body ⟨1⟩ header [5]), .operation (.registry (.bindPlayer ⟨1⟩ ⟨7⟩)),
      .arrival (.datagram ⟨9⟩ [17, 0, 1, 7]), .arrival (.datagram ⟨9⟩ [17, 0, 1, 6]),
      .arrival (.datagram ⟨9⟩ [0]), .operation (.registry (.close ⟨1⟩ .idle)),
      .arrival (.body ⟨1⟩ header [5])]
    let config : DispatcherConfig := { maxQueueSize := 2 }
    let e := Engine.start 4 1 config
    let requests := gather (occur setup) (makes setup) e os
    let accepted := gather (occur setup) (placed setup) e os
    tidings ⟨1⟩ requests = [.connected, .secondaryAttached, .message] ∧
      requests.length = 3 ∧ accepted.length = 2 ∧
      InSequence (tidings ⟨1⟩ requests) ∧ (requests.map (·.id)).Pairwise (· < ·) ∧
      (e.undergo setup os).reader.frames
        = UInt64.ofNat accepted.length + (e.undergo setup os).reader.droppedFrames := by
  intro setup header os config
  obtain ⟨horderly, -, -, hids, -, hframes, -⟩ :=
    requests_orderly_and_counted setup 4 1 config os (by simp [os]) (by decide)
  have hmade : (gather (occur setup) (makes setup) (Engine.start 4 1 config) os).length = 3 := by
    decide +kernel
  exact ⟨by decide +kernel, hmade, by decide +kernel, horderly ⟨1⟩,
    hids (hmade.trans_lt (by decide)), hframes⟩

end Engine

end SessionServer
