/-
# Packets and bytes are accounted for

A packet leaves a session when it is written to its end, when it is thrown out for another one, when
the session has no channel for it, and when the session closes for whatever reason.  Each of these
is counted somewhere else.  This file shows that the counters add up: of the packets that were
offered to a session while it was open, each was written, was dropped or waits, the bytes that were
counted are those that its channels took, and the writer counts what all sessions count together.

Everything that is done for a session enters the books of that session and those of the writer by
the same numbers (`Posts`), so a sum over all sessions changes by what is entered for one of them.

Main results: books that are right stay right whatever is done (`Balanced.operate`), and packets
and bytes are accounted for in every run (`packets_and_bytes_accounted_for`).
-/
import SessionServer.Proofs.Outbound.Operations

namespace SessionServer

/-! ## Sums over tables -/

namespace Index

variable {κ α : Type} [DecidableEq κ] {m : Index κ α} {k : κ} {v : α}

/-- The sum of a counter over all values. -/
def total (m : Index κ α) (count : α → UInt64) : UInt64 := (m.values.map count).sum

lemma find?_eq_none_iff : m.find? k = none ↔ k ∉ m.keys := by
  unfold find? keys
  rw [List.lookup_eq_none_iff]
  constructor
  · intro h hk
    obtain ⟨entry, hentry, rfl⟩ := List.mem_map.1 hk
    exact absurd (h entry hentry) (by simp)
  · intro h entry hentry
    rw [bne_iff_ne]
    rintro rfl
    exact h (List.mem_map_of_mem hentry)

lemma fst_ne_of_find?_eq_none (hk : m.find? k = none) : ∀ entry ∈ m.entries, entry.1 ≠ k := by
  rintro entry hentry rfl
  exact find?_eq_none_iff.1 hk (List.mem_map_of_mem hentry)

lemma entries_insert (hk : m.find? k = none) (v : α) :
    (m.insert k v).entries = m.entries ++ [(k, v)] := by
  have hkept : m.entries.filter (fun entry => entry.1 ≠ k) = m.entries :=
    List.filter_eq_self.2 fun entry hentry =>
      decide_eq_true (fst_ne_of_find?_eq_none hk entry hentry)
  show m.entries.filter _ ++ [(k, v)] = _
  rw [hkept]

lemma nodup_keys_insert (hnodup : m.keys.Nodup) (hk : m.find? k = none) (v : α) :
    (m.insert k v).keys.Nodup := by
  rw [keys, entries_insert hk, List.map_append]
  refine List.nodup_append.2 ⟨hnodup, List.nodup_singleton k, ?_⟩
  rintro a ha b hb rfl
  obtain rfl := List.mem_singleton.1 hb
  exact find?_eq_none_iff.1 hk ha

lemma total_insert (hk : m.find? k = none) (v : α) (count : α → UInt64) :
    (m.insert k v).total count = m.total count + count v := by
  rw [total, values, entries_insert hk, List.map_append, List.map_append, List.sum_append]
  simp [total, values]

/-- A change for one key changes no entry that has another one. -/
lemma map_modify_of_ne {part : List (κ × α)} (hpart : ∀ entry ∈ part, entry.1 ≠ k) (f : α → α) :
    part.map (fun entry => if entry.1 = k then (entry.1, f entry.2) else entry) = part := by
  rw [List.map_congr_left fun entry hentry => if_neg (hpart entry hentry), List.map_id']

lemma modify_of_absent (hk : m.find? k = none) (f : α → α) : m.modify k f = m :=
  congrArg Index.mk (map_modify_of_ne (fst_ne_of_find?_eq_none hk) f)

/-- A sum over all values changes by what is added for one of them. -/
lemma total_modify (hnodup : m.keys.Nodup) (hk : m.find? k = some v) {f : α → α}
    {count : α → UInt64} {n : UInt64} (hcount : count (f v) = count v + n) :
    (m.modify k f).total count = m.total count + n := by
  obtain ⟨before, after, hsplit, hbefore⟩ := List.lookup_eq_some_iff.1 hk
  have hnodup : ((before ++ (k, v) :: after).map (·.1)).Nodup := hsplit ▸ hnodup
  rw [List.map_append, List.map_cons, List.nodup_append, List.nodup_cons] at hnodup
  have hafter : ∀ entry ∈ after, entry.1 ≠ k := by
    rintro entry hentry rfl
    exact hnodup.2.1.1 (List.mem_map.2 ⟨entry, hentry, rfl⟩)
  have hmodified : (m.modify k f).entries = before ++ (k, f v) :: after := by
    show m.entries.map _ = _
    rw [hsplit, List.map_append, List.map_cons, if_pos rfl, map_modify_of_ne hafter,
      map_modify_of_ne fun entry hentry => (bne_iff_ne.1 (hbefore entry hentry)).symm]
  simp only [total, values, hmodified, hsplit, List.map_append, List.map_cons, List.sum_append,
    List.sum_cons, hcount]
  ac_rfl

end Index

namespace Engine

variable {e e' : Engine} {setup : Setup} {k : SessionId} {s' : Session} {d : Dues}
  {dues : List (SessionId × Dues)} {op : Operation} {ops : List Operation} {n : ℕ}
  {given taken : SessionId → ℕ}

/-! ## What went to a session in a run -/

/-- How many packets are offered to a session while it is open. -/
def offered (setup : Setup) (e : Engine) (k : SessionId) (ops : List Operation) : ℕ :=
  (gather (operate setup) (fun e op => [e.offers setup k op]) e ops).sum

/-- How many bytes the channels of a session take by attempts to write for it. -/
def accepted (setup : Setup) (e : Engine) (k : SessionId) (ops : List Operation) : ℕ :=
  (gather (operate setup) (fun e op => [e.accepts setup k op]) e ops).sum

lemma offered_cons (setup : Setup) (e : Engine) (k : SessionId) (op : Operation)
    (ops : List Operation) :
    e.offered setup k (op :: ops)
      = e.offers setup k op + (e.operate setup op).offered setup k ops :=
  List.sum_cons

lemma accepted_cons (setup : Setup) (e : Engine) (k : SessionId) (op : Operation)
    (ops : List Operation) :
    e.accepted setup k (op :: ops)
      = e.accepts setup k op + (e.operate setup op).accepted setup k ops :=
  List.sum_cons

/-! ## The books -/

/-- The books are right, when so much was offered to each session and taken by its channels. -/
structure Balanced (e : Engine) (offered accepted : SessionId → ℕ) : Prop where
  nodup : e.registry.sessions.keys.Nodup
  entered : ∀ k s, e.registry.session? k = some s →
    s.accounted = UInt64.ofNat (offered k) ∧ s.stats.writtenBytes = UInt64.ofNat (accepted k)
  absent : ∀ k, e.registry.session? k = none → offered k = 0 ∧ accepted k = 0
  bytes : e.writer.bytes = e.registry.sessions.total (·.stats.writtenBytes)
  packets : e.writer.packets = e.registry.sessions.total (·.stats.writtenPackets)

lemma Posts.exists_enters (h : Posts k d e e') (hs' : e'.registry.session? k = some s') :
    ∃ s, e.registry.session? k = some s ∧ s.Enters d s' := by
  obtain ⟨f, hsessions, henters⟩ := h.sessions
  rw [Registry.session?_of_modify hsessions, if_pos rfl] at hs'
  obtain ⟨s, hs, rfl⟩ := Option.map_eq_some_iff.1 hs'
  exact ⟨s, hs, henters s hs⟩

/-- A sum over all sessions changes by what is entered for one of them. -/
lemma Posts.total (h : Posts k d e e') (hnodup : e.registry.sessions.keys.Nodup)
    {count : Session → UInt64} {added : Dues → ℕ} (hnone : added {} = 0)
    (hcount : ∀ s s', s.Enters d s' → count s' = count s + UInt64.ofNat (added d)) :
    e'.registry.sessions.total count
      = e.registry.sessions.total count + UInt64.ofNat (added d) := by
  obtain ⟨f, hsessions, henters⟩ := h.sessions
  rw [hsessions]
  cases hs : e.registry.session? k with
  | none =>
    rw [Index.modify_of_absent hs, h.absent hs, hnone]
    exact (UInt64.add_zero _).symm
  | some s => exact Index.total_modify hnodup hs (hcount s (f s) (henters s hs))

namespace Balanced

/-- What is done for a session enters its books and those of the writer. -/
lemma posts (h : e.Balanced given taken) (hposts : Posts k d e e') :
    e'.Balanced (fun id => given id + if k = id then d.offered else 0)
      (fun id => taken id + if k = id then d.bytes else 0) := by
  have hother : ∀ id, k ≠ id → e'.registry.session? id = e.registry.session? id :=
    fun id hne => hposts.session?_of_ne (Ne.symm hne)
  refine ⟨?_, fun id s' hs' => ?_, fun id hnone => ?_, ?_, ?_⟩
  · obtain ⟨f, hsessions, -⟩ := hposts.sessions
    rw [hsessions, Index.keys_modify]
    exact h.nodup
  · split_ifs with hid
    · subst hid
      obtain ⟨s, hs, hpost⟩ := hposts.exists_enters hs'
      obtain ⟨haccounted, hwritten⟩ := h.entered k s hs
      rw [hpost.accounted, hpost.bytes, haccounted, hwritten, UInt64.ofNat_add, UInt64.ofNat_add]
      exact ⟨rfl, rfl⟩
    · exact h.entered id s' ((hother id hid).symm.trans hs')
  · split_ifs with hid
    · subst hid
      obtain ⟨f, hf⟩ := hposts.session? k
      rw [hf, if_pos rfl, Option.map_eq_none_iff] at hnone
      rw [hposts.absent hnone]
      exact h.absent k hnone
    · exact h.absent id ((hother id hid).symm.trans hnone)
  · rw [hposts.bytes, h.bytes]
    exact (hposts.total h.nodup rfl fun _ _ hpost => hpost.bytes).symm
  · rw [hposts.packets, h.packets]
    exact (hposts.total h.nodup rfl fun _ _ hpost => hpost.packets).symm

lemma chain (h : e.Balanced given taken) (hchain : Chain dues e e') :
    e'.Balanced (fun id => given id + due Dues.offered id dues)
      (fun id => taken id + due Dues.bytes id dues) := by
  induction hchain generalizing given taken with
  | nil => exact h
  | cons htends _ ih =>
    have hrest := ih (h.posts htends.toPosts)
    simpa only [due_cons, Nat.add_assoc] using hrest

/-- What does nothing for any session. -/
lemma posts_none (h : e.Balanced given taken) (hposts : Posts k {} e e') :
    e'.Balanced given taken := by
  have hafter := h.posts hposts
  simpa only [ite_self, Nat.add_zero] using hafter

/-- A session that is opened under a new name has blank books. -/
lemma create (h : e.Balanced given taken)
    (hfresh : e.registry.session? ⟨e.registry.nextId⟩ = none) (primary : ChannelRef) :
    Balanced { e with registry := (e.registry.create primary).2 } given taken := by
  obtain ⟨hgiven, htaken⟩ := h.absent _ hfresh
  have hsession : ∀ id, (e.registry.create primary).2.session? id = _ :=
    fun id => Index.find?_insert e.registry.sessions ⟨e.registry.nextId⟩ id _
  refine ⟨Index.nodup_keys_insert h.nodup hfresh _, fun id s hs => ?_, fun id hnone => ?_, ?_, ?_⟩
  · rw [hsession] at hs
    split_ifs at hs with hid
    · obtain rfl := Option.some.inj hs
      rw [hid, hgiven, htaken]
      exact ⟨rfl, rfl⟩
    · exact h.entered id s hs
  · rw [hsession] at hnone
    split_ifs at hnone
    exact h.absent id hnone
  · rw [h.bytes]
    exact ((Index.total_insert hfresh _ _).trans (UInt64.add_zero _)).symm
  · rw [h.packets]
    exact ((Index.total_insert hfresh _ _).trans (UInt64.add_zero _)).symm

end Balanced

lemma posts_of_sessions_eq (hsessions : e'.registry.sessions = e.registry.sessions)
    (hnext : e'.registry.nextId = e.registry.nextId) (hwriter : e'.writer = e.writer) :
    Posts k {} e e' where
  sessions := ⟨fun s => s, by rw [Index.modify_self, hsessions], fun _ _ => .of_eq rfl rfl⟩
  absent _ := rfl
  nextId := hnext
  bytes := by rw [hwriter]; exact (UInt64.add_zero _).symm
  packets := by rw [hwriter]; exact (UInt64.add_zero _).symm

/-- Giving a channel to a session counts nothing. -/
lemma posts_attach (hr : e.registry.Keyed) (resolve : Resolver) (ref : ChannelRef) (token : Bytes) :
    ∃ k, Posts k {} e { e with registry := (e.registry.attach resolve ref token).2 } := by
  have hnext : (e.registry.attach resolve ref token).2.nextId = e.registry.nextId :=
    (Registry.quiet_act hr resolve (d := .attach ref token) nofun nofun).2.1
  rcases sessions_attach hr resolve ref token with hsame | ⟨k, s, -, -, hsessions⟩
  · exact ⟨⟨0⟩, posts_of_sessions_eq hsame hnext rfl⟩
  · refine ⟨k, ⟨_, hsessions, fun _ _ => .of_eq rfl rfl⟩, fun _ => rfl, hnext, ?_, ?_⟩
    · exact (UInt64.add_zero _).symm
    · exact (UInt64.add_zero _).symm

/-- **Books that are right stay right.**  Whatever is done next, as long as there are names left. -/
lemma Balanced.operate (h : e.Balanced given taken) (hn : e.Named n) (setup : Setup)
    (op : Operation) (hroom : op.opens = true → n + 1 < UInt64.size) :
    (e.operate setup op).Balanced (fun k => given k + e.offers setup k op)
      (fun k => taken k + e.accepts setup k op) := by
  rcases operate_cases hn.keyed setup op with
    ⟨dues, hchain, hoffers, haccepts⟩ | ⟨primary, rfl⟩ | ⟨ref, token, rfl⟩ | ⟨ref, change, rfl⟩
  · simp only [hoffers, haccepts]
    exact h.chain hchain
  · exact h.create (hn.fresh (hroom rfl)) primary
  · obtain ⟨k, hposts⟩ := posts_attach hn.keyed setup.resolve ref token
    exact h.posts_none hposts
  · exact h.posts_none (posts_of_sessions_eq (k := ⟨0⟩) rfl rfl rfl)

lemma Balanced.proceed (h : e.Balanced given taken) (hn : e.Named n) (setup : Setup)
    (hcount : n + ops.countP Operation.opens < UInt64.size) :
    (e.proceed setup ops).Balanced (fun k => given k + e.offered setup k ops)
      (fun k => taken k + e.accepted setup k ops) := by
  induction ops generalizing e n given taken with
  | nil => exact h
  | cons op ops ih =>
    obtain ⟨hroom, hrest⟩ := room_of_countP hcount
    have hnext := ih (h.operate hn setup op hroom) (hn.operate setup op hroom) hrest
    simp only [offered_cons, accepted_cons, ← Nat.add_assoc]
    exact hnext

/-- Before anything is done the books are blank. -/
lemma balanced_ofChannels {queueCapacity : ℕ} {channels : Array Channel}
    (hstart : e.registry = .ofChannels queueCapacity channels) (hbytes : e.writer.bytes = 0)
    (hpackets : e.writer.packets = 0) : e.Balanced (fun _ => 0) (fun _ => 0) where
  nodup := by rw [hstart]; exact List.nodup_nil
  entered := by rw [hstart]; exact nofun
  absent _ _ := ⟨rfl, rfl⟩
  bytes := by rw [hstart]; exact hbytes
  packets := by rw [hstart]; exact hpackets

/-- **Packets and bytes are accounted for.**  Sessions are opened on any channels, with queues of
any capacity, and whatever is done after that, with packets of any guarantee and channels that take
as little as they like or fail: for every session that there ever was, the packets that were offered
to it while it was open are those that were written, those that were dropped and those that wait,
and the bytes that it counts are those that its channels took.  The writer counts as many bytes and
packets as all sessions together.  Counters start again at zero after `2 ^ 64 - 1`. -/
theorem packets_and_bytes_accounted_for (setup : Setup) (e : Engine) (queueCapacity : ℕ)
    (channels : Array Channel) (ops : List Operation)
    (hstart : e.registry = .ofChannels queueCapacity channels) (hbytes : e.writer.bytes = 0)
    (hpackets : e.writer.packets = 0) (hcount : ops.countP Operation.opens < UInt64.size) :
    let e' := e.proceed setup ops
    (∀ k s, e'.registry.session? k = some s →
      UInt64.ofNat (e.offered setup k ops)
          = s.stats.writtenPackets + s.stats.droppedPackets + UInt64.ofNat s.queue.length ∧
        s.stats.writtenBytes = UInt64.ofNat (e.accepted setup k ops)) ∧
      e'.writer.bytes = (e'.registry.sessions.values.map (·.stats.writtenBytes)).sum ∧
      e'.writer.packets = (e'.registry.sessions.values.map (·.stats.writtenPackets)).sum := by
  intro e'
  have hbalanced : e'.Balanced (e.offered setup · ops) (e.accepted setup · ops) := by
    have hroom : 0 + ops.countP Operation.opens < UInt64.size := by rwa [Nat.zero_add]
    have hstarted := balanced_ofChannels hstart hbytes hpackets
    have hend := hstarted.proceed (named_ofChannels hstart) setup hroom
    simpa only [Nat.zero_add] using hend
  refine ⟨fun k s hs => ?_, hbalanced.bytes, hbalanced.packets⟩
  obtain ⟨haccounted, hwritten⟩ := hbalanced.entered k s hs
  exact ⟨haccounted.symm, hwritten⟩

/-- Six packets are offered to one session, which has no channel for one of them and throws another
one out, and whose channel takes four bytes at a time and nothing for a while.  Three are offered to
another one, which is closed for the third of them with the first one begun. -/
theorem accounts_of_open_and_of_overflown_session :
    let channel (id : UInt64) (cap : Nat) : Channel :=
      .memory { id := ⟨id⟩, transport := .stream, cap := some cap }
    let packet (k : UInt64) (data : Bytes) (transport : Transport) (guarantee : Guarantee) :
        Packet :=
      { data, transport, guarantee, recipients := [⟨k⟩] }
    let block : Channel → Channel
      | .memory c => .memory { c with blocked := !c.blocked }
      | c => c
    let setup : Setup := { codec := .plain }
    let channels : Array Channel := #[channel 1 4, channel 2 3]
    let e : Engine := { start 2 1 {} with registry := .ofChannels 2 channels }
    let ops : List Operation := [.registry (.create ⟨0⟩), .registry (.create ⟨1⟩),
      .submit (packet 1 [1, 2, 3] .stream .reliable), .submit (packet 1 [4] .stream .unreliable),
      .submit (packet 1 [9] .textSocket .reliable), .write ⟨1⟩,
      .submit (packet 1 [5] .stream .unreliable), .write ⟨1⟩, .turn ⟨0⟩ block, .write ⟨1⟩,
      .turn ⟨0⟩ block, .write ⟨1⟩, .submit (packet 1 [6] .stream .critical),
      .submit (packet 1 [7] .stream .reliable), .submit (packet 2 [6] .stream .reliable),
      .write ⟨2⟩, .submit (packet 2 [7] .stream .reliable),
      .submit (packet 2 [8] .stream .reliable), .submit (packet 2 [9] .stream .reliable)]
    let e' := e.proceed setup ops
    ∃ s t, e'.registry.session? ⟨1⟩ = some s ∧ e'.registry.session? ⟨2⟩ = some t ∧
      s.stats = { writtenBytes := 10, writtenPackets := 2, droppedPackets := 2 } ∧
      s.queue.length = 2 ∧ UInt64.ofNat (e.offered setup ⟨1⟩ ops) = 6 ∧
      t.stats = { writtenBytes := 3, droppedPackets := 3 } ∧
      t.queue.length = 0 ∧ UInt64.ofNat (e.offered setup ⟨2⟩ ops) = 3 ∧
      e'.writer.bytes = 13 ∧ e'.writer.packets = 2 := by
  intro channel packet block setup channels e ops e'
  obtain ⟨hbooks, hbytes, hpackets⟩ :=
    packets_and_bytes_accounted_for setup e 2 channels ops rfl rfl rfl (by decide)
  have hfirst : (e'.registry.session? ⟨1⟩).map (fun s => (s.stats, s.queue.length))
      = some ({ writtenBytes := 10, writtenPackets := 2, droppedPackets := 2 }, 2) := by
    decide +kernel
  have hsecond : (e'.registry.session? ⟨2⟩).map (fun s => (s.stats, s.queue.length))
      = some ({ writtenBytes := 3, droppedPackets := 3 }, 0) := by
    decide +kernel
  obtain ⟨s, hs, hs'⟩ := Option.map_eq_some_iff.1 hfirst
  obtain ⟨t, ht, ht'⟩ := Option.map_eq_some_iff.1 hsecond
  obtain ⟨hsstats, hslength⟩ := Prod.mk.inj hs'
  obtain ⟨htstats, htlength⟩ := Prod.mk.inj ht'
  refine ⟨s, t, hs, ht, hsstats, hslength, ?_, htstats, htlength, ?_, ?_, ?_⟩
  · rw [(hbooks ⟨1⟩ s hs).1, hsstats, hslength]
    rfl
  · rw [(hbooks ⟨2⟩ t ht).1, htstats, htlength]
    rfl
  · rw [hbytes]
    decide +kernel
  · rw [hpackets]
    decide +kernel

end Engine

end SessionServer
