/-
# What is done for one session

Packets are offered and written, tickets are given and taken, sessions are given players and closed.
All of this is done for one session at a time.  This file says, once for each function of the
engine, what it does to that session, to the counters, to the tickets and to channels that are
closed; what becomes of packets and of sessions that are over is read off from that in the files
that follow.

What goes into the books is described by `Posts`: the numbers by which the session and the writer
count on.  `Tends` adds what becomes of a session that is over, and that a session closes together
with its channels.

Main results: what offering a packet (`tends_offer`), an attempt to write (`tends_writeOnce`),
tickets (`tends_schedule`, `tends_tryPop`, `tends_wake`) and closing (`tends_close`) do.
-/
import Mathlib.Data.UInt
import SessionServer.Proofs.Outbound.Scheduling
import SessionServer.Proofs.Outbound.Users

namespace SessionServer

/-! ## Tables -/

namespace Index

variable {κ α : Type} [DecidableEq κ] {m : Index κ α} {k : κ}

@[simp] lemma keys_modify (m : Index κ α) (k : κ) (f : α → α) : (m.modify k f).keys = m.keys := by
  unfold keys modify
  rw [List.map_map]
  refine List.map_congr_left fun entry _ => ?_
  simp only [Function.comp_apply]
  split_ifs <;> rfl

lemma modify_modify (m : Index κ α) (k : κ) (f g : α → α) :
    (m.modify k f).modify k g = m.modify k fun v => g (f v) := by
  unfold modify
  rw [List.map_map]
  refine congrArg Index.mk (List.map_congr_left fun entry _ => ?_)
  by_cases hk : entry.1 = k <;> simp [hk]

@[simp] lemma modify_self (m : Index κ α) (k : κ) : m.modify k (fun v => v) = m := by
  unfold modify
  simp

end Index

/-! ## Books -/

/-- What is done for a session, in numbers. -/
structure Dues where
  /-- Packets that are offered to it. -/
  offered : ℕ := 0
  /-- Bytes that its channels take. -/
  bytes : ℕ := 0
  /-- Packets that are written to their end. -/
  packets : ℕ := 0
deriving DecidableEq

namespace Dues

instance : Add Dues :=
  ⟨fun d d' => ⟨d.offered + d'.offered, d.bytes + d'.bytes, d.packets + d'.packets⟩⟩

@[simp] lemma offered_add (d d' : Dues) : (d + d').offered = d.offered + d'.offered := rfl
@[simp] lemma bytes_add (d d' : Dues) : (d + d').bytes = d.bytes + d'.bytes := rfl
@[simp] lemma packets_add (d d' : Dues) : (d + d').packets = d.packets + d'.packets := rfl

@[simp] lemma none_add (d : Dues) : {} + d = d := by
  obtain ⟨offered, bytes, packets⟩ := d
  show Dues.mk _ _ _ = _
  simp

end Dues

namespace Session

variable {s s' s₁ s₂ s₃ : Session} {d d' : Dues} {ref : ChannelRef}

/-- The packets that were written, were thrown away or wait. -/
def accounted (s : Session) : UInt64 :=
  s.stats.writtenPackets + s.stats.droppedPackets + UInt64.ofNat s.queue.length

/-- The second session is the first one after what was done was counted. -/
structure Enters (d : Dues) (s s' : Session) : Prop where
  accounted : s'.accounted = s.accounted + UInt64.ofNat d.offered
  bytes : s'.stats.writtenBytes = s.stats.writtenBytes + UInt64.ofNat d.bytes
  packets : s'.stats.writtenPackets = s.stats.writtenPackets + UInt64.ofNat d.packets

lemma Enters.trans (h₁ : Enters d s₁ s₂) (h₂ : Enters d' s₂ s₃) : Enters (d + d') s₁ s₃ where
  accounted := by
    rw [h₂.accounted, h₁.accounted, Dues.offered_add, UInt64.ofNat_add, UInt64.add_assoc]
  bytes := by rw [h₂.bytes, h₁.bytes, Dues.bytes_add, UInt64.ofNat_add, UInt64.add_assoc]
  packets := by rw [h₂.packets, h₁.packets, Dues.packets_add, UInt64.ofNat_add, UInt64.add_assoc]

/-- Nothing is counted. -/
lemma Enters.of_eq (hstats : s'.stats = s.stats) (hlength : s'.queue.length = s.queue.length) :
    Enters {} s s' := by
  refine ⟨?_, ?_, ?_⟩
  · simp [Session.accounted, hstats, hlength]
  · simp [hstats]
  · simp [hstats]

/-- Packets are thrown away, some that waited or some that were offered. -/
lemma Enters.of_dropped {dropped offered : ℕ} (hstats : s'.stats = (s.recordDropped dropped).stats)
    (hsum : dropped + s'.queue.length = offered + s.queue.length) :
    Enters { offered } s s' := by
  refine ⟨?_, by simp [hstats, recordDropped], by simp [hstats, recordDropped]⟩
  have hcount := congrArg UInt64.ofNat hsum
  rw [UInt64.ofNat_add, UInt64.ofNat_add] at hcount
  simp only [Session.accounted, hstats, recordDropped]
  calc s.stats.writtenPackets + (s.stats.droppedPackets + UInt64.ofNat dropped)
        + UInt64.ofNat s'.queue.length
      = s.stats.writtenPackets + s.stats.droppedPackets
        + (UInt64.ofNat dropped + UInt64.ofNat s'.queue.length) := by ac_rfl
    _ = s.stats.writtenPackets + s.stats.droppedPackets + UInt64.ofNat s.queue.length
        + UInt64.ofNat offered := by rw [hcount]; ac_rfl

/-- The first packet that waits is written to its end. -/
lemma Enters.of_written (now : ℕ) {n : ℕ}
    (hstats : s'.stats = (s.recordWrite now n).recordWrittenPacket.stats)
    (hlength : s.queue.length = s'.queue.length + 1) :
    Enters { bytes := n, packets := 1 } s s' := by
  refine ⟨?_, by simp [hstats, recordWrite, recordWrittenPacket],
    by simp [hstats, recordWrite, recordWrittenPacket]⟩
  simp only [Session.accounted, hstats, recordWrite, recordWrittenPacket, hlength,
    UInt64.ofNat_add]
  calc s.stats.writtenPackets + 1 + s.stats.droppedPackets + UInt64.ofNat s'.queue.length
      = s.stats.writtenPackets + s.stats.droppedPackets
        + (UInt64.ofNat s'.queue.length + UInt64.ofNat 1) := by
        rw [show UInt64.ofNat 1 = 1 from rfl]
        ac_rfl
    _ = _ := (UInt64.add_zero _).symm

/-- The second session is the first one at a later time: it may be over, but then it has no packets,
and once it was over nothing was done for it. -/
structure Ages (s s' : Session) : Prop where
  id_eq : s'.id = s.id
  primary_eq : s'.primary = s.primary
  secondary_eq : s'.isClosed = false → s'.secondary = s.secondary
  secondary_or : s'.secondary = s.secondary ∨ s'.secondary = none
  emptied : s.isClosed = false → s'.isClosed = true → s'.queue.packets = []
  closed : s.isClosed = true →
    s'.isClosed = true ∧ s'.queue = s.queue ∧ (s'.ticket = true → s.ticket = true)

lemma Ages.refl (s : Session) : Ages s s where
  id_eq := rfl
  primary_eq := rfl
  secondary_eq _ := rfl
  secondary_or := .inl rfl
  emptied hopen hclosed := absurd (hopen.symm.trans hclosed) Bool.false_ne_true
  closed hclosed := ⟨hclosed, rfl, fun h => h⟩

lemma Ages.trans (h₁ : Ages s₁ s₂) (h₂ : Ages s₂ s₃) : Ages s₁ s₃ where
  id_eq := h₂.id_eq.trans h₁.id_eq
  primary_eq := h₂.primary_eq.trans h₁.primary_eq
  secondary_eq hopen := by
    have hopen₂ : s₂.isClosed = false := by
      by_contra hclosed
      have hover := (h₂.closed (eq_true_of_ne_false hclosed)).1
      exact absurd (hopen.symm.trans hover) Bool.false_ne_true
    exact (h₂.secondary_eq hopen).trans (h₁.secondary_eq hopen₂)
  secondary_or := by
    rcases h₂.secondary_or with hsame | hnone
    · exact hsame ▸ h₁.secondary_or
    · exact .inr hnone
  emptied hopen hclosed := by
    cases hmid : s₂.isClosed with
    | true => rw [(h₂.closed hmid).2.1, h₁.emptied hopen hmid]
    | false => exact h₂.emptied hmid hclosed
  closed hclosed := by
    obtain ⟨hover, hqueue, hticket⟩ := h₁.closed hclosed
    obtain ⟨hover', hqueue', hticket'⟩ := h₂.closed hover
    exact ⟨hover', hqueue'.trans hqueue, hticket ∘ hticket'⟩

/-- What is done for an open session that keeps its channels and stays open. -/
lemma ages_of_open (hopen : s.isClosed = false) (hid : s'.id = s.id)
    (hprimary : s'.primary = s.primary) (hsecondary : s'.secondary = s.secondary)
    (hstate : s'.isClosed = s.isClosed) : Ages s s' ∧ s'.isClosed = s.isClosed := by
  refine ⟨⟨hid, hprimary, fun _ => hsecondary, .inl hsecondary, fun _ hclosed => ?_,
    fun hclosed => ?_⟩, hstate⟩
  · exact absurd ((hstate.trans hopen).symm.trans hclosed) Bool.false_ne_true
  · exact absurd (hopen.symm.trans hclosed) Bool.false_ne_true

/-- What is done to the packets of an open session. -/
lemma ages_of_core (hopen : s.isClosed = false)
    (hcore : s'.core = { s.core with queue := s'.queue }) :
    Ages s s' ∧ s'.isClosed = s.isClosed := by
  have hid : s'.core.id = s.core.id := by rw [hcore]
  have hprimary : s'.core.primary = s.core.primary := by rw [hcore]
  have hsecondary : s'.core.secondary = s.core.secondary := by rw [hcore]
  have hstate : s'.core.isClosed = s.core.isClosed := by rw [hcore]; rfl
  exact ages_of_open hopen hid hprimary hsecondary hstate

/-- An open session writes to the channels that it wrote to. -/
lemma Ages.binds (h : Ages s s') (hopen : s'.isClosed = false) (hb : s.Binds ref) :
    s'.Binds ref := by
  rcases hb with hb | hb
  · exact .inl (h.primary_eq.trans hb)
  · exact .inr ((h.secondary_eq hopen).trans hb)

/-- The session over, with the packets that waited counted as thrown away. -/
def ended (s : Session) : Session :=
  { s.recordDropped s.queue.length with
    state := .closed, queue := s.queue.clear, secondary := none }

lemma enters_ended (s : Session) : Enters {} s s.ended :=
  Enters.of_dropped rfl (Nat.add_comm _ _)

lemma ages_ended (hopen : s.isClosed = false) : Ages s s.ended where
  id_eq := rfl
  primary_eq := rfl
  secondary_eq hopen' := absurd hopen'.symm Bool.false_ne_true
  secondary_or := .inr rfl
  emptied _ _ := rfl
  closed hclosed := absurd (hopen.symm.trans hclosed) Bool.false_ne_true

/-- The channels of a session, each of them once. -/
def channels (s : Session) : List ChannelRef :=
  s.primary :: s.secondary.toList.filter (· ≠ s.primary)

/-- A sum over the channels of a session to which only one of them contributes. -/
lemma sum_channels (hb : s.Binds ref) {f : ChannelRef → ℕ} (hf : ∀ ref', ref' ≠ ref → f ref' = 0) :
    (s.channels.map f).sum = f ref := by
  unfold channels
  by_cases hprimary : s.primary = ref
  · have hothers : ∀ ref' ∈ s.secondary.toList.filter (· ≠ s.primary), f ref' = 0 := by
      intro ref' hmem
      have hne : ref' ≠ s.primary := of_decide_eq_true (List.mem_filter.1 hmem).2
      exact hf ref' (hprimary ▸ hne)
    rw [List.map_cons, List.sum_cons, List.map_congr_left hothers, hprimary]
    simp
  · have hsecondary : s.secondary = some ref := hb.resolve_left hprimary
    have hne : ref ≠ s.primary := fun h => hprimary h.symm
    simp [hsecondary, hne, hf s.primary hprimary]

end Session

/-! ## Closed channels and closing -/

namespace Registry

variable {r r' r₁ r₂ r₃ : Registry} {k : SessionId} {s : Session} {ref : ChannelRef}
  {reason : CloseReason}

/-- There is a session of this name, and it is not over. -/
def isOpen (r : Registry) (k : SessionId) : Bool := (r.session? k).any (!·.isClosed)

/-- The number of bytes that the channel at a place has taken. -/
def volume (r : Registry) (ref : ChannelRef) : ℕ :=
  ((r.channel? ref).map fun c => c.written.length).getD 0

/-- Channels that are closed stay closed, and nothing comes to what was written on them. -/
def Seals (r r' : Registry) : Prop :=
  ∀ ref c, r.channel? ref = some c → ∃ c', r'.channel? ref = some c' ∧
    (c.isOpen = false → c'.isOpen = false ∧ c'.written <+: c.written)

lemma Seals.refl (r : Registry) : Seals r r :=
  fun _ c hc => ⟨c, hc, fun hclosed => ⟨hclosed, List.prefix_refl _⟩⟩

lemma Seals.trans (h₁ : Seals r₁ r₂) (h₂ : Seals r₂ r₃) : Seals r₁ r₃ := by
  intro ref c₁ hc₁
  obtain ⟨c₂, hc₂, hclosed₂⟩ := h₁ ref c₁ hc₁
  obtain ⟨c₃, hc₃, hclosed₃⟩ := h₂ ref c₂ hc₂
  refine ⟨c₃, hc₃, fun hclosed => ?_⟩
  obtain ⟨hmid, hprefix⟩ := hclosed₂ hclosed
  exact ⟨(hclosed₃ hmid).1, (hclosed₃ hmid).2.trans hprefix⟩

lemma Fades.seals (h : Fades r r') : Seals r r' := by
  intro ref c hc
  obtain ⟨f, hf, heq⟩ := h ref
  exact ⟨f c, by rw [heq, hc]; rfl,
    fun hclosed => ⟨(hf c).closed hclosed, (hf c).written_eq ▸ List.prefix_refl _⟩⟩

lemma Fades.volume_eq (h : Fades r r') (ref : ChannelRef) : r'.volume ref = r.volume ref := by
  obtain ⟨f, hf, heq⟩ := h ref
  unfold volume
  rw [heq, Option.map_map]
  refine congrArg (Option.getD · 0) (congrArg (Option.map · _) (funext fun c => ?_))
  exact congrArg List.length (hf c).written_eq

lemma fades_close (r : Registry) (k : SessionId) (reason : CloseReason) :
    Fades r (r.close k reason).2 := by
  rcases close_cases r k reason with ⟨hsame, -⟩ | ⟨s, -, -, hshuts⟩
  · rw [hsame]
    exact Fades.of_eq fun _ => rfl
  · exact hshuts.fades

/-- Closing counts the packets that wait as thrown away. -/
lemma sessions_close (hk : r.session? k = some s) (hopen : s.isClosed = false)
    (reason : CloseReason) :
    (r.close k reason).2.sessions = r.sessions.modify k Session.ended := by
  simp only [close, hk, hopen, Bool.false_eq_true, if_false]
  exact sessions_dropSecondary _ s

lemma session?_of_modify {f : Session → Session} (h : r'.sessions = r.sessions.modify k f)
    (id : SessionId) :
    r'.session? id = if id = k then (r.session? id).map f else r.session? id := by
  unfold session?
  rw [h]
  exact Index.find?_modify r.sessions k id f

lemma over_iff : r.Over k ↔ ∀ s, r.session? k = some s → s.isClosed = true := by
  constructor
  · intro h s hs
    exact h s.core (core_eq_some_iff.2 ⟨s, hs, rfl⟩)
  · intro h s hs
    obtain ⟨t, ht, rfl⟩ := core_eq_some_iff.1 hs
    exact h t ht

end Registry

namespace Tickets

variable {t t' : Tickets} {id k : SessionId} {n : ℕ}

/-- Putting a session into a shard changes how often that session is in a shard, and no other. -/
lemma count_shard_modify_of_ne (hne : id ≠ k) (i n : ℕ) :
    ((Tickets.mk (t.shards.modify i (· ++ [k]))).shard n).count id = (t.shard n).count id := by
  unfold shard
  rw [Array.getD_eq_getD_getElem?, Array.getD_eq_getD_getElem?, Array.getElem?_modify]
  split_ifs
  · cases t.shards[n]? with
    | none => rfl
    | some waiting => simp [List.count_append, hne.symm]
  · rfl

lemma count_shard_put_of_ne (hne : id ≠ k) (n : ℕ) :
    ((t.put k).shard n).count id = (t.shard n).count id :=
  count_shard_modify_of_ne hne (t.shardOf k) n

/-- Taking a ticket puts no session into a shard. -/
lemma count_shard_le_of_take? {m : ℕ} (h : t.take? m = some (k, t')) (id : SessionId) (n : ℕ) :
    (t'.shard n).count id ≤ (t.shard n).count id := by
  obtain ⟨hshard, hothers, -⟩ := take?_eq_some h
  by_cases hn : n = m
  · rw [hn, hshard]
    exact (List.sublist_cons_self k _).count_le id
  · exact Nat.le_of_eq (congrArg (List.count id) (hothers n hn))

end Tickets

/-! ## What is done for one session -/

namespace Engine

open Registry (Seals Fades)

variable {e e' e₁ e₂ e₃ : Engine} {setup : Setup} {id k : SessionId} {s : Session} {d d' : Dues}
  {head p : Packet} {rest : List Packet} {ref : ChannelRef} {c : Channel} {n : ℕ}
  {f : Session → Session}

/-- What was done for the session is in the books. -/
structure Posts (k : SessionId) (d : Dues) (e e' : Engine) : Prop where
  sessions : ∃ f, e'.registry.sessions = e.registry.sessions.modify k f ∧
    ∀ s, e.registry.session? k = some s → s.Enters d (f s)
  absent : e.registry.session? k = none → d = {}
  nextId : e'.registry.nextId = e.registry.nextId
  bytes : e'.writer.bytes = e.writer.bytes + UInt64.ofNat d.bytes
  packets : e'.writer.packets = e.writer.packets + UInt64.ofNat d.packets

lemma Posts.session? (h : Posts k d e e') (id : SessionId) :
    ∃ f, e'.registry.session? id
        = if id = k then (e.registry.session? id).map f else e.registry.session? id := by
  obtain ⟨f, hf, -⟩ := h.sessions
  exact ⟨f, Registry.session?_of_modify hf id⟩

lemma Posts.session?_of_ne (h : Posts k d e e') (hne : id ≠ k) :
    e'.registry.session? id = e.registry.session? id := by
  obtain ⟨f, hf⟩ := h.session? id
  rw [hf, if_neg hne]

lemma Posts.enters (h : Posts k d e e') (hs : e.registry.session? k = some s) :
    ∃ s', e'.registry.session? k = some s' ∧ s.Enters d s' := by
  obtain ⟨f, hf, henters⟩ := h.sessions
  refine ⟨f s, ?_, henters s hs⟩
  rw [Registry.session?_of_modify hf, if_pos rfl, hs, Option.map_some]

lemma Posts.trans (h₁ : Posts k d e₁ e₂) (h₂ : Posts k d' e₂ e₃) : Posts k (d + d') e₁ e₃ where
  sessions := by
    obtain ⟨f₁, hf₁, henters₁⟩ := h₁.sessions
    obtain ⟨f₂, hf₂, henters₂⟩ := h₂.sessions
    refine ⟨fun s => f₂ (f₁ s), by rw [hf₂, hf₁, Index.modify_modify], fun s hs => ?_⟩
    refine (henters₁ s hs).trans (henters₂ (f₁ s) ?_)
    rw [Registry.session?_of_modify hf₁, if_pos rfl, hs, Option.map_some]
  absent hnone := by
    obtain ⟨f, hf⟩ := h₁.session? k
    rw [hnone, if_pos rfl, Option.map_none] at hf
    rw [h₁.absent hnone, h₂.absent hf]
    rfl
  nextId := h₂.nextId.trans h₁.nextId
  bytes := by rw [h₂.bytes, h₁.bytes, Dues.bytes_add, UInt64.ofNat_add, UInt64.add_assoc]
  packets := by rw [h₂.packets, h₁.packets, Dues.packets_add, UInt64.ofNat_add, UInt64.add_assoc]

/-- What was done for the session is in the books, it gives nothing to a session that is over, and
if the session was closed by it, so were its channels. -/
structure Tends (k : SessionId) (d : Dues) (e e' : Engine) : Prop extends Posts k d e e' where
  ages : ∀ s s', e.registry.session? k = some s → e'.registry.session? k = some s' → s.Ages s'
  tickets : ∀ id, e.registry.Over id →
    ∀ n, (e'.tickets.shard n).count id ≤ (e.tickets.shard n).count id
  seals : Seals e.registry e'.registry
  shuts : ∀ s s' ref c, e.registry.session? k = some s → e'.registry.session? k = some s' →
    s.isClosed = false → s'.isClosed = true → s.Binds ref → e.registry.channel? ref = some c →
    ∃ c', e'.registry.channel? ref = some c' ∧ c'.isOpen = false

lemma Tends.over (h : Tends k d e e') (hover : e.registry.Over id) : e'.registry.Over id := by
  rw [Registry.over_iff] at hover ⊢
  intro s' hs'
  by_cases hid : id = k
  · subst hid
    obtain ⟨f, hf⟩ := h.session? id
    obtain ⟨s, hs, -⟩ := Option.map_eq_some_iff.1 ((hf.trans (if_pos rfl)).symm.trans hs')
    exact ((h.ages s s' hs hs').closed (hover s hs)).1
  · exact hover s' ((h.session?_of_ne hid).symm.trans hs')

lemma Tends.trans (h₁ : Tends k d e₁ e₂) (h₂ : Tends k d' e₂ e₃) : Tends k (d + d') e₁ e₃ where
  toPosts := h₁.toPosts.trans h₂.toPosts
  ages s s₃ hs hs₃ := by
    obtain ⟨s₂, hs₂, -⟩ := h₁.enters hs
    exact (h₁.ages s s₂ hs hs₂).trans (h₂.ages s₂ s₃ hs₂ hs₃)
  tickets id hover n := Nat.le_trans (h₂.tickets id (h₁.over hover) n) (h₁.tickets id hover n)
  seals := h₁.seals.trans h₂.seals
  shuts s s₃ ref c hs hs₃ hopen hclosed hb hc := by
    obtain ⟨s₂, hs₂, -⟩ := h₁.enters hs
    cases hmid : s₂.isClosed with
    | false =>
      obtain ⟨c₂, hc₂, -⟩ := h₁.seals ref c hc
      have hb₂ := (h₁.ages s s₂ hs hs₂).binds hmid hb
      exact h₂.shuts s₂ s₃ ref c₂ hs₂ hs₃ hmid hclosed hb₂ hc₂
    | true =>
      obtain ⟨c₂, hc₂, hclosed₂⟩ := h₁.shuts s s₂ ref c hs hs₂ hopen hmid hb hc
      obtain ⟨c₃, hc₃, hclosed₃⟩ := h₂.seals ref c₂ hc₂
      exact ⟨c₃, hc₃, (hclosed₃ hclosed₂).1⟩

/-- What is done for a session and leaves it open or over as it was. -/
lemma tends_of_modify {f : Session → Session}
    (hsessions : e'.registry.sessions = e.registry.sessions.modify k f)
    (hnext : e'.registry.nextId = e.registry.nextId)
    (hbytes : e'.writer.bytes = e.writer.bytes + UInt64.ofNat d.bytes)
    (hpackets : e'.writer.packets = e.writer.packets + UInt64.ofNat d.packets)
    (htickets : ∀ id, e.registry.Over id →
      ∀ n, (e'.tickets.shard n).count id ≤ (e.tickets.shard n).count id)
    (hseals : Seals e.registry e'.registry) (habsent : e.registry.session? k = none → d = {})
    (hf : ∀ s, e.registry.session? k = some s →
      s.Enters d (f s) ∧ s.Ages (f s) ∧ (f s).isClosed = s.isClosed) : Tends k d e e' where
  sessions := ⟨f, hsessions, fun s hs => (hf s hs).1⟩
  absent := habsent
  nextId := hnext
  bytes := hbytes
  packets := hpackets
  ages s s' hs hs' := by
    rw [Registry.session?_of_modify hsessions, if_pos rfl, hs] at hs'
    exact Option.some.inj hs' ▸ (hf s hs).2.1
  tickets := htickets
  seals := hseals
  shuts s s' ref c hs hs' hopen hclosed := by
    rw [Registry.session?_of_modify hsessions, if_pos rfl, hs] at hs'
    obtain rfl := Option.some.inj hs'
    exact absurd (hopen.symm.trans ((hf s hs).2.2.symm.trans hclosed)) Bool.false_ne_true

/-- What changes no session, gives no ticket and counts nothing that was written. -/
lemma tends_of_eq (k : SessionId) (hsessions : e'.registry.sessions = e.registry.sessions)
    (hnext : e'.registry.nextId = e.registry.nextId)
    (hbytes : e'.writer.bytes = e.writer.bytes) (hpackets : e'.writer.packets = e.writer.packets)
    (htickets : e'.tickets = e.tickets) (hseals : Seals e.registry e'.registry) :
    Tends k {} e e' := by
  refine tends_of_modify (f := fun s => s) (by rw [Index.modify_self, hsessions]) hnext ?_ ?_
    (fun id _ n => Nat.le_of_eq (by rw [htickets])) hseals (fun _ => rfl)
    fun s _ => ⟨Session.Enters.of_eq rfl rfl, Session.Ages.refl s, rfl⟩
  · simp [hbytes]
  · simp [hpackets]

lemma Tends.refl (k : SessionId) (e : Engine) : Tends k {} e e :=
  tends_of_eq k rfl rfl rfl rfl rfl (Seals.refl e.registry)

/-! ## Tickets -/

/-- The session is given its ticket, or its ticket is taken back. -/
lemma tends_ticket {ticket : Bool}
    (hregistry : e'.registry = e.registry.modifySession k fun s => { s with ticket })
    (hwriter : e'.writer = e.writer)
    (htickets : ∀ id, e.registry.Over id →
      ∀ n, (e'.tickets.shard n).count id ≤ (e.tickets.shard n).count id)
    (hticket : ticket = true →
      ∀ s, e.registry.session? k = some s → s.isClosed = true → s.ticket = true) :
    Tends k {} e e' := by
  refine tends_of_modify (f := fun s => { s with ticket }) (by rw [hregistry]; rfl)
    (by rw [hregistry]; rfl) (by simp [hwriter]) (by simp [hwriter]) htickets
    (by rw [hregistry]; exact Seals.refl _) (fun _ => rfl) fun s hs => ?_
  refine ⟨Session.Enters.of_eq rfl rfl, ⟨rfl, rfl, fun _ => rfl, .inl rfl, fun hopen hclosed => ?_,
    fun hclosed => ⟨hclosed, rfl, fun hgiven => hticket hgiven s hs hclosed⟩⟩, rfl⟩
  exact absurd (hopen.symm.trans hclosed) Bool.false_ne_true

lemma tends_clearTicket (e : Engine) (k : SessionId) : Tends k {} e (e.clearTicket k) :=
  tends_ticket rfl rfl (fun _ _ _ => Nat.le_refl _) nofun

/-- Only a session that is open is given a ticket. -/
lemma tends_schedule (e : Engine) (k : SessionId) : Tends k {} e (e.schedule k).2 := by
  unfold schedule
  cases hs : e.registry.session? k with
  | none => exact Tends.refl k e
  | some s =>
    dsimp only
    split_ifs with hno
    · exact Tends.refl k e
    · obtain ⟨hopen, -⟩ : s.isClosed = false ∧ s.ticket = false := by simpa using hno
      refine tends_ticket rfl rfl (fun id hover n => ?_) fun _ t ht hclosed => ?_
      · have hne : id ≠ k := by
          rintro rfl
          exact absurd (hopen.symm.trans (Registry.over_iff.1 hover s hs)) Bool.false_ne_true
        exact Nat.le_of_eq (Tickets.count_shard_put_of_ne hne n)
      · obtain rfl := Option.some.inj (hs.symm.trans ht)
        exact absurd (hopen.symm.trans hclosed) Bool.false_ne_true

lemma tends_scheduleRest (e : Engine) (k : SessionId) (rest : List Packet) :
    Tends k {} e (e.scheduleRest k rest) := by
  unfold scheduleRest
  split_ifs
  · exact Tends.refl k e
  · exact tends_schedule e k

lemma tends_tryPop (h : e.tryPop n = some (k, e')) : Tends k {} e e' := by
  unfold tryPop at h
  split at h
  · exact absurd h nofun
  · rename_i first tickets htake
    obtain ⟨rfl, rfl⟩ := Prod.mk.inj (Option.some.inj h)
    exact tends_ticket rfl rfl (fun id _ n => Tickets.count_shard_le_of_take? htake id n) nofun

lemma tends_wake (e : Engine) (w : Waiter) : Tends w.session {} e (e.wake w) :=
  (tends_clearTicket e w.session).trans (tends_schedule _ w.session)

/-- A session whose write took nothing is given a ticket or waits with it, if it is open. -/
lemma tends_park (setup : Setup) (e : Engine) (k : SessionId) (ref : ChannelRef)
    (hopen : ∀ s, e.registry.session? k = some s → s.isClosed = false) :
    Tends k {} e (e.park setup k ref) := by
  unfold park
  cases setup.blocked with
  | retry => exact tends_schedule e k
  | wait =>
    dsimp only
    split_ifs
    · refine tends_ticket rfl rfl (fun _ _ _ => Nat.le_refl _) fun _ s hs hclosed => ?_
      exact absurd ((hopen s hs).symm.trans hclosed) Bool.false_ne_true
    · exact Tends.refl k e

/-! ## The life of a session -/

lemma tends_activate (e : Engine) (k : SessionId) :
    Tends k {} e { e with registry := (e.registry.activate k).2 } := by
  unfold Registry.activate
  cases hs : e.registry.session? k with
  | none => exact Tends.refl k e
  | some s =>
    dsimp only
    split_ifs with hfresh
    · have hopen : s.isClosed = false := by simp [Session.isClosed, hfresh]
      refine tends_of_modify (f := fun s => { s with state := .active }) rfl rfl
        (UInt64.add_zero _).symm (UInt64.add_zero _).symm (fun _ _ _ => Nat.le_refl _)
        (Seals.refl _) (fun _ => rfl) fun t ht => ?_
      obtain rfl := Option.some.inj (hs.symm.trans ht)
      exact ⟨.of_eq rfl rfl, Session.ages_of_open hopen rfl rfl rfl hopen.symm⟩
    · exact Tends.refl k e

lemma tends_bindPlayer (e : Engine) (k : SessionId) (player : PlayerId) :
    Tends k {} e { e with registry := (e.registry.bindPlayer k player).2 } := by
  unfold Registry.bindPlayer
  cases hs : e.registry.session? k with
  | none => exact Tends.refl k e
  | some s =>
    dsimp only
    split_ifs with hclosed
    · exact Tends.refl k e
    · have hopen : s.isClosed = false := eq_false_of_ne_true hclosed
      refine tends_of_modify (f := fun s => { s with player := some player }) rfl rfl
        (UInt64.add_zero _).symm (UInt64.add_zero _).symm (fun _ _ _ => Nat.le_refl _)
        (Seals.refl _) (fun _ => rfl) fun t ht => ?_
      obtain rfl := Option.some.inj (hs.symm.trans ht)
      exact ⟨.of_eq rfl rfl, Session.ages_of_open hopen rfl rfl rfl rfl⟩

/-- A session that closes counts the packets that wait as thrown away. -/
lemma tends_close (e : Engine) (k : SessionId) (reason : CloseReason) :
    Tends k {} e (e.close k reason) := by
  rcases Registry.close_cases e.registry k reason with ⟨hsame, -⟩ | ⟨t, ht, hopen, hshuts⟩
  · exact tends_of_eq k (congrArg (·.sessions) hsame) (congrArg (·.nextId) hsame) rfl rfl rfl
      (Registry.fades_close _ k reason).seals
  · obtain ⟨s, hs, rfl⟩ := Registry.core_eq_some_iff.1 ht
    have hopen : s.isClosed = false := hopen
    have hsessions := Registry.sessions_close hs hopen reason
    have hself : ∀ u, e.registry.session? k = some u → u = s :=
      fun u hu => Option.some.inj (hu.symm.trans hs)
    refine ⟨⟨⟨Session.ended, hsessions, fun u _ => u.enters_ended⟩,
      fun hnone => absurd (hnone.symm.trans hs) nofun, Registry.nextId_close .., ?_, ?_⟩,
      fun u u' hu hu' => ?_, fun _ _ _ => Nat.le_refl _, hshuts.fades.seals,
      fun u u' ref c hu _ _ _ hb hc => ?_⟩
    · simp [close]
    · simp [close]
    · obtain rfl := hself u hu
      rw [show (e.close k reason).registry.session? k = some u.ended by
        exact (Registry.session?_of_modify hsessions k).trans (by rw [if_pos rfl, hs]; rfl)] at hu'
      exact Option.some.inj hu' ▸ Session.ages_ended hopen
    · obtain rfl := hself u hu
      obtain ⟨c', hc', -⟩ := hshuts.fades.seals ref c hc
      exact ⟨c', hc', hshuts.closed ref c' hb hc'⟩

/-! ## Offering -/

lemma seals_enqueue (r : Registry) (k : SessionId) (p : Packet) : Seals r (r.enqueue k p).2 :=
  (Fades.of_eq (Registry.channel?_enqueue r k p)).seals

lemma isOpen_of_some {r : Registry} (hs : r.session? k = some s) : r.isOpen k = !s.isClosed := by
  rw [Registry.isOpen, hs, Option.any_some]

/-- The packet waits, or it or another one is thrown away. -/
lemma enters_push {admission : Admission} {queue : PacketQueue} {policy : OverflowPolicy}
    (hpush : s.queue.push p policy = (admission, queue)) :
    Session.Enters { offered := 1 } s
      { (s.recordDropped (if admission = .queued then 0 else 1)) with queue } := by
  refine Session.Enters.of_dropped rfl ?_
  rcases PacketQueue.push_cases hpush with
    ⟨rfl, rfl⟩ | ⟨rfl, -, -, hroom, rfl⟩ | ⟨rfl, -, rfl⟩ | ⟨rfl, rfl⟩
  · simp [PacketQueue.length, PacketQueue.append, Nat.add_comm]
  · have hlt : s.queue.evictable < s.queue.packets.length := hroom
    simp only [PacketQueue.length, List.length_append, List.length_eraseIdx, hlt, if_true,
      List.length_singleton, reduceCtorEq, if_false]
    omega
  · rfl
  · rfl

/-- What an open session makes of a packet that it has a channel for. -/
lemma sessions_offer (r : Registry) (s : Session) (p : Packet) :
    ∃ admission queue, s.queue.push p p.guarantee.overflowPolicy = (admission, queue) ∧
      (r.offer s p).2.sessions = r.sessions.modify s.id fun t =>
        { (t.recordDropped (if admission = .queued then 0 else 1)) with
          queue := if admission = .rejected then t.queue else queue } := by
  obtain ⟨admission, queue, hpush⟩ :
      ∃ admission queue, s.queue.push p p.guarantee.overflowPolicy = (admission, queue) :=
    ⟨_, _, rfl⟩
  refine ⟨admission, queue, hpush, ?_⟩
  unfold Registry.offer
  rw [hpush]
  cases admission with
  | queued => simp [Registry.modifySession, Session.recordDropped]
  | _ => rfl

/-- What an open session makes of a packet. -/
lemma sessions_enqueue {r : Registry} (hr : r.Keyed) (hs : r.session? k = some s)
    (hopen : s.isClosed = false) (p : Packet) :
    ∃ f, (r.enqueue k p).2.sessions = r.sessions.modify k f ∧ s.Enters { offered := 1 } (f s) ∧
      (f s).core = { s.core with queue := (f s).queue } := by
  have hkey : s.id = k := hr k s.core (Registry.core_eq_some_iff.2 ⟨s, hs, rfl⟩)
  unfold Registry.enqueue
  rw [hs]
  dsimp only
  rw [hopen, if_neg Bool.false_ne_true]
  split_ifs with hnone
  · exact ⟨(·.recordDropped 1), rfl, Session.Enters.of_dropped rfl rfl, rfl⟩
  · obtain ⟨admission, queue, hpush, hsessions⟩ := sessions_offer r s p
    rw [hkey] at hsessions
    refine ⟨_, hsessions, ?_, rfl⟩
    have henters := enters_push hpush
    by_cases hrejected : admission = .rejected
    · -- a packet that is rejected leaves the queue as it was
      have hsame : (s.queue.push p p.guarantee.overflowPolicy).2 = s.queue :=
        PacketQueue.push_eq_self_of_not_admitted (by rw [hpush, hrejected]; rfl)
      rw [hpush] at hsame
      obtain rfl : queue = s.queue := hsame
      simpa [hrejected] using henters
    · simpa [hrejected] using henters

/-- A packet that is offered to an open session waits, or it or another one is thrown away. -/
lemma tends_enqueue (hr : e.registry.Keyed) (k : SessionId) (p : Packet) :
    Tends k { offered := (e.registry.isOpen k).toNat } e
      { e with registry := (e.registry.enqueue k p).2 } := by
  cases hs : e.registry.session? k with
  | none =>
    have hsame : (e.registry.enqueue k p).2 = e.registry := by simp only [Registry.enqueue, hs]
    have hnone : e.registry.isOpen k = false := by simp [Registry.isOpen, hs]
    rw [hnone, hsame]
    exact Tends.refl k e
  | some s =>
    rw [isOpen_of_some hs]
    cases hopen : s.isClosed with
    | true =>
      have hsame : (e.registry.enqueue k p).2 = e.registry := by
        simp only [Registry.enqueue, hs, hopen, if_true]
      rw [hsame]
      exact Tends.refl k e
    | false =>
      obtain ⟨f, hsessions, henters, hcore⟩ := sessions_enqueue hr hs hopen p
      have hlisted := Registry.listed_enqueue e.registry k p
      refine tends_of_modify (f := f) hsessions hlisted.nextId (UInt64.add_zero _).symm
        (UInt64.add_zero _).symm (fun _ _ _ => Nat.le_refl _) (seals_enqueue e.registry k p)
        (fun hnone => absurd (hnone.symm.trans hs) nofun) fun t ht => ?_
      obtain rfl := Option.some.inj (hs.symm.trans ht)
      exact ⟨henters, Session.ages_of_core hopen hcore⟩

lemma tends_offer (hr : e.registry.Keyed) (p : Packet) (k : SessionId) :
    Tends k { offered := (e.registry.isOpen k).toNat } e (e.offer p k).2 := by
  have henqueue := tends_enqueue hr k p
  unfold offer
  generalize e.registry.enqueue k p = out at henqueue ⊢
  obtain ⟨answer, registry⟩ := out
  rcases answer with (_ | refused | _) | (_ | _ | _ | _)
  case error.queueFull => exact henqueue.trans (tends_close _ k .queueOverflow)
  case ok.queued | ok.droppedOldest => exact henqueue.trans (tends_schedule _ k)
  all_goals exact henqueue

/-! ## Writing -/

/-- The packets of an open session change, and what was written is counted. -/
lemma tends_of_core (hs : e.registry.session? k = some s) (hopen : s.isClosed = false)
    (hregistry : e'.registry = e.registry.modifySession k f) (htickets : e'.tickets = e.tickets)
    (hbytes : e'.writer.bytes = e.writer.bytes + UInt64.ofNat d.bytes)
    (hpackets : e'.writer.packets = e.writer.packets + UInt64.ofNat d.packets)
    (henters : s.Enters d (f s)) (hcore : (f s).core = { s.core with queue := (f s).queue }) :
    Tends k d e e' := by
  refine tends_of_modify (f := f) (by rw [hregistry]; rfl) (by rw [hregistry]; rfl) hbytes hpackets
    (fun _ _ n => Nat.le_of_eq (by rw [htickets])) (by rw [hregistry]; exact Seals.refl _)
    (fun hnone => absurd (hnone.symm.trans hs) nofun) fun t ht => ?_
  obtain rfl := Option.some.inj (hs.symm.trans ht)
  exact ⟨henters, Session.ages_of_core hopen hcore⟩

lemma modifySession_modifySession (r : Registry) (k : SessionId) (f g : Session → Session) :
    (r.modifySession k f).modifySession k g = r.modifySession k fun s => g (f s) := by
  simp only [Registry.modifySession, Index.modify_modify]

lemma length_of_packets (hq : s.queue.packets = head :: rest) :
    s.queue.length = s.queue.pop.length + 1 := by
  simp [PacketQueue.length, PacketQueue.pop, hq]

lemma tends_dropHead (hs : e.registry.session? k = some s) (hopen : s.isClosed = false)
    (hq : s.queue.packets = head :: rest) : Tends k {} e (e.dropHead k rest) := by
  unfold dropHead
  refine Tends.trans (d := {}) ?_ (tends_scheduleRest _ k rest)
  have hlength := length_of_packets hq
  refine tends_of_core hs hopen (modifySession_modifySession ..) rfl (UInt64.add_zero _).symm
    (UInt64.add_zero _).symm (.of_dropped rfl ?_) rfl
  show 1 + s.queue.pop.length = 0 + s.queue.length
  omega

lemma tends_finishHead (hs : e.registry.session? k = some s) (hopen : s.isClosed = false)
    (hq : s.queue.packets = head :: rest) (n : ℕ) :
    Tends k { bytes := n, packets := 1 } e (e.finishHead k head rest n).2 := by
  unfold finishHead
  extract_lets _ _ _ counted
  have hlength := length_of_packets hq
  have hcounted : Tends k { bytes := n, packets := 1 } e counted := by
    refine tends_of_core hs hopen (modifySession_modifySession ..) rfl rfl rfl ?_ rfl
    exact .of_written e.registry.clock rfl hlength
  split_ifs
  · exact hcounted.trans (tends_close counted k .lastPacket)
  · exact hcounted.trans (tends_scheduleRest counted k rest)

lemma tends_splitHead (hs : e.registry.session? k = some s) (hopen : s.isClosed = false)
    (head : Packet) (n : ℕ) : Tends k { bytes := n } e (e.splitHead k head n).2 := by
  unfold splitHead
  refine Tends.trans (d := { bytes := n }) ?_ (tends_schedule _ k)
  refine tends_of_core hs hopen rfl rfl rfl (UInt64.add_zero _).symm ⟨?_, rfl, ?_⟩ rfl
  · simp [Session.accounted, Session.recordWrite, PacketQueue.setFragment, PacketQueue.length]
  · exact (UInt64.add_zero _).symm

lemma tends_failHead (e : Engine) (k : SessionId) (f : Fault) : Tends k {} e (e.failHead k f) := by
  unfold failHead
  refine Tends.trans (d := {}) ?_ (tends_close _ k (.writeError f.message))
  exact tends_of_eq k rfl rfl rfl rfl rfl (Seals.refl _)

/-- A channel that is closed takes nothing. -/
lemma tends_wrote {result : Except Fault ℕ} {c' : Channel} {data : Bytes} (k : SessionId)
    (hc : e.registry.channel? ref = some c) (hw : c.tryWrite data = (result, c')) :
    Tends k {} e (e.wrote ref c') := by
  refine tends_of_eq k rfl rfl rfl rfl rfl fun ref' c₁ hc₁ => ?_
  by_cases href : ref' = ref
  · subst href
    obtain rfl := Option.some.inj (hc.symm.trans hc₁)
    refine ⟨c', channel?_wrote hc c', fun hclosed => ?_⟩
    cases result with
    | ok n => exact absurd (hclosed.symm.trans (Channel.isOpen_of_tryWrite_ok hw)) nofun
    | error f =>
      obtain rfl := Channel.tryWrite_error hw
      exact ⟨hclosed, List.prefix_refl _⟩
  · refine ⟨c₁, ?_, fun hclosed => ⟨hclosed, List.prefix_refl _⟩⟩
    rw [wrote, Registry.channel?_modifyChannel, if_neg href, hc₁]

/-- The number of bytes that the channels of a session take by an attempt to write for it. -/
def took (setup : Setup) (e : Engine) (k : SessionId) : ℕ :=
  ((e.registry.session? k).map fun s => (s.channels.map fun ref =>
    (e.writeOnce setup k).2.registry.volume ref - e.registry.volume ref).sum).getD 0

lemma took_eq (hs : e.registry.session? k = some s) (hb : s.Binds ref)
    (hsame : ∀ ref', ref' ≠ ref →
      (e.writeOnce setup k).2.registry.volume ref' = e.registry.volume ref')
    (hgrows : (e.writeOnce setup k).2.registry.volume ref = e.registry.volume ref + n) :
    e.took setup k = n := by
  rw [took, hs, Option.map_some, Option.getD_some, Session.sum_channels hb, hgrows,
    Nat.add_sub_cancel_left]
  intro ref' hne
  rw [hsame ref' hne, Nat.sub_self]

lemma fades_finishHead (e : Engine) (k : SessionId) (head : Packet) (rest : List Packet) (n : ℕ) :
    Fades e.registry (e.finishHead k head rest n).2.registry := by
  cases hlast : head.last with
  | false => exact Fades.of_eq (alike_finishHead e k rest n hlast).channel
  | true =>
    unfold finishHead
    simp only [hlast, if_true]
    exact Registry.fades_close _ k .lastPacket

/-- What an attempt to write leaves on the channels: what the channel of the packet has taken, and
otherwise what there was. -/
lemma fades_writeHead (setup : Setup) {result : Except Fault ℕ} {c' : Channel}
    (hw : c.tryWrite head.pending = (result, c')) :
    Fades (e.wrote ref c').registry (e.writeHead setup k head rest ref c).2.registry := by
  cases result with
  | error f =>
    rw [writeHead_of_error hw]
    split_ifs
    · exact Fades.of_eq (alike_park setup _ k ref).channel
    · exact Registry.fades_close _ k (.writeError f.message)
  | ok n =>
    rw [writeHead_of_ok hw]
    split_ifs
    · exact fades_finishHead _ k head rest n
    · exact Fades.of_eq (alike_park setup _ k ref).channel
    · exact Fades.of_eq (channel?_splitHead _ k head n)

lemma volume_wrote (hc : e.registry.channel? ref = some c) (c' : Channel) (ref' : ChannelRef) :
    (e.wrote ref c').registry.volume ref'
      = if ref' = ref then c'.written.length else e.registry.volume ref' := by
  unfold Registry.volume
  split_ifs with href
  · rw [href, channel?_wrote hc, Option.map_some, Option.getD_some]
  · rw [wrote, Registry.channel?_modifyChannel, if_neg href]

lemma tends_writeHead (setup : Setup) (hs : e.registry.session? k = some s)
    (hopen : s.isClosed = false) (hq : s.queue.packets = head :: rest)
    (hfor : e.registry.channelFor s head.transport = some ref)
    (hc : e.registry.channel? ref = some c)
    (hout : e.writeOnce setup k = e.writeHead setup k head rest ref c) :
    ∃ packets, Tends k { bytes := e.took setup k, packets } e
      (e.writeHead setup k head rest ref c).2 := by
  obtain ⟨result, c', hw⟩ : ∃ result c', c.tryWrite head.pending = (result, c') := ⟨_, _, rfl⟩
  have hb := Registry.binds_of_channelFor hfor
  have hvolume : ∀ ref', (e.writeOnce setup k).2.registry.volume ref'
      = if ref' = ref then c'.written.length else e.registry.volume ref' := by
    intro ref'
    rw [hout, (fades_writeHead setup hw).volume_eq, volume_wrote hc]
  have hbefore : e.registry.volume ref = c.written.length := by
    rw [Registry.volume, hc, Option.map_some, Option.getD_some]
  -- what the session's channels took is what came to the channel of the packet
  have htook : ∀ n, c'.written.length = c.written.length + n → e.took setup k = n := by
    intro n hn
    refine took_eq hs hb (fun ref' hne => by rw [hvolume, if_neg hne]) ?_
    rw [hvolume, if_pos rfl, hbefore, hn]
  have hwrote := tends_wrote k hc hw
  have hs' : (e.wrote ref c').registry.session? k = some s := hs
  have hpark := tends_park setup (e.wrote ref c') k ref fun t ht =>
    Option.some.inj (hs.symm.trans ht) ▸ hopen
  cases result with
  | error f =>
    obtain rfl := Channel.tryWrite_error hw
    rw [htook 0 rfl, writeHead_of_error hw]
    refine ⟨0, ?_⟩
    split_ifs
    · exact hwrote.trans hpark
    · exact hwrote.trans (tends_failHead _ k f)
  | ok n =>
    have hlength : c'.written.length = c.written.length + n := by
      obtain ⟨hn, haccepted⟩ := Channel.written_of_tryWrite_ok hw
      simp [Channel.written, haccepted, hn]
    rw [htook n hlength, writeHead_of_ok hw]
    split_ifs with hall hnone
    · exact ⟨1, by simpa using hwrote.trans (tends_finishHead hs' hopen hq n)⟩
    · exact ⟨0, by rw [hnone]; exact hwrote.trans hpark⟩
    · exact ⟨0, by simpa using hwrote.trans (tends_splitHead hs' hopen head n)⟩

/-- However an attempt to write ends, what the channels took and the packet that was written or
thrown away are counted once. -/
lemma tends_writeOnce (setup : Setup) (e : Engine) (k : SessionId) :
    ∃ packets, Tends k { bytes := e.took setup k, packets } e (e.writeOnce setup k).2 := by
  have hidle : (e.writeOnce setup k).2 = e →
      ∃ packets, Tends k { bytes := e.took setup k, packets } e (e.writeOnce setup k).2 := by
    intro hsame
    have hnone : e.took setup k = 0 := by
      unfold took
      rw [hsame]
      cases e.registry.session? k <;> simp
    rw [hnone, hsame]
    exact ⟨0, Tends.refl k e⟩
  cases hs : e.registry.session? k with
  | none => exact hidle (by simp only [writeOnce, hs])
  | some s =>
    cases hopen : s.isClosed with
    | true => exact hidle (by simp only [writeOnce, hs, hopen, if_true])
    | false =>
      have hcore : e.registry.core k = some s.core := Registry.core_eq_some_iff.2 ⟨s, hs, rfl⟩
      rcases writeOnce_cases setup hcore hopen with
        ⟨-, hout⟩ | ⟨head, rest, hq, ⟨-, hout⟩ | ⟨ref, c, hfor, hc, hout⟩⟩
      · exact hidle (by rw [hout])
      · have hfades : Fades e.registry (e.dropHead k rest).registry :=
          Fades.of_eq (alike_dropHead e k rest).channel
        have hnone : e.took setup k = 0 := by
          simp [took, hs, hout, hfades.volume_eq]
        rw [hnone, hout]
        exact ⟨0, tends_dropHead hs hopen hq⟩
      · rw [hout]
        exact tends_writeHead setup hs hopen hq hfor hc hout

end Engine

end SessionServer
