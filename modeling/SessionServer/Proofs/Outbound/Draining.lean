/-
# A queue runs empty

Whoever goes on writing for a session, while no packets are queued for it, comes to an end.  It is
not obvious what becomes less with each attempt.  A packet may be written at once, or byte by byte;
it may be thrown away, since there is no channel for it; and it may be a packet without any bytes,
of which nothing is written when it is written.  If the packet was the last one of its session, all
others go with it.

The packets that wait become fewer, or there are as many as before and less is left of the first
one (`Advance`).  That is a step down in the lexicographic order of two numbers, and a step down in
their sum over all packets, which bounds the number of attempts.

All of this is about channels that oblige: they take at least one byte of whatever they are offered,
and do not refuse an empty write, of which there is nothing to take.  In between the attempts the
channels may change as they like, and so may anything else, as long as the packets of the session
are left alone (`Rests`).

Main result: a session is over or its queue is empty after as many attempts as there are packets and
bytes at first, and with each attempt there are fewer packets or fewer bytes of the first one
(`drained_in_time`).
-/
import Mathlib.Data.Prod.Lex
import SessionServer.Proofs.Outbound.Operations

namespace SessionServer

/-! ## Channels that oblige -/

namespace Channel

variable {c : Channel} {limit : ℕ}

/-- Whatever the channel is offered, if that is not too long, it does not refuse, and takes at least
one byte of it unless it is empty. -/
def Obliges (c : Channel) (limit : ℕ) : Prop :=
  ∀ data : Bytes, data.length ≤ limit → ∃ n, (c.tryWrite data).1 = .ok n ∧ (data ≠ [] → 0 < n)

/-- A channel that takes a single byte takes nothing, too, and does not complain. -/
lemma tryWrite_nil_of_single {n : ℕ} {b : UInt8} (h : (c.tryWrite [b]).1 = .ok n) :
    (c.tryWrite []).1 = .ok 0 := by
  cases c with
  | memory m =>
    simp only [tryWrite, MemoryChannel.tryWrite] at h ⊢
    split_ifs at h ⊢
    · cases hf : m.failing with
      | some kind => simp [hf] at h
      | none => simp [MemoryChannel.room]; split <;> rfl
  | stream m =>
    simp only [tryWrite, StreamChannel.tryWrite] at h ⊢
    split_ifs at h ⊢
    · rfl
  | datagram m =>
    -- nothing is not too long
    have hshort : ¬ DatagramChannel.maxLength < ([] : Bytes).length := Nat.not_lt_zero _
    have hfits : ¬ DatagramChannel.maxLength < DatagramChannel.overhead + ([] : Bytes).length := by
      decide
    simp only [tryWrite, DatagramChannel.tryWrite, if_neg hshort, if_neg hfits] at h ⊢
    split_ifs at h ⊢
    all_goals cases hl : m.link with
      | down => simp [hl] at h
      | up => simp
  | text m =>
    simp only [tryWrite, TextChannel.tryWrite] at h ⊢
    split_ifs at h ⊢
    · rfl

/-- No channel that takes at least one byte of whatever is not empty refuses an empty write. -/
lemma obliges_of_takes (h : ∀ data : Bytes, data ≠ [] → data.length ≤ max limit 1 →
    ∃ n, 0 < n ∧ (c.tryWrite data).1 = .ok n) : c.Obliges limit := by
  intro data hlimit
  by_cases hnil : data = []
  · obtain ⟨n, -, hn⟩ := h [0] (List.cons_ne_nil _ _) (Nat.le_max_right _ _)
    subst hnil
    exact ⟨0, tryWrite_nil_of_single hn, fun hne => absurd rfl hne⟩
  · obtain ⟨n, hpos, hn⟩ := h data hnil (Nat.le_trans hlimit (Nat.le_max_left _ _))
    exact ⟨n, hn, fun _ => hpos⟩

lemma obliges_memory {m : MemoryChannel} (hopen : m.isOpen = true) (hblocked : m.blocked = false)
    (hfailing : m.failing = none) (hcap : m.cap ≠ some 0) : (memory m).Obliges limit := by
  refine obliges_of_takes fun data hdata _ => ⟨m.room data.length, ?_, by
    simp [tryWrite, MemoryChannel.tryWrite, hopen, hblocked, hfailing]⟩
  have hlength := List.length_pos_iff.2 hdata
  cases hroom : m.cap with
  | none => simpa [MemoryChannel.room, hroom] using hlength
  | some cap =>
    have hpos : 0 < cap := Nat.pos_of_ne_zero fun hzero => hcap (by rw [hroom, hzero])
    simpa [MemoryChannel.room, hroom] using ⟨hpos, hlength⟩

end Channel

/-! ## What becomes less -/

section Advance

variable {packets packets' rest : List Packet} {head : Packet} {n : ℕ}

/-- What an attempt makes of the packets that wait. -/
inductive Advance : List Packet → List Packet → Prop
  /-- The session is closed, and with it go all its packets. -/
  | cleared {packets : List Packet} : Advance packets []
  /-- The first packet is written to its end, or thrown away. -/
  | gone {head : Packet} {rest : List Packet} : Advance (head :: rest) rest
  /-- A part of the first packet is written. -/
  | shortened {head : Packet} {rest : List Packet} {n : ℕ} (hpos : 0 < n)
      (hn : n < head.pending.length) :
      Advance (head :: rest) (head.withFragment (some (head.pending.drop n)) :: rest)

/-- The number of packets, and the number of bytes that are left of the first one. -/
def remaining : List Packet → ℕ ×ₗ ℕ
  | [] => toLex (0, 0)
  | head :: rest => toLex (rest.length + 1, head.pending.length)

/-- The number of packets and of all bytes that are left of them. -/
def load (packets : List Packet) : ℕ :=
  (packets.map fun p => p.pending.length).sum + packets.length

lemma load_cons (head : Packet) (rest : List Packet) :
    load (head :: rest) = head.pending.length + 1 + load rest := by
  simp only [load, List.map_cons, List.sum_cons, List.length_cons]
  omega

lemma Advance.remaining_lt (h : Advance packets packets') (hne : packets ≠ []) :
    remaining packets' < remaining packets := by
  cases h with
  | cleared =>
    obtain ⟨head, rest, rfl⟩ := List.exists_cons_of_ne_nil hne
    exact Prod.Lex.toLex_lt_toLex.2 (.inl (Nat.succ_pos _))
  | @gone head rest =>
    cases packets' with
    | nil => exact Prod.Lex.toLex_lt_toLex.2 (.inl (Nat.succ_pos _))
    | cons next rest => exact Prod.Lex.toLex_lt_toLex.2 (.inl (Nat.lt_succ_self _))
  | @shortened head rest n hpos hn =>
    -- as many packets as before
    refine Prod.Lex.toLex_lt_toLex.2 (.inr ⟨rfl, ?_⟩)
    simp only [Packet.pending_withFragment_some, List.length_drop]
    omega

lemma Advance.load_lt (h : Advance packets packets') (hne : packets ≠ []) :
    load packets' < load packets := by
  cases h with
  | cleared =>
    obtain ⟨head, rest, rfl⟩ := List.exists_cons_of_ne_nil hne
    rw [load_cons]
    exact Nat.lt_of_lt_of_le (Nat.succ_pos _) (Nat.le_add_right _ _)
  | gone =>
    rw [load_cons]
    omega
  | shortened hpos hn =>
    rw [load_cons, load_cons, Packet.pending_withFragment_some, List.length_drop]
    omega

end Advance

namespace Engine

variable {e e' : Engine} {setup : Setup} {k : SessionId} {s : Session} {head : Packet}
  {rest : List Packet} {ref : ChannelRef} {c : Channel}

/-- The packets that wait for a session. -/
def queued (e : Engine) (k : SessionId) : List Packet :=
  ((e.registry.session? k).map fun s => s.queue.packets).getD []

/-- The channel of the first packet that waits for a session, if there is one, takes at least one
byte of what is left of the packet, or does not refuse it if nothing is left. -/
def Obliging (e : Engine) (k : SessionId) : Prop :=
  ∀ s head ref c, e.registry.session? k = some s → s.queue.packets.head? = some head →
    e.registry.channelFor s head.transport = some ref → e.registry.channel? ref = some c →
      c.Obliges head.pending.length

/-- If the session is open then, it was open before and has the same packets as before. -/
def Rests (k : SessionId) (e e' : Engine) : Prop :=
  e'.registry.isOpen k = true → e.registry.isOpen k = true ∧ e'.queued k = e.queued k

lemma queued_of_some (hs : e.registry.session? k = some s) : e.queued k = s.queue.packets := by
  rw [queued, hs, Option.map_some, Option.getD_some]

lemma queued_of_core (hs : e.registry.core k = some s) : e.queued k = s.queue.packets := by
  obtain ⟨t, ht, rfl⟩ := Registry.core_eq_some_iff.1 hs
  -- a session and what it is without its channels have one queue
  show e.queued k = t.queue.packets
  exact queued_of_some ht

lemma exists_session_of_isOpen (h : e.registry.isOpen k = true) :
    ∃ s, e.registry.session? k = some s ∧ s.isClosed = false := by
  obtain ⟨s, hs, hopen⟩ := Option.any_eq_true _ _ |>.1 h
  exact ⟨s, hs, by simpa using hopen⟩

/-! ## One attempt -/

/-- A session that an attempt to write has closed has no packets any more. -/
lemma queued_eq_nil_of_over (hs : e.registry.session? k = some s) (hopen : s.isClosed = false)
    (hover : (e.writeOnce setup k).2.registry.Over k) : (e.writeOnce setup k).2.queued k = [] := by
  obtain ⟨packets, htends⟩ := tends_writeOnce setup e k
  obtain ⟨s', hs', -⟩ := htends.enters hs
  rw [queued_of_some hs']
  exact (htends.ages s s' hs hs').emptied hopen (Registry.over_iff.1 hover s' hs')

/-- An attempt that goes to a channel that obliges shortens the first packet, or takes it away, or
closes the session. -/
lemma writeHead_advances (setup : Setup) (ref : ChannelRef) (hs : e.registry.core k = some s)
    (hq : s.queue.packets = head :: rest) (hobliges : c.Obliges head.pending.length) :
    (e.writeHead setup k head rest ref c).2.registry.Over k ∨
      Advance (head :: rest) ((e.writeHead setup k head rest ref c).2.queued k) := by
  obtain ⟨n, hn, hpos⟩ := hobliges head.pending (Nat.le_refl _)
  obtain ⟨c', hw⟩ : ∃ c', c.tryWrite head.pending = (.ok n, c') := ⟨_, Prod.ext hn rfl⟩
  have hcore : (e.wrote ref c').registry.core k = some s := hs
  rw [writeHead_of_ok hw]
  split_ifs with hall hnone
  · cases hlast : head.last with
    | true => exact .inl (over_finishHead _ k rest n hlast)
    | false =>
      have hafter : ((e.wrote ref c').finishHead k head rest n).2.registry.core k
          = some { s with queue := s.queue.pop } := by
        rw [(alike_finishHead _ k rest n hlast).core, core_popHead, if_pos rfl, hcore,
          Option.map_some]
      rw [queued_of_core hafter, PacketQueue.packets_pop hq]
      exact .inr .gone
  · -- a channel that obliges takes something, unless there is nothing to take
    have hdata : head.pending ≠ [] := by
      intro hnil
      simp [hnil] at hall
    exact absurd hnone (Nat.ne_of_gt (hpos hdata))
  · have hafter : ((e.wrote ref c').splitHead k head n).2.registry.core k
        = some { s with queue := s.queue.setFragment (some (head.pending.drop n)) } := by
      rw [core_splitHead, if_pos rfl, hcore, Option.map_some]
    rw [queued_of_core hafter, PacketQueue.packets_setFragment hq]
    exact .inr (.shortened (Nat.pos_of_ne_zero hnone) (Nat.lt_of_not_le hall))

/-- What one attempt makes of the packets of an open session. -/
lemma writeOnce_advances (setup : Setup) (hopen : e.registry.isOpen k = true)
    (hobliging : e.Obliging k) (hne : e.queued k ≠ []) :
    Advance (e.queued k) ((e.writeOnce setup k).2.queued k) := by
  obtain ⟨s, hs, hclosed⟩ := exists_session_of_isOpen hopen
  have hcore : e.registry.core k = some s.core := Registry.core_eq_some_iff.2 ⟨s, hs, rfl⟩
  rw [queued_of_some hs] at hne ⊢
  rcases writeOnce_cases setup hcore hclosed with
    ⟨hnil, -⟩ | ⟨head, rest, hq, ⟨-, hout⟩ | ⟨ref, c, hfor, hc, hout⟩⟩
  · exact absurd hnil hne
  · -- there is no channel for the first packet
    have hafter : (e.dropHead k rest).registry.core k
        = some { s.core with queue := s.queue.pop } := by
      rw [(alike_dropHead e k rest).core, core_popHead, if_pos rfl, hcore]
      rfl
    rw [hout, queued_of_core hafter]
    have hpackets : s.queue.packets = head :: rest := hq
    rw [PacketQueue.packets_pop hpackets, hpackets]
    exact .gone
  · have hpackets : s.queue.packets = head :: rest := hq
    have hobliges := hobliging s head ref c hs (by rw [hpackets, List.head?_cons]) hfor hc
    rcases writeHead_advances setup ref hcore hq hobliges with hover | hadvance
    · rw [queued_eq_nil_of_over hs hclosed (by rwa [hout])]
      exact .cleared
    · rw [hout, hpackets]
      exact hadvance

/-! ## Many attempts -/

/-- After some attempts the session is over or its queue is empty, or what is left has become less
with each attempt. -/
lemma ended_or_load_le {es : ℕ → Engine}
    (hrests : ∀ i, Rests k ((es i).writeOnce setup k).2 (es (i + 1)))
    (hobliging : ∀ i, (es i).Obliging k) (i : ℕ) :
    (∃ n ≤ i, (es n).registry.isOpen k = false ∨ (es n).queued k = []) ∨
      load ((es i).queued k) + i ≤ load ((es 0).queued k) := by
  induction i with
  | zero => exact .inr (Nat.le_refl _)
  | succ i ih =>
    rcases ih with ⟨n, hn, hended⟩ | hload
    · exact .inl ⟨n, Nat.le_succ_of_le hn, hended⟩
    · cases hopen : (es i).registry.isOpen k with
      | false => exact .inl ⟨i, Nat.le_succ i, .inl hopen⟩
      | true =>
        by_cases hne : (es i).queued k = []
        · exact .inl ⟨i, Nat.le_succ i, .inr hne⟩
        · cases hnext : (es (i + 1)).registry.isOpen k with
          | false => exact .inl ⟨i + 1, Nat.le_refl _, .inl hnext⟩
          | true =>
            have hless := (writeOnce_advances setup hopen (hobliging i) hne).load_lt hne
            have hsame := (hrests i hnext).2
            refine .inr ?_
            rw [hsame]
            omega

/-- **A queue runs empty.**  Attempts to write are made for a session, one after the other, and in
between the packets of the session are left alone.  If channels take at least one byte of whatever
they are offered, and do not refuse an empty write, then the session is over or its queue is empty
after as many attempts as there were packets and bytes of them at first.  Each attempt for an open
session with packets leaves fewer of them, or as many and fewer bytes of the first one. -/
theorem drained_in_time (setup : Setup) (k : SessionId) (es : ℕ → Engine)
    (hrests : ∀ i, Rests k ((es i).writeOnce setup k).2 (es (i + 1)))
    (hobliging : ∀ i, (es i).Obliging k) :
    let packets := (es 0).queued k
    (∃ n ≤ (packets.map fun p => p.pending.length).sum + packets.length,
      (es n).registry.isOpen k = false ∨ (es n).queued k = []) ∧
    ∀ i, (es i).registry.isOpen k = true → (es i).queued k ≠ [] →
      remaining (((es i).writeOnce setup k).2.queued k) < remaining ((es i).queued k) := by
  intro packets
  refine ⟨?_, fun i hopen hne =>
    (writeOnce_advances setup hopen (hobliging i) hne).remaining_lt hne⟩
  rcases ended_or_load_le hrests hobliging (load packets) with hended | hload
  · exact hended
  · -- all of it is gone by now
    refine ⟨load packets, Nat.le_refl _, .inr ?_⟩
    by_contra hne
    obtain ⟨head, rest, hq⟩ := List.exists_cons_of_ne_nil hne
    rw [hq, load_cons] at hload
    have hpackets : load ((es 0).queued k) = load packets := rfl
    omega

/-- Part of a packet is written already.  A packet without bytes waits behind it, and one for a
channel that has been replaced since.  Channels take one, two or three bytes at a time. -/
theorem drained_with_changing_channels :
    let channels (i : ℕ) : Array Channel := #[
      .memory { id := ⟨1⟩, transport := .stream, cap := some (i % 3 + 1) },
      .memory { id := ⟨2⟩, transport := .textSocket, cap := some (i % 3 + 1) },
      .memory { id := ⟨3⟩, transport := .datagram, cap := some (i % 3 + 1) }]
    let packet (data : Bytes) (transport : Transport) : Packet := { data, transport }
    let setup : Setup := { codec := .plain, resolve := fun _ => some ⟨7⟩ }
    let change (i : ℕ) (e : Engine) : Engine :=
      { e with registry := { e.registry with channels := channels i } }
    let e : Engine := { start 3 1 {} with registry := .ofChannels 3 (channels 0) }
    let e' := e.proceed setup [.registry (.create ⟨0⟩), .registry (.bindPlayer ⟨1⟩ ⟨7⟩),
      .registry (.activate ⟨1⟩), .registry (.attach ⟨1⟩ []),
      .registry (.enqueue ⟨1⟩ (packet [1, 2, 3, 4, 5] .stream)),
      .registry (.enqueue ⟨1⟩ (packet [] .stream)),
      .registry (.enqueue ⟨1⟩ (packet [9] .textSocket)), .write ⟨1⟩, .registry (.attach ⟨2⟩ [])]
    let es : ℕ → Engine :=
      Nat.rec (change 0 e') fun i e => change (i + 1) (e.writeOnce setup ⟨1⟩).2
    (es 0).queued ⟨1⟩ = [(packet [1, 2, 3, 4, 5] .stream).withFragment (some [2, 3, 4, 5]),
        packet [] .stream, packet [9] .textSocket] ∧
      (∃ n ≤ 8, (es n).registry.isOpen ⟨1⟩ = false ∨ (es n).queued ⟨1⟩ = []) ∧
      (es 4).queued ⟨1⟩ = [packet [9] .textSocket] ∧ (es 5).queued ⟨1⟩ = [] ∧
      remaining (((es 4).writeOnce setup ⟨1⟩).2.queued ⟨1⟩) < remaining ((es 4).queued ⟨1⟩) := by
  intro channels packet setup change e e' es
  have hrests (i : ℕ) : Rests ⟨1⟩ ((es i).writeOnce setup ⟨1⟩).2 (es (i + 1)) :=
    fun hopen => ⟨hopen, rfl⟩
  have hobliging (i : ℕ) : (es i).Obliging ⟨1⟩ := by
    intro s head ref c _ _ _ hc
    have hchannels : (es i).registry.channels = channels i := by cases i <;> rfl
    rw [Registry.channel?, hchannels] at hc
    have hmem := Array.mem_of_getElem? hc
    simp only [channels, List.mem_toArray, List.mem_cons, List.not_mem_nil, or_false] at hmem
    rcases hmem with rfl | rfl | rfl
    all_goals exact Channel.obliges_memory rfl rfl rfl (by simp)
  have hqueued : (es 0).queued ⟨1⟩
      = [(packet [1, 2, 3, 4, 5] .stream).withFragment (some [2, 3, 4, 5]),
        packet [] .stream, packet [9] .textSocket] := by
    decide +kernel
  have hlast : (es 4).queued ⟨1⟩ = [packet [9] .textSocket] := by decide +kernel
  obtain ⟨hdrained, hless⟩ := drained_in_time setup ⟨1⟩ es hrests hobliging
  rw [hqueued] at hdrained
  exact ⟨hqueued, hdrained, hlast, by decide +kernel,
    hless 4 (by decide +kernel) (by rw [hlast]; simp)⟩

end Engine

end SessionServer
