/-
# The last packet is the last one

A session is closed once and for all: when its last packet was written to its end, when a write
fails, when a packet finds its queue full, or because the application says so.  Afterwards its
tickets may still be in a shard, a wait for one of its channels may come to its end, and a submitter
may be under way to it.  None of this brings anything to it or to the channels that it had.

What is done for a session gives nothing to it if it is over (`Tends`), and what else can happen to
an engine passes it by (`operate_tends_or_passes`), so a session that is over is spared by whatever
is done (`Spares`).  A session does not close without its packets being thrown away and its channels
being closed (`closes_operate`).

Main results: nothing comes to a session that is over, and its last packet is the last thing that is
on its channels (`last_packet_is_last`).
-/
import SessionServer.Proofs.Outbound.Operations

namespace SessionServer

/-- A channel that is closed stays closed when it changes, and nothing comes to what was written on
it. -/
def Operation.Calm : Operation → Prop
  | .turn _ change => ∀ c : Channel, c.isOpen = false →
      (change c).isOpen = false ∧ (change c).written <+: c.written
  | _ => True

namespace Engine

open Registry (Seals Fades)

variable {e e' e₁ e₂ e₃ : Engine} {setup : Setup} {id k : SessionId} {s s' : Session} {d : Dues}
  {dues : List (SessionId × Dues)} {op : Operation} {ops : List Operation} {head : Packet}
  {rest : List Packet} {ref : ChannelRef} {c c' : Channel} {n : ℕ}

/-! ## What comes to a session that is over -/

/-- Nothing comes to the session if it is over, nor to channels that are closed. -/
structure Spares (k : SessionId) (e e' : Engine) : Prop where
  session : ∀ s, e.registry.session? k = some s → s.isClosed = true →
    ∃ s', e'.registry.session? k = some s' ∧ s'.isClosed = true ∧ s'.queue = s.queue ∧
      (s'.ticket = true → s.ticket = true)
  tickets : ∀ s, e.registry.session? k = some s → s.isClosed = true →
    ∀ n, (e'.tickets.shard n).count k ≤ (e.tickets.shard n).count k
  seals : Seals e.registry e'.registry

lemma Spares.refl (k : SessionId) (e : Engine) : Spares k e e where
  session s hs hclosed := ⟨s, hs, hclosed, rfl, fun h => h⟩
  tickets _ _ _ _ := Nat.le_refl _
  seals := Seals.refl e.registry

lemma Spares.trans (h₁ : Spares k e₁ e₂) (h₂ : Spares k e₂ e₃) : Spares k e₁ e₃ where
  session s hs hclosed := by
    obtain ⟨s₂, hs₂, hclosed₂, hqueue₂, hticket₂⟩ := h₁.session s hs hclosed
    obtain ⟨s₃, hs₃, hclosed₃, hqueue₃, hticket₃⟩ := h₂.session s₂ hs₂ hclosed₂
    exact ⟨s₃, hs₃, hclosed₃, hqueue₃.trans hqueue₂, hticket₂ ∘ hticket₃⟩
  tickets s hs hclosed n := by
    obtain ⟨s₂, hs₂, hclosed₂, -⟩ := h₁.session s hs hclosed
    exact Nat.le_trans (h₂.tickets s₂ hs₂ hclosed₂ n) (h₁.tickets s hs hclosed n)
  seals := h₁.seals.trans h₂.seals

/-- What is done for one session makes that one older, and no other one. -/
lemma Tends.exists_ages (h : Tends id d e e') (hs : e.registry.session? k = some s) :
    ∃ s', e'.registry.session? k = some s' ∧ s.Ages s' ∧
      (s.isClosed = false → s'.isClosed = true → k = id) := by
  by_cases hk : k = id
  · subst hk
    obtain ⟨s', hs', -⟩ := h.enters hs
    exact ⟨s', hs', h.ages s s' hs hs', fun _ _ => rfl⟩
  · refine ⟨s, (h.session?_of_ne hk).trans hs, .refl s, fun hopen hclosed => ?_⟩
    exact absurd (hopen.symm.trans hclosed) Bool.false_ne_true

lemma Tends.spares (h : Tends id d e e') (k : SessionId) : Spares k e e' where
  session s hs hclosed := by
    obtain ⟨s', hs', hages, -⟩ := h.exists_ages hs
    obtain ⟨hclosed', hqueue, hticket⟩ := hages.closed hclosed
    exact ⟨s', hs', hclosed', hqueue, hticket⟩
  tickets s hs hclosed := by
    refine h.tickets k (Registry.over_iff.2 fun t ht => ?_)
    exact Option.some.inj (hs.symm.trans ht) ▸ hclosed
  seals := h.seals

lemma Chain.spares (h : Chain dues e e') (k : SessionId) : Spares k e e' := by
  induction h with
  | nil => exact Spares.refl k _
  | cons htends _ ih => exact (htends.spares k).trans ih

/-- What is done to an engine is done for some sessions, or it passes all of them by: tickets stay
where they are, no session closes, and those that are over stay as they are. -/
lemma operate_tends_or_passes (hn : e.Named n) (setup : Setup) (op : Operation)
    (hroom : op.opens = true → n + 1 < UInt64.size) :
    (∃ dues, Chain dues e (e.operate setup op)) ∨
      ((e.operate setup op).tickets = e.tickets ∧
        ∀ k s, e.registry.session? k = some s →
          ∃ s', (e.operate setup op).registry.session? k = some s' ∧
            s'.isClosed = s.isClosed ∧ (s.isClosed = true → s' = s)) := by
  rcases operate_cases hn.keyed setup op with
    ⟨dues, hchain, -⟩ | ⟨primary, rfl⟩ | ⟨ref, token, rfl⟩ | ⟨ref, change, rfl⟩
  · exact .inl ⟨dues, hchain⟩
  · refine .inr ⟨rfl, fun k s hs => ⟨s, ?_, rfl, fun _ => rfl⟩⟩
    have hne : k ≠ ⟨e.registry.nextId⟩ := by
      rintro rfl
      exact absurd ((hn.fresh (hroom rfl)).symm.trans hs) nofun
    exact (Index.find?_insert e.registry.sessions _ k _).trans ((if_neg hne).trans hs)
  · refine .inr ⟨rfl, fun k s hs => ?_⟩
    rcases sessions_attach hn.keyed setup.resolve ref token with
      hsame | ⟨k', t, ht, hopen, hsessions⟩
    · exact ⟨s, (congrArg (·.find? k) hsame).trans hs, rfl, fun _ => rfl⟩
    · have hafter := Registry.session?_of_modify hsessions k
      by_cases hk : k = k'
      · subst hk
        obtain rfl := Option.some.inj (hs.symm.trans ht)
        rw [if_pos rfl, hs] at hafter
        refine ⟨_, hafter, rfl, fun hclosed => ?_⟩
        exact absurd (hopen.symm.trans hclosed) Bool.false_ne_true
      · exact ⟨s, hafter.trans ((if_neg hk).trans hs), rfl, fun _ => rfl⟩
  · exact .inr ⟨rfl, fun k s hs => ⟨s, hs, rfl, fun _ => rfl⟩⟩

/-- Nothing comes to channels that are closed. -/
lemma seals_operate (hr : e.registry.Keyed) (setup : Setup) (op : Operation) (hcalm : op.Calm) :
    Seals e.registry (e.operate setup op).registry := by
  rcases operate_cases hr setup op with
    ⟨dues, hchain, -⟩ | ⟨primary, rfl⟩ | ⟨ref, token, rfl⟩ | ⟨ref, change, rfl⟩
  · exact (hchain.spares ⟨0⟩).seals
  · exact (Registry.fades_act hr setup.resolve (.create primary)).seals
  · exact (Registry.fades_act hr setup.resolve (.attach ref token)).seals
  · intro ref' c hc
    show ∃ c', (e.registry.modifyChannel ref change).channel? ref' = some c' ∧ _
    rw [Registry.channel?_modifyChannel, hc]
    split_ifs
    · exact ⟨change c, rfl, hcalm c⟩
    · exact ⟨c, rfl, fun hclosed => ⟨hclosed, List.prefix_refl _⟩⟩

lemma spares_operate (hn : e.Named n) (setup : Setup) (op : Operation) (hcalm : op.Calm)
    (hroom : op.opens = true → n + 1 < UInt64.size) (k : SessionId) :
    Spares k e (e.operate setup op) := by
  have hseals := seals_operate hn.keyed setup op hcalm
  rcases operate_tends_or_passes hn setup op hroom with ⟨dues, hchain⟩ | ⟨htickets, hpasses⟩
  · exact hchain.spares k
  · refine ⟨fun s hs hclosed => ?_, fun _ _ _ n => Nat.le_of_eq (by rw [htickets]), hseals⟩
    obtain ⟨s', hs', -, hsame⟩ := hpasses k s hs
    obtain rfl := hsame hclosed
    exact ⟨s', hs', hclosed, rfl, fun h => h⟩

lemma spares_proceed (hn : e.Named n) (setup : Setup) (hcalm : ∀ op ∈ ops, op.Calm)
    (hcount : n + ops.countP Operation.opens < UInt64.size) (k : SessionId) :
    Spares k e (e.proceed setup ops) := by
  induction ops generalizing e n with
  | nil => exact Spares.refl k e
  | cons op ops ih =>
    obtain ⟨hroom, hrest⟩ := room_of_countP hcount
    have hop : op.Calm := hcalm op List.mem_cons_self
    have hops : ∀ op ∈ ops, op.Calm := fun op hmem => hcalm op (List.mem_cons_of_mem _ hmem)
    exact (spares_operate hn setup op hop hroom k).trans
      (ih (hn.operate setup op hroom) hops hrest)

/-! ## How a session closes -/

/-- When a session has been closed by what was done for some sessions, it has no packets, and the
channels that it had are closed. -/
lemma Chain.closes (h : Chain dues e e') (hs : e.registry.session? k = some s)
    (hopen : s.isClosed = false) (hs' : e'.registry.session? k = some s')
    (hclosed : s'.isClosed = true) :
    s'.queue.packets = [] ∧ ∀ ref c, s.Binds ref → e.registry.channel? ref = some c →
      ∃ c', e'.registry.channel? ref = some c' ∧ c'.isOpen = false := by
  induction h generalizing s with
  | nil =>
    obtain rfl := Option.some.inj (hs.symm.trans hs')
    exact absurd (hopen.symm.trans hclosed) Bool.false_ne_true
  | cons htends hchain ih =>
    obtain ⟨s₂, hs₂, hages, hself⟩ := htends.exists_ages hs
    cases hmid : s₂.isClosed with
    | false =>
      -- it is closed later on, and until then it keeps its channels
      obtain ⟨hempty, hshut⟩ := ih hs₂ hmid hs'
      refine ⟨hempty, fun ref c hb hc => ?_⟩
      obtain ⟨c₂, hc₂, -⟩ := htends.seals ref c hc
      exact hshut ref c₂ (hages.binds hmid hb) hc₂
    | true =>
      obtain ⟨t, ht, -, hqueue, -⟩ := (hchain.spares k).session s₂ hs₂ hmid
      obtain rfl := Option.some.inj (ht.symm.trans hs')
      refine ⟨by rw [hqueue]; exact hages.emptied hopen hmid, fun ref c hb hc => ?_⟩
      obtain rfl := hself hopen hmid
      obtain ⟨c₂, hc₂, hclosed₂⟩ := htends.shuts s s₂ ref c hs hs₂ hopen hmid hb hc
      obtain ⟨c₃, hc₃, hsealed⟩ := (hchain.spares k).seals ref c₂ hc₂
      exact ⟨c₃, hc₃, (hsealed hclosed₂).1⟩

/-- Whatever closes a session throws its packets away and closes its channels. -/
lemma closes_operate (hn : e.Named n) (setup : Setup) (op : Operation)
    (hroom : op.opens = true → n + 1 < UInt64.size) (hs : e.registry.session? k = some s)
    (hopen : s.isClosed = false) (hs' : (e.operate setup op).registry.session? k = some s')
    (hclosed : s'.isClosed = true) :
    s'.queue.packets = [] ∧ ∀ ref c, s.Binds ref → e.registry.channel? ref = some c →
      ∃ c', (e.operate setup op).registry.channel? ref = some c' ∧ c'.isOpen = false := by
  rcases operate_tends_or_passes hn setup op hroom with ⟨dues, hchain⟩ | ⟨-, hpasses⟩
  · exact hchain.closes hs hopen hs' hclosed
  · obtain ⟨t, ht, hstate, -⟩ := hpasses k s hs
    obtain rfl := Option.some.inj (ht.symm.trans hs')
    exact absurd (hopen.symm.trans (hstate.symm.trans hclosed)) Bool.false_ne_true

/-- Once the last packet was counted, its session is closed. -/
lemma finishHead_last (e : Engine) (k : SessionId) (hlast : head.last = true) (rest : List Packet)
    (n : ℕ) :
    ∃ counted : Engine, e.finishHead k head rest n = (.finished, counted.close k .lastPacket) ∧
      counted.registry = e.registry.modifySession k fun s =>
        ({ s with queue := s.queue.pop }.recordWrite e.registry.clock n).recordWrittenPacket := by
  refine ⟨_, by simp only [finishHead, hlast, if_true]; rfl, ?_⟩
  exact modifySession_modifySession ..

/-- The last packet is written to its end: the session closes for that reason, the packets behind it
are counted as thrown away, and the channel has what was left of the packet. -/
lemma writeOnce_last (setup : Setup) (hs : e.registry.session? k = some s)
    (hopen : s.isClosed = false) (hq : s.queue.packets = head :: rest) (hlast : head.last = true)
    (hfor : e.registry.channelFor s head.transport = some ref)
    (hc : e.registry.channel? ref = some c)
    (hw : c.tryWrite head.pending = (.ok head.pending.length, c')) :
    (e.writeOnce setup k).1 = .finished ∧
      (e.writeOnce setup k).2.registry.notices = e.registry.notices ++ [(k, .lastPacket)] ∧
      (∃ s', (e.writeOnce setup k).2.registry.session? k = some s' ∧ s'.isClosed = true ∧
        s'.queue.packets = [] ∧
        s'.stats.droppedPackets = s.stats.droppedPackets + UInt64.ofNat rest.length) ∧
      ∃ c'', (e.writeOnce setup k).2.registry.channel? ref = some c'' ∧
        c''.written = c.written ++ head.pending := by
  obtain ⟨counted, hfinish, hregistry⟩ :=
    finishHead_last (e.wrote ref c') k hlast rest head.pending.length
  have hout : e.writeOnce setup k = (.finished, counted.close k .lastPacket) := by
    simp only [writeOnce, hs, hopen, hq, hfor, hc, Bool.false_eq_true, if_false]
    rw [writeHead_of_ok hw, if_pos (Nat.le_refl _), hfinish]
  -- the session as it is just before it is closed
  obtain ⟨t, ht, hqueue, hstats, hstate⟩ : ∃ t, counted.registry.session? k = some t ∧
      t.queue = s.queue.pop ∧ t.stats.droppedPackets = s.stats.droppedPackets ∧
      t.isClosed = false := by
    rw [hregistry, Registry.session?_modifySession, if_pos rfl]
    exact ⟨_, congrArg (Option.map _) hs, rfl, rfl, hopen⟩
  rw [hout]
  refine ⟨rfl, ?_, ⟨t.ended, ?_, rfl, rfl, ?_⟩, ?_⟩
  · refine (Registry.notices_close ht hstate .lastPacket).1.trans ?_
    rw [hregistry]
    rfl
  · have hsessions := Registry.sessions_close ht hstate .lastPacket
    exact (Registry.session?_of_modify hsessions k).trans (by rw [if_pos rfl, ht]; rfl)
  · show t.stats.droppedPackets + UInt64.ofNat t.queue.length = _
    rw [hstats, hqueue, PacketQueue.length, PacketQueue.pop, hq, List.tail_cons]
  · obtain ⟨f, hf, hchannel⟩ := Registry.fades_close counted.registry k .lastPacket ref
    have hwritten : c'.written = c.written ++ head.pending := by
      simp [Channel.written, (Channel.written_of_tryWrite_ok hw).2]
    refine ⟨f c', ?_, (hf c').written_eq.trans hwritten⟩
    refine (hchannel.trans ?_)
    rw [hregistry]
    exact congrArg (Option.map f) (channel?_wrote hc c')

/-! ## Ever after -/

/-- A session was open in the first state and is over in the second one, and from there to the third
one it has been left alone: no packet and no ticket has come to it, and no byte to the channels it
had. -/
structure LeftAlone (setup : Setup) (k : SessionId) (s : Session) (e₁ e₂ e₃ : Engine) : Prop where
  session : ∃ s₂ s₃, e₂.registry.session? k = some s₂ ∧ e₃.registry.session? k = some s₃ ∧
    s₃.isClosed = true ∧ s₃.queue.packets = [] ∧ (s₃.ticket = true → s₂.ticket = true)
  tickets : ∀ n, (e₃.tickets.shard n).count k ≤ (e₂.tickets.shard n).count k
  channels : ∀ ref c, s.Binds ref → e₁.registry.channel? ref = some c →
    ∃ c₂ c₃, e₂.registry.channel? ref = some c₂ ∧ e₃.registry.channel? ref = some c₃ ∧
      c₂.isOpen = false ∧ c₃.isOpen = false ∧ c₃.written <+: c₂.written
  writeOnce : e₃.writeOnce setup k = (.sessionClosed, e₃)

/-- A session that was closed is left alone from then on, between any two of the states that
follow. -/
lemma leftAlone_proceed (hn : e.Named n) (setup : Setup) (op : Operation)
    {earlier later : List Operation} (hcalm : ∀ op ∈ earlier ++ later, op.Calm)
    (hcount : n + (op :: (earlier ++ later)).countP Operation.opens < UInt64.size)
    (hs : e.registry.session? k = some s) (hopen : s.isClosed = false)
    (hs' : (e.operate setup op).registry.session? k = some s') (hclosed : s'.isClosed = true) :
    LeftAlone setup k s e ((e.operate setup op).proceed setup earlier)
      ((e.operate setup op).proceed setup (earlier ++ later)) := by
  obtain ⟨hroom, hrest⟩ := room_of_countP hcount
  rw [List.countP_append] at hrest
  obtain ⟨hempty, hshut⟩ := closes_operate hn setup op hroom hs hopen hs' hclosed
  have hn' := hn.operate setup op hroom
  have hbefore : Spares k (e.operate setup op) ((e.operate setup op).proceed setup earlier) :=
    spares_proceed hn' setup (fun op hmem => hcalm op (List.mem_append_left _ hmem)) (by omega) k
  have hsince : Spares k ((e.operate setup op).proceed setup earlier)
      ((e.operate setup op).proceed setup (earlier ++ later)) := by
    rw [proceed_append]
    exact spares_proceed (hn'.proceed setup (by omega)) setup
      (fun op hmem => hcalm op (List.mem_append_right _ hmem)) (by omega) k
  obtain ⟨s₂, hs₂, hclosed₂, hqueue₂, -⟩ := hbefore.session s' hs' hclosed
  obtain ⟨s₃, hs₃, hclosed₃, hqueue₃, hticket⟩ := hsince.session s₂ hs₂ hclosed₂
  refine ⟨⟨s₂, s₃, hs₂, hs₃, hclosed₃, by rw [hqueue₃, hqueue₂, hempty], hticket⟩,
    hsince.tickets s₂ hs₂ hclosed₂, fun ref c hb hc => ?_, ?_⟩
  · obtain ⟨c₁, hc₁, hclosed₁⟩ := hshut ref c hb hc
    obtain ⟨c₂, hc₂, hsealed₂⟩ := hbefore.seals ref c₁ hc₁
    obtain ⟨c₃, hc₃, hsealed₃⟩ := hsince.seals ref c₂ hc₂
    exact ⟨c₂, c₃, hc₂, hc₃, (hsealed₂ hclosed₁).1, hsealed₃ (hsealed₂ hclosed₁).1⟩
  · simp only [writeOnce, hs₃, hclosed₃, if_true]

/-- **The last packet is the last one.**  Sessions are opened on any channels, and anything is done
before a session closes and after it, with channels that take as little as they like or fail; only,
channels that are closed do not open again and take nothing by themselves.  When an operation has
closed a session, for whatever reason, its channels are closed and its packets are gone.  Whatever
is done from then on, it stays closed, and from any state to any later one no byte comes to the
channels that it had and no packet and no ticket to it, and nothing is written for it.

When a packet that is marked as the last one is written to its end, in however many pieces and on
whichever channel, the session is closed for that reason, all packets that waited behind it are
counted as dropped, and what was left of the packet is the last that its channel ever has. -/
theorem last_packet_is_last (setup : Setup) (e : Engine) (queueCapacity : ℕ)
    (channels : Array Channel) (before after : List Operation) (op : Operation) (k : SessionId)
    (s : Session) (hstart : e.registry = .ofChannels queueCapacity channels)
    (hcount : (before ++ op :: after).countP Operation.opens < UInt64.size)
    (hcalm : ∀ op ∈ after, op.Calm)
    (hs : (e.proceed setup before).registry.session? k = some s) (hopen : s.isClosed = false) :
    let e₁ := e.proceed setup before
    let e₂ := e₁.operate setup op
    let e₃ := e₂.proceed setup after
    (∀ s₂, e₂.registry.session? k = some s₂ → s₂.isClosed = true →
        ∀ earlier later, earlier ++ later = after →
          LeftAlone setup k s e₁ (e₂.proceed setup earlier) e₃) ∧
      ∀ head rest ref c c', op = .write k → s.queue.packets = head :: rest → head.last = true →
        e₁.registry.channelFor s head.transport = some ref → e₁.registry.channel? ref = some c →
        c.tryWrite head.pending = (.ok head.pending.length, c') →
          (e₁.writeOnce setup k).1 = .finished ∧
            e₂.registry.notices = e₁.registry.notices ++ [(k, .lastPacket)] ∧
            (∃ s₂, e₂.registry.session? k = some s₂ ∧ s₂.isClosed = true ∧
              s₂.queue.packets = [] ∧
              s₂.stats.droppedPackets = s.stats.droppedPackets + UInt64.ofNat rest.length) ∧
            ∃ c₂ c₃, e₂.registry.channel? ref = some c₂ ∧ e₃.registry.channel? ref = some c₃ ∧
              c₂.written = c.written ++ head.pending ∧ c₃.isOpen = false ∧
              c₃.written <+: c.written ++ head.pending := by
  intro e₁ e₂ e₃
  rw [List.countP_append] at hcount
  have hn : e₁.Named (0 + before.countP Operation.opens) :=
    (named_ofChannels hstart).proceed setup (by omega)
  have hleft : ∀ s₂, e₂.registry.session? k = some s₂ → s₂.isClosed = true →
      ∀ earlier later, earlier ++ later = after →
        LeftAlone setup k s e₁ (e₂.proceed setup earlier) e₃ := by
    rintro s₂ hs₂ hclosed earlier later rfl
    exact leftAlone_proceed hn setup op hcalm (by omega) hs hopen hs₂ hclosed
  refine ⟨hleft, ?_⟩
  rintro head rest ref c c' rfl hq hlast hfor hc hw
  obtain ⟨hout, hnotices, ⟨s₂, hs₂, hclosed, hempty, hdropped⟩, c₂, hc₂, hwritten⟩ :=
    writeOnce_last setup hs hopen hq hlast hfor hc hw
  refine ⟨hout, hnotices, ⟨s₂, hs₂, hclosed, hempty, hdropped⟩, ?_⟩
  have hb : s.Binds ref := Registry.binds_of_channelFor hfor
  obtain ⟨c₂', c₃, hc₂', hc₃, -, hclosed₃, hprefix⟩ :=
    (hleft s₂ hs₂ hclosed [] after rfl).channels ref c hb hc
  obtain rfl := Option.some.inj (hc₂.symm.trans hc₂')
  exact ⟨c₂, c₃, hc₂, hc₃, hwritten, hclosed₃, hwritten ▸ hprefix⟩

/-- The last packet of a session is written in two pieces on its second channel, with two packets
behind it and its ticket in a shard.  Another packet is submitted afterwards, a submitter that is
under way offers one more, and workers go on with the ticket. -/
theorem last_packet_in_two_pieces :
    let channel (id : UInt64) (transport : Transport) (cap : Nat) : Channel :=
      .memory { id := ⟨id⟩, transport, cap := some cap }
    let packet (data : Bytes) (transport : Transport) (last : Bool) : Packet :=
      { data, transport, last, recipients := [⟨1⟩] }
    let setup : Setup :=
      { codec := .plain, resolve := fun token => token.head?.map fun b => ⟨b.toUInt64⟩ }
    let channels : Array Channel := #[channel 1 .stream 9, channel 2 .reliableUdp 3]
    let e : Engine := { start 4 1 {} with registry := .ofChannels 4 channels }
    let before : List Operation := [.registry (.create ⟨0⟩), .registry (.activate ⟨1⟩),
      .registry (.bindPlayer ⟨1⟩ ⟨7⟩), .registry (.attach ⟨1⟩ [7]),
      .submit (packet [5, 6] .reliableUdp true), .submit (packet [8] .stream false),
      .submit (packet [9] .stream false), .write ⟨1⟩]
    let after : List Operation := [.submit (packet [1] .reliableUdp false),
      .offer (packet [2] .stream false) ⟨1⟩, .schedule ⟨1⟩, .take 0, .write ⟨1⟩]
    let e₂ := (e.proceed setup before).operate setup (.write ⟨1⟩)
    let e₃ := e₂.proceed setup after
    e₂.registry.notices = [(⟨1⟩, .lastPacket)] ∧
      (∃ s₂, e₂.registry.session? ⟨1⟩ = some s₂ ∧ s₂.isClosed = true ∧
        s₂.stats.droppedPackets = 2) ∧
      (∃ c₃, e₃.registry.channel? ⟨1⟩ = some c₃ ∧ c₃.isOpen = false ∧
        c₃.written <+: [17, 0, 2, 5, 6]) ∧
      e₃.writeOnce setup ⟨1⟩ = (.sessionClosed, e₃) := by
  intro channel packet setup channels e before after e₂ e₃
  obtain ⟨s, hs⟩ : ∃ s, (e.proceed setup before).registry.session? ⟨1⟩ = some s :=
    Option.isSome_iff_exists.1 (by decide +kernel)
  have hstate : ((e.proceed setup before).registry.session? ⟨1⟩).map
      (fun s => (s.isClosed, s.stats.droppedPackets)) = some (false, 0) := by
    decide +kernel
  have hpackets : ((e.proceed setup before).registry.session? ⟨1⟩).map
      (fun s => s.queue.packets.map fun p => (p.last, p.transport, p.pending))
      = some [(true, .reliableUdp, [5, 6]), (false, .stream, [17, 0, 1, 8]),
          (false, .stream, [17, 0, 1, 9])] := by
    decide +kernel
  have hchannel : ((e.proceed setup before).registry.session? ⟨1⟩).map
      (fun s => (e.proceed setup before).registry.channelFor s .reliableUdp)
      = some (some ⟨1⟩) := by
    decide +kernel
  have hc : (e.proceed setup before).registry.channel? ⟨1⟩ = some (.memory
      { id := ⟨2⟩, transport := .reliableUdp, cap := some 3, accepted := [[17, 0, 2]] }) := by
    decide +kernel
  have hnone : (e.proceed setup before).registry.notices = [] := by decide +kernel
  rw [hs] at hstate hpackets hchannel
  obtain ⟨hopen, hzero⟩ := Prod.mk.inj (Option.some.inj hstate)
  obtain ⟨head, rest, hq, hhead, hrest⟩ := List.map_eq_cons_iff.1 (Option.some.inj hpackets)
  obtain ⟨hlast, hrest'⟩ := Prod.mk.inj hhead
  obtain ⟨htransport, hpending⟩ := Prod.mk.inj hrest'
  have hlength : rest.length = 2 := by simpa using congrArg List.length hrest
  have hfor := Option.some.inj hchannel
  rw [← htransport] at hfor
  obtain ⟨hleft, hwritten⟩ := last_packet_is_last setup e 4 channels before after (.write ⟨1⟩) ⟨1⟩ s
    rfl (by decide) (by simp [after, Operation.Calm]) hs hopen
  obtain ⟨-, hnotices, ⟨s₂, hs₂, hclosed, -, hdropped⟩, -, c₃, -, hc₃, -, hclosed₃, hprefix⟩ :=
    hwritten head rest ⟨1⟩ _ _ rfl hq hlast hfor hc (by rw [hpending]; rfl)
  refine ⟨by rw [hnotices, hnone]; rfl, ⟨s₂, hs₂, hclosed, ?_⟩, ⟨c₃, hc₃, hclosed₃, ?_⟩,
    (hleft s₂ hs₂ hclosed [] after rfl).writeOnce⟩
  · rw [hdropped, hzero, hlength]
    rfl
  · rw [hpending] at hprefix
    exact hprefix

end Engine

end SessionServer
