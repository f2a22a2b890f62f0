/-
# Recipients do not get in each other's way

A packet that is submitted is offered to its recipients one after the other.  A recipient whose
queue is full may be closed by that in the middle of the list, which closes its channels and takes
it out of the lists of the registry, and all recipients share these lists and the shards of the
tickets.  Still each of them fares as if the packet had been submitted for it alone.

What concerns a session are the session itself, its tickets, its channels, and where it is listed.
What is done for one session does not show in what concerns another one (`sameOf_offer_of_ne`), and
what becomes of a session when it is offered a packet is determined by what concerns it
(`SameOf.offer`).  Sessions are found by the names of their channels, so that channels count as
different only if their names are.

Main result: whoever else a packet goes to, and in whatever order, each recipient ends up as it
would have alone, and whoever is not a recipient stays as it was (`recipients_fare_alone`).
-/
import SessionServer.Proofs.Inbound.Datagrams
import SessionServer.Proofs.Outbound.Delivery

namespace SessionServer

/-! ## Channels that are closed with a session -/

namespace Registry

variable {r r' : Registry} {ids ids' : List SessionId} {j k : SessionId} {s : Session}
  {ref : ChannelRef}

/-- The channels that a session writes to. -/
def channelsOf (r : Registry) (k : SessionId) : List ChannelRef :=
  ((r.session? k).map Session.channels).getD []

/-- No other one of the sessions writes to a channel of that name. -/
def Clear (r : Registry) (ids : List SessionId) (k : SessionId) (ref : ChannelRef) : Prop :=
  ∀ j ∈ ids, j ≠ k → ∀ ref' ∈ r.channelsOf j, r.channelId? ref' ≠ r.channelId? ref

instance (r : Registry) (ids : List SessionId) (k : SessionId) (ref : ChannelRef) :
    Decidable (r.Clear ids k ref) :=
  inferInstanceAs (Decidable (∀ j ∈ ids, _))

lemma mem_channelsOf : ref ∈ r.channelsOf k ↔ ∃ s, r.core k = some s ∧ s.Binds ref := by
  have hchannels (s : Session) : ref ∈ s.channels ↔ s.Binds ref := by
    by_cases hprimary : s.primary = ref
    · simp [Session.channels, Session.Binds, hprimary]
    · simp [Session.channels, Session.Binds, hprimary, Ne.symm hprimary]
  cases hs : r.session? k with
  | none => simp [channelsOf, core, hs]
  | some s =>
    simp only [channelsOf, core, hs, Option.map_some, Option.getD_some, Option.some.injEq,
      exists_eq_left', hchannels]
    exact Iff.rfl

lemma mem_channelsOf_of_later (h : ref ∈ r'.channelsOf k) (hlater : Later r r') :
    ref ∈ r.channelsOf k := by
  obtain ⟨s', hs', hb⟩ := mem_channelsOf.1 h
  obtain ⟨s, hs, hkeeps⟩ := hlater k s' hs'
  exact mem_channelsOf.2 ⟨s, hs, hkeeps.binds hb⟩

lemma Clear.mono (h : r.Clear ids k ref) (hsub : ∀ j ∈ ids', j ∈ ids) : r.Clear ids' k ref :=
  fun j hj => h j (hsub j hj)

lemma Clear.of_later (h : r.Clear ids k ref) (hlater : Later r r')
    (hnames : ∀ ref, r'.channelId? ref = r.channelId? ref) : r'.Clear ids k ref := by
  intro j hj hne ref' href'
  rw [hnames, hnames]
  exact h j hj hne ref' (mem_channelsOf_of_later href' hlater)

/-- What closing makes of a channel depends on the session and that channel only. -/
lemma channel?_letGo_congr (h : r'.channel? ref = r.channel? ref) (s : Session) :
    (r'.letGo s).channel? ref = (r.letGo s).channel? ref := by
  have hfirst : (r'.closeChannel s.primary).channel? ref
      = (r.closeChannel s.primary).channel? ref := by
    rw [closeChannel, closeChannel, channel?_modifyChannel, channel?_modifyChannel, h]
  by_cases hsecond : s.secondary = some ref
  · have hclosed := channel?_dropSecondary_self (r := r.closeChannel s.primary) hsecond
    have hclosed' := channel?_dropSecondary_self (r := r'.closeChannel s.primary) hsecond
    rw [hfirst] at hclosed'
    exact hclosed'.trans hclosed.symm
  · have hsame := channel?_dropSecondary_of_ne (r := r.closeChannel s.primary) hsecond
    have hsame' := channel?_dropSecondary_of_ne (r := r'.closeChannel s.primary) hsecond
    exact hsame'.trans (hfirst.trans hsame.symm)

lemma channel?_close_of_open (hs : r.session? k = some s) (hopen : s.isClosed = false)
    (reason : CloseReason) (ref : ChannelRef) :
    (r.close k reason).2.channel? ref = (r.letGo s).channel? ref := by
  simp only [close, hs, hopen, Bool.false_eq_true, if_false]
  -- the session is changed first, which the channels do not show
  have hmid : (r.modifySession k Session.ended).channel? ref = r.channel? ref := rfl
  exact channel?_letGo_congr hmid s

lemma shuts_close (hs : r.session? k = some s) (hopen : s.isClosed = false)
    (reason : CloseReason) : Shuts k s.core r (r.close k reason).2 := by
  have hcore : r.core k = some s.core := core_eq_some_iff.2 ⟨s, hs, rfl⟩
  rcases close_cases r k reason with ⟨-, hover⟩ | ⟨t, ht, -, hshuts⟩
  · exact absurd (hopen.symm.trans (hover s.core hcore)) Bool.false_ne_true
  · obtain rfl := Option.some.inj (hcore.symm.trans ht)
    exact hshuts

/-- Queueing a packet changes one session at most. -/
lemma enqueue_eq_or_modifySession (hr : r.Keyed) (k : SessionId) (p : Packet) :
    (r.enqueue k p).2 = r ∨ ∃ f, (r.enqueue k p).2 = r.modifySession k f := by
  unfold enqueue
  cases hs : r.session? k with
  | none => exact .inl rfl
  | some s =>
    have hkey : s.id = k := hr k s.core (core_eq_some_iff.2 ⟨s, hs, rfl⟩)
    dsimp only
    split_ifs
    · exact .inl rfl
    · exact .inr ⟨_, rfl⟩
    · unfold offer
      rw [hkey]
      split <;> exact .inr ⟨_, rfl⟩

end Registry

/-- Whether a session is put into a shard depends on the number of shards only. -/
lemma Tickets.count_shard_put_self {t t' : Tickets} {k : SessionId} {n : ℕ}
    (hcount : t'.count = t.count) (h : (t'.shard n).count k = (t.shard n).count k) :
    ((t'.put k).shard n).count k = ((t.put k).shard n).count k := by
  by_cases hpos : 0 < t.count
  · rw [shard_put hpos, shard_put (hcount ▸ hpos), shardOf_of_count_eq hcount]
    split_ifs
    · rw [List.count_append, List.count_append, h]
    · exact h
  · -- there are no shards at all
    have hnone (u : Tickets) (hu : u.count = 0) : u.shard n = [] := by
      have hshards : u.shards = #[] := Array.eq_empty_of_size_eq_zero hu
      rw [shard, hshards]
      rfl
    have hzero : t.count = 0 := Nat.eq_zero_of_not_pos hpos
    rw [hnone (t.put k) ((count_put t k).trans hzero),
      hnone (t'.put k) ((count_put t' k).trans (hcount.trans hzero))]

namespace Engine

open Registry (Fades Later)

variable {e e' e₁ e₂ e₃ : Engine} {setup : Setup} {own : ChannelRef → Prop}
  {j k : SessionId} {ids : List SessionId} {p : Packet} {s : Session}

/-! ## What concerns a session -/

/-- What concerns a session is the same in two engines: the session, its tickets, the given channels
and who is listed under their names, and where else the session is listed. -/
structure SameOf (own : ChannelRef → Prop) (k : SessionId) (e e' : Engine) : Prop where
  session : e.registry.session? k = e'.registry.session? k
  tickets : ∀ n, (e.tickets.shard n).count k = (e'.tickets.shard n).count k
  shards : e.tickets.count = e'.tickets.count
  names : ∀ ref, e.registry.channelId? ref = e'.registry.channelId? ref
  carries : e.registry.carries = e'.registry.carries
  channels : ∀ ref, own ref → e.registry.channel? ref = e'.registry.channel? ref
  live : k ∈ e.registry.live ↔ k ∈ e'.registry.live
  byPrimary : ∀ ref name, own ref → e.registry.channelId? ref = some name →
    e.registry.byPrimary.find? name = e'.registry.byPrimary.find? name
  bySecondary : ∀ ref name, own ref → e.registry.channelId? ref = some name →
    e.registry.bySecondary.find? name = e'.registry.bySecondary.find? name
  byPlayer : ∀ player, e.registry.byPlayer.find? player = some k
    ↔ e'.registry.byPlayer.find? player = some k
  notices : e.registry.notices.filter (·.1 = k) = e'.registry.notices.filter (·.1 = k)

namespace SameOf

lemma refl (own : ChannelRef → Prop) (k : SessionId) (e : Engine) : SameOf own k e e :=
  ⟨rfl, fun _ => rfl, rfl, fun _ => rfl, rfl, fun _ _ => rfl, Iff.rfl, fun _ _ _ _ => rfl,
    fun _ _ _ _ => rfl, fun _ => Iff.rfl, rfl⟩

lemma trans (h₁ : SameOf own k e₁ e₂) (h₂ : SameOf own k e₂ e₃) : SameOf own k e₁ e₃ where
  session := h₁.session.trans h₂.session
  tickets n := (h₁.tickets n).trans (h₂.tickets n)
  shards := h₁.shards.trans h₂.shards
  names ref := (h₁.names ref).trans (h₂.names ref)
  carries := h₁.carries.trans h₂.carries
  channels ref href := (h₁.channels ref href).trans (h₂.channels ref href)
  live := h₁.live.trans h₂.live
  byPrimary ref name href hname := (h₁.byPrimary ref name href hname).trans
    (h₂.byPrimary ref name href ((h₁.names ref).symm.trans hname))
  bySecondary ref name href hname := (h₁.bySecondary ref name href hname).trans
    (h₂.bySecondary ref name href ((h₁.names ref).symm.trans hname))
  byPlayer player := (h₁.byPlayer player).trans (h₂.byPlayer player)
  notices := h₁.notices.trans h₂.notices

/-- The counters of the writer concern nobody, and neither do the numbers of packets. -/
lemma of_eq (h : SameOf own k e e') (hregistry : e₁.registry = e.registry)
    (htickets : e₁.tickets = e.tickets) (hregistry' : e₂.registry = e'.registry)
    (htickets' : e₂.tickets = e'.tickets) : SameOf own k e₁ e₂ := by
  obtain ⟨hsession, hcount, hshards, hnames, hcarries, hchannels, hlive, hprimary, hsecondary,
    hplayer, hnotices⟩ := h
  constructor
  all_goals simp only [hregistry, htickets, hregistry', htickets']
  all_goals assumption

end SameOf

/-! ## What is done for another session -/

lemma sameOf_modifySession_of_ne (hne : k ≠ j) (own : ChannelRef → Prop) (e : Engine)
    (f : Session → Session) : SameOf own k (e.modifySession j f) e :=
  { SameOf.refl own k e with
    session := (Registry.session?_modifySession e.registry j k f).trans (if_neg hne) }

lemma sameOf_schedule_of_ne (hne : k ≠ j) (own : ChannelRef → Prop) (e : Engine) :
    SameOf own k (e.schedule j).2 e := by
  unfold schedule
  cases e.registry.session? j with
  | none => exact SameOf.refl own k e
  | some s =>
    dsimp only
    split_ifs
    · exact SameOf.refl own k e
    · exact
        { sameOf_modifySession_of_ne hne own e fun s => { s with ticket := true } with
          tickets := Tickets.count_shard_put_of_ne hne
          shards := Tickets.count_put e.tickets j }

lemma sameOf_close_of_ne (hne : k ≠ j)
    (hown : ∀ ref, own ref → ∀ ref' ∈ e.registry.channelsOf j,
      e.registry.channelId? ref' ≠ e.registry.channelId? ref)
    (reason : CloseReason) : SameOf own k (e.close j reason) e := by
  cases hs : e.registry.session? j with
  | none =>
    have hsame : (e.registry.close j reason).2 = e.registry :=
      Registry.close_of_closed (fun s hs' => absurd (hs.symm.trans hs') nofun) reason
    exact (SameOf.refl own k e).of_eq hsame rfl rfl rfl
  | some s =>
    cases hopen : s.isClosed with
    | true =>
      have hsame : (e.registry.close j reason).2 = e.registry :=
        Registry.close_of_closed (fun t ht => Option.some.inj (hs.symm.trans ht) ▸ hopen) reason
      exact (SameOf.refl own k e).of_eq hsame rfl rfl rfl
    | false =>
      have hcore : e.registry.core j = some s.core := Registry.core_eq_some_iff.2 ⟨s, hs, rfl⟩
      have hshuts := Registry.shuts_close hs hopen reason
      have hnotices := (Registry.notices_close hs hopen reason).1
      have hprimary : s.primary ∈ e.registry.channelsOf j :=
        Registry.mem_channelsOf.2 ⟨s.core, hcore, .inl rfl⟩
      exact
        { session := (Registry.session?_of_modify
            (Registry.sessions_close hs hopen reason) k).trans (if_neg hne)
          tickets := fun _ => rfl
          shards := rfl
          names := hshuts.fades.channelId?_eq
          carries := hshuts.fades.carries_eq
          channels := fun ref href => Registry.channel?_close j reason fun t ht hb =>
            hown ref href ref (Registry.mem_channelsOf.2 ⟨t, ht, hb⟩) rfl
          live := by
            show k ∈ (e.registry.close j reason).2.live ↔ _
            rw [hshuts.live, List.mem_filter]
            simp [hne]
          byPrimary := fun ref name href hname => by
            rw [close, hshuts.fades.channelId?_eq] at hname
            rw [close, hshuts.byPrimary, if_neg]
            exact fun heq => hown ref href s.primary hprimary (heq.trans hname.symm)
          bySecondary := fun ref name href hname => by
            rw [close, hshuts.fades.channelId?_eq] at hname
            rw [close, hshuts.bySecondary, if_neg]
            intro heq
            obtain ⟨ref', href', hname'⟩ := Option.bind_eq_some_iff.1 heq
            exact hown ref href ref' (Registry.mem_channelsOf.2 ⟨s.core, hcore, .inr href'⟩)
              (hname'.trans hname.symm)
          byPlayer := fun player => by
            rw [close, hshuts.byPlayer]
            split_ifs with hlost
            · -- it was listed for the session that is closed
              rw [hlost.2]
              simp [hne.symm]
            · rfl
          notices := by
            rw [close, hnotices, List.filter_append]
            simp [hne.symm] }

/-! ## What is done for the session itself -/

namespace SameOf

lemma modifySession (h : SameOf own k e e') (f : Session → Session) :
    SameOf own k (e.modifySession k f) (e'.modifySession k f) :=
  { h with
    session := by
      show (e.registry.modifySession k f).session? k = (e'.registry.modifySession k f).session? k
      rw [Registry.session?_modifySession, Registry.session?_modifySession, if_pos rfl, if_pos rfl,
        h.session] }

lemma schedule (h : SameOf own k e e') : SameOf own k (e.schedule k).2 (e'.schedule k).2 := by
  unfold Engine.schedule
  rw [h.session]
  cases e'.registry.session? k with
  | none => exact h
  | some s =>
    dsimp only
    split_ifs
    · exact h
    · exact
        { h.modifySession fun s => { s with ticket := true } with
          tickets := fun n => Tickets.count_shard_put_self h.shards (h.tickets n)
          shards := (Tickets.count_put e.tickets k).trans
            (h.shards.trans (Tickets.count_put e'.tickets k).symm) }

lemma close (h : SameOf own k e e') (reason : CloseReason) :
    SameOf own k (e.close k reason) (e'.close k reason) := by
  have hover (hover' : ∀ s, e'.registry.session? k = some s → s.isClosed = true) :
      SameOf own k (e.close k reason) (e'.close k reason) :=
    h.of_eq (Registry.close_of_closed (fun s hs => hover' s (h.session.symm.trans hs)) reason) rfl
      (Registry.close_of_closed hover' reason) rfl
  cases hs' : e'.registry.session? k with
  | none => exact hover fun s hs => absurd (hs'.symm.trans hs) nofun
  | some s =>
    cases hopen : s.isClosed with
    | true => exact hover fun t ht => Option.some.inj (hs'.symm.trans ht) ▸ hopen
    | false =>
      have hs := h.session.trans hs'
      have hshuts := Registry.shuts_close hs hopen reason
      have hshuts' := Registry.shuts_close hs' hopen reason
      have hnames : e.registry.channelId? = e'.registry.channelId? := funext h.names
      exact
        { session := by
            rw [Engine.close, Engine.close,
              Registry.session?_of_modify (Registry.sessions_close hs hopen reason),
              Registry.session?_of_modify (Registry.sessions_close hs' hopen reason), h.session]
          tickets := h.tickets
          shards := h.shards
          names := fun ref => (hshuts.fades.channelId?_eq ref).trans
            ((h.names ref).trans (hshuts'.fades.channelId?_eq ref).symm)
          carries := hshuts.fades.carries_eq.trans (h.carries.trans hshuts'.fades.carries_eq.symm)
          channels := fun ref href => by
            rw [Engine.close, Engine.close, Registry.channel?_close_of_open hs hopen,
              Registry.channel?_close_of_open hs' hopen]
            exact Registry.channel?_letGo_congr (h.channels ref href) s
          live := by
            rw [Engine.close, Engine.close, hshuts.live, hshuts'.live]
            simp
          byPrimary := fun ref name href hname => by
            rw [Engine.close, hshuts.fades.channelId?_eq] at hname
            rw [Engine.close, Engine.close, hshuts.byPrimary, hshuts'.byPrimary, hnames,
              h.byPrimary ref name href hname]
          bySecondary := fun ref name href hname => by
            rw [Engine.close, hshuts.fades.channelId?_eq] at hname
            rw [Engine.close, Engine.close, hshuts.bySecondary, hshuts'.bySecondary, hnames,
              h.bySecondary ref name href hname]
          byPlayer := fun player => by
            rw [Engine.close, Engine.close, hshuts.byPlayer, hshuts'.byPlayer]
            have hlisted := h.byPlayer player
            split_ifs with hlost hlost' hlost'
            · rfl
            · exact absurd ⟨hlost.1, hlisted.1 hlost.2⟩ hlost'
            · exact absurd ⟨hlost'.1, hlisted.2 hlost'.2⟩ hlost
            · exact hlisted
          notices := by
            rw [Engine.close, Engine.close, (Registry.notices_close hs hopen reason).1,
              (Registry.notices_close hs' hopen reason).1, List.filter_append, List.filter_append,
              h.notices] }

end SameOf

/-! ## Offering a packet -/

/-- What is done once a session has taken a packet or not. -/
def react (k : SessionId) : Except SessionError Admission → Engine → (ℕ × ℕ) × Engine
  | .ok .queued, e => ((1, 0), (e.schedule k).2)
  | .ok .droppedOldest, e => ((1, 1), (e.schedule k).2)
  | .error (.queueFull _), e => ((0, 1), e.close k .queueOverflow)
  | _, e => ((0, 1), e)

lemma offer_eq_react (e : Engine) (p : Packet) (k : SessionId) :
    e.offer p k
      = react k (e.registry.enqueue k p).1
          { e with registry := (e.registry.enqueue k p).2 } := by
  unfold offer
  rcases e.registry.enqueue k p with ⟨answer, registry⟩
  rcases answer with (_ | _ | _) | (_ | _ | _ | _) <;> rfl

/-- Offering a packet closes channels at most. -/
lemma fades_offer (e : Engine) (p : Packet) (k : SessionId) :
    Fades e.registry (e.offer p k).2.registry := by
  have henqueue : Fades e.registry (e.registry.enqueue k p).2 :=
    Fades.of_eq (Registry.channel?_enqueue e.registry k p)
  rcases offer_eq e p k with ⟨refused, -, hout⟩ | ⟨-, halike⟩
  · rw [hout]
    exact henqueue.trans (Registry.fades_close _ k .queueOverflow)
  · exact henqueue.trans (Fades.of_eq halike.channel)

/-- Offering a packet to a session does not show in what concerns another one. -/
lemma sameOf_offer_of_ne (hr : e.registry.Keyed) (hne : k ≠ j)
    (hown : ∀ ref, own ref → ∀ ref' ∈ e.registry.channelsOf j,
      e.registry.channelId? ref' ≠ e.registry.channelId? ref)
    (p : Packet) : SameOf own k (e.offer p j).2 e := by
  rw [offer_eq_react]
  set e₁ : Engine := { e with registry := (e.registry.enqueue j p).2 } with he₁
  have henqueue : SameOf own k e₁ e := by
    rcases Registry.enqueue_eq_or_modifySession hr j p with hsame | ⟨f, hmodify⟩
    · exact (SameOf.refl own k e).of_eq hsame rfl rfl rfl
    · exact (sameOf_modifySession_of_ne hne own e f).of_eq hmodify rfl rfl rfl
  have hown₁ (ref : ChannelRef) (href : own ref) (ref' : ChannelRef)
      (href' : ref' ∈ e₁.registry.channelsOf j) :
      e₁.registry.channelId? ref' ≠ e₁.registry.channelId? ref := by
    rw [henqueue.names, henqueue.names]
    exact hown ref href ref'
      (Registry.mem_channelsOf_of_later href' (Registry.touches_enqueue hr j p).later)
  rcases (e.registry.enqueue j p).1 with (_ | _ | _) | (_ | _ | _ | _)
  case error.queueFull => exact (sameOf_close_of_ne hne hown₁ .queueOverflow).trans henqueue
  case ok.queued | ok.droppedOldest => exact (sameOf_schedule_of_ne hne own e₁).trans henqueue
  all_goals exact henqueue

namespace SameOf

lemma enqueue (h : SameOf own k e e') (hr : e.registry.Keyed) (p : Packet) :
    (e.registry.enqueue k p).1 = (e'.registry.enqueue k p).1 ∧
      SameOf own k { e with registry := (e.registry.enqueue k p).2 }
        { e' with registry := (e'.registry.enqueue k p).2 } := by
  unfold Registry.enqueue
  rw [← h.session]
  cases hs : e.registry.session? k with
  | none => exact ⟨rfl, h⟩
  | some s =>
    have hkey : s.id = k := hr k s.core (Registry.core_eq_some_iff.2 ⟨s, hs, rfl⟩)
    have hbound : e.registry.channelFor s p.transport = e'.registry.channelFor s p.transport := by
      rw [Registry.channelFor, Registry.channelFor, h.carries]
    dsimp only
    rw [hbound]
    split_ifs
    · exact ⟨rfl, h⟩
    · exact ⟨rfl, h.modifySession _⟩
    · unfold Registry.offer
      rw [hkey]
      split <;> exact ⟨rfl, h.modifySession _⟩

/-- What becomes of a session that is offered a packet is determined by what concerns it. -/
lemma offer (h : SameOf own k e e') (hr : e.registry.Keyed) (p : Packet) :
    SameOf own k (e.offer p k).2 (e'.offer p k).2 := by
  obtain ⟨hanswer, hafter⟩ := h.enqueue hr p
  rw [offer_eq_react, offer_eq_react, hanswer]
  rcases (e'.registry.enqueue k p).1 with (_ | _ | _) | (_ | _ | _ | _)
  case error.queueFull => exact hafter.close .queueOverflow
  case ok.queued | ok.droppedOldest => exact hafter.schedule
  all_goals exact hafter

end SameOf

/-! ## Offering a packet to many sessions -/

/-- Whoever is not offered a packet stays as it was. -/
lemma sameOf_offerAll_of_notMem (hr : e.registry.Keyed) (hk : k ∉ ids)
    (hown : ∀ ref, own ref → e.registry.Clear ids k ref) (p : Packet) :
    SameOf own k (offerAll p ids e).2 e := by
  induction ids generalizing e with
  | nil => exact SameOf.refl own k e
  | cons j ids ih =>
    obtain ⟨hne, hrest⟩ : k ≠ j ∧ k ∉ ids := not_or.1 (mt List.mem_cons.2 hk)
    have hlater := later_offer hr p j
    have hfirst : SameOf own k (e.offer p j).2 e :=
      sameOf_offer_of_ne hr hne (fun ref href => hown ref href j List.mem_cons_self hne.symm) p
    have hothers := ih (hr.of_later hlater) hrest fun ref href =>
      ((hown ref href).of_later hlater hfirst.names).mono fun _ => List.mem_cons_of_mem j
    exact hothers.trans hfirst

lemma offerAll_append (p : Packet) (ids ids' : List SessionId) (e : Engine) :
    (offerAll p (ids ++ ids') e).2 = (offerAll p ids' (offerAll p ids e).2).2 := by
  induction ids generalizing e with
  | nil => rfl
  | cons j ids ih => exact ih (e.offer p j).2

/-- Whoever is offered a packet among others fares as it would alone. -/
lemma sameOf_offerAll (hr : e.registry.Keyed) (hnodup : ids.Nodup) (hk : k ∈ ids)
    (hown : ∀ ref, own ref → e.registry.Clear ids k ref) (p : Packet) :
    SameOf own k (offerAll p ids e).2 (e.offer p k).2 := by
  obtain ⟨before, after, rfl⟩ := List.append_of_mem hk
  obtain ⟨-, hafter, hapart⟩ := List.nodup_append.1 hnodup
  have hbefore : k ∉ before := fun hmem => hapart k hmem k List.mem_cons_self rfl
  -- the others come before the session and after it, and neither shows in what concerns it
  set e₁ := (offerAll p before e).2 with he₁
  have hlater : Later e.registry e₁.registry := later_offerAll p before hr
  have hr₁ : e₁.registry.Keyed := hr.of_later hlater
  have hothers : SameOf own k e₁ e :=
    sameOf_offerAll_of_notMem hr hbefore
      (fun ref href => (hown ref href).mono fun _ => List.mem_append_left _) p
  have hlater₁ : Later e.registry (e₁.offer p k).2.registry := hlater.trans (later_offer hr₁ p k)
  have hself : SameOf own k (e₁.offer p k).2 (e.offer p k).2 := hothers.offer hr₁ p
  have hrest : SameOf own k (offerAll p after (e₁.offer p k).2).2 (e₁.offer p k).2 := by
    have hnames (ref : ChannelRef) : (e₁.offer p k).2.registry.channelId? ref
        = e.registry.channelId? ref :=
      (hself.names ref).trans ((fades_offer e p k).channelId?_eq ref)
    refine sameOf_offerAll_of_notMem (hr.of_later hlater₁) (List.nodup_cons.1 hafter).1
      (fun ref href => ?_) p
    exact ((hown ref href).of_later hlater₁ hnames).mono fun _ hmem =>
      List.mem_append_right before (List.mem_cons_of_mem k hmem)
  rw [offerAll_append]
  exact hrest.trans hself

/-! ## Submitting a packet -/

/-- Submitting a packet that can be framed is offering it to its recipients and counting. -/
lemma exists_writer_submit {frame : Bytes} (hf : e.frame setup p = .ok frame) :
    ∃ writer, (e.submit setup p).2
      = { (offerAll (e.finished p frame) p.recipients
            { e with nextPacketId := e.nextPacketId + 1 }).2 with writer } := by
  unfold submit
  rw [hf]
  exact ⟨_, rfl⟩

/-- **Recipients fare as they would alone.**  A packet is submitted for different sessions that have
no channels in common, in whatever state they are.  Each of them becomes what it would have become
if the packet had been submitted for it alone: the session with its queue, its counters and its
ticket, the tickets in the shards, its channels, who is listed under their names, and whether it is
live, listed for a player and noticed to be closed.  Whoever is not a recipient stays as it was, and
so do the channels that no recipient writes to. -/
theorem recipients_fare_alone (setup : Setup) (queueCapacity shards : ℕ)
    (config : DispatcherConfig) (os : List Occurrence) (p : Packet) :
    let start := Engine.start queueCapacity shards config
    let e := start.undergo setup os
    let e' := (e.submit setup p).2
    p.recipients.Nodup →
    (∀ k ∈ p.recipients, ∀ ref ∈ e.registry.channelsOf k, e.registry.Clear p.recipients k ref) →
      (∀ k ∈ p.recipients, SameOf (· ∈ e.registry.channelsOf k) k e'
        (e.submit setup { p with recipients := [k] }).2) ∧
      ∀ k, k ∉ p.recipients → SameOf (e.registry.Clear p.recipients k) k e' e := by
  intro start e e' hnodup hdistinct
  have hr : e.registry.Keyed := keyed_undergo setup
  cases hf : e.frame setup p with
  | error err =>
    -- nobody is offered anything
    have hnone : e' = e := congrArg Prod.snd (submit_of_frame_error hf)
    have hnone' (k : SessionId) : (e.submit setup { p with recipients := [k] }).2 = e := by
      have halone : e.frame setup { p with recipients := [k] } = .error err := hf
      rw [submit_of_frame_error halone]
    refine ⟨fun k _ => ?_, fun k _ => hnone ▸ SameOf.refl _ k e'⟩
    rw [hnone, hnone']
    exact SameOf.refl _ k e
  | ok frame =>
    obtain ⟨writer, hsubmit⟩ := exists_writer_submit hf
    set e₁ : Engine := { e with nextPacketId := e.nextPacketId + 1 } with he₁
    refine ⟨fun k hk => ?_, fun k hk => ?_⟩
    · have halone : e.frame setup { p with recipients := [k] } = .ok frame := hf
      obtain ⟨writer', hsubmit'⟩ := exists_writer_submit halone
      have hsame : SameOf (· ∈ e.registry.channelsOf k) k
          (offerAll (e.finished p frame) p.recipients e₁).2
          (e₁.offer (e.finished p frame) k).2 :=
        sameOf_offerAll (e := e₁) hr hnodup hk (hdistinct k hk) (e.finished p frame)
      rw [← offerAll_singleton] at hsame
      exact hsame.of_eq (congrArg (·.registry) hsubmit) (congrArg (·.tickets) hsubmit)
        (congrArg (·.registry) hsubmit') (congrArg (·.tickets) hsubmit')
    · have hsame : SameOf (e.registry.Clear p.recipients k) k
          (offerAll (e.finished p frame) p.recipients e₁).2 e₁ :=
        sameOf_offerAll_of_notMem (e := e₁) hr hk (fun _ href => href) (e.finished p frame)
      exact hsame.of_eq (congrArg (·.registry) hsubmit) (congrArg (·.tickets) hsubmit) rfl rfl

/-- The first recipient is closed already, the second one is closed since its queue is full, the
third one has no channel for the packet, and a part of the first packet of the fourth one is
written.  A fifth session is not a recipient. -/
theorem recipients_fare_alone_in_four_states :
    let channel (id : UInt64) (transport : Transport) : Occurrence :=
      .channel (.memory { id := ⟨id⟩, transport, cap := some 2 })
    let packet (data : Bytes) (recipients : List SessionId) : Packet :=
      { data, transport := .stream, recipients }
    let setup : Setup := { codec := .plain }
    let os : List Occurrence := [channel 51 .stream, channel 52 .stream, channel 53 .textSocket,
      channel 54 .stream, channel 55 .stream, .operation (.registry (.create ⟨0⟩)),
      .operation (.registry (.create ⟨1⟩)), .operation (.registry (.create ⟨2⟩)),
      .operation (.registry (.create ⟨3⟩)), .operation (.registry (.create ⟨4⟩)),
      .operation (.registry (.close ⟨1⟩ .idle)), .operation (.submit (packet [1] [⟨2⟩, ⟨4⟩])),
      .operation (.submit (packet [2] [⟨2⟩])), .operation (.write ⟨4⟩)]
    let e := (Engine.start 2 2 {}).undergo setup os
    let p := packet [3] [⟨1⟩, ⟨2⟩, ⟨3⟩, ⟨4⟩]
    let e' := (e.submit setup p).2
    (p.recipients.map fun k => (e.registry.session? k).map fun s =>
        (s.isClosed, s.queue.length, s.queue.packets.head?.any (·.isFragmented)))
      = [some (true, 0, false), some (false, 2, false), some (false, 0, false),
        some (false, 1, true)] ∧
    (p.recipients.map fun k => (e'.registry.session? k).map fun s =>
        (s.isClosed, s.queue.length, s.stats.droppedPackets))
      = [some (true, 0, 0), some (true, 0, 3), some (false, 0, 1), some (false, 2, 0)] ∧
    (∀ k ∈ p.recipients, SameOf (· ∈ e.registry.channelsOf k) k e'
      (e.submit setup { p with recipients := [k] }).2) ∧
    SameOf (e.registry.Clear p.recipients ⟨5⟩) ⟨5⟩ e' e := by
  intro channel packet setup os e p e'
  obtain ⟨hrecipients, hothers⟩ := recipients_fare_alone setup 2 2 {} os p (by decide)
    (by decide +kernel)
  exact ⟨by decide +kernel, by decide +kernel, hrecipients, hothers ⟨5⟩ (by decide)⟩

end Engine

end SessionServer
