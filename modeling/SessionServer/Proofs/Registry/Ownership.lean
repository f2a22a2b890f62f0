/-
# Whose second channel it is

A session and the index of second channels are to say the same: a live session has a channel as its
second one if and only if it is found by the name of that channel.  What is found does have the
channel, whatever happens.  The other direction fails, since a channel can be *taken*: it may be
offered again with the token of another player, whose session then gets it and is listed for it,
while the session that had it is not told.  Two sessions have the channel now, and what is done to
one of them is done to the channel of the other.

Nothing else goes wrong.  With channels of different names, the sessions and the index agree in all
states of a run exactly if no deed of the run takes a channel from a live session, and as long as
none does, closing a session or giving it another channel leaves the second channels of the others
alone.

Main result: what is said above (`owned_iff_forall_not_takes`), and a run in which a channel is
taken and closed (`channel_closed_with_former_owner`).
-/
import SessionServer.Proofs.Registry.Indexes

namespace SessionServer

namespace Registry

variable {r r' : Registry} {resolve : Resolver} {j k : SessionId} {s : Session}
  {ref : ChannelRef} {name : ChannelId}

/-! ## Having a channel and being found by it -/

/-- The session is live and has the channel as its second one. -/
def Holds (r : Registry) (k : SessionId) (ref : ChannelRef) : Prop :=
  ∃ s, r.core k = some s ∧ s.isClosed = false ∧ s.secondary = some ref

/-- A live session has a channel of some name as its second one if and only if it is found by that
name. -/
def Owned (r : Registry) : Prop :=
  ∀ k name, (∃ s, r.Live k s ∧ s.secondary.bind r.channelId? = some name)
    ↔ r.lookupSecondary name = some k

/-- No two channels have one name. -/
def Distinct (r : Registry) : Prop :=
  ∀ ref ref' name, r.channelId? ref = some name → r.channelId? ref' = some name → ref = ref'

lemma Distinct.of_fades (h : r.Distinct) (hfades : Fades r r') : r'.Distinct := by
  intro ref ref' name
  rw [hfades.channelId?_eq, hfades.channelId?_eq]
  exact h ref ref' name

lemma distinct_ofChannels {queueCapacity : Nat} {channels : Array Channel}
    (h : (channels.toList.map Channel.id).Nodup) :
    (ofChannels queueCapacity channels).Distinct := by
  intro ref ref' name hname hname'
  have hget : ∀ ref : ChannelRef, (ofChannels queueCapacity channels).channelId? ref
      = (channels.toList.map Channel.id)[ref.index]? := by
    intro ref
    simp [channelId?, channel?, ofChannels]
  rw [hget] at hname hname'
  obtain ⟨hlt, hn⟩ := List.getElem?_eq_some_iff.1 hname
  obtain ⟨hlt', hn'⟩ := List.getElem?_eq_some_iff.1 hname'
  have hindex : ref.index = ref'.index := (List.Nodup.getElem_inj_iff h).1 (hn.trans hn'.symm)
  cases ref
  cases ref'
  simpa using hindex

/-- The names of all channels. -/
def names (r : Registry) : List ChannelId := r.channels.toList.map Channel.id

lemma distinct_of_nodup (h : r.names.Nodup) : r.Distinct := by
  have hdistinct : (ofChannels r.queueCapacity r.channels).Distinct := distinct_ofChannels h
  exact hdistinct

/-- Every live session is listed under the name of its second channel. -/
def Indexed (r : Registry) : Prop :=
  ∀ k ref name, r.Holds k ref → r.channelId? ref = some name → r.bySecondary.find? name = some k

/-- A channel is held by one session at most, if sessions are listed. -/
lemma Indexed.eq_of_holds (h : r.Indexed) (hname : r.channelId? ref = some name)
    (hj : r.Holds j ref) (hk : r.Holds k ref) : j = k :=
  Option.some.inj ((h j ref name hj hname).symm.trans (h k ref name hk hname))

lemma holds_of_live (hs : r.Live k s) (href : s.secondary = some ref) : r.Holds k ref :=
  ⟨s.core, core_eq_some_iff.2 ⟨s, hs.1, rfl⟩, hs.2.2, href⟩

lemma Indexed.lookupSecondary (h : r.Indexed) (hr : r.Consistent) (hk : r.Holds k ref)
    (hname : r.channelId? ref = some name) : r.lookupSecondary name = some k :=
  (hr.lookup_iff hr.toCoherent.bySecondary name).2 (h k ref name hk hname)

lemma owned_iff_indexed (hr : r.Consistent) : r.Owned ↔ r.Indexed := by
  constructor
  · rintro h k ref name ⟨s, hs, hopen, hsecondary⟩ hname
    obtain ⟨t, ht, rfl⟩ := exists_live hr.keyed hs hopen
    have hkey : t.secondary = some ref := hsecondary
    refine (hr.lookup_iff hr.toCoherent.bySecondary name).1 ((h k name).1 ⟨t, ht, ?_⟩)
    rwa [hkey]
  · intro h k name
    constructor
    · rintro ⟨s, hs, hname⟩
      obtain ⟨ref, href, hname⟩ := Option.bind_eq_some_iff.1 hname
      exact h.lookupSecondary hr (holds_of_live hs href) hname
    · exact hr.sound.lookupSecondary name k

/-! ## What deeds do -/

/-- The deed gives a session a channel that another live session has. -/
def takes (resolve : Resolver) (r : Registry) : Deed → Bool
  | .attach ref token =>
    (r.attach resolve ref token).1.session?.any fun k =>
      r.live.any fun j => j ≠ k && (r.session? j).any (·.secondary = some ref)
  | _ => false

lemma takes_attach_iff (hr : r.Consistent) {token : Bytes}
    (hk : (r.attach resolve ref token).1 = .success k) :
    r.takes resolve (.attach ref token) = true ↔ ∃ j, j ≠ k ∧ r.Holds j ref := by
  have hholds : ∀ j, (j ∈ r.live ∧ (r.session? j).any (·.secondary = some ref) = true)
      ↔ r.Holds j ref := by
    intro j
    rw [hr.mem_live_iff, fate, Holds, core]
    cases r.session? j with
    | none => simp
    | some s => simp [Session.core]
  simp only [takes, hk, AttachOutcome.session?, Option.any_some, List.any_eq_true, Bool.and_eq_true,
    decide_eq_true_eq]
  constructor
  · rintro ⟨j, hmem, hne, hsecondary⟩
    exact ⟨j, hne, (hholds j).1 ⟨hmem, hsecondary⟩⟩
  · rintro ⟨j, hne, hj⟩
    obtain ⟨hmem, hsecondary⟩ := (hholds j).2 hj
    exact ⟨j, hmem, hne, hsecondary⟩

lemma Holds.of_update {t : Session} (hs : r.core k = some s)
    (hcore : ∀ id, r'.core id = if id = k then some t else r.core id)
    (hclosed : t.isClosed = s.isClosed) (hsecondary : t.secondary = s.secondary)
    (h : r'.Holds j ref) : r.Holds j ref := by
  obtain ⟨u, hu, huopen, husecondary⟩ := h
  rw [hcore] at hu
  split_ifs at hu with hjk
  · obtain rfl := Option.some.inj hu
    exact ⟨s, hjk ▸ hs, hclosed ▸ huopen, hsecondary ▸ husecondary⟩
  · exact ⟨u, hu, huopen, husecondary⟩

lemma Joins.holds_iff (h : Joins k s ref name r r') (hopen : s.isClosed = false)
    (ref' : ChannelRef) :
    r'.Holds j ref' ↔ if j = k then ref' = ref else r.Holds j ref' := by
  rw [Holds, h.core]
  split_ifs
  · constructor
    · rintro ⟨t, ht, -, hsecondary⟩
      obtain rfl := Option.some.inj ht
      exact (Option.some.inj hsecondary).symm
    · rintro rfl
      exact ⟨_, rfl, hopen, rfl⟩
  · rfl

lemma Shuts.holds_iff (h : Shuts k s r r') (ref : ChannelRef) :
    r'.Holds j ref ↔ j ≠ k ∧ r.Holds j ref := by
  rw [Holds, h.core]
  split_ifs with hjk
  · simp [hjk, Session.shut, Session.isClosed]
  · simp [hjk, Holds]

namespace Indexed

lemma of_holds (h : r.Indexed) (hfades : Fades r r')
    (hholds : ∀ j ref, r'.Holds j ref → r.Holds j ref) (hindex : r'.bySecondary = r.bySecondary) :
    r'.Indexed := by
  intro j ref name hj hname
  rw [hindex]
  exact h j ref name (hholds j ref hj) (hfades.channelId?_eq ref ▸ hname)

/-- What is erased is the name of the channel that the session had, and no other session had it. -/
lemma of_joins (h : r.Indexed) (hdistinct : r.Distinct) (hs : r.core k = some s)
    (hopen : s.isClosed = false) (hname : r.channelId? ref = some name)
    (hjoins : Joins k s ref name r r') (hfree : ∀ j, j ≠ k → ¬ r.Holds j ref) : r'.Indexed := by
  intro j ref' other hj hother
  rw [hjoins.fades.channelId?_eq] at hother
  rw [hjoins.holds_iff hopen] at hj
  rw [hjoins.bySecondary]
  split_ifs at hj with hjk
  · obtain rfl := hj
    obtain rfl := Option.some.inj (hother.symm.trans hname)
    rw [if_pos rfl, hjk]
  · have hne : other ≠ name := by
      rintro rfl
      exact hfree j hjk (hdistinct ref' ref other hother hname ▸ hj)
    rw [if_neg hne, if_neg]
    · exact h j ref' other hj hother
    · intro hold
      obtain ⟨old, hsecondary, hold⟩ := Option.bind_eq_some_iff.1 hold
      obtain rfl := hdistinct old ref' other hold hother
      exact hjk (h.eq_of_holds hother hj ⟨s, hs, hopen, hsecondary⟩)

lemma of_shuts (h : r.Indexed) (hdistinct : r.Distinct) (hs : r.core k = some s)
    (hopen : s.isClosed = false) (hshuts : Shuts k s r r') : r'.Indexed := by
  intro j ref name hj hname
  rw [hshuts.fades.channelId?_eq] at hname
  obtain ⟨hjk, hj⟩ := (hshuts.holds_iff ref).1 hj
  rw [hshuts.bySecondary, if_neg]
  · exact h j ref name hj hname
  · intro hold
    obtain ⟨old, hsecondary, hold⟩ := Option.bind_eq_some_iff.1 hold
    obtain rfl := hdistinct old ref name hold hname
    exact hjk (h.eq_of_holds hname hj ⟨s, hs, hopen, hsecondary⟩)

/-- As long as no channel is taken, sessions stay listed. -/
lemma act (h : r.Indexed) (hr : r.Consistent) (hdistinct : r.Distinct) {d : Deed}
    (hnot : r.takes resolve d = false) :
    (r.act resolve d).Indexed := by
  have hfades : Fades r (r.act resolve d) := fades_act hr.keyed resolve d
  cases d with
  | create primary =>
    refine h.of_holds hfades (fun j ref hj => ?_) rfl
    obtain ⟨s, hs, hopen, hsecondary⟩ := hj
    rw [Registry.act, core_create] at hs
    split_ifs at hs
    · obtain rfl := Option.some.inj hs
      cases hsecondary
    · exact ⟨s, hs, hopen, hsecondary⟩
  | activate k =>
    refine h.of_holds hfades (fun j ref hj => ?_) (listed_activate r k).bySecondary
    rcases activate_cases r k with hsame | ⟨s, hs, hstate, hcore⟩
    · rwa [Registry.act, hsame] at hj
    · exact hj.of_update hs hcore (by simp [Session.isClosed, hstate]) rfl
  | bindPlayer k player =>
    rcases bindPlayer_cases r k player with hsame | ⟨s, hs, -, hmeets⟩
    · rwa [Registry.act, hsame]
    · exact h.of_holds hfades (fun j ref hj => hj.of_update hs hmeets.core rfl rfl)
        hmeets.bySecondary
  | attach ref token =>
    rcases attach_cases hr.keyed resolve ref token with
      ⟨-, hclose⟩ | ⟨k, s, name, hout, hs, hactive, hname, hjoins⟩
    · rw [Registry.act, hclose]
      exact h.of_holds (fades_closeChannel r ref) (fun _ _ hj => hj) rfl
    · refine h.of_joins hdistinct hs (Session.isClosed_of_isActive hactive) hname hjoins
        fun j hjk hj => ?_
      have htakes := (takes_attach_iff hr hout).2 ⟨j, hjk, hj⟩
      exact absurd (hnot.symm.trans htakes) Bool.false_ne_true
  | enqueue k p =>
    refine h.of_holds hfades (fun j ref hj => ?_) (listed_enqueue r k p).bySecondary
    rcases enqueue_cases hr.keyed k p with ⟨-, hsame⟩ | ⟨s, admission, queue, hs, -, -, -, -, hcore⟩
    · obtain ⟨s, hs, hrest⟩ := hj
      exact ⟨s, (hsame j).symm.trans hs, hrest⟩
    · exact hj.of_update hs hcore rfl rfl
  | close k reason =>
    rcases close_cases r k reason with ⟨hsame, -⟩ | ⟨s, hs, hopen, hshuts⟩
    · rwa [Registry.act, hsame]
    · exact h.of_shuts hdistinct hs hopen hshuts

/-- When a channel is taken, the session that had it keeps it and is listed no more. -/
lemma not_act (hr : r.Consistent) {d : Deed} (htakes : r.takes resolve d = true) :
    ¬ (r.act resolve d).Indexed := by
  intro h
  cases d with
  | attach ref token =>
    rcases attach_cases hr.keyed resolve ref token with
      ⟨hfailed, -⟩ | ⟨k, s, name, hout, hs, hactive, hname, hjoins⟩
    · have hnone : (r.attach resolve ref token).1.session? = none := by
        cases hout : (r.attach resolve ref token).1 with
        | success k => exact absurd hout (hfailed k)
        | _ => rfl
      rw [takes, hnone] at htakes
      cases htakes
    · obtain ⟨j, hjk, hj⟩ := (takes_attach_iff hr hout).1 htakes
      have hopen := Session.isClosed_of_isActive hactive
      have hname' := (hjoins.fades.channelId?_eq ref).trans hname
      exact hjk (h.eq_of_holds hname' ((hjoins.holds_iff hopen ref).2 (by rwa [if_neg hjk]))
        ((hjoins.holds_iff hopen ref).2 (by rw [if_pos rfl])))
  | _ => cases htakes

end Indexed

/-! ## Runs -/

/-- The deed closes the session or gives it a channel. -/
def Deed.On (resolve : Resolver) (r : Registry) (k : SessionId) : Deed → Prop
  | .close id _ => id = k
  | .attach ref token => (r.attach resolve ref token).1 = .success k
  | _ => False

lemma Consistent.act_of_on (hr : r.Consistent) {d : Deed} (hd : d.On resolve r k) :
    (r.act resolve d).Consistent := by
  have hcoherent : d.opens = false → (r.act resolve d).Coherent := fun hopens =>
    hr.toCoherent.act (fun primary heq => by simp [heq, Deed.opens] at hopens)
      fun hopens' => absurd (hopens.symm.trans hopens') Bool.false_ne_true
  cases d with
  | close id reason =>
    refine ⟨hcoherent rfl, fun j => ?_⟩
    rw [Registry.act, live_close, fate_close]
    have hj := hr.mem_live_iff j
    by_cases hjid : j = id
    · subst hjid
      cases hfate : r.fate j with
      | none => simp [hj, hfate]
      | some closed => cases closed <;> simp [hj, hfate]
    · rw [if_neg hjid, ← hj]
      split_ifs <;> simp [hjid]
  | attach ref token =>
    obtain ⟨hlive, -, hfate⟩ :=
      quiet_act (d := .attach ref token) hr.keyed resolve (by simp) (by simp)
    refine ⟨hcoherent rfl, fun j => ?_⟩
    rw [hlive, hfate]
    exact hr.mem_live_iff j
  | _ => cases hd

/-- A channel that another session has is neither closed nor forgotten. -/
lemma Indexed.spares (h : r.Indexed) (hr : r.Consistent) {d : Deed} (hd : d.On resolve r k)
    (hjk : j ≠ k) (hj : r.Holds j ref) (hname : r.channelId? ref = some name)
    (hprimary : ∀ s, r.core k = some s → s.isClosed = false → s.primary ≠ ref) :
    (r.act resolve d).Holds j ref ∧ (r.act resolve d).channel? ref = r.channel? ref := by
  have hunbound : ∀ s, r.core k = some s → s.isClosed = false → s.secondary ≠ some ref :=
    fun s hs hopen hsecondary => hjk (h.eq_of_holds hname hj ⟨s, hs, hopen, hsecondary⟩)
  cases d with
  | close id reason =>
    obtain rfl : id = k := hd
    rcases close_cases r id reason with ⟨hsame, -⟩ | ⟨s, hs, hopen, hshuts⟩
    · rw [Registry.act, hsame]
      exact ⟨hj, rfl⟩
    · refine ⟨(hshuts.holds_iff ref).2 ⟨hjk, hj⟩, channel?_close id reason fun t ht => ?_⟩
      obtain rfl := Option.some.inj (hs.symm.trans ht)
      exact not_or.2 ⟨hprimary s hs hopen, hunbound s hs hopen⟩
  | attach given token =>
    rcases attach_cases hr.keyed resolve given token with
      ⟨hfailed, -⟩ | ⟨id, s, other, hout, hs, hactive, -, hjoins⟩
    · exact absurd hd (hfailed k)
    · obtain rfl : id = k := by simpa using hout.symm.trans hd
      have hopen := Session.isClosed_of_isActive hactive
      refine ⟨(hjoins.holds_iff hopen ref).2 (by rwa [if_neg hjk]), ?_⟩
      rw [Registry.act, hjoins.channel?, if_neg fun hold => hunbound s hs hopen hold.1]
  | _ => cases hd

section Run

variable {queueCapacity : Nat} {channels : Array Channel} {deeds : List Deed}

lemma distinct_run (hnames : (channels.toList.map Channel.id).Nodup)
    (hchannels : ∀ primary, .create primary ∈ deeds → primary.index < channels.size)
    (hcount : deeds.countP Deed.opens < UInt64.size) :
    ((ofChannels queueCapacity channels).run resolve deeds).Distinct := by
  obtain ⟨-, hfades, -⟩ := chronicle_run resolve queueCapacity hchannels hcount
  exact (distinct_ofChannels hnames).of_fades hfades

lemma indexed_run (hnames : (channels.toList.map Channel.id).Nodup)
    (hchannels : ∀ primary, .create primary ∈ deeds → primary.index < channels.size)
    (hcount : deeds.countP Deed.opens < UInt64.size)
    (hnot : EachStep (act resolve) (fun r d => r.takes resolve d = false)
      (ofChannels queueCapacity channels) deeds) :
    ((ofChannels queueCapacity channels).run resolve deeds).Indexed := by
  induction deeds using List.reverseRecOn with
  | nil => exact nofun
  | append_singleton deeds d ih =>
    obtain ⟨hbefore, hlast⟩ := eachStep_concat.1 hnot
    have hchannels' : ∀ primary, Deed.create primary ∈ deeds → primary.index < channels.size :=
      fun primary hp => hchannels primary (List.mem_append_left _ hp)
    have hcount' : deeds.countP Deed.opens < UInt64.size :=
      Nat.lt_of_le_of_lt (List.Sublist.countP_le (List.sublist_append_left deeds [d])) hcount
    rw [run_concat]
    exact (ih hchannels' hcount' hbefore).act (consistent_run hchannels' hcount')
      (distinct_run hnames hchannels' hcount') hlast

end Run

/-- **Whose second channel it is.**  Let channels have different names, and let there be names for
all sessions.  Then in all states of a run a live session has a channel as its second one if and
only if it is found by the name of that channel, exactly if no deed of the run takes a channel from
a live session.  As long as none does, closing a session or giving it another channel neither
closes nor hides the second channel of another live session, except where that channel is also the
first one of the session that is closed. -/
theorem owned_iff_forall_not_takes (resolve : Resolver) (queueCapacity : Nat)
    (channels : Array Channel) (deeds : List Deed)
    (hnames : (channels.toList.map Channel.id).Nodup)
    (hchannels : ∀ primary, .create primary ∈ deeds → primary.index < channels.size)
    (hcount : deeds.countP Deed.opens < UInt64.size) :
    let start := ofChannels queueCapacity channels
    let r := start.run resolve deeds
    let quiet := EachStep (act resolve) (fun r d => r.takes resolve d = false) start deeds
    ((∀ before, before <+: deeds → (start.run resolve before).Owned) ↔ quiet) ∧
      (quiet → ∀ d j k s ref name, d.On resolve r k → r.takes resolve d = false → j ≠ k →
        r.Live j s → s.secondary = some ref → r.channelId? ref = some name →
        (∀ t, r.Live k t → t.primary ≠ ref) →
          (r.act resolve d).lookupSecondary name = some j ∧
            (r.act resolve d).channel? ref = r.channel? ref) := by
  intro start r quiet
  have hearly : ∀ before, before <+: deeds →
      (∀ primary, Deed.create primary ∈ before → primary.index < channels.size) ∧
        before.countP Deed.opens < UInt64.size :=
    fun before hb => ⟨fun primary hp => hchannels primary (hb.subset hp),
      Nat.lt_of_le_of_lt (List.Sublist.countP_le hb.sublist) hcount⟩
  refine ⟨⟨fun howned => ?_, fun hquiet before hb => ?_⟩, fun hquiet d j k s ref name hon hnot hjk
    hs href hname hprimary => ?_⟩
  · refine eachStep_of_forall fun before d hb => eq_false_of_ne_true fun htakes => ?_
    have hb' : before <+: deeds := (List.prefix_append before [d]).trans hb
    obtain ⟨hchannels', hcount'⟩ := hearly before hb'
    obtain ⟨hchannels'', hcount''⟩ := hearly _ hb
    have hafter := (owned_iff_indexed (consistent_run hchannels'' hcount'')).1 (howned _ hb)
    rw [run_concat] at hafter
    exact Indexed.not_act (consistent_run hchannels' hcount') htakes hafter
  · obtain ⟨hchannels', hcount'⟩ := hearly before hb
    obtain ⟨after, rfl⟩ := hb
    have hbefore := (eachStep_append.1 hquiet).1
    exact (owned_iff_indexed (consistent_run hchannels' hcount')).2
      (indexed_run hnames hchannels' hcount' hbefore)
  · have hr : r.Consistent := consistent_run hchannels hcount
    have hindexed : r.Indexed := indexed_run hnames hchannels hcount hquiet
    have hafter : (r.act resolve d).Indexed :=
      hindexed.act hr (distinct_run hnames hchannels hcount) hnot
    have hfree : ∀ t, r.core k = some t → t.isClosed = false → t.primary ≠ ref := by
      intro t ht htopen
      obtain ⟨u, hu, rfl⟩ := exists_live hr.keyed ht htopen
      exact hprimary u hu
    obtain ⟨hholds, hchannel⟩ :=
      hindexed.spares hr hon hjk (holds_of_live hs href) hname hfree
    have hname' : (r.act resolve d).channelId? ref = some name :=
      ((fades_act hr.keyed resolve d).channelId?_eq ref).trans hname
    exact ⟨hafter.lookupSecondary (hr.act_of_on hon) hholds hname', hchannel⟩

/-- Two players with a channel each.  When the session of the first one is closed, the other one
is found as before and keeps its channel. -/
theorem owned_of_two_players :
    let channel (id : UInt64) (transport : Transport) : Channel :=
      .memory { id := ⟨id⟩, transport }
    let resolve : Resolver := fun token => token.head?.map fun b => ⟨b.toUInt64⟩
    let start := ofChannels 4 #[channel 1 .stream, channel 2 .stream, channel 3 .datagram,
      channel 4 .datagram]
    let deeds : List Deed := [.create ⟨0⟩, .create ⟨1⟩, .activate ⟨1⟩, .activate ⟨2⟩,
      .bindPlayer ⟨1⟩ ⟨7⟩, .bindPlayer ⟨2⟩ ⟨8⟩, .attach ⟨2⟩ [7], .attach ⟨2⟩ [7], .attach ⟨3⟩ [8]]
    let r := start.run resolve deeds
    let r' := r.act resolve (.close ⟨1⟩ .idle)
    r.Owned ∧ r'.lookupSecondary ⟨4⟩ = some ⟨2⟩ ∧ r'.channel? ⟨3⟩ = r.channel? ⟨3⟩ := by
  intro channel resolve start deeds r r'
  obtain ⟨howned, hspares⟩ := owned_iff_forall_not_takes resolve 4 #[channel 1 .stream,
    channel 2 .stream, channel 3 .datagram, channel 4 .datagram] deeds (by decide)
    (by simp [deeds]) (by decide)
  have hquiet : EachStep (act resolve) (fun r d => r.takes resolve d = false) start deeds := by
    decide +kernel
  have hfirst : (r.session? ⟨1⟩).all (·.primary ≠ ⟨3⟩) = true := by decide +kernel
  have hsecond : (r.session? ⟨2⟩).any (fun s => s.id = ⟨2⟩ && !s.isClosed && s.secondary = some ⟨3⟩)
      = true := by decide +kernel
  obtain ⟨s, hs, hsays⟩ := Option.any_eq_true _ _ |>.1 hsecond
  simp only [Bool.and_eq_true, decide_eq_true_eq, Bool.not_eq_true'] at hsays
  obtain ⟨⟨hid, hopen⟩, hsecondary⟩ := hsays
  have hname : r.channelId? ⟨3⟩ = some ⟨4⟩ := by decide +kernel
  have hother : (⟨2⟩ : SessionId) ≠ ⟨1⟩ := by decide
  have hprimary : ∀ t, r.Live ⟨1⟩ t → t.primary ≠ ⟨3⟩ := by
    intro t ht
    rw [ht.1] at hfirst
    simpa using hfirst
  exact ⟨howned.2 hquiet deeds List.prefix_rfl,
    hspares hquiet (.close ⟨1⟩ .idle) ⟨2⟩ ⟨1⟩ s ⟨3⟩ ⟨4⟩ rfl rfl hother ⟨hs, hid, hopen⟩ hsecondary
      hname hprimary⟩

/-- A channel is given to one session and then to another one.  Both have it, and one of them is
found.  When the other one is closed, so is the channel, and nobody is found any more. -/
theorem channel_closed_with_former_owner :
    let channel (id : UInt64) (transport : Transport) : Channel :=
      .memory { id := ⟨id⟩, transport }
    let resolve : Resolver := fun token => token.head?.map fun b => ⟨b.toUInt64⟩
    let start := ofChannels 4 #[channel 1 .stream, channel 2 .stream, channel 9 .reliableUdp]
    let deeds : List Deed := [.create ⟨0⟩, .create ⟨1⟩, .activate ⟨1⟩, .activate ⟨2⟩,
      .bindPlayer ⟨1⟩ ⟨7⟩, .bindPlayer ⟨2⟩ ⟨8⟩, .attach ⟨2⟩ [7], .attach ⟨2⟩ [8]]
    let r := start.run resolve deeds
    let r' := r.act resolve (.close ⟨1⟩ .idle)
    (r.session? ⟨1⟩).bind (·.secondary) = some ⟨2⟩ ∧
      (r.session? ⟨2⟩).bind (·.secondary) = some ⟨2⟩ ∧
      r.live = [⟨1⟩, ⟨2⟩] ∧ r.lookupSecondary ⟨9⟩ = some ⟨2⟩ ∧ ¬ r.Owned ∧
      r'.live = [⟨2⟩] ∧ (r'.session? ⟨2⟩).bind (·.secondary) = some ⟨2⟩ ∧
      r'.lookupSecondary ⟨9⟩ = none ∧ (r'.channel? ⟨2⟩).map (·.isOpen) = some false := by
  intro channel resolve start deeds r r'
  have hfound : r.lookupSecondary ⟨9⟩ = some ⟨2⟩ := by decide +kernel
  refine ⟨by decide +kernel, by decide +kernel, by decide +kernel, hfound, fun howned => ?_,
    by decide +kernel, by decide +kernel, by decide +kernel, by decide +kernel⟩
  have hfirst : (r.session? ⟨1⟩).any (fun s =>
      s.id = ⟨1⟩ && !s.isClosed && s.secondary.bind r.channelId? = some ⟨9⟩) = true := by
    decide +kernel
  obtain ⟨s, hs, hsays⟩ := Option.any_eq_true _ _ |>.1 hfirst
  simp only [Bool.and_eq_true, decide_eq_true_eq, Bool.not_eq_true'] at hsays
  obtain ⟨⟨hid, hopen⟩, hname⟩ := hsays
  have hfirst : r.lookupSecondary ⟨9⟩ = some ⟨1⟩ :=
    (howned ⟨1⟩ ⟨9⟩).1 ⟨s, ⟨hs, hid, hopen⟩, hname⟩
  exact absurd (hfound.symm.trans hfirst) (by decide)

end Registry

end SessionServer
