/-
# What lookups find

The registry keeps a table of live sessions and three indexes, by the name of the first channel,
by the name of the second one and by the player.  Every deed keeps them in step with the sessions
on its own, and entries are lost on the way: a name that two sessions share is listed for one of
them only, and may be forgotten with either.  An entry that is there is never wrong.

The invariant is that an index *lists* a session only while the session is open, and only under the
key that the session has itself (`Lists`).  A deed changes one session, so what it has to answer for
is the entries that it makes, and those that the session had under another key (`Lists.update`).
Names of sessions are given out in order, which goes on until there are none left (`Chronicle`).

Main result: whatever is done to a registry, lookups find nothing but open sessions with the key
that was looked up, the table holds the sessions that were opened and not closed, no two sessions
ever have one name, and a closed session has no packets, no second channel and a closed first one
(`sound_run`).
-/
import Mathlib.Data.List.Induction
import Mathlib.Data.List.Nodup
import SessionServer.Proofs.Registry.Deeds

namespace SessionServer

namespace Registry

variable {r r' : Registry} {resolve : Resolver} {k : SessionId} {s t : Session}
  {opened ended : List SessionId} {n : ℕ}

/-! ## Indexes -/

section Lists

variable {κ : Type} [DecidableEq κ] {m m' : Index κ SessionId} {key : Session → Option κ}

/-- The index lists nothing but open sessions, under the keys that they have. -/
def Lists (r : Registry) (m : Index κ SessionId) (key : Session → Option κ) : Prop :=
  ∀ name k, m.find? name = some k →
    ∃ s, r.core k = some s ∧ s.isClosed = false ∧ key s = some name

/-- One session is changed.  Every entry is a right one for that session, or an old one but not one
that the session had. -/
lemma Lists.update (h : Lists r m key) (hcore : ∀ id, id ≠ k → r'.core id = r.core id)
    (hm : ∀ name j, m'.find? name = some j →
      (j = k ∧ ∃ t, r'.core k = some t ∧ t.isClosed = false ∧ key t = some name) ∨
        (m.find? name = some j ∧ (j = k → ∀ s, r.core k = some s → key s ≠ some name))) :
    Lists r' m' key := by
  intro name j hj
  rcases hm name j hj with ⟨rfl, hright⟩ | ⟨hold, hother⟩
  · exact hright
  · obtain ⟨s, hs, hopen, hkey⟩ := h name j hold
    have hjk : j ≠ k := fun heq => hother heq s (heq ▸ hs) hkey
    exact ⟨s, (hcore j hjk).trans hs, hopen, hkey⟩

/-- One session is changed, but neither closed nor given another key. -/
lemma Lists.keep (h : Lists r m key) (hs : r.core k = some s)
    (hcore : ∀ id, r'.core id = if id = k then some t else r.core id)
    (hopen : s.isClosed = false → t.isClosed = false) (hkey : key t = key s) :
    Lists r' m key := by
  intro name j hj
  obtain ⟨u, hu, huopen, hukey⟩ := h name j hj
  by_cases hjk : j = k
  · obtain rfl := Option.some.inj ((hjk ▸ hs).symm.trans hu)
    exact ⟨t, by rw [hcore, if_pos hjk], hopen huopen, hkey.trans hukey⟩
  · exact ⟨u, by rw [hcore, if_neg hjk]; exact hu, huopen, hukey⟩

end Lists

/-! ## Sessions and indexes -/

/-- The session has a first channel.  Once it is over, it has nothing else, and that one closed. -/
structure Sane (r : Registry) (s : Session) : Prop where
  exists_channel? : ∃ c, r.channel? s.primary = some c
  of_isClosed : s.isClosed = true → s.queue.packets = [] ∧ s.secondary = none ∧
    ∃ c, r.channel? s.primary = some c ∧ c.isOpen = false

lemma Sane.of_fades (h : r.Sane s) (hfades : Fades r r') : r'.Sane s where
  exists_channel? := by
    obtain ⟨c, hc⟩ := h.exists_channel?
    obtain ⟨f, -, heq⟩ := hfades s.primary
    exact ⟨f c, by rw [heq, hc]; rfl⟩
  of_isClosed := by
    intro hclosed
    obtain ⟨hqueue, hsecondary, c, hc, hcc⟩ := h.of_isClosed hclosed
    exact ⟨hqueue, hsecondary, hfades.channel?_of_closed hc hcc⟩

/-- A session that is open has only its first channel to show. -/
lemma Sane.of_open (h : r.Sane s) (hprimary : t.primary = s.primary) (ht : t.isClosed = false) :
    r.Sane t :=
  ⟨hprimary ▸ h.exists_channel?, fun hclosed => absurd (ht.symm.trans hclosed) nofun⟩

/-- The indexes are right about the sessions that they list, and so are the sessions about
themselves. -/
structure Coherent (r : Registry) : Prop where
  keyed : r.Keyed
  byPrimary : Lists r r.byPrimary fun s => r.channelId? s.primary
  bySecondary : Lists r r.bySecondary fun s => s.secondary.bind r.channelId?
  byPlayer : Lists r r.byPlayer Session.player
  sane : ∀ k s, r.core k = some s → r.Sane s

lemma coherent_ofChannels (queueCapacity : Nat) (channels : Array Channel) :
    (ofChannels queueCapacity channels).Coherent :=
  ⟨nofun, nofun, nofun, nofun, nofun⟩

namespace Coherent

lemma sane_update (hr : r.Coherent) (hfades : Fades r r')
    (hcore : ∀ id, r'.core id = if id = k then some t else r.core id) (ht : r'.Sane t)
    (id : SessionId) (s : Session) (hs : r'.core id = some s) : r'.Sane s := by
  rw [hcore] at hs
  split_ifs at hs
  · exact Option.some.inj hs ▸ ht
  · exact (hr.sane id s hs).of_fades hfades

/-- Nothing happens to the lists and to the cores of sessions. -/
lemma of_listed (hr : r.Coherent) (hlisted : Listed r r') (hfades : Fades r r')
    (hcore : ∀ id, r'.core id = r.core id) : r'.Coherent := by
  have hnames : r'.channelId? = r.channelId? := funext hfades.channelId?_eq
  have hcores : r'.core = r.core := funext hcore
  refine ⟨?_, ?_, ?_, ?_, fun id s hs => ?_⟩
  · exact fun id s hs => hr.keyed id s ((hcore id).symm.trans hs)
  · rw [hlisted.byPrimary, hnames]
    simpa only [Lists, hcores] using hr.byPrimary
  · rw [hlisted.bySecondary, hnames]
    simpa only [Lists, hcores] using hr.bySecondary
  · rw [hlisted.byPlayer]
    simpa only [Lists, hcores] using hr.byPlayer
  · exact (hr.sane id s ((hcore id).symm.trans hs)).of_fades hfades

/-- One session is changed that stays open and keeps its channels and its player. -/
lemma keep (hr : r.Coherent) (hlisted : Listed r r') (hfades : Fades r r')
    (hs : r.core k = some s) (hcore : ∀ id, r'.core id = if id = k then some t else r.core id)
    (hid : t.id = s.id) (hprimary : t.primary = s.primary) (hsecondary : t.secondary = s.secondary)
    (hplayer : t.player = s.player) (hopen : t.isClosed = false) : r'.Coherent := by
  have hnames : r'.channelId? = r.channelId? := funext hfades.channelId?_eq
  refine ⟨hr.keyed.update hs hcore hid, ?_, ?_, ?_, ?_⟩
  · rw [hlisted.byPrimary, hnames]
    exact hr.byPrimary.keep hs hcore (fun _ => hopen) (congrArg r.channelId? hprimary)
  · rw [hlisted.bySecondary, hnames]
    exact hr.bySecondary.keep hs hcore (fun _ => hopen) (congrArg (·.bind r.channelId?) hsecondary)
  · rw [hlisted.byPlayer]
    exact hr.byPlayer.keep hs hcore (fun _ => hopen) hplayer
  · exact hr.sane_update hfades hcore (((hr.sane k s hs).of_fades hfades).of_open hprimary hopen)

/-- The name of a new session has not been given to another one. -/
lemma create (hr : r.Coherent) {primary : ChannelRef} {c : Channel}
    (hc : r.channel? primary = some c) (hfresh : r.core ⟨r.nextId⟩ = none) :
    (r.create primary).2.Coherent := by
  have hcore := core_create r primary
  have hothers : ∀ id, id ≠ ⟨r.nextId⟩ → (r.create primary).2.core id = r.core id :=
    fun id hid => (hcore id).trans (if_neg hid)
  have hself : (r.create primary).2.core ⟨r.nextId⟩ = some (r.newSession primary) :=
    (hcore _).trans (if_pos rfl)
  have hkeep : ∀ {κ : Type} [DecidableEq κ] {m : Index κ SessionId} {key : Session → Option κ},
      Lists r m key → Lists (r.create primary).2 m key :=
    fun h => h.update hothers fun name j hj =>
      .inr ⟨hj, fun _ s hs => absurd (hs.symm.trans hfresh) (Option.some_ne_none s)⟩
  refine ⟨?_, hr.byPrimary.update hothers fun name j hj => ?_, hkeep hr.bySecondary,
    hkeep hr.byPlayer, ?_⟩
  · exact keyed_act hr.keyed (fun _ => none) (.create primary)
  · rw [find?_byPrimary_create] at hj
    split_ifs at hj with hname
    · exact .inl ⟨(Option.some.inj hj).symm, _, hself, rfl, hname⟩
    · exact .inr ⟨hj, fun _ s hs => absurd (hs.symm.trans hfresh) (Option.some_ne_none s)⟩
  · exact hr.sane_update (Fades.of_eq fun _ => rfl) hcore
      ⟨⟨c, hc⟩, fun hclosed => absurd hclosed Bool.false_ne_true⟩

lemma bindPlayer (hr : r.Coherent) (k : SessionId) (player : PlayerId) :
    (r.bindPlayer k player).2.Coherent := by
  rcases bindPlayer_cases r k player with hsame | ⟨s, hs, hopen, hmeets⟩
  · rwa [hsame]
  · have hfades : Fades r (r.bindPlayer k player).2 := Fades.of_eq hmeets.channel?
    have hnames := funext hfades.channelId?_eq
    refine ⟨hr.keyed.update hs hmeets.core rfl, ?_, ?_, ?_, ?_⟩
    · rw [hmeets.byPrimary, hnames]
      exact hr.byPrimary.keep hs hmeets.core id rfl
    · rw [hmeets.bySecondary, hnames]
      exact hr.bySecondary.keep hs hmeets.core id rfl
    · refine hr.byPlayer.update (fun id hid => (hmeets.core id).trans (if_neg hid))
        fun other j hj => ?_
      rw [hmeets.byPlayer] at hj
      split_ifs at hj with hother hgone
      · exact .inl ⟨(Option.some.inj hj).symm, _, (hmeets.core k).trans (if_pos rfl), hopen,
          congrArg some hother.symm⟩
      · refine .inr ⟨hj, fun hjk u hu hplayer => hgone ⟨?_, hjk ▸ hj⟩⟩
        obtain rfl := Option.some.inj (hs.symm.trans hu)
        exact hplayer
    · exact hr.sane_update hfades hmeets.core
        (((hr.sane k s hs).of_fades hfades).of_open rfl hopen)

lemma attach (hr : r.Coherent) (resolve : Resolver) (ref : ChannelRef) (token : Bytes) :
    (r.attach resolve ref token).2.Coherent := by
  rcases attach_cases hr.keyed resolve ref token with
    ⟨-, hclose⟩ | ⟨k, s, name, -, hs, hactive, hname, hjoins⟩
  · rw [hclose]
    exact hr.of_listed ⟨rfl, rfl, rfl, rfl, rfl⟩ (fades_closeChannel r ref) fun _ => rfl
  · have hopen := Session.isClosed_of_isActive hactive
    have hnames := funext hjoins.fades.channelId?_eq
    refine ⟨hr.keyed.update hs hjoins.core rfl, ?_, ?_, ?_, ?_⟩
    · rw [hjoins.byPrimary, hnames]
      exact hr.byPrimary.keep hs hjoins.core id rfl
    · rw [hnames]
      refine hr.bySecondary.update (fun id hid => (hjoins.core id).trans (if_neg hid))
        fun other j hj => ?_
      rw [hjoins.bySecondary] at hj
      split_ifs at hj with hother hgone
      · exact .inl ⟨(Option.some.inj hj).symm, _, (hjoins.core k).trans (if_pos rfl), hopen,
          hname.trans (congrArg some hother.symm)⟩
      · refine .inr ⟨hj, fun _ u hu hsecondary => hgone ?_⟩
        obtain rfl := Option.some.inj (hs.symm.trans hu)
        exact hsecondary
    · rw [hjoins.byPlayer]
      exact hr.byPlayer.keep hs hjoins.core id rfl
    · exact hr.sane_update hjoins.fades hjoins.core
        (((hr.sane k s hs).of_fades hjoins.fades).of_open rfl hopen)

lemma close (hr : r.Coherent) (k : SessionId) (reason : CloseReason) :
    (r.close k reason).2.Coherent := by
  rcases close_cases r k reason with ⟨hsame, -⟩ | ⟨s, hs, hopen, hshuts⟩
  · rwa [hsame]
  · have hnames := funext hshuts.fades.channelId?_eq
    have hothers : ∀ id, id ≠ k → (r.close k reason).2.core id = r.core id :=
      fun id hid => (hshuts.core id).trans (if_neg hid)
    have hself : ∀ u, r.core k = some u → u = s :=
      fun u hu => (Option.some.inj (hs.symm.trans hu)).symm
    refine ⟨hr.keyed.update hs hshuts.core rfl, ?_, ?_, ?_, ?_⟩
    · rw [hnames]
      refine hr.byPrimary.update hothers fun name j hj => ?_
      rw [hshuts.byPrimary] at hj
      split_ifs at hj with hgone
      exact .inr ⟨hj, fun _ u hu hprimary => hgone (hself u hu ▸ hprimary)⟩
    · rw [hnames]
      refine hr.bySecondary.update hothers fun name j hj => ?_
      rw [hshuts.bySecondary] at hj
      split_ifs at hj with hgone
      exact .inr ⟨hj, fun _ u hu hsecondary => hgone (hself u hu ▸ hsecondary)⟩
    · refine hr.byPlayer.update hothers fun player j hj => ?_
      rw [hshuts.byPlayer] at hj
      split_ifs at hj with hgone
      exact .inr ⟨hj, fun hjk u hu hplayer => hgone ⟨hself u hu ▸ hplayer, hjk ▸ hj⟩⟩
    · obtain ⟨c, hc⟩ := ((hr.sane k s hs).of_fades hshuts.fades).exists_channel?
      exact hr.sane_update hshuts.fades hshuts.core
        ⟨⟨c, hc⟩, fun _ => ⟨rfl, rfl, c, hc, hshuts.closed s.primary c (.inl rfl) hc⟩⟩

lemma activate (hr : r.Coherent) (k : SessionId) : (r.activate k).2.Coherent := by
  rcases activate_cases r k with hsame | ⟨s, hs, -, hcore⟩
  · rwa [hsame]
  · exact hr.keep (listed_activate r k) (Fades.of_eq (channel?_activate r k)) hs hcore rfl rfl rfl
      rfl rfl

lemma enqueue (hr : r.Coherent) (k : SessionId) (p : Packet) : (r.enqueue k p).2.Coherent := by
  have hlisted := listed_enqueue r k p
  have hfades : Fades r (r.enqueue k p).2 := Fades.of_eq (channel?_enqueue r k p)
  rcases enqueue_cases hr.keyed k p with
    ⟨-, hsame⟩ | ⟨s, admission, queue, hs, hopen, -, -, -, hcore⟩
  · exact hr.of_listed hlisted hfades hsame
  · exact hr.keep hlisted hfades hs hcore rfl rfl rfl rfl hopen

/-- A session may be opened on a channel that there is and under a name that nobody has. -/
lemma act (hr : r.Coherent) {d : Deed}
    (hchannel : ∀ primary, d = .create primary → ∃ c, r.channel? primary = some c)
    (hfresh : d.opens = true → r.core ⟨r.nextId⟩ = none) : (r.act resolve d).Coherent := by
  cases d with
  | create primary =>
    obtain ⟨c, hc⟩ := hchannel primary rfl
    exact hr.create hc (hfresh rfl)
  | activate k => exact hr.activate k
  | bindPlayer k player => exact hr.bindPlayer k player
  | attach ref token => exact hr.attach resolve ref token
  | enqueue k p => exact hr.enqueue k p
  | close k reason => exact hr.close k reason

end Coherent

/-! ## Names -/

/-- Whether a session is over, if there is one of that name. -/
def fate (r : Registry) (k : SessionId) : Option Bool := (r.core k).map Session.isClosed

lemma fate_update (hs : r.core k = some s)
    (hcore : ∀ id, r'.core id = if id = k then some t else r.core id)
    (ht : t.isClosed = s.isClosed) (id : SessionId) : r'.fate id = r.fate id := by
  rw [fate, hcore]
  split_ifs with hid
  · simp [fate, hid, hs, ht]
  · rfl

lemma fate_create (r : Registry) (primary : ChannelRef) (id : SessionId) :
    (r.create primary).2.fate id = if id = ⟨r.nextId⟩ then some false else r.fate id := by
  rw [fate, core_create]
  split_ifs <;> rfl

lemma fate_close (r : Registry) (k : SessionId) (reason : CloseReason) (id : SessionId) :
    (r.close k reason).2.fate id
      = if id = k then (r.fate id).map fun _ => true else r.fate id := by
  rw [fate, core_close]
  split_ifs
  · rw [fate, Option.map_map, Option.map_map]
    refine congrArg (Option.map · _) (funext fun s => ?_)
    simp only [Function.comp_apply]
    split_ifs with hc
    · exact hc
    · rfl
  · rfl

lemma live_close (r : Registry) (k : SessionId) (reason : CloseReason) :
    (r.close k reason).2.live
      = if r.fate k = some false then r.live.filter (· ≠ k) else r.live := by
  rcases close_cases r k reason with ⟨hsame, hover⟩ | ⟨s, hs, hopen, hshuts⟩
  · have hfate : r.fate k ≠ some false := by
      intro hk
      obtain ⟨s, hs, hopen⟩ := Option.map_eq_some_iff.1 hk
      exact absurd ((hover s hs).symm.trans hopen) nofun
    rw [hsame, if_neg hfate]
  · rw [hshuts.live, if_pos]
    simp [fate, hs, hopen]

/-- Opening and closing aside, deeds leave the table of live sessions as it is. -/
lemma quiet_act (hr : r.Keyed) (resolve : Resolver) {d : Deed}
    (hopens : ∀ primary, d ≠ .create primary) (hcloses : ∀ k reason, d ≠ .close k reason) :
    (r.act resolve d).live = r.live ∧ (r.act resolve d).nextId = r.nextId ∧
      ∀ id, (r.act resolve d).fate id = r.fate id := by
  cases d with
  | create primary => exact absurd rfl (hopens primary)
  | close k reason => exact absurd rfl (hcloses k reason)
  | activate k =>
    have hlisted := listed_activate r k
    refine ⟨hlisted.live, hlisted.nextId, ?_⟩
    rcases activate_cases r k with hsame | ⟨s, hs, hfresh, hcore⟩
    · rw [act, hsame]
      exact fun _ => rfl
    · exact fate_update hs hcore (by simp [Session.isClosed, hfresh])
  | bindPlayer k player =>
    rcases bindPlayer_cases r k player with hsame | ⟨s, hs, -, hmeets⟩
    · rw [act, hsame]
      exact ⟨rfl, rfl, fun _ => rfl⟩
    · exact ⟨hmeets.live, hmeets.nextId, fate_update hs hmeets.core rfl⟩
  | attach ref token =>
    rcases attach_cases hr resolve ref token with ⟨-, hclose⟩ | ⟨k, s, name, -, hs, -, -, hjoins⟩
    · rw [act, hclose]
      exact ⟨rfl, rfl, fun _ => rfl⟩
    · exact ⟨hjoins.live, hjoins.nextId, fate_update hs hjoins.core rfl⟩
  | enqueue k p =>
    have hlisted := listed_enqueue r k p
    refine ⟨hlisted.live, hlisted.nextId, ?_⟩
    rcases enqueue_cases hr k p with ⟨-, hsame⟩ | ⟨s, admission, queue, hs, -, -, -, -, hcore⟩
    · exact fun id => congrArg (Option.map _) (hsame id)
    · exact fate_update hs hcore rfl

/-- Sessions have had no names but the first `n`, and the next one is the one after them. -/
structure Numbered (r : Registry) (n : ℕ) : Prop where
  nextId : r.nextId.toNat = (n + 1) % UInt64.size
  toNat_le : ∀ k, (r.fate k).isSome = true → k.val.toNat ≤ n

namespace Numbered

/-- As long as there are names left, the next one is a new one. -/
lemma fresh (h : r.Numbered n) (hlt : n + 1 < UInt64.size) : r.core ⟨r.nextId⟩ = none := by
  by_contra hsome
  obtain ⟨s, hs⟩ := Option.ne_none_iff_exists'.1 hsome
  have hle : r.nextId.toNat ≤ n := h.toNat_le ⟨r.nextId⟩ (by simp [fate, hs])
  rw [h.nextId, Nat.mod_eq_of_lt hlt] at hle
  omega

lemma of_later (h : r.Numbered n) (hlater : Later r r') (hnext : r'.nextId = r.nextId) :
    r'.Numbered n := by
  refine ⟨hnext ▸ h.nextId, fun k hk => h.toNat_le k ?_⟩
  rw [fate, Option.isSome_map] at hk ⊢
  obtain ⟨s', hs'⟩ := Option.isSome_iff_exists.1 hk
  obtain ⟨s, hs, -⟩ := hlater k s' hs'
  exact Option.isSome_iff_exists.2 ⟨s, hs⟩

lemma create (h : r.Numbered n) (hlt : n + 1 < UInt64.size) (primary : ChannelRef) :
    (r.create primary).2.Numbered (n + 1) := by
  have hnext : r.nextId.toNat = n + 1 := by rw [h.nextId, Nat.mod_eq_of_lt hlt]
  refine ⟨?_, fun k hk => ?_⟩
  · change (r.nextId + 1).toNat = _
    simp [hnext, UInt64.toNat_add]
  · rw [fate_create] at hk
    split_ifs at hk with hself
    · exact hself ▸ Nat.le_of_eq hnext
    · exact Nat.le_succ_of_le (h.toNat_le k hk)

lemma close (h : r.Numbered n) (k : SessionId) (reason : CloseReason) :
    (r.close k reason).2.Numbered n :=
  h.of_later (touches_close r k reason).later (nextId_close r k reason)

/-- Opening and closing aside, deeds neither give out names nor take them back. -/
lemma quiet (h : r.Numbered n) (hr : r.Keyed) (resolve : Resolver) {d : Deed}
    (hopens : ∀ primary, d ≠ .create primary) (hcloses : ∀ k reason, d ≠ .close k reason) :
    (r.act resolve d).Numbered n := by
  obtain ⟨-, hnext, hfate⟩ := quiet_act hr resolve hopens hcloses
  exact ⟨hnext ▸ h.nextId, fun k hk => h.toNat_le k (hfate k ▸ hk)⟩

lemma act (h : r.Numbered n) (hr : r.Keyed) (resolve : Resolver) (d : Deed)
    (hlt : d.opens = true → n + 1 < UInt64.size) :
    (r.act resolve d).Numbered (n + [d].countP Deed.opens) := by
  cases d with
  | create primary => exact h.create (hlt rfl) primary
  | close k reason => exact h.close k reason
  | _ => exact h.quiet hr resolve nofun nofun

end Numbered

/-- The session that a deed opens. -/
def Deed.opening (r : Registry) : Deed → List SessionId
  | .create _ => [⟨r.nextId⟩]
  | _ => []

/-- The session that a deed closes, if there is one of that name. -/
def Deed.ending (r : Registry) : Deed → List SessionId
  | .close k _ => if (r.session? k).isSome then [k] else []
  | _ => []

/-- The table of sessions is right about those that were opened and those that were closed, and the
names that were given out are the first ones. -/
structure Chronicle (r : Registry) (opened ended : List SessionId) : Prop
    extends r.Numbered opened.length where
  mem_opened : ∀ k, k ∈ opened ↔ (r.fate k).isSome = true
  mem_ended : ∀ k, k ∈ ended ↔ r.fate k = some true
  live : r.live = opened.filter (· ∉ ended)
  nodup : opened.Nodup

namespace Chronicle

lemma mem_opened_of_mem_ended (h : r.Chronicle opened ended) (hk : k ∈ ended) : k ∈ opened := by
  rw [h.mem_opened, (h.mem_ended k).1 hk]
  rfl

lemma mem_live_iff (h : r.Chronicle opened ended) : k ∈ r.live ↔ r.fate k = some false := by
  rw [h.live, List.mem_filter, decide_eq_true_iff, h.mem_opened, h.mem_ended]
  cases r.fate k with
  | none => simp
  | some closed => cases closed <;> simp

lemma create (h : r.Chronicle opened ended) (hlt : opened.length + 1 < UInt64.size)
    (primary : ChannelRef) : (r.create primary).2.Chronicle (opened ++ [⟨r.nextId⟩]) ended := by
  have hfresh : (⟨r.nextId⟩ : SessionId) ∉ opened := by
    rw [h.mem_opened, fate, h.fresh hlt]
    exact Bool.false_ne_true
  have hnot : (⟨r.nextId⟩ : SessionId) ∉ ended :=
    fun hmem => hfresh (h.mem_opened_of_mem_ended hmem)
  refine ⟨?_, fun k => ?_, fun k => ?_, ?_, ?_⟩
  · rw [List.length_append, List.length_singleton]
    exact h.toNumbered.create hlt primary
  · rw [List.mem_append, List.mem_singleton, h.mem_opened, fate_create]
    split_ifs with hk <;> simp [hk]
  · rw [fate_create]
    split_ifs with hk
    · simp [hk, hnot]
    · exact h.mem_ended k
  · change r.live ++ [_] = _
    rw [List.filter_append, ← h.live]
    simp [hnot]
  · refine List.nodup_append.2 ⟨h.nodup, List.nodup_singleton _, fun a ha b hb hab => ?_⟩
    exact hfresh (List.mem_singleton.1 hb ▸ hab ▸ ha)

lemma close (h : r.Chronicle opened ended) (k : SessionId) (reason : CloseReason) :
    (r.close k reason).2.Chronicle opened (ended ++ (Deed.close k reason).ending r) := by
  have hending : (Deed.close k reason).ending r = if (r.fate k).isSome then [k] else [] := by
    simp [Deed.ending, fate, core]
  rw [hending]
  refine ⟨h.toNumbered.close k reason, fun j => ?_, fun j => ?_, ?_, h.nodup⟩
  · rw [h.mem_opened, fate_close]
    split_ifs <;> simp
  · rw [List.mem_append, h.mem_ended, fate_close]
    by_cases hjk : j = k
    · subst hjk
      cases r.fate j <;> simp
    · split_ifs <;> simp [hjk]
  · rw [live_close, h.live]
    cases hfate : r.fate k with
    | none => simp
    | some closed =>
      cases closed with
      | false =>
        rw [if_pos rfl, List.filter_filter]
        refine List.filter_congr fun j _ => ?_
        simp [not_or, Bool.and_comm]
      | true =>
        -- the closing of the session was noted before
        have hmem : k ∈ ended := (h.mem_ended k).2 hfate
        rw [if_neg (by simp)]
        refine List.filter_congr fun j _ => ?_
        by_cases hjk : j = k
        · simp [hjk, hmem]
        · simp [hjk]

lemma act (h : r.Chronicle opened ended) (hr : r.Keyed) {d : Deed}
    (hlt : d.opens = true → opened.length + 1 < UInt64.size) :
    (r.act resolve d).Chronicle (opened ++ d.opening r) (ended ++ d.ending r) := by
  have hquiet : (∀ primary, d ≠ .create primary) → (∀ k reason, d ≠ .close k reason) →
      (r.act resolve d).Chronicle opened ended := by
    intro hopens hcloses
    obtain ⟨hlive, -, hfate⟩ := quiet_act hr resolve hopens hcloses
    exact ⟨h.toNumbered.quiet hr resolve hopens hcloses, fun k => hfate k ▸ h.mem_opened k,
      fun k => hfate k ▸ h.mem_ended k, hlive.trans h.live, h.nodup⟩
  cases d with
  | create primary =>
    simp only [Deed.ending, List.append_nil]
    exact h.create (hlt rfl) primary
  | close k reason =>
    simp only [Deed.opening, List.append_nil]
    exact h.close k reason
  | _ =>
    simp only [Deed.opening, Deed.ending, List.append_nil]
    exact hquiet nofun nofun

end Chronicle

/-! ## Runs -/

/-- The sessions that are opened in a run. -/
def openings (resolve : Resolver) (r : Registry) (deeds : List Deed) : List SessionId :=
  gather (act resolve) (fun r d => d.opening r) r deeds

/-- The sessions that are closed in a run. -/
def endings (resolve : Resolver) (r : Registry) (deeds : List Deed) : List SessionId :=
  gather (act resolve) (fun r d => d.ending r) r deeds

lemma openings_concat (resolve : Resolver) (r : Registry) (deeds : List Deed) (d : Deed) :
    r.openings resolve (deeds ++ [d])
      = r.openings resolve deeds ++ d.opening (r.run resolve deeds) :=
  gather_concat ..

lemma endings_concat (resolve : Resolver) (r : Registry) (deeds : List Deed) (d : Deed) :
    r.endings resolve (deeds ++ [d])
      = r.endings resolve deeds ++ d.ending (r.run resolve deeds) :=
  gather_concat ..

lemma length_openings (resolve : Resolver) (r : Registry) (deeds : List Deed) :
    (r.openings resolve deeds).length = deeds.countP Deed.opens := by
  induction deeds using List.reverseRecOn with
  | nil => rfl
  | append_singleton deeds d ih =>
    rw [openings_concat, List.length_append, ih, List.countP_append]
    cases d <;> rfl

/-- Nothing is wrong in a registry that was reached from one without sessions. -/
lemma chronicle_run (resolve : Resolver) (queueCapacity : Nat) {channels : Array Channel}
    {deeds : List Deed}
    (hchannels : ∀ primary, .create primary ∈ deeds → primary.index < channels.size)
    (hcount : deeds.countP Deed.opens < UInt64.size) :
    let start := ofChannels queueCapacity channels
    let r := start.run resolve deeds
    r.Coherent ∧ Fades start r ∧
      r.Chronicle (start.openings resolve deeds) (start.endings resolve deeds) := by
  intro start
  induction deeds using List.reverseRecOn with
  | nil =>
    refine ⟨coherent_ofChannels queueCapacity channels, Fades.of_eq fun _ => rfl, ?_⟩
    exact ⟨⟨rfl, nofun⟩, fun _ => ⟨nofun, nofun⟩, fun _ => ⟨nofun, nofun⟩, rfl, List.nodup_nil⟩
  | append_singleton deeds d ih =>
    have hlength := start.length_openings resolve deeds
    have hsum : deeds.countP Deed.opens + [d].countP Deed.opens < UInt64.size := by
      rwa [← List.countP_append]
    obtain ⟨hcoherent, hfades, hchronicle⟩ :=
      ih (fun primary hp => hchannels primary (List.mem_append_left _ hp)) (by omega)
    have hroom : d.opens = true → (start.openings resolve deeds).length + 1 < UInt64.size := by
      intro hopens
      simp only [List.countP_singleton, hopens, if_true] at hsum
      omega
    intro r
    rw [openings_concat, endings_concat]
    simp only [r, run_concat]
    refine ⟨hcoherent.act ?_ ?_, hfades.trans (fades_act hcoherent.keyed resolve d),
      hchronicle.act hcoherent.keyed hroom⟩
    · rintro primary rfl
      have hlt := hchannels primary (List.mem_append_right _ (List.mem_singleton_self _))
      obtain ⟨f, -, heq⟩ := hfades primary
      have hc : start.channel? primary = some channels[primary.index] :=
        Array.getElem?_eq_getElem hlt
      exact ⟨_, by rw [heq, hc]; rfl⟩
    · exact fun hopens => hchronicle.fresh (hroom hopens)

/-- The indexes are right, and the table holds the sessions that are open. -/
structure Consistent (r : Registry) : Prop extends r.Coherent where
  mem_live_iff : ∀ k, k ∈ r.live ↔ r.fate k = some false

lemma consistent_run {queueCapacity : Nat} {channels : Array Channel} {deeds : List Deed}
    (hchannels : ∀ primary, .create primary ∈ deeds → primary.index < channels.size)
    (hcount : deeds.countP Deed.opens < UInt64.size) :
    ((ofChannels queueCapacity channels).run resolve deeds).Consistent := by
  obtain ⟨hcoherent, -, hchronicle⟩ :=
    chronicle_run resolve queueCapacity hchannels hcount
  exact ⟨hcoherent, fun k => hchronicle.mem_live_iff⟩

/-- The session of this name, as long as it is open. -/
def Live (r : Registry) (k : SessionId) (s : Session) : Prop :=
  r.session? k = some s ∧ s.id = k ∧ s.isClosed = false

/-- What lookups find is open and has the key that was looked up, what the indexes hold can be
found, and of a session that is over nothing is left. -/
structure Sound (r : Registry) : Prop where
  get? : ∀ k found, r.get? k = some found → found = k ∧ ∃ s, r.Live k s
  lookupPrimary : ∀ name k, r.lookupPrimary name = some k →
    ∃ s, r.Live k s ∧ r.channelId? s.primary = some name
  lookupSecondary : ∀ name k, r.lookupSecondary name = some k →
    ∃ s, r.Live k s ∧ s.secondary.bind r.channelId? = some name
  sessionOf : ∀ player k, r.sessionOf player = some k → ∃ s, r.Live k s ∧ s.player = some player
  byPrimary : ∀ name k, r.byPrimary.find? name = some k → r.lookupPrimary name = some k
  bySecondary : ∀ name k, r.bySecondary.find? name = some k → r.lookupSecondary name = some k
  byPlayer : ∀ player k, r.byPlayer.find? player = some k → r.sessionOf player = some k
  of_isClosed : ∀ k s, r.session? k = some s → s.isClosed = true →
    s.queue.packets = [] ∧ s.secondary = none ∧
      ∃ c, r.channel? s.primary = some c ∧ c.isOpen = false

lemma exists_live (hr : r.Keyed) (hs : r.core k = some s) (hopen : s.isClosed = false) :
    ∃ t, r.Live k t ∧ t.core = s := by
  obtain ⟨t, ht, rfl⟩ := core_eq_some_iff.1 hs
  exact ⟨t, ⟨ht, hr k t.core hs, hopen⟩, rfl⟩

lemma eq_of_get? {found : SessionId} (h : r.get? k = some found) : found = k := by
  rw [get?] at h
  split_ifs at h
  exact (Option.some.inj h).symm

namespace Consistent

lemma mem_live (hr : r.Consistent) (hs : r.core k = some s) (hopen : s.isClosed = false) :
    k ∈ r.live :=
  (hr.mem_live_iff k).2 (by simp [fate, hs, hopen])

/-- What an index lists is what is looked up in it. -/
lemma lookup_iff (hr : r.Consistent) {κ : Type} [DecidableEq κ] {m : Index κ SessionId}
    {key : Session → Option κ} (hm : Lists r m key) (name : κ) :
    (m.find? name).bind r.get? = some k ↔ m.find? name = some k := by
  constructor
  · intro hk
    obtain ⟨j, hj, hjk⟩ := Option.bind_eq_some_iff.1 hk
    exact eq_of_get? hjk ▸ hj
  · intro hk
    obtain ⟨s, hs, hopen, -⟩ := hm name k hk
    rw [hk]
    exact if_pos (hr.mem_live hs hopen)

/-- What is looked up in an index is an open session with that key. -/
lemma exists_live_of_lookup (hr : r.Consistent) {κ : Type} [DecidableEq κ]
    {m : Index κ SessionId} {key : Session → Option κ} (hm : Lists r m key) {name : κ}
    (hk : (m.find? name).bind r.get? = some k) :
    ∃ t, r.Live k t ∧ key t.core = some name := by
  obtain ⟨s, hs, hopen, hkey⟩ := hm name k ((hr.lookup_iff hm name).1 hk)
  obtain ⟨t, ht, rfl⟩ := exists_live hr.keyed hs hopen
  exact ⟨t, ht, hkey⟩

lemma sound (hr : r.Consistent) : r.Sound where
  get? k found hfound := by
    refine ⟨eq_of_get? hfound, ?_⟩
    rw [Registry.get?] at hfound
    split_ifs at hfound with hmem
    obtain ⟨s, hs, hopen⟩ := Option.map_eq_some_iff.1 ((hr.mem_live_iff k).1 hmem)
    obtain ⟨t, ht, -⟩ := exists_live hr.keyed hs hopen
    exact ⟨t, ht⟩
  lookupPrimary _ _ := hr.exists_live_of_lookup hr.byPrimary
  lookupSecondary _ _ := hr.exists_live_of_lookup hr.bySecondary
  sessionOf _ _ := hr.exists_live_of_lookup hr.byPlayer
  byPrimary name _ := (hr.lookup_iff hr.toCoherent.byPrimary name).2
  bySecondary name _ := (hr.lookup_iff hr.toCoherent.bySecondary name).2
  byPlayer player _ := (hr.lookup_iff hr.toCoherent.byPlayer player).2
  of_isClosed k s hs := (hr.sane k s.core (core_eq_some_iff.2 ⟨s, hs, rfl⟩)).of_isClosed

end Consistent

/-- **Lookups can be trusted.**  Whatever is done to a registry that began without sessions, while
there are names for new ones: what lookups find is open and has the key that was looked up, indexes
hold nothing else, and of a session that was closed nothing is left.  The table of live sessions
holds those that were opened and not closed, and no two sessions that were opened share a name. -/
theorem sound_run (resolve : Resolver) (queueCapacity : Nat) (channels : Array Channel)
    (deeds : List Deed)
    (hchannels : ∀ primary, .create primary ∈ deeds → primary.index < channels.size)
    (hcount : deeds.countP Deed.opens < UInt64.size) :
    let start := ofChannels queueCapacity channels
    let opened := start.openings resolve deeds
    let closed := start.endings resolve deeds
    (start.run resolve deeds).Sound ∧
      (start.run resolve deeds).live = opened.filter (· ∉ closed) ∧ opened.Nodup := by
  intro start opened closed
  have hconsistent : (start.run resolve deeds).Consistent := consistent_run hchannels hcount
  obtain ⟨-, -, hchronicle⟩ :=
    chronicle_run resolve queueCapacity hchannels hcount
  exact ⟨hconsistent.sound, hchronicle.live, hchronicle.nodup⟩

/-- A channel is given to one session and then to another one.  When the first session gets a new
channel, the old one is listed for nobody, and with the session the new one goes too. -/
theorem sound_run_of_moved_channel :
    let channel (id : UInt64) (transport : Transport) : Channel :=
      .memory { id := ⟨id⟩, transport }
    let resolve : Resolver := fun token => token.head?.map fun b => ⟨b.toUInt64⟩
    let start := ofChannels 4 #[channel 1 .stream, channel 2 .stream, channel 3 .datagram,
      channel 4 .datagram]
    let deeds : List Deed := [.create ⟨0⟩, .create ⟨1⟩, .activate ⟨1⟩, .activate ⟨2⟩,
      .bindPlayer ⟨1⟩ ⟨7⟩, .bindPlayer ⟨2⟩ ⟨8⟩, .attach ⟨2⟩ [7], .attach ⟨2⟩ [8], .attach ⟨3⟩ [7]]
    let r := start.run resolve deeds
    let r' := start.run resolve (deeds ++ [.close ⟨1⟩ .idle])
    r.Sound ∧ r.live = [⟨1⟩, ⟨2⟩] ∧ r.lookupSecondary ⟨3⟩ = none ∧
      r.lookupSecondary ⟨4⟩ = some ⟨1⟩ ∧ r'.Sound ∧ r'.live = [⟨2⟩] ∧
      r'.lookupSecondary ⟨4⟩ = none := by
  intro channel resolve start deeds r r'
  have hbefore := sound_run resolve 4 #[channel 1 .stream, channel 2 .stream, channel 3 .datagram,
    channel 4 .datagram] deeds (by simp [deeds]) (by decide)
  have hafter := sound_run resolve 4 #[channel 1 .stream, channel 2 .stream, channel 3 .datagram,
    channel 4 .datagram] (deeds ++ [.close ⟨1⟩ .idle]) (by simp [deeds]) (by decide)
  exact ⟨hbefore.1, by decide +kernel, by decide +kernel, by decide +kernel, hafter.1,
    by decide +kernel, by decide +kernel⟩

end Registry

end SessionServer
