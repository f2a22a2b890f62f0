/-
# Who writes on a channel

A channel is *used* by the open sessions that have it as their first or second one.  If it is given
to a session only when it is new, then it has one user at most, and what is on the channel fits
together with what is left of the packet that its user has begun to write.  Whatever is done to the
registry, it goes on to do so, with one exception.  A session that gets a channel keeps its queue.
If it has written a part of its first packet to the channel that it had before, the rest of that
packet is *torn* off and goes to the new one.

The invariant (`Tidy`) is about one channel.  What a deed does to a session that uses the channel is
all that counts (`Tidy.update`), and deeds of other sessions are of no concern.

Main results: what the sessions and the channel make of each other survives every deed, or a torn
end is noted for the channel (`Tidy.act`), and it survives that a packet is written to its end
(`Tidy.finish`) or in part (`Tidy.split`).
-/
import SessionServer.Proofs.Outbound.Pieces
import SessionServer.Proofs.Outbound.Writing
import SessionServer.Proofs.Registry.Deeds

namespace SessionServer

/-- A channel that is closed takes nothing. -/
lemma Channel.isOpen_of_tryWrite_ok {ch ch' : Channel} {data : Bytes} {n : ℕ}
    (h : ch.tryWrite data = (.ok n, ch')) : ch.isOpen = true := by
  by_contra hclosed
  cases ch with
  | text m =>
    cases hattached : m.attached <;>
      simp_all [tryWrite, isOpen, TextChannel.isOpen, TextChannel.tryWrite]
  | _ =>
    simp_all [tryWrite, isOpen, MemoryChannel.tryWrite, StreamChannel.tryWrite,
      DatagramChannel.tryWrite]

namespace Registry

variable {c : Codec} {r r' : Registry} {j k : SessionId} {s t : Session} {ref given : ChannelRef}
  {name : ChannelId} {transport : Transport} {ch ch' : Channel} {torn left : Bytes}
  {head : Packet} {rest : List Packet}

/-! ## The rest of a packet -/

lemma carries_congr (h : ∀ ref, (r'.channel? ref).map Channel.transport
      = (r.channel? ref).map Channel.transport) : r'.carries = r.carries := by
  have hcarries : ∀ (r : Registry) (transport : Transport) (ref : ChannelRef),
      r.carries transport ref = ((r.channel? ref).map Channel.transport).any (· = transport) := by
    intro r transport ref
    cases hc : r.channel? ref <;> simp [carries, hc]
  funext transport ref
  rw [hcarries, hcarries, h]

lemma Fades.carries_eq (h : Fades r r') : r'.carries = r.carries := by
  refine carries_congr fun ref => ?_
  obtain ⟨f, hf, heq⟩ := h ref
  rw [heq, Option.map_map]
  exact congrArg (Option.map · _) (funext fun c => (hf c).transport_eq)

lemma Fades.exists_channel? (h : Fades r r') (hc : r'.channel? ref = some ch') :
    ∃ ch, r.channel? ref = some ch ∧ ch.Fades ch' := by
  obtain ⟨f, hf, heq⟩ := h ref
  obtain ⟨ch, hch, rfl⟩ := Option.map_eq_some_iff.1 (heq.symm.trans hc)
  exact ⟨ch, hch, hf ch⟩

lemma channelFor_congr (h : r'.carries = r.carries) : r'.channelFor = r.channelFor := by
  funext s transport
  simp only [channelFor, h]

/-- A session that was opened on the channel gives it the packets of its transport, whatever else
it has. -/
lemma channelFor_primary_iff (h : s.primary = ref) :
    r.channelFor s transport = some ref ↔ r.carries transport ref = true := by
  subst h
  constructor
  · exact carries_of_channelFor
  · exact channelFor_of_carries_primary

/-- What is left of the packet that the session has begun to write, if the channel is the one for
that packet. -/
def unfinished (r : Registry) (s : Session) (ref : ChannelRef) : Option Bytes :=
  s.queue.started.bind fun begun => if r.channelFor s begun.1 = some ref then some begun.2 else none

lemma unfinished_congr (hcarries : r'.carries = r.carries) (s : Session) (ref : ChannelRef) :
    r'.unfinished s ref = r.unfinished s ref := by
  simp only [unfinished, channelFor_congr hcarries]

lemma unfinished_withQueue {queue : PacketQueue} (h : queue.started = s.queue.started)
    (r : Registry) (ref : ChannelRef) :
    r.unfinished { s with queue } ref = r.unfinished s ref := by
  have hfor : r.channelFor { s with queue } = r.channelFor s := rfl
  simp only [unfinished, h, hfor]

lemma unfinished_withSecondary (h : s.primary = ref) (r : Registry)
    (secondary : Option ChannelRef) :
    r.unfinished { s with secondary } ref = r.unfinished s ref := by
  have h' : ({ s with secondary } : Session).primary = ref := h
  simp only [unfinished, channelFor_primary_iff h, channelFor_primary_iff h']

lemma unfinished_of_started_eq_none (h : s.queue.started = none) : r.unfinished s ref = none := by
  rw [unfinished, h, Option.bind_none]

lemma unfinished_eq_some_iff : r.unfinished s ref = some left ↔
    ∃ transport, s.queue.started = some (transport, left) ∧
      r.channelFor s transport = some ref := by
  simp [unfinished, Option.bind_eq_some_iff]

lemma unfinished_of_cons (hq : s.queue.packets = head :: rest)
    (hfor : r.channelFor s head.transport = some given) :
    r.unfinished s ref = if given = ref then head.fragment else none := by
  rw [unfinished, PacketQueue.started_of_cons hq]
  cases head.fragment <;> simp [hfor]

/-! ## Users -/

/-- The session is open and has the channel. -/
structure Uses (r : Registry) (k : SessionId) (s : Session) (ref : ChannelRef) : Prop where
  core : r.core k = some s
  isOpen : s.isClosed = false
  binds : s.Binds ref

instance (s : Session) (ref : ChannelRef) : Decidable (s.Binds ref) :=
  inferInstanceAs (Decidable (s.primary = ref ∨ s.secondary = some ref))

/-- The open sessions that have the channel. -/
def users (r : Registry) (ref : ChannelRef) : List SessionId :=
  (r.sessions.values.filter fun s => !s.isClosed && s.Binds ref).map (·.id)

lemma Uses.mem_users (h : r.Uses k s ref) (hr : r.Keyed) : k ∈ r.users ref := by
  obtain ⟨t, ht, rfl⟩ := core_eq_some_iff.1 h.core
  obtain ⟨before, after, hentries, -⟩ := List.lookup_eq_some_iff.1 ht
  have hmem : t ∈ r.sessions.values := List.mem_map.2 ⟨(k, t), by simp [hentries], rfl⟩
  refine List.mem_map.2 ⟨t, List.mem_filter.2 ⟨hmem, ?_⟩, hr k t.core h.core⟩
  have hopen : t.isClosed = false := h.isOpen
  have hbinds : t.Binds ref := h.binds
  simp [hopen, hbinds]

/-- If the channel is open, then nothing has been written on it and nobody has it. -/
def IsNew (r : Registry) (ref : ChannelRef) : Prop :=
  ∀ ch, r.channel? ref = some ch → ch.isOpen = true →
    ch.written = [] ∧ ∀ k s, ¬ r.Uses k s ref

/-- The channel is open, and something has been written on it or a session has it. -/
def inUse (r : Registry) (ref : ChannelRef) : Bool :=
  (r.channel? ref).any fun ch => ch.isOpen && (!ch.written.isEmpty || !(r.users ref).isEmpty)

lemma isNew_of_not_inUse (hr : r.Keyed) (h : r.inUse ref = false) : r.IsNew ref := by
  intro ch hch hopen
  simp only [inUse, hch, Option.any_some, hopen, Bool.true_and, Bool.or_eq_false_iff,
    Bool.not_eq_false', List.isEmpty_iff] at h
  refine ⟨h.1, fun k s hs => ?_⟩
  have hmem := hs.mem_users hr
  rw [h.2] at hmem
  exact List.not_mem_nil hmem

/-- The sessions that are not changed use what they used before. -/
lemma uses_iff_of_ne {changed : Option Session}
    (hcore : ∀ id, r'.core id = if id = k then changed else r.core id) (hjk : j ≠ k) :
    r'.Uses j s ref ↔ r.Uses j s ref := by
  have hsame : r'.core j = r.core j := (hcore j).trans (if_neg hjk)
  constructor
  · intro h
    exact ⟨hsame.symm.trans h.core, h.isOpen, h.binds⟩
  · intro h
    exact ⟨hsame.trans h.core, h.isOpen, h.binds⟩

/-- How the channel and its users stand to each other: it is closed, or nobody has it, or one
session has it, and what is on the channel fits together with what that session has left for it. -/
inductive Stands (c : Codec) (r : Registry) (ref : ChannelRef) (torn : Bytes) (ch : Channel) : Prop
  | closed (hclosed : ch.isOpen = false) (hloose : c.Loose torn ch.written)
  | idle (hnone : ∀ k s, ¬ r.Uses k s ref) (hloose : c.Loose torn ch.written)
  | used {k : SessionId} {s : Session} (huses : r.Uses k s ref)
      (honly : ∀ j t, r.Uses j t ref → j = k)
      (hjoint : c.Joint torn (r.unfinished s ref) ch.written)

lemma Stands.loose (h : Stands c r ref torn ch) : c.Loose torn ch.written := by
  cases h with
  | closed hclosed hloose => exact hloose
  | idle hnone hloose => exact hloose
  | used huses honly hjoint => exact hjoint.loose

/-- Nobody starts to use the channel, and who goes on has left for it what was left before. -/
lemma Stands.keep (h : Stands c r ref torn ch) (hfades : ch.Fades ch')
    (hkeep : ∀ k t, r'.Uses k t ref →
      ∃ s, r.Uses k s ref ∧ r'.unfinished t ref = r.unfinished s ref) :
    Stands c r' ref torn ch' := by
  have hloose := h.loose
  rw [← hfades.written_eq] at hloose
  cases h with
  | closed hclosed => exact .closed (hfades.closed hclosed) hloose
  | idle hnone =>
    refine .idle (fun k t ht => ?_) hloose
    obtain ⟨s, hs, -⟩ := hkeep k t ht
    exact hnone k s hs
  | @used k s huses honly hjoint =>
    have hothers : ∀ j t, r'.Uses j t ref → j = k := by
      intro j t ht
      obtain ⟨u, hu, -⟩ := hkeep j t ht
      exact honly j u hu
    by_cases hgone : ∃ t, r'.Uses k t ref
    · obtain ⟨t, ht⟩ := hgone
      obtain ⟨u, hu, hleft⟩ := hkeep k t ht
      obtain rfl := Option.some.inj (huses.core.symm.trans hu.core)
      refine .used ht hothers ?_
      rwa [hleft, hfades.written_eq]
    · -- the user is gone, and there was no other one
      refine .idle (fun j t ht => ?_) hloose
      obtain rfl := hothers j t ht
      exact hgone ⟨t, ht⟩

/-- Somebody starts to use a channel that is new, if it is open.  The rest of a packet is torn off
if there is one. -/
lemma Stands.start (h : Stands c r ref torn ch) (hfades : ch.Fades ch')
    (hnew : ch.isOpen = true → ch.written = []) (huses : r'.Uses k t ref)
    (honly : ch.isOpen = true → ∀ j u, r'.Uses j u ref → j = k) :
    ∃ torn', (torn' = torn ∨ torn' = [] ∨ r'.unfinished t ref = some torn') ∧
      Stands c r' ref torn' ch' := by
  cases hopen : ch.isOpen with
  | false =>
    have hloose := h.loose
    rw [← hfades.written_eq] at hloose
    exact ⟨torn, .inl rfl, .closed (hfades.closed hopen) hloose⟩
  | true =>
    have hjoint : c.Joint ((r'.unfinished t ref).getD []) (r'.unfinished t ref) ch'.written := by
      rw [hfades.written_eq, hnew hopen]
      exact c.joint_start _
    refine ⟨_, .inr ?_, .used huses (honly hopen) hjoint⟩
    cases r'.unfinished t ref with
    | none => exact .inl rfl
    | some left => exact .inr rfl

/-! ## The invariant -/

/-- The registry with one of its channels, which began with a torn end if that is not empty. -/
structure Tidy (c : Codec) (r : Registry) (ref : ChannelRef) (torn : Bytes) : Prop where
  keyed : r.Keyed
  framed : ∀ k s, r.core k = some s → c.Framed s.queue
  stands : ∀ ch, r.channel? ref = some ch → Stands c r ref torn ch

namespace Tidy

/-- Channels are closed, and nothing happens to sessions. -/
lemma of_fades (h : Tidy c r ref torn) (hfades : Fades r r')
    (hcore : ∀ id, r'.core id = r.core id) : Tidy c r' ref torn := by
  refine ⟨fun id s hs => h.keyed id s ((hcore id).symm.trans hs),
    fun k s hs => h.framed k s ((hcore k).symm.trans hs), fun ch' hch' => ?_⟩
  obtain ⟨ch, hch, hclose⟩ := hfades.exists_channel? hch'
  refine (h.stands ch hch).keep hclose fun k s hs => ⟨s, ?_, ?_⟩
  · exact ⟨(hcore k).symm.trans hs.core, hs.isOpen, hs.binds⟩
  · exact unfinished_congr hfades.carries_eq s ref

lemma of_alike (h : Tidy c r ref torn) (halike : Alike r r') : Tidy c r' ref torn :=
  h.of_fades (Fades.of_eq halike.channel) halike.core

lemma framed_update (h : Tidy c r ref torn)
    (hcore : ∀ id, r'.core id = if id = k then some t else r.core id) (ht : c.Framed t.queue)
    (j : SessionId) (u : Session) (hu : r'.core j = some u) : c.Framed u.queue := by
  rw [hcore] at hu
  split_ifs at hu
  · exact Option.some.inj hu ▸ ht
  · exact h.framed j u hu

/-- One session is changed.  If it uses the channel then, it did before, and it has left for it what
was left before. -/
lemma update (h : Tidy c r ref torn) (hfades : Fades r r') (hs : r.core k = some s)
    (hcore : ∀ id, r'.core id = if id = k then some t else r.core id) (hid : t.id = s.id)
    (hframed : c.Framed t.queue)
    (hkeep : t.isClosed = false → t.Binds ref → s.isClosed = false ∧ s.Binds ref ∧
      r'.unfinished t ref = r.unfinished s ref) : Tidy c r' ref torn := by
  refine ⟨h.keyed.update hs hcore hid, h.framed_update hcore hframed, fun ch' hch' => ?_⟩
  obtain ⟨ch, hch, hclose⟩ := hfades.exists_channel? hch'
  refine (h.stands ch hch).keep hclose fun j u hu => ?_
  by_cases hjk : j = k
  · subst hjk
    obtain rfl := Option.some.inj (((hcore j).trans (if_pos rfl)).symm.trans hu.core)
    obtain ⟨hopen, hbinds, hleft⟩ := hkeep hu.isOpen hu.binds
    exact ⟨s, ⟨hs, hopen, hbinds⟩, hleft⟩
  · exact ⟨u, (uses_iff_of_ne hcore hjk).1 hu, unfinished_congr hfades.carries_eq u ref⟩

/-- One session is changed that keeps its channels and what it has left for them. -/
lemma modify (h : Tidy c r ref torn) (hfades : Fades r r') (hs : r.core k = some s)
    (hcore : ∀ id, r'.core id = if id = k then some t else r.core id) (hid : t.id = s.id)
    (hclosed : t.isClosed = s.isClosed) (hprimary : t.primary = s.primary)
    (hsecondary : t.secondary = s.secondary) (hframed : c.Framed t.queue)
    (hleft : r'.unfinished t ref = r.unfinished s ref) : Tidy c r' ref torn := by
  have hbinds : t.Binds ref ↔ s.Binds ref := by rw [Session.Binds, hprimary, hsecondary]; rfl
  exact h.update hfades hs hcore hid hframed fun hopen hb =>
    ⟨hclosed ▸ hopen, hbinds.1 hb, hleft⟩

/-- A session starts to use a channel that is new. -/
lemma start (h : Tidy c r ref torn) (hfades : Fades r r') (hnew : r.IsNew ref)
    (huses : r'.Uses k t ref) {changed : Option Session}
    (hcore : ∀ id, r'.core id = if id = k then changed else r.core id) :
    ∃ torn', (torn' = torn ∨ torn' = [] ∨ r'.unfinished t ref = some torn') ∧
      ∀ ch, r'.channel? ref = some ch → Stands c r' ref torn' ch := by
  cases hch' : r'.channel? ref with
  | none => exact ⟨torn, .inl rfl, nofun⟩
  | some ch' =>
    obtain ⟨ch, hch, hclose⟩ := hfades.exists_channel? hch'
    have honly : ch.isOpen = true → ∀ j u, r'.Uses j u ref → j = k := by
      intro hopen j u hu
      by_contra hjk
      exact (hnew ch hch hopen).2 j u ((uses_iff_of_ne hcore hjk).1 hu)
    obtain ⟨torn', htorn, hstands⟩ :=
      (h.stands ch hch).start hclose (fun hopen => (hnew ch hch hopen).1) huses honly
    refine ⟨torn', htorn, fun other hother => ?_⟩
    exact Option.some.inj hother ▸ hstands

lemma close (h : Tidy c r ref torn) (k : SessionId) (reason : CloseReason) :
    Tidy c (r.close k reason).2 ref torn := by
  rcases close_cases r k reason with ⟨hsame, -⟩ | ⟨s, hs, -, hshuts⟩
  · rwa [hsame]
  · have hempty : c.Framed s.shut.queue := ⟨nofun, [], rfl⟩
    exact h.update hshuts.fades hs hshuts.core rfl hempty nofun

lemma activate (h : Tidy c r ref torn) (k : SessionId) : Tidy c (r.activate k).2 ref torn := by
  rcases activate_cases r k with hsame | ⟨s, hs, hfresh, hcore⟩
  · rwa [hsame]
  · have hfades : Fades r (r.activate k).2 := Fades.of_eq (channel?_activate r k)
    refine h.modify hfades hs hcore rfl ?_ rfl rfl (h.framed k s hs)
      (unfinished_congr hfades.carries_eq s ref)
    simp [Session.isClosed, hfresh]

lemma bindPlayer (h : Tidy c r ref torn) (k : SessionId) (player : PlayerId) :
    Tidy c (r.bindPlayer k player).2 ref torn := by
  rcases bindPlayer_cases r k player with hsame | ⟨s, hs, -, hmeets⟩
  · rwa [hsame]
  · have hfades : Fades r (r.bindPlayer k player).2 := Fades.of_eq hmeets.channel?
    exact h.modify hfades hs hmeets.core rfl rfl rfl rfl (h.framed k s hs)
      (unfinished_congr hfades.carries_eq s ref)

/-- A frame comes into a queue behind the packet that has been written in part. -/
lemma enqueue (h : Tidy c r ref torn) (k : SessionId) {p : Packet} (hp : c.Makes p.data)
    (hfresh : p.fragment = none) : Tidy c (r.enqueue k p).2 ref torn := by
  have hfades : Fades r (r.enqueue k p).2 := Fades.of_eq (channel?_enqueue r k p)
  rcases enqueue_cases h.keyed k p with
    ⟨-, hsame⟩ | ⟨s, admission, queue, hs, -, hpush, -, -, hcore⟩
  · exact h.of_fades hfades hsame
  · have hframed := h.framed k s hs
    obtain ⟨begun, hbegun⟩ := hframed.2
    have hstarted : queue.started = s.queue.started :=
      PacketQueue.started_push hbegun hfresh hpush
    exact h.modify hfades hs hcore rfl rfl rfl rfl (hframed.push hp hfresh hpush)
      ((unfinished_congr hfades.carries_eq _ ref).trans (unfinished_withQueue hstarted r ref))

/-- A session is opened.  Nothing waits in its queue. -/
lemma create (h : Tidy c r ref torn) {primary : ChannelRef}
    (hnew : primary = ref → r.IsNew ref) :
    ∃ torn', (torn' = torn ∨ torn' = []) ∧ Tidy c (r.create primary).2 ref torn' := by
  have hcore := core_create r primary
  have hfades : Fades r (r.create primary).2 := Fades.of_eq fun _ => rfl
  have hself : (r.create primary).2.core ⟨r.nextId⟩ = some (r.newSession primary) :=
    (hcore _).trans (if_pos rfl)
  have hempty : c.Framed (r.newSession primary).queue := c.framed_ofCapacity r.queueCapacity
  have hkeyed : (r.create primary).2.Keyed := keyed_act h.keyed (fun _ => none) (.create primary)
  by_cases hprimary : primary = ref
  · have huses : (r.create primary).2.Uses ⟨r.nextId⟩ (r.newSession primary) ref :=
      ⟨hself, rfl, .inl hprimary⟩
    obtain ⟨torn', htorn, hstands⟩ := h.start hfades (hnew hprimary) huses hcore
    refine ⟨torn', ?_, hkeyed, h.framed_update hcore hempty, hstands⟩
    have hnone : (r.create primary).2.unfinished (r.newSession primary) ref = none :=
      unfinished_of_started_eq_none (PacketQueue.started_of_forall nofun)
    simpa [hnone] using htorn
  · refine ⟨torn, .inl rfl, hkeyed, h.framed_update hcore hempty, fun ch hch => ?_⟩
    refine (h.stands ch hch).keep (Channel.Fades.refl ch) fun j u hu => ?_
    have hj : j ≠ ⟨r.nextId⟩ := by
      rintro rfl
      obtain rfl := Option.some.inj (hself.symm.trans hu.core)
      rcases hu.binds with hb | hb
      · exact hprimary hb
      · cases hb
    exact ⟨u, (uses_iff_of_ne hcore hj).1 hu, unfinished_congr hfades.carries_eq u ref⟩

/-- A session gets a channel that it has already, or another one than the one in question. -/
lemma joins (h : Tidy c r ref torn) (hs : r.core k = some s) (hopen : s.isClosed = false)
    (hjoins : Joins k s given name r r') (hhas : given = ref → s.Binds ref) :
    Tidy c r' ref torn := by
  have hcarries : r'.carries = r.carries := hjoins.fades.carries_eq
  refine h.update hjoins.fades hs hjoins.core rfl (h.framed k s hs) fun _ hb => ⟨hopen, ?_⟩
  have hbefore : s.Binds ref := by
    rcases hb with hb | hb
    · exact .inl hb
    · exact hhas (Option.some.inj hb)
  refine ⟨hbefore, (unfinished_congr hcarries _ ref).trans ?_⟩
  by_cases hprimary : s.primary = ref
  · exact unfinished_withSecondary hprimary r (some given)
  · have hafter : some given = some ref := hb.resolve_left hprimary
    have hsame : { s with secondary := some given } = s := by
      rw [hafter, ← hbefore.resolve_left hprimary]
    rw [hsame]

/-- A session gets the channel and did not have it. -/
lemma gains (h : Tidy c r ref torn) (hs : r.core k = some s) (hopen : s.isClosed = false)
    (hjoins : Joins k s ref name r r') (hnew : r.IsNew ref) :
    ∃ torn', (torn' = torn ∨ torn' = [] ∨ ∃ transport,
        s.queue.started = some (transport, torn') ∧ r.carries transport ref = true) ∧
      Tidy c r' ref torn' := by
  have hself : r'.core k = some { s with secondary := some ref } :=
    (hjoins.core k).trans (if_pos rfl)
  have huses : r'.Uses k { s with secondary := some ref } ref := ⟨hself, hopen, .inr rfl⟩
  obtain ⟨torn', htorn, hstands⟩ := h.start hjoins.fades hnew huses hjoins.core
  refine ⟨torn', htorn.imp_right (Or.imp_right fun hleft => ?_),
    h.keyed.update hs hjoins.core rfl, h.framed_update hjoins.core (h.framed k s hs), hstands⟩
  obtain ⟨transport, hstarted, hfor⟩ := unfinished_eq_some_iff.1 hleft
  exact ⟨transport, hstarted, hjoins.fades.carries_eq ▸ carries_of_channelFor hfor⟩

end Tidy

/-! ## Deeds -/

/-- What the deed queues, if it queues anything, is a frame of which nothing has been written. -/
def Deed.Proper (c : Codec) : Deed → Prop
  | .enqueue _ p => c.Makes p.data ∧ p.fragment = none
  | _ => True

/-- The deed gives the channel to a session that does not have it, while it is in use. -/
def reuses (resolve : Resolver) (r : Registry) (ref : ChannelRef) : Deed → Bool
  | .create primary => primary = ref && r.inUse ref
  | .attach given token => given = ref && r.inUse ref &&
      (r.attach resolve given token).1.session?.any fun k =>
        (r.session? k).any fun s => !decide (s.Binds ref)
  | _ => false

/-- What is left of the first packet of a session that gets the channel and did not have it, if the
session has begun to write that packet and it is of the transport of the channel. -/
def tear (resolve : Resolver) (r : Registry) (ref : ChannelRef) : Deed → Option Bytes
  | .attach given token =>
    if given = ref then
      (r.attach resolve given token).1.session?.bind fun k => (r.session? k).bind fun s =>
        if s.Binds ref then none
        else s.queue.started.bind fun begun => if r.carries begun.1 ref then some begun.2 else none
    else none
  | _ => none

namespace Tidy

variable {resolve : Resolver} {d : Deed}

lemma attach (h : Tidy c r ref torn) {token : Bytes}
    (hnew : r.reuses resolve ref (.attach given token) = false) :
    ∃ torn', (torn' = torn ∨ torn' = [] ∨
        r.tear resolve ref (.attach given token) = some torn') ∧
      Tidy c (r.attach resolve given token).2 ref torn' := by
  rcases attach_cases h.keyed resolve given token with
    ⟨-, hclose⟩ | ⟨k, s, name, hout, hs, hactive, hname, hjoins⟩
  · rw [hclose]
    exact ⟨torn, .inl rfl, h.of_fades (fades_closeChannel r given) fun _ => rfl⟩
  · have hopen := Session.isClosed_of_isActive hactive
    by_cases hgains : given = ref ∧ ¬ s.Binds ref
    · obtain ⟨rfl, hnot⟩ := hgains
      obtain ⟨t, ht, rfl⟩ := core_eq_some_iff.1 hs
      have hnot : ¬ t.Binds given := hnot
      have hunused : r.inUse given = false := by
        simpa [reuses, hout, AttachOutcome.session?, ht, hnot] using hnew
      obtain ⟨torn', htorn, hafter⟩ :=
        h.gains hs hopen hjoins (isNew_of_not_inUse h.keyed hunused)
      refine ⟨torn', htorn.imp_right (Or.imp_right ?_), hafter⟩
      rintro ⟨transport, hstarted, hcarries⟩
      have hstarted : t.queue.started = some (transport, torn') := hstarted
      simp [tear, hout, AttachOutcome.session?, ht, hnot, hstarted, hcarries]
    · refine ⟨torn, .inl rfl, h.joins hs hopen hjoins fun heq => ?_⟩
      exact not_not.1 fun hnot => hgains ⟨heq, hnot⟩

/-- What is torn off is the end of a frame. -/
lemma exists_makes_of_tear (h : Tidy c r ref torn) (htear : r.tear resolve ref d = some left) :
    ∃ begun, c.Makes (begun ++ left) := by
  cases d with
  | attach given token =>
    simp only [tear, Option.ite_none_right_eq_some, Option.bind_eq_some_iff,
      Option.ite_none_left_eq_some] at htear
    obtain ⟨-, k, -, s, hs, -, ⟨transport, left⟩, hstarted, -, hleft⟩ := htear
    obtain rfl := Option.some.inj hleft
    exact (h.framed k s.core (core_eq_some_iff.2 ⟨s, hs, rfl⟩)).exists_makes hstarted
  | _ => cases htear

/-- Unless the channel is given away while it is in use, the invariant survives, with the torn end
that there was, or none, or a new one. -/
lemma act (h : Tidy c r ref torn) (hd : d.Proper c)
    (hnew : r.reuses resolve ref d = false) :
    ∃ torn', (torn' = torn ∨ torn' = [] ∨ r.tear resolve ref d = some torn') ∧
      Tidy c (r.act resolve d) ref torn' := by
  cases d with
  | create primary =>
    have hunused : primary = ref → r.IsNew ref := by
      rintro rfl
      exact isNew_of_not_inUse h.keyed (by simpa [reuses] using hnew)
    obtain ⟨torn', htorn, hafter⟩ := h.create hunused
    exact ⟨torn', htorn.imp_right .inl, hafter⟩
  | activate k => exact ⟨torn, .inl rfl, h.activate k⟩
  | bindPlayer k player => exact ⟨torn, .inl rfl, h.bindPlayer k player⟩
  | attach given token => exact h.attach hnew
  | enqueue k p => exact ⟨torn, .inl rfl, h.enqueue k hd.1 hd.2⟩
  | close k reason => exact ⟨torn, .inl rfl, h.close k reason⟩

end Tidy

/-! ## Writing -/

/-- A part of the first packet of a session goes to a channel, and the session has another queue
then. -/
structure Passes (k : SessionId) (s : Session) (head : Packet) (given : ChannelRef) (n : ℕ)
    (queue : PacketQueue) (r r' : Registry) : Prop where
  core : ∀ id, r'.core id = if id = k then some { s with queue } else r.core id
  channel?_of_ne : ∀ ref, ref ≠ given → r'.channel? ref = r.channel? ref
  channel? : ∃ ch ch', r.channel? given = some ch ∧ ch.tryWrite head.pending = (.ok n, ch') ∧
    r'.channel? given = some ch'

section Passes

variable {n : ℕ} {queue : PacketQueue}

lemma Passes.map_channel? {α : Type} (h : Passes k s head given n queue r r') {f : Channel → α}
    (hf : ∀ ch data, f (ch.tryWrite data).2 = f ch) (ref : ChannelRef) :
    (r'.channel? ref).map f = (r.channel? ref).map f := by
  obtain ⟨ch, ch', hch, hwrite, hch'⟩ := h.channel?
  by_cases href : ref = given
  · have hsame := hf ch head.pending
    rw [hwrite] at hsame
    rw [href, hch, hch', Option.map_some, Option.map_some, hsame]
  · rw [h.channel?_of_ne ref href]

lemma Passes.carries_eq (h : Passes k s head given n queue r r') : r'.carries = r.carries :=
  carries_congr (h.map_channel? Channel.transport_tryWrite)

lemma Passes.exists_uses (h : Passes k s head given n queue r r') (hs : r.core k = some s)
    (hleft : r'.unfinished { s with queue } ref = r.unfinished s ref) (hu : r'.Uses j t ref) :
    ∃ u, r.Uses j u ref ∧ r'.unfinished t ref = r.unfinished u ref := by
  by_cases hjk : j = k
  · subst hjk
    have hself : r'.core j = some { s with queue } := (h.core j).trans (if_pos rfl)
    obtain rfl := Option.some.inj (hself.symm.trans hu.core)
    exact ⟨s, ⟨hs, hu.isOpen, hu.binds⟩, hleft⟩
  · exact ⟨t, (uses_iff_of_ne h.core hjk).1 hu, unfinished_congr h.carries_eq t ref⟩

lemma Passes.unfinished_eq (h : Passes k s head given n queue r r')
    (hfor : r.channelFor s head.transport = some given) {after : Option Bytes}
    (hstarted : queue.started = after.map fun left => (head.transport, left)) :
    r'.unfinished { s with queue } ref = if given = ref then after else none := by
  have hfor' : r.channelFor { s with queue } head.transport = some given := hfor
  rw [unfinished, hstarted, channelFor_congr h.carries_eq]
  cases after <;> simp [hfor']

/-- The channel of the packet is open and its user is the session that writes. -/
lemma Stands.passes_self (h : Stands c r given torn ch)
    (hpasses : Passes k s head given n queue r r') (huses : r.Uses k s given)
    (hwrite : ch.tryWrite head.pending = (.ok n, ch'))
    (hjoint : c.Joint torn (r.unfinished s given) ch.written →
      c.Joint torn (r'.unfinished { s with queue } given) (ch.written ++ head.pending.take n)) :
    Stands c r' given torn ch' := by
  cases h with
  | closed hclosed => exact absurd (hclosed.symm.trans (Channel.isOpen_of_tryWrite_ok hwrite)) nofun
  | idle hnone => exact absurd huses (hnone k s)
  | used huses' honly hfits =>
    obtain rfl := honly k s huses
    obtain rfl := Option.some.inj (huses.core.symm.trans huses'.core)
    have hwritten : ch'.written = ch.written ++ head.pending.take n := by
      rw [Channel.written, (Channel.written_of_tryWrite_ok hwrite).2, List.flatten_append,
        List.flatten_singleton, Channel.written]
    have hself : r'.core k = some { s with queue } := (hpasses.core k).trans (if_pos rfl)
    have huses'' : r'.Uses k { s with queue } given := ⟨hself, huses.isOpen, huses.binds⟩
    refine .used huses'' (fun j u hu => ?_) (hwritten ▸ hjoint hfits)
    by_contra hjk
    exact hjk (honly j u ((uses_iff_of_ne hpasses.core hjk).1 hu))

/-- What was left of the packet fitted to the channel, and so does what is left of it now. -/
lemma Tidy.passes (h : Tidy c r ref torn) (hs : r.core k = some s) (hopen : s.isClosed = false)
    (hq : s.queue.packets = head :: rest) (hfor : r.channelFor s head.transport = some given)
    (hpasses : Passes k s head given n queue r r') (hframed : c.Framed queue)
    (after : Option Bytes) (hstarted : queue.started = after.map fun left => (head.transport, left))
    (hjoint : ∀ written, c.Joint torn head.fragment written →
      c.Joint torn after (written ++ head.pending.take n)) : Tidy c r' ref torn := by
  have hbefore : r.unfinished s ref = if given = ref then head.fragment else none :=
    unfinished_of_cons hq hfor
  have hafter : r'.unfinished { s with queue } ref = if given = ref then after else none :=
    hpasses.unfinished_eq hfor hstarted
  refine ⟨h.keyed.update hs hpasses.core rfl, h.framed_update hpasses.core hframed,
    fun ch' hch' => ?_⟩
  by_cases hgiven : given = ref
  · subst hgiven
    obtain ⟨ch, ch'', hch, hwrite, hch''⟩ := hpasses.channel?
    obtain rfl := Option.some.inj (hch''.symm.trans hch')
    refine (h.stands ch hch).passes_self hpasses ⟨hs, hopen, binds_of_channelFor hfor⟩ hwrite ?_
    rw [hbefore, hafter, if_pos rfl, if_pos rfl]
    exact hjoint ch.written
  · -- the packet is for another channel, and nothing of it is left for this one
    have hleft : r'.unfinished { s with queue } ref = r.unfinished s ref := by
      rw [hbefore, hafter, if_neg hgiven, if_neg hgiven]
    rw [hpasses.channel?_of_ne ref (Ne.symm hgiven)] at hch'
    exact (h.stands ch' hch').keep (Channel.Fades.refl ch')
      fun j u hu => hpasses.exists_uses hs hleft hu

/-- The packet is written to its end. -/
lemma Tidy.finish (h : Tidy c r ref torn) (hs : r.core k = some s) (hopen : s.isClosed = false)
    (hq : s.queue.packets = head :: rest) (hfor : r.channelFor s head.transport = some given)
    (hpasses : Passes k s head given n s.queue.pop r r') (hn : head.pending.length ≤ n) :
    Tidy c r' ref torn := by
  have hframed := h.framed k s hs
  have hmakes : c.Makes head.data := hframed.1 head (hq ▸ List.mem_cons_self)
  obtain ⟨begun, hbegun⟩ := hframed.2
  refine h.passes hs hopen hq hfor hpasses hframed.pop none
    (PacketQueue.started_pop hbegun) fun written hfits => ?_
  rw [List.take_of_length_le hn]
  exact hfits.finish hmakes

/-- A part of the packet is written. -/
lemma Tidy.split (h : Tidy c r ref torn) (hs : r.core k = some s) (hopen : s.isClosed = false)
    (hq : s.queue.packets = head :: rest) (hfor : r.channelFor s head.transport = some given)
    (hpasses : Passes k s head given n (s.queue.setFragment (some (head.pending.drop n))) r r')
    (hn : n < head.pending.length) : Tidy c r' ref torn := by
  have hframed := h.framed k s hs
  have hmakes : c.Makes head.data := hframed.1 head (hq ▸ List.mem_cons_self)
  refine h.passes hs hopen hq hfor hpasses (hframed.split hq n)
    (some (head.pending.drop n)) (PacketQueue.started_setFragment hq _)
    fun written hfits => ?_
  exact hfits.split hmakes hn

end Passes

/-- The first packet of a session has no channel and is thrown away. -/
lemma Tidy.drop (h : Tidy c r ref torn) (hs : r.core k = some s)
    (hq : s.queue.packets = head :: rest) (hfor : r.channelFor s head.transport = none)
    (hcore : ∀ id, r'.core id = if id = k then some { s with queue := s.queue.pop } else r.core id)
    (hchannel : ∀ ref, r'.channel? ref = r.channel? ref) : Tidy c r' ref torn := by
  have hframed := h.framed k s hs
  obtain ⟨begun, hbegun⟩ := hframed.2
  refine h.modify (Fades.of_eq hchannel) hs hcore rfl rfl rfl rfl hframed.pop ?_
  rw [unfinished_of_started_eq_none (PacketQueue.started_pop hbegun), unfinished,
    PacketQueue.started_of_cons hq]
  cases head.fragment <;> simp [hfor]

end Registry

end SessionServer
