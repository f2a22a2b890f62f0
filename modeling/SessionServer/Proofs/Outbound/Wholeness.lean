/-
# Whole frames on every channel

A peer can make sense of what a channel carries if it is whole frames, one after the other, and
perhaps the beginning of one more.  Channels come and go while packets are being written, and a
write may take as little as it likes.  What must not happen is that a packet begins on one channel
and ends on another.

It can happen, in one way.  What is left of a packet stays in the queue when the channel that has
the beginning is replaced, and the channel that takes its place is given the rest: it begins in
the middle of a frame (`torn_frame_on_new_channel`).  The theorem says that nothing else goes
wrong with a channel that is given to a session when it is new.

Main result: `whole_or_torn`.
-/
import SessionServer.Proofs.Outbound.History
import SessionServer.Proofs.Outbound.Users

namespace SessionServer

/-- What a channel does between two writes.  It may be ready to take more or less than before, or
be gone, but what it has taken stays taken. -/
structure Drift where
  apply : Channel → Channel
  fades : ∀ c, Channel.Fades c (apply c)

namespace Engine

open Registry (Tidy)

variable {e : Engine} {setup : Setup} {c : Codec} {k : SessionId} {s : Session} {head p : Packet}
  {rest : List Packet} {ref given : ChannelRef} {ch ch' : Channel} {torn left : Bytes} {n : ℕ}

/-! ## Writing -/

/-- The channel took nothing. -/
lemma tidy_wrote (h : Tidy c e.registry ref torn) (hch : e.registry.channel? given = some ch)
    (hfades : ch.Fades ch') : Tidy c (e.wrote given ch').registry ref torn := by
  refine h.of_fades (Registry.fades_modifyChannel fun c hc => ?_) (core_wrote e given ch')
  exact Option.some.inj (hch.symm.trans hc) ▸ hfades

lemma passes_popHead (hs : e.registry.core k = some s)
    (hch : e.registry.channel? given = some ch)
    (hwrite : ch.tryWrite head.pending = (.ok n, ch')) :
    Registry.Passes k s head given n s.queue.pop e.registry
      ((e.wrote given ch').popHead k).registry where
  core id := Registry.core_eq_of_map hs (core_popHead (e.wrote given ch') k id)
  channel?_of_ne ref href :=
    (Registry.channel?_modifyChannel e.registry given ref fun _ => ch').trans (if_neg href)
  channel? := ⟨ch, ch', hch, hwrite, channel?_wrote hch ch'⟩

lemma passes_splitHead (hs : e.registry.core k = some s)
    (hch : e.registry.channel? given = some ch)
    (hwrite : ch.tryWrite head.pending = (.ok n, ch')) :
    Registry.Passes k s head given n (s.queue.setFragment (some (head.pending.drop n))) e.registry
      ((e.wrote given ch').splitHead k head n).2.registry where
  core id := Registry.core_eq_of_map hs (core_splitHead (e.wrote given ch') k head n id)
  channel?_of_ne ref href := by
    rw [channel?_splitHead]
    exact (Registry.channel?_modifyChannel e.registry given ref fun _ => ch').trans (if_neg href)
  channel? := ⟨ch, ch', hch, hwrite, (channel?_splitHead ..).trans (channel?_wrote hch ch')⟩

/-- Behind a packet that was written to its end nothing is left to write. -/
lemma tidy_finishHead (h : Tidy c (e.popHead k).registry ref torn) (rest : List Packet) (n : ℕ) :
    Tidy c (e.finishHead k head rest n).2.registry ref torn := by
  cases hlast : head.last with
  | false => exact h.of_alike (alike_finishHead e k rest n hlast)
  | true =>
    unfold finishHead
    simp only [hlast, if_true]
    exact (h.of_alike (alike_recordHead e k n)).close k .lastPacket

lemma tidy_writeHead (h : Tidy c e.registry ref torn) (setup : Setup)
    (hs : e.registry.core k = some s) (hopen : s.isClosed = false)
    (hq : s.queue.packets = head :: rest)
    (hfor : e.registry.channelFor s head.transport = some given)
    (hch : e.registry.channel? given = some ch) :
    Tidy c (e.writeHead setup k head rest given ch).2.registry ref torn := by
  obtain ⟨result, ch', hwrite⟩ : ∃ result ch', ch.tryWrite head.pending = (result, ch') :=
    ⟨_, _, rfl⟩
  cases result with
  | error f =>
    obtain rfl := Channel.tryWrite_error hwrite
    have hwrote := tidy_wrote h hch (Channel.Fades.refl ch')
    rw [writeHead_of_error hwrite]
    split_ifs
    · exact hwrote.of_alike (alike_park setup _ k given)
    · exact hwrote.close k (.writeError f.message)
  | ok n =>
    rw [writeHead_of_ok hwrite]
    split_ifs with hall hnone
    · exact tidy_finishHead (h.finish hs hopen hq hfor (passes_popHead hs hch hwrite) hall) rest n
    · have hempty : ch'.written = ch.written := by
        simp [Channel.written, (Channel.written_of_tryWrite_ok hwrite).2, hnone]
      have hsame : ch.Fades ch' := by
        have htransport := Channel.transport_tryWrite ch head.pending
        have hid := Channel.id_tryWrite ch head.pending
        have hisOpen := Channel.isOpen_tryWrite ch head.pending
        rw [hwrite] at htransport hid hisOpen
        exact ⟨hid, htransport, hempty, fun hclosed => hisOpen.trans hclosed⟩
      exact (tidy_wrote h hch hsame).of_alike (alike_park setup _ k given)
    · exact h.split hs hopen hq hfor (passes_splitHead hs hch hwrite) (Nat.lt_of_not_le hall)

lemma tidy_writeOnce (h : Tidy c e.registry ref torn) (setup : Setup) (k : SessionId) :
    Tidy c (e.writeOnce setup k).2.registry ref torn := by
  cases hs : e.registry.core k with
  | none =>
    have hk : e.registry.session? k = none := Option.map_eq_none_iff.1 hs
    simp only [writeOnce, hk]
    exact h
  | some s =>
    cases hopen : s.isClosed with
    | true =>
      obtain ⟨t, hk, rfl⟩ := Registry.core_eq_some_iff.1 hs
      have hclosed : t.isClosed = true := hopen
      simp only [writeOnce, hk, hclosed, if_true]
      exact h
    | false =>
      rcases writeOnce_cases setup hs hopen with
        ⟨-, hout⟩ | ⟨head, rest, hq, ⟨hnone, hout⟩ | ⟨given, ch, hfor, hch, hout⟩⟩
      · rw [hout]
        exact h
      · have hfor : e.registry.channelFor s head.transport = none := by
          by_contra hsome
          obtain ⟨given, hgiven⟩ := Option.ne_none_iff_exists'.1 hsome
          have hcarries := Registry.carries_of_channelFor hgiven
          obtain ⟨ch, hch, -⟩ := (Option.any_eq_true _ _).1 hcarries
          exact hnone given ch hgiven hch
        have hcore := fun id => Registry.core_eq_of_map hs (core_popHead e k id)
        have hdrop : Tidy c (e.popHead k).registry ref torn := h.drop hs hq hfor hcore fun _ => rfl
        rw [hout]
        exact hdrop.of_alike (alike_dropHead e k rest)
      · rw [hout]
        exact tidy_writeHead h setup hs hopen hq hfor hch

/-! ## Submitting -/

lemma tidy_offer (h : Tidy c e.registry ref torn) (hp : c.Makes p.data)
    (hfresh : p.fragment = none) (k : SessionId) :
    Tidy c (e.offer p k).2.registry ref torn := by
  have henqueue := h.enqueue k hp hfresh
  rcases offer_eq e p k with ⟨refused, -, hout⟩ | ⟨-, halike⟩
  · rw [hout]
    exact henqueue.close k .queueOverflow
  · exact henqueue.of_alike halike

lemma tidy_offerAll (h : Tidy c e.registry ref torn) (hp : c.Makes p.data)
    (hfresh : p.fragment = none) (ids : List SessionId) :
    Tidy c (offerAll p ids e).2.registry ref torn := by
  induction ids generalizing e with
  | nil => exact h
  | cons k ids ih => exact ih (tidy_offer h hp hfresh k)

lemma tidy_submit (h : Tidy setup.codec e.registry ref torn) (hfresh : p.fragment = none) :
    Tidy setup.codec (e.submit setup p).2.registry ref torn := by
  cases hf : e.frame setup p with
  | error err =>
    rw [submit_of_frame_error hf]
    exact h
  | ok frame =>
    have hmakes : setup.codec.Makes (e.finished p frame).data := ⟨_, _, _, hf⟩
    have hnext : Tidy setup.codec { e with nextPacketId := e.nextPacketId + 1 }.registry ref torn :=
      h
    rw [submit_of_frame hf]
    exact tidy_offerAll hnext hmakes hfresh p.recipients

/-! ## Runs -/

/-- What is done to an engine. -/
inductive Deed where
  /-- Something is done to its registry. -/
  | registry (d : Registry.Deed)
  /-- A packet is submitted. -/
  | submit (p : Packet)
  /-- An attempt to write is made for a session. -/
  | write (k : SessionId)
  /-- A channel changes. -/
  | turn (ref : ChannelRef) (drift : Drift)

/-- What the deed submits or queues, if it does, is a packet of which nothing has been written, and
a frame where it is queued as it is. -/
def Deed.Proper (c : Codec) : Deed → Prop
  | .registry d => d.Proper c
  | .submit p => p.fragment = none
  | _ => True

/-- A deed is done. -/
def perform (setup : Setup) (e : Engine) : Deed → Engine
  | .registry d => { e with registry := e.registry.act setup.resolve d }
  | .submit p => (e.submit setup p).2
  | .write k => (e.writeOnce setup k).2
  | .turn ref drift => { e with registry := e.registry.modifyChannel ref drift.apply }

/-- The deed gives the channel to a session that does not have it, while it is in use. -/
def reuses (setup : Setup) (e : Engine) (ref : ChannelRef) : Deed → Bool
  | .registry d => e.registry.reuses setup.resolve ref d
  | _ => false

/-- The end of a frame that the deed tears off for the channel. -/
def tear (setup : Setup) (e : Engine) (ref : ChannelRef) : Deed → Option Bytes
  | .registry d => e.registry.tear setup.resolve ref d
  | _ => none

/-- The ends of frames that are torn off for the channel in a run. -/
def tears (setup : Setup) (e : Engine) (ref : ChannelRef) (deeds : List Deed) : List Bytes :=
  gather (perform setup) (fun e d => (e.tear setup ref d).toList) e deeds

variable {d : Deed}

lemma tidy_perform (h : Tidy setup.codec e.registry ref torn) (hd : d.Proper setup.codec)
    (hnew : e.reuses setup ref d = false) :
    ∃ torn', (torn' = torn ∨ torn' = [] ∨ e.tear setup ref d = some torn') ∧
      Tidy setup.codec (e.perform setup d).registry ref torn' := by
  cases d with
  | registry d => exact h.act hd hnew
  | submit p => exact ⟨torn, .inl rfl, tidy_submit h hd⟩
  | write k => exact ⟨torn, .inl rfl, tidy_writeOnce h setup k⟩
  | turn given drift =>
    have hfades : Registry.Fades e.registry (e.registry.modifyChannel given drift.apply) :=
      Registry.fades_modifyChannel fun c _ => drift.fades c
    exact ⟨torn, .inl rfl, h.of_fades hfades fun _ => rfl⟩

/-- The engine after some deeds. -/
def course (setup : Setup) (e : Engine) (deeds : List Deed) : Engine :=
  deeds.foldl (perform setup) e

section Run

variable {queueCapacity : Nat} {channels : Array Channel} {deeds : List Deed}

/-- Nothing has been written on any channel. -/
lemma tidy_ofChannels (hunused : ∀ ch ∈ channels, ch.written = []) (c : Codec)
    (ref : ChannelRef) : Tidy c (.ofChannels queueCapacity channels) ref [] := by
  refine ⟨nofun, nofun, fun ch hch => ?_⟩
  obtain ⟨hlt, rfl⟩ := Array.getElem?_eq_some_iff.1 hch
  have hempty := hunused _ (Array.getElem_mem hlt)
  refine .idle (fun k s hs => nomatch hs.core) ?_
  rw [hempty]
  exact (c.joint_start none).loose

/-- What is torn off for the channel in a run is noted, and the channel begins with it. -/
lemma tidy_course (hstart : e.registry = .ofChannels queueCapacity channels)
    (hunused : ∀ ch ∈ channels, ch.written = [])
    (hproper : ∀ d ∈ deeds, d.Proper setup.codec)
    (hnew : EachStep (perform setup) (fun e d => e.reuses setup ref d = false) e deeds) :
    ∃ torn, (torn = [] ∨ torn ∈ e.tears setup ref deeds ∧
        ∃ begun, setup.codec.Makes (begun ++ torn)) ∧
      Tidy setup.codec (e.course setup deeds).registry ref torn := by
  induction deeds using List.reverseRecOn with
  | nil =>
    refine ⟨[], .inl rfl, ?_⟩
    rw [course, List.foldl_nil, hstart]
    exact tidy_ofChannels hunused setup.codec ref
  | append_singleton deeds d ih =>
    obtain ⟨hbefore, hlast⟩ := eachStep_concat.1 hnew
    obtain ⟨torn, htorn, htidy⟩ := ih (fun d hd => hproper d (List.mem_append_left _ hd)) hbefore
    have hd : d.Proper setup.codec :=
      hproper d (List.mem_append_right _ (List.mem_singleton_self d))
    have hconcat : e.course setup (deeds ++ [d]) = (e.course setup deeds).perform setup d :=
      List.foldl_concat ..
    have htears : e.tears setup ref (deeds ++ [d])
        = e.tears setup ref deeds ++ ((e.course setup deeds).tear setup ref d).toList :=
      gather_concat ..
    obtain ⟨torn', hcause, hafter⟩ := tidy_perform htidy hd hlast
    rw [hconcat, htears]
    refine ⟨torn', ?_, hafter⟩
    rcases hcause with rfl | hnone | hleft
    · rcases htorn with hnone | ⟨hmem, hend⟩
      · exact .inl hnone
      · exact .inr ⟨List.mem_append_left _ hmem, hend⟩
    · exact .inl hnone
    · refine .inr ⟨List.mem_append_right _ (by simp [hleft]), ?_⟩
      cases d with
      | registry d => exact htidy.exists_makes_of_tear hleft
      | _ => cases hleft

end Run

/-- **Channels carry whole frames.**  Nothing has been written on any channel at the start, and the
channel in question goes to a session only when nobody has it and nothing is on it.  Whatever is
done, with writes that take as little as they like: what has been written on it is whole frames and
at most the beginning of one more, so that it begins with the byte of a header, or else it was given
to a session that had written the beginning of a frame on another channel.  Then it carries the rest
of that frame, or a part of it, and whole frames after it. -/
theorem whole_or_torn (setup : Setup) (e : Engine) (queueCapacity : Nat) (channels : Array Channel)
    (deeds : List Deed) (ref : ChannelRef) (ch : Channel)
    (hstart : e.registry = .ofChannels queueCapacity channels)
    (hunused : ∀ ch ∈ channels, ch.written = [])
    (hproper : ∀ d ∈ deeds, d.Proper setup.codec)
    (hnew : EachStep (perform setup) (fun e d => e.reuses setup ref d = false) e deeds)
    (hch : (e.course setup deeds).registry.channel? ref = some ch) :
    (setup.codec.Whole ch.written ∧
        ∀ b, ch.written.head? = some b → ∃ h : Header, b = h.toByte) ∨
      ∃ left ∈ e.tears setup ref deeds, (∃ begun, setup.codec.Makes (begun ++ left)) ∧
        setup.codec.Loose left ch.written := by
  obtain ⟨torn, htorn, htidy⟩ := tidy_course hstart hunused hproper hnew
  have hloose : setup.codec.Loose torn ch.written := (htidy.stands ch hch).loose
  rcases htorn with rfl | ⟨hmem, hend⟩
  · have hwhole := hloose.whole
    exact .inl ⟨hwhole, fun b hb => hwhole.exists_header hb⟩
  · exact .inr ⟨torn, hmem, hend, hloose⟩

/-- A frame is written on the second channel of a session, half of another one on the first, and
then the second channel is replaced.  The one that takes its place carries a frame of its own. -/
theorem whole_on_channel_of_replaced_one :
    let channel (id : UInt64) (transport : Transport) (cap : Nat) : Channel :=
      .memory { id := ⟨id⟩, transport, cap := some cap }
    let packet (data : Bytes) (transport : Transport) : Packet :=
      { data, transport, recipients := [⟨1⟩] }
    let setup : Setup :=
      { codec := .plain, resolve := fun token => token.head?.map fun b => ⟨b.toUInt64⟩ }
    let channels : Array Channel :=
      #[channel 1 .stream 2, channel 2 .reliableUdp 3, channel 3 .reliableUdp 9]
    let e : Engine := { start 4 1 {} with registry := .ofChannels 4 channels }
    let deeds : List Deed := [.registry (.create ⟨0⟩), .registry (.activate ⟨1⟩),
      .registry (.bindPlayer ⟨1⟩ ⟨7⟩), .registry (.attach ⟨1⟩ [7]),
      .submit (packet [5] .reliableUdp), .write ⟨1⟩, .write ⟨1⟩, .submit (packet [6] .stream),
      .write ⟨1⟩, .registry (.attach ⟨2⟩ [7]), .write ⟨1⟩, .submit (packet [8] .reliableUdp),
      .write ⟨1⟩]
    ∃ ch, (e.course setup deeds).registry.channel? ⟨2⟩ = some ch ∧ ch.written = [17, 0, 1, 8] ∧
      setup.codec.Whole ch.written := by
  intro channel packet setup channels e deeds
  have hwritten : ((e.course setup deeds).registry.channel? ⟨2⟩).map Channel.written
      = some [17, 0, 1, 8] := by
    decide +kernel
  have hproper : ∀ d ∈ deeds, d.Proper setup.codec := by
    simp [deeds, packet, Deed.Proper, Registry.Deed.Proper]
  have hnew : EachStep (perform setup) (fun e d => e.reuses setup ⟨2⟩ d = false) e deeds := by
    decide +kernel
  have hnone : e.tears setup ⟨2⟩ deeds = [] := by decide +kernel
  obtain ⟨ch, hch, hbytes⟩ := Option.map_eq_some_iff.1 hwritten
  refine ⟨ch, hch, hbytes, ?_⟩
  rcases whole_or_torn setup e 4 channels deeds ⟨2⟩ ch rfl (by decide) hproper hnew hch with
    ⟨hwhole, -⟩ | ⟨left, hmem, -⟩
  · exact hwhole
  · rw [hnone] at hmem
    cases hmem

/-- One byte of a frame is written on the second channel of a session before it is replaced.  The
rest of the frame goes to the channel that takes its place, which begins with no byte of a
header. -/
theorem torn_frame_on_new_channel :
    let channel (id : UInt64) (transport : Transport) (cap : Nat) : Channel :=
      .memory { id := ⟨id⟩, transport, cap := some cap }
    let setup : Setup :=
      { codec := .plain, resolve := fun token => token.head?.map fun b => ⟨b.toUInt64⟩ }
    let channels : Array Channel :=
      #[channel 1 .stream 9, channel 2 .reliableUdp 1, channel 3 .reliableUdp 9]
    let e : Engine := { start 4 1 {} with registry := .ofChannels 4 channels }
    let deeds : List Deed := [.registry (.create ⟨0⟩), .registry (.activate ⟨1⟩),
      .registry (.bindPlayer ⟨1⟩ ⟨7⟩), .registry (.attach ⟨1⟩ [7]),
      .submit { data := [5], transport := .reliableUdp, recipients := [⟨1⟩] }, .write ⟨1⟩,
      .registry (.attach ⟨2⟩ [7]), .write ⟨1⟩]
    let written := fun ref => ((e.course setup deeds).registry.channel? ref).map Channel.written
    written ⟨1⟩ = some [17] ∧ written ⟨2⟩ = some [0, 1, 5] ∧ ¬ setup.codec.Whole [0, 1, 5] ∧
      ∀ h : Header, h.toByte ≠ 0 := by
  intro channel setup channels e deeds written
  have hheader : ∀ h : Header, h.toByte ≠ 0 := by
    intro h hzero
    have hread := Header.ofByte_toByte h
    rw [hzero] at hread
    cases hread
  refine ⟨by decide +kernel, by decide +kernel, fun hwhole => ?_, hheader⟩
  obtain ⟨h, hbyte⟩ := hwhole.exists_header rfl
  exact hheader h hbyte.symm

end Engine

end SessionServer
