/-
# A payload that is sent to many sessions

Recipients are put into groups by the transports they were opened on, and each group is sent one
packet, one group after the other.  A packet that could not be framed when others are submitted
already would leave the payload with some of its recipients.  That does not happen, since whether a
payload can be framed depends neither on the length field, which some groups need and others do
not, nor on the number of the packet, if encryption takes no notice of that.

Everything that is offered on the way is written down in a log (`Offer`), together with the engine
that it is offered in.  Offering a packet closes sessions at most, and changes nobody's transport
(`primaryTransport_offer`), so that everybody has a channel for what comes later, too.

Main results: groups hold each recipient once for each time it is named, in the order in which they
are named (`sorts_groupByPrimary`), and a payload is sent to all recipients or to none of them
(`sent_to_all_or_none`).
-/
import SessionServer.Engine.Broadcast
import SessionServer.Proofs.Frame.RoundTrip
import SessionServer.Proofs.Outbound.Recipients

namespace SessionServer

/-! ## Framing one payload in several ways -/

namespace Codec

variable {c : Codec} {m n : UInt64} {payload : Bytes} {options options' : EncodeOptions}

/-- What encryption makes of a payload depends on the payload only. -/
def Steady (c : Codec) : Prop :=
  ∀ plugIn ∈ c.encryptor, ∀ m n data, plugIn.encrypt m data = plugIn.encrypt n data

lemma Steady.protect_eq (h : c.Steady) (m n : UInt64) (payload : Bytes) (wanted : Bool) :
    c.protect m payload wanted = c.protect n payload wanted := by
  unfold protect
  cases hc : c.encryptor with
  | none => rfl
  | some plugIn => simp only [h plugIn hc m n payload]

/-- A payload can be framed with and without a length field, and under any number. -/
lemma Steady.exists_encode (h : c.Steady) (hok : ∃ frame, c.encode m payload options = .ok frame)
    (hwanted : options'.encrypted = options.encrypted) :
    ∃ frame, c.encode n payload options' = .ok frame := by
  obtain ⟨frame, hframe⟩ := hok
  obtain ⟨data, encrypted, body, compressed, hprotect, hshrink, hlength, -⟩ :=
    encode_eq_ok_iff.1 hframe
  rw [h.protect_eq m n, ← hwanted] at hprotect
  exact ⟨_, encode_eq_ok_iff.2
    ⟨data, encrypted, body, compressed, hprotect, hshrink, hlength, rfl⟩⟩

end Codec

/-! ## Groups -/

section Groups

variable {transportOf : SessionId → Option Transport} {ids : List SessionId} {id : SessionId}
  {t : Transport} {groups : List RecipientGroup}

/-- Some sessions are put into groups by their transports. -/
structure Sorts (transportOf : SessionId → Option Transport) (ids : List SessionId)
    (groups : List RecipientGroup) : Prop where
  /-- No two groups have the same transport. -/
  nodup : (groups.map (·.1)).Nodup
  ne_nil : ∀ g ∈ groups, g.2 ≠ []
  /-- A group has all sessions of its transport, in order. -/
  eq_filter : ∀ g ∈ groups, g.2 = ids.filter (transportOf · = some g.1)
  /-- Nobody is left out, and nobody is put into two groups. -/
  perm : (groups.flatMap (·.2)).Perm (ids.filter fun id => (transportOf id).isSome)

lemma perm_addToGroup (t : Transport) (id : SessionId) (groups : List RecipientGroup) :
    ((addToGroup t id groups).flatMap (·.2)).Perm (groups.flatMap (·.2) ++ [id]) := by
  induction groups with
  | nil => exact List.Perm.refl _
  | cons group groups ih =>
    obtain ⟨u, us⟩ := group
    by_cases hu : u = t
    · simp only [addToGroup, hu, if_true, List.flatMap_cons, List.append_assoc]
      exact List.perm_append_comm.append_left us
    · simp only [addToGroup, hu, if_false, List.flatMap_cons, List.append_assoc]
      exact ih.append_left us

/-- A group stays as it was, or it is the group of the transport and gets one more. -/
lemma mem_addToGroup {g : RecipientGroup} (hnodup : (groups.map (·.1)).Nodup)
    (hg : g ∈ addToGroup t id groups) :
    (g ∈ groups ∧ g.1 ≠ t) ∨ (∃ us, (t, us) ∈ groups ∧ g = (t, us ++ [id])) ∨
      (t ∉ groups.map (·.1) ∧ g = (t, [id])) := by
  induction groups with
  | nil => exact .inr (.inr ⟨List.not_mem_nil, List.mem_singleton.1 hg⟩)
  | cons group groups ih =>
    obtain ⟨u, us⟩ := group
    obtain ⟨hnew, hrest⟩ := List.nodup_cons.1 hnodup
    by_cases hu : u = t
    · subst hu
      rw [addToGroup, if_pos rfl] at hg
      rcases List.mem_cons.1 hg with rfl | hmem
      · exact .inr (.inl ⟨us, List.mem_cons_self, rfl⟩)
      · refine .inl ⟨List.mem_cons_of_mem _ hmem, fun heq => hnew ?_⟩
        exact List.mem_map.2 ⟨g, hmem, heq⟩
    · rw [addToGroup, if_neg hu] at hg
      rcases List.mem_cons.1 hg with rfl | hmem
      · exact .inl ⟨List.mem_cons_self, hu⟩
      · rcases ih hrest hmem with ⟨hold, hne⟩ | ⟨us', hold, rfl⟩ | ⟨hnone, rfl⟩
        · exact .inl ⟨List.mem_cons_of_mem _ hold, hne⟩
        · exact .inr (.inl ⟨us', List.mem_cons_of_mem _ hold, rfl⟩)
        · refine .inr (.inr ⟨fun hmem => ?_, rfl⟩)
          rcases List.mem_cons.1 hmem with heq | hmem
          · exact hu heq.symm
          · exact hnone hmem

/-- One more session is put into its group. -/
lemma Sorts.add (h : Sorts transportOf ids groups) (hid : transportOf id = some t) :
    Sorts transportOf (ids ++ [id]) (addToGroup t id groups) where
  nodup := by
    rw [transports_addToGroup]
    split_ifs with hmem
    · exact h.nodup
    · refine List.nodup_append.2 ⟨h.nodup, List.nodup_singleton t, fun u hu v hv heq => hmem ?_⟩
      rwa [← List.mem_singleton.1 hv, ← heq]
  ne_nil g hg := by
    rcases mem_addToGroup h.nodup hg with ⟨hold, -⟩ | ⟨us, -, rfl⟩ | ⟨-, rfl⟩
    · exact h.ne_nil g hold
    · simp
    · simp
  eq_filter g hg := by
    rw [List.filter_append]
    rcases mem_addToGroup h.nodup hg with ⟨hold, hne⟩ | ⟨us, hold, rfl⟩ | ⟨hnone, rfl⟩
    · have hother : [id].filter (transportOf · = some g.1) = [] := by
        simp [hid, Ne.symm hne]
      rw [hother, List.append_nil]
      exact h.eq_filter g hold
    · rw [← h.eq_filter (t, us) hold]
      simp [hid]
    · -- nobody before had the transport, or there would be a group for it
      have hfirst : ids.filter (transportOf · = some t) = [] := by
        rw [List.filter_eq_nil_iff]
        intro j hj htransport
        have hj' : transportOf j = some t := of_decide_eq_true htransport
        have hsome : j ∈ ids.filter fun id => (transportOf id).isSome := by
          simp [hj, hj']
        obtain ⟨group, hgroup, hjgroup⟩ := List.mem_flatMap.1 (h.perm.mem_iff.2 hsome)
        rw [h.eq_filter group hgroup] at hjgroup
        have htransport' : transportOf j = some group.1 :=
          of_decide_eq_true (List.mem_filter.1 hjgroup).2
        have heq : group.1 = t := Option.some.inj (htransport'.symm.trans hj')
        exact hnone (List.mem_map.2 ⟨group, hgroup, heq⟩)
      rw [hfirst]
      simp [hid]
  perm := by
    have hlast : [id].filter (fun id => (transportOf id).isSome) = [id] := by simp [hid]
    rw [List.filter_append, hlast]
    exact (perm_addToGroup t id groups).trans (h.perm.append_right [id])

end Groups

namespace Engine

open Registry (Fades)

variable {e e' : Engine} {setup : Setup} {p : Packet} {ps : List Packet} {k : SessionId}
  {ids : List SessionId} {payload : Bytes} {options : SendOptions} {groups : List RecipientGroup}
  {total : SubmitReport} {reports : List SubmitReport}

lemma sorts_groupByPrimary (e : Engine) (ids : List SessionId) :
    Sorts e.primaryTransport ids (e.groupByPrimary ids) := by
  induction ids using List.reverseRecOn with
  | nil => exact ⟨List.nodup_nil, nofun, nofun, List.Perm.refl _⟩
  | append_singleton ids id ih =>
    unfold groupByPrimary at ih ⊢
    rw [List.foldl_concat]
    cases hid : e.primaryTransport id with
    | some t => exact ih.add hid
    | none =>
      have hnone (test : Option Transport → Bool) (htest : test none = false) :
          (ids ++ [id]).filter (fun j => test (e.primaryTransport j))
            = ids.filter fun j => test (e.primaryTransport j) := by
        simp [List.filter_append, hid, htest]
      refine ⟨ih.nodup, ih.ne_nil, fun g hg => ?_, ?_⟩
      · rw [ih.eq_filter g hg]
        exact (hnone (· = some g.1) rfl).symm
      · rw [hnone Option.isSome rfl]
        exact ih.perm

lemma groupByPrimary_eq_nil_iff (hknown : ∀ id ∈ ids, (e.primaryTransport id).isSome = true) :
    e.groupByPrimary ids = [] ↔ ids = [] := by
  refine ⟨fun hnil => ?_, fun hnil => hnil ▸ rfl⟩
  rw [List.eq_nil_iff_forall_not_mem]
  intro id hid
  have hmem : id ∈ (e.groupByPrimary ids).flatMap (·.2) :=
    (sorts_groupByPrimary e ids).perm.mem_iff.2 (List.mem_filter.2 ⟨hid, hknown id hid⟩)
  rw [hnil] at hmem
  exact absurd hmem List.not_mem_nil

/-! ## The log -/

/-- A packet is offered to a session. -/
structure Offer where
  engine : Engine
  packet : Packet
  recipient : SessionId

/-- What the session answers. -/
def Offer.answer (o : Offer) : Except SessionError Admission :=
  (o.engine.registry.enqueue o.recipient o.packet).1

/-- How many packets are queued and how many are lost by that. -/
def Offer.counts (o : Offer) : ℕ × ℕ := (o.engine.offer o.packet o.recipient).1

/-- What is offered when a packet is offered to some sessions. -/
def offerLog (p : Packet) : List SessionId → Engine → List Offer
  | [], _ => []
  | id :: ids, e => ⟨e, p, id⟩ :: offerLog p ids (e.offer p id).2

/-- What is offered when a packet is submitted. -/
def submitLog (setup : Setup) (e : Engine) (p : Packet) : List Offer :=
  match e.frame setup p with
  | .error _ => []
  | .ok frame =>
    offerLog (e.finished p frame) p.recipients { e with nextPacketId := e.nextPacketId + 1 }

/-- What is offered when some packets are submitted, one after the other. -/
def sendLog (setup : Setup) : List Packet → Engine → List Offer
  | [], _ => []
  | p :: ps, e => e.submitLog setup p ++ sendLog setup ps (e.submit setup p).2

/-- Some packets are submitted one after the other, and all of them can be framed. -/
inductive Submissions (setup : Setup) : List Packet → List SubmitReport → Engine → Engine → Prop
  | nil {e : Engine} : Submissions setup [] [] e e
  | cons {p : Packet} {ps : List Packet} {report : SubmitReport} {reports : List SubmitReport}
      {e e₁ e' : Engine} (hfirst : e.submit setup p = (.ok report, e₁))
      (hrest : Submissions setup ps reports e₁ e') :
      Submissions setup (p :: ps) (report :: reports) e e'

lemma recipients_offerLog (p : Packet) (ids : List SessionId) (e : Engine) :
    (offerLog p ids e).map (·.recipient) = ids := by
  induction ids generalizing e with
  | nil => rfl
  | cons id ids ih => rw [offerLog, List.map_cons, ih]

lemma counts_offerLog (p : Packet) (ids : List SessionId) (e : Engine) :
    (offerAll p ids e).1
      = (((offerLog p ids e).map (·.counts.1)).sum, ((offerLog p ids e).map (·.counts.2)).sum) := by
  induction ids generalizing e with
  | nil => rfl
  | cons id ids ih =>
    simp only [offerAll, offerLog, List.map_cons, List.sum_cons, ih]
    rfl

/-- What a submission that goes well comes to. -/
lemma exists_frame_of_submit {report : SubmitReport} (h : (e.submit setup p).1 = .ok report) :
    ∃ frame, e.frame setup p = .ok frame ∧ report.id = e.nextPacketId ∧
      (e.submitLog setup p).map (·.recipient) = p.recipients ∧
      report.queued = ((e.submitLog setup p).map (·.counts.1)).sum ∧
      report.dropped = ((e.submitLog setup p).map (·.counts.2)).sum := by
  cases hf : e.frame setup p with
  | error err =>
    rw [submit_of_frame_error hf] at h
    exact absurd h nofun
  | ok frame =>
    rw [report_of_frame hf, counts_offerLog] at h
    obtain rfl := Except.ok.inj h
    have hlog : e.submitLog setup p = offerLog (e.finished p frame) p.recipients
        { e with nextPacketId := e.nextPacketId + 1 } := by
      rw [submitLog, hf]
    exact ⟨frame, rfl, rfl, by rw [hlog, recipients_offerLog], by rw [hlog], by rw [hlog]⟩

lemma Submissions.recipients_sendLog (h : Submissions setup ps reports e e') :
    (sendLog setup ps e).map (·.recipient) = ps.flatMap (·.recipients) := by
  induction h with
  | nil => rfl
  | cons hfirst hrest ih =>
    obtain ⟨-, -, -, hrecipients, -⟩ := exists_frame_of_submit (congrArg Prod.fst hfirst)
    rw [sendLog, List.map_append, hrecipients, hfirst, ih, List.flatMap_cons]

lemma Submissions.counts_sendLog (h : Submissions setup ps reports e e') :
    (reports.map (·.queued)).sum = ((sendLog setup ps e).map (·.counts.1)).sum ∧
      (reports.map (·.dropped)).sum = ((sendLog setup ps e).map (·.counts.2)).sum := by
  induction h with
  | nil => exact ⟨rfl, rfl⟩
  | cons hfirst hrest ih =>
    obtain ⟨-, -, -, -, hqueued, hdropped⟩ := exists_frame_of_submit (congrArg Prod.fst hfirst)
    simp only [sendLog, hfirst, List.map_cons, List.map_append, List.sum_cons, List.sum_append, ih,
      hqueued, hdropped, and_self]

lemma Submissions.id_head (h : Submissions setup ps reports e e') :
    ∀ report ∈ reports.head?, report.id = e.nextPacketId := by
  cases h with
  | nil => exact nofun
  | cons hfirst hrest =>
    rintro report hreport
    obtain rfl := Option.some.inj hreport
    obtain ⟨-, -, hid, -⟩ := exists_frame_of_submit (congrArg Prod.fst hfirst)
    exact hid

/-! ## Everybody has a channel -/

/-- Nobody's transport is changed when a packet is offered. -/
lemma primaryTransport_offer (hr : e.registry.Keyed) (p : Packet) (j k : SessionId) :
    (e.offer p j).2.primaryTransport k = e.primaryTransport k := by
  have htends := tends_offer hr p j
  obtain ⟨f, hf⟩ := htends.session? k
  unfold primaryTransport
  cases hs : e.registry.session? k with
  | none =>
    rw [hs, Option.map_none, ite_self] at hf
    rw [hf]
    rfl
  | some s =>
    have hsession : ∃ s', (e.offer p j).2.registry.session? k = some s' ∧
        s'.primary = s.primary := by
      rw [hs] at hf
      by_cases hk : k = j
      · subst hk
        rw [if_pos rfl, Option.map_some] at hf
        exact ⟨f s, hf, (htends.ages s (f s) hs hf).primary_eq⟩
      · exact ⟨s, hf.trans (if_neg hk), rfl⟩
    obtain ⟨s', hs', hprimary⟩ := hsession
    obtain ⟨g, hg, hchannel⟩ := fades_offer e p j s.primary
    rw [hs', Option.bind_some, Option.bind_some, hprimary, hchannel, Option.map_map]
    exact congrArg (Option.map · _) (funext fun c => (hg c).transport_eq)

/-- A session takes packets for the transport that it was opened on. -/
lemma enqueue_ne_noBinding (h : e.primaryTransport k = some p.transport) (j : SessionId)
    (t : Transport) : (e.registry.enqueue k p).1 ≠ .error (.noBinding j t) := by
  obtain ⟨c, hc, htransport⟩ := Option.map_eq_some_iff.1 h
  obtain ⟨s, hs, hprimary⟩ := Option.bind_eq_some_iff.1 hc
  have hcarries : e.registry.carries p.transport s.primary = true := by
    simp [Registry.carries, hprimary, htransport]
  have hbound : (e.registry.channelFor s p.transport).isNone = false := by
    simp [Registry.channelFor, hcarries]
  simp only [Registry.enqueue, hs, hbound, Bool.false_eq_true, if_false]
  split_ifs
  · simp
  · unfold Registry.offer
    split <;> simp

/-- A packet that carries the payload is offered to a session for the transport that the session was
opened on, and has a length field if the transport needs one. -/
structure Offer.Proper (setup : Setup) (options : SendOptions) (payload : Bytes)
    (transportOf : SessionId → Option Transport) (o : Offer) : Prop where
  transport : transportOf o.recipient = some o.packet.transport
  counting : o.packet.counting = o.packet.transport.needsCounting
  packet : o.packet
    = (options.packet payload o.packet.transport []).encoded o.packet.id o.packet.data
  framed : setup.codec.encode o.packet.id payload
      { dataType := options.dataType
        counting := o.packet.counting
        encrypted := options.encrypted }
    = .ok o.packet.data
  bound : ∀ k t, o.answer ≠ .error (.noBinding k t)

/-- What holds of all sessions before a packet is offered holds of them in the log. -/
lemma primaryTransport_of_mem_offerLog (hr : e.registry.Keyed) {o : Offer}
    (ho : o ∈ offerLog p ids e) :
    o.packet = p ∧ o.recipient ∈ ids ∧ o.engine.primaryTransport = e.primaryTransport := by
  induction ids generalizing e with
  | nil => exact absurd ho List.not_mem_nil
  | cons id ids ih =>
    rcases List.mem_cons.1 ho with rfl | hmem
    · exact ⟨rfl, List.mem_cons_self, rfl⟩
    · obtain ⟨hpacket, hrecipient, htransports⟩ := ih (hr.of_later (later_offer hr p id)) hmem
      exact ⟨hpacket, List.mem_cons_of_mem id hrecipient,
        htransports.trans (funext (primaryTransport_offer hr p id))⟩

lemma primaryTransport_offerAll (hr : e.registry.Keyed) (p : Packet) (ids : List SessionId) :
    (offerAll p ids e).2.primaryTransport = e.primaryTransport := by
  induction ids generalizing e with
  | nil => rfl
  | cons id ids ih =>
    exact (ih (hr.of_later (later_offer hr p id))).trans (funext (primaryTransport_offer hr p id))

lemma keyed_submit (hr : e.registry.Keyed) (setup : Setup) (p : Packet) :
    (e.submit setup p).2.registry.Keyed := by
  cases hf : e.frame setup p with
  | error err => rwa [submit_of_frame_error hf]
  | ok frame =>
    rw [submit_of_frame hf]
    exact hr.of_later (later_offerAll (e := { e with nextPacketId := e.nextPacketId + 1 }) _ _ hr)

lemma primaryTransport_submit (hr : e.registry.Keyed) (setup : Setup) (p : Packet) :
    (e.submit setup p).2.primaryTransport = e.primaryTransport := by
  cases hf : e.frame setup p with
  | error err => rw [submit_of_frame_error hf]
  | ok frame =>
    obtain ⟨writer, hsubmit⟩ := exists_writer_submit hf
    rw [hsubmit]
    exact primaryTransport_offerAll (e := { e with nextPacketId := e.nextPacketId + 1 }) hr _ _

/-- One packet is submitted for sessions that were opened on its transport. -/
lemma proper_of_mem_submitLog (hr : e.registry.Keyed) {t : Transport}
    (hids : ∀ id ∈ ids, e.primaryTransport id = some t) {o : Offer}
    (ho : o ∈ e.submitLog setup (options.packet payload t ids)) :
    o.Proper setup options payload e.primaryTransport := by
  unfold submitLog at ho
  cases hf : e.frame setup (options.packet payload t ids) with
  | error err =>
    rw [hf] at ho
    exact absurd ho List.not_mem_nil
  | ok frame =>
    rw [hf] at ho
    obtain ⟨hpacket, hrecipient, htransports⟩ :=
      primaryTransport_of_mem_offerLog (e := { e with nextPacketId := e.nextPacketId + 1 }) hr ho
    have htransport : e.primaryTransport o.recipient = some t := hids o.recipient hrecipient
    exact
      { transport := by rw [hpacket]; exact htransport
        counting := by rw [hpacket]; rfl
        packet := by rw [hpacket]; rfl
        framed := by rw [hpacket]; exact hf
        bound := enqueue_ne_noBinding (by rw [htransports, hpacket]; exact htransport) }

lemma proper_of_mem_sendLog (hr : e.registry.Keyed)
    (hgroups : ∀ g ∈ groups, ∀ id ∈ g.2, e.primaryTransport id = some g.1) {o : Offer}
    (ho : o ∈ sendLog setup (groups.map fun g => options.packet payload g.1 g.2) e) :
    o.Proper setup options payload e.primaryTransport := by
  induction groups generalizing e with
  | nil => exact absurd ho List.not_mem_nil
  | cons g groups ih =>
    have hsame := primaryTransport_submit hr setup (options.packet payload g.1 g.2)
    rw [List.map_cons, sendLog] at ho
    rcases List.mem_append.1 ho with hfirst | hrest
    · exact proper_of_mem_submitLog hr (hgroups g List.mem_cons_self) hfirst
    · have hproper := ih (keyed_submit hr setup _)
        (fun group hgroup id hid => by
          rw [hsame]
          exact hgroups group (List.mem_cons_of_mem g hgroup) id hid) hrest
      rwa [hsame] at hproper

/-! ## All or none -/

/-- The payload can be framed. -/
def Framable (setup : Setup) (options : SendOptions) (payload : Bytes) : Prop :=
  ∃ frame, setup.codec.encode 0 payload { encrypted := options.encrypted } = .ok frame

/-- A payload that can be framed at all can be framed for every transport and in every engine. -/
lemma framable_iff (hsteady : setup.codec.Steady) (e : Engine) (t : Transport)
    (ids : List SessionId) :
    Framable setup options payload
      ↔ ∃ frame, e.frame setup (options.packet payload t ids) = .ok frame :=
  ⟨fun h => hsteady.exists_encode h rfl, fun h => hsteady.exists_encode h rfl⟩

/-- All groups are sent a packet, or the first one cannot be, and nothing happens. -/
lemma sendGroups_cases (hsteady : setup.codec.Steady) (options : SendOptions) (payload : Bytes)
    (hne : ∀ g ∈ groups, g.2 ≠ []) (total : SubmitReport) (e : Engine) :
    ((groups = [] ∨ Framable setup options payload) ∧ ∃ reports e',
      Submissions setup (groups.map fun g => options.packet payload g.1 g.2) reports e e' ∧
        sendGroups setup options payload groups total e
          = (.ok (reports.foldl addReport total), e')) ∨
      groups ≠ [] ∧ ¬ Framable setup options payload ∧
        ∃ err, sendGroups setup options payload groups total e = (.error err, e) := by
  induction groups generalizing total e with
  | nil => exact .inl ⟨.inl rfl, [], e, .nil, rfl⟩
  | cons g groups ih =>
    obtain ⟨t, ids⟩ := g
    have hids : ids.isEmpty = false := by simpa using hne (t, ids) List.mem_cons_self
    rw [sendGroups, hids, if_neg Bool.false_ne_true]
    cases hf : e.frame setup (options.packet payload t ids) with
    | error err =>
      refine .inr ⟨List.cons_ne_nil _ _, fun hframable => ?_, err, ?_⟩
      · obtain ⟨frame, hframe⟩ := (framable_iff hsteady e t ids).1 hframable
        exact absurd (hf.symm.trans hframe) nofun
      · rw [submit_of_frame_error hf]
    | ok frame =>
      have hframable : Framable setup options payload :=
        (framable_iff hsteady e t ids).2 ⟨frame, hf⟩
      obtain ⟨report, hreport⟩ :
          ∃ report, (e.submit setup (options.packet payload t ids)).1 = .ok report :=
        ⟨_, report_of_frame hf⟩
      have hfirst : e.submit setup (options.packet payload t ids)
          = (.ok report, (e.submit setup (options.packet payload t ids)).2) :=
        Prod.ext hreport rfl
      -- what can be framed for one group can be framed for those that are left
      rcases ih (fun group hgroup => hne group (List.mem_cons_of_mem _ hgroup))
          (addReport total report) (e.submit setup (options.packet payload t ids)).2 with
        ⟨-, reports, e', hrest, hsend⟩ | ⟨-, hnot, -⟩
      · refine .inl ⟨.inr hframable, report :: reports, e', .cons hfirst hrest, ?_⟩
        rw [hfirst]
        exact hsend
      · exact absurd hframable hnot

/-- The report adds the others up, and has the first number among theirs that is not zero. -/
structure SumsUp (report : SubmitReport) (reports : List SubmitReport) : Prop where
  id : report.id = ((reports.map (·.id)).find? (· ≠ 0)).getD 0
  queued : report.queued = (reports.map (·.queued)).sum
  dropped : report.dropped = (reports.map (·.dropped)).sum

lemma sumsUp_foldl_addReport (reports : List SubmitReport) :
    SumsUp (reports.foldl addReport ⟨0, 0, 0⟩) reports := by
  -- a total that something is counted in already is one more report
  have hfoldl (total : SubmitReport) :
      SumsUp (reports.foldl addReport total) (total :: reports) := by
    induction reports generalizing total with
    | nil =>
      obtain ⟨id, queued, dropped⟩ := total
      by_cases hid : id = 0 <;> exact ⟨by simp [hid], by simp, by simp⟩
    | cons report reports ih =>
      obtain ⟨id, queued, dropped⟩ := ih (addReport total report)
      refine ⟨?_, ?_, ?_⟩
      · rw [List.foldl_cons, id]
        simp only [List.map_cons, List.find?_cons, addReport]
        by_cases hid : total.id = 0 <;> simp [hid]
      · rw [List.foldl_cons, queued]
        simp [addReport, Nat.add_assoc]
      · rw [List.foldl_cons, dropped]
        simp [addReport, Nat.add_assoc]
  obtain ⟨id, queued, dropped⟩ := hfoldl ⟨0, 0, 0⟩
  exact ⟨by simpa using id, by simpa using queued, by simpa using dropped⟩

/-- The packets that a payload is sent in. -/
def packetsFor (e : Engine) (recipients : List SessionId) (payload : Bytes)
    (options : SendOptions) : List Packet :=
  (e.groupByPrimary recipients).map fun g => options.packet payload g.1 g.2

/-- A payload was sent to all recipients. -/
structure Completes (setup : Setup) (e e' : Engine) (recipients : List SessionId) (payload : Bytes)
    (options : SendOptions) (report : SubmitReport) : Prop where
  /-- Each group has a transport of its own and all recipients of that transport, in order. -/
  sorts : Sorts e.primaryTransport recipients (e.groupByPrimary recipients)
  /-- The groups have all recipients, and each as often as it was named. -/
  perm : ((e.groupByPrimary recipients).flatMap (·.2)).Perm recipients
  /-- Each group is sent a packet, and the report adds up what is reported on these.  It has the
  number of the first packet; a zero counts as no number, which is where numbers come round. -/
  submissions : ∃ reports,
    Submissions setup (e.packetsFor recipients payload options) reports e e' ∧
      SumsUp report reports ∧
      (e.nextPacketId ≠ 0 → report.id = (reports.head?.map (·.id)).getD 0)
  /-- Each recipient is offered one packet each time that it is in a group. -/
  recipients_sendLog : (sendLog setup (e.packetsFor recipients payload options) e).map (·.recipient)
    = (e.groupByPrimary recipients).flatMap (·.2)
  /-- What it is offered is the payload on its own transport. -/
  proper : ∀ o ∈ sendLog setup (e.packetsFor recipients payload options) e,
    o.Proper setup options payload e.primaryTransport
  queued : report.queued
    = ((sendLog setup (e.packetsFor recipients payload options) e).map (·.counts.1)).sum
  dropped : report.dropped
    = ((sendLog setup (e.packetsFor recipients payload options) e).map (·.counts.2)).sum

lemma Submissions.completes {recipients : List SessionId} (hr : e.registry.Keyed)
    (hknown : ∀ id ∈ recipients, (e.primaryTransport id).isSome = true)
    (h : Submissions setup (e.packetsFor recipients payload options) reports e e') :
    Completes setup e e' recipients payload options (reports.foldl addReport ⟨0, 0, 0⟩) := by
  have hsorts := sorts_groupByPrimary e recipients
  have hsums := sumsUp_foldl_addReport reports
  obtain ⟨hqueued, hdropped⟩ := h.counts_sendLog
  refine ⟨hsorts, ?_, ⟨reports, h, hsums, fun hpos => ?_⟩, ?_, fun o ho => ?_,
    hsums.queued.trans hqueued, hsums.dropped.trans hdropped⟩
  · have hall : recipients.filter (fun id => (e.primaryTransport id).isSome) = recipients :=
      List.filter_eq_self.2 hknown
    exact hsorts.perm.trans (List.Perm.of_eq hall)
  · rw [hsums.id]
    cases reports with
    | nil => rfl
    | cons report reports =>
      have hid : report.id ≠ 0 := h.id_head report rfl ▸ hpos
      simp [hid]
  · rw [h.recipients_sendLog, packetsFor, List.flatMap_map]
    rfl
  · refine proper_of_mem_sendLog hr (fun g hg id hid => ?_) ho
    rw [hsorts.eq_filter g hg] at hid
    exact of_decide_eq_true (List.mem_filter.1 hid).2

/-- **A payload is sent to all recipients or to none.**  It is sent to any number of sessions, which
may be named more than once, and to each of them on the transport of the channel that it was opened
on.  Encryption takes no notice of the numbers of packets.  If that fails nothing has changed at
all, and it fails exactly if there are recipients and the payload cannot be framed.  Otherwise each
recipient is offered the payload once for each time that it is named (`Completes`). -/
theorem sent_to_all_or_none (setup : Setup) (queueCapacity shards : ℕ) (config : DispatcherConfig)
    (os : List Occurrence) (recipients : List SessionId) (payload : Bytes) (options : SendOptions) :
    let start := Engine.start queueCapacity shards config
    let e := start.undergo setup os
    let result := (e.send setup recipients payload options).1
    let e' := (e.send setup recipients payload options).2
    setup.codec.Steady → options.transport = none →
    (∀ id ∈ recipients, (e.primaryTransport id).isSome = true) →
      (∀ err, result = .error err → e' = e) ∧
      ((∃ err, result = .error err) ↔ recipients ≠ [] ∧ ¬ Framable setup options payload) ∧
      ∀ report, result = .ok report → Completes setup e e' recipients payload options report := by
  intro start e result e' hsteady htransport hknown
  have hr : e.registry.Keyed := keyed_undergo setup
  have hsorts := sorts_groupByPrimary e recipients
  have hsend : e.send setup recipients payload options
      = sendGroups setup options payload (e.groupByPrimary recipients) ⟨0, 0, 0⟩ e := by
    rw [send, recipientGroups, htransport]
  have hempty := groupByPrimary_eq_nil_iff hknown
  rcases sendGroups_cases hsteady options payload hsorts.ne_nil ⟨0, 0, 0⟩ e with
    ⟨hcan, reports, e₁, hsubmissions, hout⟩ | ⟨hne, hnot, err, hout⟩
  · have hresult : result = .ok (reports.foldl addReport ⟨0, 0, 0⟩) :=
      congrArg Prod.fst (hsend.trans hout)
    have he' : e' = e₁ := congrArg Prod.snd (hsend.trans hout)
    refine ⟨fun err herr => absurd (hresult.symm.trans herr) nofun,
      ⟨fun ⟨err, herr⟩ => absurd (hresult.symm.trans herr) nofun, fun ⟨hsome, hnot⟩ => ?_⟩,
      fun report hreport => ?_⟩
    · exact absurd (hcan.resolve_right hnot) (mt hempty.1 hsome)
    · obtain rfl := Except.ok.inj (hresult.symm.trans hreport)
      exact he' ▸ hsubmissions.completes hr hknown
  · have hresult : result = .error err := congrArg Prod.fst (hsend.trans hout)
    exact ⟨fun _ _ => congrArg Prod.snd (hsend.trans hout),
      ⟨fun _ => ⟨mt hempty.2 hne, hnot⟩, fun _ => ⟨err, hresult⟩⟩,
      fun report hreport => absurd (hresult.symm.trans hreport) nofun⟩

/-- One recipient is named twice and has no room for the payload the second time.  The encryption
fails on payloads that are longer than three bytes. -/
theorem sent_to_all_twice_and_to_none :
    let encryptor : Encryptor :=
      { encrypt := fun _ data =>
          if data.length ≤ 3 then .ok data.reverse else .error (.encryption "")
        decrypt := fun data => .ok data.reverse }
    let setup : Setup := { codec := ⟨{ compressionThreshold := 0 }, none, some encryptor⟩ }
    let os : List Occurrence := [.channel (.stream { id := ⟨51⟩ }),
      .channel (.memory { id := ⟨52⟩, transport := .textSocket }),
      .channel (.stream { id := ⟨53⟩ }), .operation (.registry (.create ⟨0⟩)),
      .operation (.registry (.create ⟨1⟩)), .operation (.registry (.create ⟨2⟩))]
    let e := (Engine.start 1 2 {}).undergo setup os
    let recipients : List SessionId := [⟨2⟩, ⟨1⟩, ⟨3⟩, ⟨1⟩]
    let options : SendOptions := { encrypted := true }
    e.groupByPrimary recipients = [(.textSocket, [⟨2⟩]), (.stream, [⟨1⟩, ⟨3⟩, ⟨1⟩])] ∧
      (e.send setup recipients [7, 8] options).1 = .ok ⟨1, 3, 1⟩ ∧
      Completes setup e (e.send setup recipients [7, 8] options).2 recipients [7, 8] options
        ⟨1, 3, 1⟩ ∧
      (e.send setup recipients [7, 8, 9, 10] options).2 = e := by
  intro encryptor setup os e recipients options
  have hsteady : setup.codec.Steady := by
    rintro plugIn hplugIn m n data
    obtain rfl := Option.some.inj hplugIn
    rfl
  have hknown : ∀ id ∈ recipients, (e.primaryTransport id).isSome = true := by decide +kernel
  have hsent : (e.send setup recipients [7, 8] options).1 = .ok ⟨1, 3, 1⟩ := by decide +kernel
  obtain ⟨-, -, hall⟩ :=
    sent_to_all_or_none setup 1 2 {} os recipients [7, 8] options hsteady rfl hknown
  obtain ⟨hnone, -⟩ :=
    sent_to_all_or_none setup 1 2 {} os recipients [7, 8, 9, 10] options hsteady rfl hknown
  exact ⟨by decide +kernel, hsent, hall _ hsent, hnone (.encryption "") (by decide +kernel)⟩

end Engine

end SessionServer
