/-
# Frames in pieces

A channel takes frames in pieces.  What it has taken consists of whole frames and perhaps the
beginning of one more, whose rest waits at the front of a queue.  But the rest waits with the
packet, and says nothing of the channel that has the beginning: a channel that comes later is given
the *torn* end of a frame first.  Here it is said how the bytes on a channel and the rest in the
queue fit together, whether the channel began with a torn frame or not.

Main results: the two keep fitting when a packet is written to its end (`Joint.finish`) or in part
(`Joint.split`), and where they fit, what is on the channel is whole after the torn end
(`Joint.loose`).
-/
import SessionServer.Proofs.Frame.RoundTrip
import SessionServer.Proofs.Outbound.Queue

namespace SessionServer

namespace Codec

variable {c : Codec} {torn written frame : Bytes} {left : Option Bytes} {n : ℕ}

/-- The bytes are a frame that the codec makes of some payload. -/
def Makes (c : Codec) (frame : Bytes) : Prop :=
  ∃ serial payload options, c.encode serial payload options = .ok frame

/-- The bytes are whole frames and at most the beginning of one more. -/
def Whole (c : Codec) (bytes : Bytes) : Prop :=
  ∃ (frames : List Bytes) (part : Bytes), bytes = frames.flatten ++ part ∧
    (∀ f ∈ frames, c.Makes f) ∧ (part = [] ∨ ∃ rest, rest ≠ [] ∧ c.Makes (part ++ rest))

/-- A frame begins with the byte of a header. -/
lemma Makes.exists_header (h : c.Makes frame) : ∃ h : Header, frame.head? = some h.toByte := by
  obtain ⟨serial, payload, options, hframe⟩ := h
  obtain ⟨data, encrypted, body, compressed, -, -, -, rfl⟩ := encode_eq_ok_iff.1 hframe
  exact ⟨_, rfl⟩

lemma whole_nil : c.Whole [] := ⟨[], [], rfl, nofun, .inl rfl⟩

lemma whole_flatten {frames : List Bytes} (h : ∀ f ∈ frames, c.Makes f) :
    c.Whole frames.flatten :=
  ⟨frames, [], (List.append_nil _).symm, h, .inl rfl⟩

/-- What begins with a frame or a beginning of one begins with the byte of a header. -/
lemma Whole.exists_header {bytes : Bytes} {b : UInt8} (h : c.Whole bytes)
    (hb : bytes.head? = some b) : ∃ h : Header, b = h.toByte := by
  obtain ⟨frames, part, rfl, hframes, hpart⟩ := h
  cases frames with
  | nil =>
    rw [List.flatten_nil, List.nil_append] at hb
    rcases hpart with rfl | ⟨rest, -, hmakes⟩
    · cases hb
    · obtain ⟨header, hheader⟩ := hmakes.exists_header
      rw [List.head?_append, hb] at hheader
      exact ⟨header, Option.some.inj hheader⟩
  | cons first frames =>
    obtain ⟨header, hheader⟩ := (hframes first List.mem_cons_self).exists_header
    rw [List.flatten_cons, List.append_assoc, List.head?_append, hheader] at hb
    exact ⟨header, (Option.some.inj hb).symm⟩

/-- What is on a channel, which began with a torn end if that is not empty, fits together with what
is left of the packet that is being written on it. -/
inductive Joint (c : Codec) (torn : Bytes) : (left : Option Bytes) → (written : Bytes) → Prop
  /-- The torn end is being written. -/
  | torn {written rest : Bytes} (htorn : written ++ rest = torn) : Joint c torn (some rest) written
  /-- No frame is being written. -/
  | between {frames : List Bytes} (hframes : ∀ f ∈ frames, c.Makes f) :
      Joint c torn none (torn ++ frames.flatten)
  /-- A frame is being written. -/
  | within {frames : List Bytes} {part rest : Bytes} (hframes : ∀ f ∈ frames, c.Makes f)
      (hrest : rest ≠ []) (hpart : c.Makes (part ++ rest)) :
      Joint c torn (some rest) (torn ++ (frames.flatten ++ part))

/-- A channel on which nothing was written begins with what is left of the packet. -/
lemma joint_start (c : Codec) (left : Option Bytes) : c.Joint (left.getD []) left [] := by
  cases left with
  | none =>
    have hjoint : c.Joint [] none ([] ++ ([] : List Bytes).flatten) := .between nofun
    exact hjoint
  | some rest => exact .torn rfl

/-- What is on the channel is a part of the torn end, or whole after it. -/
def Loose (c : Codec) (torn written : Bytes) : Prop :=
  written <+: torn ∨ ∃ bytes, written = torn ++ bytes ∧ c.Whole bytes

lemma Joint.loose (h : c.Joint torn left written) : c.Loose torn written := by
  cases h with
  | torn htorn => exact .inl ⟨_, htorn⟩
  | between hframes => exact .inr ⟨_, rfl, whole_flatten hframes⟩
  | within hframes hrest hpart => exact .inr ⟨_, rfl, _, _, rfl, hframes, .inr ⟨_, hrest, hpart⟩⟩

lemma Loose.whole (h : c.Loose [] written) : c.Whole written := by
  rcases h with hempty | ⟨bytes, rfl, hwhole⟩
  · rw [List.prefix_nil.1 hempty]
    exact whole_nil
  · exact hwhole

/-- A packet is written to its end. -/
lemma Joint.finish (h : c.Joint torn left written) (hframe : c.Makes frame) :
    c.Joint torn none (written ++ left.getD frame) := by
  have hsnoc : ∀ {frames : List Bytes} {last : Bytes}, (∀ f ∈ frames, c.Makes f) →
      c.Makes last → c.Joint torn none (torn ++ (frames.flatten ++ last)) := by
    intro frames last hframes hlast
    have hall : ∀ f ∈ frames ++ [last], c.Makes f := by
      simpa [or_imp, forall_and] using ⟨hframes, hlast⟩
    have hjoint : c.Joint torn none (torn ++ (frames ++ [last]).flatten) := .between hall
    simpa using hjoint
  cases h with
  | torn htorn =>
    have hjoint : c.Joint torn none (torn ++ ([] : List Bytes).flatten) := .between nofun
    rw [Option.getD_some, htorn]
    simpa using hjoint
  | between hframes =>
    rw [Option.getD_none, List.append_assoc]
    exact hsnoc hframes hframe
  | within hframes hrest hpart =>
    rw [Option.getD_some, List.append_assoc, List.append_assoc]
    exact hsnoc hframes hpart

/-- A part of a packet is written. -/
lemma Joint.split (h : c.Joint torn left written) (hframe : c.Makes frame)
    (hn : n < (left.getD frame).length) :
    c.Joint torn (some ((left.getD frame).drop n)) (written ++ (left.getD frame).take n) := by
  have hleft : (left.getD frame).drop n ≠ [] := by simpa using hn
  cases h with
  | torn htorn =>
    refine .torn ?_
    rw [List.append_assoc, Option.getD_some, List.take_append_drop, htorn]
  | between hframes =>
    rw [List.append_assoc]
    exact .within hframes hleft (by rwa [List.take_append_drop])
  | within hframes hrest hpart =>
    rw [List.append_assoc, List.append_assoc]
    refine .within hframes hleft ?_
    rwa [List.append_assoc, Option.getD_some, List.take_append_drop]

/-- The packets of the queue hold frames, and nothing was written of any but the first one. -/
def Framed (c : Codec) (q : PacketQueue) : Prop :=
  (∀ p ∈ q.packets, c.Makes p.data) ∧ ∃ begun, q.Begun begun

end Codec

namespace PacketQueue

variable {q q' : PacketQueue} {p head : Packet} {rest : List Packet} {policy : OverflowPolicy}
  {admission : Admission} {begun : Bytes}

/-- The transport of the packet that has been written in part, and what is left of that packet. -/
def started (q : PacketQueue) : Option (Transport × Bytes) :=
  q.head?.bind fun p => p.fragment.map fun rest => (p.transport, rest)

lemma started_of_cons (hq : q.packets = head :: rest) :
    q.started = head.fragment.map fun rest => (head.transport, rest) := by
  rw [started, head?, hq, List.head?_cons, Option.bind_some]

lemma started_of_forall (h : ∀ p ∈ q.packets, p.fragment = none) : q.started = none := by
  cases hq : q.packets with
  | nil => rw [started, head?, hq, List.head?_nil, Option.bind_none]
  | cons head rest =>
    have hhead : head.fragment = none := h head (hq ▸ List.mem_cons_self)
    rw [started_of_cons hq, hhead, Option.map_none]

/-- A packet comes after the one that has been written in part, and does not drive it out. -/
lemma started_push (h : q.Begun begun) (hp : p.fragment = none)
    (hpush : q.push p policy = (admission, q')) : q'.started = q.started := by
  cases hq : q.packets with
  | nil =>
    have hnone : ∀ p' ∈ q.packets, p'.fragment = none := by simp [hq]
    rw [started_of_forall hnone, started_of_forall (forall_mem_push hnone hp hpush)]
  | cons head rest =>
    obtain ⟨-, hrest⟩ := (begun_of_cons hq).1 h
    rcases push_cases hpush with ⟨-, rfl⟩ | ⟨-, -, -, -, rfl⟩ | ⟨-, -, rfl⟩ | ⟨-, rfl⟩
    · have happend : (q.append p).packets = head :: (rest ++ [p]) := by
        simp [PacketQueue.append, hq]
      rw [started_of_cons happend, started_of_cons hq]
    · cases hf : head.fragment with
      | some left =>
        have hplace : q.evictable = 1 := by simp [evictable, hq, Packet.isFragmented, hf]
        have hevict : ({ q with packets := q.packets.eraseIdx 1 ++ [p] } : PacketQueue).packets
            = head :: (rest.eraseIdx 0 ++ [p]) := by simp [hq]
        rw [started_of_cons hq, hplace, started_of_cons hevict]
      | none =>
        -- nothing of the first packet has been written, nor of any other
        have hnone : ∀ p' ∈ q.packets, p'.fragment = none := by simpa [hq, hf] using hrest
        rw [started_of_forall hnone, started_of_forall (forall_mem_push hnone hp hpush)]
    · rfl
    · rfl

lemma started_pop (h : q.Begun begun) : q.pop.started = none := by
  refine started_of_forall fun p hp => ?_
  cases hq : q.packets with
  | nil => simp [pop, hq] at hp
  | cons head rest =>
    rw [packets_pop hq] at hp
    exact ((begun_of_cons hq).1 h).2 p hp

lemma started_setFragment (hq : q.packets = head :: rest) (left : Bytes) :
    (q.setFragment (some left)).started = some (head.transport, left) := by
  rw [started_of_cons (packets_setFragment hq (some left))]
  rfl

end PacketQueue

namespace Codec

variable {c : Codec} {q q' : PacketQueue} {p head : Packet} {rest : List Packet}
  {policy : OverflowPolicy} {admission : Admission} {n : ℕ}

lemma framed_ofCapacity (c : Codec) (capacity : ℕ) : c.Framed (.ofCapacity capacity) :=
  ⟨nofun, [], rfl⟩

lemma Framed.push (h : c.Framed q) (hp : c.Makes p.data) (hfresh : p.fragment = none)
    (hpush : q.push p policy = (admission, q')) : c.Framed q' := by
  refine ⟨PacketQueue.forall_mem_push h.1 hp hpush, ?_⟩
  obtain ⟨begun, hbegun⟩ := h.2
  rcases PacketQueue.push_cases hpush with
    ⟨-, rfl⟩ | ⟨-, -, -, hroom, rfl⟩ | ⟨-, -, rfl⟩ | ⟨-, rfl⟩
  · exact ⟨begun, hbegun.append hfresh⟩
  · exact ⟨begun, (hbegun.evict hroom).append hfresh⟩
  · exact ⟨begun, hbegun⟩
  · exact ⟨begun, hbegun⟩

lemma Framed.pop (h : c.Framed q) : c.Framed q.pop := by
  obtain ⟨hframes, begun, hbegun⟩ := h
  refine ⟨fun p hp => hframes p (List.mem_of_mem_tail hp), [], ?_⟩
  refine PacketQueue.begun_nil_of_forall fun p hp => ?_
  cases hq : q.packets with
  | nil => simp [PacketQueue.pop, hq] at hp
  | cons head rest =>
    rw [PacketQueue.packets_pop hq] at hp
    exact ((PacketQueue.begun_of_cons hq).1 hbegun).2 p hp

lemma Framed.split (h : c.Framed q) (hq : q.packets = head :: rest) (n : ℕ) :
    c.Framed (q.setFragment (some (head.pending.drop n))) := by
  obtain ⟨hframes, begun, hbegun⟩ := h
  obtain ⟨hhead, hrest⟩ := (PacketQueue.begun_of_cons hq).1 hbegun
  have hset := PacketQueue.packets_setFragment hq (some (head.pending.drop n))
  refine ⟨?_, begun ++ head.pending.take n, (PacketQueue.begun_of_cons hset).2 ⟨?_, hrest⟩⟩
  · rw [hset, List.forall_mem_cons]
    rw [hq, List.forall_mem_cons] at hframes
    exact hframes
  · rw [Packet.pending_withFragment_some, List.append_assoc, List.take_append_drop]
    exact hhead

/-- What is left of a packet that has been written in part is the end of a frame. -/
lemma Framed.exists_makes {transport : Transport} {left : Bytes} (h : c.Framed q)
    (hstarted : q.started = some (transport, left)) : ∃ begun, c.Makes (begun ++ left) := by
  obtain ⟨hframes, begun, hbegun⟩ := h
  cases hq : q.packets with
  | nil => simp [PacketQueue.started, PacketQueue.head?, hq] at hstarted
  | cons head rest =>
    rw [PacketQueue.started_of_cons hq] at hstarted
    obtain ⟨left, hfragment, hpair⟩ := Option.map_eq_some_iff.1 hstarted
    obtain ⟨-, rfl⟩ := Prod.mk.inj hpair
    have hdata := ((PacketQueue.begun_of_cons hq).1 hbegun).1
    rw [Packet.pending, hfragment, Option.getD_some] at hdata
    exact ⟨begun, hdata ▸ hframes head (hq ▸ List.mem_cons_self)⟩

end Codec

end SessionServer
