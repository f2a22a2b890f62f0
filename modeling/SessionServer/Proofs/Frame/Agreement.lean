/-
# Messages and streams

The same bytes may arrive as one message or as a stream.  A message is read by the codec at once,
which knows where it ends; a stream is cut into frames by the assembler, which does not, and whose
frames the codec reads afterwards.  Both look at the header, at the length field and at the limit,
in different orders.

The assembler refuses a length over the limit as soon as it has read it, before the body is there.
The codec compares the length with the bytes of the message first, so that it names the limit only
where the message has the length that it says.

Main results: what a fresh assembler gives out first is the frame at the front of all the bytes that
it is fed (`first_start`), and what the codec makes of the same bytes (`decode_of_first`).
-/
import SessionServer.Frame.Codec
import SessionServer.Proofs.Frame.Parse

namespace SessionServer

/-! ## The first frame -/

namespace Assembler

variable {limit : ℕ} {data : Bytes} {a a' : Assembler} {p : Piece}

/-- Pushes chunks one after the other until the assembler gives a frame out or refuses one: the
frame, and the bytes behind it, of those that were pushed and of those that were not. -/
def first (a : Assembler) : List Bytes → Except FrameError (Option (Piece × Bytes))
  | [] => .ok none
  | chunk :: chunks =>
    match (a.push chunk).next with
    | (.error e, _) => .error e
    | (.ok (some p), a) => .ok (some (p, a.buffer ++ chunks.flatten))
    | (.ok none, a) => a.first chunks

lemma stage_of_readBody {h : Header} {length : ℕ}
    (hread : a.readBody h length = (.ok (some p), a')) : a'.stage = .header := by
  unfold readBody at hread
  split_ifs at hread
  · simp at hread
  · obtain ⟨-, rfl⟩ := Prod.mk.inj hread
    rfl

lemma stage_of_readLength {h : Header} (hread : a.readLength h = (.ok (some p), a')) :
    a'.stage = .header := by
  unfold readLength at hread
  dsimp only at hread
  split_ifs at hread
  · simp at hread
  · simp at hread
  · exact stage_of_readBody hread

/-- An assembler that has given out a frame has taken in nothing of the next one. -/
lemma stage_of_next (hn : a.next = (.ok (some p), a')) : a'.stage = .header := by
  unfold next at hn
  split at hn
  · unfold readHeader at hn
    split at hn
    · simp at hn
    · split at hn
      · simp at hn
      · split_ifs at hn
        · exact stage_of_readLength hn
        · simp at hn
  · exact stage_of_readLength hn
  · exact stage_of_readBody hn

lemma first_of_before (chunks : List Bytes) (hb : a.Before limit data)
    (hnone : takeFrame limit data = .ok none) :
    a.first chunks = takeFrame limit (data ++ chunks.flatten) := by
  -- what is known of the assembler is kept from chunk to chunk as long as it asks for more
  induction chunks generalizing a data with
  | nil => rw [List.flatten_nil, List.append_nil, hnone, first]
  | cons chunk chunks ih =>
    have hf := follows_next (before_push hb chunk)
    obtain ⟨out, a', hn⟩ : ∃ out a', (a.push chunk).next = (out, a') := ⟨_, _, rfl⟩
    rw [List.flatten_cons, ← List.append_assoc]
    simp only [first, hn]
    rw [hn] at hf
    rcases ht : takeFrame limit (data ++ chunk) with e | _ | ⟨p, left⟩
    · rw [ht] at hf
      obtain ⟨rfl, -⟩ := hf
      exact (takeFrame_append_of_error ht).symm
    · rw [ht] at hf
      obtain ⟨rfl, hb'⟩ := hf
      exact ih hb' ht
    · rw [ht] at hf
      obtain ⟨rfl, hb'⟩ := hf
      have hleft : a'.buffer = left := by
        rw [← hb'.unread_eq, unread, taken, stage_of_next hn, List.nil_append]
      rw [takeFrame_append_of_some ht, ← hleft]

/-- What comes first out of a fresh assembler is the frame at the front of all the bytes. -/
lemma first_start (limit : ℕ) (chunks : List Bytes) :
    (start limit).first chunks = takeFrame limit chunks.flatten :=
  first_of_before chunks (before_start limit) rfl

end Assembler

/-! ## The same bytes as one message -/

namespace Codec

open Assembler (Piece start)

variable {c : Codec} {h : Header} {b : UInt8} {limit : ℕ} {field body rest left : Bytes}
  {chunks : List Bytes} {p : Piece} {e : FrameError}

lemma takeSized_append_of_width (hwidth : field.length = h.lengthWidth) :
    takeSized limit h (field ++ body)
      = if limit < Bytes.ofBigEndian field then
          .error (.frameTooLarge (Bytes.ofBigEndian field) limit)
        else .ok (takeBody h (Bytes.ofBigEndian field) body) := by
  rw [takeSized_append limit (Nat.le_of_eq hwidth.symm), ← hwidth, List.take_length,
    List.drop_length, List.nil_append]

lemma decodeRest_append (hc : h.counting = true) (hwidth : field.length = h.lengthWidth) :
    c.decodeRest h (field ++ body)
      = if body.length < Bytes.ofBigEndian field then
          .error (.truncated (Bytes.ofBigEndian field) body.length)
        else if Bytes.ofBigEndian field < body.length then
          .error (.trailingBytes (Bytes.ofBigEndian field) body.length)
        else c.decodeBody h body := by
  have hle : ¬ (field ++ body).length < h.lengthWidth := by
    rw [List.length_append]
    omega
  rw [decodeRest_eq, if_neg hle, List.take_left' hwidth, List.drop_left' hwidth, checkLength,
    if_pos hc]
  dsimp only
  split_ifs <;> rfl

/-- The codec's reading of a message, by what the assembler makes of the same bytes. -/
structure Agrees (c : Codec) (h : Header) (rest : Bytes)
    (outcome : Except FrameError (Option (Piece × Bytes))) (read : Except FrameError Frame) :
    Prop where
  /-- A frame that is all of the message is read as its body. -/
  whole : ∀ p, outcome = .ok (some (p, [])) → read = c.decodeBody p.1 p.2
  /-- A message that goes on after its frame is refused for that. -/
  trailing : ∀ p left, outcome = .ok (some (p, left)) → left ≠ [] →
    read = .error (.trailingBytes p.2.length (p.2.length + left.length))
  /-- A message that ends before its frame is refused for that. -/
  truncated : outcome = .ok none →
    ∃ expected actual, actual < expected ∧ read = .error (.truncated expected actual)
  /-- The assembler refuses nothing but lengths over the limit.  The codec does so too if the length
  is that of the message, and otherwise refuses the message because it is not. -/
  refused : ∀ e, outcome = .error e →
    let announced := Bytes.ofBigEndian (rest.take h.lengthWidth)
    let received := (rest.drop h.lengthWidth).length
    e = .frameTooLarge announced c.config.maxFrameSize ∧
      (received = announced → read = .error e) ∧
      (received < announced → read = .error (.truncated announced received)) ∧
      (announced < received → read = .error (.trailingBytes announced received))

/-- A length field that is not all there is missing for both. -/
lemma agrees_of_lt (hlt : rest.length < h.lengthWidth) :
    c.Agrees h rest (takeSized limit h rest) (c.decodeRest h rest) := by
  rw [takeSized, if_pos hlt, decodeRest_eq, if_pos hlt]
  have hshort : 1 + rest.length < 1 + h.lengthWidth := Nat.add_lt_add_left hlt 1
  exact ⟨by simp, by simp, fun _ => ⟨_, _, hshort, rfl⟩, by simp⟩

/-- A length over the limit is refused by both, by the codec only if the message is that long. -/
lemma agrees_of_limit_lt (hc : h.counting = true) (hwidth : field.length = h.lengthWidth)
    (hlarge : c.config.maxFrameSize < Bytes.ofBigEndian field) :
    c.Agrees h (field ++ body) (takeSized c.config.maxFrameSize h (field ++ body))
      (c.decodeRest h (field ++ body)) := by
  rw [takeSized_append_of_width hwidth, if_pos hlarge, decodeRest_append hc hwidth]
  refine ⟨nofun, nofun, nofun, fun e he => ?_⟩
  obtain rfl := Except.error.inj he
  simp only [List.take_left' hwidth, List.drop_left' hwidth]
  refine ⟨trivial, fun heq => ?_, fun hlt => if_pos hlt, fun hlt => ?_⟩
  · -- a body of the announced length is over the limit too
    rw [if_neg (by omega), if_neg (by omega), decodeBody_of_lt h (heq ▸ hlarge), heq]
  · rw [if_neg (by omega), if_pos hlt]

/-- A length within the limit is compared with the bytes that are there by both. -/
lemma agrees_of_le_limit (hc : h.counting = true) (hwidth : field.length = h.lengthWidth)
    (hle : Bytes.ofBigEndian field ≤ c.config.maxFrameSize) :
    c.Agrees h (field ++ body) (takeSized c.config.maxFrameSize h (field ++ body))
      (c.decodeRest h (field ++ body)) := by
  rw [takeSized_append_of_width hwidth, if_neg (Nat.not_lt.2 hle), decodeRest_append hc hwidth]
  generalize Bytes.ofBigEndian field = announced
  unfold takeBody
  split_ifs with hshort hlong
  · exact ⟨nofun, nofun, fun _ => ⟨announced, body.length, hshort, rfl⟩, nofun⟩
  · have hdrop : body.drop announced ≠ [] := by
      simpa only [ne_eq, List.drop_eq_nil_iff, Nat.not_le] using hlong
    refine ⟨fun p hp => ?_, fun p left hp _ => ?_, nofun, nofun⟩
    · simp only [Except.ok.injEq, Option.some.injEq, Prod.mk.injEq] at hp
      exact absurd hp.2 hdrop
    · cases hp
      rw [List.length_take_of_le (Nat.le_of_not_lt hshort), List.length_drop,
        Nat.add_sub_cancel' (Nat.le_of_not_lt hshort)]
  · have heq : announced = body.length :=
      Nat.le_antisymm (Nat.le_of_not_lt hshort) (Nat.le_of_not_lt hlong)
    rw [heq, List.take_length, List.drop_length]
    exact ⟨fun p hp => by cases hp; rfl, fun p left hp hne => by cases hp; exact absurd rfl hne,
      nofun, nofun⟩

/-- **A message and a stream say the same.**  Let a byte string start with the byte of a header
that announces a length, and let a fresh assembler with the limit of the codec be fed the bytes, cut
anywhere.  If its first frame is all of them, the codec reads them as it reads the body of that
frame.  If bytes follow the frame, the codec refuses them as trailing; if the assembler asks for
more, the codec refuses the bytes as truncated.  And the assembler refuses nothing but a length over
the limit, for which the codec refuses the bytes too if they have that length, and otherwise refuses
them because they do not. -/
theorem decode_of_first (c : Codec) (hb : Header.ofByte b = .ok h) (hc : h.counting = true)
    (hcut : chunks.flatten = b :: rest) :
    c.Agrees h rest ((start c.config.maxFrameSize).first chunks) (c.decode (b :: rest)) := by
  have hfirst : (start c.config.maxFrameSize).first chunks
      = takeSized c.config.maxFrameSize h rest := by
    rw [Assembler.first_start, hcut, takeFrame, hb]
    exact if_pos hc
  have hread : c.decode (b :: rest) = c.decodeRest h rest := by
    rw [decode_cons, hb, Except.bind]
  rw [hfirst, hread]
  by_cases hlt : rest.length < h.lengthWidth
  · exact agrees_of_lt hlt
  · have hwidth := List.length_take_of_le (Nat.le_of_not_lt hlt)
    rw [← List.take_append_drop h.lengthWidth rest]
    by_cases hlarge : c.config.maxFrameSize < Bytes.ofBigEndian (rest.take h.lengthWidth)
    · exact agrees_of_limit_lt hc hwidth hlarge
    · exact agrees_of_le_limit hc hwidth (Nat.le_of_not_lt hlarge)

/-- A codec and an assembler that accept four bytes are given five, cut inside the length and inside
the body: both name the limit.  When only one of the five has come, the assembler names it already,
and the codec refuses the message because it ends too early. -/
theorem decode_of_first_five_bytes :
    let c : Codec := ⟨{ compressionThreshold := 0, maxFrameSize := 4 }, none, none⟩
    let h : Header := { counting := true, dataType := .zero }
    let all : List Bytes := [[0x11], [0], [5, 1, 2], [3, 4, 5]]
    let part : List Bytes := [[0x11], [0], [5, 1]]
    Header.ofByte 0x11 = .ok h ∧ h.counting = true ∧
      all.flatten = [0x11, 0, 5, 1, 2, 3, 4, 5] ∧ part.flatten = [0x11, 0, 5, 1] ∧
      (start 4).first all = .error (.frameTooLarge 5 4) ∧
      c.decode [0x11, 0, 5, 1, 2, 3, 4, 5] = .error (.frameTooLarge 5 4) ∧
      (start 4).first part = .error (.frameTooLarge 5 4) ∧
      c.decode [0x11, 0, 5, 1] = .error (.truncated 5 1) := by
  intro c h all part
  have hall : (start 4).first all = .error (.frameTooLarge 5 4) := rfl
  have hpart : (start 4).first part = .error (.frameTooLarge 5 4) := rfl
  have hagree : c.Agrees h [0, 5, 1, 2, 3, 4, 5] ((start 4).first all) _ :=
    decode_of_first c rfl rfl rfl
  have hagree' : c.Agrees h [0, 5, 1] ((start 4).first part) _ := decode_of_first c rfl rfl rfl
  obtain ⟨-, hwhole, -, -⟩ := hagree.refused _ hall
  obtain ⟨-, -, hshort, -⟩ := hagree'.refused _ hpart
  exact ⟨rfl, rfl, rfl, rfl, hall, hwhole rfl, hpart, hshort (by decide)⟩

end Codec

end SessionServer
