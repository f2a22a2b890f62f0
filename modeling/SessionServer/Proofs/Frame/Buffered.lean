/-
# What an assembler holds

An assembler holds the bytes that it has not read.  What it reads next is a header, a length field
or a body, and when it has looked for a frame and found none, it holds less than that.  A length
over the limit is refused before its body is waited for, so that a peer who never finishes a frame
cannot make the assembler hold a body of the greatest length.

The bytes that are held are not all that have come and have not been given out.  The header and the
length field of a frame are read as soon as somebody asks for the frame, even if it is not all
there; until it is, they are neither held nor given out.  The assembler is then *halfway*.

Main results: how much is held by an assembler that waits (`holds_little`), and the number of bytes
that are held is that of the bytes which have not been given out, exactly if the assembler is not
halfway (`buffered_exact_iff`).
-/
import Mathlib.Algebra.Ring.Nat
import SessionServer.Proofs.Frame.Agreement
import SessionServer.Proofs.Frame.Calls

namespace SessionServer

namespace Assembler

variable {limit length : ℕ} {data : Bytes} {a a' : Assembler} {h : Header} {p : Piece}
  {calls : List Call}

/-! ## Waiting for more -/

/-- How many bytes are read next. -/
def needed (a : Assembler) : ℕ :=
  match a.stage with
  | .header => 1
  | .length h => h.lengthWidth
  | .body _ length => length

/-- How many bytes of a body are held.  Before its length has been read, nothing is known to be a
part of it. -/
def bodyHeld (a : Assembler) : ℕ :=
  match a.stage with
  | .body .. => a.buffered
  | _ => 0

lemma buffered_lt_of_readBody (hr : a.readBody h length = (.ok none, a')) :
    a'.buffered < a'.needed := by
  unfold readBody at hr
  split_ifs at hr with hlt
  · obtain ⟨-, rfl⟩ := Prod.mk.inj hr
    exact hlt
  · simp at hr

lemma buffered_lt_of_readLength (hr : a.readLength h = (.ok none, a')) :
    a'.buffered < a'.needed := by
  unfold readLength at hr
  dsimp only at hr
  split_ifs at hr with hlt
  · obtain ⟨-, rfl⟩ := Prod.mk.inj hr
    exact hlt
  · simp at hr
  · exact buffered_lt_of_readBody hr

lemma buffered_lt_of_readHeader (hs : a.stage = .header) (hr : a.readHeader = (.ok none, a')) :
    a'.buffered < a'.needed := by
  unfold readHeader at hr
  split at hr
  · rename_i hbuf
    obtain ⟨-, rfl⟩ := Prod.mk.inj hr
    simp only [buffered, needed, hs, hbuf, List.length_nil, Nat.one_pos]
  · split at hr
    · simp at hr
    · split_ifs at hr
      · exact buffered_lt_of_readLength hr
      · simp at hr

/-- An assembler that asks for more holds less than what it reads next. -/
lemma buffered_lt_of_next (hn : a.next = (.ok none, a')) : a'.buffered < a'.needed := by
  cases hs : a.stage with
  | header => exact buffered_lt_of_readHeader hs (by simpa only [next, hs] using hn)
  | length h => exact buffered_lt_of_readLength (by simpa only [next, hs] using hn)
  | body h length => exact buffered_lt_of_readBody (by simpa only [next, hs] using hn)

/-- Draining that ends without an error ends by asking for more. -/
lemma buffered_lt_of_drain {pieces : List Piece} (hd : a.drain = ((pieces, none), a')) :
    a'.buffered < a'.needed := by
  induction hp : a.pending using Nat.strongRecOn generalizing a pieces with
  | _ n ih =>
    rcases hn : a.next with ⟨_ | _ | p, b⟩
    · simp [drain_of_error hn] at hd
    · rw [drain_of_none hn] at hd
      exact (Prod.mk.inj hd).2 ▸ buffered_lt_of_next hn
    · rw [drain_of_some hn] at hd
      obtain ⟨hout, hend⟩ := Prod.mk.inj hd
      obtain ⟨-, hfault⟩ := Prod.mk.inj hout
      exact ih b.pending (hp ▸ pending_lt_of_next hn) (Prod.ext (Prod.ext rfl hfault) hend) rfl

/-- While it waits, an assembler holds less than a body of the greatest length, or less than the
widest length field, and fewer bytes of a body than the limit allows. -/
structure Waits (limit : ℕ) (a : Assembler) : Prop where
  buffered_le : a.buffered ≤ max 3 (limit - 1)
  bodyHeld_le : a.bodyHeld ≤ limit - 1

lemma lengthWidth_le (h : Header) : h.lengthWidth ≤ 4 := by
  unfold Header.lengthWidth
  split_ifs <;> omega

lemma before_of_next (hb : a.Before limit data) (hn : a.next = (.ok none, a')) :
    a'.Before limit data := by
  have hlooks := looks_next hb
  rw [hn] at hlooks
  cases hlooks with
  | waiting hb' => exact hb'

/-- What is read next has been found to be within the limit. -/
lemma waits_of_buffered_lt (hb : a.Before limit data) (hlt : a.buffered < a.needed) :
    a.Waits limit := by
  obtain ⟨hw, -, rfl⟩ := hb
  cases hs : a.stage with
  | header =>
    simp only [needed, hs] at hlt
    exact ⟨by omega, by simp only [bodyHeld, hs, Nat.zero_le]⟩
  | length h =>
    have hwidth := lengthWidth_le h
    simp only [needed, hs] at hlt
    exact ⟨by omega, by simp only [bodyHeld, hs, Nat.zero_le]⟩
  | body h length =>
    simp only [WellFormed, hs] at hw
    obtain ⟨-, -, hle⟩ := hw
    simp only [needed, hs] at hlt
    exact ⟨by omega, by simp only [bodyHeld, hs]; omega⟩

/-- The frame follows some others in what was received: its header counts, its body is within the
limit and as long as the length field in front of it says. -/
structure Genuine (limit : ℕ) (received : Bytes) (before : List Piece) (p : Piece) : Prop where
  counting : p.1.counting = true
  le_limit : p.2.length ≤ limit
  announced : ∃ field rest, received
      = before.flatMap Piece.wire ++ (p.1.toByte :: field ++ p.2) ++ rest ∧
    field.length = p.1.lengthWidth ∧ Bytes.ofBigEndian field = p.2.length

/-- What a call gives out is a frame of what was received. -/
lemma genuine_of_next (limit : ℕ) (calls : List Call)
    (hn : ((start limit).perform calls).2.next = (.ok (some p), a')) :
    Genuine limit (received calls) (frames ((start limit).perform calls).1) p := by
  obtain ⟨data, hb, -, hbytes⟩ := before_perform_start limit calls
  have hlooks := looks_next hb
  rw [hn] at hlooks
  cases hlooks with
  | @given _ rest _ hp hb' =>
    refine ⟨hp.counting, hp.le_limit, ⟨Bytes.bigEndian p.1.lengthWidth p.2.length, rest, ?_,
      Bytes.length_bigEndian .., Bytes.ofBigEndian_bigEndian_of_lt hp.lt_capacity⟩⟩
    rw [hbytes, List.append_assoc]
    rfl

/-- **An assembler holds little.**  Whatever was pushed and asked for: if an assembler is asked for
a frame, or drained, and then waits for more, it holds at most three bytes or one less than the
limit, and fewer bytes of a body than the limit allows.  A frame that it gives out has a length
field, which says how long the body is, and that is within the limit. -/
theorem holds_little (limit : ℕ) (calls : List Call) :
    let a := ((start limit).perform calls).2
    (∀ a', a.next = (.ok none, a') → a'.Waits limit) ∧
      (∀ pieces a', a.drain = ((pieces, none), a') → a'.Waits limit) ∧
      ∀ p a', a.next = (.ok (some p), a') →
        Genuine limit (received calls) (frames ((start limit).perform calls).1) p := by
  intro a
  obtain ⟨data, hb, -, -⟩ := before_perform_start limit calls
  refine ⟨fun a' hn => ?_, fun pieces a' hd => ?_, fun p a' hn => genuine_of_next limit calls hn⟩
  · exact waits_of_buffered_lt (before_of_next hb hn) (buffered_lt_of_next hn)
  · have hb' := (drain_eq_parse hb).2
    rw [hd] at hb'
    exact waits_of_buffered_lt hb' (buffered_lt_of_drain hd)

/-- A body of the greatest length is all there but for its last byte, and then comes; and a limit of
two bytes does not spare an assembler three bytes of a wide length field. -/
theorem holds_little_of_greatest_body :
    let h : Header := { counting := true, dataType := .zero }
    let calls : List Call := [.push [0x11, 0, 5, 1], .next, .push [2, 3, 4]]
    let waiting : Assembler := { stage := .body h 5, buffer := [1, 2, 3, 4], maxFrameSize := 5 }
    let wide : Assembler := { stage := .length { h with bigSized := true }, buffer := [0, 0, 0]
                              maxFrameSize := 2 }
    ((start 5).perform calls).2.drain = (([], none), waiting) ∧ waiting.Waits 5 ∧
      ((start 5).perform (calls ++ [.push [5]])).2.next
        = (.ok (some (h, [1, 2, 3, 4, 5])), start 5) ∧
      Genuine 5 [0x11, 0, 5, 1, 2, 3, 4, 5] [] (h, [1, 2, 3, 4, 5]) ∧
      ((start 2).perform [.push [0x15, 0, 0, 0]]).2.next = (.ok none, wide) ∧ wide.Waits 2 := by
  intro h calls waiting wide
  have hdrain : ((start 5).perform calls).2.drain = (([], none), waiting) := drain_of_none rfl
  have hsome : ((start 5).perform (calls ++ [.push [5]])).2.next
      = (.ok (some (h, [1, 2, 3, 4, 5])), start 5) := rfl
  have hnone : ((start 2).perform [.push [0x15, 0, 0, 0]]).2.next = (.ok none, wide) := rfl
  obtain ⟨-, hdrained, -⟩ := holds_little 5 calls
  obtain ⟨-, -, hgenuine⟩ := holds_little 5 (calls ++ [.push [5]])
  obtain ⟨hwaits, -, -⟩ := holds_little 2 [.push [0x15, 0, 0, 0]]
  exact ⟨hdrain, hdrained [] waiting hdrain, hsome, hgenuine _ _ hsome, hnone, hwaits wide hnone⟩

/-! ## Halfway through a frame -/

/-- How many bytes a header and its body are on the wire: the byte of the header, the length field
and the body. -/
def Piece.wireLength (p : Piece) : ℕ := 1 + p.1.lengthWidth + p.2.length

lemma Piece.length_wire (p : Piece) : p.wire.length = p.wireLength := by
  simp only [Piece.wire, Codec.assemble, Piece.wireLength, List.length_append, List.length_cons,
    Bytes.length_bigEndian]
  omega

lemma length_flatMap_wire (pieces : List Piece) :
    (pieces.flatMap Piece.wire).length = (pieces.map Piece.wireLength).sum := by
  rw [List.length_flatMap]
  exact congrArg List.sum (List.map_congr_left fun p _ => p.length_wire)

/-- Somebody asked for a frame when more had been received than the frames that had been given out,
but not the whole of another one; and since then bytes have been pushed at the most. -/
def Halfway (limit : ℕ) (calls : List Call) : Prop :=
  ∃ (before : List Call) (chunks : List Bytes), calls = before ++ .next :: chunks.map .push ∧
    ((start limit).perform before).2.next.1 = .ok none ∧
    received before ≠ (frames ((start limit).perform before).1).flatMap Piece.wire

lemma stage_perform_push (a : Assembler) (chunks : List Bytes) :
    (a.perform (chunks.map .push)).2.stage = a.stage := by
  induction chunks generalizing a with
  | nil => rfl
  | cons chunk chunks ih => exact ih (a.push chunk)

lemma taken_eq_nil_iff : a.taken = [] ↔ a.stage = .header := by
  unfold taken
  cases a.stage <;> simp

/-- What has been taken in of a frame is its header, or its header and its length field. -/
lemma exists_taken_eq (hs : a.stage ≠ .header) :
    ∃ (h : Header) (field : Bytes), a.taken = h.toByte :: field ∧
      (field = [] ∨ field.length = h.lengthWidth) := by
  unfold taken
  cases hstage : a.stage with
  | header => exact absurd hstage hs
  | length h => exact ⟨h, [], rfl, .inl rfl⟩
  | body h length =>
    exact ⟨h, Bytes.bigEndian h.lengthWidth length, rfl, .inr (Bytes.length_bigEndian ..)⟩

/-- An assembler that asks for more has taken in nothing only if there is nothing. -/
lemma stage_eq_header_iff_of_next (hb : a.Before limit data) (hn : a.next = (.ok none, a')) :
    a'.stage = .header ↔ data = [] := by
  have hb' := before_of_next hb hn
  constructor
  · intro hs
    have hlt := buffered_lt_of_next hn
    simp only [needed, hs, buffered, Nat.lt_one_iff, List.length_eq_zero_iff] at hlt
    rw [← hb'.unread_eq, unread, taken_eq_nil_iff.2 hs, hlt, List.append_nil]
  · rintro rfl
    exact congrArg stage (eq_start_of_before_nil hb')

/-- An assembler that is halfway has taken in a part of a frame. -/
lemma Halfway.stage_ne (hh : Halfway limit calls) :
    ((start limit).perform calls).2.stage ≠ .header := by
  obtain ⟨before, chunks, rfl, hout, hne⟩ := hh
  obtain ⟨data, hb, -, hbytes⟩ := before_perform_start limit before
  rw [perform_append]
  simp only [perform, stage_perform_push]
  intro hs
  rw [(stage_eq_header_iff_of_next hb (Prod.ext hout rfl)).1 hs, List.append_nil] at hbytes
  exact hne hbytes

/-- An assembler that has taken in a part of a frame, and has met no error, is halfway. -/
lemma halfway_of_stage_ne (hok : ∀ e, .error e ∉ ((start limit).perform calls).1)
    (hs : ((start limit).perform calls).2.stage ≠ .header) : Halfway limit calls := by
  -- the last call is looked at: a push leaves the assembler halfway, and nothing else does but a
  -- call that asks for a frame and gets none
  induction calls using List.reverseRecOn with
  | nil => exact absurd rfl hs
  | append_singleton calls c ih =>
    rw [perform_append] at hok hs
    cases c with
    | push data =>
      obtain ⟨before, chunks, rfl, hout, hne⟩ :=
        ih (fun e he => hok e (List.mem_append_left _ he)) hs
      exact ⟨before, chunks ++ [data], by simp, hout, hne⟩
    | next =>
      obtain ⟨data, hb, -, hbytes⟩ := before_perform_start limit calls
      rcases hn : ((start limit).perform calls).2.next with ⟨_ | _ | p, a'⟩
      all_goals simp only [perform, hn] at hok hs
      · exact absurd (List.mem_append_right _ (List.mem_singleton_self _)) (hok _)
      · refine ⟨calls, [], rfl, by rw [hn], fun heq => hs ?_⟩
        rw [stage_eq_header_iff_of_next hb hn]
        rw [heq] at hbytes
        simpa using hbytes
      · exact absurd (stage_of_next hn) hs

/-- **What the count of held bytes says.**  Whatever was pushed and asked for without an error: the
number of bytes that are held and the lengths of the frames that were given out add up to the number
of bytes that were received, exactly if the assembler is not halfway through a frame.  If it is
not, nothing is held exactly if the bytes end with the last of these frames.  If it is, the count is
short by the header of the frame, or by its header and its length field. -/
theorem buffered_exact_iff (limit : ℕ) (calls : List Call)
    (hok : ∀ e, .error e ∉ ((start limit).perform calls).1) :
    let a := ((start limit).perform calls).2
    let out := frames ((start limit).perform calls).1
    let total := (out.map Piece.wireLength).sum
    (a.buffered + total = (received calls).length ↔ ¬ Halfway limit calls) ∧
      (¬ Halfway limit calls → (a.buffered = 0 ↔ received calls = out.flatMap Piece.wire)) ∧
      (Halfway limit calls → ∃ (h : Header) (field : Bytes),
        (field = [] ∨ field.length = h.lengthWidth) ∧
        received calls = out.flatMap Piece.wire ++ h.toByte :: field ++ a.buffer ∧
        a.buffered + total + (1 + field.length) = (received calls).length) := by
  intro a out total
  obtain ⟨rest, hb, -, hbytes⟩ := before_perform_start limit calls
  have hsplit : received calls = out.flatMap Piece.wire ++ a.taken ++ a.buffer := by
    rw [hbytes, ← hb.unread_eq, unread, List.append_assoc]
  have hcount : a.buffered + total + a.taken.length = (received calls).length := by
    rw [hsplit, List.length_append, List.length_append, length_flatMap_wire, buffered]
    omega
  have hhalf : Halfway limit calls ↔ a.taken ≠ [] := by
    rw [Ne, taken_eq_nil_iff]
    exact ⟨Halfway.stage_ne, halfway_of_stage_ne hok⟩
  refine ⟨?_, fun hnot => ?_, fun hh => ?_⟩
  · rw [hhalf, not_not, ← List.length_eq_zero_iff]
    omega
  · rw [hhalf, not_not] at hnot
    rw [hsplit, hnot, List.append_nil, List.append_right_eq_self, buffered, List.length_eq_zero_iff]
  · obtain ⟨h, field, htaken, hfield⟩ := exists_taken_eq fun hs =>
      hhalf.1 hh (taken_eq_nil_iff.2 hs)
    rw [htaken] at hsplit hcount
    exact ⟨h, field, hfield, hsplit, by rw [← hcount, List.length_cons, Nat.add_comm 1]⟩

/-- A frame is given out, and the header of the next one is taken in.  Its length field comes and is
counted, the header is not; when the frame has been given out, the count is right again. -/
theorem buffered_exact_iff_for_two_frames :
    let calls : List Call := [.push [0x11, 0, 1, 7, 0x21], .next, .next, .push [0, 1]]
    let calls' : List Call := calls ++ [.push [9], .next]
    let held (calls : List Call) : ℕ := ((start 8).perform calls).2.buffered
    let total (calls : List Call) : ℕ :=
      ((frames ((start 8).perform calls).1).map Piece.wireLength).sum
    Halfway 8 calls ∧ held calls + total calls ≠ (received calls).length ∧
      held calls + total calls + 1 = (received calls).length ∧
      ¬ Halfway 8 calls' ∧ held calls' + total calls' = (received calls').length := by
  intro calls calls' held total
  let first : Piece := ({ counting := true, dataType := .zero }, [7])
  let second : Piece := ({ counting := true, dataType := .msgPack }, [9])
  have hanswers : ((start 8).perform calls).1 = [.ok (some first), .ok none] := rfl
  have hanswers' : ((start 8).perform calls').1
      = [.ok (some first), .ok none, .ok (some second)] := rfl
  obtain ⟨hcount, -, -⟩ := buffered_exact_iff 8 calls fun e => by simp [hanswers]
  obtain ⟨hcount', -, -⟩ := buffered_exact_iff 8 calls' fun e => by simp [hanswers']
  have hhalf : Halfway 8 calls :=
    ⟨[.push [0x11, 0, 1, 7, 0x21], .next], [[0, 1]], rfl, rfl, by decide⟩
  have hright : held calls' + total calls' = (received calls').length := rfl
  exact ⟨hhalf, fun h => hcount.1 h hhalf, rfl, hcount'.1 hright, hright⟩

/-- The header of a frame has come, and somebody has asked for the frame.  Nothing is held any more,
although the byte has not been given out and is not the end of a frame. -/
theorem header_not_counted :
    let calls : List Call := [.push [0x11], .next]
    let out := frames ((start 8).perform calls).1
    let a := ((start 8).perform calls).2
    ((start 8).perform calls).1 = [.ok none] ∧ out = [] ∧ a.buffered = 0 ∧
      a.buffered ≠ (received calls).length - (out.map Piece.wireLength).sum ∧
      received calls ≠ out.flatMap Piece.wire := by
  decide

end Assembler

end SessionServer
