/-
# The frames of a byte string

A byte string is read as frames from its front on: while there is a whole frame at the front it is
cut off, and the reading ends where a frame is refused or not all there.  That is a function of
the byte string alone.  The assembler gets the same bytes in chunks, commits itself to a header
and to a length before the frame is there, and gives frames out as soon as it can; this file shows
that it comes to the same frames and the same end, wherever the chunks are cut.

The bridge is `unread`: what an assembler has taken in of the frame at the front, written out
again, and the bytes that wait behind it.

Main results: reading can be interrupted anywhere (`parse_append`), draining is reading what is
unread (`drain_eq_parse`), and what comes out of a fresh assembler is what the whole byte string
says, however it was cut (`feed_eq_of_flatten_eq`).
-/
import Mathlib.Data.List.Basic
import SessionServer.Frame.Assembler
import SessionServer.Proofs.BigEndian

namespace SessionServer

/-! ## Reading a whole byte string -/

open Assembler (Piece)

/-- The body of `length` bytes at the front of a byte string and what follows it, if the body is
all there. -/
def takeBody (h : Header) (length : ℕ) (data : Bytes) : Option (Piece × Bytes) :=
  if data.length < length then none
  else some ((h, data.take length), data.drop length)

/-- The length field and the body at the front of a byte string and what follows them, if they are
all there. -/
def takeSized (limit : ℕ) (h : Header) (data : Bytes) :
    Except FrameError (Option (Piece × Bytes)) :=
  if data.length < h.lengthWidth then .ok none
  else
    let length := Bytes.ofBigEndian (data.take h.lengthWidth)
    if limit < length then .error (.frameTooLarge length limit)
    else .ok (takeBody h length (data.drop h.lengthWidth))

/-- The frame at the front of a byte string and what follows it, if the frame is all there. -/
def takeFrame (limit : ℕ) : Bytes → Except FrameError (Option (Piece × Bytes))
  | [] => .ok none
  | b :: data =>
    match Header.ofByte b with
    | .error e => .error e
    | .ok h => if h.counting then takeSized limit h data else .error .uncountedStreamFrame

/-- What a byte string is read as. -/
structure Parsed where
  /-- The whole frames at the front. -/
  pieces : List Piece := []
  /-- Why the frame after them is refused, if it is. -/
  fault : Option FrameError := none
  /-- The bytes after the whole frames. -/
  rest : Bytes
deriving DecidableEq, Repr

/-- The reading with some frames put in front of it. -/
def Parsed.after (pieces : List Piece) (r : Parsed) : Parsed :=
  { r with pieces := pieces ++ r.pieces }

lemma length_lt_of_takeFrame {limit : ℕ} {data rest : Bytes} {p : Piece}
    (h : takeFrame limit data = .ok (some (p, rest))) : rest.length < data.length := by
  cases data with
  | nil => simp [takeFrame] at h
  | cons b data =>
    simp only [takeFrame, takeSized, takeBody] at h
    split at h
    · simp at h
    · split_ifs at h
      all_goals simp only [Except.ok.injEq, Option.some.injEq, Prod.mk.injEq, reduceCtorEq] at h
      obtain ⟨-, rfl⟩ := h
      simp only [List.length_drop, List.length_cons]
      omega

/-- Reads a byte string from its front on. -/
def parse (limit : ℕ) (data : Bytes) : Parsed :=
  match h : takeFrame limit data with
  | .error e => { fault := some e, rest := data }
  | .ok none => { rest := data }
  | .ok (some (p, rest)) =>
    have : rest.length < data.length := length_lt_of_takeFrame h
    (parse limit rest).after [p]
termination_by data.length

section Parse

variable {limit : ℕ} {data more rest : Bytes} {p : Piece} {e : FrameError}

lemma parse_of_error (h : takeFrame limit data = .error e) :
    parse limit data = { fault := some e, rest := data } := by
  rw [parse]
  split <;> simp_all

lemma parse_of_none (h : takeFrame limit data = .ok none) :
    parse limit data = { rest := data } := by
  rw [parse]
  split <;> simp_all

lemma parse_of_some (h : takeFrame limit data = .ok (some (p, rest))) :
    parse limit data = (parse limit rest).after [p] := by
  rw [parse]
  split <;> simp_all

/-! ## Reading on -/

lemma takeBody_append {h : Header} {length : ℕ} (hb : takeBody h length data = some (p, rest)) :
    takeBody h length (data ++ more) = some (p, rest ++ more) := by
  unfold takeBody at hb ⊢
  split_ifs at hb with hlt
  obtain ⟨rfl, rfl⟩ := Prod.mk.inj (Option.some.inj hb)
  have hle : length ≤ data.length := Nat.le_of_not_lt hlt
  rw [if_neg (by simp only [List.length_append]; omega), List.take_append_of_le_length hle,
    List.drop_append_of_le_length hle]

/-- Once the length field is there, nothing that follows changes what it says. -/
lemma takeSized_append {h : Header} (limit : ℕ) (hle : h.lengthWidth ≤ data.length)
    (more : Bytes) :
    takeSized limit h (data ++ more) =
      if limit < Bytes.ofBigEndian (data.take h.lengthWidth) then
        .error (.frameTooLarge (Bytes.ofBigEndian (data.take h.lengthWidth)) limit)
      else
        .ok (takeBody h (Bytes.ofBigEndian (data.take h.lengthWidth))
          (data.drop h.lengthWidth ++ more)) := by
  rw [takeSized, if_neg (by simp only [List.length_append]; omega),
    List.take_append_of_le_length hle, List.drop_append_of_le_length hle]

lemma takeSized_append_of_some {h : Header}
    (hs : takeSized limit h data = .ok (some (p, rest))) :
    takeSized limit h (data ++ more) = .ok (some (p, rest ++ more)) := by
  by_cases hlt : data.length < h.lengthWidth
  · simp [takeSized, hlt] at hs
  · have hfront := takeSized_append limit (Nat.le_of_not_lt hlt) []
    rw [List.append_nil, List.append_nil, hs] at hfront
    rw [takeSized_append limit (Nat.le_of_not_lt hlt) more]
    split_ifs at hfront ⊢ with hlarge
    rw [takeBody_append (Except.ok.inj hfront).symm]

lemma takeSized_append_of_error {h : Header} (hs : takeSized limit h data = .error e) :
    takeSized limit h (data ++ more) = .error e := by
  by_cases hlt : data.length < h.lengthWidth
  · simp [takeSized, hlt] at hs
  · have hfront := takeSized_append limit (Nat.le_of_not_lt hlt) []
    rw [List.append_nil, hs] at hfront
    rw [takeSized_append limit (Nat.le_of_not_lt hlt) more]
    split_ifs at hfront ⊢ with hlarge
    exact hfront.symm

/-- A frame that is all there stays the same whatever comes after it. -/
lemma takeFrame_append_of_some (hf : takeFrame limit data = .ok (some (p, rest))) :
    takeFrame limit (data ++ more) = .ok (some (p, rest ++ more)) := by
  cases data with
  | nil => simp [takeFrame] at hf
  | cons b data =>
    simp only [takeFrame, List.cons_append] at hf ⊢
    cases hb : Header.ofByte b with
    | error e => simp [hb] at hf
    | ok h =>
      simp only [hb] at hf ⊢
      split_ifs at hf ⊢
      exact takeSized_append_of_some hf

/-- A frame that is refused stays refused whatever comes after it. -/
lemma takeFrame_append_of_error (hf : takeFrame limit data = .error e) :
    takeFrame limit (data ++ more) = .error e := by
  cases data with
  | nil => simp [takeFrame] at hf
  | cons b data =>
    simp only [takeFrame, List.cons_append] at hf ⊢
    cases hb : Header.ofByte b with
    | error e' => simpa only [hb] using hf
    | ok h =>
      simp only [hb] at hf ⊢
      split_ifs at hf ⊢
      · exact takeSized_append_of_error hf
      · exact hf

/-- Reading can be interrupted anywhere: the bytes that were left are read again with those that
follow. -/
lemma parse_append (limit : ℕ) (data more : Bytes) :
    parse limit (data ++ more)
      = (parse limit ((parse limit data).rest ++ more)).after (parse limit data).pieces := by
  induction data using parse.induct limit with
  | case1 data e ht =>
    rw [parse_of_error ht]
    rfl
  | case2 data ht =>
    rw [parse_of_none ht]
    rfl
  | case3 data p rest ht hlt ih =>
    rw [parse_of_some (takeFrame_append_of_some ht), parse_of_some ht, ih]
    rfl

/-- The bytes that are left start with no whole frame, and are refused if the reading was. -/
lemma takeFrame_rest_parse (limit : ℕ) (data : Bytes) :
    takeFrame limit (parse limit data).rest
      = match (parse limit data).fault with
        | some e => .error e
        | none => .ok none := by
  induction data using parse.induct limit with
  | case1 data e ht =>
    rw [parse_of_error ht]
    exact ht
  | case2 data ht =>
    rw [parse_of_none ht]
    exact ht
  | case3 data p rest ht hlt ih =>
    rw [parse_of_some ht]
    exact ih

/-- The bytes that are left are read as themselves. -/
lemma parse_rest_parse (limit : ℕ) (data : Bytes) :
    parse limit (parse limit data).rest
      = { fault := (parse limit data).fault, rest := (parse limit data).rest } := by
  have ht := takeFrame_rest_parse limit data
  cases hf : (parse limit data).fault with
  | some e => rw [parse_of_error (by simpa only [hf] using ht)]
  | none => rw [parse_of_none (by simpa only [hf] using ht)]

/-- A reading that was refused is refused for the same reason when more bytes come. -/
lemma fault_parse_append_of_fault (hf : (parse limit data).fault = some e) (more : Bytes) :
    (parse limit (data ++ more)).fault = some e := by
  have ht := takeFrame_rest_parse limit data
  simp only [hf] at ht
  rw [parse_append, parse_of_error (takeFrame_append_of_error ht)]
  rfl

end Parse

/-! ## The assembler -/

namespace Assembler

/-- The bytes of the frame at the front that the assembler has taken in. -/
def taken (a : Assembler) : Bytes :=
  match a.stage with
  | .header => []
  | .length h => [h.toByte]
  | .body h length => h.toByte :: Bytes.bigEndian h.lengthWidth length

/-- The bytes from the frame at the front on. -/
def unread (a : Assembler) : Bytes := a.taken ++ a.buffer

/-- What has been taken in of the frame at the front was not refused. -/
def WellFormed (a : Assembler) : Prop :=
  match a.stage with
  | .header => True
  | .length h => h.counting = true
  | .body h length =>
    h.counting = true ∧ length < Bytes.capacity h.lengthWidth ∧ length ≤ a.maxFrameSize

/-- The assembler stands before the given bytes, and accepts bodies up to the limit. -/
structure Before (limit : ℕ) (data : Bytes) (a : Assembler) : Prop where
  wellFormed : a.WellFormed
  unread_eq : a.unread = data
  limit_eq : a.maxFrameSize = limit

/-- An attempt to give out the frame at the front of the given bytes ended as reading it does. -/
def Follows (limit : ℕ) (data : Bytes) (attempt : Except FrameError (Option Piece) × Assembler) :
    Except FrameError (Option (Piece × Bytes)) → Prop
  | .error e => attempt.1 = .error e ∧ attempt.2.Before limit data
  | .ok none => attempt.1 = .ok none ∧ attempt.2.Before limit data
  | .ok (some (p, rest)) => attempt.1 = .ok (some p) ∧ attempt.2.Before limit rest

variable {limit : ℕ} {data : Bytes} {a : Assembler} {h : Header} {length : ℕ}

lemma before_start (limit : ℕ) : (start limit).Before limit [] := ⟨trivial, rfl, rfl⟩

/-- An assembler that has read everything is as it was at the start. -/
lemma eq_start_of_before_nil (hb : a.Before limit []) : a = start limit := by
  obtain ⟨-, hunread, rfl⟩ := hb
  obtain ⟨stage, buffer, maxFrameSize⟩ := a
  cases stage with
  | header =>
    obtain rfl : buffer = [] := hunread
    rfl
  | length h => exact absurd hunread (List.cons_ne_nil _ _)
  | body h length => exact absurd hunread (List.cons_ne_nil _ _)

lemma before_push (hb : a.Before limit data) (chunk : Bytes) :
    (a.push chunk).Before limit (data ++ chunk) := by
  refine ⟨hb.wellFormed, ?_, hb.limit_eq⟩
  rw [← hb.unread_eq]
  simp only [unread, taken, push, List.append_assoc]

lemma follows_readBody (a : Assembler) (hc : h.counting = true)
    (hfits : length < Bytes.capacity h.lengthWidth) (hle : length ≤ a.maxFrameSize) :
    Follows a.maxFrameSize (h.toByte :: Bytes.bigEndian h.lengthWidth length ++ a.buffer)
      (a.readBody h length) (.ok (takeBody h length a.buffer)) := by
  unfold readBody takeBody
  split_ifs
  · exact ⟨rfl, ⟨hc, hfits, hle⟩, rfl, rfl⟩
  · exact ⟨rfl, trivial, rfl, rfl⟩

lemma follows_readLength (a : Assembler) (hc : h.counting = true) :
    Follows a.maxFrameSize (h.toByte :: a.buffer) (a.readLength h)
      (takeSized a.maxFrameSize h a.buffer) := by
  have hstay : ({ a with stage := .length h } : Assembler).Before a.maxFrameSize
      (h.toByte :: a.buffer) := ⟨hc, rfl, rfl⟩
  unfold readLength takeSized
  split_ifs with hlt
  · exact ⟨rfl, hstay⟩
  · dsimp only
    split_ifs with hlarge
    · exact ⟨rfl, hstay⟩
    · -- the field that was read is the one that spells the length
      have hwidth : (a.buffer.take h.lengthWidth).length = h.lengthWidth := by
        rw [List.length_take]; omega
      have hfield := Bytes.bigEndian_ofBigEndian (a.buffer.take h.lengthWidth)
      have hfits := Bytes.ofBigEndian_lt_capacity (a.buffer.take h.lengthWidth)
      rw [hwidth] at hfield hfits
      have hbody := follows_readBody { a with buffer := a.buffer.drop h.lengthWidth } hc hfits
        (Nat.le_of_not_lt hlarge)
      rwa [hfield, List.cons_append, List.take_append_drop] at hbody

lemma follows_readHeader (hs : a.stage = .header) :
    Follows a.maxFrameSize a.buffer a.readHeader (takeFrame a.maxFrameSize a.buffer) := by
  have hstay : a.Before a.maxFrameSize a.buffer :=
    ⟨by simp only [WellFormed, hs], by simp only [unread, taken, hs, List.nil_append], rfl⟩
  unfold readHeader
  cases hbuf : a.buffer with
  | nil =>
    rw [hbuf] at hstay
    exact ⟨rfl, hstay⟩
  | cons b rest =>
    rw [hbuf] at hstay
    simp only [takeFrame]
    cases hb : Header.ofByte b with
    | error e => exact ⟨rfl, hstay⟩
    | ok h =>
      dsimp only
      split_ifs with hc
      · rw [Header.eq_toByte_of_ofByte hb]
        exact follows_readLength { a with buffer := rest } hc
      · exact ⟨rfl, hstay⟩

lemma takeFrame_toByte (hc : h.counting = true) (rest : Bytes) :
    takeFrame limit (h.toByte :: rest) = takeSized limit h rest := by
  simp only [takeFrame, Header.ofByte_toByte, hc, if_true]

lemma takeSized_bigEndian (hfits : length < Bytes.capacity h.lengthWidth) (hle : length ≤ limit)
    (rest : Bytes) :
    takeSized limit h (Bytes.bigEndian h.lengthWidth length ++ rest)
      = .ok (takeBody h length rest) := by
  have hwidth := Bytes.length_bigEndian h.lengthWidth length
  have htake : (Bytes.bigEndian h.lengthWidth length ++ rest).take h.lengthWidth
      = Bytes.bigEndian h.lengthWidth length := List.take_left' hwidth
  have hdrop : (Bytes.bigEndian h.lengthWidth length ++ rest).drop h.lengthWidth = rest :=
    List.drop_left' hwidth
  have hfield := Bytes.ofBigEndian_bigEndian_of_lt hfits
  rw [takeSized, if_neg (by rw [List.length_append, hwidth]; omega), htake, hdrop, hfield]
  exact if_neg (by omega)

/-- An attempt of the assembler is an attempt on what it has not read. -/
lemma follows_next (hb : a.Before limit data) :
    Follows limit data a.next (takeFrame limit data) := by
  obtain ⟨hw, rfl, rfl⟩ := hb
  cases hs : a.stage with
  | header =>
    simp only [next, unread, taken, hs, List.nil_append]
    exact follows_readHeader hs
  | length h =>
    simp only [WellFormed, hs] at hw
    simp only [next, unread, taken, hs, List.cons_append, List.nil_append, takeFrame_toByte hw]
    exact follows_readLength a hw
  | body h length =>
    simp only [WellFormed, hs] at hw
    obtain ⟨hc, hfits, hle⟩ := hw
    simp only [next, unread, taken, hs, List.cons_append, takeFrame_toByte hc,
      takeSized_bigEndian hfits hle]
    exact follows_readBody a hc hfits hle

lemma drain_of_error {a' : Assembler} {e : FrameError} (hn : a.next = (.error e, a')) :
    a.drain = (([], some e), a') := by
  rw [drain]
  split <;> simp_all

lemma drain_of_none {a' : Assembler} (hn : a.next = (.ok none, a')) :
    a.drain = (([], none), a') := by
  rw [drain]
  split <;> simp_all

lemma drain_of_some {a' : Assembler} {p : Piece} (hn : a.next = (.ok (some p), a')) :
    a.drain = ((p :: a'.drain.1.1, a'.drain.1.2), a'.drain.2) := by
  rw [drain]
  split <;> simp_all

/-- Draining is reading: the frames that are given out, the error that ends it and the bytes that
are left are those of the unread bytes. -/
lemma drain_eq_parse (hb : a.Before limit data) :
    a.drain.1 = ((parse limit data).pieces, (parse limit data).fault) ∧
      a.drain.2.Before limit (parse limit data).rest := by
  -- the assembler may have taken in a part of the frame that the reading starts with, so that the
  -- induction is on what is left to its own draining
  induction hp : a.pending using Nat.strongRecOn generalizing a data with
  | _ n ih =>
    have hf := follows_next hb
    obtain ⟨out, a', hn⟩ : ∃ out a', a.next = (out, a') := ⟨_, _, rfl⟩
    rw [hn] at hf
    rcases ht : takeFrame limit data with e | _ | ⟨p, rest⟩
    · rw [ht] at hf
      obtain ⟨rfl, hleft⟩ := hf
      rw [drain_of_error hn, parse_of_error ht]
      exact ⟨rfl, hleft⟩
    · rw [ht] at hf
      obtain ⟨rfl, hleft⟩ := hf
      rw [drain_of_none hn, parse_of_none ht]
      exact ⟨rfl, hleft⟩
    · rw [ht] at hf
      obtain ⟨rfl, hleft⟩ := hf
      obtain ⟨hout, hend⟩ := ih a'.pending (hp ▸ pending_lt_of_next hn) hleft rfl
      rw [drain_of_some hn, parse_of_some ht]
      exact ⟨by rw [hout]; rfl, hend⟩

/-! ## Chunks -/

/-- Pushes chunks one after the other and drains the assembler after each: all the frames that are
given out, the first error, and what becomes of the assembler. -/
def feed (a : Assembler) : List Bytes → (List Piece × Option FrameError) × Assembler
  | [] => (([], none), a)
  | chunk :: chunks =>
    let ((pieces, fault), a) := (a.push chunk).drain
    let ((morePieces, moreFault), a) := a.feed chunks
    ((pieces ++ morePieces, fault.or moreFault), a)

/-- Feeding chunks to an assembler that has nothing left to give out is reading on.  An error that
it has met before is met again. -/
lemma feed_of_before {fault : Option FrameError} (chunks : List Bytes) (hb : a.Before limit data)
    (hend : parse limit data = { fault, rest := data }) :
    (a.feed chunks).1.1 = (parse limit (data ++ chunks.flatten)).pieces ∧
      fault.or (a.feed chunks).1.2 = (parse limit (data ++ chunks.flatten)).fault ∧
      (a.feed chunks).2.Before limit (parse limit (data ++ chunks.flatten)).rest := by
  induction chunks generalizing a data fault with
  | nil =>
    rw [List.flatten_nil, List.append_nil, hend]
    exact ⟨rfl, Option.or_none, hb⟩
  | cons chunk chunks ih =>
    obtain ⟨hout, hleft⟩ := drain_eq_parse (before_push hb chunk)
    obtain ⟨hpieces, hfault, hlast⟩ := ih hleft (parse_rest_parse limit (data ++ chunk))
    have happ := parse_append limit (data ++ chunk) chunks.flatten
    rw [List.append_assoc, ← List.flatten_cons] at happ
    simp only [feed, hout]
    rw [happ]
    refine ⟨?_, ?_, hlast⟩
    · rw [hpieces]
      rfl
    · rw [hfault]
      cases fault with
      | none => rfl
      | some e =>
        -- the error was there before the chunk came, and stays
        have hstays := fault_parse_append_of_fault (congrArg Parsed.fault hend)
          (chunk :: chunks).flatten
        rw [happ] at hstays
        exact hstays.symm

/-- Feeding the chunks of a byte string is reading the byte string. -/
lemma feed_start (limit : ℕ) (chunks : List Bytes) :
    ((start limit).feed chunks).1
        = ((parse limit chunks.flatten).pieces, (parse limit chunks.flatten).fault) ∧
      ((start limit).feed chunks).2.Before limit (parse limit chunks.flatten).rest := by
  have hnil : parse limit [] = { rest := [] } := parse_of_none rfl
  obtain ⟨hpieces, hfault, hlast⟩ := feed_of_before chunks (before_start limit) hnil
  rw [List.nil_append] at hpieces hfault hlast
  rw [Option.none_or] at hfault
  exact ⟨Prod.ext hpieces hfault, hlast⟩

/-- **Assembly does not depend on how the stream is cut.**  Two ways of cutting a byte string give
the same frames and the same first error, and these are the ones of the byte string read as a
whole. -/
theorem feed_eq_of_flatten_eq (limit : ℕ) {data : Bytes} {chunks chunks' : List Bytes}
    (h : chunks.flatten = data) (h' : chunks'.flatten = data) :
    ((start limit).feed chunks).1 = ((start limit).feed chunks').1 ∧
      ((start limit).feed chunks).1 = ((parse limit data).pieces, (parse limit data).fault) := by
  obtain ⟨hread, -⟩ := feed_start limit chunks
  obtain ⟨hread', -⟩ := feed_start limit chunks'
  rw [h] at hread
  rw [h'] at hread'
  exact ⟨hread.trans hread'.symm, hread⟩

/-- A stream of a frame and of a length that is not accepted, cut inside the header, inside both
length fields and after the error, and not cut at all. -/
theorem feed_oversized_cut_everywhere :
    let data : Bytes := [0x11, 0, 1, 7, 0x15, 0, 0, 0, 9, 1, 2]
    let chunks : List Bytes := [[], [0x11], [0], [1, 7, 0x15, 0], [0, 0], [9], [1, 2]]
    let piece : Piece := ({ counting := true, dataType := .zero }, [7])
    chunks.flatten = data ∧ [data].flatten = data ∧
      ((start 4).feed chunks).1 = ((start 4).feed [data]).1 ∧
      ((start 4).feed chunks).1 = ([piece], some (.frameTooLarge 9 4)) := by
  intro data chunks piece
  have hflat : chunks.flatten = data := rfl
  have hwhole : [data].flatten = data := rfl
  obtain ⟨hsame, hread⟩ := feed_eq_of_flatten_eq 4 hflat hwhole
  have hfirst : takeFrame 4 data = .ok (some (piece, [0x15, 0, 0, 0, 9, 1, 2])) := rfl
  have hsecond : takeFrame 4 [0x15, 0, 0, 0, 9, 1, 2] = .error (.frameTooLarge 9 4) := rfl
  rw [parse_of_some hfirst, parse_of_error hsecond] at hread
  exact ⟨hflat, hwhole, hsame, hread⟩

end Assembler

end SessionServer
