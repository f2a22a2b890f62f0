/-
# Restoring less than all

What reads compressed data is asked for the first so many bytes of what the data stands for.  It is
*incremental* if it makes these bytes in order and comes to their end only when it has verified
them (`Incremental`).  With such a reader all that a limit decides is whether the output is
returned: if there is any output under some limit, there is the same under every limit that has room
for it (`Incremental.cuts_only`).  The limit may be the greatest number there is, for which one more
byte cannot be asked for.

The reader of the plug-in never takes a byte of its output back (`extends_step`).  How many bytes
are asked for does not change what it reads or makes; it only changes how far it goes.  Two readings
of the same data with different counts therefore make the same steps up to the place where the one
with the smaller count is broken off, and what has been made by then is the front of what the other
one goes on to make.  So the reader is incremental (`incremental_restore`).

Main result: a limit of the plug-in only cuts (`limit_only_cuts`).
-/
import Mathlib.Data.List.Infix
import SessionServer.Zlib.Compressor

namespace SessionServer.Zlib

/-! ## Readers -/

section Incremental

variable {read : Bytes → ℕ → Except FrameError Bytes} {Stands : Bytes → Bytes → Prop}
  {data out : Bytes} {limit : ℕ}

/-- The reader makes the bytes that data stands for in order, and it reports their end only of data
that it has verified. -/
structure Incremental (read : Bytes → ℕ → Except FrameError Bytes)
    (Stands : Bytes → Bytes → Prop) : Prop where
  /-- Whoever asks for so many bytes gets no more, and whoever asks for fewer gets the front. -/
  front {data : Bytes} {count count' : ℕ} {out : Bytes} (hle : count' ≤ count)
    (h : read data count = .ok out) : read data count' = .ok (out.take count')
  /-- There are fewer bytes than were asked for only at the end of what data stands for. -/
  verified {data : Bytes} {count : ℕ} {out : Bytes} (h : read data count = .ok out)
    (hlt : out.length < count) : Stands data out
  /-- Nothing keeps the reader from making what data stands for, or the front of it. -/
  restored {data out : Bytes} (h : Stands data out) (count : ℕ) :
    read data count = .ok (out.take count)

lemma Incremental.length_le (hread : Incremental read Stands) {count : ℕ}
    (h : read data count = .ok out) : out.length ≤ count := by
  have heq := Except.ok.inj (h.symm.trans (hread.front le_rfl h))
  rw [heq]
  exact List.length_take_le ..

lemma uncompressWith_of_read (h : read data (wanted limit) = .ok out) :
    uncompressWith read data limit
      = if limit < out.length then .error (.frameTooLarge out.length limit) else .ok out := by
  simp only [uncompressWith, h, bind, Except.bind]

lemma uncompressWith_eq_ok_iff :
    uncompressWith read data limit = .ok out
      ↔ read data (wanted limit) = .ok out ∧ out.length ≤ limit := by
  cases h : read data (wanted limit) with
  | error e => simp [uncompressWith, h, bind, Except.bind]
  | ok made =>
    rw [uncompressWith_of_read h]
    constructor
    · intro hout
      split_ifs at hout with hlarge
      obtain rfl := Except.ok.inj hout
      exact ⟨rfl, Nat.le_of_not_lt hlarge⟩
    · rintro ⟨hmade, hle⟩
      obtain rfl := Except.ok.inj hmade
      exact if_neg (Nat.not_lt_of_le hle)

lemma wanted_mono {limit limit' : ℕ} (hle : limit ≤ limit') : wanted limit ≤ wanted limit' := by
  unfold wanted
  omega

/-- What is restored under one limit is read under every other one that has room for it. -/
lemma Incremental.read_of_length_le (hread : Incremental read Stands)
    (h : read data (wanted limit) = .ok out) (hle : out.length ≤ limit) {limit' : ℕ}
    (hroom : out.length ≤ limit') : read data (wanted limit') = .ok out := by
  have hmost := hread.length_le h
  have hall : out.length ≤ wanted limit' := by
    unfold wanted at *
    omega
  by_cases hlt : out.length < wanted limit
  · have hagain := hread.restored (hread.verified h hlt) (wanted limit')
    rwa [List.take_of_length_le hall] at hagain
  · -- so many bytes that there is no count for one more, under any limit
    have hcount : wanted limit' ≤ wanted limit := by
      unfold wanted at *
      omega
    have hfront := hread.front hcount h
    rwa [List.take_of_length_le hall] at hfront

/-- With an incremental reader, a limit decides whether the output is returned and nothing else. -/
theorem Incremental.cuts_only (hread : Incremental read Stands)
    (h : uncompressWith read data limit = .ok out) :
    out.length ≤ limit ∧
      (∀ limit', out.length ≤ limit' → uncompressWith read data limit' = .ok out) ∧
      ∀ limit', limit' < out.length →
        uncompressWith read data limit' = .error (.frameTooLarge (limit' + 1) limit') := by
  obtain ⟨hmade, hle⟩ := uncompressWith_eq_ok_iff.1 h
  refine ⟨hle, fun limit' hroom => ?_, fun limit' hover => ?_⟩
  · exact uncompressWith_eq_ok_iff.2 ⟨hread.read_of_length_le hmade hle hroom, hroom⟩
  · have hmost := hread.length_le hmade
    have hwanted : wanted limit' = limit' + 1 := by
      unfold wanted at *
      omega
    have hfront := hread.front (wanted_mono (Nat.le_of_lt (hover.trans_le hle))) hmade
    rw [uncompressWith_of_read hfront, hwanted, List.length_take_of_le hover,
      if_pos (Nat.lt_succ_self limit')]

end Incremental

/-! ## The output only grows -/

/-- The second state has the output of the first one, and perhaps more behind it. -/
def InflateState.Extends (s s' : InflateState) : Prop := s.out.toList <+: s'.out.toList

namespace InflateState.Extends

variable {s s' s'' : InflateState}

lemma refl (s : InflateState) : s.Extends s := List.prefix_rfl

lemma trans (h : s.Extends s') (h' : s'.Extends s'') : s.Extends s'' := List.IsPrefix.trans h h'

end InflateState.Extends

namespace Inflate

variable {s s' : InflateState}

lemma exists_of_bind_eq_ok {α β : Type} {x : Except Failure α} {f : α → Except Failure β} {b : β}
    (h : (x >>= f) = .ok b) : ∃ a, x = .ok a ∧ f a = .ok b := by
  cases x with
  | error failure => cases h
  | ok a => exact ⟨a, rfl, h⟩

lemma extends_copyStored (s : InflateState) (left : ℕ) : s.Extends (copyStored s left) := by
  simp only [InflateState.Extends, copyStored, Array.toList_appendList]
  exact List.prefix_append _ _

lemma prefix_copyBack (distance length : ℕ) (out : Array UInt8) :
    out.toList <+: (copyBack distance length out).toList := by
  induction length generalizing out with
  | zero => exact List.prefix_rfl
  | succ length ih =>
    have hpush : out.toList <+: (out.push (lookBack out distance)).toList := by
      rw [Array.toList_push]
      exact List.prefix_append _ _
    exact hpush.trans (ih _)

lemma extends_streamHeader (h : streamHeader s = .ok s') : s.Extends s' := by
  unfold streamHeader at h
  split at h
  · split_ifs at h
    obtain rfl := Except.ok.inj h
    exact .refl s
  · cases h

lemma extends_blockHeader (h : blockHeader s = .ok s') : s.Extends s' := by
  unfold blockHeader at h
  obtain ⟨⟨final, c⟩, -, h⟩ := exists_of_bind_eq_ok h
  obtain ⟨⟨kind, c'⟩, -, h⟩ := exists_of_bind_eq_ok h
  dsimp only at h
  split at h
  · -- a stored block, the beginning of which is taken at once
    split at h
    · rename_i rest _
      split_ifs at h
      obtain rfl := Except.ok.inj h
      exact extends_copyStored { s with cursor := .ofBytes rest, final := final = 1 } _
    · cases h
  · obtain rfl := Except.ok.inj h
    exact .refl s
  · obtain ⟨⟨literals, distances, c''⟩, -, h⟩ := exists_of_bind_eq_ok h
    obtain rfl := Except.ok.inj h
    exact .refl s
  · cases h

lemma extends_stored {left : ℕ} (h : stored s left = .ok s') : s.Extends s' := by
  unfold stored at h
  split_ifs at h
  obtain rfl := Except.ok.inj h
  exact extends_copyStored s left

lemma extends_codedSymbol {literals distances : Huffman}
    (h : codedSymbol literals distances s = .ok s') : s.Extends s' := by
  unfold codedSymbol at h
  obtain ⟨⟨symbol, c⟩, -, h⟩ := exists_of_bind_eq_ok h
  dsimp only at h
  split_ifs at h
  · obtain rfl := Except.ok.inj h
    simp only [InflateState.Extends, Array.toList_push]
    exact List.prefix_append _ _
  · obtain rfl := Except.ok.inj h
    exact .refl s
  · obtain ⟨⟨length, c⟩, -, h⟩ := exists_of_bind_eq_ok h
    obtain ⟨⟨symbol, c⟩, -, h⟩ := exists_of_bind_eq_ok h
    obtain ⟨⟨distance, c⟩, -, h⟩ := exists_of_bind_eq_ok h
    obtain rfl := Except.ok.inj h
    exact prefix_copyBack distance length s.out

lemma eq_ok_of_goOn {r : Except Failure InflateState} (h : goOn r = .more s') : r = .ok s' := by
  cases r with
  | error failure => cases h
  | ok next => exact congrArg Except.ok (StepResult.more.inj h)

/-- A step keeps what has been made. -/
lemma extends_step (h : step s = .more s') : s.Extends s' := by
  unfold step at h
  split at h
  · exact extends_streamHeader (eq_ok_of_goOn h)
  · exact extends_blockHeader (eq_ok_of_goOn h)
  · exact extends_stored (eq_ok_of_goOn h)
  · exact extends_codedSymbol (eq_ok_of_goOn h)
  · -- after the checksum there is nothing to go on to
    unfold trailer at h
    dsimp only at h
    split_ifs at h

/-- The reading of a stream is complete only at its checksum, if that is the one of the output. -/
lemma checksum_of_finished (h : step s = .finished) :
    Bytes.ofBigEndian (s.cursor.align.bytes.take 4) = checksum s.out := by
  have hgoOn (r : Except Failure InflateState) : goOn r ≠ .finished := by cases r <;> nofun
  unfold step at h
  split at h
  iterate 4 exact absurd h (hgoOn _)
  unfold trailer at h
  dsimp only at h
  split_ifs at h with hshort hsum
  exact hsum

end Inflate

/-! ## Runs with different budgets -/

namespace InflateState

lemma extends_runFor (budget fuel : ℕ) (s : InflateState) :
    s.Extends (s.runFor budget fuel).1 := by
  induction fuel generalizing s with
  | zero => exact .refl s
  | succ fuel ih =>
    unfold runFor
    split_ifs
    · exact .refl s
    · cases hstep : Inflate.step s with
      | more next => exact (Inflate.extends_step hstep).trans (ih next)
      | finished => exact .refl s
      | failed failure => exact .refl s

/-- With a smaller budget a run is the same, or it is cut, and then it has made more than the
smaller budget and nothing that the other one does not make. -/
lemma runFor_of_le {budget less : ℕ} (hle : less ≤ budget) (fuel : ℕ) (s : InflateState) :
    s.runFor less fuel = s.runFor budget fuel ∨
      ((s.runFor less fuel).2 = .cut ∧ less < (s.runFor less fuel).1.out.size ∧
        (s.runFor less fuel).1.Extends (s.runFor budget fuel).1) := by
  induction fuel generalizing s with
  | zero => exact .inl rfl
  | succ fuel ih =>
    by_cases hcut : less < s.out.size
    · have hs : s.runFor less (fuel + 1) = (s, .cut) := by rw [runFor, if_pos hcut]
      rw [hs]
      exact .inr ⟨rfl, hcut, extends_runFor budget (fuel + 1) s⟩
    · rw [runFor, runFor, if_neg hcut, if_neg (by omega)]
      cases Inflate.step s with
      | more next => exact ih next
      | finished => exact .inl rfl
      | failed failure => exact .inl rfl

lemma run_of_le {budget less : ℕ} (hle : less ≤ budget) (s : InflateState) :
    s.run less = s.run budget ∨
      ((s.run less).2 = .cut ∧ less < (s.run less).1.out.size ∧
        (s.run less).1.Extends (s.run budget).1) :=
  runFor_of_le hle _ s

/-- A run that comes to an end by itself comes to the same end with any other budget, or it is cut
before. -/
lemma run_of_ne_cut {s t : InflateState} {budget : ℕ} {ending : Ending}
    (h : s.run budget = (t, ending)) (hne : ending ≠ .cut) (budget' : ℕ) :
    s.run budget' = (t, ending) ∨
      ((s.run budget').2 = .cut ∧ budget' < (s.run budget').1.out.size ∧
        (s.run budget').1.Extends t) := by
  rcases Nat.le_total budget' budget with hle | hle
  · simpa only [h] using run_of_le hle s
  · rcases run_of_le hle s with heq | ⟨hcut, -⟩
    · exact .inl (heq.symm.trans h)
    · rw [h] at hcut
      exact absurd hcut hne

/-- How a run can end. -/
lemma runFor_ending {budget fuel : ℕ} {s t : InflateState} {ending : Ending}
    (h : s.runFor budget fuel = (t, ending)) :
    (ending = .cut → budget < t.out.size) ∧
      (ending = .complete → Inflate.step t = .finished) := by
  induction fuel generalizing s with
  | zero =>
    obtain ⟨-, rfl⟩ := Prod.mk.inj h
    exact ⟨nofun, nofun⟩
  | succ fuel ih =>
    rw [runFor] at h
    split_ifs at h with hcut
    · obtain ⟨rfl, rfl⟩ := Prod.mk.inj h
      exact ⟨fun _ => hcut, nofun⟩
    · cases hstep : Inflate.step s with
      | more next =>
        rw [hstep] at h
        exact ih h
      | finished =>
        rw [hstep] at h
        obtain ⟨rfl, rfl⟩ := Prod.mk.inj h
        exact ⟨nofun, fun _ => hstep⟩
      | failed failure =>
        rw [hstep] at h
        obtain ⟨rfl, rfl⟩ := Prod.mk.inj h
        exact ⟨nofun, nofun⟩

/-- Reading a piece keeps what has been made before it came. -/
lemma extends_run_feed (s : InflateState) (piece : Bytes) (budget : ℕ) :
    s.Extends ((s.feed piece).run budget).1 :=
  extends_runFor budget _ (s.feed piece)

end InflateState

/-! ## Asking for fewer and for more bytes -/

variable {count count' : ℕ} {s : InflateState} {piece : Bytes} {pieces : List Bytes} {out : Bytes}

lemma windowEnd_mono (hle : count ≤ count') : windowEnd count ≤ windowEnd count' := by
  unfold windowEnd windowSize
  omega

/-- All the ways to restore something from a piece and the pieces behind it: the bytes are there, or
the data ends with the piece, or the rest of it is read on from where the piece ends. -/
lemma restoreFrom_cons_eq_ok_iff :
    restoreFrom count s (piece :: pieces) = .ok out ↔
      ∃ t ending, (s.feed piece).run (windowEnd count) = (t, ending) ∧
        ending ≠ .failed .corrupt ∧
        (((count ≤ t.out.size ∨ ending = .complete) ∧ out = t.out.toList.take count) ∨
          (t.out.size < count ∧ ending ≠ .complete ∧
            restoreFrom count t pieces = .ok out)) := by
  rcases hrun : (s.feed piece).run (windowEnd count) with ⟨t, ending⟩
  rw [restoreFrom, hrun]
  dsimp only
  constructor
  · intro h
    split_ifs at h with hcorrupt hdone
    · exact ⟨t, ending, rfl, hcorrupt, .inl ⟨hdone, (Except.ok.inj h).symm⟩⟩
    · rw [not_or, Nat.not_le] at hdone
      exact ⟨t, ending, rfl, hcorrupt, .inr ⟨hdone.1, hdone.2, h⟩⟩
  · rintro ⟨t', ending', heq, hcorrupt, hcases⟩
    obtain ⟨rfl, rfl⟩ := Prod.mk.inj heq
    rw [if_neg hcorrupt]
    rcases hcases with ⟨hdone, rfl⟩ | ⟨hlt, hnot, hrest⟩
    · rw [if_pos hdone]
    · rwa [if_neg (by simp [hnot, hlt])]

lemma restoreFrom_nil_ne_ok : restoreFrom count s [] ≠ .ok out := nofun

/-- What has been made is the front of what is restored, as far as that goes. -/
lemma take_prefix_of_restoreFrom (h : restoreFrom count s pieces = .ok out) :
    s.out.toList.take count <+: out := by
  induction pieces generalizing s with
  | nil => exact absurd h restoreFrom_nil_ne_ok
  | cons piece pieces ih =>
    obtain ⟨t, ending, hrun, -, hcases⟩ := restoreFrom_cons_eq_ok_iff.1 h
    have hext : s.Extends t := by
      have := s.extends_run_feed piece (windowEnd count)
      rwa [hrun] at this
    have hfront : s.out.toList.take count <+: t.out.toList.take count := hext.take count
    rcases hcases with ⟨-, rfl⟩ | ⟨-, -, hrest⟩
    · exact hfront
    · exact hfront.trans (ih hrest)

lemma take_eq_of_prefix {made : Bytes} {n : ℕ} (h : made.take n <+: out) (hn : n ≤ made.length) :
    out.take n = made.take n := by
  have heq := List.prefix_iff_eq_take.1 h
  rw [List.length_take_of_le hn] at heq
  exact heq.symm

/-- Whoever asks for fewer bytes gets the front of the output. -/
lemma restoreFrom_of_le (hle : count' ≤ count) (h : restoreFrom count s pieces = .ok out) :
    restoreFrom count' s pieces = .ok (out.take count') := by
  induction pieces generalizing s with
  | nil => exact absurd h restoreFrom_nil_ne_ok
  | cons piece pieces ih =>
    obtain ⟨t, ending, hrun, hcorrupt, hcases⟩ := restoreFrom_cons_eq_ok_iff.1 h
    have hmade : t.out.toList.take count <+: out := by
      rcases hcases with ⟨-, rfl⟩ | ⟨-, -, hrest⟩
      · exact List.prefix_rfl
      · exact take_prefix_of_restoreFrom hrest
    -- once enough bytes are there, the rest of the output does not matter
    have henough : ∀ u : InflateState, u.Extends t → count' ≤ u.out.size →
        out.take count' = u.out.toList.take count' := by
      intro u hext hsize
      have hcut : u.out.toList.take count' <+: t.out.toList.take count :=
        (hext.take count').trans (List.take_prefix_take_left hle)
      exact take_eq_of_prefix (hcut.trans hmade) hsize
    rw [restoreFrom_cons_eq_ok_iff]
    rcases (s.feed piece).run_of_le (windowEnd_mono hle) with heq | ⟨hcut, hsize, hext⟩
    · refine ⟨t, ending, heq.trans hrun, hcorrupt, ?_⟩
      by_cases hsize : count' ≤ t.out.size
      · exact .inl ⟨.inl hsize, henough t (.refl t) hsize⟩
      · rcases hcases with ⟨hdone, rfl⟩ | ⟨hlt, hnot, hrest⟩
        · have hcomplete : ending = .complete := hdone.resolve_left (by omega)
          rw [List.take_take, Nat.min_eq_left hle]
          exact .inl ⟨.inr hcomplete, rfl⟩
        · exact .inr ⟨Nat.lt_of_not_le hsize, hnot, ih hrest⟩
    · -- the reading is broken off inside this piece
      have hreached : count' ≤ ((s.feed piece).run (windowEnd count')).1.out.size :=
        (le_windowEnd count').trans hsize.le
      rw [hrun] at hext
      exact ⟨_, .cut, Prod.ext rfl hcut, nofun, .inl ⟨.inl hreached, henough _ hext hreached⟩⟩

/-- With as much output as it makes, the reader comes to the end of the pieces' stream and finds the
checksum of the output there. -/
inductive Restores : InflateState → List Bytes → Bytes → Prop
  /-- The stream ends in the first piece. -/
  | complete {s t : InflateState} {piece : Bytes} {pieces : List Bytes} {budget : ℕ}
      (hrun : (s.feed piece).run budget = (t, .complete))
      (hchecksum : Bytes.ofBigEndian (t.cursor.align.bytes.take 4) = checksum t.out) :
      Restores s (piece :: pieces) t.out.toList
  /-- It goes on behind the first piece. -/
  | next {s t : InflateState} {piece : Bytes} {pieces : List Bytes} {budget : ℕ} {out : Bytes}
      (hrun : (s.feed piece).run budget = (t, .failed .exhausted))
      (hrest : Restores t pieces out) : Restores s (piece :: pieces) out

lemma Restores.prefix (h : Restores s pieces out) : s.out.toList <+: out := by
  induction h with
  | @complete s t piece pieces budget hrun _ =>
    have hext := s.extends_run_feed piece budget
    rwa [hrun] at hext
  | @next s t piece pieces budget out hrun _ ih =>
    have hext := s.extends_run_feed piece budget
    rw [hrun] at hext
    exact List.IsPrefix.trans hext ih

/-- Fewer bytes than were asked for are all bytes of a stream that was verified. -/
lemma restores_of_restoreFrom (h : restoreFrom count s pieces = .ok out)
    (hlt : out.length < count) : Restores s pieces out := by
  induction pieces generalizing s with
  | nil => exact absurd h restoreFrom_nil_ne_ok
  | cons piece pieces ih =>
    obtain ⟨t, ending, hrun, hcorrupt, hcases⟩ := restoreFrom_cons_eq_ok_iff.1 h
    obtain ⟨hcut, hcomplete⟩ := InflateState.runFor_ending hrun
    rcases hcases with ⟨hdone, rfl⟩ | ⟨hsize, hnot, hrest⟩
    · have hsize : t.out.size < count := by
        rw [List.length_take, Array.length_toList] at hlt
        omega
      obtain rfl := hdone.resolve_left (Nat.not_le_of_lt hsize)
      rw [List.take_of_length_le (by rw [Array.length_toList]; exact hsize.le)]
      exact .complete hrun (Inflate.checksum_of_finished (hcomplete rfl))
    · refine .next (?_ : (s.feed piece).run (windowEnd count) = _) (ih hrest)
      cases ending with
      | complete => exact absurd rfl hnot
      | cut => exact absurd ((hcut rfl).trans hsize) (Nat.not_lt_of_le (le_windowEnd count))
      | failed failure =>
        cases failure with
        | exhausted => exact hrun
        | corrupt => exact absurd rfl hcorrupt

/-- A stream that is verified is restored, as far as is asked for. -/
lemma restoreFrom_of_restores (h : Restores s pieces out) (count : ℕ) :
    restoreFrom count s pieces = .ok (out.take count) := by
  -- once enough bytes are there, they are the front of all that will be made
  have henough {u : InflateState} {out : Bytes} (hmade : u.out.toList <+: out)
      (hsize : count ≤ u.out.size) : out.take count = u.out.toList.take count :=
    take_eq_of_prefix ((List.take_prefix count _).trans hmade) hsize
  induction h with
  | @complete s t piece pieces budget hrun _ =>
    rw [restoreFrom_cons_eq_ok_iff]
    rcases InflateState.run_of_ne_cut hrun nofun (windowEnd count) with heq | ⟨hcut, hsize, hext⟩
    · exact ⟨t, .complete, heq, nofun, .inl ⟨.inr rfl, rfl⟩⟩
    · have hreached := (le_windowEnd count).trans hsize.le
      exact ⟨_, .cut, Prod.ext rfl hcut, nofun, .inl ⟨.inl hreached, henough hext hreached⟩⟩
  | @next s t piece pieces budget out hrun hrest ih =>
    rw [restoreFrom_cons_eq_ok_iff]
    rcases InflateState.run_of_ne_cut hrun nofun (windowEnd count) with heq | ⟨hcut, hsize, hext⟩
    · refine ⟨t, _, heq, nofun, ?_⟩
      by_cases hsize : count ≤ t.out.size
      · exact .inl ⟨.inl hsize, henough hrest.prefix hsize⟩
      · exact .inr ⟨Nat.lt_of_not_le hsize, nofun, ih⟩
    · have hreached := (le_windowEnd count).trans hsize.le
      exact ⟨_, .cut, Prod.ext rfl hcut, nofun,
        .inl ⟨.inl hreached, henough (List.IsPrefix.trans hext hrest.prefix) hreached⟩⟩

/-- The data is that of a stream which stands for the output. -/
def Stands (data out : Bytes) : Prop := Restores {} (Zlib.pieces data) out

/-- The reader of the plug-in is incremental. -/
lemma incremental_restore : Incremental restore Stands where
  front hle h := restoreFrom_of_le hle h
  verified h hlt := restores_of_restoreFrom h hlt
  restored h count := restoreFrom_of_restores h count

/-- **A limit only cuts.**  If compressed data is restored under some limit, the output has no more
bytes than that.  Under every limit that has room for this output the same output is restored; and
under every other one the data is refused for having one byte more than the limit.  No limit is too
great for that, not even the greatest that there is. -/
theorem limit_only_cuts (h : uncompress data limit = .ok out) :
    out.length ≤ limit ∧
      (∀ limit', out.length ≤ limit' → uncompress data limit' = .ok out) ∧
      ∀ limit', limit' < out.length →
        uncompress data limit' = .error (.frameTooLarge (limit' + 1) limit') :=
  incremental_restore.cuts_only h

lemma pieces_of_length_le (hne : data ≠ []) (hle : data.length ≤ readSize) :
    Zlib.pieces data = [data] := by
  rw [Zlib.pieces, if_neg hne, List.take_of_length_le hle, List.drop_of_length_le hle, Zlib.pieces,
    if_pos rfl]

/-- A few letters, and a copy that repeats them.  What they make is restored with more room than it
needs, with all the room there is and with just enough, and refused when one byte has no room. -/
theorem limit_only_cuts_a_copy :
    let data : Bytes := [120, 218, 75, 76, 74, 78, 132, 33, 0, 29, 224, 4, 153]
    let out : Bytes := [97, 98, 99, 97, 98, 99, 97, 98, 99, 97, 98, 99]
    uncompress data 40 = .ok out ∧ uncompress data (UInt64.size - 1) = .ok out ∧
      uncompress data 12 = .ok out ∧ uncompress data 11 = .error (.frameTooLarge 12 11) := by
  intro data out
  have hpieces : Zlib.pieces data = [data] := pieces_of_length_le (by decide) (by decide)
  have hrestore : restore data (wanted 40) = .ok out := by
    rw [restore, hpieces]
    decide +kernel
  have h : uncompress data 40 = .ok out := uncompressWith_eq_ok_iff.2 ⟨hrestore, by decide⟩
  obtain ⟨-, hroom, hover⟩ := limit_only_cuts h
  exact ⟨h, hroom _ (by decide), hroom 12 (by decide), hover 11 (by decide)⟩

end SessionServer.Zlib
