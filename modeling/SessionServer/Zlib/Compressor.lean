/-
# The zlib compression plug-in

The plug-in refuses to restore more than a given number of bytes.  To find out whether there are
more it asks for one byte past the limit, as far as the count of the bytes it asks for has room for
one more; it looks at how many it got when it has them all.

Input is read in pieces of `2 ^ 15` bytes and output is made in windows of that size.  A piece is
read only while fewer bytes are there than were asked for, and a window is made only if it may hold
one of them; damage in what is read and made is reported before the limit is.

What reads compressed data is given to the plug-in from outside (`uncompressWith`): it is asked for
the first bytes of what data stands for, as many as are wanted.
-/
import SessionServer.Frame.Codec
import SessionServer.Zlib.Deflate
import SessionServer.Zlib.Inflate

namespace SessionServer.Zlib

/-- How much input is read at once. -/
def readSize : Nat := 32768

/-- How much output is made before it is looked at. -/
def windowSize : Nat := 32768

/-- How many bytes are asked for under a limit: one more than that, or the greatest count. -/
def wanted (limit : Nat) : Nat := min (limit + 1) (UInt64.size - 1)

/-- The end of the window that holds the last of `count` bytes. -/
def windowEnd (count : Nat) : Nat := ((count - 1) / windowSize + 1) * windowSize

theorem le_windowEnd (count : Nat) : count ≤ windowEnd count := by
  unfold windowEnd windowSize
  omega

/-- The pieces in which input is read. -/
def pieces (data : Bytes) : List Bytes :=
  if data = [] then [] else data.take readSize :: pieces (data.drop readSize)
termination_by data.length
decreasing_by
  rename_i h
  have := List.length_pos_iff.mpr h
  simp only [List.length_drop, readSize]
  omega

/-- Goes on restoring compressed data with the pieces that have not been read yet, until `count`
bytes are there or the data ends. -/
def restoreFrom (count : Nat) : InflateState → List Bytes → Except FrameError Bytes
  | _, [] => .error (.compression "incomplete deflate stream")
  | s, piece :: rest =>
    let (s, ending) := (s.feed piece).run (windowEnd count)
    if ending = .failed .corrupt then .error (.compression "corrupt deflate stream")
    else if count ≤ s.out.size ∨ ending = .complete then .ok (s.out.toList.take count)
    else restoreFrom count s rest

/-- The first `count` bytes of what compressed data stands for, or all of them if they are fewer. -/
def restore (data : Bytes) (count : Nat) : Except FrameError Bytes :=
  restoreFrom count {} (pieces data)

/-- Restores compressed data of at most `limit` bytes with a reader, which is asked for the first so
many bytes of what data stands for. -/
def uncompressWith (read : Bytes → Nat → Except FrameError Bytes) (data : Bytes) (limit : Nat) :
    Except FrameError Bytes := do
  let out ← read data (wanted limit)
  if limit < out.length then .error (.frameTooLarge out.length limit) else .ok out

/-- Restores compressed data of at most `limit` bytes. -/
def uncompress (data : Bytes) (limit : Nat) : Except FrameError Bytes :=
  uncompressWith restore data limit

/-- The two bytes in front of a stream: deflate with a window of `2 ^ 15` bytes, a hint at the
level, and check bits that make the pair a multiple of 31. -/
def streamStart (level : Nat) : Bytes :=
  if level ≤ 1 then [0x78, 0x01]
  else if level ≤ 3 then [0x78, 0x5E]
  else if level ≤ 8 then [0x78, 0x9C]
  else [0x78, 0xDA]

/-- Compresses at the given level. -/
def compress (level : Nat) (data : Bytes) : Bytes :=
  streamStart level ++ deflate level data ++ Bytes.bigEndian 4 (checksum data.toArray)

/-- The highest level. -/
def maxLevel : Nat := 9

/-- The level that is used if none is asked for. -/
def defaultLevel : Nat := 6

/-- The plug-in at the given level; levels above the highest count as the highest. -/
def compressor (level : Nat) : Compressor where
  compress data := .ok (compress (min level maxLevel) data)
  uncompress := uncompress

end SessionServer.Zlib
