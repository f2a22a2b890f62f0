/-
# Finding repetitions

Places of the input where the same three bytes may stand are linked: from each place there is a
way to the latest one before it.  A search for a copy follows these links from the place where
the copy is to be made, as long as it is allowed to and as long as the places are in reach.
-/
import SessionServer.Zlib.Token

namespace SessionServer.Zlib

/-- The shortest repetition that is worth a copy. -/
def minCopy : Nat := 3

/-- The longest copy. -/
def maxCopy : Nat := 258

/-- The bytes that a reader keeps in mind. -/
def historySize : Nat := 32768

/-- How much work is put into the search for copies. -/
structure Effort where
  /-- How many threes of places are tried. -/
  tries : Nat
  /-- How many of them, if there is a long copy already. -/
  fewTries : Nat
  /-- The first copy is taken, without a look at what could be copied one place later. -/
  greedy : Bool
deriving DecidableEq, Repr

/-- The effort of trying so many places. -/
def Effort.ofPlaces (places : Nat) (greedy : Bool) : Effort :=
  ⟨(places + 2) / 3, (places / 4 + 2) / 3, greedy⟩

/-- The effort of each level above one. -/
def Effort.ofLevel (level : Nat) : Effort :=
  .ofPlaces (#[0, 1, 6, 32, 16, 32, 128, 256, 512, 768].getD level 768) (level ≤ 3)

/-! ### Links -/

/-- How many bytes from `i` and from `j` on agree, up to a limit. -/
def agreement (data : Array UInt8) (i j : Nat) : (limit : Nat) → Nat
  | 0 => 0
  | limit + 1 =>
    match data[i]?, data[j]? with
    | some a, some b => if a = b then agreement data (i + 1) (j + 1) limit + 1 else 0
    | _, _ => 0

/-- Whether two bytes in a row agree. -/
def pairAgrees (data : Array UInt8) (i j : Nat) : Bool := agreement data i j 2 = 2

/-- The number of slots. -/
def slotCount : Nat := 32768

/-- The slot of the three bytes from a place on. -/
def slot (data : Array UInt8) (i : Nat) : Nat :=
  let byteAt := fun k => (data.getD (i + k) 0).toNat
  (byteAt 0 <<< 10 ^^^ byteAt 1 <<< 5 ^^^ byteAt 2) % slotCount

/-- For each place that three bytes start at, the latest one before it in the same slot.  Zero
stands for none, so that nothing is ever linked to the first place. -/
def links (data : Array UInt8) : Array Nat :=
  ((List.range (data.size - 2)).foldl
    (fun (latest, links) i =>
      let s := slot data i
      let before := latest.getD s 0
      (latest.setIfInBounds s i, links.push before))
    (Array.replicate slotCount 0, #[])).2

/-- Places are only known modulo `2 ^ 16`. -/
def markSize : Nat := 65536

/-- How far back a mark is, seen from a place. -/
def distanceTo (place mark : Nat) : Nat := (place + markSize - mark % markSize) % markSize

/-! ### Searching -/

/-- How many bytes may be copied to a place. -/
def room (data : Array UInt8) (place : Nat) : Nat := min maxCopy (data.size - place)

/-- How far back a copy may reach that is made at a place: the bytes that are looked at from there
on take up a part of the history. -/
def reach (data : Array UInt8) (place : Nat) : Nat :=
  min place (historySize - room data place)

/-- Follows the links from the place `probe` on, at most `budget` of them, and returns the best
copy for `place`.  The budget counts in threes, and a place that looks like a better copy from its
end uses up its three. -/
def search (data : Array UInt8) (links : Array Nat) (place : Nat) :
    (budget probe : Nat) → (best : Copy) → Copy
  | 0, _, best => best
  | budget + 1, probe, best =>
    let mark := links.getD probe 0
    let distance := distanceTo place mark
    if mark % markSize = 0 || reach data place < distance then best
    else
      let probe := place - distance
      let last := best.length - 1
      if !pairAgrees data (place + last) (probe + last) then
        search data links place budget probe best
      else if distance = 0 then best
      else
        let budget := budget / 3 * 3
        let length := if pairAgrees data place probe then
            agreement data place probe (room data place) else 0
        if length ≤ best.length then search data links place budget probe best
        else if length = room data place then ⟨length, distance⟩
        else search data links place budget probe ⟨length, distance⟩
termination_by budget => budget
decreasing_by all_goals omega

/-- From this length on a copy counts as long. -/
def longCopy : Nat := 32

/-- A copy of the least length is not worth a distance from here on. -/
def farDistance : Nat := 8192

/-- The best copy for a place that is longer than `least`, if it is worth to be made.  None is made
from a place that starts a new round of the history. -/
def bestCopy (data : Array UInt8) (links : Array Nat) (effort : Effort) (place least : Nat) :
    Option Copy :=
  if room data place ≤ least then none
  else
    let tries := if longCopy ≤ least then effort.fewTries else effort.tries
    let best := search data links place (3 * tries) place ⟨least, 0⟩
    if best.distance = 0 || best.distance = place % historySize
        || (best.length = minCopy && farDistance ≤ best.distance) then none
    else some best

end SessionServer.Zlib
