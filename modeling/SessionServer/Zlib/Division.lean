/-
# Dividing the input into tokens

The input is walked through once.  Each move adds some tokens and goes on to a later place.  There
are two ways to walk: the thorough one looks at each place for the best copy and may hold it back
to see whether the next place has a longer one; the quick one only looks at the latest place with
the same three bytes.
-/
import SessionServer.Zlib.Repetition

namespace SessionServer.Zlib

/-- A move through the input. -/
structure Move where
  /-- The tokens that it adds. -/
  tokens : List Token
  /-- The place that it leads to. -/
  place : Nat
  /-- How many bytes before that place are kept in mind. -/
  window : Nat

namespace Move

/-! ### The thorough way -/

/-- From this length on a copy is made at once. -/
def urgentCopy : Nat := 128

/-- What is done at a place: the tokens that are added, how far to go on, and the copy that is held
back.  `held` is the copy that was held back at the place before, where the byte `before` stands;
a copy that is found is longer than it. -/
def choose (greedy : Bool) (before here : UInt8) :
    (held found : Option Copy) → List Token × Nat × Option Copy
  | none, none => ([.literal here], 1, none)
  | none, some c =>
    if greedy || urgentCopy ≤ c.length then ([.copy c], c.length, none) else ([], 1, some c)
  | some h, none => ([.copy h], h.length - 1, none)
  | some _, some c =>
    if urgentCopy ≤ c.length then ([.literal before, .copy c], c.length, none)
    else ([.literal before], 1, some c)

/-- The moves from a place on. -/
def thoroughFrom (data : Array UInt8) (links : Array Nat) (effort : Effort) :
    (fuel place : Nat) → (held : Option Copy) → Array Move → Array Move
  | 0, _, _, moves => moves
  | fuel + 1, place, held, moves =>
    match data[place]? with
    | none => moves
    | some here =>
      let least := (held.map (·.length)).getD (minCopy - 1)
      let found := bestCopy data links effort place least
      let (tokens, way, held) := choose effort.greedy (data.getD (place - 1) 0) here held found
      let window := min historySize (reach data place + way)
      thoroughFrom data links effort fuel (place + way) held
        (moves.push ⟨tokens, place + way, window⟩)

/-- The moves through the input.  Every move leads on by at least one byte. -/
def thorough (effort : Effort) (data : Array UInt8) : Array Move :=
  thoroughFrom data (links data) effort data.size 0 none #[]

/-! ### The quick way -/

/-- How many bytes the quick way looks at together. -/
def sectionSize : Nat := 4096

/-- The number of slots of the quick way. -/
def quickSlotCount : Nat := 4096

/-- The slot of the three bytes from a place on. -/
def quickSlot (data : Array UInt8) (i : Nat) : Nat :=
  let byteAt := fun k => (data.getD (i + k) 0).toNat
  let three := byteAt 0 + byteAt 1 <<< 8 + byteAt 2 <<< 16
  (three ^^^ three >>> 17) % quickSlotCount

/-- The copy that the place remembered as `mark` offers, if it is worth to be made. -/
def quickCopy (data : Array UInt8) (place mark window limit : Nat) : Option Copy :=
  let distance := distanceTo place mark
  if distance = 0 || window < distance then none
  else
    let length := agreement data place (place - distance) (min maxCopy limit)
    if length < minCopy || (length = minCopy && farDistance ≤ distance) then none
    else some ⟨length, distance⟩

/-- The moves from a place on.  `stop` is where the section ends that is being looked at; the last
bytes of a section are never copied. -/
def quickFrom (data : Array UInt8) :
    (fuel place stop window : Nat) → (latest : Array Nat) → Array Move → Array Move
  | 0, _, _, _, _, moves => moves
  | fuel + 1, place, stop, window, latest, moves =>
    match data[place]? with
    | none => moves
    | some here =>
      let stop := if place < stop then stop else min data.size (place + sectionSize)
      let window := min window (historySize - (stop - place))
      let go := fun (latest : Array Nat) (token : Token) =>
        let window := min historySize (window + token.span)
        quickFrom data fuel (place + token.span) stop window latest
          (moves.push ⟨[token], place + token.span, window⟩)
      if stop - place < 4 then go latest (.literal here)
      else
        let s := quickSlot data place
        let mark := latest.getD s 0
        let latest := latest.setIfInBounds s place
        match quickCopy data place mark window (stop - place) with
        | none => go latest (.literal here)
        | some c => go latest (.copy c)

/-- The moves through the input. -/
def quick (data : Array UInt8) : Array Move :=
  quickFrom data data.size 0 0 0 (Array.replicate quickSlotCount 0) #[]

end Move

end SessionServer.Zlib
