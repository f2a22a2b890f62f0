/-
# Identifiers

Players, sessions and channels are named by 64-bit numbers.  Each kind has a type of its own, so
that one cannot be taken for another, and a printed form that shows the kind.
-/
namespace SessionServer

/-- Names a player of the application. -/
structure PlayerId where
  /-- The number the application knows the player by. -/
  val : UInt64
deriving DecidableEq, Repr

/-- Names a session; numbers are given out in order of creation and never reused. -/
structure SessionId where
  /-- The position of the session in the order of creation, counted from one. -/
  val : UInt64
deriving DecidableEq, Repr

/-- Names a channel. -/
structure ChannelId where
  /-- The number the channel was given when it was opened. -/
  val : UInt64
deriving DecidableEq, Repr

/-- The printed form of a player, such as `P-7`. -/
def PlayerId.text (p : PlayerId) : String := s!"P-{p.val.toNat}"

/-- The printed form of a session, such as `S-7`. -/
def SessionId.text (s : SessionId) : String := s!"S-{s.val.toNat}"

/-- The printed form of a channel, such as `chan-7`. -/
def ChannelId.text (c : ChannelId) : String := s!"chan-{c.val.toNat}"

/-- The source of fresh channel names: the number the next one gets. -/
structure ChannelIds where
  /-- The next number to give out. -/
  next : UInt64 := 1
deriving DecidableEq, Repr

/-- Takes a fresh channel name. -/
def ChannelIds.take (ids : ChannelIds) : ChannelId × ChannelIds :=
  (⟨ids.next⟩, ⟨ids.next + 1⟩)

end SessionServer
