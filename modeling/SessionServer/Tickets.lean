/-
# Tickets

A ticket says that a session has something to write.  Tickets wait in *shards*, one for each
worker that writes, and a session always belongs to the same shard, so that no two workers ever
write to one session at once.

Main results: the shard of a session is one of the shards there are (`shardOf_lt`).
-/
import SessionServer.Ids

namespace SessionServer

/-- The tickets that wait, shard by shard, each shard first one first. -/
structure Tickets where
  shards : Array (List SessionId)
deriving DecidableEq, Repr

namespace Tickets

/-- No tickets, in `n` shards.  There is always one shard. -/
def ofCount (n : Nat) : Tickets := ⟨Array.replicate (max n 1) []⟩

/-- The number of shards. -/
def count (t : Tickets) : Nat := t.shards.size

/-- `2 ^ 64` divided by the golden ratio.  Multiplying by it spreads numbers that follow each
other over all 64-bit numbers. -/
def multiplier : UInt64 := 0x9E3779B97F4A7C15

/-- Which of `count` shards a session belongs to: its number is spread out, and the result is
scaled down from 64-bit numbers to the number of shards. -/
def shardAmong (count : Nat) (id : SessionId) : Nat :=
  (id.val * multiplier).toNat * count / UInt64.size

/-- The shard that a session belongs to. -/
def shardOf (t : Tickets) (id : SessionId) : Nat := shardAmong t.count id

/-- Puts a session at the end of its shard. -/
def put (t : Tickets) (id : SessionId) : Tickets :=
  ⟨t.shards.modify (t.shardOf id) (· ++ [id])⟩

/-- Takes the first session of a shard, if the shard exists and is not empty. -/
def take? (t : Tickets) (shard : Nat) : Option (SessionId × Tickets) :=
  match t.shards[shard]? with
  | some (id :: rest) => some (id, ⟨t.shards.setIfInBounds shard rest⟩)
  | _ => none

/-- The number of tickets in a shard. -/
def length (t : Tickets) (shard : Nat) : Nat := (t.shards.getD shard []).length

/-- The sessions that have a ticket. -/
def sessions (t : Tickets) : List SessionId := t.shards.toList.flatten

/-- The number of tickets. -/
def total (t : Tickets) : Nat := t.sessions.length

/-- The same shards without tickets. -/
def cleared (t : Tickets) : Tickets := ⟨t.shards.map fun _ => []⟩

theorem shardAmong_lt {count : Nat} (h : 0 < count) (id : SessionId) :
    shardAmong count id < count := by
  unfold shardAmong
  have hlt := (id.val * multiplier).toNat_lt
  exact Nat.div_lt_of_lt_mul (Nat.mul_lt_mul_of_pos_right hlt h)

theorem shardOf_lt {t : Tickets} (h : 0 < t.count) (id : SessionId) : t.shardOf id < t.count :=
  shardAmong_lt h id

@[simp] theorem count_ofCount (n : Nat) : (ofCount n).count = max n 1 := by
  simp [ofCount, count]

end Tickets

end SessionServer
