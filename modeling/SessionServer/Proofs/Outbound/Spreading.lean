/-
# How sessions spread over the shards

The number of a session is multiplied by an odd number, in 64 bits, and the product is scaled down
to the number of shards.  Multiplying by an odd number can be undone, so that the products of all
the session numbers there can be are all the numbers of 64 bits, each of them once.  Those that are
scaled down to one shard lie between two *borders*, the least numbers for this shard and for the
next one, and as many sessions belong to the shard as there are numbers between its borders.

Main results: how many sessions belong to a shard (`card_shardAmong`), and that all shards have
equally many of them, give or take one (`shards_balanced`).
-/
import Mathlib.Algebra.Order.Floor.Div
import Mathlib.Data.Set.Card
import Mathlib.Order.Interval.Finset.Nat
import SessionServer.Proofs.Outbound.Scheduling

namespace SessionServer

namespace Tickets

variable {n k x y : ℕ} {t : Tickets} {id : SessionId}

/-! ## Spreading numbers out -/

/-- The number of a session, spread out over all numbers of 64 bits. -/
def spread (id : SessionId) : ℕ := (id.val * multiplier).toNat

/-- What undoes the multiplication: the inverse of the multiplier in 64 bits. -/
def unmultiplier : UInt64 := 0xF1DE83E19937733D

lemma multiplier_mul_unmultiplier : multiplier * unmultiplier = 1 := by decide

lemma mul_multiplier_mul_unmultiplier (a : UInt64) : a * multiplier * unmultiplier = a := by
  rw [UInt64.mul_assoc, multiplier_mul_unmultiplier, UInt64.mul_one]

lemma mul_unmultiplier_mul_multiplier (a : UInt64) : a * unmultiplier * multiplier = a := by
  rw [UInt64.mul_assoc, UInt64.mul_comm unmultiplier, multiplier_mul_unmultiplier, UInt64.mul_one]

lemma spread_lt (id : SessionId) : spread id < UInt64.size := UInt64.toNat_lt _

/-- No two sessions are spread out to the same number. -/
lemma spread_injective : Function.Injective spread := by
  intro id id' h
  have hproduct : id.val * multiplier = id'.val * multiplier := UInt64.toNat_inj.1 h
  have hval := congrArg (· * unmultiplier) hproduct
  simp only [mul_multiplier_mul_unmultiplier] at hval
  cases id
  cases id'
  exact congrArg SessionId.mk hval

/-- Every number of 64 bits belongs to a session. -/
lemma exists_spread_eq (hx : x < UInt64.size) : ∃ id, spread id = x := by
  refine ⟨⟨UInt64.ofNat x * unmultiplier⟩, ?_⟩
  rw [spread, mul_unmultiplier_mul_multiplier]
  exact UInt64.toNat_ofNat_of_lt' hx

/-! ## Scaling numbers down -/

/-- The least number that is scaled down to shard `k` of `n`, or to a later one. -/
def border (n k : ℕ) : ℕ := k * UInt64.size ⌈/⌉ n

lemma border_le_iff (hn : 0 < n) : border n k ≤ x ↔ k * UInt64.size ≤ x * n := by
  rw [border, ceilDiv_le_iff_le_mul hn, Nat.mul_comm n]

/-- A shard is given to the sessions that are spread out between its borders. -/
lemma shardAmong_eq_iff (hn : 0 < n) :
    shardAmong n id = k ↔ spread id ∈ Set.Ico (border n k) (border n (k + 1)) := by
  have hsize : 0 < UInt64.size := by decide
  have hscaled : shardAmong n id = spread id * n / UInt64.size := rfl
  rw [hscaled, Nat.div_eq_iff hsize, Set.mem_Ico, ← not_le (a := border n (k + 1)),
    border_le_iff hn, border_le_iff hn, Nat.succ_mul]
  omega

/-- The last border of all is the end of the numbers. -/
lemma border_succ_le (hn : 0 < n) (hk : k < n) : border n (k + 1) ≤ UInt64.size := by
  rw [border_le_iff hn, Nat.mul_comm UInt64.size]
  exact Nat.mul_le_mul_right UInt64.size hk

/-- As many sessions belong to a shard as there are numbers between its borders. -/
lemma card_shardAmong (hn : 0 < n) (hk : k < n) :
    Nat.card {id // shardAmong n id = k} = border n (k + 1) - border n k := by
  have himage : spread '' {id | shardAmong n id = k}
      = Finset.Ico (border n k) (border n (k + 1)) := by
    rw [Finset.coe_Ico]
    ext x
    constructor
    · rintro ⟨id, hid, rfl⟩
      exact (shardAmong_eq_iff hn).1 hid
    · intro hx
      obtain ⟨id, rfl⟩ := exists_spread_eq (hx.2.trans_le (border_succ_le hn hk))
      exact ⟨id, (shardAmong_eq_iff hn).2 hx, rfl⟩
  calc Nat.card {id // shardAmong n id = k}
      = (spread '' {id | shardAmong n id = k}).ncard :=
        (Set.ncard_image_of_injective _ spread_injective).symm
    _ = border n (k + 1) - border n k := by
        rw [himage, Set.ncard_coe_finset, Nat.card_Ico]

/-! ## Equal shares -/

/-- If two numbers that are `y` apart are divided and rounded up, the results are as far apart as
`y` divided and rounded down or up. -/
lemma add_ceilDiv_sub_ceilDiv (hn : 0 < n) :
    (x + y) ⌈/⌉ n - x ⌈/⌉ n = y / n ∨ (x + y) ⌈/⌉ n - x ⌈/⌉ n = y ⌈/⌉ n := by
  have hupper : (x + y) ⌈/⌉ n ≤ x ⌈/⌉ n + y ⌈/⌉ n := by
    rw [ceilDiv_le_iff_le_mul hn, Nat.mul_add]
    exact Nat.add_le_add (le_smul_ceilDiv hn) (le_smul_ceilDiv hn)
  have hlower : x ⌈/⌉ n + y / n ≤ (x + y) ⌈/⌉ n := by
    -- taking `y / n` steps of `n` back from `x + y` does not lead below `x`
    have hreach : x + y ≤ n * ((x + y) ⌈/⌉ n) := le_smul_ceilDiv hn
    have hy : n * (y / n) ≤ y := Nat.mul_div_le y n
    have hle : y / n ≤ (x + y) ⌈/⌉ n := Nat.div_le_of_le_mul (by omega)
    have hx : x ⌈/⌉ n ≤ (x + y) ⌈/⌉ n - y / n := by
      rw [ceilDiv_le_iff_le_mul hn, Nat.mul_sub]
      omega
    omega
  have hround : y ⌈/⌉ n ≤ y / n + 1 := by
    rw [ceilDiv_le_iff_le_mul hn]
    exact (Nat.lt_mul_div_succ y hn).le
  omega

/-- A shard has its share of the session numbers, rounded down or up. -/
lemma card_shardAmong_eq (hn : 0 < n) (hk : k < n) :
    Nat.card {id // shardAmong n id = k} = UInt64.size / n ∨
      Nat.card {id // shardAmong n id = k} = UInt64.size ⌈/⌉ n := by
  rw [card_shardAmong hn hk, border, border, Nat.succ_mul]
  exact add_ceilDiv_sub_ceilDiv hn

/-- If there are no more shards than session numbers, none is left out. -/
lemma exists_shardAmong_eq (hk : k < n) (hle : n ≤ UInt64.size) : ∃ id, shardAmong n id = k := by
  have hn : 0 < n := Nat.zero_lt_of_lt hk
  have hshare : 0 < UInt64.size / n := Nat.div_pos hle hn
  have hround : UInt64.size / n ≤ UInt64.size ⌈/⌉ n := by
    rw [← Nat.floorDiv_eq_div]
    exact floorDiv_le_ceilDiv
  have hcard : Nat.card {id // shardAmong n id = k} ≠ 0 := by
    rcases card_shardAmong_eq hn hk with h | h <;> omega
  obtain ⟨⟨id, hid⟩⟩ := (Nat.card_ne_zero.1 hcard).1
  exact ⟨id, hid⟩

/-! ## In words of 128 bits -/

/-- The shard of a session, computed in words of 128 bits. -/
def wideShard (count : ℕ) (id : SessionId) : BitVec 128 :=
  (BitVec.ofNat 128 (spread id) * BitVec.ofNat 128 count) >>> 64

lemma spread_mul_lt (hn : n < UInt64.size) (id : SessionId) : spread id * n < 2 ^ 128 :=
  calc spread id * n < UInt64.size * UInt64.size := Nat.mul_lt_mul'' (spread_lt id) hn
    _ = 2 ^ 128 := rfl

/-- Nothing is lost in words of 128 bits. -/
lemma toNat_wideShard (hn : n < UInt64.size) (id : SessionId) :
    (wideShard n id).toNat = shardAmong n id := by
  have hproduct := spread_mul_lt hn id
  have hspread := spread_lt id
  rw [wideShard, BitVec.toNat_ushiftRight, BitVec.toNat_mul, BitVec.toNat_ofNat,
    BitVec.toNat_ofNat, ← Nat.mul_mod, Nat.mod_eq_of_lt hproduct, Nat.shiftRight_eq_div_pow]
  rfl

/-- **Sessions spread evenly.**  If there are shards, and fewer than session numbers:

* the product that is computed for a session has no more than 128 bits, so that what is computed in
  words of that width is a shard that there is, and a session that is put into it waits there;
* all shards have the same share of the session numbers, rounded down or up, and none has none. -/
theorem shards_balanced (hpos : 0 < t.count) (hlt : t.count < 2 ^ 64) :
    (∀ id, spread id * t.count < 2 ^ 128 ∧ (wideShard t.count id).toNat = t.shardOf id ∧
      t.shardOf id < t.shards.size ∧
      (t.put id).shard (t.shardOf id) = t.shard (t.shardOf id) ++ [id]) ∧
    ∀ k < t.count,
      (Nat.card {id // t.shardOf id = k} = 2 ^ 64 / t.count ∨
        Nat.card {id // t.shardOf id = k} = 2 ^ 64 ⌈/⌉ t.count) ∧
      ∃ id, t.shardOf id = k := by
  refine ⟨fun id => ⟨spread_mul_lt hlt id, toNat_wideShard hlt id, shardOf_lt hpos id, ?_⟩,
    fun k hk => ⟨card_shardAmong_eq hpos hk, exists_shardAmong_eq hk hlt.le⟩⟩
  rw [shard_put hpos, if_pos rfl]

/-- As many shards as can be counted in 64 bits.  The last one has one session or two. -/
theorem shards_balanced_for_most_shards :
    let n := 2 ^ 64 - 1
    let t := ofCount n
    t.count = n ∧ spread ⟨UInt64.ofNat n⟩ * n < 2 ^ 128 ∧
      (Nat.card {id // t.shardOf id = n - 1} = 1 ∨ Nat.card {id // t.shardOf id = n - 1} = 2) ∧
      ∃ id, t.shardOf id = n - 1 := by
  intro n t
  have hcount : t.count = n := count_ofCount n
  have hpos : 0 < t.count := by rw [hcount]; decide
  have hlt : t.count < 2 ^ 64 := by rw [hcount]; decide
  have hlast : n - 1 < t.count := by rw [hcount]; decide
  have hdown : 2 ^ 64 / n = 1 := by decide
  have hup : 2 ^ 64 ⌈/⌉ n = 2 := by decide
  obtain ⟨hall, hshares⟩ := shards_balanced hpos hlt
  obtain ⟨hproduct, -⟩ := hall ⟨UInt64.ofNat n⟩
  obtain ⟨hcard, hused⟩ := hshares (n - 1) hlast
  rw [hcount] at hproduct
  rw [hcount, hdown, hup] at hcard
  exact ⟨hcount, hproduct, hcard, hused⟩

end Tickets

end SessionServer
