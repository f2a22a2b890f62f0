/-
# Choosing code lengths

Given how often each symbol occurs, finds the code lengths of a prefix code.  The two lightest
bundles of symbols are joined until there is one left, which adds a bit to the code words of both.
That fixes how many code words of each length there are.  Code words over the limit are cut to
it, and shorter ones are made longer in exchange; the rarest symbols then get the longest ones.

Main result: joining makes two bundles into one (`length_insert`).
-/
namespace SessionServer.Zlib

/-- Some symbols that are treated as one. -/
structure Bundle where
  /-- How often they occur. -/
  weight : Nat
  /-- The lengths that their code words have so far. -/
  lengths : List Nat

namespace Bundle

/-- Two bundles as one. -/
def join (a b : Bundle) : Bundle := ⟨a.weight + b.weight, (a.lengths ++ b.lengths).map (· + 1)⟩

/-- Puts a bundle behind those that are not heavier. -/
def insert (b : Bundle) : List Bundle → List Bundle
  | [] => [b]
  | a :: rest => if a.weight ≤ b.weight then a :: insert b rest else b :: a :: rest

theorem length_insert (b : Bundle) (l : List Bundle) : (insert b l).length = l.length + 1 := by
  induction l with
  | nil => rfl
  | cons a rest ih =>
    unfold insert
    split <;> simp [ih]

/-- The lengths of the code words when all bundles are joined, the two lightest ones first. -/
def joinAll : List Bundle → List Nat
  | [] => []
  | [a] => a.lengths
  | a :: b :: rest => joinAll (insert (a.join b) rest)
termination_by l => l.length
decreasing_by simp [length_insert]

end Bundle

namespace CodeLengths

/-- How many code words there are of each length, longest first.  Those that are longer than the
limit are counted as being as long as it. -/
def counts (limit : Nat) (lengths : List Nat) : List Nat :=
  (List.range limit).map fun i => (lengths.map (min limit)).count (limit - i)

/-- Gives up one code word of the greatest length that has any, and gets two that are one bit
longer.  `longer` is how many of those there are already. -/
def split (longer : Nat) : List Nat → List Nat
  | [] => [longer]
  | n :: rest => if n = 0 then longer :: split 0 rest else (longer + 2) :: (n - 1) :: rest

/-- Takes one code word of the greatest length away.  Its place is made by splitting a shorter
code word, which leaves as many code words as before. -/
def relieve : List Nat → List Nat
  | [] => []
  | longest :: rest => split (longest - 1) rest

/-- How many code words of the greatest length start with one of the code words. -/
def weight (counts : List Nat) : Nat := counts.reverse.foldl (fun taken n => 2 * taken + n) 0

/-- The counts, changed until there is room for all code words. -/
def fitted (limit : Nat) (counts : List Nat) : List Nat :=
  (List.range (weight counts - 1 <<< limit)).foldl (fun counts _ => relieve counts) counts

/-- The lengths that counts of them stand for, longest first. -/
def descending (limit : Nat) (counts : List Nat) : List Nat :=
  (counts.zipIdx.map fun (n, i) => List.replicate n (limit - i)).flatten

end CodeLengths

/-- Code lengths of at most `limit` bits for symbols with the given frequencies.  A symbol that
never occurs gets length zero, and one that is alone gets length one. -/
def codeLengths (limit : Nat) (frequencies : List Nat) : List Nat :=
  let used := (frequencies.zipIdx.filter (0 < ·.1)).mergeSort fun a b => a.1 ≤ b.1
  let lengths :=
    match used with
    | [_] => [1]
    | _ =>
      let joined := Bundle.joinAll (used.map fun (f, _) => ⟨f, [0]⟩)
      CodeLengths.descending limit (CodeLengths.fitted limit (CodeLengths.counts limit joined))
  ((used.zip lengths).foldl (fun all ((_, i), n) => all.setIfInBounds i n)
    (Array.replicate frequencies.length 0)).toList

end SessionServer.Zlib
