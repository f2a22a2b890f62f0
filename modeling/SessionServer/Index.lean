/-
# Finite indexes

An index maps some keys to values.  Entries are kept in the order in which their keys were last
put in, so that listing an index is deterministic.

Main results: what is found after a change, for every change (`find?_insert`, `find?_erase`,
`find?_modify`).
-/
namespace SessionServer

/-- A finite map from keys to values. -/
structure Index (κ α : Type) where
  /-- The keys with their values, the latest one last. -/
  entries : List (κ × α) := []
deriving DecidableEq, Repr

namespace Index

variable {κ α : Type} [DecidableEq κ]

/-- The value of a key. -/
def find? (m : Index κ α) (k : κ) : Option α := m.entries.lookup k

/-- The index without a key. -/
def erase (m : Index κ α) (k : κ) : Index κ α := ⟨m.entries.filter fun e => e.1 ≠ k⟩

/-- The index with a value for a key, in place of the one it had. -/
def insert (m : Index κ α) (k : κ) (v : α) : Index κ α := ⟨(m.erase k).entries ++ [(k, v)]⟩

/-- The index with the value of a key changed. -/
def modify (m : Index κ α) (k : κ) (f : α → α) : Index κ α :=
  ⟨m.entries.map fun e => if e.1 = k then (e.1, f e.2) else e⟩

/-- The index without the keys whose values fail a test. -/
def keep (m : Index κ α) (test : α → Bool) : Index κ α := ⟨m.entries.filter fun e => test e.2⟩

/-- The keys. -/
def keys (m : Index κ α) : List κ := m.entries.map (·.1)

/-- The values. -/
def values (m : Index κ α) : List α := m.entries.map (·.2)

/-- The number of entries. -/
def size (m : Index κ α) : Nat := m.entries.length

private theorem lookup_filter (l : List (κ × α)) (k k' : κ) :
    (l.filter fun e => e.1 ≠ k).lookup k' = if k' = k then none else l.lookup k' := by
  induction l with
  | nil => simp
  | cons e l ih =>
    obtain ⟨a, v⟩ := e
    by_cases hk : a = k
    · subst hk
      by_cases hk' : k' = a
      · simpa [hk'] using ih
      · have hb : (k' == a) = false := by simpa using hk'
        simpa [List.lookup_cons, hb, hk'] using ih
    · by_cases hk' : k' = a
      · subst hk'
        simp [hk]
      · have hb : (k' == a) = false := by simpa using hk'
        simpa [List.filter_cons, hk, List.lookup_cons, hb] using ih

@[simp] theorem find?_erase (m : Index κ α) (k k' : κ) :
    (m.erase k).find? k' = if k' = k then none else m.find? k' :=
  lookup_filter m.entries k k'

@[simp] theorem find?_insert (m : Index κ α) (k k' : κ) (v : α) :
    (m.insert k v).find? k' = if k' = k then some v else m.find? k' := by
  have happ : ((m.erase k).entries ++ [(k, v)]).lookup k'
      = ((m.erase k).find? k').or ([(k, v)].lookup k') := by
    rw [List.lookup_append]
    rfl
  change ((m.erase k).entries ++ [(k, v)]).lookup k' = _
  rw [happ, find?_erase]
  by_cases hk : k' = k
  · simp [hk]
  · have hb : (k' == k) = false := by simpa using hk
    simp [hk, List.lookup_cons, hb]

@[simp] theorem find?_modify (m : Index κ α) (k k' : κ) (f : α → α) :
    (m.modify k f).find? k' = if k' = k then (m.find? k').map f else m.find? k' := by
  obtain ⟨l⟩ := m
  simp only [modify, find?]
  induction l with
  | nil => simp
  | cons e l ih =>
    obtain ⟨a, v⟩ := e
    by_cases ha : a = k
    · subst ha
      by_cases hk' : k' = a
      · simp [hk']
      · have hb : (k' == a) = false := by simpa using hk'
        simpa [hk', List.lookup_cons, hb] using ih
    · by_cases hk' : k' = a
      · subst hk'
        simp [ha]
      · have hb : (k' == a) = false := by simpa using hk'
        simpa [ha, List.lookup_cons, hb] using ih

end Index

end SessionServer
