import Mathlib.Data.List.AList

/-!
# Finite Maps

Go maps are modelled by Mathlib's association lists with unique keys (`AList`).
This module adds what the development needs on top of Mathlib's API:

- `filter`: the `for k, v := range m { if … { delete(m, k) } }` idiom
- `insertAll`: storing one value under every key of a list
- `loadOrStore`: storing a value unless the key has one
- size lemmas for the "did anything change" tests of copy-on-write code

Iteration order is the order of the entry list; no lookup result depends on it.
-/

namespace PilotBeacon.Lib

/-- A finite map from `K` to `V`. -/
abbrev FiniteMap (K V : Type) := AList (fun _ : K => V)

namespace FiniteMap

variable {K V : Type}

/-! ## Filtering -/

/-- Keep the entries whose key and value satisfy `p`. -/
def filter (p : K → V → Bool) (m : FiniteMap K V) : FiniteMap K V where
  entries := m.entries.filter (fun e => p e.1 e.2)
  nodupKeys := m.nodupKeys.sublist List.filter_sublist

/-- The number of entries, `len(m)` in Go. -/
def size (m : FiniteMap K V) : Nat := m.entries.length

theorem size_eq_length_keys (m : FiniteMap K V) : m.size = m.keys.length := by
  simp [size, AList.keys, List.keys]

/-- A filter that drops nothing in number drops nothing at all. -/
theorem filter_eq_self_of_size (p : K → V → Bool) (m : FiniteMap K V)
    (h : (m.filter p).size = m.size) : m.filter p = m := by
  apply AList.ext
  exact List.filter_sublist.eq_of_length h

/-- Filtering again drops nothing more. -/
theorem filter_filter_self (p : K → V → Bool) (m : FiniteMap K V) :
    (m.filter p).filter p = m.filter p := by
  apply AList.ext
  simp [filter, List.filter_filter]

/-- Every entry is kept by a filter or by its opposite. -/
theorem size_filter_add_size_filter_not (p : K → V → Bool) (m : FiniteMap K V) :
    (m.filter p).size + (m.filter fun k v => !p k v).size = m.size :=
  (List.length_eq_length_filter_add _).symm

variable [DecidableEq K]

/-- Looking up in a filtered map filters the lookup. -/
@[simp] theorem lookup_filter (p : K → V → Bool) (m : FiniteMap K V) (k : K) :
    (m.filter p).lookup k = (m.lookup k).filter (p k) := by
  apply Option.ext
  intro v
  -- both sides say which values are bound to `k`, which is a matter of entries
  rw [← Option.mem_def, ← Option.mem_def, AList.mem_lookup_iff, Option.mem_def,
    Option.filter_eq_some_iff, ← Option.mem_def, AList.mem_lookup_iff]
  simp [filter, List.mem_filter]

/-- A filter that looks at keys only. -/
theorem lookup_filter_key (p : K → Bool) (m : FiniteMap K V) (k : K) :
    (filter (fun k _ => p k) m).lookup k = if p k then m.lookup k else none := by
  rw [lookup_filter]
  cases m.lookup k with
  | none => simp
  | some v => by_cases hp : p k = true <;> simp [Option.filter, hp]

theorem mem_filter (p : K → V → Bool) (m : FiniteMap K V) (k : K) :
    k ∈ m.filter p ↔ ∃ v, m.lookup k = some v ∧ p k v = true := by
  rw [← AList.lookup_isSome, lookup_filter, Option.isSome_iff_exists]
  simp [Option.filter_eq_some_iff]

theorem lookup_insert_eq (m : FiniteMap K V) (k k' : K) (v : V) :
    (AList.insert k' v m).lookup k = if k = k' then some v else m.lookup k := by
  split_ifs with h
  · subst h
    exact AList.lookup_insert m
  · exact AList.lookup_insert_ne h

/-- A new key adds an entry, a known one does not. -/
theorem size_insert (m : FiniteMap K V) (k : K) (v : V) :
    size (AList.insert k v m) = if (m.lookup k).isSome then m.size else m.size + 1 := by
  rw [size_eq_length_keys, size_eq_length_keys, AList.keys_insert, List.length_cons]
  by_cases hk : k ∈ m.keys
  · rw [if_pos (AList.lookup_isSome.mpr hk), List.length_erase_of_mem hk]
    exact Nat.sub_add_cancel (List.length_pos_of_mem hk)
  · rw [if_neg (fun h => hk (AList.lookup_isSome.mp h)), List.erase_of_not_mem hk]

theorem size_erase_le (m : FiniteMap K V) (k : K) : size (AList.erase k m) ≤ m.size := by
  rw [size_eq_length_keys, size_eq_length_keys, AList.keys_erase]
  exact List.length_erase_le

/-! ## Bulk insertion -/

/-- Store `v` under every key of `ks`, left to right. -/
def insertAll (m : FiniteMap K V) (ks : List K) (v : V) : FiniteMap K V :=
  ks.foldl (fun m k => AList.insert k v m) m

theorem lookup_insertAll (m : FiniteMap K V) (ks : List K) (v : V) (k : K) :
    (m.insertAll ks v).lookup k = if k ∈ ks then some v else m.lookup k := by
  induction ks generalizing m with
  | nil => simp [insertAll]
  | cons k' ks ih =>
    have hfold : m.insertAll (k' :: ks) v = FiniteMap.insertAll (AList.insert k' v m) ks v := rfl
    rw [hfold, ih, lookup_insert_eq]
    -- later keys overwrite, but all with one value
    by_cases hk : k ∈ ks
    · simp [hk]
    · by_cases he : k = k' <;> simp [hk, he]

/-! ## First write wins -/

/-- Store `v` under `k` unless something is stored there. -/
def loadOrStore (m : FiniteMap K V) (k : K) (v : V) : FiniteMap K V :=
  if (m.lookup k).isSome then m else AList.insert k v m

theorem lookup_loadOrStore (m : FiniteMap K V) (k k' : K) (v : V) :
    (m.loadOrStore k' v).lookup k =
      if k = k' then some ((m.lookup k).getD v) else m.lookup k := by
  unfold loadOrStore
  -- four cases: a value is there or not, and this is its key or not
  split_ifs with hstored hk hk
  · subst hk
    obtain ⟨w, hw⟩ := Option.isSome_iff_exists.mp hstored
    rw [hw]; rfl
  · rfl
  · subst hk
    rw [Option.not_isSome_iff_eq_none] at hstored
    simp only [lookup_insert_eq, if_pos, hstored, Option.getD_none]
  · simp only [lookup_insert_eq, if_neg hk]

end FiniteMap

end PilotBeacon.Lib
