import PilotBeacon.Lib.FiniteMap
import Mathlib.Algebra.GroupWithZero.Nat
import Mathlib.Algebra.Order.BigOperators.Group.List
import Mathlib.Algebra.Order.Group.Nat
import Mathlib.Data.List.FinRange

/-!
# Sharded Maps

A fixed array of finite maps, each key living in the shard a hash picks for it.
The `home` field says so, so a key can be present in one shard only, and every
operation below agrees with the flat map `lookup` describes.

- `lookup`, `insert`, `filter`: one shard (or every shard) at a time
- `keys`, `size`: the concatenation over the shards, in shard order
- `Agrees`: the flat map with the same entries, and what follows for keys and sizes
-/

namespace PilotBeacon.Lib

/-- `n` finite maps; key `k` is stored in shard `shardOf k` and nowhere else. -/
structure ShardedMap (K V : Type) [DecidableEq K] (n : Nat) (shardOf : K → Fin n) where
  shards : Fin n → FiniteMap K V
  home : ∀ i k, k ∈ shards i → shardOf k = i

namespace ShardedMap

variable {K V : Type} [DecidableEq K] {n : Nat} {shardOf : K → Fin n}

/-! ## Operations -/

/-- Every shard empty. -/
def empty : ShardedMap K V n shardOf where
  shards := fun _ => ∅
  home := fun _ k h => absurd h (AList.notMem_empty k)

/-- Read the key's own shard. -/
def lookup (m : ShardedMap K V n shardOf) (k : K) : Option V :=
  (m.shards (shardOf k)).lookup k

/-- Write the key's own shard. -/
def insert (m : ShardedMap K V n shardOf) (k : K) (v : V) : ShardedMap K V n shardOf where
  shards := Function.update m.shards (shardOf k) (AList.insert k v (m.shards (shardOf k)))
  home := by
    intro i k' hk'
    by_cases hi : i = shardOf k
    · subst hi
      rw [Function.update_self, AList.mem_insert] at hk'
      rcases hk' with rfl | hk'
      · rfl
      · exact m.home _ _ hk'
    · rw [Function.update_of_ne hi] at hk'
      exact m.home _ _ hk'

/-- Sweep every shard, keeping the entries that satisfy `p`. -/
def filter (p : K → V → Bool) (m : ShardedMap K V n shardOf) : ShardedMap K V n shardOf where
  shards := fun i => (m.shards i).filter p
  home := by
    intro i k hk
    obtain ⟨v, hv, _⟩ := (FiniteMap.mem_filter p _ k).mp hk
    exact m.home i k (AList.lookup_isSome.mp (by rw [hv]; rfl))

/-- The keys of all shards, in shard order. -/
def keys (m : ShardedMap K V n shardOf) : List K :=
  (List.finRange n).flatMap (fun i => (m.shards i).keys)

/-- The number of entries over all shards. -/
def size (m : ShardedMap K V n shardOf) : Nat :=
  ((List.finRange n).map (fun i => (m.shards i).size)).sum

/-! ## The flat view -/

@[simp] theorem lookup_empty (k : K) : (empty : ShardedMap K V n shardOf).lookup k = none := by
  simp [empty, lookup]

theorem lookup_insert (m : ShardedMap K V n shardOf) (k k' : K) (v : V) :
    (m.insert k' v).lookup k = if k = k' then some v else m.lookup k := by
  unfold lookup insert
  -- two keys of one shard share its map; others do not meet
  by_cases hs : shardOf k = shardOf k'
  · rw [hs]
    simp only [Function.update_self]
    exact FiniteMap.lookup_insert_eq _ k k' v
  · have hne : k ≠ k' := fun h => hs (by rw [h])
    simp only [Function.update_of_ne hs, if_neg hne]

@[simp] theorem lookup_insert_self (m : ShardedMap K V n shardOf) (k : K) (v : V) :
    (m.insert k v).lookup k = some v := by
  rw [lookup_insert, if_pos rfl]

theorem lookup_insert_of_ne (m : ShardedMap K V n shardOf) {k k' : K} (v : V) (h : k ≠ k') :
    (m.insert k' v).lookup k = m.lookup k := by
  rw [lookup_insert, if_neg h]

@[simp] theorem lookup_filter (p : K → V → Bool) (m : ShardedMap K V n shardOf) (k : K) :
    (m.filter p).lookup k = (m.lookup k).filter (p k) :=
  FiniteMap.lookup_filter p _ k

theorem filter_filter_self (p : K → V → Bool) (m : ShardedMap K V n shardOf) :
    (m.filter p).filter p = m.filter p := by
  simp only [filter, FiniteMap.filter_filter_self]

/-! ## Keys and size -/

theorem mem_shard_iff (m : ShardedMap K V n shardOf) (k : K) (i : Fin n) :
    k ∈ (m.shards i).keys ↔ shardOf k = i ∧ (m.lookup k).isSome := by
  constructor
  · intro hk
    have hi := m.home i k hk
    subst hi
    exact ⟨rfl, AList.lookup_isSome.mpr hk⟩
  · rintro ⟨rfl, hk⟩
    exact AList.lookup_isSome.mp hk

theorem mem_keys (m : ShardedMap K V n shardOf) (k : K) :
    k ∈ m.keys ↔ (m.lookup k).isSome := by
  simp only [keys, List.mem_flatMap, List.mem_finRange, true_and, mem_shard_iff]
  exact ⟨fun ⟨_, _, h⟩ => h, fun h => ⟨_, rfl, h⟩⟩

theorem size_eq_length_keys (m : ShardedMap K V n shardOf) : m.size = m.keys.length := by
  simp only [size, keys, List.length_flatMap, FiniteMap.size_eq_length_keys]

theorem nodup_keys (m : ShardedMap K V n shardOf) : m.keys.Nodup := by
  rw [keys, List.nodup_flatMap]
  refine ⟨fun i _ => AList.keys_nodup _, (List.nodup_finRange n).imp ?_⟩
  -- a key of two shards would have two homes
  intro i j hij k hi hj
  exact hij ((m.home i k hi).symm.trans (m.home j k hj))

/-- Shards of at most `b` entries hold at most `n * b` together. -/
theorem size_le (m : ShardedMap K V n shardOf) {b : Nat} (h : ∀ i, (m.shards i).size ≤ b) :
    m.size ≤ n * b := by
  have hsum := List.sum_le_card_nsmul ((List.finRange n).map fun i => (m.shards i).size) b (by
    intro x hx
    obtain ⟨i, -, rfl⟩ := List.mem_map.mp hx
    exact h i)
  simpa [size] using hsum

/-- Only a new key makes a shard larger, and only its own. -/
theorem size_shards_insert (m : ShardedMap K V n shardOf) (k : K) (v : V) (i : Fin n) :
    ((m.insert k v).shards i).size =
      if i = shardOf k ∧ (m.lookup k).isNone then (m.shards i).size + 1
      else (m.shards i).size := by
  unfold insert lookup
  by_cases hi : i = shardOf k
  · subst hi
    simp only [Function.update_self, FiniteMap.size_insert]
    cases AList.lookup k (m.shards (shardOf k)) <;> simp
  · simp only [Function.update_of_ne hi, hi, false_and, if_false]

theorem size_shards_filter_le (p : K → V → Bool) (m : ShardedMap K V n shardOf) (i : Fin n) :
    ((m.filter p).shards i).size ≤ (m.shards i).size :=
  List.length_filter_le _ _

/-! ## Agreement with a flat map -/

/-- The flat map has the same entries. -/
def Agrees (m : ShardedMap K V n shardOf) (f : FiniteMap K V) : Prop :=
  ∀ k, m.lookup k = f.lookup k

namespace Agrees

variable {m : ShardedMap K V n shardOf} {f : FiniteMap K V}

theorem empty : Agrees (ShardedMap.empty : ShardedMap K V n shardOf) ∅ := fun k => by simp

theorem insert (h : Agrees m f) (k : K) (v : V) : Agrees (m.insert k v) (AList.insert k v f) := by
  intro k'
  rw [lookup_insert, FiniteMap.lookup_insert_eq, h k']

theorem filter (h : Agrees m f) (p : K → V → Bool) : Agrees (m.filter p) (f.filter p) := by
  intro k
  rw [lookup_filter, FiniteMap.lookup_filter, h k]

/-- A shard holds as many entries as the flat map holds keys that belong there. -/
theorem size_shard (h : Agrees m f) (i : Fin n) :
    (m.shards i).size = (f.keys.filter fun k => shardOf k = i).length := by
  rw [FiniteMap.size_eq_length_keys]
  apply List.Perm.length_eq
  rw [List.perm_ext_iff_of_nodup (AList.keys_nodup _) ((AList.keys_nodup f).filter _)]
  intro k
  rw [mem_shard_iff, h k, List.mem_filter, decide_eq_true_eq]
  exact and_comm.trans (and_congr_left' AList.lookup_isSome)

theorem keys_perm (h : Agrees m f) : m.keys.Perm f.keys := by
  rw [List.perm_ext_iff_of_nodup m.nodup_keys (AList.keys_nodup f)]
  intro k
  rw [mem_keys, h k]
  exact AList.lookup_isSome

theorem size (h : Agrees m f) : m.size = f.size := by
  rw [size_eq_length_keys, h.keys_perm.length_eq, FiniteMap.size_eq_length_keys]

end Agrees

end ShardedMap

end PilotBeacon.Lib
