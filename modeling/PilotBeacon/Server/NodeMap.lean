import PilotBeacon.Lib.ShardedMap
import PilotBeacon.Net.Addr

/-!
# The Node Table (`nodes_shard.go`)

Node id to observed endpoint, in 64 shards picked by the low bits of the id. The cap on
the number of nodes is applied per shard, so an insert is refused exactly when the id is
new and its shard holds `maxTotal / nodeShardCount` ids.

Times are integers, in nanoseconds since the Unix epoch; the zero `time.Time` of a field that
was never set is `none`.
-/

namespace PilotBeacon

open PilotBeacon.Lib PilotBeacon.Net

/-- A node's observed endpoint and when it was last seen and last notified. -/
structure BeaconNode where
  addr : UDPAddr
  lastSeen : Int
  lastNotify : Option Int
deriving DecidableEq

def nodeShardCount : Nat := 64

/-- The shard of a node id: `nodeID & (nodeShardCount - 1)`. -/
def shardFor (nodeID : UInt32) : Fin nodeShardCount :=
  ⟨(nodeID &&& 63).toNat, by
    rw [UInt32.toNat_and]
    exact lt_of_le_of_lt Nat.and_le_right (by decide)⟩

theorem shardFor_val (nodeID : UInt32) : (shardFor nodeID).val = nodeID.toNat % nodeShardCount := by
  have h : (nodeID &&& 63).toNat = nodeID.toNat &&& (2 ^ 6 - 1) := UInt32.toNat_and _ _
  rw [Nat.and_two_pow_sub_one_eq_mod] at h
  exact h

/-- `nodeMap`. -/
abbrev NodeMap := ShardedMap UInt32 BeaconNode nodeShardCount shardFor

namespace NodeMap

/-! ## Operations -/

/-- The table after an `Upsert`, and the two flags it returns. -/
structure UpsertResult where
  nodes : NodeMap
  inserted : Bool
  atCapacity : Bool

/-- Refresh a known node, or insert a new one if its shard has room. -/
def upsert (m : NodeMap) (nodeID : UInt32) (addr : UDPAddr) (now : Int) (maxTotal : Nat) :
    UpsertResult :=
  match m.lookup nodeID with
  | some existing =>
    ⟨m.insert nodeID { existing with addr := addr, lastSeen := now }, false, false⟩
  | none =>
    -- the cap is per shard
    if 0 < maxTotal ∧ maxTotal / nodeShardCount ≤ (m.shards (shardFor nodeID)).size then
      ⟨m, false, true⟩
    else ⟨m.insert nodeID { addr := addr, lastSeen := now, lastNotify := none }, true, false⟩

/-- The stored entry. -/
def get (m : NodeMap) (nodeID : UInt32) : Option BeaconNode := m.lookup nodeID

/-- The stored address. -/
def snapshot (m : NodeMap) (nodeID : UInt32) : Option UDPAddr :=
  (m.lookup nodeID).map BeaconNode.addr

/-- Whether the node is locally registered. -/
def has (m : NodeMap) (nodeID : UInt32) : Bool := (m.lookup nodeID).isSome

/-- The number of registered nodes. -/
def len (m : NodeMap) : Nat := m.size

/-- All registered ids. -/
def ids (m : NodeMap) : List UInt32 := m.keys

/-- The address to notify and whether the notify is throttled; records the time if not. -/
def claimNotify (m : NodeMap) (nodeID : UInt32) (now minGap : Int) :
    NodeMap × Option (UDPAddr × Bool) :=
  match m.lookup nodeID with
  | none => (m, none)
  | some n =>
    -- a node that was never notified is not throttled
    if n.lastNotify.any (fun last => now - last < minGap) then (m, some (n.addr, true))
    else (m.insert nodeID { n with lastNotify := some now }, some (n.addr, false))

/-- Delete every entry last seen strictly before `threshold`; also how many those were. -/
def reapStale (m : NodeMap) (threshold : Int) : NodeMap × Nat :=
  let kept := m.filter (fun _ n => !decide (n.lastSeen < threshold))
  (kept, m.size - kept.size)

/-- The part of `reapStale` that is done under the lock of one shard. -/
def reapShard (m : NodeMap) (i : Fin nodeShardCount) (threshold : Int) : NodeMap :=
  m.filter (fun id n => !(decide (shardFor id = i) && decide (n.lastSeen < threshold)))

/-! ## What the operations do to each entry -/

theorem has_iff (m : NodeMap) (id : UInt32) : m.has id = true ↔ ∃ n, m.lookup id = some n :=
  Option.isSome_iff_exists

theorem mem_ids (m : NodeMap) (id : UInt32) : id ∈ m.ids ↔ m.has id = true :=
  ShardedMap.mem_keys m id

theorem len_eq_length_ids (m : NodeMap) : m.len = m.ids.length := ShardedMap.size_eq_length_keys m

theorem lookup_upsert_of_ne (m : NodeMap) {id id' : UInt32} (addr : UDPAddr) (now : Int)
    (maxTotal : Nat) (hne : id ≠ id') :
    (m.upsert id' addr now maxTotal).nodes.lookup id = m.lookup id := by
  unfold upsert
  split
  · exact ShardedMap.lookup_insert_of_ne _ _ hne
  · split_ifs
    · rfl
    · exact ShardedMap.lookup_insert_of_ne _ _ hne

/-- An upsert that is not refused stores the address under the current time. -/
theorem lookup_upsert_self {m : NodeMap} {id : UInt32} {addr : UDPAddr} {now : Int}
    {maxTotal : Nat} (h : (m.upsert id addr now maxTotal).atCapacity = false) :
    ∃ last, (m.upsert id addr now maxTotal).nodes.lookup id = some ⟨addr, now, last⟩ := by
  unfold upsert at h ⊢
  split
  · rename_i n _
    exact ⟨n.lastNotify, ShardedMap.lookup_insert_self _ _ _⟩
  · rename_i hnone
    rw [hnone] at h
    split_ifs at h ⊢
    exact ⟨none, ShardedMap.lookup_insert_self _ _ _⟩

/-- A refused upsert changes nothing, and the id was not registered. -/
theorem upsert_atCapacity {m : NodeMap} {id : UInt32} {addr : UDPAddr} {now : Int}
    {maxTotal : Nat} (h : (m.upsert id addr now maxTotal).atCapacity = true) :
    (m.upsert id addr now maxTotal).nodes = m ∧ m.lookup id = none := by
  unfold upsert at h ⊢
  split at h
  · simp at h
  · rename_i hnone
    split_ifs at h with hfull
    exact ⟨by simp [hfull], hnone⟩

@[simp] theorem lookup_reapStale (m : NodeMap) (threshold : Int) (id : UInt32) :
    (m.reapStale threshold).1.lookup id =
      (m.lookup id).filter (fun n => !decide (n.lastSeen < threshold)) :=
  ShardedMap.lookup_filter _ m id

theorem lookup_reapShard (m : NodeMap) (i : Fin nodeShardCount) (threshold : Int) (id : UInt32) :
    (m.reapShard i threshold).lookup id =
      (m.lookup id).filter
        (fun n => !(decide (shardFor id = i) && decide (n.lastSeen < threshold))) :=
  ShardedMap.lookup_filter _ m id

/-- Reaping shard by shard. -/
theorem lookup_foldl_reapShard (m : NodeMap) (is : List (Fin nodeShardCount)) (threshold : Int)
    (id : UInt32) :
    (is.foldl (fun m i => m.reapShard i threshold) m).lookup id =
      (m.lookup id).filter
        (fun n => !(decide (shardFor id ∈ is) && decide (n.lastSeen < threshold))) := by
  induction is generalizing m with
  | nil => cases h : m.lookup id <;> simp [h, Option.filter]
  | cons i is ih =>
    rw [List.foldl_cons, ih, lookup_reapShard, Option.filter_filter]
    congr 1
    funext n
    rw [Bool.eq_iff_iff]
    simp only [Bool.and_eq_true, Bool.not_eq_true', Bool.and_eq_false_iff, decide_eq_false_iff_not,
      List.mem_cons]
    tauto

/-! ## Endpoints -/

/-- What a table says about a node apart from notifies: its address and when that was
    written. -/
def endpoint (m : NodeMap) (id : UInt32) : Option (UDPAddr × Int) :=
  (m.lookup id).map fun n => (n.addr, n.lastSeen)

theorem has_eq_isSome_endpoint (m : NodeMap) (id : UInt32) : m.has id = (m.endpoint id).isSome := by
  rw [has, endpoint, Option.isSome_map]

theorem snapshot_eq_endpoint (m : NodeMap) (id : UInt32) :
    m.snapshot id = (m.endpoint id).map Prod.fst := by
  rw [snapshot, endpoint, Option.map_map]
  rfl

theorem endpoint_upsert (m : NodeMap) (id id' : UInt32) (addr : UDPAddr) (now : Int)
    (maxTotal : Nat) :
    (m.upsert id' addr now maxTotal).nodes.endpoint id =
      if id' = id ∧ (m.upsert id' addr now maxTotal).atCapacity = false then some (addr, now)
      else m.endpoint id := by
  by_cases hid : id' = id
  · subst hid
    -- stored, or the shard is full and nothing changes
    cases hcap : (m.upsert id' addr now maxTotal).atCapacity with
    | false =>
      obtain ⟨last, h⟩ := lookup_upsert_self hcap
      rw [endpoint, h]
      simp
    | true =>
      rw [(upsert_atCapacity hcap).1]
      simp
  · rw [endpoint, lookup_upsert_of_ne m addr now maxTotal (Ne.symm hid), if_neg (fun h => hid h.1),
      endpoint]

theorem endpoint_reapStale (m : NodeMap) (threshold : Int) (id : UInt32) :
    (m.reapStale threshold).1.endpoint id =
      (m.endpoint id).filter (fun p => !decide (p.2 < threshold)) := by
  rw [endpoint, endpoint, lookup_reapStale, Option.filter_map]
  rfl

end NodeMap

end PilotBeacon
