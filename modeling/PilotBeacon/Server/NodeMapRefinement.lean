import PilotBeacon.Lib.Simulation
import PilotBeacon.Server.NodeMap

/-!
# The Node Table as One Map

What the 64 shards of the node table amount to: a single map whose ids are counted by residue
class, each class with room for `maxTotal / nodeShardCount` ids.

- `FlatNodes`: the single map and its operations
- `nodeStep`, `flatStep`: the calls that write, on either
- `nodeStep_simulates`: a call keeps the two in step and answers the same
- `nodeMap_refines_flat`: after any sequence of calls everything that can be read agrees
-/

namespace PilotBeacon

open PilotBeacon.Lib PilotBeacon.Net

/-! ## One map -/

/-- The registered nodes. -/
abbrev FlatNodes := FiniteMap UInt32 BeaconNode

namespace FlatNodes

/-- How many ids of the residue class of `nodeID` are registered. -/
def classSize (f : FlatNodes) (nodeID : UInt32) : Nat :=
  (f.keys.filter fun id => id.toNat % nodeShardCount = nodeID.toNat % nodeShardCount).length

/-- Whether the class of `nodeID` is full. -/
def classFull (f : FlatNodes) (nodeID : UInt32) (maxTotal : Nat) : Prop :=
  f.classSize nodeID = maxTotal / nodeShardCount

instance (f : FlatNodes) (nodeID : UInt32) (maxTotal : Nat) :
    Decidable (f.classFull nodeID maxTotal) := inferInstanceAs (Decidable (_ = _))

/-- Refresh a known node, or insert a new one if its class has room; whether it was inserted
    and whether it was refused. -/
def upsert (f : FlatNodes) (nodeID : UInt32) (addr : UDPAddr) (now : Int) (maxTotal : Nat) :
    FlatNodes × Bool × Bool :=
  match f.lookup nodeID with
  | some existing =>
    (AList.insert nodeID { existing with addr := addr, lastSeen := now } f, false, false)
  | none =>
    if f.classFull nodeID maxTotal then (f, false, true)
    else (AList.insert nodeID { addr := addr, lastSeen := now, lastNotify := none } f, true, false)

/-- The address to notify and whether the notify is throttled. -/
def claimNotify (f : FlatNodes) (nodeID : UInt32) (now minGap : Int) :
    FlatNodes × Option (UDPAddr × Bool) :=
  match f.lookup nodeID with
  | none => (f, none)
  | some n =>
    if n.lastNotify.any (fun last => now - last < minGap) then (f, some (n.addr, true))
    else (AList.insert nodeID { n with lastNotify := some now } f, some (n.addr, false))

/-- Delete what was last seen before `threshold`, and count it. -/
def reapStale (f : FlatNodes) (threshold : Int) : FlatNodes × Nat :=
  (FiniteMap.filter (fun _ n => !decide (n.lastSeen < threshold)) f,
    (FiniteMap.filter (fun _ n => decide (n.lastSeen < threshold)) f).size)

end FlatNodes

/-! ## Calls -/

inductive NodeCall where
  | upsert (nodeID : UInt32) (addr : UDPAddr) (now : Int)
  | claimNotify (nodeID : UInt32) (now minGap : Int)
  | reapStale (threshold : Int)

inductive NodeAnswer where
  | upserted (inserted atCapacity : Bool)
  | claimed (r : Option (UDPAddr × Bool))
  | reaped (removed : Nat)
deriving DecidableEq

/-- A call on the sharded table. -/
def nodeStep (maxTotal : Nat) (m : NodeMap) : NodeCall → NodeMap × NodeAnswer
  | .upsert nodeID addr now =>
    let r := m.upsert nodeID addr now maxTotal
    (r.nodes, .upserted r.inserted r.atCapacity)
  | .claimNotify nodeID now minGap =>
    let (m, r) := m.claimNotify nodeID now minGap
    (m, .claimed r)
  | .reapStale threshold =>
    let (m, removed) := m.reapStale threshold
    (m, .reaped removed)

/-- The same call on the single map. -/
def flatStep (maxTotal : Nat) (f : FlatNodes) : NodeCall → FlatNodes × NodeAnswer
  | .upsert nodeID addr now =>
    let (f, inserted, atCapacity) := f.upsert nodeID addr now maxTotal
    (f, .upserted inserted atCapacity)
  | .claimNotify nodeID now minGap =>
    let (f, r) := f.claimNotify nodeID now minGap
    (f, .claimed r)
  | .reapStale threshold =>
    let (f, removed) := f.reapStale threshold
    (f, .reaped removed)

/-- The table after the calls `cs`. -/
def nodeRun (maxTotal : Nat) (cs : List NodeCall) : NodeMap :=
  Transition.run (Simulation.next (nodeStep maxTotal)) ShardedMap.empty cs

/-- The single map after the calls `cs`. -/
def flatRun (maxTotal : Nat) (cs : List NodeCall) : FlatNodes :=
  Transition.run (Simulation.next (flatStep maxTotal)) ∅ cs

/-! ## The simulation -/

/-- Same entries, and no shard over its share. -/
structure InStep (maxTotal : Nat) (m : NodeMap) (f : FlatNodes) : Prop where
  agrees : m.Agrees f
  share : ∀ i, (m.shards i).size ≤ maxTotal / nodeShardCount

section

variable {maxTotal : Nat} {m : NodeMap} {f : FlatNodes}

/-- Two ids share a shard exactly if they are in one residue class. -/
theorem shardFor_eq_iff (id id' : UInt32) :
    shardFor id = shardFor id' ↔ id.toNat % nodeShardCount = id'.toNat % nodeShardCount := by
  rw [Fin.ext_iff, shardFor_val, shardFor_val]

theorem InStep.size_shardFor (h : InStep maxTotal m f) (id : UInt32) :
    (m.shards (shardFor id)).size = f.classSize id := by
  rw [h.agrees.size_shard, FlatNodes.classSize]
  simp only [shardFor_eq_iff]

/-- The test of `Upsert` says that the class is full. -/
theorem InStep.full_iff (h : InStep maxTotal m f) (hpos : 0 < maxTotal) (id : UInt32) :
    (0 < maxTotal ∧ maxTotal / nodeShardCount ≤ (m.shards (shardFor id)).size) ↔
      f.classFull id maxTotal := by
  have hshare := h.share (shardFor id)
  rw [FlatNodes.classFull, ← h.size_shardFor]
  omega

/-- Writing an entry that is there. -/
theorem InStep.refresh (h : InStep maxTotal m f) {id : UInt32} {n : BeaconNode}
    (hn : m.lookup id = some n) (n' : BeaconNode) :
    InStep maxTotal (m.insert id n') (AList.insert id n' f) := by
  refine ⟨h.agrees.insert id n', fun i => ?_⟩
  rw [ShardedMap.size_shards_insert, hn, if_neg (by simp)]
  exact h.share i

/-- Writing a new entry where there is room. -/
theorem InStep.add (h : InStep maxTotal m f) {id : UInt32}
    (hroom : (m.shards (shardFor id)).size < maxTotal / nodeShardCount) (n : BeaconNode) :
    InStep maxTotal (m.insert id n) (AList.insert id n f) := by
  refine ⟨h.agrees.insert id n, fun i => ?_⟩
  rw [ShardedMap.size_shards_insert]
  split_ifs with hi
  · rw [hi.1]
    exact hroom
  · exact h.share i

theorem InStep.upsert (h : InStep maxTotal m f) (hpos : 0 < maxTotal) (id : UInt32)
    (addr : UDPAddr) (now : Int) :
    InStep maxTotal (m.upsert id addr now maxTotal).nodes (f.upsert id addr now maxTotal).1 ∧
      (m.upsert id addr now maxTotal).inserted = (f.upsert id addr now maxTotal).2.1 ∧
      (m.upsert id addr now maxTotal).atCapacity = (f.upsert id addr now maxTotal).2.2 := by
  unfold NodeMap.upsert FlatNodes.upsert
  rw [← h.agrees id]
  cases hn : m.lookup id with
  | some n => exact ⟨h.refresh hn _, rfl, rfl⟩
  | none =>
    dsimp only
    by_cases hfull : f.classFull id maxTotal
    · rw [if_pos ((h.full_iff hpos id).mpr hfull), if_pos hfull]
      exact ⟨h, rfl, rfl⟩
    · have hroom := mt (h.full_iff hpos id).mp hfull
      rw [if_neg hroom, if_neg hfull]
      exact ⟨h.add (by omega) _, rfl, rfl⟩

theorem InStep.claimNotify (h : InStep maxTotal m f) (id : UInt32) (now minGap : Int) :
    InStep maxTotal (m.claimNotify id now minGap).1 (f.claimNotify id now minGap).1 ∧
      (m.claimNotify id now minGap).2 = (f.claimNotify id now minGap).2 := by
  unfold NodeMap.claimNotify FlatNodes.claimNotify
  rw [← h.agrees id]
  cases hn : m.lookup id with
  | none => exact ⟨h, rfl⟩
  | some n =>
    dsimp only
    by_cases hthrottled : (n.lastNotify.any fun last => decide (now - last < minGap)) = true
    · rw [if_pos hthrottled, if_pos hthrottled]
      exact ⟨h, rfl⟩
    · rw [if_neg hthrottled, if_neg hthrottled]
      exact ⟨h.refresh hn _, rfl⟩

theorem InStep.reapStale (h : InStep maxTotal m f) (threshold : Int) :
    InStep maxTotal (m.reapStale threshold).1 (f.reapStale threshold).1 ∧
      (m.reapStale threshold).2 = (f.reapStale threshold).2 := by
  have hkept := h.agrees.filter fun _ n => !decide (n.lastSeen < threshold)
  refine ⟨⟨hkept, fun i => (ShardedMap.size_shards_filter_le _ _ i).trans (h.share i)⟩, ?_⟩
  -- what is not kept is removed
  have hsplit := FiniteMap.size_filter_add_size_filter_not
    (fun _ n => decide (n.lastSeen < threshold)) f
  show m.size - (m.filter _).size = _
  rw [h.agrees.size, hkept.size, ← hsplit]
  exact Nat.add_sub_cancel _ _

end

/-- **A call keeps the tables in step** and answers the same on both. -/
theorem nodeStep_simulates {maxTotal : Nat} (hpos : 0 < maxTotal) :
    Simulation.Simulates (nodeStep maxTotal) (flatStep maxTotal) Eq Eq (InStep maxTotal) := by
  constructor
  · rintro m f c _ h rfl
    cases c with
    | upsert id addr now => exact (h.upsert hpos id addr now).1
    | claimNotify id now minGap => exact (h.claimNotify id now minGap).1
    | reapStale threshold => exact (h.reapStale threshold).1
  · rintro m f c _ h rfl
    cases c with
    | upsert id addr now =>
      obtain ⟨-, hins, hcap⟩ := h.upsert hpos id addr now
      exact congrArg₂ NodeAnswer.upserted hins hcap
    | claimNotify id now minGap =>
      exact congrArg NodeAnswer.claimed (h.claimNotify id now minGap).2
    | reapStale threshold => exact congrArg NodeAnswer.reaped (h.reapStale threshold).2

/-! ## Runs -/

/-- Everything that can be read off the sharded table after the calls `cs`, in terms of the
    single map. -/
structure RefinesFlat (maxTotal : Nat) (cs : List NodeCall) : Prop where
  /-- A shard holds ids of its own class only, and not more than its share of them. -/
  shards : ∀ i : Fin nodeShardCount,
    (∀ id ∈ ((nodeRun maxTotal cs).shards i).keys, id.toNat % nodeShardCount = i.val) ∧
      ((nodeRun maxTotal cs).shards i).keys.length ≤ maxTotal / nodeShardCount
  total : (nodeRun maxTotal cs).len ≤ maxTotal
  /-- The flags of every `Upsert`, the results of every `claimNotify` and the counts of every
      `ReapStale`. -/
  answers : Simulation.answers (nodeStep maxTotal) ShardedMap.empty cs =
    Simulation.answers (flatStep maxTotal) ∅ cs
  get : ∀ id, (nodeRun maxTotal cs).get id = (flatRun maxTotal cs).lookup id
  has : ∀ id, (nodeRun maxTotal cs).has id = true ↔ id ∈ flatRun maxTotal cs
  snapshot : ∀ id, (nodeRun maxTotal cs).snapshot id =
    ((flatRun maxTotal cs).lookup id).map BeaconNode.addr
  len : (nodeRun maxTotal cs).len = (flatRun maxTotal cs).keys.length
  ids_nodup : (nodeRun maxTotal cs).ids.Nodup
  mem_ids : ∀ id, id ∈ (nodeRun maxTotal cs).ids ↔ id ∈ flatRun maxTotal cs
  length_ids : (nodeRun maxTotal cs).ids.length = (nodeRun maxTotal cs).len

theorem inStep_run {maxTotal : Nat} (hpos : 0 < maxTotal) (cs : List NodeCall) :
    InStep maxTotal (nodeRun maxTotal cs) (flatRun maxTotal cs) := by
  apply (nodeStep_simulates hpos).run _ (List.forall₂_same.mpr fun _ _ => rfl)
  exact ⟨ShardedMap.Agrees.empty, fun i => Nat.zero_le _⟩

/-- **The sharded table refines a single map** whose residue classes have room for
    `maxTotal / nodeShardCount` ids each. -/
theorem nodeMap_refines_flat (maxTotal : Nat) (hpos : 0 < maxTotal) (cs : List NodeCall) :
    RefinesFlat maxTotal cs := by
  have h := inStep_run hpos cs
  have hlookup : ∀ id, ((nodeRun maxTotal cs).lookup id).isSome = true ↔
      id ∈ flatRun maxTotal cs := by
    intro id
    rw [h.agrees id]
    exact AList.lookup_isSome
  constructor
  case shards =>
    intro i
    refine ⟨fun id hid => ?_, ?_⟩
    · rw [← shardFor_val, (nodeRun maxTotal cs).home i id hid]
    · rw [← FiniteMap.size_eq_length_keys]
      exact h.share i
  case total =>
    calc (nodeRun maxTotal cs).len
        ≤ nodeShardCount * (maxTotal / nodeShardCount) := ShardedMap.size_le _ h.share
      _ ≤ maxTotal := Nat.mul_div_le maxTotal nodeShardCount
  case answers =>
    rw [← List.forall₂_eq_eq_eq]
    apply (nodeStep_simulates hpos).answers _ (List.forall₂_same.mpr fun _ _ => rfl)
    exact ⟨ShardedMap.Agrees.empty, fun i => Nat.zero_le _⟩
  case get => exact h.agrees
  case has => exact hlookup
  case snapshot =>
    intro id
    rw [NodeMap.snapshot, h.agrees id]
  case len => exact h.agrees.size.trans (FiniteMap.size_eq_length_keys _)
  case ids_nodup => exact ShardedMap.nodup_keys _
  case mem_ids =>
    intro id
    rw [NodeMap.mem_ids]
    exact hlookup id
  case length_ids => exact (NodeMap.len_eq_length_ids _).symm

/-- A port of 10.0.0.1. -/
def crowdedAddr (port : UInt16) : UDPAddr := ⟨⟨[10, 0, 0, 1], by decide⟩, port, []⟩

/-- Two nodes of one class with room for one id a class, the second refused, and a reap. -/
def crowdedCalls : List NodeCall :=
  [.upsert 0 (crowdedAddr 1) 5, .upsert 64 (crowdedAddr 2) 6, .upsert 0 (crowdedAddr 3) 7,
    .claimNotify 0 8 1, .upsert 1 (crowdedAddr 4) 9, .reapStale 8]

theorem crowdedCalls_refines :
    RefinesFlat 64 crowdedCalls ∧ Simulation.answers (flatStep 64) ∅ crowdedCalls =
      [.upserted true false, .upserted false true, .upserted false false,
        .claimed (some (crowdedAddr 3, false)), .upserted true false, .reaped 1] :=
  ⟨nodeMap_refines_flat 64 (by decide) crowdedCalls, by decide⟩

end PilotBeacon
