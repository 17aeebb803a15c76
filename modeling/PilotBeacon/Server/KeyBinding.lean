import PilotBeacon.Server.Beacon

/-!
# Key Binding Against the Reaper

The first key a node id comes with stays bound to it (`LoadOrStore`), and the reaper unbinds the
keys of ids that are not registered. Datagrams are handled concurrently with the reaper, so here
both are taken apart: a Discover handler notes the key, asks the limiter and writes the node
table in separate steps, and the reaper looks each key's id up in the node table and deletes the
key in separate steps.

- `Concurrent`, `concurrentNext`: beacon, handlers and reaper, interleaved
- `discover_uninterrupted`, `reap_uninterrupted`: without interleaving, these are the handler and
  the reaper of the other modules
- `stepEffect`: what a step can do to node table, keys and reaper
- `key_stays_bound`: as long as no id is registered between the lookup and the deletion of its
  key, a registered id keeps its key
- `key_rebound`: otherwise it may not
-/

namespace PilotBeacon

open PilotBeacon.Lib PilotBeacon.Net

/-! ## The interleaved beacon -/

/-- Where a Discover handler is. -/
inductive HandlerStage where
  | idle
  /-- Mark and key are stored. -/
  | noted (nodeID : UInt32) (remote : UDPAddr)
  /-- The limiter allows the endpoint update. -/
  | allowed (nodeID : UInt32) (remote : UDPAddr)
deriving DecidableEq

/-- The beacon, its Discover handlers, and the id whose key the reaper is about to delete. -/
structure Concurrent where
  server : Server
  handlers : Nat → HandlerStage
  pending : Option UInt32

inductive ConcurrentStep where
  | note (h : Nat) (env : Env) (data : Bytes) (remote : UDPAddr) (wantDest : Bool)
  | limit (h : Nat) (now : Int)
  | upsert (h : Nat) (now : Int)
  /-- The `Upsert` of a punch request, which can be from any endpoint for any id. -/
  | punch (nodeID : UInt32) (remote : UDPAddr) (now : Int)
  | reapShard (i : Fin nodeShardCount) (threshold : Int)
  /-- The sweeps of limiters and routes between the two tables. -/
  | sweep (now : Int)
  /-- The callback of `Range` for one key: the lookup. -/
  | check (nodeID : UInt32)
  /-- And the deletion, if the id was not there. -/
  | delete
  /-- The loop over the marks, in one step: no key depends on a mark. -/
  | reapMarks

/-- A fresh beacon. -/
def Concurrent.start (cfg : Config) (peers : List Text) : Concurrent where
  server := newWithPeers cfg peers
  handlers := fun _ => .idle
  pending := none

/-- The sweeps of limiters and routes. -/
def Server.sweepTables (s : Server) (now : Int) : Server :=
  Server.sweepStaleGossip
    { s with
      punchRL := s.punchRL.sweep (now - punchRateCleanupInterval)
      relayRL := s.relayRL.sweep (now - relaySourceCleanupInterval)
      discoverRL := s.discoverRL.sweep (now - discoverMinInterval * 2) } (now - gossipPeerTTL)

def concurrentNext (c : Concurrent) : ConcurrentStep → Concurrent
  | .note h env data remote wantDest =>
    match c.handlers h with
    | .idle =>
      if Server.discoverAdmitted env data then
        { c with
          server := c.server.noteDiscover (BigEndian.uint32 data) data wantDest
          handlers := Function.update c.handlers h (.noted (BigEndian.uint32 data) remote) }
      else c
    | _ => c
  | .limit h now =>
    match c.handlers h with
    | .noted nodeID remote =>
      let (allowed, rl) := c.server.discoverRL.allow nodeID now discoverMinInterval
      { c with
        server := { c.server with discoverRL := rl }
        handlers := Function.update c.handlers h
          (if allowed then .allowed nodeID remote else .idle) }
    | _ => c
  | .upsert h now =>
    match c.handlers h with
    | .allowed nodeID remote =>
      { c with
        server :=
          { c.server with nodes := (c.server.nodes.upsert nodeID remote now maxBeaconNodes).nodes }
        handlers := Function.update c.handlers h .idle }
    | _ => c
  | .punch nodeID remote now =>
    { c with
      server :=
        { c.server with nodes := (c.server.nodes.upsert nodeID remote now maxBeaconNodes).nodes } }
  | .reapShard i threshold =>
    { c with server := { c.server with nodes := c.server.nodes.reapShard i threshold } }
  | .sweep now => { c with server := c.server.sweepTables now }
  | .check nodeID =>
    -- `Range` visits the keys that are there
    if c.pending.isNone && (c.server.nodePubKeys.lookup nodeID).isSome &&
        !c.server.nodes.has nodeID then
      { c with pending := some nodeID }
    else c
  | .delete =>
    match c.pending with
    | some nodeID =>
      { c with
        server :=
          { c.server with nodePubKeys := AList.erase nodeID c.server.nodePubKeys }
        pending := none }
    | none => c
  | .reapMarks =>
    { c with
      server :=
        { c.server with
          dstNodes := FiniteMap.filter (fun id _ => c.server.nodes.has id) c.server.dstNodes } }

/-! ## Without interleaving -/

/-- **A Discover handler that is not interrupted** is `handleDiscover`. -/
theorem discover_uninterrupted (cfg : Config) (c : Concurrent) {h : Nat}
    (hidle : c.handlers h = .idle) (env : Env) (data : Bytes) (remote : UDPAddr) (wantDest : Bool)
    (now : Int) :
    Transition.run concurrentNext c
        [.note h env data remote wantDest, .limit h now, .upsert h now] =
      { c with server := (c.server.handleDiscover cfg env now data remote wantDest).1 } := by
  rw [Server.handleDiscover_state]
  cases hadm : Server.discoverAdmitted env data with
  | false => simp [concurrentNext, hidle, hadm]
  | true =>
    -- afterwards the handler is idle again
    have hback : ∀ x, Function.update (Function.update c.handlers h x) h .idle = c.handlers := by
      intro x
      rw [Function.update_idem, ← hidle, Function.update_eq_self]
    cases hallow :
        (c.server.discoverRL.allow (BigEndian.uint32 data) now discoverMinInterval).1 with
    | false => simp [concurrentNext, hidle, hadm, hallow, hback, Server.noteDiscover]
    | true => simp [concurrentNext, hidle, hadm, hallow, hback, Server.noteDiscover]

/-- The reaper up to the loop over the keys. -/
def reapStart (now : Int) : List ConcurrentStep :=
  (List.finRange nodeShardCount).map (fun i => .reapShard i (now - beaconNodeTTL)) ++ [.sweep now]

/-- The steps of the reaper, in order; `ids` are the ids `Range` visits. -/
def reapSteps (now : Int) (ids : List UInt32) : List ConcurrentStep :=
  reapStart now ++ (ids.flatMap (fun id => [.check id, .delete]) ++ [.reapMarks])

theorem run_reapShards (c : Concurrent) (is : List (Fin nodeShardCount)) (threshold : Int) :
    Transition.run concurrentNext c (is.map fun i => .reapShard i threshold) =
      { c with
        server :=
          { c.server with
            nodes := is.foldl (fun m i => m.reapShard i threshold) c.server.nodes } } := by
  induction is generalizing c with
  | nil => rfl
  | cons i is ih => exact ih _

/-- One round of the loop over the keys. -/
theorem run_check (c : Concurrent) (hpending : c.pending = none) (id : UInt32) :
    ∃ keys, Transition.run concurrentNext c [.check id, .delete] =
        { c with server := { c.server with nodePubKeys := keys } } ∧
      ∀ id', keys.lookup id' =
        if id' = id ∧ c.server.nodes.has id' = false then none
        else c.server.nodePubKeys.lookup id' := by
  by_cases hcheck : (c.server.nodePubKeys.lookup id).isSome = true ∧ c.server.nodes.has id = false
  · refine ⟨AList.erase id c.server.nodePubKeys, ?_, ?_⟩
    · simp [concurrentNext, hpending, hcheck.1, hcheck.2]
    · intro id'
      by_cases hid : id' = id
      · subst hid
        rw [AList.lookup_erase, if_pos ⟨rfl, hcheck.2⟩]
      · rw [AList.lookup_erase_ne hid, if_neg (fun h => hid h.1)]
  · refine ⟨c.server.nodePubKeys, ?_, ?_⟩
    · have hskip : concurrentNext c (.check id) = c := by
        apply if_neg
        simp only [Bool.and_eq_true, Bool.not_eq_true']
        exact fun h => hcheck ⟨h.1.2, h.2⟩
      have hidle : concurrentNext c .delete = c := by
        simp only [concurrentNext, hpending]
      rw [Transition.run_cons, hskip, Transition.run_cons, hidle, Transition.run_nil]
    · intro id'
      split_ifs with h
      · -- there was nothing to delete
        obtain ⟨rfl, hno⟩ := h
        rw [← Option.not_isSome_iff_eq_none]
        exact fun hsome => hcheck ⟨hsome, hno⟩
      · rfl

/-- The loop over the keys unbinds those of ids that are not registered. -/
theorem run_checks (c : Concurrent) (hpending : c.pending = none) (ids : List UInt32) :
    ∃ keys, Transition.run concurrentNext c (ids.flatMap fun id => [.check id, .delete]) =
        { c with server := { c.server with nodePubKeys := keys } } ∧
      ∀ id, keys.lookup id =
        if id ∈ ids ∧ c.server.nodes.has id = false then none
        else c.server.nodePubKeys.lookup id := by
  induction ids generalizing c with
  | nil => exact ⟨c.server.nodePubKeys, rfl, by simp⟩
  | cons id ids ih =>
    obtain ⟨keys₁, hrun₁, hkeys₁⟩ := run_check c hpending id
    obtain ⟨keys₂, hrun₂, hkeys₂⟩ :=
      ih { c with server := { c.server with nodePubKeys := keys₁ } } hpending
    refine ⟨keys₂, ?_, ?_⟩
    · rw [List.flatMap_cons, Transition.run_append, hrun₁, hrun₂]
    · intro id'
      rw [hkeys₂]
      simp only [hkeys₁, List.mem_cons]
      split_ifs <;> tauto

theorem Server.sweepTables_tables (s : Server) (now : Int) :
    (s.sweepTables now).nodes = s.nodes ∧ (s.sweepTables now).nodePubKeys = s.nodePubKeys ∧
      (s.sweepTables now).dstNodes = s.dstNodes := by
  obtain ⟨routes, seen, h⟩ := Server.sweepStaleGossip_frame
    { s with
      punchRL := s.punchRL.sweep (now - punchRateCleanupInterval)
      relayRL := s.relayRL.sweep (now - relaySourceCleanupInterval)
      discoverRL := s.discoverRL.sweep (now - discoverMinInterval * 2) } (now - gossipPeerTTL)
  rw [Server.sweepTables, h]
  exact ⟨rfl, rfl, rfl⟩

/-- Up to the loop over the keys, only the node table changes of what matters there. -/
theorem run_reapStart (c : Concurrent) (now : Int) :
    ∃ s, Transition.run concurrentNext c (reapStart now) = { c with server := s } ∧
      (∀ id, s.nodes.lookup id = (c.server.reapStaleNodes now).nodes.lookup id) ∧
      s.nodePubKeys = c.server.nodePubKeys ∧ s.dstNodes = c.server.dstNodes := by
  obtain ⟨hnodes, hkeys, hmarks⟩ := Server.sweepTables_tables
    { c.server with
      nodes := (List.finRange nodeShardCount).foldl
        (fun m i => m.reapShard i (now - beaconNodeTTL)) c.server.nodes } now
  refine ⟨_, ?_, ?_, hkeys, hmarks⟩
  · rw [reapStart, Transition.run_append, run_reapShards]
    rfl
  · intro id
    rw [hnodes, NodeMap.lookup_foldl_reapShard, Server.reapStaleNodes_nodes,
      NodeMap.lookup_reapStale]
    simp only [List.mem_finRange, decide_true, Bool.true_and]

/-- **The reaper, not interrupted**, is `reapStaleNodes`, entry by entry, if it visits all
    keys. -/
theorem reap_uninterrupted (c : Concurrent) (hpending : c.pending = none) (now : Int)
    (ids : List UInt32) (hids : ∀ id, (c.server.nodePubKeys.lookup id).isSome = true → id ∈ ids)
    (id : UInt32) :
    let reaped := (Transition.run concurrentNext c (reapSteps now ids)).server
    reaped.nodes.lookup id = (c.server.reapStaleNodes now).nodes.lookup id ∧
      reaped.nodePubKeys.lookup id = (c.server.reapStaleNodes now).nodePubKeys.lookup id ∧
      reaped.dstNodes.lookup id = (c.server.reapStaleNodes now).dstNodes.lookup id := by
  obtain ⟨s, hstart, hnodes, hkeys, hmarks⟩ := run_reapStart c now
  obtain ⟨keys, hloop, hlookup⟩ := run_checks { c with server := s } hpending ids
  have hhas : s.nodes.has id = (c.server.reapStaleNodes now).nodes.has id := by
    rw [NodeMap.has, NodeMap.has, hnodes]
  dsimp only
  rw [reapSteps, Transition.run_append, hstart, Transition.run_append, hloop,
    Transition.run_cons, Transition.run_nil]
  refine ⟨hnodes id, ?_, ?_⟩
  · rw [Server.lookup_nodePubKeys_reap, ← hhas]
    refine (hlookup id).trans ?_
    dsimp only
    rw [hkeys]
    cases hreg : s.nodes.has id with
    | true => simp
    | false =>
      -- the loop comes past every key
      cases hbound : c.server.nodePubKeys.lookup id with
      | none => simp
      | some key => simp [hids id (by rw [hbound]; rfl)]
  · rw [Server.lookup_dstNodes_reap, ← hhas, ← hmarks]
    exact FiniteMap.lookup_filter_key _ _ _

/-! ## Keys of registered ids -/

/-- The id a step writes to the node table. -/
def registers (c : Concurrent) : ConcurrentStep → Option UInt32
  | .upsert h _ =>
    match c.handlers h with
    | .allowed nodeID _ => some nodeID
    | _ => none
  | .punch nodeID _ _ => some nodeID
  | _ => none

/-- The step does not write the id whose key the reaper is about to delete to the node table. -/
def LeavesPending (c : Concurrent) (e : ConcurrentStep) : Prop :=
  registers c e = none ∨ registers c e ≠ c.pending

instance (c : Concurrent) (e : ConcurrentStep) : Decidable (LeavesPending c e) :=
  inferInstanceAs (Decidable (_ ∨ _))

/-- What a step can do to node table, keys and reaper. -/
inductive StepEffect (c : Concurrent) (e : ConcurrentStep) : Prop where
  | quiet (hnodes : (concurrentNext c e).server.nodes = c.server.nodes)
      (hkeys : (concurrentNext c e).server.nodePubKeys = c.server.nodePubKeys)
      (hpending : (concurrentNext c e).pending = c.pending)
  | wrote (id : UInt32) (remote : UDPAddr) (now : Int) (hreg : registers c e = some id)
      (hnodes : (concurrentNext c e).server.nodes =
        (c.server.nodes.upsert id remote now maxBeaconNodes).nodes)
      (hkeys : (concurrentNext c e).server.nodePubKeys = c.server.nodePubKeys)
      (hpending : (concurrentNext c e).pending = c.pending)
  | reaped (i : Fin nodeShardCount) (threshold : Int)
      (hnodes : (concurrentNext c e).server.nodes = c.server.nodes.reapShard i threshold)
      (hkeys : (concurrentNext c e).server.nodePubKeys = c.server.nodePubKeys)
      (hpending : (concurrentNext c e).pending = c.pending)
  | bound (id : UInt32) (key : Bytes)
      (hnodes : (concurrentNext c e).server.nodes = c.server.nodes)
      (hkeys : (concurrentNext c e).server.nodePubKeys =
        FiniteMap.loadOrStore c.server.nodePubKeys id key)
      (hpending : (concurrentNext c e).pending = c.pending)
  | checked (id : UInt32) (hno : c.server.nodes.has id = false)
      (hnodes : (concurrentNext c e).server.nodes = c.server.nodes)
      (hkeys : (concurrentNext c e).server.nodePubKeys = c.server.nodePubKeys)
      (hpending : (concurrentNext c e).pending = some id)
  | deleted (id : UInt32) (hwas : c.pending = some id)
      (hnodes : (concurrentNext c e).server.nodes = c.server.nodes)
      (hkeys : (concurrentNext c e).server.nodePubKeys = AList.erase id c.server.nodePubKeys)
      (hpending : (concurrentNext c e).pending = none)

theorem stepEffect_note (c : Concurrent) (h : Nat) (env : Env) (data : Bytes) (remote : UDPAddr)
    (wantDest : Bool) : StepEffect c (.note h env data remote wantDest) := by
  by_cases hnote : c.handlers h = .idle ∧ Server.discoverAdmitted env data = true
  · have hnext : concurrentNext c (.note h env data remote wantDest) =
        { c with
          server := c.server.noteDiscover (BigEndian.uint32 data) data wantDest
          handlers := Function.update c.handlers h (.noted (BigEndian.uint32 data) remote) } := by
      simp only [concurrentNext, hnote.1, hnote.2, if_true]
    by_cases hlong : 4 + publicKeySize ≤ data.length
    · refine .bound (BigEndian.uint32 data) ((data.drop 4).take publicKeySize) ?_ ?_ ?_ <;>
        rw [hnext]
      · rfl
      · exact if_pos hlong
    · refine .quiet ?_ ?_ ?_ <;> rw [hnext]
      · rfl
      · exact if_neg hlong
  · have hnext : concurrentNext c (.note h env data remote wantDest) = c := by
      dsimp only [concurrentNext]
      split
      · rename_i hidle
        exact if_neg fun hadm => hnote ⟨hidle, hadm⟩
      · rfl
    refine .quiet ?_ ?_ ?_ <;> rw [hnext]

theorem stepEffect (c : Concurrent) (e : ConcurrentStep) : StepEffect c e := by
  cases e with
  | note h env data remote wantDest => exact stepEffect_note c h env data remote wantDest
  | limit h now =>
    refine .quiet ?_ ?_ ?_ <;> dsimp only [concurrentNext] <;> split <;> rfl
  | upsert h now =>
    cases hstage : c.handlers h with
    | allowed id remote =>
      refine .wrote id remote now ?_ ?_ ?_ ?_ <;> simp only [concurrentNext, registers, hstage]
    | idle => refine .quiet ?_ ?_ ?_ <;> simp only [concurrentNext, hstage]
    | noted id remote => refine .quiet ?_ ?_ ?_ <;> simp only [concurrentNext, hstage]
  | punch id remote now => exact .wrote id remote now rfl rfl rfl rfl
  | reapShard i threshold => exact .reaped i threshold rfl rfl rfl
  | sweep now =>
    obtain ⟨hnodes, hkeys, -⟩ := Server.sweepTables_tables c.server now
    exact .quiet hnodes hkeys rfl
  | check id =>
    by_cases hcheck : (c.pending.isNone && (c.server.nodePubKeys.lookup id).isSome &&
        !c.server.nodes.has id) = true
    · have hnext : concurrentNext c (.check id) = { c with pending := some id } := if_pos hcheck
      simp only [Bool.and_eq_true, Bool.not_eq_true'] at hcheck
      exact .checked id hcheck.2 (by rw [hnext]) (by rw [hnext]) (by rw [hnext])
    · have hnext : concurrentNext c (.check id) = c := if_neg hcheck
      exact .quiet (by rw [hnext]) (by rw [hnext]) (by rw [hnext])
  | delete =>
    cases hpending : c.pending with
    | some id => refine .deleted id hpending ?_ ?_ ?_ <;> simp only [concurrentNext, hpending]
    | none => refine .quiet ?_ ?_ ?_ <;> simp only [concurrentNext, hpending]
  | reapMarks => exact .quiet rfl rfl rfl

/-- A step that does not write an id to the node table does not register it. -/
theorem has_next {c : Concurrent} {e : ConcurrentStep} {id : UInt32}
    (hreg : registers c e ≠ some id) (hno : c.server.nodes.has id = false) :
    (concurrentNext c e).server.nodes.has id = false := by
  have hnone : c.server.nodes.lookup id = none := by
    rw [← Option.not_isSome_iff_eq_none]
    exact ne_true_of_eq_false hno
  cases stepEffect c e with
  | quiet h => rwa [h]
  | wrote id' remote now hwrites h =>
    have hne : id ≠ id' := fun heq => hreg (heq ▸ hwrites)
    rw [NodeMap.has, h, NodeMap.lookup_upsert_of_ne _ _ _ _ hne, hnone]
    rfl
  | reaped i threshold h =>
    rw [NodeMap.has, h, NodeMap.lookup_reapShard, hnone]
    rfl
  | bound _ _ h => rwa [h]
  | checked _ _ h => rwa [h]
  | deleted _ _ h => rwa [h]

/-- The reaper is about to delete a key only if its id is not registered. -/
def PendingGone (c : Concurrent) : Prop :=
  ∀ id, c.pending = some id → c.server.nodes.has id = false

theorem pendingGone_next {c : Concurrent} {e : ConcurrentStep} (h : PendingGone c)
    (hleave : LeavesPending c e) : PendingGone (concurrentNext c e) := by
  intro id hid
  -- an id that was pending before is not written to the table by this step
  have hstays : c.pending = some id → (concurrentNext c e).server.nodes.has id = false := by
    intro hwas
    apply has_next _ (h id hwas)
    intro hwrites
    rcases hleave with hnone | hne
    · rw [hnone] at hwrites
      nomatch hwrites
    · exact hne (hwrites.trans hwas.symm)
  cases stepEffect c e with
  | quiet _ _ hpending => exact hstays (hpending ▸ hid)
  | wrote _ _ _ _ _ _ hpending => exact hstays (hpending ▸ hid)
  | reaped _ _ _ _ hpending => exact hstays (hpending ▸ hid)
  | bound _ _ _ _ hpending => exact hstays (hpending ▸ hid)
  | checked id' hno hnodes _ hpending =>
    cases hpending.symm.trans hid
    rw [hnodes]
    exact hno
  | deleted _ _ _ _ hpending => nomatch hpending.symm.trans hid

/-- A step keeps the key of a registered id. -/
theorem key_next {c : Concurrent} (h : PendingGone c) (e : ConcurrentStep) {id : UInt32}
    {key : Bytes} (hhas : c.server.nodes.has id = true)
    (hkey : c.server.nodePubKeys.lookup id = some key) :
    (concurrentNext c e).server.nodePubKeys.lookup id = some key := by
  cases stepEffect c e with
  | quiet _ hkeys => rw [hkeys, hkey]
  | wrote _ _ _ _ _ hkeys => rw [hkeys, hkey]
  | reaped _ _ _ hkeys => rw [hkeys, hkey]
  | bound _ _ _ hkeys =>
    rw [hkeys, FiniteMap.lookup_loadOrStore, hkey]
    split_ifs <;> rfl
  | checked _ _ _ hkeys => rw [hkeys, hkey]
  | deleted id' hwas _ hkeys =>
    -- the id whose key is deleted is not registered
    have hne : id ≠ id' := by
      rintro rfl
      rw [h id hwas] at hhas
      nomatch hhas
    rw [hkeys, AList.lookup_erase_ne hne, hkey]

theorem key_run {c : Concurrent} (h : PendingGone c) (es : List ConcurrentStep) {id : UInt32}
    {key : Bytes} (hleave : Transition.Along concurrentNext LeavesPending c es)
    (hhas : Transition.Along concurrentNext (fun c _ => c.server.nodes.has id = true) c es)
    (hkey : c.server.nodePubKeys.lookup id = some key) :
    (Transition.run concurrentNext c es).server.nodePubKeys.lookup id = some key := by
  induction es generalizing c with
  | nil => exact hkey
  | cons e es ih =>
    exact ih (pendingGone_next h hleave.1) hleave.2 hhas.2 (key_next h e hhas.1 hkey)

/-- **A registered id keeps its key.** In every interleaving of Discover handlers, punches and
    reaper in which no id is written to the node table between the reaper's lookup and its
    deletion of that id's key, the key an id has stays the same for as long as the id is
    registered. -/
theorem key_stays_bound (cfg : Config) (peers : List Text) (pre mid : List ConcurrentStep)
    (id : UInt32) (key : Bytes)
    (hleave : Transition.Along concurrentNext LeavesPending (.start cfg peers) (pre ++ mid))
    (hhas : Transition.Along concurrentNext (fun c _ => c.server.nodes.has id = true)
      (Transition.run concurrentNext (.start cfg peers) pre) mid)
    (hkey : (Transition.run concurrentNext (.start cfg peers) pre).server.nodePubKeys.lookup id =
      some key) :
    (Transition.run concurrentNext (.start cfg peers) (pre ++ mid)).server.nodePubKeys.lookup id =
      some key := by
  obtain ⟨hpre, hmid⟩ := (Transition.along_append _).mp hleave
  rw [Transition.run_append]
  have hgone : PendingGone (Transition.run concurrentNext (.start cfg peers) pre) := by
    apply Transition.along_invariant concurrentNext PendingGone _ _ hpre
    · intro id h
      nomatch h
    · exact fun c e he h => pendingGone_next h he
  exact key_run hgone mid hmid hhas hkey

/-! ### The reaper and two Discovers -/

/-- Handler `h` takes a Discover of node 9 with the key that is 32 times `k`. -/
def keyDiscover (h : Nat) (k : UInt8) (now : Int) : List ConcurrentStep :=
  [.note h sampleEnv ([0, 0, 0, 9] ++ List.replicate 32 k) (sampleAddr 10 0 0 k 4000) false,
    .limit h now, .upsert h now]

/-- Another node's Discover under the same id finds the id bound, with the reaper in between. -/
theorem key_stays_bound_keyDiscover :
    (Transition.run concurrentNext (.start sampleConfig [])
      (keyDiscover 0 1 0 ++
        (keyDiscover 1 2 second ++ reapSteps (2 * second) [9]))).server.nodePubKeys.lookup 9 =
      some (List.replicate 32 1) :=
  key_stays_bound sampleConfig [] (keyDiscover 0 1 0)
    (keyDiscover 1 2 second ++ reapSteps (2 * second) [9]) 9 (List.replicate 32 1)
    (by decide +kernel) (by decide +kernel) (by decide +kernel)

/-- Node 9 registers with key 1, is silent for longer than `beaconNodeTTL`, and returns while
    the reaper is between the lookup of its id and the deletion of its key. -/
def returnedInBetween : List ConcurrentStep :=
  keyDiscover 0 1 0 ++ reapStart (601 * second) ++ [.check 9] ++ keyDiscover 0 1 (601 * second)

/-- The key is deleted and another node's Discover, with key 2, arrives. -/
def deletedAndClaimed : List ConcurrentStep := .delete :: keyDiscover 1 2 (602 * second)

/-- From the return of node 9 on its id is registered, but its key is replaced. -/
theorem key_rebound :
    let returned := Transition.run concurrentNext (.start sampleConfig []) returnedInBetween
    returned.server.nodePubKeys.lookup 9 = some (List.replicate 32 1) ∧
      Transition.Along concurrentNext (fun c _ => c.server.nodes.has 9 = true) returned
        deletedAndClaimed ∧
      (Transition.run concurrentNext returned deletedAndClaimed).server.nodes.has 9 = true ∧
      (Transition.run concurrentNext returned deletedAndClaimed).server.nodePubKeys.lookup 9 =
        some (List.replicate 32 2) := by
  decide +kernel

end PilotBeacon
