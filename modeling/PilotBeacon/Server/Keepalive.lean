import PilotBeacon.Server.RouteAge

/-!
# Keepalive

A node that keeps sending Discovers stays registered, although the limiter keeps some of them from
refreshing the time it was last seen. A Discover is only suppressed within `discoverMinInterval` of
one that was not, so that time is never older than the last Discover by more than
`discoverMinInterval`.

- `Dated`: a node was last seen no earlier than the limiter last admitted a Discover of it
- `Alive`: it was last seen no earlier than `discoverMinInterval` before it was last heard
- `keepalive_beats_reaper`: the reaper removes no node that is heard often enough
-/

namespace PilotBeacon

open PilotBeacon.Lib PilotBeacon.Net

/-! ## Discovers of a node -/

/-- The id of a Discover that is admitted by breaker and limiter and finds its shard full. -/
def discoverFull (cfg : Config) (s : Server) (e : Event) : Option UInt32 :=
  match e.act with
  | .packet env data remote _ =>
    match cfg.proto.decode data with
    | .discover body _ =>
      if Server.discoverAdmitted env body = true ∧
          (s.discoverRL.allow (BigEndian.uint32 body) e.now discoverMinInterval).1 = true ∧
          (s.nodes.upsert (BigEndian.uint32 body) remote e.now maxBeaconNodes).atCapacity = true
      then some (BigEndian.uint32 body)
      else none
    | _ => none
  | _ => none

/-- What an event is to the entry of `id` in the limiter. -/
inductive DiscoverEffect (cfg : Config) (id : UInt32) (s : Server) (e : Event) : Prop where
  /-- A Discover of `id` whose endpoint is stored. -/
  | stored (addr : UDPAddr) (hwrite : nodeWrite cfg id s e = [⟨false, addr, e.now⟩])
      (hrl : (next cfg s e).discoverRL.lookup id = some e.now)
  /-- One that finds its shard full. -/
  | full (hfull : discoverFull cfg s e = some id) (hnone : s.nodes.endpoint id = none)
      (hwrite : nodeWrite cfg id s e = [])
      (hrl : (next cfg s e).discoverRL.lookup id = some e.now)
  /-- One that the limiter refuses. -/
  | limited (last : Int) (hlast : s.discoverRL.lookup id = some last)
      (hrecent : e.now - last < discoverMinInterval) (hwrite : nodeWrite cfg id s e = [])
      (hrl : (next cfg s e).discoverRL.lookup id = some last)
  /-- Something else, after which the entry is gone or still there. -/
  | other (hother : ¬ (discoverFor cfg e = some id ∧ e.BreakerClosed))
      (hrl : ∀ t, (next cfg s e).discoverRL.lookup id = some t → s.discoverRL.lookup id = some t)

section

variable {cfg : Config} {id : UInt32} {s : Server} {e : Event} {t now : Int}

/-- The three ways of an admitted Discover. -/
theorem discoverEffect_packet {env : Env} {data : Bytes} {remote : UDPAddr} {bridgePeer : UInt32}
    {body : Bytes} {wantDest : Bool}
    (hdec : cfg.proto.decode data = .discover body wantDest)
    (hadm : Server.discoverAdmitted env body = true) :
    DiscoverEffect cfg (BigEndian.uint32 body) s ⟨now, .packet env data remote bridgePeer⟩ := by
  have hfor : discoverFor cfg ⟨now, .packet env data remote bridgePeer⟩ = _ :=
    discoverFor_packet remote bridgePeer hdec hadm
  have hclosed : Event.BreakerClosed ⟨now, .packet env data remote bridgePeer⟩ :=
    (Server.discoverAdmitted_iff.mp hadm).2
  cases hallow : (s.discoverRL.allow (BigEndian.uint32 body) now discoverMinInterval).1 with
  | false =>
    obtain ⟨last, hlast, hrecent⟩ := Limiter.lookup_of_intervalAllow_false hallow
    refine .limited last hlast hrecent ?_ ?_
    · simp [nodeWrite, hdec, hallow]
    · rw [discoverRL_next hfor hclosed, ← hlast]
      exact congrArg (fun m => ShardedMap.lookup m _) (Limiter.intervalAllow_false hallow)
  | true =>
    have hrl := (limiter_of_allowed hfor hclosed hallow).1
    cases hcap : (s.nodes.upsert (BigEndian.uint32 body) remote now maxBeaconNodes).atCapacity with
    | false =>
      refine .stored remote ?_ hrl
      simp [nodeWrite, hdec, hadm, hallow, hcap]
    | true =>
      refine .full ?_ ?_ ?_ hrl
      · simp [discoverFull, hdec, hadm, hallow, hcap]
      · rw [NodeMap.endpoint, (NodeMap.upsert_atCapacity hcap).2]
        rfl
      · simp [nodeWrite, hdec, hcap]

/-- A Discover that finds its shard full is one that breaker and limiter let in. -/
theorem discoverFull_admitted (h : discoverFull cfg s e = some id) :
    discoverFor cfg e = some id ∧ e.BreakerClosed ∧
      (s.discoverRL.allow id e.now discoverMinInterval).1 = true := by
  obtain ⟨now, act⟩ := e
  unfold discoverFull at h
  cases act with
  | packet env data remote bridgePeer =>
    dsimp only at h
    cases hdec : cfg.proto.decode data with
    | discover body wantDest =>
      simp only [hdec] at h
      split_ifs at h with hfull
      cases h
      exact ⟨discoverFor_packet remote bridgePeer hdec hfull.1,
        (Server.discoverAdmitted_iff.mp hfull.1).2, hfull.2.1⟩
    | _ => simp [hdec] at h
  | _ => simp at h

/-- The limiter remembers it. -/
theorem limiter_of_discoverFull (h : discoverFull cfg s e = some id) :
    (next cfg s e).discoverRL.lookup id = some e.now ∧
      ∀ t, s.discoverRL.lookup id = some t → t + discoverMinInterval ≤ e.now := by
  obtain ⟨hfor, hclosed, hallow⟩ := discoverFull_admitted h
  exact limiter_of_allowed hfor hclosed hallow

/-- **What an event is to a node's entry in the limiter.** -/
theorem discoverEffect (cfg : Config) (id : UInt32) (s : Server) (e : Event) :
    DiscoverEffect cfg id s e := by
  by_cases hheard : discoverFor cfg e = some id ∧ e.BreakerClosed
  · obtain ⟨now, act⟩ := e
    obtain ⟨_, _, _, _, _, _, hact, hdec, hadm, hid⟩ := discoverFor_admitted hheard.1 hheard.2
    cases hact
    exact hid ▸ discoverEffect_packet hdec hadm
  · exact .other hheard fun t ht => lookup_discoverRL_other hheard ht

/-! ## Dates -/

/-- The entry of `id` and its time in the limiter are no later than now, and the entry is no
    earlier than the limiter's. -/
structure Dated (id : UInt32) (s : Server) (now : Int) : Prop where
  entry : ∀ p, s.nodes.endpoint id = some p → p.2 ≤ now
  limiter : ∀ t, s.discoverRL.lookup id = some t →
    t ≤ now ∧ ∀ p, s.nodes.endpoint id = some p → t ≤ p.2

theorem Dated.mono (h : Dated id s now) {now' : Int} (hle : now ≤ now') : Dated id s now' where
  entry := fun p hp => (h.entry p hp).trans hle
  limiter := fun t ht => ⟨(h.limiter t ht).1.trans hle, (h.limiter t ht).2⟩

/-- The entry after an event: as before, or written now. -/
theorem endpoint_next_cases {p : UDPAddr × Int} (h : (next cfg s e).nodes.endpoint id = some p) :
    nodeWrite cfg id s e ≠ [] ∧ p.2 = e.now ∨
      nodeWrite cfg id s e = [] ∧ s.nodes.endpoint id = some p := by
  rw [endpoint_next] at h
  rcases nodeWrite_cases cfg id s e with hnone | ⟨w, hw, htime⟩
  · right
    refine ⟨hnone, ?_⟩
    rw [hnone] at h
    cases hact : e.act with
    | reap =>
      simp only [hact] at h
      exact (Option.filter_eq_some_iff.mp h).1
    | _ =>
      simp only [hact] at h
      exact h
  · left
    rw [hw] at h
    cases h
    exact ⟨by simp [hw], htime⟩

theorem Dated.next (h : Dated id s e.now) : Dated id (next cfg s e) e.now := by
  constructor
  · intro p hp
    rcases endpoint_next_cases hp with ⟨-, hnow⟩ | ⟨-, hp⟩
    · exact hnow.le
    · exact h.entry p hp
  · -- a time that was in the limiter before
    have hold : ∀ t, s.discoverRL.lookup id = some t →
        t ≤ e.now ∧ ∀ p, (PilotBeacon.next cfg s e).nodes.endpoint id = some p → t ≤ p.2 := by
      intro t ht
      obtain ⟨hle, hentry⟩ := h.limiter t ht
      refine ⟨hle, fun p hp => ?_⟩
      rcases endpoint_next_cases hp with ⟨-, hnow⟩ | ⟨-, hp⟩
      · exact hle.trans hnow.ge
      · exact hentry p hp
    intro t ht
    cases discoverEffect cfg id s e with
    | stored addr hwrite hrl =>
      cases hrl.symm.trans ht
      refine ⟨le_rfl, fun p hp => ?_⟩
      rcases endpoint_next_cases hp with ⟨-, hnow⟩ | ⟨hnone, -⟩
      · exact hnow.ge
      · nomatch hwrite.symm.trans hnone
    | full hfull hnone hwrite hrl =>
      cases hrl.symm.trans ht
      refine ⟨le_rfl, fun p hp => ?_⟩
      rcases endpoint_next_cases hp with ⟨-, hnow⟩ | ⟨-, hp⟩
      · exact hnow.ge
      · nomatch hnone.symm.trans hp
    | limited last hlast _ _ hrl =>
      cases hrl.symm.trans ht
      exact hold _ hlast
    | other _ hrl => exact hold t (hrl t ht)

/-! ## Keepalive -/

/-- `id` is registered, and was last seen no earlier than `discoverMinInterval` before `t`. -/
def Alive (id : UInt32) (t : Int) (s : Server) : Prop :=
  ∃ p, s.nodes.endpoint id = some p ∧ t ≤ p.2 + discoverMinInterval

/-- When `id` was last heard, after an event, if it was last heard at `t` before it. -/
def heard (cfg : Config) (id : UInt32) (t : Int) (e : Event) : Int :=
  if discoverFor cfg e = some id then e.now else t

/-- An entry that no event older than `beaconNodeTTL` reaches is kept or written. -/
theorem endpoint_kept (cfg : Config) {p : UDPAddr × Int} (h : s.nodes.endpoint id = some p)
    (hfresh : e.now - beaconNodeTTL ≤ p.2) :
    ∃ p', (next cfg s e).nodes.endpoint id = some p' ∧
      (p'.2 = e.now ∨ nodeWrite cfg id s e = [] ∧ p' = p) := by
  cases hafter : (next cfg s e).nodes.endpoint id with
  | none =>
    -- only the reaper could have removed it
    have hold := (endpoint_lost h hafter).2
    omega
  | some p' =>
    refine ⟨p', rfl, (endpoint_next_cases hafter).imp And.right ?_⟩
    rintro ⟨hnone, hsame⟩
    exact ⟨hnone, Option.some_inj.mp (hsame.symm.trans h)⟩

/-- An event that comes soon enough after the node was last heard. -/
theorem Alive.next (cfg : Config) (h : Alive id t s) (hdated : Dated id s e.now) (ht : t ≤ e.now)
    (hclosed : e.BreakerClosed) (hsoon : e.now - t + discoverMinInterval ≤ beaconNodeTTL) :
    Alive id (heard cfg id t e) (next cfg s e) := by
  obtain ⟨p, hp, hseen⟩ := h
  obtain ⟨p', hp', hcase⟩ := endpoint_kept cfg (e := e) hp (by omega)
  refine ⟨p', hp', ?_⟩
  have hpos : 0 < discoverMinInterval := by decide
  rcases hcase with hnow | ⟨hnone, rfl⟩
  · unfold heard
    split_ifs <;> omega
  · unfold heard
    split_ifs with hfor
    · -- a Discover that did not refresh the entry was refused, by one it has outlived
      cases discoverEffect cfg id s e with
      | stored addr hwrite _ => nomatch hwrite.symm.trans hnone
      | full _ hno _ _ => nomatch hno.symm.trans hp
      | limited last hlast hrecent _ _ =>
        have := (hdated.limiter last hlast).2 p' hp
        omega
      | other hother _ => exact absurd ⟨hfor, hclosed⟩ hother
    · exact hseen

end

/-- Whenever something happens, `id` was last heard at most `gap` before; `t` is when it was
    heard before the events. -/
def GapsAtMost (cfg : Config) (id : UInt32) (gap : Int) : Int → List Event → Prop
  | _, [] => True
  | t, e :: es => e.now - t ≤ gap ∧ GapsAtMost cfg id gap (heard cfg id t e) es

instance GapsAtMost.decidable (cfg : Config) (id : UInt32) (gap : Int) :
    ∀ (t : Int) (es : List Event), Decidable (GapsAtMost cfg id gap t es)
  | _, [] => inferInstanceAs (Decidable True)
  | t, e :: es =>
    @instDecidableAnd _ _ _ (GapsAtMost.decidable cfg id gap (heard cfg id t e) es)

theorem dated_run (cfg : Config) (peers : List Text) (id : UInt32) {es : List Event}
    (hclock : ClockMonotone es) {now : Int} (hnow : ∀ e ∈ es, e.now ≤ now) :
    Dated id (runFrom cfg peers es) now := by
  apply clock_induction cfg peers (fun _ now s => Dated id s now) _ _ _ hclock hnow
  · intro now
    refine ⟨fun p hp => ?_, fun t ht => ?_⟩
    · simp [newWithPeers, NodeMap.endpoint] at hp
    · simp [newWithPeers] at ht
  · exact fun es s now now' hle h => h.mono hle
  · exact fun es e h => h.next

/-- A node that is heard often enough is alive all the time. -/
theorem alive_run {cfg : Config} {peers : List Text} {id : UInt32} {gap t : Int}
    (hgap : gap + discoverMinInterval ≤ beaconNodeTTL) {pre es : List Event}
    (hclock : ClockMonotone (pre ++ es)) (hbreaker : ∀ e ∈ es, e.BreakerClosed)
    (ht : ∀ e ∈ es, t ≤ e.now) (hgaps : GapsAtMost cfg id gap t es)
    (halive : Alive id t (runFrom cfg peers pre)) :
    ∃ t', Alive id t' (runFrom cfg peers (pre ++ es)) := by
  induction es generalizing pre t with
  | nil => exact ⟨t, by simpa using halive⟩
  | cons e es ih =>
    obtain ⟨hpre, hes, hle⟩ := clockMonotone_append.mp hclock
    have hdated : Dated id (runFrom cfg peers pre) e.now :=
      dated_run cfg peers id hpre fun x hx => hle x hx e (by simp)
    have hte := ht e (by simp)
    have hnext := halive.next cfg hdated hte (hbreaker e (by simp))
      (by have := hgaps.1; omega)
    have hclock' : ClockMonotone ((pre ++ [e]) ++ es) := by simpa using hclock
    have hrun : runFrom cfg peers (pre ++ [e]) = next cfg (runFrom cfg peers pre) e :=
      Transition.run_concat _ _ _ _
    have hlater : ∀ x ∈ es, e.now ≤ x.now := by
      intro x hx
      exact (List.pairwise_cons.mp hes).1 x.now (List.mem_map_of_mem hx)
    have hheard : ∀ x ∈ es, heard cfg id t e ≤ x.now := by
      intro x hx
      unfold heard
      split_ifs
      · exact hlater x hx
      · exact hte.trans (hlater x hx)
    have := ih hclock' (fun x hx => hbreaker x (by simp [hx])) hheard hgaps.2 (hrun ▸ hnext)
    simpa using this

theorem GapsAtMost.of_append {cfg : Config} {id : UInt32} {gap t : Int} {es es' : List Event}
    (h : GapsAtMost cfg id gap t (es ++ es')) : GapsAtMost cfg id gap t es := by
  induction es generalizing t with
  | nil => trivial
  | cons e es ih => exact ⟨h.1, ih h.2⟩

/-- A reap that leaves `id` registered leaves everything about it. -/
theorem reap_of_alive {s : Server} {id : UInt32} {now : Int}
    (h : (s.reapStaleNodes now).nodes.has id = true) :
    (s.reapStaleNodes now).nodes.get id = s.nodes.get id ∧
      (s.reapStaleNodes now).nodePubKeys.lookup id = s.nodePubKeys.lookup id ∧
      (s.reapStaleNodes now).dstNodes.lookup id = s.dstNodes.lookup id := by
  refine ⟨?_, ?_, ?_⟩
  · obtain ⟨n, hn⟩ := (NodeMap.has_iff _ _).mp h
    rw [NodeMap.get, hn]
    rw [Server.reapStaleNodes_nodes, NodeMap.lookup_reapStale, Option.filter_eq_some_iff] at hn
    exact hn.1.symm
  · rw [Server.lookup_nodePubKeys_reap, if_pos h]
  · rw [Server.lookup_dstNodes_reap, if_pos h]

/-- **Keepalive beats the reaper.** If a registered node is heard with gaps of at most `gap` from
    the time it was last seen on, and `gap + discoverMinInterval` is within `beaconNodeTTL`, no reap
    takes its entry, its key or its mark. -/
theorem keepalive_beats_reaper (cfg : Config) (peers : List Text) (id : UInt32) (gap : Int)
    (hgap : gap + discoverMinInterval ≤ beaconNodeTTL) (pre es : List Event) (n : BeaconNode)
    (hclock : ClockMonotone (pre ++ es)) (hbreaker : ∀ e ∈ es, e.BreakerClosed)
    (hreg : (runFrom cfg peers pre).nodes.get id = some n)
    (hgaps : GapsAtMost cfg id gap n.lastSeen es) :
    ∀ mid e post, es = mid ++ e :: post → e.act = .reap →
      let before := runFrom cfg peers (pre ++ mid)
      let after := runFrom cfg peers (pre ++ mid ++ [e])
      (before.nodes.get id).isSome = true ∧ after.nodes.get id = before.nodes.get id ∧
        after.nodePubKeys.lookup id = before.nodePubKeys.lookup id ∧
        after.dstNodes.lookup id = before.dstNodes.lookup id := by
  rintro mid e post rfl hreap
  have hentry : (runFrom cfg peers pre).nodes.endpoint id = some (n.addr, n.lastSeen) := by
    rw [NodeMap.endpoint]
    exact congrArg _ hreg
  -- it was last seen no later than the events before, and is heard from then on
  obtain ⟨hpre, -, hle⟩ := clockMonotone_append.mp hclock
  have hseen : ∀ x ∈ mid ++ e :: post, n.lastSeen ≤ x.now := by
    intro x hx
    exact (dated_run cfg peers id hpre fun y hy => hle y hy x hx).entry _ hentry
  have halive : Alive id n.lastSeen (runFrom cfg peers pre) := by
    refine ⟨_, hentry, ?_⟩
    have hpos : 0 < discoverMinInterval := by decide
    dsimp only
    omega
  have hprefix : ∀ es es', mid ++ e :: post = es ++ es' →
      (runFrom cfg peers (pre ++ es)).nodes.has id = true := by
    intro es es' hsplit
    rw [hsplit] at hclock hbreaker hgaps hseen
    rw [← List.append_assoc] at hclock
    obtain ⟨t, p, hp, -⟩ := alive_run hgap (clockMonotone_append.mp hclock).1
      (fun x hx => hbreaker x (by simp [hx])) (fun x hx => hseen x (by simp [hx]))
      hgaps.of_append halive
    rw [NodeMap.has_eq_isSome_endpoint, hp]
    rfl
  have hbefore := hprefix mid (e :: post) rfl
  have hafter := hprefix (mid ++ [e]) post (by simp)
  have hstep : runFrom cfg peers (pre ++ mid ++ [e]) =
      (runFrom cfg peers (pre ++ mid)).reapStaleNodes e.now := by
    rw [runFrom, Transition.run_concat]
    simp only [next, step, hreap]
    rfl
  rw [← List.append_assoc, hstep] at hafter
  dsimp only
  rw [hstep]
  exact ⟨hbefore, reap_of_alive hafter⟩

/-- A DiscoverEx of node 9 with its key. -/
def boundDiscover (now : Int) : Event :=
  sampleDatagram now (sampleAddr 10 0 0 9 4000) ([0x08, 0, 0, 0, 9] ++ List.replicate 32 1)

/-- A Discover too soon after it, the longest silence allowed after that, and two reaps. -/
def quietNode : List Event :=
  [boundDiscover (29 * second), ⟨599 * second, .reap⟩, boundDiscover (599 * second),
    ⟨660 * second, .reap⟩]

theorem quietNode_kept :
    let before := runFrom sampleConfig [] ([boundDiscover 0] ++ quietNode.take 1)
    let after := runFrom sampleConfig [] ([boundDiscover 0] ++ quietNode.take 1 ++
      [⟨599 * second, .reap⟩])
    (before.nodes.get 9).isSome = true ∧ after.nodes.get 9 = before.nodes.get 9 ∧
      after.nodePubKeys.lookup 9 = before.nodePubKeys.lookup 9 ∧
      after.dstNodes.lookup 9 = before.dstNodes.lookup 9 :=
  keepalive_beats_reaper sampleConfig [] 9 (570 * second) (by decide) [boundDiscover 0] quietNode
    ⟨sampleAddr 10 0 0 9 4000, 0, none⟩ (by decide) (by decide) (by decide +kernel)
    (by decide +kernel) (quietNode.take 1) ⟨599 * second, .reap⟩ (quietNode.drop 2) rfl rfl

end PilotBeacon
