import PilotBeacon.Server.Beacon

/-!
# Spacing of Notifies

A node is to be notified at most once in `notifyMinInterval`. The time of the last notify is
kept in the node's entry of the node table; registering again keeps it, but the reaper drops the
entry with it. A notify does not count as seeing the node, so it may well be the last thing
that happens to an entry.

- `lastNotified_next`: what an event does to the time kept for a node
- `notifies_spaced`: if no reap drops a time that still counts, the notifies are spaced
- `earlyNotify`: a run in which a reap does
-/

namespace PilotBeacon

open PilotBeacon.Lib PilotBeacon.Net

/-! ## The time of the last notify -/

/-- The time of the last notify that is kept for a node. -/
def NodeMap.lastNotified (m : NodeMap) (id : UInt32) : Option Int :=
  (m.lookup id).bind BeaconNode.lastNotify

/-- Registering, for the first time or again, leaves what is known of notifies. -/
theorem NodeMap.lastNotified_upsert (m : NodeMap) (id id' : UInt32) (addr : UDPAddr) (now : Int)
    (maxTotal : Nat) :
    (m.upsert id' addr now maxTotal).nodes.lastNotified id = m.lastNotified id := by
  by_cases hid : id = id'
  · subst hid
    unfold upsert lastNotified
    cases hl : m.lookup id with
    | some n =>
      dsimp only
      rw [ShardedMap.lookup_insert_self]
      rfl
    | none =>
      dsimp only
      split_ifs
      · rw [hl]
      · rw [ShardedMap.lookup_insert_self]
        rfl
  · rw [lastNotified, m.lookup_upsert_of_ne addr now maxTotal hid, lastNotified]

/-- A notify of `id` goes out now: the beacon listens, the node is registered, and what is kept
    of its last notify does not forbid one. -/
def notifySends (s : Server) (id : UInt32) (now : Int) : Bool :=
  s.conn.isSome && s.nodes.has id &&
    !(s.nodes.lastNotified id).any fun last => now - last < notifyMinInterval

section

variable {cfg : Config} {s : Server} {id : UInt32} {now : Int}

/-- A notify that goes out is recorded in the node's entry. -/
theorem notifyNode_sends (h : notifySends s id now = true) :
    ∃ n, s.nodes.lookup id = some n ∧ s.notifyNode id now =
      ({ s with nodes := s.nodes.insert id { n with lastNotify := some now } },
        [⟨n.addr, [msgNotify, notifyKindHandshake]⟩], none) := by
  unfold notifySends NodeMap.has NodeMap.lastNotified at h
  rw [Bool.and_eq_true, Bool.and_eq_true] at h
  obtain ⟨⟨hconn, hreg⟩, hfree⟩ := h
  obtain ⟨n, hn⟩ := Option.isSome_iff_exists.mp hreg
  rw [hn, Option.bind_some, Bool.not_eq_true'] at hfree
  have hlisten : ¬ s.conn.isNone = true := fun hnone =>
    Option.isSome_iff_ne_none.mp hconn (Option.isNone_iff_eq_none.mp hnone)
  refine ⟨n, hn, ?_⟩
  unfold Server.notifyNode NodeMap.claimNotify
  rw [hn]
  dsimp only
  rw [hfree, if_neg Bool.false_ne_true, if_neg hlisten]

/-- Any other notify does nothing at all. -/
theorem notifyNode_silent (h : notifySends s id now = false) :
    (s.notifyNode id now).1 = s ∧ (s.notifyNode id now).2.1 = [] := by
  unfold Server.notifyNode NodeMap.claimNotify
  by_cases hconn : s.conn.isNone = true
  · rw [if_pos hconn]
    exact ⟨rfl, rfl⟩
  rw [if_neg hconn]
  cases hn : s.nodes.lookup id with
  | none => exact ⟨rfl, rfl⟩
  | some n =>
    have hthr : (n.lastNotify.any fun last => decide (now - last < notifyMinInterval)) = true := by
      unfold notifySends NodeMap.has NodeMap.lastNotified at h
      rw [hn] at h
      simpa [Option.isSome_iff_ne_none, ← Option.isNone_iff_eq_none, hconn] using h
    dsimp only
    rw [if_pos hthr]
    exact ⟨rfl, rfl⟩

/-- The times of the notifies to `id` that an event sends. -/
def notifySent (id : UInt32) (s : Server) (e : Event) : List Int :=
  match e.act with
  | .notify nodeID => if nodeID = id ∧ (s.notifyNode nodeID e.now).2.1 ≠ [] then [e.now] else []
  | _ => []

theorem pairwise_notifySent (R : Int → Int → Prop) (id : UInt32) (s : Server) (e : Event) :
    (notifySent id s e).Pairwise R := by
  unfold notifySent
  split
  · split_ifs
    · exact List.pairwise_singleton R _
    · exact List.Pairwise.nil
  · exact List.Pairwise.nil

theorem notifySent_notify (s : Server) (id' : UInt32) : notifySent id s ⟨now, .notify id'⟩ =
    if id' = id ∧ notifySends s id now = true then [now] else [] := by
  unfold notifySent
  dsimp only
  by_cases hid : id' = id
  · subst hid
    cases hsends : notifySends s id' now with
    | true =>
      obtain ⟨n, -, h⟩ := notifyNode_sends hsends
      rw [h]
      simp
    | false =>
      rw [(notifyNode_silent hsends).2]
      simp
  · rw [if_neg (fun h => hid h.1), if_neg (fun h => hid h.1)]

/-- A notify that goes out sets the time kept for its node. -/
theorem lastNotified_notifyNode (s : Server) (id' : UInt32) :
    (s.notifyNode id' now).1.nodes.lastNotified id =
      if id' = id ∧ notifySends s id now = true then some now else s.nodes.lastNotified id := by
  cases hsends : notifySends s id' now with
  | false =>
    rw [(notifyNode_silent hsends).1, if_neg]
    rintro ⟨rfl, h⟩
    exact Bool.false_ne_true (hsends.symm.trans h)
  | true =>
    obtain ⟨n, -, h⟩ := notifyNode_sends hsends
    rw [h, NodeMap.lastNotified]
    dsimp only
    by_cases hid : id' = id
    · subst hid
      rw [if_pos ⟨rfl, hsends⟩, ShardedMap.lookup_insert_self]
      rfl
    · rw [if_neg fun h => hid h.1, ShardedMap.lookup_insert_of_ne _ _ (Ne.symm hid)]
      rfl

/-- **What an event does to the time kept for a node**: a notify sets it, and a reap that finds
    the node stale drops it. -/
theorem lastNotified_next (cfg : Config) (s : Server) (e : Event) (id : UInt32) :
    (next cfg s e).nodes.lastNotified id =
      match e.act with
      | .notify id' =>
        if id' = id ∧ notifySends s id e.now = true then some e.now else s.nodes.lastNotified id
      | .reap =>
        ((s.nodes.lookup id).filter fun n => !decide (n.lastSeen < e.now - beaconNodeTTL)).bind
          BeaconNode.lastNotify
      | _ => s.nodes.lastNotified id := by
  have hnodes : (next cfg s e).nodes = (next cfg s e).tables.nodes := rfl
  rw [hnodes, next_tables]
  cases e.act with
  | packet env data remote bridgePeer =>
    dsimp only
    cases cfg.proto.decode data with
    | discover body wantDest =>
      dsimp only
      split_ifs
      · exact NodeMap.lastNotified_upsert _ _ _ _ _ _
      · rfl
    | punchRequest body =>
      dsimp only
      split_ifs
      · exact NodeMap.lastNotified_upsert _ _ _ _ _ _
      · rfl
    | _ => rfl
  | reap =>
    dsimp only [Server.tables]
    rw [Server.reapStaleNodes_nodes, NodeMap.lastNotified, NodeMap.lookup_reapStale]
  | notify id' => exact lastNotified_notifyNode s id'
  | _ => rfl

end

/-! ## Runs -/

/-- The times at which notifies were sent to `id` along a run. -/
def notifyTimes (cfg : Config) (peers : List Text) (id : UInt32) (es : List Event) : List Int :=
  Transition.observe (next cfg) (notifySent id) (newWithPeers cfg peers) es

/-- Each two notifies to `id` are `notifyMinInterval` apart. -/
def NotifiesSpaced (cfg : Config) (peers : List Text) (id : UInt32) (es : List Event) : Prop :=
  (notifyTimes cfg peers id es).Pairwise fun t t' => t + notifyMinInterval ≤ t'

/-- A reap does not drop the entry of `id` within `notifyMinInterval` of a notify. -/
def ReapSpares (id : UInt32) (s : Server) (e : Event) : Prop :=
  match e.act with
  | .reap => ∀ n ∈ s.nodes.lookup id, n.lastSeen < e.now - beaconNodeTTL →
    ∀ t ∈ n.lastNotify, t + notifyMinInterval ≤ e.now
  | _ => True

instance (id : UInt32) (s : Server) : (e : Event) → Decidable (ReapSpares id s e)
  | ⟨now, .reap⟩ => inferInstanceAs (Decidable (∀ n ∈ s.nodes.lookup id,
      n.lastSeen < now - beaconNodeTTL → ∀ t ∈ n.lastNotify, t + notifyMinInterval ≤ now))
  | ⟨_, .packet _ _ _ _⟩ | ⟨_, .listen _⟩ | ⟨_, .worker _ _⟩ | ⟨_, .gossip _⟩ | ⟨_, .notify _⟩
  | ⟨_, .registry _⟩ | ⟨_, .close⟩ => inferInstanceAs (Decidable True)

/-- Each notify that was sent is in the entry, or followed there by a later one, or so long ago
    that it no longer counts. -/
def NotifiesKept (sent : List Int) (id : UInt32) (now : Int) (s : Server) : Prop :=
  ∀ t ∈ sent, (∃ last, s.nodes.lastNotified id = some last ∧ t ≤ last) ∨
    t + notifyMinInterval ≤ now

section

variable {cfg : Config} {s : Server} {id : UInt32} {sent : List Int}

theorem NotifiesKept.wait {now now' : Int} (hle : now ≤ now') (h : NotifiesKept sent id now s) :
    NotifiesKept sent id now' s := by
  intro t ht
  rcases h t ht with hlast | hold
  · exact Or.inl hlast
  · exact Or.inr (by omega)

/-- When a notify goes out, those before it are old. -/
theorem NotifiesKept.old {now : Int} (h : NotifiesKept sent id now s)
    (hsends : notifySends s id now = true) : ∀ t ∈ sent, t + notifyMinInterval ≤ now := by
  intro t ht
  rcases h t ht with ⟨last, hlast, hle⟩ | hold
  · unfold notifySends at hsends
    rw [hlast, Bool.and_eq_true, Bool.not_eq_true', Option.any_some,
      decide_eq_false_iff_not] at hsends
    omega
  · exact hold

theorem NotifiesKept.congr {now : Int} {s' : Server} (h : NotifiesKept sent id now s)
    (hlast : s'.nodes.lastNotified id = s.nodes.lastNotified id) :
    NotifiesKept sent id now s' := by
  unfold NotifiesKept
  rw [hlast]
  exact h

/-- The notify that goes out is kept itself. -/
theorem NotifiesKept.notified {now : Int} {s' : Server} (h : NotifiesKept sent id now s)
    (hsends : notifySends s id now = true) (hlast : s'.nodes.lastNotified id = some now) :
    NotifiesKept (sent ++ [now]) id now s' := by
  intro t ht
  rcases List.mem_append.mp ht with ht | ht
  · exact Or.inr (h.old hsends t ht)
  · exact Or.inl ⟨now, hlast, by rw [List.mem_singleton.mp ht]⟩

/-- What a reap drops is the time of a notify that no longer counts. -/
theorem NotifiesKept.reaped {now : Int} {s' : Server} (h : NotifiesKept sent id now s)
    (hspare : ReapSpares id s ⟨now, .reap⟩)
    (hlast : s'.nodes.lastNotified id = ((s.nodes.lookup id).filter fun n =>
      !decide (n.lastSeen < now - beaconNodeTTL)).bind BeaconNode.lastNotify) :
    NotifiesKept sent id now s' := by
  intro t ht
  rcases h t ht with ⟨last, hkept, hle⟩ | hold
  · obtain ⟨n, hn, hnl⟩ := Option.bind_eq_some_iff.mp hkept
    by_cases hstale : n.lastSeen < now - beaconNodeTTL
    · have hgap := hspare n hn hstale last hnl
      exact Or.inr (Int.le_trans (Int.add_le_add_right hle _) hgap)
    · refine Or.inl ⟨last, ?_, hle⟩
      rw [hlast, hn, Option.filter_some, if_pos (by simpa using hstale), Option.bind_some, hnl]
  · exact Or.inr hold

/-- **One event.** What it sends is spaced from what was sent before, and is kept. -/
theorem NotifiesKept.next {e : Event} (hspare : ReapSpares id s e)
    (h : NotifiesKept sent id e.now s) :
    (∀ t ∈ sent, ∀ t' ∈ notifySent id s e, t + notifyMinInterval ≤ t') ∧
      NotifiesKept (sent ++ notifySent id s e) id e.now (next cfg s e) := by
  obtain ⟨now, act⟩ := e
  have hlast := lastNotified_next cfg s ⟨now, act⟩ id
  cases act with
  | notify id' =>
    rw [notifySent_notify]
    dsimp only at hlast
    by_cases hsends : id' = id ∧ notifySends s id now = true
    · rw [if_pos hsends]
      rw [if_pos hsends] at hlast
      refine ⟨fun t ht t' ht' => ?_, h.notified hsends.2 hlast⟩
      rw [List.mem_singleton.mp ht']
      exact h.old hsends.2 t ht
    · rw [if_neg hsends, List.append_nil]
      rw [if_neg hsends] at hlast
      exact ⟨fun _ _ _ ht' => absurd ht' List.not_mem_nil, h.congr hlast⟩
  | reap =>
    rw [notifySent, List.append_nil]
    exact ⟨fun _ _ _ ht' => absurd ht' List.not_mem_nil, h.reaped hspare hlast⟩
  | _ =>
    rw [notifySent, List.append_nil]
    exact ⟨fun _ _ _ ht' => absurd ht' List.not_mem_nil, h.congr hlast⟩

end

/-- **Spacing of notifies.** Along every run with a clock that does not go back, in which no
    reap drops the entry of `id` within `notifyMinInterval` of a notify to it, the notifies to
    `id` are `notifyMinInterval` apart. -/
theorem notifies_spaced (cfg : Config) (peers : List Text) (id : UInt32) {es : List Event}
    (hclock : ClockMonotone es)
    (hspare : Transition.Along (next cfg) (ReapSpares id) (newWithPeers cfg peers) es) :
    NotifiesSpaced cfg peers id es := by
  obtain ⟨now, hnow⟩ := exists_clock_bound es
  -- spaced so far, and nothing that still counts is forgotten
  have h := clock_induction cfg peers (fun es now s =>
    Transition.Along (next cfg) (ReapSpares id) (newWithPeers cfg peers) es →
      NotifiesSpaced cfg peers id es ∧ NotifiesKept (notifyTimes cfg peers id es) id now s)
    ?_ ?_ ?_ hclock hnow
  · exact (h hspare).1
  · intro now _
    exact ⟨List.Pairwise.nil, fun t ht => absurd ht List.not_mem_nil⟩
  · intro es s now now' hle h hspare
    exact ⟨(h hspare).1, (h hspare).2.wait hle⟩
  · intro es e h hspare
    obtain ⟨hpre, he, -⟩ := (Transition.along_append (next cfg)).mp hspare
    obtain ⟨hspaced, hkept⟩ := h hpre
    obtain ⟨hgap, hkept'⟩ := @NotifiesKept.next cfg _ _ _ _ he hkept
    have htimes : notifyTimes cfg peers id (es ++ [e]) =
        notifyTimes cfg peers id es ++ notifySent id (runFrom cfg peers es) e :=
      Transition.observe_concat (next cfg) (notifySent id) (newWithPeers cfg peers) es e
    rw [NotifiesSpaced, htimes, List.pairwise_append]
    exact ⟨⟨hspaced, pairwise_notifySent _ _ _ _, hgap⟩, hkept'⟩

/-- Node 7 registers and is notified ten minutes later. -/
def lateNotify : List Event :=
  nodeSeven ++ [⟨601 * second + 500000000, .notify 7⟩]

/-- The reaper drops the node a second later, and the node comes back. -/
def spacedNotify : List Event :=
  lateNotify ++
    [⟨602 * second + 500000000, .reap⟩,
      sampleDatagram (602 * second + 600000000) (sampleAddr 10 0 0 1 4000) [0x01, 0, 0, 0, 7],
      ⟨602 * second + 700000000, .notify 7⟩]

theorem spacedNotify_spaced : NotifiesSpaced sampleConfig [] 7 spacedNotify ∧
    notifyTimes sampleConfig [] 7 spacedNotify =
      [601 * second + 500000000, 602 * second + 700000000] :=
  ⟨notifies_spaced sampleConfig [] 7 (by decide +kernel) (by decide +kernel), by decide +kernel⟩

/-- The reaper runs right after the notify, and the node comes back. -/
def earlyNotify : List Event :=
  lateNotify ++
    [⟨601 * second + 600000000, .reap⟩,
      sampleDatagram (601 * second + 700000000) (sampleAddr 10 0 0 1 4000) [0x01, 0, 0, 0, 7],
      ⟨601 * second + 800000000, .notify 7⟩]

/-- **The reaper forgets a notify**: the node is notified twice within 0.3 seconds. -/
theorem earlyNotify_not_spaced : ClockMonotone earlyNotify ∧
    notifyTimes sampleConfig [] 7 earlyNotify =
      [601 * second + 500000000, 601 * second + 800000000] ∧
    ¬ NotifiesSpaced sampleConfig [] 7 earlyNotify := by
  have htimes : notifyTimes sampleConfig [] 7 earlyNotify =
      [601 * second + 500000000, 601 * second + 800000000] := by decide +kernel
  refine ⟨by decide +kernel, htimes, ?_⟩
  rw [NotifiesSpaced, htimes]
  decide

end PilotBeacon
