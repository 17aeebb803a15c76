import PilotBeacon.WSS.Listener

/-!
# The Cap on WSS Connections (`Config.MaxPeers`)

The cap is checked when a request arrives and the connection is put into the map after the
handshake, so the check says nothing about the map at the time of the install. The cap holds
along a run exactly when every install still finds room or replaces a connection of its own
node.

- `peerCount_install`, `peerCount_step_le`: what a step does to the number of entries
- `within_maxPeers_iff`: when the cap holds
- `overlapping_handshakes_exceed_maxPeers`: two handshakes side by side break it
-/

namespace PilotBeacon.WSS

open PilotBeacon.Lib

/-! ## The number of entries -/

namespace Server

theorem peerCount_of_closed {s : Server} (h : s.closed = true) : s.peerCount = 0 := by
  rw [peerCount, s.nil_iff.mpr h]
  rfl

/-- Only a node that has no entry yet adds one. -/
theorem peerCount_file {s : Server} (hopen : s.closed = false) (nodeID : UInt32) :
    (s.file nodeID).peerCount =
      if (s.entry nodeID).isSome then s.peerCount else s.peerCount + 1 := by
  cases hm : s.peers with
  | none =>
    rw [s.nil_iff.mp hm] at hopen
    cases hopen
  | some m =>
    simp only [peerCount, file, entry, hm, Option.map_some, Option.getD_some, Option.bind_some,
      FiniteMap.size_insert]

theorem peerCount_install (s : Server) (nodeID : UInt32) : (s.install nodeID).peerCount =
    if s.closed = true ∨ (s.entry nodeID).isSome then s.peerCount else s.peerCount + 1 := by
  unfold install
  cases hclosed : s.closed with
  | true => simp
  | false =>
    cases hentry : s.entry nodeID with
    | none => simp [peerCount_file hclosed, hentry]
    | some old =>
      have hshut : (s.shut old).closed = false := hclosed
      simp only [Bool.false_eq_true, if_false, peerCount_file hshut, entry_shut, hentry]
      rfl

theorem peerCount_unfile_le (s : Server) (nodeID : UInt32) :
    (s.unfile nodeID).peerCount ≤ s.peerCount := by
  cases hm : s.peers with
  | none => simp [peerCount, unfile, hm]
  | some m =>
    simp only [peerCount, unfile, hm, Option.map_some, Option.getD_some]
    exact FiniteMap.size_erase_le m nodeID

end Server

/-- No other step adds an entry. -/
theorem peerCount_step_le (s : Server) {e : PeerEvent} (he : ∀ n, e ≠ .install n) :
    (step s e).peerCount ≤ s.peerCount := by
  cases e with
  | install n => exact absurd rfl (he n)
  | drop p =>
    show (s.drop p).peerCount ≤ s.peerCount
    unfold Server.drop
    cases s.heap[p]? with
    | none => exact le_rfl
    | some peer =>
      dsimp only
      split_ifs
      · exact s.peerCount_unfile_le peer.nodeID
      · exact le_rfl
  | dropFinish p =>
    show (s.dropFinish p).peerCount ≤ s.peerCount
    unfold Server.dropFinish
    split_ifs <;> exact le_rfl
  | close =>
    rw [Server.peerCount_of_closed (closed_close s)]
    exact Nat.zero_le _
  | closeFinish p =>
    show (s.closeFinish p).peerCount ≤ s.peerCount
    unfold Server.closeFinish
    split_ifs <;> exact le_rfl

/-! ## Runs -/

namespace Listener

variable {cfg : Config}

/-- An install happens on a closed server, replaces an entry of its node, or comes at a time
    when the capacity check would pass. -/
def InstallFits (cfg : Config) (l : Listener) (e : Action) : Prop :=
  ∀ n ∈ l.installing e, l.server.closed = true ∨ (l.server.entry n).isSome = true ∨
    l.server.atCapacity cfg = false

instance (cfg : Config) (l : Listener) (e : Action) : Decidable (InstallFits cfg l e) :=
  Option.decidableForallMem _

theorem installFits_of_none {l : Listener} {e : Action} (h : l.installing e = none) :
    InstallFits cfg l e := by
  intro n hn
  rw [h] at hn
  cases hn

/-- Without an install the entries do not grow. -/
theorem peerCount_next_le {l : Listener} {e : Action} (h : l.installing e = none) :
    (next cfg l e).server.peerCount ≤ l.server.peerCount := by
  show (Transition.run step l.server (l.peerEvents e)).peerCount ≤ l.server.peerCount
  rcases l.peerEvents_cases e with ⟨n, hn, -⟩ | ⟨-, hnone | ⟨pe, hpe, hother⟩⟩
  · rw [h] at hn
    cases hn
  · rw [hnone]
    exact le_rfl
  · rw [hpe]
    exact peerCount_step_le l.server hother

theorem server_next_install {l : Listener} {e : Action} {n : UInt32}
    (h : l.installing e = some n) : (next cfg l e).server = l.server.install n := by
  show Transition.run step l.server (l.peerEvents e) = l.server.install n
  rcases l.peerEvents_cases e with ⟨n', hn', hpe⟩ | ⟨hnone, -⟩
  · rw [h] at hn'
    cases hn'
    rw [hpe]
    rfl
  · rw [h] at hnone
    cases hnone

/-- **One step.** From within the cap a step leads out of it exactly if it is an install that
    does not fit. -/
theorem peerCount_next_le_iff (hm : 0 < cfg.maxPeers) {l : Listener}
    (hl : (l.server.peerCount : Int) ≤ cfg.maxPeers) (e : Action) :
    ((next cfg l e).server.peerCount : Int) ≤ cfg.maxPeers ↔ InstallFits cfg l e := by
  cases hinstall : l.installing e with
  | none =>
    have hle : (next cfg l e).server.peerCount ≤ l.server.peerCount := peerCount_next_le hinstall
    exact ⟨fun _ => installFits_of_none hinstall, fun _ => by omega⟩
  | some n =>
    have hfits : InstallFits cfg l e ↔ l.server.closed = true ∨
        (l.server.entry n).isSome = true ∨ l.server.atCapacity cfg = false := by
      simp [InstallFits, hinstall]
    rw [hfits, server_next_install hinstall, Server.peerCount_install]
    -- a node that adds an entry needs room for it
    have hroom : l.server.atCapacity cfg = false ↔
        ((l.server.peerCount + 1 : Nat) : Int) ≤ cfg.maxPeers := by
      simp only [Server.atCapacity, hm, decide_true, Bool.true_and, decide_eq_false_iff_not]
      omega
    split_ifs with h
    · exact ⟨fun _ => by tauto, fun _ => hl⟩
    · rw [hroom]
      tauto

/-- **When the cap holds.** Along a run the map never exceeds `MaxPeers` exactly if every
    install fits at the time it is made. -/
theorem within_maxPeers_iff (hm : 0 < cfg.maxPeers) (es : List Action) :
    (∀ pre post, es = pre ++ post →
      ((runFrom cfg pre).server.peerCount : Int) ≤ cfg.maxPeers) ↔
    Transition.Along (next cfg) (InstallFits cfg) new es := by
  constructor
  · intro h
    rw [Transition.along_iff]
    intro pre e post heq
    have hbefore := h pre (e :: post) heq
    have hafter := h (pre ++ [e]) post (by rw [heq]; simp)
    rw [runFrom_concat] at hafter
    exact (peerCount_next_le_iff hm hbefore e).mp hafter
  · rintro h pre post rfl
    apply Transition.along_invariant (next cfg) (fun l => (l.server.peerCount : Int) ≤ cfg.maxPeers)
      _ _ ((Transition.along_append _).mp h).1
    · exact le_of_lt hm
    · exact fun l e he hl => (peerCount_next_le_iff hm hl e).mpr he

/-- Two connections of node 7 and one of node 9 authenticate at a server for two. -/
def threeAuthed : List Action := sampleHandshake 0 7 ++ sampleHandshake 1 9 ++ sampleHandshake 2 7

theorem threeAuthed_run : runFrom (sampleWSSConfig 2) threeAuthed =
    ⟨Server.new, [.authed 7, .authed 9, .authed 7]⟩ := by
  have hfirst : runFrom (sampleWSSConfig 2) (sampleHandshake 0 7) = ⟨Server.new, [.authed 7]⟩ :=
    sampleHandshake_run (l := new) (by decide) (by decide)
  have hsecond : runFrom (sampleWSSConfig 2) (sampleHandshake 0 7 ++ sampleHandshake 1 9) =
      ⟨Server.new, [.authed 7, .authed 9]⟩ :=
    runFrom_sampleHandshake hfirst rfl (by decide) (by decide)
  unfold threeAuthed
  exact runFrom_sampleHandshake hsecond rfl (by decide) (by decide)

/-- Handshakes install nothing. -/
theorem along_installFits_sampleHandshake (l : Listener) (c : Nat) (n : UInt32) :
    Transition.Along (next cfg) (InstallFits cfg) l (sampleHandshake c n) :=
  ⟨installFits_of_none rfl, installFits_of_none rfl, installFits_of_none rfl,
    installFits_of_none rfl, trivial⟩

theorem threeAuthed_fits : Transition.Along (next (sampleWSSConfig 2))
    (InstallFits (sampleWSSConfig 2)) new
    (threeAuthed ++ [.conn 0 .install, .conn 1 .install, .conn 2 .install]) := by
  rw [Transition.along_append]
  refine ⟨?_, ?_⟩
  · rw [threeAuthed, Transition.along_append, Transition.along_append]
    exact ⟨⟨along_installFits_sampleHandshake _ _ _, along_installFits_sampleHandshake _ _ _⟩,
      along_installFits_sampleHandshake _ _ _⟩
  · -- there is room for the first two, and the third replaces the first
    rw [← runFrom, threeAuthed_run]
    decide

/-- With both places taken, the second connection of node 7 replaces the first. -/
theorem within_maxPeers_replacement :
    (runFrom (sampleWSSConfig 2)
      (threeAuthed ++ [.conn 0 .install, .conn 1 .install])).server.atCapacity
        (sampleWSSConfig 2) = true ∧
    ((runFrom (sampleWSSConfig 2)
      (threeAuthed ++ [.conn 0 .install, .conn 1 .install, .conn 2 .install])).server.peerCount :
        Int) ≤ 2 := by
  refine ⟨?_, (within_maxPeers_iff (by decide) _).mpr threeAuthed_fits _ []
    (List.append_nil _).symm⟩
  rw [runFrom_append, threeAuthed_run]
  decide

/-- Two nodes pass the capacity check of a server for one before either is installed. -/
theorem overlapping_handshakes_exceed_maxPeers : ∃ es : List Action,
    ((runFrom (sampleWSSConfig 1) es).server.peerCount : Int) > (sampleWSSConfig 1).maxPeers := by
  refine ⟨sampleHandshake 0 7 ++ sampleHandshake 1 9 ++ [.conn 0 .install, .conn 1 .install], ?_⟩
  have hfirst : runFrom (sampleWSSConfig 1) (sampleHandshake 0 7) = ⟨Server.new, [.authed 7]⟩ :=
    sampleHandshake_run (l := new) (by decide) (by decide)
  have hsecond : runFrom (sampleWSSConfig 1) (sampleHandshake 0 7 ++ sampleHandshake 1 9) =
      ⟨Server.new, [.authed 7, .authed 9]⟩ :=
    runFrom_sampleHandshake hfirst rfl (by decide) (by decide)
  rw [runFrom_append, hsecond]
  decide

end Listener

end PilotBeacon.WSS
