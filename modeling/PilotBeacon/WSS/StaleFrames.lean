import PilotBeacon.WSS.Listener

/-!
# Frames of Replaced Connections (`peerReadLoop`, `peerGenForNode`)

The read loop compares the stamp of its connection with that of the connection in the map,
and hands the frame to `OnFrame` afterwards. Between the two the connection can be replaced;
and at the check there is nothing to compare with once the replacement has been dropped, and
the stamps are 32 bits wide. A frame of a replaced connection is kept back in every run that
avoids the three.

- `nodeIDs_step`, `stamped_step`: connections keep their node and their stamp
- `no_stale_frame`: the guarantee, and the steps it depends on
- `stale_frames_delivered`: two runs in which it fails
-/

namespace PilotBeacon.WSS

open PilotBeacon.Lib

namespace Server

/-- The node ids of the connections installed so far. -/
def nodeIDs (s : Server) : List UInt32 := s.heap.map WssPeer.nodeID

/-- A later connection of the same node was installed. -/
def Superseded (s : Server) (p : Nat) : Prop := ∃ n ∈ s.nodeIDs[p]?, n ∈ s.nodeIDs.drop (p + 1)

instance (s : Server) (p : Nat) : Decidable (s.Superseded p) :=
  decidable_of_iff ((s.nodeIDs[p]?).any fun n => decide (n ∈ s.nodeIDs.drop (p + 1))) (by
    simp [Superseded, Option.any_eq_true])

/-- The stamps count the installs, up to wrap-around. -/
structure Stamped (s : Server) : Prop where
  counter : s.peerGen = UInt32.ofNat s.heap.length
  gen : ∀ p peer, s.heap[p]? = some peer → peer.gen = UInt32.ofNat (p + 1)

theorem nodeIDs_shut (s : Server) (p : Nat) : (s.shut p).nodeIDs = s.nodeIDs := by
  apply List.ext_getElem?
  intro q
  rw [nodeIDs, nodeIDs, List.getElem?_map, List.getElem?_map]
  exact nodeID_modify_shut s.heap p q

theorem nodeIDs_file (s : Server) (n : UInt32) : (s.file n).nodeIDs = s.nodeIDs ++ [n] := by
  rw [nodeIDs, file, List.map_append]
  rfl

theorem stamped_shut {s : Server} (h : s.Stamped) (p : Nat) : (s.shut p).Stamped := by
  refine ⟨?_, ?_⟩
  · rw [length_heap_shut]
    exact h.counter
  · intro q peer hpeer
    change (s.heap.modify p WssPeer.shut)[q]? = some peer at hpeer
    rw [List.getElem?_modify] at hpeer
    obtain ⟨old, hold, rfl⟩ := Option.map_eq_some_iff.mp hpeer
    have hgen := h.gen q old hold
    by_cases hpq : p = q
    · rw [if_pos hpq]
      exact hgen
    · rw [if_neg hpq]
      exact hgen

theorem stamped_file {s : Server} (h : s.Stamped) (n : UInt32) : (s.file n).Stamped := by
  have hnext : s.peerGen + 1 = UInt32.ofNat (s.heap.length + 1) := by
    rw [h.counter]
    exact (UInt32.ofNat_add _ _).symm
  refine ⟨?_, ?_⟩
  · show s.peerGen + 1 = UInt32.ofNat (s.heap ++ [_]).length
    rw [hnext, List.length_append]
    rfl
  · intro p peer hpeer
    change (s.heap ++ [⟨n, false, false, s.peerGen + 1⟩])[p]? = some peer at hpeer
    by_cases hlt : p < s.heap.length
    · rw [List.getElem?_append_left hlt] at hpeer
      exact h.gen p peer hpeer
    · rw [List.getElem?_append_right (by omega)] at hpeer
      obtain ⟨hp, rfl⟩ := List.getElem?_eq_some_iff.mp hpeer
      rw [List.length_singleton] at hp
      rw [List.getElem_singleton, show p = s.heap.length by omega]
      exact hnext

end Server

/-- **A step installs at most one connection** and changes no node id. -/
theorem nodeIDs_step (s : Server) (e : PeerEvent) :
    (step s e).nodeIDs = s.nodeIDs ++ (installed s e).map Prod.fst := by
  cases heapEffect s e with
  | same hheap _ hnone =>
    rw [Server.nodeIDs, hheap, hnone]
    exact (List.append_nil _).symm
  | shut p hheap _ hnone =>
    rw [Server.nodeIDs, hheap, hnone]
    exact (s.nodeIDs_shut p).trans (List.append_nil _).symm
  | file n hstep hsome =>
    rw [hstep, hsome]
    exact s.nodeIDs_file n
  | replace n old hstep hsome =>
    rw [hstep, hsome, Server.nodeIDs_file, Server.nodeIDs_shut]
    rfl

theorem stamped_step {s : Server} (h : s.Stamped) (e : PeerEvent) : (step s e).Stamped := by
  cases heapEffect s e with
  | same hheap hgen =>
    constructor
    · rw [hgen, hheap]
      exact h.counter
    · rw [hheap]
      exact h.gen
  | shut p hheap hgen =>
    have hshut := Server.stamped_shut h p
    constructor
    · rw [hgen, hheap]
      exact hshut.counter
    · rw [hheap]
      exact hshut.gen
  | file n hstep =>
    rw [hstep]
    exact Server.stamped_file h n
  | replace n old hstep =>
    rw [hstep]
    exact Server.stamped_file (Server.stamped_shut h old) n

/-! ## The generation check -/

/-- The stamp of the `p`-th connection as a number. -/
def stamp (p : Nat) : Nat := (p + 1) % 2 ^ 32

/-- The check recognises a connection by a higher stamp in the map. -/
theorem Server.Stamped.stale {s : Server} (h : s.Stamped) {p q : Nat} {n : UInt32}
    (hp : s.nodeIDs[p]? = some n) (hq : s.entry n = some q) (hlt : stamp p < stamp q) :
    s.stale p = true := by
  rw [nodeIDs, List.getElem?_map] at hp
  obtain ⟨peer, hpeer, rfl⟩ := Option.map_eq_some_iff.mp hp
  obtain ⟨later, hlater, -⟩ := Option.map_eq_some_iff.mp (nodeID_of_entry hq)
  have hgen : s.peerGenForNode peer.nodeID = UInt32.ofNat (q + 1) := by
    rw [peerGenForNode, hq]
    simp [hlater, h.gen q later hlater]
  -- both stamps as numbers
  have hp' : (UInt32.ofNat (p + 1)).toNat = stamp p := UInt32.toNat_ofNat'
  have hq' : (UInt32.ofNat (q + 1)).toNat = stamp q := UInt32.toNat_ofNat'
  rw [Server.stale, hpeer]
  dsimp only
  rw [hgen, h.gen p peer hpeer, Bool.and_eq_true, decide_eq_true_eq, decide_eq_true_eq,
    UInt32.lt_iff_toNat_lt, UInt32.lt_iff_toNat_lt, hp', hq']
  exact ⟨Nat.lt_of_le_of_lt (Nat.zero_le _) hlt, hlt⟩

/-! ## Runs -/

/-- The connection whose frame has passed the check and not reached `OnFrame`. -/
def Stage.dispatching : Stage → Option Nat
  | .passed p _ => some p
  | _ => none

namespace Listener

variable {cfg : Config}

/-- The connection whose frame a step checks. -/
def checking (l : Listener) : Action → Option Nat
  | .conn c .check =>
    match l.conns[c]? with
    | some (.holding p _) => some p
    | _ => none
  | _ => none

/-- Unless the server is closed, no connection is installed while a frame of an earlier one of its
    node is past the check; and where a replaced connection makes the check, one of its node with
    a higher stamp is in the map. -/
def Orderly (l : Listener) (e : Action) : Prop :=
  (l.server.closed = false → ∀ n ∈ l.installing e, ∀ stage ∈ l.conns, ∀ p ∈ stage.dispatching,
    l.server.nodeIDs[p]? ≠ some n) ∧
  (∀ p ∈ l.checking e, l.server.Superseded p →
    ∃ n ∈ l.server.nodeIDs[p]?, ∃ q ∈ l.server.entry n, stamp p < stamp q)

-- the quantifiers over node ids are decided by the one entry there is
instance (l : Listener) (e : Action) : Decidable (l.Orderly e) :=
  have : Decidable (∀ n ∈ l.installing e, ∀ stage ∈ l.conns, ∀ p ∈ stage.dispatching,
      l.server.nodeIDs[p]? ≠ some n) := Option.decidableForallMem _
  have : ∀ p, Decidable (∃ n ∈ l.server.nodeIDs[p]?, ∃ q ∈ l.server.entry n, stamp p < stamp q) :=
    fun _ => Option.decidableExistsMem _
  inferInstanceAs (Decidable (_ ∧ _))

/-- No frame past the check is from a replaced connection. -/
def Fresh (l : Listener) : Prop :=
  ∀ stage ∈ l.conns, ∀ p ∈ stage.dispatching, ¬ l.server.Superseded p

theorem stamped_runFrom (es : List Action) : (runFrom cfg es).server.Stamped := by
  rw [runFrom_server]
  apply Transition.run_invariant step Server.Stamped
  · exact ⟨rfl, by intro p peer h; cases h⟩
  · exact fun s e h => stamped_step h e

/-- A step adds the node it installs, at most, and on a closed server none. -/
theorem nodeIDs_next (cfg : Config) (l : Listener) (e : Action) :
    (next cfg l e).server.nodeIDs = l.server.nodeIDs ∨
    ∃ n, l.server.closed = false ∧ l.installing e = some n ∧
      (next cfg l e).server.nodeIDs = l.server.nodeIDs ++ [n] := by
  change (Transition.run step l.server (l.peerEvents e)).nodeIDs = _ ∨
    ∃ n, _ ∧ _ ∧ (Transition.run step l.server (l.peerEvents e)).nodeIDs = _
  rcases l.peerEvents_cases e with ⟨n, hn, hpe⟩ | ⟨-, hnone | ⟨pe, hpe, hother⟩⟩
  · rw [hpe, Transition.run_cons, Transition.run_nil, nodeIDs_step, installed]
    split_ifs with hclosed
    · exact Or.inl (List.append_nil _)
    · exact Or.inr ⟨n, Bool.eq_false_iff.mpr hclosed, hn, rfl⟩
  · rw [hnone]
    exact Or.inl rfl
  · rw [hpe, Transition.run_cons, Transition.run_nil, nodeIDs_step]
    left
    cases pe with
    | install n => exact absurd rfl (hother n)
    | drop p => exact List.append_nil _
    | dropFinish p => exact List.append_nil _
    | close => exact List.append_nil _
    | closeFinish p => exact List.append_nil _

/-- A connection is superseded by the install of another one of its node. -/
theorem superseded_next {l : Listener} {e : Action} {p : Nat}
    (h : (next cfg l e).server.Superseded p) :
    l.server.Superseded p ∨ ∃ n, l.server.closed = false ∧ l.installing e = some n ∧
      l.server.nodeIDs[p]? = some n := by
  obtain ⟨n, hn, hlater⟩ := h
  rcases nodeIDs_next cfg l e with heq | ⟨n', hopen, hinstall, heq⟩
  · rw [heq] at hn hlater
    exact Or.inl ⟨n, hn, hlater⟩
  · rw [heq] at hn hlater
    by_cases hp : p < l.server.nodeIDs.length
    · rw [List.getElem?_append_left hp] at hn
      rw [List.drop_append_of_le_length (by omega), List.mem_append] at hlater
      rcases hlater with hlater | hlater
      · exact Or.inl ⟨n, hn, hlater⟩
      · rw [List.mem_singleton] at hlater
        exact Or.inr ⟨n', hopen, hinstall, hlater ▸ hn⟩
    · -- nothing comes after the new connection itself
      rw [List.drop_eq_nil_of_le (by simp; omega)] at hlater
      cases hlater

/-- A frame gets past the check by passing it. -/
theorem dispatching_advance {s : Server} {stage : Stage} {a : ConnAction} {p : Nat}
    (h : (advance cfg s stage a).dispatching = some p) :
    stage.dispatching = some p ∨
      ∃ frame, stage = .holding p frame ∧ a = .check ∧ s.stale p = false := by
  cases stage
  case holding q frame =>
    cases a
    case check =>
      rw [advance] at h
      split_ifs at h with hstale
      · cases h
      · cases h
        exact Or.inr ⟨frame, rfl, rfl, by simpa using hstale⟩
    all_goals cases h
  case passed q frame =>
    cases a
    case onFrame => cases h
    all_goals exact Or.inl h
  -- no other stage leads there
  all_goals cases a <;> simp only [advance] at h <;> (repeat' split at h) <;> cases h

/-- **One step.** -/
theorem fresh_next {l : Listener} {e : Action} (hs : l.server.Stamped) (hl : l.Fresh)
    (he : l.Orderly e) : (next cfg l e).Fresh := by
  intro stage hmem p hp hsup
  obtain ⟨c, hc⟩ := List.mem_iff_getElem?.mp hmem
  -- what supersedes a frame past the check comes after it
  have hold : ∀ old ∈ l.conns, p ∉ old.dispatching := by
    intro old hmem hp
    rcases superseded_next hsup with h | ⟨n, hopen, hn, hid⟩
    · exact hl old hmem p hp h
    · exact he.1 hopen n hn old hmem p hp hid
  rcases conns_next l e hc with hsame | ⟨a, old, rfl, hbefore, rfl⟩ | ⟨-, -, rfl⟩
  · exact hold stage (List.mem_of_getElem? hsame) hp
  · rcases dispatching_advance hp with hdisp | ⟨frame, rfl, rfl, hstale⟩
    · exact hold old (List.mem_of_getElem? hbefore) hdisp
    · -- the check installs nothing, so the connection was superseded before it
      rcases superseded_next hsup with h | ⟨n, -, hn, -⟩
      · obtain ⟨n, hn, q, hq, hlt⟩ := he.2 p (by simp [checking, hbefore]) h
        rw [hs.stale hn hq hlt] at hstale
        cases hstale
      · cases hn
  · revert hp
    split_ifs <;> exact fun hp => by cases hp

/-- What `OnFrame` is called with has passed the check. -/
theorem mem_conns_of_delivered {l : Listener} {e : Action} {d : Nat × Bytes}
    (h : d ∈ l.delivered e) : .passed d.1 d.2 ∈ l.conns := by
  cases e with
  | conn c a =>
    cases a with
    | onFrame =>
      cases hstage : l.conns[c]? with
      | none => simp [delivered, hstage] at h
      | some stage =>
        cases stage
        case passed p frame =>
          simp only [delivered, hstage, List.mem_singleton] at h
          rw [h]
          exact List.mem_of_getElem? hstage
        all_goals simp [delivered, hstage] at h
    | _ => simp [delivered] at h
  | _ => simp [delivered] at h

/-- **No stale frame after replacement.** In a run of orderly steps `OnFrame` is never called
    with a frame of a connection after a later one of its node was installed. -/
theorem no_stale_frame (cfg : Config) (es : List Action)
    (h : Transition.Along (next cfg) Orderly new es) :
    ∀ pre e post, es = pre ++ e :: post → ∀ d ∈ (runFrom cfg pre).delivered e,
      ¬ (runFrom cfg pre).server.Superseded d.1 := by
  rintro pre e post rfl d hd
  have hfresh : (runFrom cfg pre).Fresh := by
    apply Transition.along_induction (next cfg) (fun _ l => l.Fresh) _ _
      ((Transition.along_append _).mp h).1
    · intro stage hmem
      cases hmem
    · exact fun pre e he ih => fresh_next (stamped_runFrom pre) ih he
  exact hfresh _ (mem_conns_of_delivered hd) d.1 rfl

/-- Two connections of node 7 that have authenticated side by side. -/
def twoAuthed : List Action := sampleHandshake 0 7 ++ sampleHandshake 1 7

theorem twoAuthed_run : runFrom (sampleWSSConfig 0) twoAuthed =
    ⟨Server.new, [.authed 7, .authed 7]⟩ := by
  have hfirst : runFrom (sampleWSSConfig 0) (sampleHandshake 0 7) = ⟨Server.new, [.authed 7]⟩ :=
    sampleHandshake_run (l := new) (by decide) (by decide)
  unfold twoAuthed
  exact runFrom_sampleHandshake hfirst rfl (by decide) (by decide)

/-- A frame of a connection that is replaced before the check is dropped, and the next one is
    from the replacement. -/
def replacedRun : List Action :=
  [.conn 0 .install, .conn 0 .loopTop, .conn 0 (.read (.binary [1])), .conn 1 .install,
    .conn 0 .check, .conn 1 .loopTop, .conn 1 (.read (.binary [2])), .conn 1 .check]

theorem replacedRun_orderly : Transition.Along (next (sampleWSSConfig 0)) Orderly new
    (twoAuthed ++ (replacedRun ++ [.conn 1 .onFrame])) := by
  rw [Transition.along_append]
  refine ⟨?_, ?_⟩
  · -- handshakes install and check nothing
    have hsteps : ∀ (l : Listener) (c : Nat) (n : UInt32),
        Transition.Along (next (sampleWSSConfig 0)) Orderly l (sampleHandshake c n) :=
      fun l c n => ⟨⟨by simp [installing], by simp [checking]⟩,
        ⟨by simp [installing], by simp [checking]⟩, ⟨by simp [installing], by simp [checking]⟩,
        ⟨by simp [installing], by simp [checking]⟩, trivial⟩
    rw [twoAuthed, Transition.along_append]
    exact ⟨hsteps _ _ _, hsteps _ _ _⟩
  · rw [← runFrom, twoAuthed_run]
    decide

theorem no_stale_frame_replacedRun :
    (1, [2]) ∈ (runFrom (sampleWSSConfig 0) (twoAuthed ++ replacedRun)).delivered
      (.conn 1 .onFrame) ∧
    ¬ (runFrom (sampleWSSConfig 0) (twoAuthed ++ replacedRun)).server.Superseded 1 := by
  have hdelivered : (1, [2]) ∈ (runFrom (sampleWSSConfig 0) (twoAuthed ++ replacedRun)).delivered
      (.conn 1 .onFrame) := by
    rw [runFrom_append, twoAuthed_run]
    decide
  refine ⟨hdelivered, ?_⟩
  exact no_stale_frame (sampleWSSConfig 0) _ replacedRun_orderly (twoAuthed ++ replacedRun) _ []
    (by rw [List.append_assoc]) (1, [2]) hdelivered

/-- A frame of the first connection reaches `OnFrame` after the second was installed: once
    because the install comes between check and call, once because the second connection has
    been dropped again at the check. -/
theorem stale_frames_delivered :
    (∃ es e, ∃ d ∈ (runFrom (sampleWSSConfig 0) es).delivered e,
      (runFrom (sampleWSSConfig 0) es).server.Superseded d.1) ∧
    (∃ es e, ∃ d ∈ (runFrom (sampleWSSConfig 0) es).delivered e,
      (runFrom (sampleWSSConfig 0) es).server.Superseded d.1 ∧
        (runFrom (sampleWSSConfig 0) es).server.entry 7 = none) := by
  constructor
  · refine ⟨twoAuthed ++ [.conn 0 .install, .conn 0 .loopTop, .conn 0 (.read (.binary [1])),
      .conn 0 .check, .conn 1 .install], .conn 0 .onFrame, (0, [1]), ?_⟩
    rw [runFrom_append, twoAuthed_run]
    decide
  · refine ⟨twoAuthed ++ [.conn 0 .install, .conn 0 .loopTop, .conn 0 (.read (.binary [1])),
      .conn 1 .install, .drop 1, .conn 0 .check], .conn 0 .onFrame, (0, [1]), ?_⟩
    rw [runFrom_append, twoAuthed_run]
    decide

end Listener

end PilotBeacon.WSS
