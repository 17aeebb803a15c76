import PilotBeacon.Lib.FiniteMap
import PilotBeacon.Lib.History
import PilotBeacon.Lib.Transition

/-!
# The Peer Map of the WSS Server (`handleUpgrade`, `dropPeer`, `Close`)

A node that connects again replaces its old connection in the map while the old read loop is
still unwinding, and the server may shut down in between. Each locked section is one step,
and so is what `dropPeer` and `Close` do to a connection after they have unlocked.

Connections are pointers into a heap that only grows; the map holds pointers.

- `Server`: the map, with the invariant that it is nil exactly after `Close` and that it
  files every connection under its own node id
- `step_entry`, `heapEffect`: what each step does to the map and to the connections
- `peerMap_owned`: who is in the map, how entries leave it, and what becomes of those replaced
-/

namespace PilotBeacon.WSS

open PilotBeacon.Lib
open History (Since)

/-! ## State -/

/-- `wssPeer`. -/
structure WssPeer where
  nodeID : UInt32
  closed : Bool
  /-- Whether `conn.Close` was called. -/
  connClosed : Bool
  gen : UInt32
deriving DecidableEq

/-- Flag and connection closed. -/
def WssPeer.shut (peer : WssPeer) : WssPeer := { peer with closed := true, connClosed := true }

structure Server where
  /-- `none` is the nil map. -/
  peers : Option (FiniteMap UInt32 Nat)
  closed : Bool
  peerGen : UInt32
  /-- The connections installed so far, oldest first. -/
  heap : List WssPeer
  /-- The `dropPeer` calls that have unlocked and not swapped the flag yet. -/
  dropping : List Nat
  /-- The connections `Close` has taken out of the map and not closed yet. -/
  closing : List Nat
  nil_iff : peers = none ↔ closed = true
  filed : ∀ m ∈ peers, ∀ n p, m.lookup n = some p → (heap[p]?).map WssPeer.nodeID = some n

namespace Server

/-- `s.peers[n]`; a nil map has no entries. -/
def entry (s : Server) (n : UInt32) : Option Nat := s.peers.bind fun m => m.lookup n

theorem nodeID_of_entry {s : Server} {n : UInt32} {p : Nat} (h : s.entry n = some p) :
    (s.heap[p]?).map WssPeer.nodeID = some n := by
  obtain ⟨m, hm, hp⟩ := Option.bind_eq_some_iff.mp h
  exact s.filed m hm n p hp

theorem entry_of_closed {s : Server} (h : s.closed = true) (n : UInt32) : s.entry n = none := by
  rw [entry, s.nil_iff.mpr h]
  rfl

/-- `New`. -/
def new : Server where
  peers := some ∅
  closed := false
  peerGen := 0
  heap := []
  dropping := []
  closing := []
  nil_iff := by simp
  filed := by
    rintro m ⟨⟩ n p h
    cases h

/-! ## The heap -/

/-- Shutting a connection does not change whose it is. -/
theorem nodeID_modify_shut (heap : List WssPeer) (p q : Nat) :
    ((heap.modify p WssPeer.shut)[q]?).map WssPeer.nodeID = (heap[q]?).map WssPeer.nodeID := by
  rw [List.getElem?_modify]
  cases heap[q]? with
  | none => rfl
  | some peer => by_cases h : p = q <;> simp [h, WssPeer.shut]

/-- Shut one connection. -/
def shut (s : Server) (p : Nat) : Server :=
  { s with
    heap := s.heap.modify p WssPeer.shut
    filed := by
      intro m hm n q hq
      rw [nodeID_modify_shut]
      exact s.filed m hm n q hq }

/-- Stamp a new connection of `nodeID` with the next generation and put it into the map. -/
def file (s : Server) (nodeID : UInt32) : Server :=
  { s with
    peers := s.peers.map fun m => m.insert nodeID s.heap.length
    peerGen := s.peerGen + 1
    heap := s.heap ++ [⟨nodeID, false, false, s.peerGen + 1⟩]
    nil_iff := by rw [Option.map_eq_none_iff, s.nil_iff]
    filed := by
      intro m hm n p hp
      obtain ⟨m₀, hm₀, rfl⟩ := Option.map_eq_some_iff.mp hm
      rw [FiniteMap.lookup_insert_eq] at hp
      split_ifs at hp with hn
      · cases hp
        simp [hn]
      · have h := s.filed m₀ hm₀ n p hp
        obtain ⟨peer, hpeer, hid⟩ := Option.map_eq_some_iff.mp h
        have hlt : p < s.heap.length := (List.getElem?_eq_some_iff.mp hpeer).1
        rw [List.getElem?_append_left hlt]
        exact h }

/-- Take the entry of a node out of the map. -/
def unfile (s : Server) (nodeID : UInt32) : Server :=
  { s with
    peers := s.peers.map fun m => m.erase nodeID
    nil_iff := by rw [Option.map_eq_none_iff, s.nil_iff]
    filed := by
      intro m hm n p hp
      obtain ⟨m₀, hm₀, rfl⟩ := Option.map_eq_some_iff.mp hm
      by_cases hn : n = nodeID
      · rw [hn, AList.lookup_erase] at hp
        cases hp
      · rw [AList.lookup_erase_ne hn] at hp
        exact s.filed m₀ hm₀ n p hp }

/-! ## Steps -/

/-- The locked section of `handleUpgrade`, for a connection that has authenticated as
    `nodeID`. -/
def install (s : Server) (nodeID : UInt32) : Server :=
  -- shutting down: the connection is closed and never gets into the map
  if s.closed then s
  else
    -- a connection of the node that is already there is shut and replaced
    match s.entry nodeID with
    | some old => (s.shut old).file nodeID
    | none => s.file nodeID

/-- The locked section of `dropPeer`: delete the entry if it is this connection. -/
def drop (s : Server) (p : Nat) : Server :=
  match s.heap[p]? with
  | none => s
  | some peer =>
    -- compare and delete: a replaced connection leaves its replacement alone
    if s.entry peer.nodeID = some p then
      { s.unfile peer.nodeID with dropping := p :: s.dropping }
    else { s with dropping := p :: s.dropping }

/-- The rest of `dropPeer`, whose `Swap` closes the connection unless the flag was set. -/
def dropFinish (s : Server) (p : Nat) : Server :=
  if p ∈ s.dropping then
    if (s.heap[p]?).any WssPeer.closed then { s with dropping := s.dropping.erase p }
    else { s.shut p with dropping := s.dropping.erase p }
  else s

/-- The locked section of `Close`. -/
def close (s : Server) : Server :=
  if s.closed then s
  else
    { s with
      closed := true
      peers := none
      closing := (s.peers.getD ∅).entries.map Sigma.snd
      nil_iff := by simp
      filed := by simp }

/-- One round of the loop of `Close`. -/
def closeFinish (s : Server) (p : Nat) : Server :=
  if p ∈ s.closing then { s.shut p with closing := s.closing.erase p } else s

end Server

/-- One step of some goroutine. -/
inductive PeerEvent where
  | install (nodeID : UInt32)
  | drop (p : Nat)
  | dropFinish (p : Nat)
  | close
  | closeFinish (p : Nat)
deriving DecidableEq

def step (s : Server) : PeerEvent → Server
  | .install nodeID => s.install nodeID
  | .drop p => s.drop p
  | .dropFinish p => s.dropFinish p
  | .close => s.close
  | .closeFinish p => s.closeFinish p

/-- The state after the steps `es`. -/
def runFrom (es : List PeerEvent) : Server := Transition.run step Server.new es

/-- The connection a step installs, with its node id. -/
def installed (s : Server) : PeerEvent → List (UInt32 × Nat)
  | .install nodeID => if s.closed then [] else [(nodeID, s.heap.length)]
  | _ => []

/-- All connections installed in a run, oldest first. -/
def installs (es : List PeerEvent) : List (UInt32 × Nat) :=
  Transition.observe step installed Server.new es

/-! ## What a step does to the map -/

namespace Server

@[simp] theorem entry_shut (s : Server) (p : Nat) (n : UInt32) : (s.shut p).entry n = s.entry n :=
  rfl

theorem entry_file {s : Server} (hopen : s.closed = false) (nodeID n : UInt32) :
    (s.file nodeID).entry n = if n = nodeID then some s.heap.length else s.entry n := by
  -- the map is not nil, or the server would be closed
  cases hm : s.peers with
  | none =>
    rw [s.nil_iff.mp hm] at hopen
    cases hopen
  | some m => simp only [entry, file, hm, Option.map_some, Option.bind_some,
      FiniteMap.lookup_insert_eq]

theorem entry_unfile (s : Server) (nodeID n : UInt32) :
    (s.unfile nodeID).entry n = if n = nodeID then none else s.entry n := by
  cases hm : s.peers with
  | none => simp [entry, unfile, hm]
  | some m =>
    by_cases hn : n = nodeID
    · subst hn
      simp [entry, unfile, hm]
    · simp [entry, unfile, hm, hn, AList.lookup_erase_ne hn]

theorem length_heap_shut (s : Server) (p : Nat) : (s.shut p).heap.length = s.heap.length :=
  List.length_modify _ _ _

theorem entry_install (s : Server) (nodeID n : UInt32) : (s.install nodeID).entry n =
    if n = nodeID ∧ s.closed = false then some s.heap.length else s.entry n := by
  unfold install
  cases hclosed : s.closed with
  | true => simp
  | false =>
    cases s.entry nodeID with
    | none => simp [entry_file hclosed]
    | some old =>
      have hshut : (s.shut old).closed = false := hclosed
      simp [entry_file hshut, length_heap_shut]

/-- A drop removes its own connection wherever it is, and it can only be in one place. -/
theorem entry_drop (s : Server) (p : Nat) (n : UInt32) :
    (s.drop p).entry n = if s.entry n = some p then none else s.entry n := by
  -- a connection is filed under its own node, hence in one place only
  have howner : ∀ n, s.entry n = some p → (s.heap[p]?).map WssPeer.nodeID = some n :=
    fun n h => nodeID_of_entry h
  unfold drop
  cases hp : s.heap[p]? with
  | none =>
    rw [if_neg]
    intro h
    have := howner n h
    rw [hp] at this
    cases this
  | some peer =>
    dsimp only
    by_cases hmine : s.entry peer.nodeID = some p
    · rw [if_pos hmine]
      show (s.unfile peer.nodeID).entry n = _
      rw [entry_unfile]
      by_cases hn : n = peer.nodeID
      · rw [if_pos hn, hn, if_pos hmine]
      · rw [if_neg hn, if_neg]
        intro h
        have := howner n h
        rw [hp] at this
        exact hn (Option.some_inj.mp this).symm
    · rw [if_neg hmine]
      show s.entry n = _
      rw [if_neg]
      intro h
      have := howner n h
      rw [hp, Option.map_some, Option.some_inj] at this
      exact hmine (this ▸ h)

end Server

/-- **What a step does to the map.** -/
theorem step_entry (s : Server) (e : PeerEvent) (n : UInt32) : (step s e).entry n =
    match e with
    | .install nodeID =>
      if n = nodeID ∧ s.closed = false then some s.heap.length else s.entry n
    | .drop p => if s.entry n = some p then none else s.entry n
    | .close => none
    | _ => s.entry n := by
  cases e with
  | install nodeID => exact s.entry_install nodeID n
  | drop p => exact s.entry_drop p n
  | close =>
    -- `Close` leaves the nil map, at the second call as well
    show s.close.entry n = none
    unfold Server.close
    by_cases hclosed : s.closed = true
    · rw [if_pos hclosed]
      exact Server.entry_of_closed hclosed n
    · rw [if_neg hclosed]
      rfl
  | dropFinish p =>
    show (s.dropFinish p).entry n = s.entry n
    unfold Server.dropFinish
    by_cases hp : p ∈ s.dropping
    · rw [if_pos hp]
      cases (s.heap[p]?).any WssPeer.closed <;> rfl
    · rw [if_neg hp]
  | closeFinish p =>
    show (s.closeFinish p).entry n = s.entry n
    unfold Server.closeFinish
    by_cases hp : p ∈ s.closing
    · rw [if_pos hp]
      rfl
    · rw [if_neg hp]

/-! ## What a step does to the connections -/

/-- Nothing, shutting one, or installing one, in place of another or not. -/
inductive HeapEffect (s : Server) (e : PeerEvent) : Prop where
  | same (hheap : (step s e).heap = s.heap) (hgen : (step s e).peerGen = s.peerGen)
      (hnone : installed s e = [])
  | shut (p : Nat) (hheap : (step s e).heap = (s.shut p).heap)
      (hgen : (step s e).peerGen = s.peerGen) (hnone : installed s e = [])
  | file (n : UInt32) (hstep : step s e = s.file n)
      (hsome : installed s e = [(n, s.heap.length)])
  | replace (n : UInt32) (old : Nat) (hstep : step s e = (s.shut old).file n)
      (hsome : installed s e = [(n, s.heap.length)])

theorem heapEffect (s : Server) (e : PeerEvent) : HeapEffect s e := by
  cases e with
  | install n =>
    cases hclosed : s.closed with
    | true =>
      have hstep : step s (.install n) = s := if_pos hclosed
      exact .same (by rw [hstep]) (by rw [hstep]) (if_pos hclosed)
    | false =>
      have hopen : ¬ s.closed = true := ne_true_of_eq_false hclosed
      have hinstall : step s (.install n) = match s.entry n with
          | some old => (s.shut old).file n
          | none => s.file n := if_neg hopen
      cases hentry : s.entry n with
      | none =>
        rw [hentry] at hinstall
        exact .file n hinstall (if_neg hopen)
      | some old =>
        rw [hentry] at hinstall
        exact .replace n old hinstall (if_neg hopen)
  | drop p =>
    refine .same ?_ ?_ rfl <;>
    · simp only [step, Server.drop]
      split
      · rfl
      · split_ifs <;> rfl
  | dropFinish p =>
    by_cases hp : p ∈ s.dropping
    · have hfinish : step s (.dropFinish p) =
          if (s.heap[p]?).any WssPeer.closed then { s with dropping := s.dropping.erase p }
          else { s.shut p with dropping := s.dropping.erase p } := if_pos hp
      cases hflag : (s.heap[p]?).any WssPeer.closed with
      | true =>
        rw [hflag] at hfinish
        exact .same (by rw [hfinish]; rfl) (by rw [hfinish]; rfl) rfl
      | false =>
        rw [hflag] at hfinish
        exact .shut p (by rw [hfinish]; rfl) (by rw [hfinish]; rfl) rfl
    · have hstep : step s (.dropFinish p) = s := if_neg hp
      exact .same (by rw [hstep]) (by rw [hstep]) rfl
  | close =>
    refine .same ?_ ?_ rfl <;>
    · simp only [step, Server.close]
      split_ifs <;> rfl
  | closeFinish p =>
    by_cases hp : p ∈ s.closing
    · have hstep : step s (.closeFinish p) = { s.shut p with closing := s.closing.erase p } :=
        if_pos hp
      exact .shut p (by rw [hstep]) (by rw [hstep]; rfl) rfl
    · have hstep : step s (.closeFinish p) = s := if_neg hp
      exact .same (by rw [hstep]) (by rw [hstep]) rfl

/-! ## Flags stay set -/

namespace Server

/-- The `closed` flag of a connection is set. -/
def Flagged (s : Server) (p : Nat) : Prop := (s.heap[p]?).map WssPeer.closed = some true

theorem flagged_shut {s : Server} {p q : Nat} (h : s.Flagged q ∨ p = q ∧ q < s.heap.length) :
    (s.shut p).Flagged q := by
  unfold Flagged shut
  dsimp only
  rw [List.getElem?_modify]
  rcases h with h | ⟨rfl, hlt⟩
  · obtain ⟨peer, hpeer, hflag⟩ := Option.map_eq_some_iff.mp h
    rw [hpeer]
    by_cases hpq : p = q <;> simp [hpq, WssPeer.shut, hflag]
  · simp [List.getElem?_eq_getElem hlt, WssPeer.shut]

theorem flagged_file {s : Server} {p : Nat} (h : s.Flagged p) (nodeID : UInt32) :
    (s.file nodeID).Flagged p := by
  obtain ⟨peer, hpeer, -⟩ := Option.map_eq_some_iff.mp h
  have hlt : p < s.heap.length := (List.getElem?_eq_some_iff.mp hpeer).1
  unfold Flagged file
  dsimp only
  rw [List.getElem?_append_left hlt]
  exact h

end Server

theorem flagged_step {s : Server} {q : Nat} (h : s.Flagged q) (e : PeerEvent) :
    (step s e).Flagged q := by
  -- flags are only ever set
  have hshut : ∀ p, (s.shut p).Flagged q := fun p => Server.flagged_shut (Or.inl h)
  cases heapEffect s e with
  | same hheap =>
    rw [Server.Flagged, hheap]
    exact h
  | shut p hheap =>
    rw [Server.Flagged, hheap]
    exact hshut p
  | file n hstep =>
    rw [hstep]
    exact Server.flagged_file h n
  | replace n old hstep =>
    rw [hstep]
    exact Server.flagged_file (hshut old) n

/-! ## Runs -/

/-- What holds of the map after the steps `es`. -/
structure PeerMapOwned (es : List PeerEvent) : Prop where
  /-- An entry of `n` is a connection of `n`, and none of `n` was installed after it. -/
  owner : ∀ n p, (runFrom es).entry n = some p →
    ((runFrom es).heap[p]?).map WssPeer.nodeID = some n ∧
      Since (fun i => i.1 ≠ n) (fun i => i = (n, p)) (installs es)
  /-- A connection that a later one found in the map has its flag set. -/
  replaced : ∀ pre n post p, es = pre ++ .install n :: post → (runFrom pre).entry n = some p →
    (runFrom es).Flagged p
  /-- An entry leaves by its own drop, by replacement or by `Close`. -/
  leaves : ∀ pre e post n p, es = pre ++ e :: post → (runFrom pre).entry n = some p →
    (runFrom (pre ++ [e])).entry n = some p ∨ e = .drop p ∨ e = .install n ∨ e = .close
  /-- After `Close` there are no entries. -/
  closed : ∀ pre post, es = pre ++ .close :: post → ∀ n, (runFrom es).entry n = none

theorem runFrom_concat (es : List PeerEvent) (e : PeerEvent) :
    runFrom (es ++ [e]) = step (runFrom es) e := Transition.run_concat step Server.new es e

theorem runFrom_append_cons (pre : List PeerEvent) (e : PeerEvent) (post : List PeerEvent) :
    runFrom (pre ++ e :: post) = Transition.run step (step (runFrom pre) e) post :=
  Transition.run_append step Server.new pre (e :: post)

theorem owner_since (es : List PeerEvent) : ∀ n p, (runFrom es).entry n = some p →
    Since (fun i => i.1 ≠ n) (fun i => i = (n, p)) (installs es) := by
  apply Transition.run_induction step (fun es s => ∀ n p, s.entry n = some p →
    Since (fun i => i.1 ≠ n) (fun i => i = (n, p)) (installs es))
  · intro n p h
    cases h
  · intro es e ih n p h
    rw [step_entry] at h
    rw [installs, Transition.observe_concat, ← installs]
    cases e with
    | install nodeID =>
      cases hclosed : (Transition.run step Server.new es).closed with
      | true =>
        -- nothing is installed, and there is nothing in the map
        dsimp only at h
        rw [hclosed, if_neg (by simp), Server.entry_of_closed hclosed] at h
        cases h
      | false =>
        simp only [hclosed, and_true] at h
        simp only [installed, hclosed, Bool.false_eq_true, if_false]
        rw [History.since_concat]
        split_ifs at h with hn
        · left
          rw [hn, ← Option.some_inj.mp h]
        · exact Or.inr ⟨ih n p h, Ne.symm hn⟩
    | drop q =>
      dsimp only at h
      split_ifs at h
      simpa [installed] using ih n p h
    | close => cases h
    | dropFinish q => simpa [installed] using ih n p h
    | closeFinish q => simpa [installed] using ih n p h

/-- A connection found by a later one is shut right away. -/
theorem flagged_install {s : Server} {n : UInt32} {p : Nat} (h : s.entry n = some p) :
    (step s (.install n)).Flagged p := by
  show (s.install n).Flagged p
  -- the map has an entry, so it is not nil
  have hopen : s.closed = false := by
    rw [Bool.eq_false_iff]
    intro hclosed
    rw [Server.entry_of_closed hclosed] at h
    cases h
  obtain ⟨peer, hpeer, -⟩ := Option.map_eq_some_iff.mp (Server.nodeID_of_entry h)
  have hlt : p < s.heap.length := (List.getElem?_eq_some_iff.mp hpeer).1
  unfold Server.install
  rw [hopen, h]
  exact Server.flagged_file (Server.flagged_shut (Or.inr ⟨rfl, hlt⟩)) n

/-- A closed server stays closed. -/
theorem closed_step {s : Server} (h : s.closed = true) (e : PeerEvent) :
    (step s e).closed = true := by
  cases e with
  | install nodeID =>
    show (s.install nodeID).closed = true
    rw [Server.install, if_pos h]
    exact h
  | drop p =>
    show (s.drop p).closed = true
    unfold Server.drop
    cases s.heap[p]? with
    | none => exact h
    | some peer =>
      dsimp only
      split_ifs <;> exact h
  | dropFinish p =>
    show (s.dropFinish p).closed = true
    unfold Server.dropFinish
    split_ifs <;> exact h
  | close =>
    show s.close.closed = true
    rw [Server.close, if_pos h]
    exact h
  | closeFinish p =>
    show (s.closeFinish p).closed = true
    unfold Server.closeFinish
    split_ifs <;> exact h

theorem closed_close (s : Server) : (step s .close).closed = true := by
  show s.close.closed = true
  unfold Server.close
  split_ifs with h
  · exact h
  · rfl

/-- **Ownership of the peer map**, for every interleaving of installs, drops and `Close`. -/
theorem peerMap_owned (es : List PeerEvent) : PeerMapOwned es := by
  constructor
  · intro n p h
    exact ⟨Server.nodeID_of_entry h, owner_since es n p h⟩
  · rintro pre n post p rfl h
    rw [runFrom_append_cons]
    -- the install sets the flag, and later steps keep it
    apply Transition.run_invariant step (fun s => s.Flagged p) (flagged_install h)
    intro s e hs
    exact flagged_step hs e
  · rintro pre e post n p rfl h
    rw [runFrom_concat, step_entry]
    cases e with
    | install nodeID =>
      by_cases hn : n = nodeID
      · simp [hn]
      · simp [hn, h]
    | drop q =>
      by_cases hq : p = q
      · simp [hq]
      · simp [h, hq]
    | close => simp
    | dropFinish q => exact Or.inl h
    | closeFinish q => exact Or.inl h
  · rintro pre post rfl n
    apply Server.entry_of_closed
    rw [runFrom_append_cons]
    apply Transition.run_invariant step (fun s => s.closed = true) (closed_close _)
    intro s e hs
    exact closed_step hs e

end PilotBeacon.WSS
