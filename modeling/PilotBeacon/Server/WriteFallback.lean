import PilotBeacon.Server.SharedBuffers
import PilotBeacon.WSS.Listener

/-!
# A Relay Job Between WSS and UDP (tiers 0 to 3 of `relayWorkerLoop`)

A worker asks the WSS server whether the destination is connected, and if so writes the frame to
its connection; if not, it looks for the destination in the node table and then among the peers'
nodes. `IsConnected` and `WriteFrame` each find a connection in the map and look at its flag
afterwards, and a `Write` that fails is followed by `dropPeer`. All of these are steps of their
own here, and anything can happen to the WSS server and to the beacon in between.

- `InHand`, `handNext`: a worker with a job, beacon and WSS server
- `hand_uninterrupted`: a job that is not interrupted is `handleJob`
- `Undisturbed`: the others leave the destination alone while it matters
- `Informed`: what the worker has learnt then still holds
- `write_falls_back`: a frame is given up only for a destination that cannot be reached
- `lost_connection_not_found`: a node registered over UDP does not get its frame
-/

namespace PilotBeacon

open PilotBeacon.Lib PilotBeacon.Net

namespace WSS.Server

/-- `p.closed.Load()` -/
def flag (s : WSS.Server) (p : Nat) : Bool := (s.heap[p]?).any WssPeer.closed

/-- The live connection of a node: the one in the map, unless its flag is set. -/
def openConn (s : WSS.Server) (nodeID : UInt32) : Option Nat :=
  (s.entry nodeID).filter fun p => !s.flag p

variable {s : WSS.Server} {nodeID : UInt32} {p : Nat}

theorem isConnected_eq_isSome_openConn (s : WSS.Server) (nodeID : UInt32) :
    s.isConnected nodeID = (s.openConn nodeID).isSome := by
  unfold isConnected openConn flag
  cases s.entry nodeID with
  | none => rfl
  | some p => cases h : (s.heap[p]?).any WssPeer.closed <;> simp [Option.filter, h]

theorem openConn_eq_some :
    s.openConn nodeID = some p ↔ s.entry nodeID = some p ∧ s.flag p = false := by
  simp [openConn, Option.filter_eq_some_iff]

theorem openConn_of_entry_none (h : s.entry nodeID = none) : s.openConn nodeID = none := by
  simp [openConn, h]

theorem openConn_of_flag (h : s.entry nodeID = some p) (hflag : s.flag p = true) :
    s.openConn nodeID = none := by
  simp [openConn, h, hflag]

theorem flag_eq_true : s.flag p = true ↔ s.Flagged p := by
  unfold flag Flagged
  cases s.heap[p]? <;> simp

/-- A flag that is set stays set. -/
theorem flag_step (h : s.flag p = true) (e : WSS.PeerEvent) : (WSS.step s e).flag p = true := by
  rw [flag_eq_true] at h ⊢
  exact WSS.flagged_step h e

/-- Deleting the entry of `p` leaves no live connection, if there was none but `p`. -/
theorem openConn_drop (h : s.openConn nodeID = some p ∨ s.openConn nodeID = none) :
    (s.drop p).openConn nodeID = none := by
  have hheap : (s.drop p).heap = s.heap := by
    unfold drop
    cases s.heap[p]? with
    | none => rfl
    | some peer =>
      dsimp only
      split_ifs <;> rfl
  have hflag : ∀ q, (s.drop p).flag q = s.flag q := fun q => by rw [flag, hheap, flag]
  simp only [openConn, hflag, entry_drop] at h ⊢
  cases hentry : s.entry nodeID with
  | none => simp
  | some q =>
    by_cases hq : q = p
    · simp [hq]
    · -- another connection, whose flag is set
      rw [hentry] at h
      cases hclosed : s.flag q with
      | true => simp [hq, hclosed]
      | false => simp [hclosed, hq] at h

/-- Setting flags brings no connection up. -/
theorem openConn_dropFinish (h : s.openConn nodeID = none) :
    (s.dropFinish p).openConn nodeID = none := by
  have hentry : (s.dropFinish p).entry nodeID = s.entry nodeID :=
    WSS.step_entry s (.dropFinish p) nodeID
  cases hold : s.entry nodeID with
  | none => exact openConn_of_entry_none (hentry.trans hold)
  | some q =>
    have hflag : s.flag q = true := by
      by_contra hopen
      rw [openConn_eq_some.mpr ⟨hold, Bool.eq_false_iff.mpr hopen⟩] at h
      cases h
    exact openConn_of_flag (hentry.trans hold) (flag_step hflag (.dropFinish p))

end WSS.Server

/-! ## A job in hand -/

/-- What became of a job. -/
inductive JobFate where
  | sent
  | batched
  | notFound
  | panicked
deriving DecidableEq

/-- How far the worker is; `obp` is the output buffer it has taken. -/
inductive HandStage where
  | taken
  /-- `IsConnected` has found connection `p` in the map. -/
  | asking (p : Nat)
  /-- `IsConnected` said no. -/
  | offline
  /-- `IsConnected` said yes, or `Snapshot` has answered. -/
  | looked (tier : Tier)
  | lent (tier : Tier) (obp : Buf)
  /-- Before `WriteFrame`. -/
  | framed (obp : Buf)
  /-- `WriteFrame` has found connection `p` in the map. -/
  | found (obp : Buf) (p : Nat)
  /-- At the `Write` of connection `p`. -/
  | writing (obp : Buf) (p : Nat)
  /-- The `Write` failed. -/
  | failed (obp : Buf) (p : Nat)
  /-- `dropPeer` has unlocked. -/
  | dropping (obp : Buf) (p : Nat)
  /-- `WriteFrame` returned false, or tier 2 found nobody. -/
  | unreached (obp : Buf)
  | done (fate : JobFate)
deriving DecidableEq

structure InHand where
  beacon : Server
  wss : WSS.Server
  stage : HandStage

inductive HandStep where
  /-- The worker's next access. What it needs to be told: which buffer the pool hands out, whether
      a `Write` succeeds, what a flush brings. -/
  | worker (outPick : Nat) (ok : Bool) (o : FlushOutcome)
  /-- Another goroutine of the WSS server. -/
  | wss (e : WSS.PeerEvent)
  /-- Another goroutine of the beacon. -/
  | beacon (e : RelayEvent)

section

variable (cfg : Config) (i : Nat) (job : RelayJob)

/-- Count the frame as not found and return its buffers. -/
def giveUp (s : Server) (obp : Buf) : Server :=
  Server.releaseJob { s with relayNotFound := s.relayNotFound + 1 } job obp

/-- The second lookup of tiers 1 and 2, and the frame: for `WriteFrame`, for the batch, or none. -/
def shapeJob (c : InHand) (tier : Tier) (obp : Buf) (o : FlushOutcome) : InHand :=
  match tier.header cfg c.beacon job with
  | none => { c with stage := .unreached obp }
  | some (addr, header) =>
    match outSlice obp header job.payload.data with
    | none => { c with beacon := c.beacon.workerPanic i, stage := .done .panicked }
    | some out =>
      match addr with
      | none => { c with stage := .framed obp }
      | some addr =>
        { c with
          beacon := (c.beacon.addMessage o i ⟨out, addr, job.destID⟩ job.payload.buf).1
          stage := .done .batched }

/-- One access of the worker. -/
def accessNext (c : InHand) (outPick : Nat) (ok : Bool) (o : FlushOutcome) : InHand :=
  match c.stage with
  -- `IsConnected`: the map, then the flag
  | .taken =>
    if cfg.wssBridge then
      match c.wss.entry job.destID with
      | some p => { c with stage := .asking p }
      | none => { c with stage := .offline }
    else { c with stage := .offline }
  | .asking p => { c with stage := if c.wss.flag p then .offline else .looked .wss }
  | .offline =>
    match c.beacon.nodes.snapshot job.destID with
    | some addr => { c with stage := .looked (.localNode addr) }
    | none => { c with stage := .looked .other }
  | .looked tier =>
    { c with
      beacon := { c.beacon with
        outBufPool := (c.beacon.outBufPool.get outPick (maxRelayPayload + 9)).2 }
      stage := .lent tier (c.beacon.outBufPool.get outPick (maxRelayPayload + 9)).1 }
  | .lent tier obp => shapeJob cfg i job c tier obp o
  -- `WriteFrame`: the map, the flag, the write
  | .framed obp =>
    match c.wss.entry job.destID with
    | some p => { c with stage := .found obp p }
    | none => { c with stage := .unreached obp }
  | .found obp p => { c with stage := if c.wss.flag p then .unreached obp else .writing obp p }
  | .writing obp p =>
    if ok then
      { c with
        beacon := Server.releaseJob
          { c.beacon with relayForwarded := c.beacon.relayForwarded + 1 } job obp
        stage := .done .sent }
    else { c with stage := .failed obp p }
  | .failed obp p => { c with wss := c.wss.drop p, stage := .dropping obp p }
  | .dropping obp p => { c with wss := c.wss.dropFinish p, stage := .unreached obp }
  | .unreached obp => { c with beacon := giveUp job c.beacon obp, stage := .done .notFound }
  | .done _ => c

def handNext (c : InHand) : HandStep → InHand
  | .worker outPick ok o => accessNext cfg i job c outPick ok o
  | .wss e => { c with wss := WSS.step c.wss e }
  | .beacon e =>
    match e.worker? with
    -- the worker itself has the job in hand
    | some (j, _) => if j = i then c else { c with beacon := relayNext cfg c.beacon e }
    | none => { c with beacon := relayNext cfg c.beacon e }

variable {cfg i job} {c : InHand}

/-- A settled job stays as it is. -/
theorem run_done (fate : JobFate) (h : c.stage = .done fate) (n outPick : Nat) (ok : Bool)
    (o : FlushOutcome) :
    Transition.run (handNext cfg i job) c (List.replicate n (.worker outPick ok o)) = c := by
  induction n with
  | zero => rfl
  | succ n ih =>
    rw [List.replicate_succ, Transition.run_cons]
    simpa [handNext, accessNext, h] using ih

/-- Tiers 1 to 3. -/
theorem run_offline (h : c.stage = .offline) (n outPick : Nat) (ok : Bool) (o : FlushOutcome) :
    (Transition.run (handNext cfg i job) c (List.replicate (n + 4) (.worker outPick ok o))).beacon =
      (Server.sendUDP cfg o { c.beacon with
          outBufPool := (c.beacon.outBufPool.get outPick (maxRelayPayload + 9)).2 } i job
        (c.beacon.outBufPool.get outPick (maxRelayPayload + 9)).1).1 := by
  set tier : Tier := match c.beacon.nodes.snapshot job.destID with
    | some addr => .localNode addr
    | none => .other with htier
  set s : Server := { c.beacon with
    outBufPool := (c.beacon.outBufPool.get outPick (maxRelayPayload + 9)).2 } with hs
  set obp := (c.beacon.outBufPool.get outPick (maxRelayPayload + 9)).1 with hobp
  -- the lookup and the buffer
  have hlent : handNext cfg i job (handNext cfg i job c (.worker outPick ok o))
      (.worker outPick ok o) = ⟨s, c.wss, .lent tier obp⟩ := by
    cases hsnap : c.beacon.nodes.snapshot job.destID <;>
      simp [handNext, accessNext, h, hsnap, htier, hs, hobp]
  have hheader : tier.header cfg s job = _ := Tier.header_eq_route htier
  rw [List.replicate_succ, Transition.run_cons, List.replicate_succ, Transition.run_cons, hlent]
  unfold Server.sendUDP
  cases hroute : (s.route job.destID).header cfg job with
  | none =>
    rw [hroute, Option.map_none] at hheader
    simp only [List.replicate_succ, Transition.run_cons]
    rw [run_done .notFound]
    · simp [handNext, accessNext, shapeJob, hheader, giveUp]
    · simp [handNext, accessNext, shapeJob, hheader]
  | some p =>
    rw [hroute, Option.map_some] at hheader
    rw [List.replicate_succ, Transition.run_cons]
    cases hout : outSlice obp p.2 job.payload.data with
    | none =>
      rw [run_done .panicked] <;>
        simp [handNext, accessNext, shapeJob, hheader, hout]
    | some out =>
      rw [run_done .batched] <;>
        simp [handNext, accessNext, shapeJob, hheader, hout]

variable (cfg i job)

/-- **A job that is not interrupted** is handled as by `handleJob`, with what the WSS server
    answers. -/
theorem hand_uninterrupted (s : Server) (wss : WSS.Server) (outPick : Nat) (o : FlushOutcome)
    (ok : Bool) :
    (Transition.run (handNext cfg i job) ⟨s, wss, .taken⟩
        (List.replicate 10 (.worker outPick ok o))).beacon =
      (s.handleJob cfg ⟨wss.isConnected job.destID, ok, outPick⟩ o i job).1 := by
  unfold Server.handleJob
  dsimp only
  cases hbridge : cfg.wssBridge with
  | false =>
    -- there is no WSS server
    have hoffline : handNext cfg i job ⟨s, wss, .taken⟩ (.worker outPick ok o) =
        ⟨s, wss, .offline⟩ := by simp [handNext, accessNext, hbridge]
    rw [List.replicate_succ, Transition.run_cons, hoffline, run_offline rfl 5]
    simp
  | true =>
    cases hentry : wss.entry job.destID with
    | none =>
      have hoffline : handNext cfg i job ⟨s, wss, .taken⟩ (.worker outPick ok o) =
          ⟨s, wss, .offline⟩ := by simp [handNext, accessNext, hbridge, hentry]
      rw [List.replicate_succ, Transition.run_cons, hoffline, run_offline rfl 5]
      simp [WSS.Server.isConnected, hentry]
    | some p =>
      have hasking : handNext cfg i job ⟨s, wss, .taken⟩ (.worker outPick ok o) =
          ⟨s, wss, .asking p⟩ := by simp [handNext, accessNext, hbridge, hentry]
      have hconn : wss.isConnected job.destID = !wss.flag p := by
        simp [WSS.Server.isConnected, hentry, WSS.Server.flag]
      rw [List.replicate_succ, Transition.run_cons, hasking, List.replicate_succ,
        Transition.run_cons, hconn]
      cases hflag : wss.flag p with
      | true =>
        have hoffline : handNext cfg i job ⟨s, wss, .asking p⟩ (.worker outPick ok o) =
            ⟨s, wss, .offline⟩ := by simp [handNext, accessNext, hflag]
        rw [hoffline, run_offline rfl 4]
        simp
      | false =>
        have hlooked : handNext cfg i job ⟨s, wss, .asking p⟩ (.worker outPick ok o) =
            ⟨s, wss, .looked .wss⟩ := by simp [handNext, accessNext, hflag]
        rw [hlooked]
        cases hout : outSlice (s.outBufPool.get outPick (maxRelayPayload + 9)).1
            (deliverHeader cfg job.senderID) job.payload.data with
        | none =>
          simp [List.replicate, handNext, accessNext, shapeJob, Tier.header, hout, Server.sendWSS]
        | some out =>
          -- the connection is there for `WriteFrame` as well
          cases ok <;>
            simp [List.replicate, handNext, accessNext, shapeJob, Tier.header, hout,
              Server.sendWSS, hentry, hflag, giveUp]

/-! ## Giving up -/

/-- The destination's live connection, if there is a WSS server. -/
def liveConn (c : InHand) : Option Nat :=
  if cfg.wssBridge then c.wss.openConn job.destID else none

/-- The destination is in the node table or among a peer's nodes. -/
def udpReachable (s : Server) (dest : UInt32) : Bool :=
  s.nodes.has dest || (s.peerNodes.lookup dest).isSome

/-- In this step `WriteFrame` finds no connection, or its write fails. -/
def writeFails (c : InHand) : HandStep → Bool
  | .worker _ ok _ =>
    match c.stage with
    | .framed _ => (c.wss.entry job.destID).isNone
    | .found _ p => c.wss.flag p
    | .writing _ _ => !ok
    | _ => false
  | _ => false

/-- A frame is given up as not found only if the destination has no live connection then and is in
    neither table; and if `WriteFrame` fails for a destination in a table, the frame is not given
    up, whatever happens next. -/
structure FallsBack (c : InHand) (st : HandStep) : Prop where
  givesUp : c.stage ≠ .done .notFound → (handNext cfg i job c st).stage = .done .notFound →
    liveConn cfg job c = none ∧ udpReachable c.beacon job.destID = false
  gets : writeFails job c st = true → udpReachable c.beacon job.destID = true →
    ∀ sts, (Transition.run (handNext cfg i job) (handNext cfg i job c st) sts).stage ≠
      .done .notFound

/-! ## Leaving the destination alone -/

/-- The destination gets no new connection. -/
def NoNewConn (c c' : InHand) : Prop :=
  liveConn cfg job c' = liveConn cfg job c ∨ liveConn cfg job c' = none

/-- The destination keeps a connection if it has one, or is in neither table. -/
def KeepsConn (c c' : InHand) : Prop :=
  (liveConn cfg job c).isSome = true →
    (liveConn cfg job c').isSome = true ∨ udpReachable c.beacon job.destID = false

/-- A destination in neither table does not get into one. -/
def NoNewEntry (c c' : InHand) : Prop :=
  udpReachable c'.beacon job.destID = true → udpReachable c.beacon job.destID = true

/-- What the others may do to the destination while a job for it is in hand, by stage. -/
def Harmless (c c' : InHand) : HandStage → Prop
  | .taken | .done _ | .looked (.localNode _) | .lent (.localNode _) _ => True
  -- a connection was found and is to be used
  | .asking _ | .found _ _ => NoNewConn cfg job c c' ∧ KeepsConn cfg job c c' ∧ NoNewEntry job c c'
  -- it will be looked up again, and may be replaced until then
  | .looked .wss | .lent .wss _ | .framed _ => KeepsConn cfg job c c' ∧ NoNewEntry job c c'
  | .writing _ _ => NoNewConn cfg job c c'
  | .failed _ _ | .dropping _ _ | .unreached _ => NoNewConn cfg job c c' ∧ NoNewEntry job c c'
  -- no connection was found, then no entry of the node table; the routes come last
  | .offline => NoNewConn cfg job c c'
  | .looked .other | .lent .other _ => NoNewConn cfg job c c' ∧
      (c'.beacon.nodes.has job.destID = true → c.beacon.nodes.has job.destID = true)

/-- The `Write` succeeds, or the destination is in neither table. -/
def WriteFits (c : InHand) (ok : Bool) : HandStage → Prop
  | .writing _ _ => ok = true ∨ udpReachable c.beacon job.destID = false
  | _ => True

/-- The others leave the destination alone while it matters, and no `Write` fails for one that is
    in a table. -/
def Undisturbed (c : InHand) : HandStep → Prop
  | .worker _ ok _ => WriteFits job c ok c.stage
  | st => Harmless cfg job c (handNext cfg i job c st) c.stage

instance (c c' : InHand) : Decidable (NoNewConn cfg job c c') := inferInstanceAs (Decidable (_ ∨ _))

instance (c c' : InHand) : Decidable (KeepsConn cfg job c c') := inferInstanceAs (Decidable (_ → _))

instance (c c' : InHand) : Decidable (NoNewEntry job c c') := inferInstanceAs (Decidable (_ → _))

instance (c c' : InHand) : ∀ stage, Decidable (Harmless cfg job c c' stage)
  | .taken | .done _ | .looked (.localNode _) | .lent (.localNode _) _ => isTrue trivial
  | .asking _ | .found _ _ => inferInstanceAs (Decidable (_ ∧ _ ∧ _))
  | .looked .wss | .lent .wss _ | .framed _ => inferInstanceAs (Decidable (_ ∧ _))
  | .writing _ _ | .offline => inferInstanceAs (Decidable (NoNewConn cfg job c c'))
  | .failed _ _ | .dropping _ _ | .unreached _ => inferInstanceAs (Decidable (_ ∧ _))
  | .looked .other | .lent .other _ => inferInstanceAs (Decidable (_ ∧ (_ → _)))

instance (c : InHand) (ok : Bool) : ∀ stage, Decidable (WriteFits job c ok stage)
  | .writing _ _ => inferInstanceAs (Decidable (_ ∨ _))
  | .taken | .asking _ | .offline | .looked _ | .lent _ _ | .framed _ | .found _ _ | .failed _ _
  | .dropping _ _ | .unreached _ | .done _ => isTrue trivial

instance (c : InHand) : ∀ st, Decidable (Undisturbed cfg i job c st)
  | .worker _ ok _ => inferInstanceAs (Decidable (WriteFits job c ok c.stage))
  | .wss _ | .beacon _ => inferInstanceAs (Decidable (Harmless _ _ _ _ _))

/-- What the worker has learnt about the destination is still so. -/
def Informed (c : InHand) : Prop :=
  match c.stage with
  | .taken | .done _ | .looked (.localNode _) | .lent (.localNode _) _ => True
  | .asking p => liveConn cfg job c = some p ∨ liveConn cfg job c = none ∧
      (c.wss.flag p = true ∨ udpReachable c.beacon job.destID = false)
  | .looked .wss | .lent .wss _ | .framed _ =>
      (liveConn cfg job c).isSome = true ∨ udpReachable c.beacon job.destID = false
  | .found _ p => liveConn cfg job c = some p ∨
      liveConn cfg job c = none ∧ udpReachable c.beacon job.destID = false
  | .writing _ p => liveConn cfg job c = some p ∨ liveConn cfg job c = none
  | .failed _ p => (liveConn cfg job c = some p ∨ liveConn cfg job c = none) ∧
      udpReachable c.beacon job.destID = false
  | .dropping _ _ | .unreached _ =>
      liveConn cfg job c = none ∧ udpReachable c.beacon job.destID = false
  | .offline => liveConn cfg job c = none
  | .looked .other | .lent .other _ =>
      liveConn cfg job c = none ∧ c.beacon.nodes.has job.destID = false

variable {cfg i job} {c' : InHand}

theorem NoNewConn.none (h : NoNewConn cfg job c c') (hnone : liveConn cfg job c = none) :
    liveConn cfg job c' = none :=
  h.elim (fun hsame => hsame.trans hnone) id

theorem NoNewEntry.unreachable (h : NoNewEntry job c c')
    (hnone : udpReachable c.beacon job.destID = false) :
    udpReachable c'.beacon job.destID = false := by
  rw [Bool.eq_false_iff] at hnone ⊢
  exact fun hreach => hnone (h hreach)

/-- A connection that is kept and not replaced is there, or was not needed. -/
theorem keeps_or_unreachable {p : Nat} (hnew : NoNewConn cfg job c c')
    (hkeep : KeepsConn cfg job c c') (hentry : NoNewEntry job c c')
    (h : liveConn cfg job c = some p) :
    liveConn cfg job c' = some p ∨
      liveConn cfg job c' = none ∧ udpReachable c'.beacon job.destID = false := by
  rcases hnew with hsame | hnone
  · exact .inl (hsame.trans h)
  · refine .inr ⟨hnone, hentry.unreachable ?_⟩
    exact (hkeep (by rw [h]; rfl)).resolve_left (by simp [hnone])

/-- **A step of the others** keeps what the worker has learnt. -/
theorem Informed.others (h : Informed cfg job c) (hstage : c'.stage = c.stage)
    (hflag : ∀ p, c.wss.flag p = true → c'.wss.flag p = true)
    (hharm : Harmless cfg job c c' c.stage) :
    Informed cfg job c' := by
  unfold Informed at *
  rw [hstage]
  cases hc : c.stage with
  | taken | done fate => trivial
  | asking p =>
    simp only [hc, Harmless] at h hharm
    obtain ⟨hnew, hkeep, hentry⟩ := hharm
    rcases h with hsome | ⟨hnone, hclosed | hreach⟩
    · exact (keeps_or_unreachable hnew hkeep hentry hsome).imp_right (And.imp_right .inr)
    · exact .inr ⟨hnew.none hnone, .inl (hflag p hclosed)⟩
    · exact .inr ⟨hnew.none hnone, .inr (hentry.unreachable hreach)⟩
  | found obp p =>
    simp only [hc, Harmless] at h hharm
    obtain ⟨hnew, hkeep, hentry⟩ := hharm
    rcases h with hsome | ⟨hnone, hreach⟩
    · exact keeps_or_unreachable hnew hkeep hentry hsome
    · exact .inr ⟨hnew.none hnone, hentry.unreachable hreach⟩
  | writing obp p =>
    simp only [hc, Harmless] at h hharm
    exact hharm.elim (fun hsame => by rwa [hsame]) .inr
  | failed obp p =>
    simp only [hc, Harmless] at h hharm
    exact ⟨hharm.1.elim (fun hsame => by rw [hsame]; exact h.1) .inr, hharm.2.unreachable h.2⟩
  | dropping obp p | unreached obp =>
    simp only [hc, Harmless] at h hharm
    exact ⟨hharm.1.none h.1, hharm.2.unreachable h.2⟩
  | offline =>
    simp only [hc, Harmless] at h hharm
    exact hharm.none h
  | framed obp =>
    simp only [hc, Harmless] at h hharm
    rcases h with hsome | hreach
    · exact (hharm.1 hsome).imp_right hharm.2.unreachable
    · exact .inr (hharm.2.unreachable hreach)
  | looked tier | lent tier obp =>
    cases tier with
    | localNode addr => trivial
    | wss =>
      simp only [hc, Harmless] at h hharm
      rcases h with hsome | hreach
      · exact (hharm.1 hsome).imp_right hharm.2.unreachable
      · exact .inr (hharm.2.unreachable hreach)
    | other =>
      simp only [hc, Harmless] at h hharm
      refine ⟨hharm.1.none h.1, ?_⟩
      rw [Bool.eq_false_iff]
      exact fun hhas => Bool.eq_false_iff.mp h.2 (hharm.2 hhas)

theorem flag_of_liveConn {p : Nat} (h : liveConn cfg job c = some p) : c.wss.flag p = false := by
  unfold liveConn at h
  split_ifs at h
  exact (WSS.Server.openConn_eq_some.mp h).2

/-- What a connection in the map says about the live one. -/
theorem liveConn_of_entry {p : Nat} (hentry : c.wss.entry job.destID = some p) :
    liveConn cfg job c = none ∨ liveConn cfg job c = some p ∧ c.wss.flag p = false := by
  unfold liveConn
  split_ifs
  · cases hflag : c.wss.flag p with
    | true => exact .inl (WSS.Server.openConn_of_flag hentry hflag)
    | false => exact .inr ⟨WSS.Server.openConn_eq_some.mpr ⟨hentry, hflag⟩, rfl⟩
  · exact .inl rfl

theorem liveConn_of_entry_none (hentry : c.wss.entry job.destID = none) :
    liveConn cfg job c = none := by
  unfold liveConn
  split_ifs
  · exact WSS.Server.openConn_of_entry_none hentry
  · rfl

/-- Tier 2 finds nobody exactly if the destination has no route. -/
theorem udpReachable_of_no_header {s : Server} (hhas : s.nodes.has job.destID = false)
    (hheader : Tier.other.header cfg s job = none) : udpReachable s job.destID = false := by
  simp only [Tier.header, Option.map_eq_none_iff] at hheader
  simp [udpReachable, hhas, hheader]

/-- **A step of the worker itself.** -/
theorem Informed.access (h : Informed cfg job c) (outPick : Nat) {ok : Bool} (o : FlushOutcome)
    (hwrite : WriteFits job c ok c.stage) :
    Informed cfg job (accessNext cfg i job c outPick ok o) := by
  unfold Informed at h
  unfold accessNext
  cases hc : c.stage with
  | done fate => simp [Informed, hc]
  | unreached obp => trivial
  | taken =>
    dsimp only
    split_ifs with hbridge
    · cases hentry : c.wss.entry job.destID with
      | none => exact liveConn_of_entry_none hentry
      | some p =>
        rcases liveConn_of_entry hentry with hnone | ⟨hsome, -⟩
        · refine Or.inr ⟨hnone, .inl ?_⟩
          -- a live connection would have been found
          by_contra hopen
          have hlive := WSS.Server.openConn_eq_some.mpr ⟨hentry, Bool.eq_false_iff.mpr hopen⟩
          simp [liveConn, hbridge, hlive] at hnone
        · exact Or.inl hsome
    · exact if_neg hbridge
  | asking p =>
    simp only [hc] at h
    dsimp only
    split_ifs with hflag
    · have hnone : liveConn cfg job c = none := by
        rcases h with hsome | ⟨hnone, -⟩
        · simp [flag_of_liveConn hsome] at hflag
        · exact hnone
      exact hnone
    · rcases h with hsome | ⟨-, hclosed | hreach⟩
      · exact Or.inl (Option.isSome_of_eq_some hsome)
      · exact absurd hclosed hflag
      · exact Or.inr hreach
  | offline =>
    simp only [hc] at h
    dsimp only
    cases hsnap : c.beacon.nodes.snapshot job.destID with
    | some addr => trivial
    | none =>
      refine ⟨h, ?_⟩
      simpa [NodeMap.snapshot, NodeMap.has] using hsnap
  | looked tier =>
    cases tier with
    | localNode addr => trivial
    | wss | other =>
      simp only [hc] at h
      exact h
  | lent tier obp =>
    simp only [hc] at h
    dsimp only
    unfold shapeJob
    cases hheader : tier.header cfg c.beacon job with
    | none =>
      cases tier with
      | wss | localNode addr => simp [Tier.header] at hheader
      | other => exact ⟨h.1, udpReachable_of_no_header h.2 hheader⟩
    | some p =>
      obtain ⟨addr, header⟩ := p
      dsimp only
      cases outSlice obp header job.payload.data with
      | none => trivial
      | some out =>
        cases addr with
        | some addr => trivial
        | none =>
          cases tier with
          | wss => exact h
          | localNode addr | other => simp [Tier.header] at hheader
  | framed obp =>
    simp only [hc] at h
    dsimp only
    cases hentry : c.wss.entry job.destID with
    | none =>
      have hnone : liveConn cfg job c = none := liveConn_of_entry_none hentry
      exact ⟨hnone, h.resolve_left (by simp [hnone])⟩
    | some p =>
      rcases @liveConn_of_entry cfg job c p hentry with hnone | ⟨hsome, -⟩
      · exact Or.inr ⟨hnone, h.resolve_left (by simp [hnone])⟩
      · exact Or.inl hsome
  | found obp p =>
    simp only [hc] at h
    dsimp only
    split_ifs with hflag
    · refine h.resolve_left fun hsome => ?_
      simp [flag_of_liveConn hsome] at hflag
    · exact h.imp_right And.left
  | writing obp p =>
    simp only [hc] at h
    dsimp only
    split_ifs with hok
    · trivial
    · rw [hc] at hwrite
      exact ⟨h, hwrite.resolve_left hok⟩
  | failed obp p =>
    simp only [hc] at h
    dsimp only
    refine ⟨?_, h.2⟩
    unfold liveConn at h ⊢
    split_ifs at h ⊢
    · exact WSS.Server.openConn_drop h.1
    · rfl
  | dropping obp p =>
    simp only [hc] at h
    dsimp only
    refine ⟨?_, h.2⟩
    unfold liveConn at h ⊢
    split_ifs at h ⊢
    · exact WSS.Server.openConn_dropFinish h.1
    · rfl

/-- A step of another goroutine does not move the worker. -/
theorem stage_beacon (e : RelayEvent) :
    (handNext cfg i job c (.beacon e)).stage = c.stage ∧
      (handNext cfg i job c (.beacon e)).wss = c.wss := by
  unfold handNext
  dsimp only
  split
  · split_ifs <;> exact ⟨rfl, rfl⟩
  · exact ⟨rfl, rfl⟩

/-- **One step.** -/
theorem Informed.next (h : Informed cfg job c) {st : HandStep}
    (hst : Undisturbed cfg i job c st) : Informed cfg job (handNext cfg i job c st) := by
  cases st with
  | worker outPick ok o => exact h.access outPick o hst
  | wss e => exact h.others rfl (fun _ hflag => WSS.Server.flag_step hflag e) hst
  | beacon e =>
    have hsame := @stage_beacon cfg i job c e
    exact h.others hsame.1 (fun _ hflag => by rwa [hsame.2]) hst

/-- The step that gives a frame up. -/
theorem stage_of_notFound {st : HandStep} (hbefore : c.stage ≠ .done .notFound)
    (hafter : (handNext cfg i job c st).stage = .done .notFound) :
    ∃ obp, c.stage = .unreached obp := by
  cases st with
  | wss e => exact absurd hafter hbefore
  | beacon e => exact absurd ((stage_beacon e).1.symm.trans hafter) hbefore
  | worker outPick ok o =>
    simp only [handNext] at hafter
    unfold accessNext at hafter
    cases hc : c.stage with
    | unreached obp => exact ⟨obp, rfl⟩
    | done fate =>
      simp only [hc] at hafter
      exact absurd hafter (by rwa [hc] at hbefore)
    | lent tier obp =>
      simp only [hc, shapeJob] at hafter
      split at hafter
      · cases hafter
      · split at hafter
        · cases hafter
        · split at hafter <;> cases hafter
    | looked tier | failed obp p | dropping obp p => simp [hc] at hafter
    | taken =>
      simp only [hc] at hafter
      split_ifs at hafter
      split at hafter <;> cases hafter
    | offline | framed obp =>
      simp only [hc] at hafter
      split at hafter <;> cases hafter
    | asking p | found obp p | writing obp p =>
      simp only [hc] at hafter
      split_ifs at hafter <;> cases hafter

/-- A write fails only for a destination that is in neither table. -/
theorem Informed.unreachable (h : Informed cfg job c) {st : HandStep}
    (hst : Undisturbed cfg i job c st) (hfails : writeFails job c st = true) :
    udpReachable c.beacon job.destID = false := by
  cases st with
  | wss e | beacon e => cases hfails
  | worker outPick ok o =>
    unfold Informed at h
    simp only [writeFails] at hfails
    cases hc : c.stage with
    | framed obp =>
      simp only [hc] at h hfails
      have hnone := @liveConn_of_entry_none cfg job c (Option.isNone_iff_eq_none.mp hfails)
      exact h.resolve_left (by simp [hnone])
    | found obp p =>
      simp only [hc] at h hfails
      exact (h.resolve_left fun hsome => by simp [flag_of_liveConn hsome] at hfails).2
    | writing obp p =>
      simp only [hc] at hfails
      have hwrite : WriteFits job c ok c.stage := hst
      rw [hc] at hwrite
      exact hwrite.resolve_left (by simpa using hfails)
    | _ => simp [hc] at hfails

/-- A frame that is given up although its destination is in a table. -/
theorem not_fallsBack_of_reachable {pre : List HandStep} {st : HandStep}
    (hbefore : (Transition.run (handNext cfg i job) c pre).stage ≠ .done .notFound)
    (hafter : (handNext cfg i job (Transition.run (handNext cfg i job) c pre) st).stage =
      .done .notFound)
    (hreach : udpReachable (Transition.run (handNext cfg i job) c pre).beacon job.destID = true) :
    ¬ Transition.Along (handNext cfg i job) (FallsBack cfg i job) c (pre ++ [st]) := by
  intro halong
  have hstep := (Transition.along_iff _).mp halong pre st [] rfl
  rw [(hstep.givesUp hbefore hafter).2] at hreach
  cases hreach

/-- **Failed writes fall back.** From any state in which a worker has just taken a job, in any order
    of its accesses and the steps of the WSS server and the beacon: if the others leave the
    destination alone while it matters and no `Write` fails for one that is in a table, the frame
    is given up only when the destination has no live connection and is in neither table, and never
    after a failed `WriteFrame` for one that is in a table. -/
theorem write_falls_back (cfg : Config) (i : Nat) (job : RelayJob) (c : InHand)
    (htaken : c.stage = .taken) (sts : List HandStep)
    (h : Transition.Along (handNext cfg i job) (Undisturbed cfg i job) c sts) :
    Transition.Along (handNext cfg i job) (FallsBack cfg i job) c sts := by
  refine Transition.along_of_invariant (handNext cfg i job) (Informed cfg job) ?_
    (fun c st hst hc => hc.next hst) (fun c st hst hc => ⟨?_, ?_⟩) h
  · simp [Informed, htaken]
  · intro hbefore hafter
    obtain ⟨obp, hc'⟩ := stage_of_notFound hbefore hafter
    simpa only [Informed, hc'] using hc
  · intro hfails hreach
    rw [hc.unreachable hst hfails] at hreach
    cases hreach

end

/-- A beacon with a WSS server. -/
def bridgedConfig : Config := { sampleConfig with wssBridge := true }

/-- Node 7 is registered over UDP and connected over WSS, when a frame for it comes. -/
def bothWays : InHand where
  beacon := runFrom bridgedConfig [] nodeSeven
  wss := WSS.runFrom [.install 7]
  stage := .taken

/-- A frame for node 7. -/
def jobForSeven : RelayJob := ⟨8, 7, ⟨⟨0, 1500⟩, [1]⟩⟩

/-- An access of the worker at which a write, if there is one, succeeds or not. -/
def access (ok : Bool) : HandStep := .worker 0 ok ⟨0, fun _ => true⟩

/-- The connection of node 7 is replaced after `IsConnected` and before `WriteFrame`. -/
def replacedInTime : List HandStep :=
  [access true, access true, .wss (.install 7), .beacon (.beacon ⟨2 * second, .reap⟩), access true,
    access true, access true, access true, access true]

/-- The frame goes to the new connection. -/
theorem write_falls_back_replacedInTime :
    (Transition.run (handNext bridgedConfig 7 jobForSeven) bothWays replacedInTime).stage =
        .done .sent ∧
      Transition.Along (handNext bridgedConfig 7 jobForSeven)
        (FallsBack bridgedConfig 7 jobForSeven) bothWays replacedInTime :=
  ⟨by decide +kernel,
    write_falls_back bridgedConfig 7 jobForSeven bothWays rfl replacedInTime (by decide +kernel)⟩

/-- The connection goes between `IsConnected` and `WriteFrame`. -/
def lostInBetween : List HandStep :=
  [access true, access true, .wss (.drop 0), access true, access true, access true, access true]

/-- Nobody knows node 7 when a frame for it comes. -/
def nobodyYet : InHand where
  beacon := runFrom bridgedConfig [] [⟨0, .listen (sampleAddr 0 0 0 0 9001)⟩]
  wss := WSS.runFrom []
  stage := .taken

/-- Node 7 registers after `Snapshot` has not found it. -/
def registersInBetween : List HandStep :=
  [access true, access true,
    .beacon (.beacon (sampleDatagram second (sampleAddr 10 0 0 1 4000) [0x01, 0, 0, 0, 7])),
    access true, access true, access true]

/-- **A lost connection loses the frame**: the connection goes between `IsConnected` and
    `WriteFrame`, or the write fails, and the frame is given up although the node is registered;
    as it is if the node registers between the lookups of tiers 1 and 2. -/
theorem lost_connection_not_found :
    bothWays.beacon.nodes.has 7 = true ∧
      ¬ Transition.Along (handNext bridgedConfig 7 jobForSeven)
        (FallsBack bridgedConfig 7 jobForSeven) bothWays lostInBetween ∧
      ¬ Transition.Along (handNext bridgedConfig 7 jobForSeven)
        (FallsBack bridgedConfig 7 jobForSeven) bothWays (List.replicate 10 (access false)) ∧
      ¬ Transition.Along (handNext bridgedConfig 7 jobForSeven)
        (FallsBack bridgedConfig 7 jobForSeven) nobodyYet registersInBetween := by
  -- the last access of each run gives the frame up
  refine ⟨by decide +kernel, ?_, ?_, ?_⟩
  · exact @not_fallsBack_of_reachable _ _ _ bothWays lostInBetween.dropLast (access true)
      (by decide +kernel) (by decide +kernel) (by decide +kernel)
  · exact @not_fallsBack_of_reachable _ _ _ bothWays (List.replicate 9 (access false))
      (access false) (by decide +kernel) (by decide +kernel) (by decide +kernel)
  · exact @not_fallsBack_of_reachable _ _ _ nobodyYet registersInBetween.dropLast (access true)
      (by decide +kernel) (by decide +kernel) (by decide +kernel)

end PilotBeacon
