import PilotBeacon.Server.RelayOrder

/-!
# Pooled Buffers in Shared Memory

The other modules take a relayed payload for a value. In the program it lies in a byte array
that comes from a pool, is written by the goroutine that received the datagram, read by a worker,
and used again for other packets; output buffers likewise. Here the arrays are explicit, `Get`,
`copy`, the channel operations, the sends and every single `Put` are steps of their own, and any
number of receiving goroutines and all workers take them in any order. A panic may unwind a
goroutine between any two of its steps.

The data of a `Slice` says what its owner wrote; a step uses its length only. What goes out is read
from the arrays.

- `Shared`, `sharedNext`: arrays, receivers and workers, interleaved
- `wire`: what a step puts on the wire, as the arrays are at that moment
- `written`: what its owner wrote for it
-/

namespace PilotBeacon

open PilotBeacon.Lib PilotBeacon.Net

/-! ## State -/

/-- Where a goroutine that handles a datagram is in `dispatchRelay`. -/
inductive ReceiverStage where
  | idle
  /-- Past the checks. -/
  | passed
  /-- With a buffer for the payload. -/
  | lent (buf : Buf)
  /-- The payload is copied. -/
  | copied (job : RelayJob)
deriving DecidableEq

/-- A receiving goroutine: the frame in its own read buffer, without the type byte. -/
structure Receiver where
  body : Bytes
  stage : ReceiverStage

/-- What the first lookups of a worker have found for a destination. -/
inductive Tier where
  | wss
  | localNode (addr : UDPAddr)
  | other
deriving DecidableEq

/-- Where a worker is in `relayWorkerLoop`. -/
inductive WorkerStage where
  /-- At the `select`. -/
  | waiting
  | took (job : RelayJob)
  | looked (job : RelayJob) (tier : Tier)
  /-- With an output buffer. -/
  | lent (job : RelayJob) (tier : Tier) (obp : Buf)
  /-- Before `WriteFrame`. -/
  | writing (job : RelayJob) (out : Slice)
  /-- Done with a job that is not batched; both buffers are to be returned. -/
  | releasing (job : RelayJob) (obp : Buf)
  | releasingOut (obp : Buf)
  /-- In `flush`: the first `k` messages were tried, `n` of them were sent. -/
  | sending (k n : Nat)
  /-- In `flush`: the buffers of the batch go back. -/
  | returning
deriving DecidableEq

structure Shared where
  server : Server
  /-- The arrays behind the payload buffers. -/
  payloads : Nat → Bytes
  /-- The arrays behind the output buffers. -/
  outs : Nat → Bytes
  receivers : Nat → Receiver
  stages : Nat → WorkerStage

/-- A fresh beacon. -/
def Shared.start (cfg : Config) (peers : List Text) : Shared where
  server := newWithPeers cfg peers
  payloads := fun _ => []
  outs := fun _ => []
  receivers := fun _ => ⟨[], .idle⟩
  stages := fun _ => .waiting

/-! ## Steps -/

inductive ReceiverStep where
  /-- A frame arrives and meets the checks of `dispatchRelay`. -/
  | receive (now : Int) (env : Env) (data : Bytes) (remote : UDPAddr) (bridgePeer : UInt32)
  | get (pick : Nat)
  | copy
  | enqueue
  | crash

inductive WorkerStep where
  | take
  | lookup (wssConnected : Bool)
  | getOut (pick : Nat)
  /-- Header and payload are written to the output buffer. -/
  | shape
  | writeFrame (ok : Bool)
  | release
  | timer
  | done
  /-- One message of the batch, by `WriteBatch` or by `WriteToUDP`. -/
  | send (ok : Bool)
  | putBack
  | crash

inductive SharedStep where
  | receiver (r : Nat) (a : ReceiverStep)
  | worker (i : Nat) (a : WorkerStep)
  /-- Whatever the other handlers do to the tables. -/
  | setTables (t : Tables)
  | listen (addr : UDPAddr)
  | close

/-- An array after `copy(buf, data)`: what was there before stays behind the data. -/
def overwrite (array data : Bytes) : Bytes := data ++ array.drop data.length

/-- The part of `dispatchRelay` before the copy, and whether the frame gets through. -/
def Server.admitRelay (cfg : Config) (env : Env) (now : Int) (s : Server) (data : Bytes)
    (src : RelaySourceKey) : Server × Bool :=
  if data.length < 8 then (s, false)
  else if env.breakerOpen .relay then ({ s with relayDropped := s.relayDropped + 1 }, false)
  else if !s.relayKnown cfg env (BigEndian.uint32 (data.drop 4)) then
    ({ s with relayNotFound := s.relayNotFound + 1 }, false)
  else
    let (allowed, rl) := s.relayRL.allow src now maxRelaysPerSourcePerSecond
    ({ s with relayRL := rl }, allowed && decide ((data.drop 8).length ≤ maxRelayPayload))

/-- The address, if it is a UDP one, and the header a job is sent with. -/
def Tier.header (cfg : Config) (s : Server) (job : RelayJob) :
    Tier → Option (Option UDPAddr × Bytes)
  | .wss => some (none, deliverHeader cfg job.senderID)
  | .localNode addr =>
    some (some addr, if (s.dstNodes.lookup job.destID).isSome then
      deliverDestHeader cfg job.senderID job.destID else deliverHeader cfg job.senderID)
  | .other =>
    (s.peerNodes.lookup job.destID).map fun addr =>
      (some addr, relayHeader cfg job.senderID job.destID)

/-- What tiers 1 to 3 find is what `route` finds. -/
theorem Tier.header_eq_route {cfg : Config} {s : Server} {job : RelayJob} {tier : Tier}
    (htier : tier = match s.nodes.snapshot job.destID with
      | some addr => .localNode addr
      | none => .other) :
    tier.header cfg s job = ((s.route job.destID).header cfg job).map fun p => (some p.1, p.2) := by
  subst htier
  unfold Server.route
  cases s.nodes.snapshot job.destID with
  | some addr =>
    dsimp only [Tier.header]
    cases (s.dstNodes.lookup job.destID).isSome <;> rfl
  | none =>
    dsimp only [Tier.header]
    cases s.peerNodes.lookup job.destID <;> rfl

namespace Shared

def setReceiver (c : Shared) (r : Nat) (rv : Receiver) : Shared :=
  { c with receivers := Function.update c.receivers r rv }

def setStage (c : Shared) (i : Nat) (stage : WorkerStage) : Shared :=
  { c with stages := Function.update c.stages i stage }

theorem setStage_setStage (c : Shared) (i : Nat) (s : Server) (stage stage' : WorkerStage) :
    setStage { c.setStage i stage with server := s } i stage' =
      setStage { c with server := s } i stage' := by
  simp [setStage, Function.update_idem]

/-- The bytes behind a slice of a payload buffer. -/
def payloadBytes (c : Shared) (s : Slice) : Bytes := (c.payloads s.buf.id).take s.data.length

/-- The bytes behind a slice of an output buffer. -/
def outBytes (c : Shared) (s : Slice) : Bytes := (c.outs s.buf.id).take s.data.length

def receiverNext (cfg : Config) (c : Shared) (r : Nat) (a : ReceiverStep) : Shared :=
  let rv := c.receivers r
  match rv.stage, a with
  | .idle, .receive now env data remote bridgePeer =>
    match cfg.proto.decode data with
    | .relay body =>
      let (s, admitted) := c.server.admitRelay cfg env now body (relaySource remote bridgePeer)
      setReceiver { c with server := s } r ⟨body, if admitted then .passed else .idle⟩
    -- the other handlers use no pooled buffer
    | _ => c
  | .passed, .get pick =>
    let (buf, pool) := c.server.pool.getPayload pick (rv.body.drop 8).length
    setReceiver { c with server := { c.server with pool := pool } } r ⟨rv.body, .lent buf⟩
  | .lent buf, .copy =>
    setReceiver
      { c with
        payloads := Function.update c.payloads buf.id
          (overwrite (c.payloads buf.id) (rv.body.drop 8)) }
      r ⟨rv.body, .copied ⟨BigEndian.uint32 rv.body, BigEndian.uint32 (rv.body.drop 4),
        ⟨buf, rv.body.drop 8⟩⟩⟩
  | .copied job, .enqueue =>
    setReceiver { c with server := (c.server.enqueueRelay cfg job).1 } r ⟨rv.body, .idle⟩
  -- the frame is dropped, with the buffer if there is one
  | _, .crash => setReceiver c r ⟨rv.body, .idle⟩
  | _, _ => c

/-- A panic in worker `i`: batch and job are lost. -/
def workerCrash (c : Shared) (i : Nat) : Shared :=
  setStage { c with server := c.server.workerPanic i } i .waiting

/-- The end of a round that may have batched something. -/
def flushFrom (c : Shared) (i : Nat) : Shared :=
  c.setStage i (if (c.server.workers i).msgs = [] then .waiting else .sending 0 0)

/-- Append to the batch; go on to flush it if that fills it. -/
def batch (c : Shared) (i : Nat) (m : Message) (payload : Buf) : Shared :=
  let w := c.server.workers i
  let w := { w with
    msgs := w.msgs ++ [m]
    payloadsToReturn := w.payloadsToReturn ++ [payload]
    outBufsToReturn := w.outBufsToReturn ++ [m.buffer.buf] }
  if relayBatchCap ≤ w.msgs.length then
    setStage { c with server := c.server.setWorker i { w with timerActive := false } } i
      (.sending 0 0)
  else
    setStage { c with server := c.server.setWorker i { w with timerActive := true } } i .waiting

/-- Fill the output buffer from the payload's array. -/
def fillOut (c : Shared) (obp : Buf) (header : Bytes) (payload : Slice) : Shared :=
  { c with
    outs := Function.update c.outs obp.id
      (overwrite (c.outs obp.id) (header ++ c.payloadBytes payload)) }

def shape (cfg : Config) (c : Shared) (i : Nat) (job : RelayJob) (tier : Tier) (obp : Buf) :
    Shared :=
  match tier.header cfg c.server job with
  | none =>
    setStage
      { c with server := { c.server with relayNotFound := c.server.relayNotFound + 1 } } i
      (.releasing job obp)
  | some (addr, header) =>
    match outSlice obp header job.payload.data with
    | none => c.workerCrash i
    | some out =>
      let c := c.fillOut obp header job.payload
      match addr with
      | none => c.setStage i (.writing job out)
      | some addr => c.batch i ⟨out, addr, job.destID⟩ job.payload.buf

/-- `job := <-ch`, once the workers are started. -/
def take (c : Shared) (i : Nat) : Shared :=
  match c.stages i, c.server.relayChs i with
  | .waiting, job :: rest =>
    if c.server.conn.isNone || (c.server.workers i).stopped then c
    else
      setStage
        { c with
          server := { c.server with relayChs := Function.update c.server.relayChs i rest } }
        i (.took job)
  | _, _ => c

/-- `IsConnected`, then `Snapshot`. -/
def lookup (cfg : Config) (c : Shared) (i : Nat) (wssConnected : Bool) : Shared :=
  match c.stages i with
  | .took job =>
    c.setStage i <| .looked job <|
      if cfg.wssBridge && wssConnected then .wss
      else
        match c.server.nodes.snapshot job.destID with
        | some addr => .localNode addr
        | none => .other
  | _ => c

/-- `s.outBufPool.Get()` -/
def getOut (c : Shared) (i pick : Nat) : Shared :=
  match c.stages i with
  | .looked job tier =>
    setStage
      { c with
        server :=
          { c.server with
            outBufPool := (c.server.outBufPool.get pick (maxRelayPayload + 9)).2 } }
      i (.lent job tier (c.server.outBufPool.get pick (maxRelayPayload + 9)).1)
  | _ => c

/-- `WriteFrame`, which may find the connection gone: that counts as not found. -/
def writeFrame (c : Shared) (i : Nat) (ok : Bool) : Shared :=
  match c.stages i with
  | .writing job out =>
    setStage
      { c with
        server :=
          { c.server with
            relayForwarded := c.server.relayForwarded + if ok then 1 else 0
            relayNotFound := c.server.relayNotFound + if ok then 0 else 1 } }
      i (.releasing job out.buf)
  | _ => c

/-- The payload's buffer goes back, then the output buffer. -/
def release (c : Shared) (i : Nat) : Shared :=
  match c.stages i with
  | .releasing job obp =>
    setStage { c with server := { c.server with pool := c.server.pool.put job.payload.buf } } i
      (.releasingOut obp)
  | .releasingOut obp =>
    setStage { c with server := { c.server with outBufPool := c.server.outBufPool.put obp } } i
      .waiting
  | _ => c

/-- A case of the `select` that flushes, and leaves the worker's flags as in `w`. -/
def selectFlush (c : Shared) (i : Nat) (enabled : Bool) (w : Worker) : Shared :=
  match c.stages i with
  | .waiting =>
    if c.server.conn.isNone || (c.server.workers i).stopped || !enabled then c
    else flushFrom { c with server := c.server.setWorker i w } i
  | _ => c

/-- The next message of the batch; after the last one nobody reads the messages any more. -/
def send (c : Shared) (i : Nat) (ok : Bool) : Shared :=
  match c.stages i with
  | .sending k n =>
    if k < (c.server.workers i).msgs.length then
      c.setStage i (.sending (k + 1) (if ok then n + 1 else n))
    else
      setStage
        { c with
          server := { c.server with relayForwarded := c.server.relayForwarded + n }.setWorker i
            { c.server.workers i with msgs := [] } }
        i .returning
  | _ => c

/-- One buffer of the batch goes back, payloads first. -/
def putBack (c : Shared) (i : Nat) : Shared :=
  match c.stages i, (c.server.workers i).payloadsToReturn, (c.server.workers i).outBufsToReturn with
  | .returning, buf :: bufs, _ =>
    setStage
      { c with
        server := { c.server with pool := c.server.pool.put buf }.setWorker i
          { c.server.workers i with payloadsToReturn := bufs } }
      i .returning
  | .returning, [], obp :: obps =>
    setStage
      { c with
        server := { c.server with outBufPool := c.server.outBufPool.put obp }.setWorker i
          { c.server.workers i with outBufsToReturn := obps } }
      i .returning
  | .returning, [], [] => c.setStage i .waiting
  | _, _, _ => c

/-- A step of worker `i`; one that its stage does not allow does nothing. -/
def workerNext (cfg : Config) (c : Shared) (i : Nat) : WorkerStep → Shared
  | .take => c.take i
  | .lookup wssConnected => c.lookup cfg i wssConnected
  | .getOut pick => c.getOut i pick
  | .shape =>
    match c.stages i with
    | .lent job tier obp => c.shape cfg i job tier obp
    | _ => c
  | .writeFrame ok => c.writeFrame i ok
  | .release => c.release i
  | .timer =>
    c.selectFlush i (c.server.workers i).timerActive
      { c.server.workers i with timerActive := false }
  | .done => c.selectFlush i c.server.done { c.server.workers i with stopped := true }
  | .send ok => c.send i ok
  | .putBack => c.putBack i
  | .crash => c.workerCrash i

end Shared

/-- One step of the beacon with `receivers` receiving goroutines. -/
def sharedNext (cfg : Config) (receivers : Nat) (c : Shared) : SharedStep → Shared
  | .receiver r a => if r < receivers then c.receiverNext cfg r a else c
  | .worker i a => if i < cfg.relayWorkerCount then c.workerNext cfg i a else c
  | .setTables t => { c with server := c.server.withTables t }
  | .listen addr => { c with server := { c.server with conn := some (c.server.conn.getD addr) } }
  | .close => { c with server := { c.server with done := true } }

/-! ## Transmissions -/

/-- What a step puts on the wire, if `bytes` are the bytes behind an output buffer's slice. -/
def transmits (bytes : Slice → Bytes) (cfg : Config) (c : Shared) : SharedStep → List Sent
  | .worker i (.writeFrame true) =>
    match c.stages i with
    | .writing job out =>
      if i < cfg.relayWorkerCount then [.wss job.destID (bytes out)] else []
    | _ => []
  | .worker i (.send true) =>
    match c.stages i with
    | .sending k _ =>
      if i < cfg.relayWorkerCount then
        ((c.server.workers i).msgs[k]?).toList.map fun m =>
          .udp { m with buffer := ⟨m.buffer.buf, bytes m.buffer⟩ }
      else []
    | _ => []
  | _ => []

/-- What a step puts on the wire: what the arrays contain at that moment. -/
def wire (cfg : Config) (c : Shared) (e : SharedStep) : List Sent := transmits c.outBytes cfg c e

/-- What was written for the wire. -/
def written (cfg : Config) (c : Shared) (e : SharedStep) : List Sent :=
  transmits Slice.data cfg c e

end PilotBeacon
