import PilotBeacon.Server.Beacon

/-!
# The Process Around a Beacon (`ListenAndServe`, `readLoop`, `readLoopBatches`, `Close`)

The beacon of `step` takes events from anywhere, one at a time. Here are the goroutines that
produce them. `ListenAndServe` binds one socket per reader and closes those it has bound if one
bind fails; a reader pulls batches of datagrams from its socket into buffers it uses again and
again, and hands them over one by one; `Close` runs its teardown once, whoever calls it and however
often.

Each goroutine takes its own steps, in any order, beside the events that do not come from a
socket (workers, timers, the registry, frames of the WSS bridge). A handler is one step of the
reader that runs it; how handlers of different readers overlap is not the matter here.

`ListenAndServe` may be called again after it failed. A second call while the first serves ends in
a panic of the source (`readyCh` is closed twice) and has no step here. `Close` may run beside
`ListenAndServe`; it reads `s.conns` in one step, as the range loop does. A socket is bound before
it is appended to `s.conns`, and `Close` may look in between.
-/

namespace PilotBeacon

open PilotBeacon.Lib PilotBeacon.Net

/-! ## Batches of datagrams -/

def readBatchCap : Nat := 32

def readBufferSize : Nat := 65535

/-- What the kernel has for a reader: a datagram, and its source if that is a UDP address. -/
structure Arrived where
  addr : Option UDPAddr
  data : Bytes

/-- What a reader should hand over of it: nothing of an empty datagram, and no more than a buffer
    holds. -/
def Arrived.packet? (x : Arrived) : Option (UDPAddr × Bytes) :=
  if x.data.length < 1 then none else x.addr.map fun a => (a, x.data.take readBufferSize)

/-- An `ipv4.Message` of a reader: length and source of the last datagram in it, and the buffer. -/
structure ReadSlot where
  n : Nat
  addr : Option UDPAddr
  buffer : Bytes

namespace ReadSlot

def fresh : ReadSlot := ⟨0, none, List.replicate readBufferSize 0⟩

/-- The kernel writes over the start of the buffer, and cuts a datagram that is longer. -/
def fill (m : ReadSlot) (x : Arrived) : ReadSlot :=
  let data := x.data.take m.buffer.length
  ⟨data.length, x.addr, data ++ m.buffer.drop data.length⟩

/-- What `handlePacket` is given: `m.Buffers[0][:m.N]` and the source. -/
def packet? (m : ReadSlot) : Option (UDPAddr × Bytes) :=
  if m.n < 1 then none else m.addr.map fun a => (a, m.buffer.take m.n)

end ReadSlot

/-- `ReadBatch`: the first messages are filled, the others keep what they had. -/
def fillSlots : List ReadSlot → List Arrived → List ReadSlot
  | m :: ms, x :: xs => m.fill x :: fillSlots ms xs
  | ms, [] => ms
  | [], _ => []

/-- The messages `readLoopBatches` makes when it starts. -/
def freshSlots : List ReadSlot := List.replicate readBatchCap ReadSlot.fresh

/-! ## A reader -/

inductive ReaderStage where
  | idle
  /-- In `ReadBatch`. -/
  | reading
  /-- Message `i` of the `n` that were read is next. -/
  | handling (i n : Nat)
  | ended
deriving DecidableEq

structure Reader where
  stage : ReaderStage
  msgs : List ReadSlot

namespace Reader

/-- `ReadBatch` returns: `none` is an error other than that of a closed socket. -/
def read (rd : Reader) (closed done : Bool) (result : Option (List Arrived)) : Reader :=
  match rd.stage with
  | .reading =>
    if closed then { rd with stage := .ended }
    else
      match result with
      | none => if done then { rd with stage := .ended } else rd
      | some xs => ⟨.handling 0 (xs.take rd.msgs.length).length, fillSlots rd.msgs xs⟩
  | _ => rd

/-- What is handed over when the loop over the batch takes its next message. -/
def current (rd : Reader) : Option (UDPAddr × Bytes) :=
  match rd.stage with
  | .handling i n => if i < n then (rd.msgs[i]?).bind ReadSlot.packet? else none
  | _ => none

/-- The loop over the batch goes on, or ends. -/
def handle (rd : Reader) : Reader :=
  match rd.stage with
  | .handling i n => { rd with stage := if i < n then .handling (i + 1) n else .reading }
  | _ => rd

/-- A panic around `handlePacket`, which recovers from its own: `readLoop` starts again with new
    messages, unless the beacon is being closed. -/
def unwind (rd : Reader) (done : Bool) : Reader :=
  match rd.stage with
  | .reading | .handling _ _ =>
    if done then { rd with stage := .ended } else ⟨.reading, freshSlots⟩
  | _ => rd

end Reader

/-! ## Sockets and calls -/

/-- A bound socket. The two counts say who called its `Close`; the code keeps no such record, and
    a step looks only at whether both are zero. -/
structure Socket where
  addr : UDPAddr
  cleanups : Nat
  teardowns : Nat

def Socket.closed (s : Socket) : Bool := decide (0 < s.cleanups + s.teardowns)

/-- The machine: `runtime.NumCPU()` and `MaxReusePortShards`, of which 0 means no limit. -/
structure Platform where
  numCPU : Nat
  maxReusePortShards : Nat

/-- How many sockets and readers `ListenAndServe` wants. -/
def Platform.readers (pl : Platform) : Nat :=
  let readers := if pl.numCPU * 2 < 2 then 2 else pl.numCPU * 2
  if 0 < pl.maxReusePortShards ∧ pl.maxReusePortShards < readers then pl.maxReusePortShards
  else readers

/-- How far `ListenAndServe` is. -/
inductive ServeStage where
  | idle
  /-- About to bind socket `i`. -/
  | binding (i : Nat)
  /-- Socket `i` is bound, it is number `c`, and it is not in `s.conns` yet. -/
  | opened (i c : Nat)
  /-- Binding socket `i` failed; these sockets are still to be closed. -/
  | cleaning (i : Nat) (rest : List Nat)
  /-- Returned with the error `listen i`. -/
  | failed (i : Nat)
  | serving
deriving DecidableEq

/-- The socket that is bound and not in `s.conns` yet. -/
def ServeStage.inHand : ServeStage → Option Nat
  | .opened _ c => some c
  | _ => none

/-- What closing a socket can report. -/
inductive CloseError where
  | alreadyClosed
  | system
deriving DecidableEq

/-- How far the function given to `closeOnce` is, and in whose call of `Close` it runs. -/
inductive TeardownStage where
  | fresh
  | entered (k : Nat)
  /-- `done` is closed. -/
  | signalled (k : Nat)
  | closing (k : Nat) (rest : List Nat) (firstErr : Option CloseError)
  | finished
deriving DecidableEq

/-- How far a call of `Close` is. -/
inductive CallerStage where
  | outside
  | inside
  | returned (err : Option CloseError)
deriving DecidableEq

/-! ## The process -/

/-- The beacon, every socket ever bound by number, `s.conns`, the sockets that workers send from,
    and the goroutines. Reader `r` reads from `conns[r]`. -/
structure Process where
  server : Server
  sockets : List Socket
  conns : List Nat
  sendConns : List Nat
  serve : ServeStage
  teardown : TeardownStage
  closeErr : Option CloseError
  callers : Nat → CallerStage
  readers : Nat → Reader

inductive ProcessStep where
  /-- `ListenAndServe` is called. -/
  | listen
  /-- `listenReusePort` returns a socket, or an error. -/
  | bind (result : Option UDPAddr)
  /-- The socket that was bound has its buffer sizes and is appended to `s.conns`. -/
  | append
  /-- A socket of a failed `ListenAndServe` is closed. -/
  | cleanup
  /-- All sockets are bound: the goroutines start. -/
  | serve (now : Int)
  | read (r : Nat) (result : Option (List Arrived))
  | handle (r : Nat) (now : Int) (env : Env)
  | unwind (r : Nat)
  /-- Call `k` of `Close` goes on; `ok` says whether the system closes an open socket cleanly. -/
  | close (k : Nat) (now : Int) (ok : Bool)
  /-- What does not come from a socket. -/
  | beacon (e : Event)

namespace Process

def new (cfg : Config) (peers : List Text) : Process where
  server := newWithPeers cfg peers
  sockets := []
  conns := []
  sendConns := []
  serve := .idle
  teardown := .fresh
  closeErr := none
  callers := fun _ => .outside
  readers := fun _ => ⟨.idle, freshSlots⟩

def isClosed (p : Process) (c : Nat) : Bool := (p.sockets[c]?).any Socket.closed

/-- The socket of reader `r` is closed. -/
def readerClosed (p : Process) (r : Nat) : Bool := (p.conns[r]?).any p.isClosed

def port? (p : Process) (c : Nat) : Option UInt16 := (p.sockets[c]?).map fun s => s.addr.port

/-- All sockets are bound to the port of the first. -/
def sharedPort (p : Process) : Bool :=
  match p.conns with
  | [] => true
  | c :: rest => rest.all fun d => p.port? d == p.port? c

def setReader (p : Process) (r : Nat) (x : Reader) : Process :=
  { p with readers := Function.update p.readers r x }

def setCaller (p : Process) (k : Nat) (x : CallerStage) : Process :=
  { p with callers := Function.update p.callers k x }

/-- The event that the beacon takes part in at a step, if any. -/
def emitted (pl : Platform) (p : Process) : ProcessStep → Option Event
  | .serve now =>
    match p.serve with
    | .binding i =>
      if i < pl.readers then none
      else
        -- `s.conn` is the first socket
        (p.conns.head?.bind (p.sockets[·]?)).map fun s => ⟨now, .listen s.addr⟩
    | _ => none
  | .handle r now env => (p.readers r).current.map fun x => ⟨now, .packet env x.2 x.1 0⟩
  | .close k now _ =>
    if p.callers k = .inside ∧ p.teardown = .entered k then some ⟨now, .close⟩ else none
  | .beacon e =>
    match e.act with
    | .listen _ | .close => none
    -- a frame without a bridge peer is a datagram, and those come from readers
    | .packet _ _ _ bridgePeer => if bridgePeer = 0 then none else some e
    | _ => some e
  | _ => none

/-- `ListenAndServe` is called. -/
def listenStep (p : Process) : Process :=
  match p.serve with
  | .idle | .failed _ => { p with conns := [], serve := .binding 0 }
  | _ => p

def bindStep (pl : Platform) (p : Process) (result : Option UDPAddr) : Process :=
  match p.serve with
  | .binding i =>
    if i < pl.readers then
      match result with
      | some addr =>
        { p with
          sockets := p.sockets ++ [⟨addr, 0, 0⟩]
          serve := .opened i p.sockets.length }
      | none => { p with serve := .cleaning i p.conns }
    else p
  | _ => p

def appendStep (p : Process) : Process :=
  match p.serve with
  | .opened i c => { p with conns := p.conns ++ [c], serve := .binding (i + 1) }
  | _ => p

def cleanupStep (p : Process) : Process :=
  match p.serve with
  | .cleaning i (c :: rest) =>
    { p with
      sockets := p.sockets.modify c fun s => { s with cleanups := s.cleanups + 1 }
      serve := .cleaning i rest }
  | .cleaning i [] => { p with serve := .failed i }
  | _ => p

def serveStep (pl : Platform) (p : Process) : Process :=
  match p.serve with
  | .binding i =>
    if i < pl.readers then p
    else
      { p with
        sendConns := if p.sharedPort then p.conns else p.conns.take 1
        serve := .serving
        readers := fun r => if r < p.conns.length then ⟨.reading, freshSlots⟩ else p.readers r }
  | _ => p

/-- What closing socket `c` reports: a socket that is closed already says so. -/
def closeResult (p : Process) (c : Nat) (ok : Bool) : Option CloseError :=
  if p.isClosed c then some .alreadyClosed else if ok then none else some .system

/-- `closeOnce.Do` and the return after it, in call `k`. -/
def closeStep (p : Process) (k : Nat) (ok : Bool) : Process :=
  match p.callers k with
  | .outside =>
    -- the first to come runs the teardown, the others wait for its end
    if p.teardown = .fresh then { p.setCaller k .inside with teardown := .entered k }
    else p.setCaller k .inside
  | .inside =>
    match p.teardown with
    | .fresh => p
    | .entered j => if j = k then { p with teardown := .signalled k } else p
    | .signalled j => if j = k then { p with teardown := .closing k p.conns none } else p
    | .closing j [] firstErr =>
      if j = k then { p with teardown := .finished, closeErr := firstErr } else p
    | .closing j (c :: rest) firstErr =>
      if j = k then
        { p with
          sockets := p.sockets.modify c fun s => { s with teardowns := s.teardowns + 1 }
          teardown := .closing k rest (firstErr.or (p.closeResult c ok)) }
      else p
    | .finished => p.setCaller k (.returned p.closeErr)
  | .returned _ => p

/-- Everything but the beacon. -/
def goroutineStep (pl : Platform) (p : Process) : ProcessStep → Process
  | .listen => p.listenStep
  | .bind result => p.bindStep pl result
  | .append => p.appendStep
  | .cleanup => p.cleanupStep
  | .serve _ => p.serveStep pl
  | .read r result => p.setReader r ((p.readers r).read (p.readerClosed r) p.server.done result)
  | .handle r _ _ => p.setReader r (p.readers r).handle
  | .unwind r => p.setReader r ((p.readers r).unwind p.server.done)
  | .close k _ ok => p.closeStep k ok
  | .beacon _ => p

end Process

/-- The process after a step: a goroutine goes on, and the beacon takes part if it is concerned. -/
def processNext (cfg : Config) (pl : Platform) (p : Process) (e : ProcessStep) : Process :=
  { p.goroutineStep pl e with server := ((p.emitted pl e).map (next cfg p.server)).getD p.server }

def processRun (cfg : Config) (pl : Platform) (peers : List Text) (es : List ProcessStep) :
    Process :=
  Transition.run (processNext cfg pl) (Process.new cfg peers) es

/-- What a run from the start shows. -/
def processShows {α : Type} (cfg : Config) (pl : Platform) (peers : List Text)
    (f : Process → ProcessStep → List α) (es : List ProcessStep) : List α :=
  Transition.observe (processNext cfg pl) f (Process.new cfg peers) es

theorem Platform.readers_pos (pl : Platform) : 0 < pl.readers := by
  simp only [Platform.readers]
  split_ifs <;> omega

/-- A step of a process leaves the beacon alone, or is an event of it. -/
theorem processNext_server (cfg : Config) (pl : Platform) (p : Process) (e : ProcessStep) :
    (processNext cfg pl p e).server = p.server ∨
      ∃ ev, p.emitted pl e = some ev ∧ (processNext cfg pl p e).server = next cfg p.server ev := by
  simp only [processNext]
  cases h : p.emitted pl e <;> simp

end PilotBeacon
