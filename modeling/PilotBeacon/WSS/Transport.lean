import Mathlib.Logic.Function.Basic
import PilotBeacon.Lib.Transition
import PilotBeacon.WSS.Auth

/-!
# The Daemon's WSS Transport

`daemonwss.Transport` after a successful `Dial`: the goroutine of `supervise` (with its
`drainReads` and its redials), any number of `Send` and `Recv` calls, and `Close`. They meet in
`t.conn`, the `closed` flag, the lifetime context and the bounded channel `recvCh`, and run
interleaved: each step below is one access to what they share, or one call into the websocket
library. Connections are numbered in the order in which `dialAndAuth` returned them, from the
one of `Dial` on.

- `superviseStep`, `sendStep`, `closeStep`, `recv`: the steps of each party, undefined while
  the party blocks
- `next`: one step of the system
- `HonoursContext`: a read or a dial under the cancelled lifetime context fails
- `Consistent`, `consistent_run`: what every run keeps, whatever the library does
-/

namespace PilotBeacon.WSS.Daemon

open PilotBeacon.Lib

/-! ## The state -/

/-- `recvItem`, and what `Recv` returns. -/
inductive RecvItem where
  | frame (body : Bytes)
  | errClosed
deriving DecidableEq

/-- Where `supervise` stands: before its access to the shared state of that name. -/
inductive SuperviseStage where
  /-- The `closed` test at the head of the loop. -/
  | top
  /-- Reading `t.conn`. -/
  | readConn
  /-- The `closed` test at the head of the loop of `drainReads(conn)`. -/
  | drainTop (conn : Nat)
  /-- `conn.Read(t.lifetimeCtx)`. -/
  | reading (conn : Nat)
  /-- The `closed` test after a read error. -/
  | readFailed (conn : Nat)
  /-- The `select` that hands a frame over to `Recv`. -/
  | handing (conn : Nat) (frame : Bytes)
  /-- The `closed` test after `drainReads(conn)`. -/
  | drained (conn : Nat)
  /-- Clearing `t.conn` if it is still `conn`. -/
  | clearing (conn : Nat)
  /-- `conn.Close` before the backoff. -/
  | closing (conn : Nat)
  /-- `sleepOrClosed`. -/
  | sleeping
  /-- `dialAndAuth`. -/
  | dialing
  /-- The `closed` test after `dialAndAuth`. -/
  | dialed (newConn : Option Nat)
  /-- `newConn.Close`: the transport was closed during the dial. -/
  | dropping (newConn : Nat)
  /-- Storing `t.conn = newConn`. -/
  | installing (newConn : Nat)
  | exited
deriving DecidableEq

/-- Where the body of `closeOnce.Do` stands. -/
inductive CloseStage where
  | idle
  /-- `closed` is set. -/
  | marked
  /-- The lifetime context is cancelled. -/
  | cancelled
  /-- `t.conn` is taken (and nil now); the taken connection is to be closed. -/
  | holding (conn : Option Nat)
  /-- Waiting for `superviseDoneCh`. -/
  | waiting
  | returned
deriving DecidableEq

/-- What `Send` returns. -/
inductive SendResult where
  | ok (n : Nat)
  | errClosed
  | errReconnecting
  | errSend
deriving DecidableEq

/-- Where a call of `Send` stands. -/
inductive SendStage where
  | notCalled
  /-- Past its `closed` test. -/
  | entered (frame : Bytes)
  /-- `conn.Write`. `writeMu` is held for this one step only. -/
  | writing (conn : Nat) (frame : Bytes)
  /-- The `closed` test after a write error. -/
  | failed (conn : Nat)
  /-- Clearing `t.conn` if it is still `conn`. -/
  | clearing (conn : Nat)
  | returned (result : SendResult)
deriving DecidableEq

/-- `minBackoff` of `supervise`, in nanoseconds. -/
def minBackoff : Nat := 250 * 1000000

/-- `maxBackoff` of `supervise`, in nanoseconds. -/
def maxBackoff : Nat := 30 * 1000000000

/-- The `Transport`, with the program counters of its goroutines and the library's side of
    the connections: how many were opened, and which of them are closed. -/
structure Transport where
  conn : Option Nat
  recvCh : List RecvItem
  recvClosed : Bool
  closed : Bool
  cancelled : Bool
  superviseDone : Bool
  backoff : Nat
  supervisor : SuperviseStage
  closer : CloseStage
  sends : Nat → SendStage
  opened : Nat
  shut : List Nat

namespace Transport

/-- What `Dial` returns, with its connection installed and `supervise` started. -/
def dial : Transport :=
  { conn := some 0, recvCh := [], recvClosed := false, closed := false, cancelled := false,
    superviseDone := false, backoff := minBackoff, supervisor := .top, closer := .idle,
    sends := fun _ => .notCalled, opened := 1, shut := [] }

/-- The connection is closed, by `conn.Close` or by the library. -/
def shutConn (t : Transport) (conn : Nat) : Transport :=
  { t with shut := conn :: t.shut }

/-- The library's part of a call on `conn` that returns: whether it closed it. -/
def libraryCall (t : Transport) (conn : Nat) (shuts : Bool) : Transport :=
  { t with shut := if shuts then conn :: t.shut else t.shut }

/-- `connMu.Lock(); if t.conn == conn { t.conn = nil }; connMu.Unlock()`. -/
def clearConn (t : Transport) (conn : Nat) : Transport :=
  { t with conn := if t.conn = some conn then none else t.conn }

/-- `supervise` returns: its deferred call closes `superviseDoneCh`. -/
def exit (t : Transport) : Transport :=
  { t with supervisor := .exited, superviseDone := true }

/-! ## The steps -/

/-- What happens to `supervise`: it goes on by itself, or its environment answers. -/
inductive SuperviseAct where
  | go
  /-- `conn.Read` returns; `shuts` says whether the library closed the connection by then. -/
  | read (received : Received) (shuts : Bool)
  /-- `superviseDoneCh` wins the `select` of `drainReads`. -/
  | done
  | timer
  | tick
  | dialOk
  | dialFails
deriving DecidableEq

/-- One step of `supervise`. -/
def superviseStep (recvBuffer : Nat) (t : Transport) (act : SuperviseAct) : Option Transport :=
  match t.supervisor, act with
  | .top, .go =>
    if t.closed then some t.exit else some { t with supervisor := .readConn }
  | .readConn, .go =>
    match t.conn with
    | some conn => some { t with supervisor := .drainTop conn }
    | none => some { t with supervisor := .sleeping }
  | .drainTop conn, .go =>
    if t.closed then some { t with supervisor := .drained conn }
    else some { t with supervisor := .reading conn }
  | .reading conn, .read received shuts =>
    match received with
    | .failed => some { t.libraryCall conn shuts with supervisor := .readFailed conn }
    | .text _ => some { t.libraryCall conn shuts with supervisor := .drainTop conn }
    | .binary body => some { t.libraryCall conn shuts with supervisor := .handing conn body }
  | .readFailed conn, .go =>
    -- a full channel takes no error: the `select` has a default
    if t.closed ∧ t.recvCh.length < recvBuffer then
      some { t with recvCh := t.recvCh ++ [.errClosed], supervisor := .drained conn }
    else some { t with supervisor := .drained conn }
  | .handing conn frame, .go =>
    -- this one has none
    if t.recvCh.length < recvBuffer then
      some { t with recvCh := t.recvCh ++ [.frame frame], supervisor := .drainTop conn }
    else none
  | .handing conn _, .done =>
    if t.superviseDone then some { t with supervisor := .drained conn } else none
  | .drained conn, .go =>
    if t.closed then some t.exit else some { t with supervisor := .clearing conn }
  | .clearing conn, .go => some { t.clearConn conn with supervisor := .closing conn }
  | .closing conn, .go => some { t.shutConn conn with supervisor := .sleeping }
  | .sleeping, .timer => some { t with supervisor := .dialing }
  | .sleeping, .tick => if t.closed then some t.exit else some t
  | .dialing, .dialOk =>
    some { t with opened := t.opened + 1, supervisor := .dialed (some t.opened) }
  | .dialing, .dialFails => some { t with supervisor := .dialed none }
  | .dialed (some newConn), .go =>
    if t.closed then some { t with supervisor := .dropping newConn }
    else some { t with supervisor := .installing newConn }
  | .dialed none, .go =>
    if t.closed then some t.exit
    else some { t with backoff := min (t.backoff * 2) maxBackoff, supervisor := .top }
  | .dropping newConn, .go => some (t.shutConn newConn).exit
  | .installing newConn, .go =>
    some { t with conn := some newConn, backoff := minBackoff, supervisor := .top }
  | _, _ => none

/-- What happens to a call of `Send`. -/
inductive SendAct where
  | call (frame : Bytes)
  | go
  | writeOk
  /-- `conn.Write` fails; `shuts` says whether the library closed the connection by then. -/
  | writeFails (shuts : Bool)
deriving DecidableEq

/-- The `i`-th call of `Send` moves on. -/
def setSend (t : Transport) (i : Nat) (stage : SendStage) : Transport :=
  { t with sends := Function.update t.sends i stage }

/-- One step of the `i`-th call of `Send`. -/
def sendStep (t : Transport) (i : Nat) (act : SendAct) : Option Transport :=
  match t.sends i, act with
  | .notCalled, .call frame =>
    if t.closed then some (t.setSend i (.returned .errClosed))
    else some (t.setSend i (.entered frame))
  | .entered frame, .go =>
    match t.conn with
    | some conn => some (t.setSend i (.writing conn frame))
    | none => some (t.setSend i (.returned .errReconnecting))
  | .writing _ frame, .writeOk => some (t.setSend i (.returned (.ok frame.length)))
  | .writing conn _, .writeFails shuts =>
    some ((t.libraryCall conn shuts).setSend i (.failed conn))
  | .failed conn, .go =>
    if t.closed then some (t.setSend i (.returned .errClosed))
    else some (t.setSend i (.clearing conn))
  | .clearing conn, .go => some ((t.clearConn conn).setSend i (.returned .errSend))
  | _, _ => none

/-- One step of `Close`; later calls of `Close` wait in `closeOnce` for this one. -/
def closeStep (t : Transport) : Option Transport :=
  match t.closer with
  | .idle => some { t with closed := true, closer := .marked }
  | .marked => some { t with cancelled := true, closer := .cancelled }
  | .cancelled => some { t with conn := none, closer := .holding t.conn }
  | .holding (some conn) => some { t.shutConn conn with closer := .waiting }
  | .holding none => some { t with closer := .waiting }
  | .waiting =>
    if t.superviseDone then some { t with recvClosed := true, closer := .returned } else none
  | .returned => none

/-- `Recv`: what it returns, nothing while it blocks. -/
def recv (t : Transport) : Option (RecvItem × Transport) :=
  match t.recvCh with
  | item :: recvCh => some (item, { t with recvCh := recvCh })
  | [] => if t.recvClosed then some (.errClosed, t) else none

inductive Event where
  | supervise (act : SuperviseAct)
  | send (i : Nat) (act : SendAct)
  | recv
  | close
deriving DecidableEq

/-- One step of the system, if the party can take it. -/
def step (recvBuffer : Nat) (t : Transport) : Event → Option Transport
  | .supervise act => t.superviseStep recvBuffer act
  | .send i act => t.sendStep i act
  | .recv => t.recv.map Prod.snd
  | .close => t.closeStep

/-- One step of the system; a party that is blocked stays where it is. -/
def next (recvBuffer : Nat) (t : Transport) (e : Event) : Transport :=
  (t.step recvBuffer e).getD t

/-- The transport after the events `es`. -/
def runFrom (recvBuffer : Nat) (t : Transport) (es : List Event) : Transport :=
  Transition.run (next recvBuffer) t es

/-- `conn.Read` and `dialAndAuth` under the cancelled lifetime context return an error. -/
def HonoursContext (t : Transport) : Event → Prop
  | .supervise (.read .failed _) => True
  | .supervise (.read _ _) => t.cancelled = false
  | .supervise .dialOk => t.cancelled = false
  | _ => True

variable {recvBuffer : Nat} {t t' : Transport}

/-- A property of a state is kept by a step if it is kept by the steps that can be taken. -/
theorem next_cases {P : Transport → Prop} {e : Event} (hsame : P t)
    (hstep : ∀ t', t.step recvBuffer e = some t' → P t') : P (t.next recvBuffer e) := by
  unfold next
  cases h : t.step recvBuffer e with
  | none => exact hsame
  | some t' => exact hstep t' h

/-! ## What each party can change -/

/-- `supervise` neither closes the transport nor cancels its context. -/
theorem superviseStep_keeps {act : SuperviseAct} (h : t.superviseStep recvBuffer act = some t') :
    t'.closer = t.closer ∧ t'.closed = t.closed ∧ t'.cancelled = t.cancelled := by
  revert h
  fun_cases superviseStep recvBuffer t act <;> rintro ⟨⟩ <;> exact ⟨rfl, rfl, rfl⟩

theorem conn_clearConn {c : Nat} (h : ∀ d, t.conn = some d → d = c) :
    (t.clearConn c).conn = none := by
  unfold clearConn
  cases hconn : t.conn with
  | none => rfl
  | some d => simp [h d hconn]

theorem shut_subset_libraryCall (c : Nat) (shuts : Bool) :
    t.shut ⊆ (t.libraryCall c shuts).shut := by
  cases shuts with
  | true => exact List.subset_cons_self c t.shut
  | false => exact List.Subset.refl t.shut

/-- `Send` changes its own stage, and clears `t.conn` in its last step only; the library may
    close connections under it. -/
theorem sendStep_changes {i : Nat} {act : SendAct} (h : t.sendStep i act = some t') :
    ∃ conn shut sends, t' = { t with conn := conn, shut := shut, sends := sends } ∧
      t.shut ⊆ shut ∧ (conn = t.conn ∨
        conn = none ∧ act = .go ∧ ∃ c, t.sends i = .clearing c ∧ t.conn = some c) := by
  revert h
  fun_cases sendStep t i act <;> rintro ⟨⟩
  -- a failed write may close its connection, and the last step may clear `t.conn`
  case case6 c _ shuts _ => exact ⟨_, _, _, rfl, shut_subset_libraryCall c shuts, .inl rfl⟩
  case case9 c hc =>
    refine ⟨_, _, _, rfl, List.Subset.refl _, ?_⟩
    by_cases hconn : t.conn = some c
    · exact .inr ⟨if_pos hconn, rfl, c, hc, hconn⟩
    · exact .inl (if_neg hconn)
  all_goals exact ⟨_, _, _, rfl, List.Subset.refl _, .inl rfl⟩

/-- `Recv` makes room in the channel. -/
theorem step_recv_changes (h : t.step recvBuffer .recv = some t') :
    ∃ recvCh, t' = { t with recvCh := recvCh } ∧ recvCh.length ≤ t.recvCh.length := by
  revert h
  unfold step
  fun_cases recv t <;> rintro ⟨⟩
  case case1 item rest heq => exact ⟨rest, rfl, by rw [heq]; exact Nat.le_succ _⟩
  case case2 => exact ⟨t.recvCh, rfl, le_rfl⟩

/-- `Close` leaves the supervisor and the channel's content alone, and takes nothing back. -/
theorem closeStep_keeps (h : t.closeStep = some t') :
    t'.supervisor = t.supervisor ∧ t'.recvCh = t.recvCh ∧ t'.opened = t.opened ∧
      (t.closed = true → t'.closed = true) ∧ (t.cancelled = true → t'.cancelled = true) := by
  revert h
  fun_cases closeStep t <;> rintro ⟨⟩ <;> simp [shutConn]

/-! ## What every run keeps -/

/-- How `t.conn` agrees with the supervisor: while it drains a connection, `t.conn` is that one
    or nil; from the clearing of the old one to the installing of the new one it is nil. -/
def ConnAgrees (conn : Option Nat) : SuperviseStage → Prop
  | .top | .readConn | .exited => True
  | .drainTop c | .reading c | .readFailed c | .handing c _ | .drained c | .clearing c =>
    ∀ d, conn = some d → d = c
  | .closing _ | .sleeping | .dialing | .dialed _ | .dropping _ | .installing _ => conn = none

theorem ConnAgrees.none : ∀ stage : SuperviseStage, ConnAgrees none stage
  | .top | .readConn | .exited => trivial
  | .drainTop _ | .reading _ | .readFailed _ | .handing _ _ | .drained _ | .clearing _ =>
    fun _ hd => by cases hd
  | .closing _ | .sleeping | .dialing | .dialed _ | .dropping _ | .installing _ => rfl

/-- What holds in every reachable state, under any schedule and any behaviour of the library. -/
structure Consistent (t : Transport) : Prop where
  /-- Only the supervisor's own return closes `superviseDoneCh`. -/
  done_iff : t.superviseDone = true ↔ t.supervisor = .exited
  closed_of_close : t.closer ≠ .idle → t.closed = true
  done_of_returned : t.closer = .returned → t.superviseDone = true
  agrees : ConnAgrees t.conn t.supervisor
  min_le_backoff : minBackoff ≤ t.backoff
  backoff_le_max : t.backoff ≤ maxBackoff

theorem consistent_dial : dial.Consistent where
  done_iff := by decide
  closed_of_close := by decide
  done_of_returned := by decide
  agrees := trivial
  min_le_backoff := le_rfl
  backoff_le_max := by decide

theorem superviseDone_iff_superviseStep {act : SuperviseAct}
    (hdone : t.superviseDone = true ↔ t.supervisor = .exited)
    (h : t.superviseStep recvBuffer act = some t') :
    t'.superviseDone = true ↔ t'.supervisor = .exited := by
  revert h
  fun_cases superviseStep recvBuffer t act <;> rintro ⟨⟩ <;>
    simp_all [exit, shutConn, libraryCall, clearConn]

theorem connAgrees_superviseStep {act : SuperviseAct} (hagrees : ConnAgrees t.conn t.supervisor)
    (h : t.superviseStep recvBuffer act = some t') : ConnAgrees t'.conn t'.supervisor := by
  revert h
  fun_cases superviseStep recvBuffer t act <;> rintro ⟨⟩
  case case18 c hstage =>
    rw [hstage] at hagrees
    exact conn_clearConn hagrees
  all_goals simp_all [ConnAgrees, exit, shutConn, libraryCall]

theorem backoff_superviseStep {act : SuperviseAct} (hmin : minBackoff ≤ t.backoff)
    (hmax : t.backoff ≤ maxBackoff) (h : t.superviseStep recvBuffer act = some t') :
    minBackoff ≤ t'.backoff ∧ t'.backoff ≤ maxBackoff := by
  have hle : minBackoff ≤ maxBackoff := by decide
  revert h
  fun_cases superviseStep recvBuffer t act <;> rintro ⟨⟩
  -- a failed dial doubles it up to the cap
  case case28 => exact ⟨le_min (by omega) hle, min_le_right _ _⟩
  -- an installed connection resets it
  case case30 => exact ⟨le_rfl, hle⟩
  all_goals exact ⟨hmin, hmax⟩

theorem Consistent.supervise (hc : t.Consistent) {act : SuperviseAct}
    (h : t.superviseStep recvBuffer act = some t') : t'.Consistent := by
  obtain ⟨hcloser, hclosed, -⟩ := superviseStep_keeps h
  have hdone := superviseDone_iff_superviseStep hc.done_iff h
  obtain ⟨hmin, hmax⟩ := backoff_superviseStep hc.min_le_backoff hc.backoff_le_max h
  refine ⟨hdone, ?_, ?_, connAgrees_superviseStep hc.agrees h, hmin, hmax⟩
  · rw [hcloser, hclosed]
    exact hc.closed_of_close
  · -- a supervisor that has returned takes no step
    intro hret
    rw [hcloser] at hret
    have hexited := hc.done_iff.mp (hc.done_of_returned hret)
    simp [superviseStep, hexited] at h

theorem Consistent.send (hc : t.Consistent) {i : Nat} {act : SendAct}
    (h : t.sendStep i act = some t') : t'.Consistent := by
  obtain ⟨conn, shut, sends, rfl, -, hconn⟩ := sendStep_changes h
  obtain ⟨hdone, hclosed, hret, hagrees, hmin, hmax⟩ := hc
  refine ⟨hdone, hclosed, hret, ?_, hmin, hmax⟩
  rcases hconn with rfl | ⟨rfl, -⟩
  · exact hagrees
  · exact ConnAgrees.none _

theorem Consistent.close (hc : t.Consistent) (h : t.closeStep = some t') : t'.Consistent := by
  obtain ⟨hdone, hclosed, hret, hagrees, hmin, hmax⟩ := hc
  revert h
  fun_cases closeStep t <;> rintro ⟨⟩
  case case1 => exact ⟨hdone, fun _ => rfl, nofun, hagrees, hmin, hmax⟩
  case case3 hstage =>
    exact ⟨hdone, fun _ => hclosed (by simp [hstage]), nofun, ConnAgrees.none _, hmin, hmax⟩
  case case6 hstage hsup =>
    exact ⟨hdone, fun _ => hclosed (by simp [hstage]), fun _ => hsup, hagrees, hmin, hmax⟩
  all_goals
    rename_i hstage
    exact ⟨hdone, fun _ => hclosed (by simp [hstage]), nofun, hagrees, hmin, hmax⟩

theorem Consistent.next (hc : t.Consistent) (e : Event) : (t.next recvBuffer e).Consistent := by
  refine next_cases hc fun t' h => ?_
  cases e with
  | supervise act => exact hc.supervise h
  | send i act => exact hc.send h
  | recv =>
    obtain ⟨recvCh, rfl, -⟩ := step_recv_changes h
    exact ⟨hc.done_iff, hc.closed_of_close, hc.done_of_returned, hc.agrees,
      hc.min_le_backoff, hc.backoff_le_max⟩
  | close => exact hc.close h

theorem consistent_run (es : List Event) : (runFrom recvBuffer dial es).Consistent :=
  Transition.run_invariant (Transport.next recvBuffer) Consistent consistent_dial
    (fun _ e hc => hc.next e) es

end Transport

end PilotBeacon.WSS.Daemon
