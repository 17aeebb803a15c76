import PilotBeacon.Mesh.Basic
import PilotBeacon.Server.Provenance
import PilotBeacon.Server.RelayAccounting
import Mathlib.Data.Fintype.BigOperators

/-!
# Relay Accounting in a Mesh

A frame that enters the mesh passes from beacon to beacon, and on the way it is queued, batched
and in flight. Whatever the members do and in whatever order datagrams arrive or get lost, each
frame is in one place: the frames that entered are those that left the mesh, those that wait at
some member or are in flight, and those whose loss some member or the network accounts for. None
is there twice.

The books of the members (`Accounted`) are added up here; what one of them forwards to another is
in flight until the other receives it.

- `Mesh.ledger`: the books of a member
- `Mesh.hopFrames`: the frame a transmission carries to another member
- `Mesh.flights_balance`: launched frames have landed, are lost, or are in flight
- `mesh_conserves_frames`: the sum
-/

namespace PilotBeacon

open PilotBeacon.Lib PilotBeacon.Net

/-! ## Relay datagrams -/

/-- Nothing else a beacon sends is taken for a Relay datagram. -/
def Protocol.RelayDistinct (p : Protocol) : Prop :=
  p.beaconMsgRelay ∉ [p.beaconMsgDiscoverReply, p.beaconMsgPunchCommand, p.beaconMsgRelayDeliver,
    p.beaconMsgRelayDeliverDest, msgNotify]

instance (p : Protocol) : Decidable p.RelayDistinct := inferInstanceAs (Decidable (_ ∉ _))

section

variable {p : Protocol}

theorem relayFrames_of_ne {msgType : UInt8} (h : msgType ≠ p.beaconMsgRelay) (body : Bytes) :
    p.relayFrames (msgType :: body) = [] := by
  unfold Protocol.relayFrames Protocol.decode
  dsimp only
  rw [if_neg h]
  split_ifs <;> rfl

/-- Reading undoes writing. -/
theorem relayFrames_relayHeader (cfg : Config) (sender dest : UInt32) (payload : Bytes) :
    cfg.proto.relayFrames (relayHeader cfg sender dest ++ payload) =
      [(dest, ⟨sender, payload⟩)] := by
  have hdec : cfg.proto.decode (relayHeader cfg sender dest ++ payload) =
      .relay (BigEndian.putUint32 sender ++ BigEndian.putUint32 dest ++ payload) :=
    (Protocol.decode_cons cfg.proto _).2.2.2.1
  have hdrop : ∀ l : Bytes, l.drop 8 = (l.drop 4).drop 4 := fun l => by rw [List.drop_drop]
  unfold Protocol.relayFrames
  rw [hdec]
  dsimp only
  rw [if_pos (by simp; omega), hdrop, List.append_assoc, BigEndian.drop_putUint32_append,
    BigEndian.uint32_putUint32_append, BigEndian.uint32_putUint32_append,
    BigEndian.drop_putUint32_append]

/-- A transmission that is read as a Relay datagram is read as the frame it carries. -/
theorem relayFrames_of_carries {cfg : Config} (hdistinct : cfg.proto.RelayDistinct) {m : Message}
    {a : Addressed} (hcarries : Carries cfg (.udp m) a)
    (hread : cfg.proto.relayFrames m.buffer.data ≠ []) :
    cfg.proto.relayFrames m.buffer.data = [a] := by
  simp only [Protocol.RelayDistinct, List.mem_cons, not_or] at hdistinct
  obtain ⟨-, -, hdeliver, hdeliverDest, -⟩ := hdistinct
  obtain ⟨-, hdata | hdata | hdata⟩ := hcarries
  · exact absurd (by rw [hdata]; exact relayFrames_of_ne (Ne.symm hdeliver) _) hread
  · exact absurd (by rw [hdata]; exact relayFrames_of_ne (Ne.symm hdeliverDest) _) hread
  · rw [hdata, relayFrames_relayHeader]

end

namespace Mesh

variable {n : Nat} (M : Mesh n)

/-! ## The books of the members -/

/-- What member `i` enters at an event. -/
def entry (i : Fin n) (b : Member) (e : MemberEvent) : Ledger :=
  stepLedger (M.cfg i) b.server (.beacon (b.event e))

/-- The books of member `i`. -/
def ledger (i : Fin n) (m : MeshState n) (es : List (MeshEvent n)) : Ledger where
  received := Transition.observe M.step
    (Network.observedAt M.receive i fun b e => (M.entry i b e).received) m es
  transmitted := Transition.observe M.step
    (Network.observedAt M.receive i fun b e => (M.entry i b e).transmitted) m es
  dropped := Transition.observe M.step
    (Network.observedAt M.receive i fun b e => (M.entry i b e).dropped) m es
  notFound := Transition.observe M.step
    (Network.observedAt M.receive i fun b e => (M.entry i b e).notFound) m es
  limited := Transition.observe M.step
    (Network.observedAt M.receive i fun b e => (M.entry i b e).limited) m es
  oversize := Transition.observe M.step
    (Network.observedAt M.receive i fun b e => (M.entry i b e).oversize) m es
  failed := Transition.observe M.step
    (Network.observedAt M.receive i fun b e => (M.entry i b e).failed) m es

/-- Every `WriteBatch` of a member reports a number of first messages it sent. -/
def Reported (m : MeshState n) (ev : MeshEvent n) : Prop :=
  ∀ x ∈ Network.occurs M.receive m ev,
    FlushesReported (M.cfg x.1) (m.node x.1).server (.beacon ((m.node x.1).event x.2))

instance (m : MeshState n) (ev : MeshEvent n) : Decidable (M.Reported m ev) :=
  match h : Network.occurs M.receive m ev with
  | none => isTrue fun _ hx => by simp [h] at hx
  | some x => decidable_of_iff
    (FlushesReported (M.cfg x.1) (m.node x.1).server (.beacon ((m.node x.1).event x.2)))
    (by simp [Reported, h])

section

variable {M}

theorem ledger_none {m : MeshState n} {es : List (MeshEvent n)} {ev : MeshEvent n}
    (h : Network.occurs M.receive (M.run m es) ev = none) (i : Fin n) :
    M.ledger i m (es ++ [ev]) = M.ledger i m es := by
  simp only [ledger, Transition.observe_concat, Network.observedAt,
    show Network.occurs M.receive (Transition.run M.step m es) ev = none from h, List.append_nil]

theorem ledger_some {m : MeshState n} {es : List (MeshEvent n)} {ev : MeshEvent n} {j : Fin n}
    {e : MemberEvent} (h : Network.occurs M.receive (M.run m es) ev = some (j, e)) (i : Fin n) :
    M.ledger i m (es ++ [ev]) = if j = i then
      (M.ledger i m es).append (M.entry i ((M.run m es).node i) e) else M.ledger i m es := by
  by_cases hj : j = i
  · simp only [ledger, Transition.observe_concat, Network.observedAt,
      show Network.occurs M.receive (Transition.run M.step m es) ev = some (j, e) from h, if_pos hj,
      Ledger.append]
    rfl
  · simp only [ledger, Transition.observe_concat, Network.observedAt,
      show Network.occurs M.receive (Transition.run M.step m es) ev = some (j, e) from h, if_neg hj,
      List.append_nil]

/-- **The books of every member balance.** -/
theorem accounted_members {peers : Fin n → List Text} {clock : Fin n → Int}
    {es : List (MeshEvent n)} (hflush : Transition.Along M.step M.Reported (M.start peers clock) es)
    (i : Fin n) : Accounted (M.cfg i) (M.ledger i (M.start peers clock) es)
      ((M.run (M.start peers clock) es).node i).server := by
  apply Transition.along_induction M.step (fun es m => ∀ i,
    Accounted (M.cfg i) (M.ledger i (M.start peers clock) es) (m.node i).server) _ _ hflush i
  · intro i
    exact accounted_new (M.cfg i) (peers i)
  · intro es ev hev ih i
    cases h : Network.occurs M.receive (Transition.run M.step (M.start peers clock) es) ev with
    | none =>
      rw [ledger_none h, show (M.step (Transition.run M.step (M.start peers clock) es) ev).node =
        (Transition.run M.step (M.start peers clock) es).node from Network.node_step_none h]
      exact ih i
    | some x =>
      obtain ⟨j, e⟩ := x
      rw [ledger_some h]
      by_cases hj : j = i
      · subst hj
        rw [if_pos rfl, show (M.step (Transition.run M.step (M.start peers clock) es) ev).node j =
          _ from Network.node_step_self h]
        exact (ih j).next (hev (j, e) h)
      · rw [if_neg hj, show (M.step (Transition.run M.step (M.start peers clock) es) ev).node i =
          _ from Network.node_step_of_ne h (Ne.symm hj)]
        exact ih i

end

/-! ## Frames on their way between members -/

/-- The frame a transmission carries to another member. -/
def hopFrames (x : Sent) : List Addressed :=
  (M.internal [.relayed x]).flatMap fun y => M.proto.relayFrames y.2

/-- The transmission is a hop to another member. -/
def isHop (x : Sent) : Bool := !(M.hopFrames x).isEmpty

/-- The frames in flight. -/
def flightFrames (m : MeshState n) : List Addressed :=
  m.flights.flatMap fun f => M.proto.relayFrames f.msg

/-- The frame that enters the mesh at an event. -/
def injected (m : MeshState n) : MeshEvent n → List Addressed
  | .act i e => received (M.cfg i) (.beacon ((m.node i).event e))
  | _ => []

/-- The frame that arrives at a member from another one. -/
def landed (m : MeshState n) : MeshEvent n → List Addressed
  | .deliver k _ => (m.flights[k]?).toList.flatMap fun f => M.proto.relayFrames f.msg
  | _ => []

/-- The frame that gets lost between two members. -/
def lostFrames (m : MeshState n) : MeshEvent n → List Addressed
  | .lose k => (m.flights[k]?).toList.flatMap fun f => M.proto.relayFrames f.msg
  | _ => []

/-- The frames that set out for another member. -/
def launched (m : MeshState n) (ev : MeshEvent n) : List Addressed :=
  (Network.sent M.react M.receive m ev).flatMap fun f => M.proto.relayFrames f.msg

section

variable {M} {m : MeshState n} {ev : MeshEvent n}

/-- What is taken out of a list, and the rest. -/
theorem flatMap_eraseIdx {α β : Type} (f : α → List β) (l : List α) (k : Nat) :
    ((l.eraseIdx k).flatMap f : Multiset β) + (l[k]?).toList.flatMap f = l.flatMap f := by
  rcases lt_or_ge k l.length with hk | hk
  · rw [List.getElem?_eq_getElem hk, Multiset.coe_add, Multiset.coe_eq_coe, Option.toList_some,
      ← List.flatMap_append]
    exact (List.perm_append_comm.trans (List.getElem_cons_eraseIdx_perm hk)).flatMap_right f
  · rw [List.getElem?_eq_none hk, List.eraseIdx_of_length_le hk]
    simp

theorem flightFrames_step (m : MeshState n) (ev : MeshEvent n) :
    (M.flightFrames (M.step m ev) : Multiset Addressed) + M.landed m ev + M.lostFrames m ev =
      M.flightFrames m + M.launched m ev := by
  have hflights : (M.flightFrames (M.step m ev) : Multiset Addressed) =
      ((Network.pending m ev).flatMap fun f => M.proto.relayFrames f.msg) + M.launched m ev := by
    simp only [flightFrames, step, Network.step, List.flatMap_append, ← Multiset.coe_add, launched]
  rw [hflights]
  cases ev with
  | act i e =>
    simp [Network.pending, landed, lostFrames, flightFrames]
  | deliver k x =>
    have herase := flatMap_eraseIdx (fun f : Network.Flight (Fin n) Bytes =>
      M.proto.relayFrames f.msg) m.flights k
    simp only [Network.pending, landed, lostFrames, flightFrames, ← herase, Multiset.coe_nil,
      add_zero]
    exact add_right_comm _ _ _
  | lose k =>
    have herase := flatMap_eraseIdx (fun f : Network.Flight (Fin n) Bytes =>
      M.proto.relayFrames f.msg) m.flights k
    simp only [Network.pending, landed, lostFrames, flightFrames, ← herase, Multiset.coe_nil,
      add_zero]
    exact add_right_comm _ _ _

/-- **What set out has arrived, is lost or is in flight.** -/
theorem flights_balance (m : MeshState n) (es : List (MeshEvent n)) :
    (M.flightFrames (M.run m es) : Multiset Addressed) +
        Transition.observe M.step M.landed m es + Transition.observe M.step M.lostFrames m es =
      M.flightFrames m + Transition.observe M.step M.launched m es := by
  apply Transition.run_induction M.step (fun es m' =>
    (M.flightFrames m' : Multiset Addressed) + Transition.observe M.step M.landed m es +
      Transition.observe M.step M.lostFrames m es =
    M.flightFrames m + Transition.observe M.step M.launched m es)
  · simp
  · intro es ev ih
    have hstep := flightFrames_step (M := M) (Transition.run M.step m es) ev
    simp only [Transition.observe_concat, ← Multiset.coe_add]
    ext a
    have h₁ := congrArg (Multiset.count a) ih
    have h₂ := congrArg (Multiset.count a) hstep
    simp only [Multiset.count_add] at h₁ h₂ ⊢
    omega

/-- What the members receive enters the mesh or comes from another member. -/
theorem received_eq (m : MeshState n) (ev : MeshEvent n) :
    Network.shown M.receive (fun i b e => (M.entry i b e).received) m ev =
      M.injected m ev ++ M.landed m ev := by
  cases ev with
  | act i e => simp [Network.shown, Network.occurs, injected, landed, entry, stepLedger]
  | deliver k x =>
    simp only [Network.shown, Network.occurs, injected, landed, List.nil_append]
    cases m.flights[k]? with
    | none => rfl
    | some f =>
      -- a datagram is the same frame to every member
      have hproto : (M.cfg f.dst).proto = M.proto := M.cfg_proto f.dst
      simp only [Option.map_some, Option.toList_some, List.flatMap_singleton]
      rw [← hproto]
      rfl
  | lose k => rfl

/-! ## What sets out for another member -/

/-- A message with an address in it starts with its type. -/
theorem addrMessage_type {msgType : UInt8} {addr : UDPAddr} {msg : Bytes}
    (h : addrMessage msgType addr = some msg) : ∃ body, msg = msgType :: body := by
  obtain ⟨ip, -, rfl⟩ := Option.map_eq_some_iff.mp h
  exact ⟨_, rfl⟩

/-- What a member sends that is not the work of a relay worker is no Relay datagram. -/
theorem relayFrames_step {cfg : Config} (hdistinct : cfg.proto.RelayDistinct) {s : Server}
    {e : Event} (hact : ∀ i ev, e.act ≠ .worker i ev) {o : Output}
    (ho : o ∈ (PilotBeacon.step cfg s e).2) {d : Datagram} (hd : o.datagram? = some d) :
    cfg.proto.relayFrames d.data = [] := by
  simp only [Protocol.RelayDistinct, List.mem_cons, not_or] at hdistinct
  obtain ⟨hreply, hcommand, -, -, hnotify, -⟩ := hdistinct
  obtain ⟨now, act⟩ := e
  cases act with
  | packet env data remote bridgePeer =>
    obtain ⟨d', hd', rfl⟩ := List.mem_map.mp ho
    cases hd
    obtain ⟨-, msgType, htype, addr, hmsg⟩ := mem_handlePacketFrom hd'
    obtain ⟨body, hbody⟩ := addrMessage_type hmsg
    rw [hbody]
    apply relayFrames_of_ne
    rcases List.mem_pair.mp htype with rfl | rfl
    · exact Ne.symm hreply
    · exact Ne.symm hcommand
  | gossip order =>
    obtain ⟨d', hd', rfl⟩ := List.mem_map.mp ho
    cases hd
    obtain ⟨-, peer, -, rfl⟩ := Server.mem_sendGossip.mp hd'
    -- the types of inbound messages differ
    have hsync := cfg.proto.inbound_nodup
    simp only [List.nodup_cons, List.mem_cons, not_or] at hsync
    exact relayFrames_of_ne (Ne.symm hsync.2.2.2.1.1) _
  | notify nodeID =>
    obtain ⟨d', hd', rfl⟩ := List.mem_map.mp ho
    cases hd
    rw [(mem_notifyNode hd').2, relayFrames_of_ne (Ne.symm hnotify)]
  | registry x =>
    obtain ⟨msg, -, rfl⟩ := List.mem_map.mp ho
    cases hd
  | worker i ev => exact absurd rfl (hact i ev)
  | listen addr => exact absurd ho List.not_mem_nil
  | reap => exact absurd ho List.not_mem_nil
  | close => exact absurd ho List.not_mem_nil

theorem internal_cons (o : Output) (out : List Output) :
    M.internal (o :: out) = M.internal [o] ++ M.internal out := by
  cases h : o.datagram? with
  | none => simp [internal, h]
  | some d => simp [internal, h, ← List.filterMap_append]

/-- **What sets out for other members** are hops among the transmissions. -/
theorem launched_eq (hdistinct : M.proto.RelayDistinct) (m : MeshState n) (ev : MeshEvent n) :
    Network.shown M.receive (fun i b e => (M.entry i b e).transmitted.flatMap M.hopFrames) m ev =
      M.launched m ev := by
  unfold Network.shown launched Network.sent
  cases Network.occurs M.receive m ev with
  | none => rfl
  | some x =>
    obtain ⟨i, e⟩ := x
    have hproto : (M.cfg i).proto = M.proto := M.cfg_proto i
    simp only [react, List.flatMap_map]
    by_cases hact : ∃ w wev, e.act = .worker w wev
    · obtain ⟨w, wev, hact⟩ := hact
      have hentry : (M.entry i (m.node i) e).transmitted =
          ((m.node i).server.workerStep (M.cfg i) w wev).2 := by
        unfold entry Member.event
        rw [hact]
        rfl
      have hout : (PilotBeacon.step (M.cfg i) (m.node i).server ((m.node i).event e)).2 =
          ((m.node i).server.workerStep (M.cfg i) w wev).2.map .relayed := by
        unfold Member.event
        rw [hact]
        rfl
      rw [hentry, hout]
      -- one transmission after the other
      induction ((m.node i).server.workerStep (M.cfg i) w wev).2 with
      | nil => rfl
      | cons x out ih =>
        rw [List.map_cons, internal_cons, List.flatMap_append, List.flatMap_cons, ih]
        rfl
    · have hother : ∀ w wev, ((m.node i).event e).act ≠ .worker w wev :=
        fun w wev h => hact ⟨w, wev, h⟩
      have hentry : (M.entry i (m.node i) e).transmitted = [] := by
        unfold entry stepLedger transmitted workerShow
        cases h : RelayEvent.worker? (.beacon ((m.node i).event e)) with
        | none => rfl
        | some p =>
          obtain ⟨now, hev⟩ := RelayEvent.worker?_eq_some h
          exact absurd (congrArg Event.act (RelayEvent.beacon.inj hev)) (hother _ _)
      rw [hentry, List.flatMap_nil]
      symm
      apply List.flatMap_eq_nil_iff.mpr
      rintro ⟨j, data⟩ hj
      obtain ⟨o, ho, dst, hd, -, -⟩ := M.mem_internal.mp hj
      have hnone := relayFrames_step (hproto ▸ hdistinct) hother ho hd
      rw [hproto] at hnone
      exact hnone

theorem flatMap_filter_hop (xs : List Sent) :
    (xs.filter M.isHop).flatMap M.hopFrames = xs.flatMap M.hopFrames := by
  induction xs with
  | nil => rfl
  | cons x xs ih =>
    rw [List.filter_cons]
    cases h : M.hopFrames x with
    | nil => simp [isHop, h, ih]
    | cons a as => simp [isHop, h, ih]

/-- A hop is read at the other member as the frame it carries. -/
theorem hopFrames_of_carries (hdistinct : M.proto.RelayDistinct) {i : Fin n} {x : Sent}
    {a : Addressed} (hcarries : Carries (M.cfg i) x a) (hhop : M.isHop x = true) :
    M.hopFrames x = [a] := by
  have hproto : (M.cfg i).proto = M.proto := M.cfg_proto i
  simp only [isHop, Bool.not_eq_true', List.isEmpty_eq_false_iff] at hhop
  cases x with
  | wss nodeID frame => exact absurd rfl hhop
  | udp msg =>
    unfold hopFrames internal at hhop ⊢
    simp only [List.filterMap_cons, List.filterMap_nil, Output.datagram?] at hhop ⊢
    -- it stays in the mesh, so it is read
    split_ifs at hhop ⊢ with hlen
    · cases hmember : M.member? msg.addr with
      | none =>
        rw [hmember] at hhop
        exact absurd rfl hhop
      | some j =>
        rw [hmember] at hhop
        simp only [Option.map_some, List.flatMap_singleton] at hhop ⊢
        rw [← hproto] at hhop hdistinct ⊢
        exact relayFrames_of_carries hdistinct hcarries hhop
    · exact absurd rfl hhop

theorem flatMap_hopFrames (hdistinct : M.proto.RelayDistinct) {i : Fin n} {xs : List Sent}
    {frames : List Addressed} (h : List.Forall₂ (Carries (M.cfg i)) xs frames)
    (hhop : ∀ x ∈ xs, M.isHop x = true) : xs.flatMap M.hopFrames = frames := by
  induction h with
  | nil => rfl
  | cons hx _ ih =>
    rw [List.flatMap_cons, hopFrames_of_carries hdistinct hx (hhop _ List.mem_cons_self),
      ih fun y hy => hhop y (List.mem_cons_of_mem _ hy)]
    rfl

/-- The frames a member forwarded hopped to another member or left the mesh. -/
theorem forwarded_split (hdistinct : M.proto.RelayDistinct) {i : Fin n} {xs : List Sent}
    {frames : List Addressed} (h : List.Forall₂ (Carries (M.cfg i)) xs frames) :
    ∃ left, List.Forall₂ (Carries (M.cfg i)) (xs.filter fun x => !M.isHop x) left ∧
      (frames : Multiset Addressed) = xs.flatMap M.hopFrames + left := by
  obtain ⟨hops, left, hhops, hleft, hperm⟩ :=
    Tally.matched_split (List.filter_append_perm M.isHop xs) h
  refine ⟨left, hleft, ?_⟩
  rw [← flatMap_filter_hop, flatMap_hopFrames hdistinct hhops fun x hx => List.of_mem_filter hx,
    Multiset.coe_add, Multiset.coe_eq_coe]
  exact hperm.symm

/-- **What the members received together.** -/
theorem sum_received (m : MeshState n) (es : List (MeshEvent n)) :
    ∑ i, ((M.ledger i m es).received : Multiset Addressed) =
      Transition.observe M.step M.injected m es + Transition.observe M.step M.landed m es := by
  have hsum : ∑ i, ((M.ledger i m es).received : Multiset Addressed) =
      Transition.observe M.step
        (Network.shown M.receive fun i b e => (M.entry i b e).received) m es :=
    Network.sum_observedAt _ m es
  rw [hsum, Multiset.coe_add, Multiset.coe_eq_coe]
  apply List.Perm.symm
  apply Transition.observe_append_perm
  intro m ev
  rw [received_eq]

/-- **What the members sent to each other.** -/
theorem sum_launched (hdistinct : M.proto.RelayDistinct) (m : MeshState n)
    (es : List (MeshEvent n)) :
    ∑ i, ((M.ledger i m es).transmitted.flatMap M.hopFrames : Multiset Addressed) =
      Transition.observe M.step M.launched m es := by
  have hsum : ∑ i, ((Transition.observe M.step (Network.observedAt M.receive i fun b e =>
      (M.entry i b e).transmitted.flatMap M.hopFrames) m es : List Addressed) :
        Multiset Addressed) =
      Transition.observe M.step (Network.shown M.receive fun i b e =>
        (M.entry i b e).transmitted.flatMap M.hopFrames) m es :=
    Network.sum_observedAt _ m es
  rw [show M.launched = _ from funext fun m => funext fun ev => (launched_eq hdistinct m ev).symm,
    ← hsum]
  apply Finset.sum_congr rfl
  intro i _
  rw [ledger, ← Transition.observe_flatMap]
  congr 2
  funext m ev
  exact (Network.observedAt_flatMap _ _ _ _ _ _).symm

end

end Mesh

/-- **The mesh loses and duplicates no frame.** For any number of beacons and every order of
    datagrams from outside, worker rounds, table changes, deliveries and losses between them, the
    frames that entered the mesh are, each as often as it entered, those that left it, those a
    member dropped, did not find, refused, found oversize or failed to send, those queued or
    batched at a member, those in flight and those lost in flight. It takes that nothing else is
    sent with the Relay type and that each `WriteBatch` reports how many messages it sent. -/
theorem mesh_conserves_frames {n : Nat} (M : Mesh n) (hdistinct : M.proto.RelayDistinct)
    (peers : Fin n → List Text) (clock : Fin n → Int) (es : List (MeshEvent n))
    (hflush : Transition.Along M.step M.Reported (M.start peers clock) es) :
    let L := fun i => M.ledger i (M.start peers clock) es
    let m := M.run (M.start peers clock) es
    ∃ (left lost : Fin n → List Addressed) (held : Fin n → Nat → List Addressed),
      (∀ i, List.Forall₂ (Carries (M.cfg i)) ((L i).transmitted.filter fun x => !M.isHop x)
        (left i)) ∧
      (∀ i, List.Forall₂ (Carries (M.cfg i)) ((L i).failed.map .udp) (lost i)) ∧
      (∀ i w, List.Forall₂ (Carries (M.cfg i)) (((m.node i).server.workers w).msgs.map .udp)
        (held i w)) ∧
      (Transition.observe M.step M.injected (M.start peers clock) es : Multiset Addressed) =
        ∑ i, (left i + (L i).dropped + (L i).notFound + (L i).limited + (L i).oversize + lost i +
          queuedFrames (M.cfg i) (m.node i).server +
          Tally.total (M.cfg i).relayWorkerCount (held i)) +
        M.flightFrames m + Transition.observe M.step M.lostFrames (M.start peers clock) es := by
  intro L m
  have hbooks := fun i => (Mesh.accounted_members hflush i).balanced.fates
  choose forwarded lost held hforwarded hlost hheld hsum using hbooks
  choose left hleft hsplit using fun i => Mesh.forwarded_split hdistinct (hforwarded i)
  refine ⟨left, lost, held, hleft, hlost, hheld, ?_⟩
  have hreceived := Mesh.sum_received (M := M) (M.start peers clock) es
  have hlaunched := Mesh.sum_launched (M := M) hdistinct (M.start peers clock) es
  have hflights := Mesh.flights_balance (M := M) (M.start peers clock) es
  have htotal : ∑ i, ((L i).received : Multiset Addressed) =
      ∑ i, ((forwarded i : Multiset Addressed) + (L i).dropped + (L i).notFound + (L i).limited +
        (L i).oversize + lost i + queuedFrames (M.cfg i) (m.node i).server +
        Tally.total (M.cfg i).relayWorkerCount (held i)) :=
    Finset.sum_congr rfl fun i _ => hsum i
  have hstart : (M.flightFrames (M.start peers clock) : Multiset Addressed) = 0 := rfl
  simp only [hsplit, Finset.sum_add_distrib, L, m] at htotal ⊢
  rw [hreceived, hlaunched] at htotal
  rw [hstart, zero_add] at hflights
  -- what hopped from one member to another cancels out
  rw [← hflights] at htotal
  ext a
  have hcount := congrArg (Multiset.count a) htotal
  simp only [Multiset.count_add] at hcount ⊢
  omega

/-- Beacon 0 receives a frame for node 7 and forwards it to beacon 1, which delivers it; a second
    frame is lost between the two, and a third is for nobody. -/
def threeFrames : List (MeshEvent 2) :=
  let relay (dest payload : UInt8) : MeshEvent 2 :=
    .act beacon0 ⟨0, .packet sampleEnv [0x05, 0, 0, 0, 3, 0, 0, 0, dest, payload]
      (sampleAddr 10 0 0 3 4000) 0⟩
  let job (i : Fin 2) : MeshEvent 2 :=
    .act i ⟨0, .worker 7 (.job ⟨false, false, 0⟩ ⟨0, fun _ => true⟩)⟩
  let timer (i : Fin 2) : MeshEvent 2 := .act i ⟨0, .worker 7 (.timer ⟨1, fun _ => true⟩)⟩
  timely ++ [relay 7 0xaa, job beacon0, timer beacon0, .deliver 0 ⟨0, sampleEnv⟩, relay 7 0xbb,
    job beacon0, timer beacon0, .lose 0, relay 8 0xcc, job beacon1, timer beacon1]

theorem mesh_conserves_threeFrames :
    pair.proto.RelayDistinct ∧
      Transition.Along pair.step pair.Reported pairStart threeFrames ∧
      (Transition.observe pair.step pair.injected pairStart threeFrames).length = 3 ∧
      (pair.ledger beacon1 pairStart threeFrames).transmitted.length = 1 ∧
      (Transition.observe pair.step pair.lostFrames pairStart threeFrames).length = 1 ∧
      (pair.ledger beacon0 pairStart threeFrames).notFound.length = 1 ∧
      ∃ (left lost : Fin 2 → List Addressed) (held : Fin 2 → Nat → List Addressed),
        (∀ i, List.Forall₂ (Carries (pair.cfg i))
          ((pair.ledger i pairStart threeFrames).transmitted.filter fun x => !pair.isHop x)
          (left i)) ∧
        (∀ i, List.Forall₂ (Carries (pair.cfg i))
          ((pair.ledger i pairStart threeFrames).failed.map .udp) (lost i)) ∧
        (∀ i w, List.Forall₂ (Carries (pair.cfg i))
          ((((pair.run pairStart threeFrames).node i).server.workers w).msgs.map .udp)
          (held i w)) ∧
        (Transition.observe pair.step pair.injected pairStart threeFrames :
            Multiset Addressed) =
          ∑ i, (left i + (pair.ledger i pairStart threeFrames).dropped +
            (pair.ledger i pairStart threeFrames).notFound +
            (pair.ledger i pairStart threeFrames).limited +
            (pair.ledger i pairStart threeFrames).oversize + lost i +
            queuedFrames (pair.cfg i) ((pair.run pairStart threeFrames).node i).server +
            Tally.total (pair.cfg i).relayWorkerCount (held i)) +
          pair.flightFrames (pair.run pairStart threeFrames) +
          Transition.observe pair.step pair.lostFrames pairStart threeFrames := by
  have hdistinct : pair.proto.RelayDistinct := by decide
  have hflush : Transition.Along pair.step pair.Reported pairStart threeFrames := by decide
  exact ⟨hdistinct, hflush, by decide, by decide, by decide, by decide,
    mesh_conserves_frames pair hdistinct (fun _ => [[]]) (fun _ => 0) threeFrames hflush⟩

end PilotBeacon
