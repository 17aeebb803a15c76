import PilotBeacon.Lib.CopyOnWrite
import PilotBeacon.Server.Beacon

/-!
# The Route Table Under Concurrency (`handleSync`, `sweepStaleGossip`)

Syncs and sweeps run in any number of goroutines. Each holds `peerWriteMu` while it copies the
route table, edits the copy, publishes it and notes when the source was seen; relay readers and
workers load the pointer without a lock, at any time. Nodes register and are reaped meanwhile, so
that a sync asks for each id on its own whether it is local.

- `GossipShared`, `tablesNext`: writers, readers and the node table, one access a step
- `sync_uninterrupted`, `sweep_uninterrupted`: without interleaving these are `handleSync`'s update
  and `sweepStaleGossip`
- `Serial`: what holds at every point of a section
- `gossip_serializable`: the tables are those of the sections one after the other, and every
  lookup is answered from a whole table
- `sync_absent`: a sync adds the ids it lists, one by one, that are not registered when it asks
- `registered_not_routed`: a node that is registered, has no route and stays registered gets none
-/

namespace PilotBeacon

open PilotBeacon.Lib PilotBeacon.Net
open CopyOnWrite (Cow)

/-! ## State -/

/-- The two tables `peerWriteMu` protects. -/
structure Routes where
  peerNodes : FiniteMap UInt32 UDPAddr
  gossipSeen : FiniteMap Text Int

/-- The routes that `remote` does not own. -/
def routesOfOthers (remote : UDPAddr) (m : FiniteMap UInt32 UDPAddr) : FiniteMap UInt32 UDPAddr :=
  FiniteMap.filter (fun _ addr => !addr.sameEndpoint remote) m

/-- The routes whose owner's printed address is not among `stale`. -/
def routesKept (stale : FiniteMap Text Int) (m : FiniteMap UInt32 UDPAddr) :
    FiniteMap UInt32 UDPAddr :=
  FiniteMap.filter (fun _ addr => !(stale.lookup addr.string).isSome) m

def staleBefore (cutoff : Int) (seen : FiniteMap Text Int) : FiniteMap Text Int :=
  FiniteMap.filter (fun _ last => decide (last < cutoff)) seen

def seenSince (cutoff : Int) (seen : FiniteMap Text Int) : FiniteMap Text Int :=
  FiniteMap.filter (fun _ last => !decide (last < cutoff)) seen

/-- Where a goroutine is between `Lock` and `Unlock`. -/
inductive WriterStage where
  | idle
  /-- `handleSync`, with the lock. -/
  | syncing (remote : UDPAddr) (ids : List UInt32)
  /-- The copy is made; `todo` is to be added to it, `absent` has been. -/
  | adding (remote : UDPAddr) (todo absent : List UInt32)
  /-- The copy is published. -/
  | stored (remote : UDPAddr) (absent : List UInt32)
  /-- `sweepStaleGossip`, with the lock. -/
  | sweeping (cutoff : Int)
  /-- `stale` is no longer in `gossipSeen`. -/
  | expired (cutoff : Int) (stale : FiniteMap Text Int)
  /-- The copy is made, and is smaller. -/
  | withdrawing (cutoff : Int)
  | withdrawn (cutoff : Int)

structure GossipShared where
  nodes : NodeMap
  routes : Cow (FiniteMap UInt32 UDPAddr)
  gossipSeen : FiniteMap Text Int
  writers : Nat → WriterStage

def GossipShared.start (nodes : NodeMap) (t : Routes) : GossipShared where
  nodes := nodes
  routes := Cow.start t.peerNodes
  gossipSeen := t.gossipSeen
  writers := fun _ => .idle

/-! ## Steps -/

inductive GossipStep where
  /-- A sync that was accepted takes the lock. -/
  | sync (w : Nat) (remote : UDPAddr) (ids : List UInt32)
  | sweep (w : Nat) (cutoff : Int)
  /-- The next step of goroutine `w`; `now` is the clock if it reads the clock. -/
  | writer (w : Nat) (now : Int)
  /-- `s.peerNodes.Load()` -/
  | load (r : Nat)
  /-- A lookup in the map that was loaded. -/
  | lookup (r : Nat) (id : UInt32)
  /-- Whatever Discover and the reaper do to the node table. -/
  | setNodes (nodes : NodeMap)

namespace GossipShared

def tables (c : GossipShared) : Routes := ⟨c.routes.table, c.gossipSeen⟩

def setWriter (c : GossipShared) (w : Nat) (stage : WriterStage) : GossipShared :=
  { c with writers := Function.update c.writers w stage }

/-- `Lock`, if nobody has it. -/
def enter (c : GossipShared) (w : Nat) (stage : WriterStage) : GossipShared :=
  match c.writers w, c.routes.holder with
  | .idle, none => setWriter { c with routes := c.routes.lock w } w stage
  | _, _ => c

/-- `Unlock` -/
def leave (c : GossipShared) (w : Nat) : GossipShared :=
  setWriter { c with routes := c.routes.unlock } w .idle

def writerNext (c : GossipShared) (w : Nat) (now : Int) : GossipShared :=
  match c.writers w with
  | .idle => c
  | .syncing remote ids =>
    setWriter { c with routes := c.routes.copy (routesOfOthers remote) } w (.adding remote ids [])
  | .adding remote (id :: todo) absent =>
    if c.nodes.has id then c.setWriter w (.adding remote todo absent)
    else
      setWriter { c with routes := c.routes.edit (AList.insert id remote) } w
        (.adding remote todo (absent ++ [id]))
  | .adding remote [] absent =>
    setWriter { c with routes := c.routes.publish } w (.stored remote absent)
  | .stored remote _ =>
    leave { c with gossipSeen := c.gossipSeen.insert remote.string now } w
  | .sweeping cutoff =>
    let stale := staleBefore cutoff c.gossipSeen
    let c := { c with gossipSeen := seenSince cutoff c.gossipSeen }
    -- nothing has expired
    if stale.size = 0 then c.leave w else c.setWriter w (.expired cutoff stale)
  | .expired cutoff stale =>
    -- no route is dropped: the copy is thrown away
    if FiniteMap.size (routesKept stale c.routes.table) = c.routes.table.size then c.leave w
    else setWriter { c with routes := c.routes.copy (routesKept stale) } w (.withdrawing cutoff)
  | .withdrawing cutoff => setWriter { c with routes := c.routes.publish } w (.withdrawn cutoff)
  | .withdrawn _ => c.leave w

end GossipShared

def tablesNext (c : GossipShared) : GossipStep → GossipShared
  | .sync w remote ids => c.enter w (.syncing remote ids)
  | .sweep w cutoff => c.enter w (.sweeping cutoff)
  | .writer w now => c.writerNext w now
  | .load r => { c with routes := c.routes.load r }
  | .lookup _ _ => c
  | .setNodes nodes => { c with nodes := nodes }

/-! ## What is observed -/

/-- What a goroutine did while it had the lock. -/
inductive Section where
  /-- A sync from `remote` that found `absent` not to be local. -/
  | sync (remote : UDPAddr) (absent : List UInt32) (now : Int)
  | sweep (cutoff : Int)

/-- The section that a step ends. -/
def sectionEnds (c : GossipShared) : GossipStep → List Section
  | .writer w now =>
    match c.writers w with
    | .stored remote absent => [.sync remote absent now]
    | .sweeping cutoff =>
      if (staleBefore cutoff c.gossipSeen).size = 0 then [.sweep cutoff] else []
    | .expired cutoff stale =>
      if FiniteMap.size (routesKept stale c.routes.table) = c.routes.table.size then
        [.sweep cutoff] else []
    | .withdrawn cutoff => [.sweep cutoff]
    | _ => []
  | _ => []

/-- The whole effect of a section. -/
def Section.apply (t : Routes) : Section → Routes
  | .sync remote absent now =>
    ⟨FiniteMap.insertAll (routesOfOthers remote t.peerNodes) absent remote,
      t.gossipSeen.insert remote.string now⟩
  | .sweep cutoff =>
    ⟨routesKept (staleBefore cutoff t.gossipSeen) t.peerNodes, seenSince cutoff t.gossipSeen⟩

/-- The answer a reader gets. -/
structure RouteRead where
  reader : Nat
  id : UInt32
  found : Option UDPAddr

/-- A lookup looks into the cell the reader loaded, as it is now. -/
def routeReads (c : GossipShared) : GossipStep → List RouteRead
  | .lookup r id => ((c.routes.view r).map fun m => ⟨r, id, m.lookup id⟩).toList
  | _ => []

def tablesRun (nodes : NodeMap) (t : Routes) (es : List GossipStep) : GossipShared :=
  Transition.run tablesNext (GossipShared.start nodes t) es

/-- The sections that have ended, in order. -/
def sections (nodes : NodeMap) (t : Routes) (es : List GossipStep) : List Section :=
  Transition.observe tablesNext sectionEnds (GossipShared.start nodes t) es

/-! ## Inside a section -/

/-- The tables at a point of a section that began with `t`. -/
def Holding (t : Routes) (c : GossipShared) : WriterStage → Prop
  | .idle => False
  | .syncing _ _ => c.tables = t
  | .adding remote _ absent =>
    c.tables = t ∧ c.routes.copied =
      some (FiniteMap.insertAll (routesOfOthers remote t.peerNodes) absent remote)
  | .stored remote absent =>
    c.tables = ⟨FiniteMap.insertAll (routesOfOthers remote t.peerNodes) absent remote, t.gossipSeen⟩
  | .sweeping _ => c.tables = t
  | .expired cutoff stale =>
    c.tables = ⟨t.peerNodes, seenSince cutoff t.gossipSeen⟩ ∧
      stale = staleBefore cutoff t.gossipSeen
  | .withdrawing cutoff =>
    c.tables = ⟨t.peerNodes, seenSince cutoff t.gossipSeen⟩ ∧
      c.routes.copied = some (routesKept (staleBefore cutoff t.gossipSeen) t.peerNodes)
  | .withdrawn cutoff => c.tables = (Section.sweep cutoff).apply t

/-- The tables after the sections that led to `t`, with at most one more under way. -/
structure Serial (t : Routes) (c : GossipShared) : Prop where
  sound : CopyOnWrite.Sound c.routes
  alone : ∀ w, c.routes.holder ≠ some w → c.writers w = .idle
  free : c.routes.holder = none → c.tables = t
  held : ∀ w, c.routes.holder = some w → Holding t c (c.writers w)

theorem routesKept_of_size {stale : FiniteMap Text Int} (h : stale.size = 0)
    (m : FiniteMap UInt32 UDPAddr) : routesKept stale m = m := by
  have hempty : stale = ∅ := AList.ext (List.length_eq_zero_iff.mp h)
  apply AList.ext
  apply List.filter_eq_self.mpr
  intro e _
  rw [hempty]
  rfl

section

variable {t t' : Routes} {c : GossipShared} {w : Nat}

theorem serial_start (nodes : NodeMap) (t : Routes) : Serial t (GossipShared.start nodes t) where
  sound := CopyOnWrite.sound_start _
  alone := fun _ _ => rfl
  free := fun _ => rfl
  held := fun _ h => nomatch h

theorem Serial.holder (h : Serial t c) (hw : c.writers w ≠ .idle) :
    c.routes.holder = some w := by
  by_contra hne
  exact hw (h.alone w hne)

/-- **One more step of the section under way.** -/
theorem Serial.move (h : Serial t c) (hw : c.routes.holder = some w)
    {routes : Cow (FiniteMap UInt32 UDPAddr)} {seen : FiniteMap Text Int} {stage : WriterStage}
    (hsound : CopyOnWrite.Sound routes) (hholder : routes.holder = c.routes.holder)
    (hstage : Holding t { c with routes := routes, gossipSeen := seen } stage) :
    Serial t
      (GossipShared.setWriter { c with routes := routes, gossipSeen := seen } w stage) where
  sound := hsound
  alone := by
    intro w' hw'
    have hne : w' ≠ w := by
      rintro rfl
      exact hw' (hholder.trans hw)
    simp only [GossipShared.setWriter, Function.update_of_ne hne]
    apply h.alone
    rw [hw]
    exact fun heq => hne (Option.some_injective _ heq).symm
  free := by
    intro hfree
    have hnone : routes.holder = none := hfree
    rw [hholder, hw] at hnone
    cases hnone
  held := by
    intro w' hw'
    have hsome : routes.holder = some w' := hw'
    rw [hholder, hw] at hsome
    cases hsome
    simp only [GossipShared.setWriter, Function.update_self]
    exact hstage

/-- **The end of a section.** -/
theorem Serial.leave (h : Serial t c) (hw : c.routes.holder = some w) {seen : FiniteMap Text Int}
    (htables : ⟨c.routes.table, seen⟩ = t') :
    Serial t' (GossipShared.leave { c with gossipSeen := seen } w) where
  sound := h.sound.unlock
  alone := by
    intro w' _
    by_cases hne : w' = w
    · subst hne
      simp [GossipShared.leave, GossipShared.setWriter]
    · simp only [GossipShared.leave, GossipShared.setWriter, Function.update_of_ne hne]
      apply h.alone
      rw [hw]
      exact fun heq => hne (Option.some_injective _ heq).symm
  free := fun _ => htables
  held := fun _ hsome => nomatch hsome

/-- **The beginning of a section.** -/
theorem Serial.enter (h : Serial t c) (w : Nat) {stage : WriterStage}
    (hstage : ∀ c' : GossipShared, c'.tables = t → Holding t c' stage) :
    Serial t (c.enter w stage) := by
  unfold GossipShared.enter
  split
  · rename_i hidle hfree
    refine ⟨h.sound.lock w, ?_, (fun hnone => nomatch hnone), ?_⟩
    · intro w' hw'
      have hne : w' ≠ w := by
        rintro rfl
        exact hw' rfl
      simp only [GossipShared.setWriter, Function.update_of_ne hne]
      apply h.alone
      rw [hfree]
      exact fun heq => nomatch heq
    · intro w' hw'
      cases hw'
      simp only [GossipShared.setWriter, Function.update_self]
      exact hstage _ (h.free hfree)
  · exact h

theorem insertAll_concat (m : FiniteMap UInt32 UDPAddr) (ids : List UInt32) (id : UInt32)
    (addr : UDPAddr) :
    FiniteMap.insertAll m (ids ++ [id]) addr = AList.insert id addr (m.insertAll ids addr) :=
  List.foldl_concat ..

theorem Serial.adding (h : Serial t c) (now : Int) {remote : UDPAddr} {todo absent : List UInt32}
    (hstage : c.writers w = .adding remote todo absent) : Serial t (c.writerNext w now) := by
  have hw : c.routes.holder = some w := h.holder (by rw [hstage]; exact nofun)
  have hheld := h.held w hw
  rw [hstage] at hheld
  obtain ⟨htables, hcopied⟩ := hheld
  cases todo with
  | nil =>
    simp only [GossipShared.writerNext, hstage]
    apply h.move hw h.sound.publish (by simp)
    show (⟨_, _⟩ : Routes) = ⟨_, _⟩
    rw [CopyOnWrite.Sound.table_publish hcopied, ← htables]
    rfl
  | cons id todo =>
    simp only [GossipShared.writerNext, hstage]
    split_ifs
    · exact h.move hw h.sound rfl ⟨htables, hcopied⟩
    · apply h.move hw (h.sound.edit _) (by simp)
      constructor
      · rw [← htables]
        show (⟨_, _⟩ : Routes) = ⟨_, _⟩
        rw [h.sound.table_edit]
      · show (c.routes.edit _).copied = _
        rw [CopyOnWrite.Sound.copied_edit, hcopied, insertAll_concat]
        rfl

theorem Serial.writer (h : Serial t c) (w : Nat) (now : Int) :
    Serial ((sectionEnds c (.writer w now)).foldl Section.apply t) (c.writerNext w now) := by
  by_cases hidle : c.writers w = .idle
  · simp only [sectionEnds, GossipShared.writerNext, hidle]
    exact h
  have hw : c.routes.holder = some w := h.holder hidle
  have hheld := h.held w hw
  cases hstage : c.writers w with
  | idle => exact absurd hstage hidle
  | syncing remote ids =>
    rw [hstage] at hheld
    simp only [sectionEnds, GossipShared.writerNext, hstage]
    apply h.move hw (h.sound.copy _) rfl
    have htables : c.tables = t := hheld
    constructor
    · rw [← htables]
      show (⟨_, _⟩ : Routes) = ⟨_, _⟩
      rw [h.sound.table_copy]
    · rw [← htables]
      exact CopyOnWrite.Sound.copied_copy _
  | adding remote todo absent =>
    simp only [sectionEnds, hstage]
    exact h.adding now hstage
  | stored remote absent =>
    rw [hstage] at hheld
    simp only [sectionEnds, GossipShared.writerNext, hstage]
    apply h.leave hw
    obtain ⟨htable, hseen⟩ := Routes.mk.inj hheld
    rw [htable, hseen]
    rfl
  | sweeping cutoff =>
    rw [hstage] at hheld
    simp only [sectionEnds, GossipShared.writerNext, hstage]
    obtain ⟨htable, hseen⟩ : c.routes.table = t.peerNodes ∧ c.gossipSeen = t.gossipSeen :=
      Routes.mk.inj hheld
    split_ifs with hnone
    · apply h.leave hw
      rw [hseen] at hnone
      show _ = Section.apply t (.sweep cutoff)
      rw [Section.apply, routesKept_of_size hnone, htable, hseen]
    · apply h.move hw h.sound rfl
      rw [hseen]
      exact ⟨congrArg (Routes.mk · _) htable, rfl⟩
  | expired cutoff stale =>
    rw [hstage] at hheld
    simp only [sectionEnds, GossipShared.writerNext, hstage]
    obtain ⟨htables, rfl⟩ := hheld
    obtain ⟨htable, hseen⟩ := Routes.mk.inj htables
    split_ifs with hsame
    · apply h.leave hw
      show _ = Section.apply t (.sweep cutoff)
      rw [Section.apply, ← htable, hseen]
      exact congrArg (Routes.mk · _) (FiniteMap.filter_eq_self_of_size _ _ hsame).symm
    · apply h.move hw (h.sound.copy _) rfl
      constructor
      · rw [← htables]
        show (⟨_, _⟩ : Routes) = ⟨_, _⟩
        rw [h.sound.table_copy]
      · rw [← htable]
        exact CopyOnWrite.Sound.copied_copy _
  | withdrawing cutoff =>
    rw [hstage] at hheld
    simp only [sectionEnds, GossipShared.writerNext, hstage]
    obtain ⟨htables, hcopied⟩ := hheld
    apply h.move hw h.sound.publish (by simp)
    show (⟨_, _⟩ : Routes) = Section.apply t (.sweep cutoff)
    rw [CopyOnWrite.Sound.table_publish hcopied, (Routes.mk.inj htables).2, Section.apply]
  | withdrawn cutoff =>
    rw [hstage] at hheld
    simp only [sectionEnds, GossipShared.writerNext, hstage]
    exact h.leave hw hheld

/-- **One step**, of a writer, a reader or anybody else. -/
theorem Serial.next (h : Serial t c) (e : GossipStep) :
    Serial ((sectionEnds c e).foldl Section.apply t) (tablesNext c e) := by
  cases e with
  | sync w remote ids => exact h.enter w fun _ htables => htables
  | sweep w cutoff => exact h.enter w fun _ htables => htables
  | writer w now => exact h.writer w now
  | load r => exact ⟨h.sound.load r, h.alone, h.free, h.held⟩
  | lookup r id => exact h
  | setNodes nodes => exact ⟨h.sound, h.alone, h.free, h.held⟩

/-- **Every run.** -/
theorem Serial.run (h : Serial t c) (es : List GossipStep) :
    Serial ((Transition.observe tablesNext sectionEnds c es).foldl Section.apply t)
      (Transition.run tablesNext c es) := by
  induction es generalizing t c with
  | nil => exact h
  | cons e es ih =>
    rw [Transition.observe_cons, List.foldl_append]
    exact ih (h.next e)

end

theorem serial_run (nodes : NodeMap) (t : Routes) (es : List GossipStep) :
    Serial ((sections nodes t es).foldl Section.apply t) (tablesRun nodes t es) :=
  (serial_start nodes t).run es

/-! ## Whole tables -/

/-- The section whose table is published already, though it has not ended. -/
def WriterStage.published : WriterStage → List Section
  -- the time does not matter to the routes
  | .stored remote absent => [.sync remote absent 0]
  | .withdrawn cutoff => [.sweep cutoff]
  | _ => []

def GossipShared.published (c : GossipShared) : List Section :=
  c.routes.holder.toList.flatMap fun w => (c.writers w).published

section

variable {t : Routes} {c : GossipShared} {r : Nat}

/-- **The pointer shows a whole table.** -/
theorem Serial.table (h : Serial t c) :
    c.routes.table = (c.published.foldl Section.apply t).peerNodes := by
  cases hholder : c.routes.holder with
  | none =>
    rw [GossipShared.published, hholder]
    exact congrArg Routes.peerNodes (h.free hholder)
  | some w =>
    have hheld := h.held w hholder
    rw [GossipShared.published, hholder, Option.toList_some, List.flatMap_singleton]
    generalize c.writers w = stage at hheld ⊢
    cases stage with
    | idle => exact hheld.elim
    | syncing | stored | sweeping | withdrawn => exact congrArg Routes.peerNodes hheld
    | adding | expired | withdrawing => exact congrArg Routes.peerNodes hheld.1

theorem view_writerNext (h : CopyOnWrite.Sound c.routes) (w : Nat) (now : Int) (r : Nat) :
    (c.writerNext w now).routes.view r = c.routes.view r := by
  unfold GossipShared.writerNext
  split
  · rfl
  · exact h.view_copy _ r
  · split_ifs
    · rfl
    · exact h.view_edit _ r
  · exact CopyOnWrite.Sound.view_publish r
  · rfl
  · dsimp only
    split_ifs <;> rfl
  · split_ifs
    · rfl
    · exact h.view_copy _ r
  · exact CopyOnWrite.Sound.view_publish r
  · rfl

/-- Only loading changes what a reader looks at. -/
theorem view_tablesNext (h : CopyOnWrite.Sound c.routes) (e : GossipStep) (r : Nat) :
    (e = .load r ∧ (tablesNext c e).routes.view r = some c.routes.table) ∨
      (e ≠ .load r ∧ (tablesNext c e).routes.view r = c.routes.view r) := by
  have henter : ∀ w stage, (c.enter w stage).routes.view r = c.routes.view r := by
    intro w stage
    unfold GossipShared.enter
    split <;> rfl
  cases e with
  | sync w remote ids => exact Or.inr ⟨nofun, henter w _⟩
  | sweep w cutoff => exact Or.inr ⟨nofun, henter w _⟩
  | writer w now => exact Or.inr ⟨nofun, view_writerNext h w now r⟩
  | lookup r' id => exact Or.inr ⟨nofun, rfl⟩
  | setNodes nodes => exact Or.inr ⟨nofun, rfl⟩
  | load r' =>
    have hview := CopyOnWrite.Sound.view_load (c := c.routes) r' r
    by_cases hr : r = r'
    · subst hr
      rw [if_pos rfl] at hview
      exact Or.inl ⟨rfl, hview⟩
    · rw [if_neg hr] at hview
      refine Or.inr ⟨?_, hview⟩
      intro heq
      cases heq
      exact hr rfl

end

/-- **A reader looks at the table it loaded**, as it was then. -/
theorem view_of_run (nodes : NodeMap) (t : Routes) (es : List GossipStep) (r : Nat)
    (m : FiniteMap UInt32 UDPAddr) (hm : (tablesRun nodes t es).routes.view r = some m) :
    ∃ before mid, es = before ++ .load r :: mid ∧ GossipStep.load r ∉ mid ∧
      m = (tablesRun nodes t before).routes.table := by
  induction es using List.reverseRecOn with
  | nil => cases hm
  | append_singleton es e ih =>
    have hsound := (serial_run nodes t es).sound
    rw [tablesRun, Transition.run_concat] at hm
    rcases view_tablesNext hsound e r with ⟨rfl, hview⟩ | ⟨hne, hview⟩
    · rw [tablesRun] at hview
      rw [hview] at hm
      cases hm
      exact ⟨es, [], rfl, List.not_mem_nil, rfl⟩
    · rw [tablesRun] at hview
      rw [hview] at hm
      obtain ⟨before, mid, rfl, hmid, rfl⟩ := ih hm
      refine ⟨before, mid ++ [e], by simp, ?_, rfl⟩
      intro hmem
      rcases List.mem_append.mp hmem with hmem | hmem
      · exact hmid hmem
      · exact hne (List.mem_singleton.mp hmem).symm

/-- **Syncs, sweeps and lookups are serializable.** However they are interleaved, while nobody has
    the lock the two tables are those of the sections one after the other; and a lookup, however
    late it is made, is answered from the table the sections published so far had left when the
    reader loaded the pointer. No update is lost, and nobody sees half of one. -/
theorem gossip_serializable (nodes : NodeMap) (t : Routes) (es : List GossipStep) :
    ((tablesRun nodes t es).routes.holder = none →
      (tablesRun nodes t es).tables = (sections nodes t es).foldl Section.apply t) ∧
    ∀ pre e post, es = pre ++ e :: post → ∀ x ∈ routeReads (tablesRun nodes t pre) e,
      ∃ before mid, pre = before ++ .load x.reader :: mid ∧ GossipStep.load x.reader ∉ mid ∧
        x.found = ((sections nodes t before ++ (tablesRun nodes t before).published).foldl
          Section.apply t).peerNodes.lookup x.id := by
  constructor
  · exact (serial_run nodes t es).free
  · intro pre e post _ x hx
    cases e with
    | lookup r id =>
      simp only [routeReads, Option.mem_toList, Option.map_eq_some_iff] at hx
      obtain ⟨m, hm, rfl⟩ := hx
      obtain ⟨before, mid, hpre, hmid, rfl⟩ := view_of_run nodes t pre r m hm
      refine ⟨before, mid, hpre, hmid, ?_⟩
      rw [List.foldl_append, ← (serial_run nodes t before).table]
    | _ => cases hx

/-! ## What a sync adds -/

/-- The id goroutine `w` asks the node table for at a step, and the answer. -/
def hasAnswers (w : Nat) (c : GossipShared) : GossipStep → List (UInt32 × Bool)
  | .writer w' _ =>
    match c.writers w with
    | .adding _ (id :: _) _ => if w' = w then [(id, c.nodes.has id)] else []
    | _ => []
  | _ => []

/-- The ids that were answered with no. -/
def unregistered (answers : List (UInt32 × Bool)) : List UInt32 :=
  (answers.filter fun a => !a.2).map Prod.fst

/-- Goroutine `w` is in a sync from `remote`: of the ids it lists, all but `todo` have been asked
    for since, one after the other, and `absent` are those that were not registered. -/
def Asked (nodes : NodeMap) (t : Routes) (w : Nat) (es : List GossipStep) (remote : UDPAddr)
    (todo absent : List UInt32) : Prop :=
  ∃ before ids mid, es = before ++ .sync w remote ids :: mid ∧
    let answers := Transition.observe tablesNext (hasAnswers w)
      (tablesRun nodes t (before ++ [.sync w remote ids])) mid
    answers.map Prod.fst ++ todo = ids ∧ unregistered answers = absent

/-- What holds of a goroutine by its stage. -/
def AskedBy (nodes : NodeMap) (t : Routes) (w : Nat) (es : List GossipStep) : WriterStage → Prop
  | .syncing remote ids => Asked nodes t w es remote ids []
  | .adding remote todo absent => Asked nodes t w es remote todo absent
  | .stored remote absent => Asked nodes t w es remote [] absent
  | _ => True

section

variable {nodes : NodeMap} {t : Routes} {w : Nat} {es : List GossipStep} {remote : UDPAddr}
  {todo absent : List UInt32}

/-- One more step, with what it asks. -/
theorem Asked.concat (h : Asked nodes t w es remote todo absent) {e : GossipStep}
    {todo' absent' : List UInt32}
    (htodo : (hasAnswers w (tablesRun nodes t es) e).map Prod.fst ++ todo' = todo)
    (habsent : absent ++ unregistered (hasAnswers w (tablesRun nodes t es) e) = absent') :
    Asked nodes t w (es ++ [e]) remote todo' absent' := by
  obtain ⟨before, ids, mid, rfl, hids, habs⟩ := h
  have hrun : tablesRun nodes t (before ++ .sync w remote ids :: mid) =
      Transition.run tablesNext (tablesRun nodes t (before ++ [.sync w remote ids])) mid := by
    rw [tablesRun, tablesRun, ← Transition.run_append, List.append_assoc]
    rfl
  rw [hrun] at htodo habsent
  refine ⟨before, ids, mid ++ [e], by simp, ?_, ?_⟩
  · rw [Transition.observe_concat, List.map_append, List.append_assoc, htodo, hids]
  · rw [Transition.observe_concat, unregistered, List.filter_append, List.map_append]
    exact (congrArg (· ++ _) habs).trans habsent

/-- A step that is not one of goroutine `w`. -/
theorem AskedBy.other (h : AskedBy nodes t w es ((tablesRun nodes t es).writers w)) {e : GossipStep}
    (hsame : (tablesNext (tablesRun nodes t es) e).writers w = (tablesRun nodes t es).writers w)
    (hnone : hasAnswers w (tablesRun nodes t es) e = []) :
    AskedBy nodes t w (es ++ [e]) ((tablesNext (tablesRun nodes t es) e).writers w) := by
  rw [hsame]
  cases hstage : (tablesRun nodes t es).writers w with
  | syncing remote ids | adding remote todo absent | stored remote absent =>
    rw [hstage] at h
    exact Asked.concat h (by simp [hnone]) (by simp [hnone, unregistered])
  | _ => trivial

/-- The lock is taken, by `w` or somebody else, or it is not. -/
theorem AskedBy.enter (h : AskedBy nodes t w es ((tablesRun nodes t es).writers w))
    {e : GossipStep} {w' : Nat} {stage : WriterStage}
    (hnext : tablesNext (tablesRun nodes t es) e = (tablesRun nodes t es).enter w' stage)
    (hnone : hasAnswers w (tablesRun nodes t es) e = [])
    (hstage : w' = w → AskedBy nodes t w (es ++ [e]) stage) :
    AskedBy nodes t w (es ++ [e]) ((tablesNext (tablesRun nodes t es) e).writers w) := by
  have hother := @AskedBy.other nodes t w es h e
  rw [hnext] at hother ⊢
  unfold GossipShared.enter at hother ⊢
  split at hother
  · by_cases hw : w' = w
    · subst hw
      simpa [GossipShared.setWriter] using hstage rfl
    · exact hother (by simp [GossipShared.setWriter, Function.update_of_ne (Ne.symm hw)]) hnone
  · exact hother rfl hnone

theorem writers_writerNext_of_ne (c : GossipShared) {w' : Nat} (hne : w ≠ w') (now : Int) :
    (c.writerNext w' now).writers w = c.writers w := by
  have hset : ∀ (c' : GossipShared) stage, (c'.setWriter w' stage).writers w = c'.writers w :=
    fun _ _ => Function.update_of_ne hne ..
  have hleave : ∀ c' : GossipShared, (c'.leave w').writers w = c'.writers w :=
    fun _ => Function.update_of_ne hne ..
  unfold GossipShared.writerNext
  cases c.writers w' with
  | idle => rfl
  | adding remote todo absent =>
    cases todo with
    | nil => exact hset _ _
    | cons id todo =>
      dsimp only
      split_ifs <;> exact hset _ _
  | sweeping cutoff | expired cutoff stale =>
    dsimp only
    split_ifs
    · exact hleave _
    · exact hset _ _
  | stored | withdrawn => exact hleave _
  | syncing | withdrawing => exact hset _ _

/-- A step of the goroutine itself: it asks for the next id, or for none. -/
theorem AskedBy.writer (h : AskedBy nodes t w es ((tablesRun nodes t es).writers w)) (now : Int) :
    AskedBy nodes t w (es ++ [.writer w now])
      (((tablesRun nodes t es).writerNext w now).writers w) := by
  have hset : ∀ (c' : GossipShared) stage, (c'.setWriter w stage).writers w = stage :=
    fun _ _ => Function.update_self ..
  have hleave : ∀ c' : GossipShared, (c'.leave w).writers w = .idle :=
    fun _ => Function.update_self ..
  unfold GossipShared.writerNext
  cases hstage : (tablesRun nodes t es).writers w with
  | idle =>
    simp only [hstage]
    trivial
  | syncing remote ids =>
    rw [hstage] at h
    simp only [hset]
    exact Asked.concat h (by simp [hasAnswers, hstage]) (by simp [hasAnswers, hstage, unregistered])
  | adding remote todo absent =>
    rw [hstage] at h
    cases todo with
    | nil =>
      simp only [hset]
      exact Asked.concat h (by simp [hasAnswers, hstage])
        (by simp [hasAnswers, hstage, unregistered])
    | cons id todo =>
      by_cases hid : (tablesRun nodes t es).nodes.has id = true
      · simp only [hid, if_true, hset]
        exact Asked.concat h (by simp [hasAnswers, hstage])
          (by simp [hasAnswers, hstage, unregistered, hid])
      · simp only [hid, Bool.false_eq_true, if_false, hset]
        exact Asked.concat h (by simp [hasAnswers, hstage])
          (by simp [hasAnswers, hstage, unregistered, hid])
  | stored remote absent | withdrawn cutoff =>
    simp only [hleave]
    trivial
  | withdrawing cutoff =>
    simp only [hset]
    trivial
  | sweeping cutoff | expired cutoff stale =>
    dsimp only
    split_ifs
    · simp only [hleave]
      trivial
    · simp only [hset]
      trivial

/-- **One step.** -/
theorem AskedBy.next (h : AskedBy nodes t w es ((tablesRun nodes t es).writers w))
    (e : GossipStep) :
    AskedBy nodes t w (es ++ [e]) ((tablesNext (tablesRun nodes t es) e).writers w) := by
  cases e with
  | load r => exact h.other rfl rfl
  | lookup r id => exact h.other rfl rfl
  | setNodes nodes => exact h.other rfl rfl
  | sweep w' cutoff => exact h.enter rfl rfl fun _ => trivial
  | sync w' remote ids =>
    refine h.enter rfl rfl ?_
    rintro rfl
    exact ⟨es, ids, [], rfl, rfl, rfl⟩
  | writer w' now =>
    by_cases hw : w = w'
    · subst hw
      exact h.writer now
    · refine h.other (writers_writerNext_of_ne _ hw now) ?_
      simp only [hasAnswers]
      split
      · rw [if_neg (Ne.symm hw)]
      · rfl

end

/-- **What a sync adds.** In every interleaving, a sync section that ends asked the node table for
    each id that its sync listed, in order, while it had the lock, and `absent` are those that the
    table did not have when they were asked for. -/
theorem sync_absent (nodes : NodeMap) (t : Routes) (pre : List GossipStep) (e : GossipStep)
    {remote : UDPAddr} {absent : List UInt32} {now : Int}
    (h : Section.sync remote absent now ∈ sectionEnds (tablesRun nodes t pre) e) :
    ∃ w before ids mid, e = .writer w now ∧ pre = before ++ .sync w remote ids :: mid ∧
      let answers := Transition.observe tablesNext (hasAnswers w)
        (tablesRun nodes t (before ++ [.sync w remote ids])) mid
      answers.map Prod.fst = ids ∧ unregistered answers = absent := by
  have hasked : ∀ w, AskedBy nodes t w pre ((tablesRun nodes t pre).writers w) := fun w =>
    Transition.run_induction tablesNext (s := GossipShared.start nodes t)
      (fun es c => AskedBy nodes t w es (c.writers w)) trivial (fun es e h => AskedBy.next h e) pre
  unfold sectionEnds at h
  split at h
  · rename_i w now'
    have hw := hasked w
    cases hstage : (tablesRun nodes t pre).writers w with
    | stored remote' absent' =>
      rw [hstage] at hw
      simp only [hstage, List.mem_singleton] at h
      cases h
      obtain ⟨before, ids, mid, hpre, hids, habs⟩ := hw
      exact ⟨w, before, ids, mid, rfl, hpre, by simpa using hids, habs⟩
    | sweeping | expired =>
      simp only [hstage] at h
      split_ifs at h <;> simp at h
    | withdrawn | idle | syncing | adding | withdrawing => simp [hstage] at h
  · cases h

/-! ## Without interleaving -/

section

variable {c : GossipShared} {w : Nat}

/-- Checking and adding the ids, one by one. -/
theorem adding_run (now : Int) {remote : UDPAddr} {todo absent : List UInt32}
    (hstage : c.writers w = .adding remote todo absent) :
    (Transition.run tablesNext c (List.replicate (todo.length + 1) (.writer w now))).writers w =
        .stored remote (absent ++ todo.filter fun id => !c.nodes.has id) ∧
      Transition.observe tablesNext sectionEnds c
        (List.replicate (todo.length + 1) (.writer w now)) = [] := by
  induction todo generalizing c absent with
  | nil =>
    simp [Transition.run, Transition.observe, tablesNext, GossipShared.writerNext, hstage,
      GossipShared.setWriter, sectionEnds]
  | cons id todo ih =>
    rw [List.length_cons, List.replicate_succ, Transition.run_cons, Transition.observe_cons]
    have hnodes : (tablesNext c (.writer w now)).nodes = c.nodes := by
      simp only [tablesNext, GossipShared.writerNext, hstage]
      split_ifs <;> rfl
    have hends : sectionEnds c (.writer w now) = [] := by
      simp only [sectionEnds, hstage]
    rw [hends, List.nil_append]
    by_cases hid : c.nodes.has id = true
    · have hnext : (tablesNext c (.writer w now)).writers w = .adding remote todo absent := by
        simp [tablesNext, GossipShared.writerNext, hstage, hid, GossipShared.setWriter]
      have hrest := ih hnext
      rw [hnodes] at hrest
      simpa [hid] using hrest
    · have hnext : (tablesNext c (.writer w now)).writers w =
          .adding remote todo (absent ++ [id]) := by
        simp [tablesNext, GossipShared.writerNext, hstage, hid, GossipShared.setWriter]
      have hrest := ih hnext
      rw [hnodes] at hrest
      simpa [hid] using hrest

/-- **A sync that is not interrupted** is `handleSync`'s update. -/
theorem sync_uninterrupted {s : Server} (h : Serial ⟨s.peerNodes, s.gossipSeen⟩ c)
    (hfree : c.routes.holder = none) (hnodes : c.nodes = s.nodes) (remote : UDPAddr)
    (ids : List UInt32) (now : Int) :
    let c' := Transition.run tablesNext c
      (.sync w remote ids :: List.replicate (ids.length + 3) (.writer w now))
    c'.routes.holder = none ∧ c'.tables =
      let s' := s.publishRoutes ids remote now
      ⟨s'.peerNodes, s'.gossipSeen⟩ := by
  have hidle : c.writers w = .idle := h.alone w (by rw [hfree]; exact nofun)
  have hsplit : GossipStep.sync w remote ids :: List.replicate (ids.length + 3) (.writer w now) =
      [.sync w remote ids, .writer w now] ++
        (List.replicate (ids.length + 1) (.writer w now) ++ [.writer w now]) := by
    rw [← List.replicate_succ', List.cons_append, List.singleton_append, ← List.replicate_succ]
  -- the lock and the copy
  set c₂ := Transition.run tablesNext c [.sync w remote ids, .writer w now] with hc₂
  have hbegin : c₂.writers w = .adding remote ids [] ∧ c₂.nodes = s.nodes := by
    simp [hc₂, tablesNext, GossipShared.enter, hidle, hfree, GossipShared.setWriter,
      GossipShared.writerNext, hnodes]
  have hquiet : Transition.observe tablesNext sectionEnds c
      [.sync w remote ids, .writer w now] = [] := by
    simp [tablesNext, GossipShared.enter, hidle, hfree, GossipShared.setWriter, sectionEnds]
  obtain ⟨hstored, hquiet'⟩ := adding_run now hbegin.1
  rw [hbegin.2, List.nil_append] at hstored
  set c₃ := Transition.run tablesNext c₂ (List.replicate (ids.length + 1) (.writer w now)) with hc₃
  have hrun : Transition.run tablesNext c
      (.sync w remote ids :: List.replicate (ids.length + 3) (.writer w now)) =
      tablesNext c₃ (.writer w now) := by
    rw [hsplit, Transition.run_append, ← hc₂, Transition.run_concat]
  have hends : Transition.observe tablesNext sectionEnds c
      (.sync w remote ids :: List.replicate (ids.length + 3) (.writer w now)) =
      [.sync remote (ids.filter fun id => !s.nodes.has id) now] := by
    rw [hsplit, Transition.observe_append, hquiet, ← hc₂, Transition.observe_concat, hquiet', ← hc₃]
    simp [sectionEnds, hstored]
  have hlast : (tablesNext c₃ (.writer w now)).routes.holder = none := by
    simp only [tablesNext, GossipShared.writerNext, hstored]
    rfl
  have hserial := h.run (.sync w remote ids :: List.replicate (ids.length + 3) (.writer w now))
  rw [hends, hrun] at hserial
  rw [hrun]
  exact ⟨hlast, hserial.free hlast⟩

/-- Nobody has the lock after `n` steps of goroutine `w`, which end the section `sec`. -/
def EndsAlone (w : Nat) (now : Int) (sec : Section) (n : Nat) (c : GossipShared) : Prop :=
  (Transition.run tablesNext c (List.replicate n (.writer w now))).routes.holder = none ∧
    Transition.observe tablesNext sectionEnds c (List.replicate n (.writer w now)) = [sec]

theorem endsAlone_of_leave {now : Int} {sec : Section} {c' : GossipShared} (n : Nat)
    (hnext : tablesNext c (.writer w now) = c'.leave w)
    (hends : sectionEnds c (.writer w now) = [sec]) : EndsAlone w now sec (n + 1) c := by
  -- the steps that are left do nothing
  have hidle : ∀ n, Transition.run tablesNext (c'.leave w) (List.replicate n (.writer w now)) =
      c'.leave w ∧ Transition.observe tablesNext sectionEnds (c'.leave w)
        (List.replicate n (.writer w now)) = [] := by
    have hstage : (c'.leave w).writers w = .idle := Function.update_self ..
    intro n
    induction n with
    | zero => exact ⟨rfl, rfl⟩
    | succ n ih =>
      rw [List.replicate_succ, Transition.run_cons, Transition.observe_cons]
      simpa only [tablesNext, GossipShared.writerNext, sectionEnds, hstage, List.nil_append]
        using ih
  rw [EndsAlone, List.replicate_succ, Transition.run_cons, Transition.observe_cons, hnext, hends,
    (hidle n).1, (hidle n).2]
  exact ⟨rfl, rfl⟩

theorem EndsAlone.cons {now : Int} {sec : Section} {n : Nat}
    (h : EndsAlone w now sec n (tablesNext c (.writer w now)))
    (hends : sectionEnds c (.writer w now) = []) : EndsAlone w now sec (n + 1) c := by
  rw [EndsAlone, List.replicate_succ, Transition.run_cons, Transition.observe_cons, hends]
  exact h

theorem endsAlone_sweeping (now : Int) {cutoff : Int} (hstage : c.writers w = .sweeping cutoff) :
    EndsAlone w now (.sweep cutoff) 4 c := by
  by_cases hnone : (staleBefore cutoff c.gossipSeen).size = 0
  · apply endsAlone_of_leave
    · simp only [tablesNext, GossipShared.writerNext, hstage, if_pos hnone]
      rfl
    · simp only [sectionEnds, hstage, if_pos hnone]
  · apply EndsAlone.cons _ (by simp only [sectionEnds, hstage, if_neg hnone])
    set c₁ := tablesNext c (.writer w now) with hc₁
    have hstage₁ : c₁.writers w = .expired cutoff (staleBefore cutoff c.gossipSeen) := by
      simp [hc₁, tablesNext, GossipShared.writerNext, hstage, hnone, GossipShared.setWriter]
    clear_value c₁
    by_cases hsame : FiniteMap.size (routesKept (staleBefore cutoff c.gossipSeen) c₁.routes.table) =
        c₁.routes.table.size
    · apply endsAlone_of_leave
      · simp only [tablesNext, GossipShared.writerNext, hstage₁, if_pos hsame]
        rfl
      · simp only [sectionEnds, hstage₁, if_pos hsame]
    · apply EndsAlone.cons _ (by simp only [sectionEnds, hstage₁, if_neg hsame])
      set c₂ := tablesNext c₁ (.writer w now) with hc₂
      have hstage₂ : c₂.writers w = .withdrawing cutoff := by
        simp [hc₂, tablesNext, GossipShared.writerNext, hstage₁, hsame, GossipShared.setWriter]
      clear_value c₂
      apply EndsAlone.cons _ (by simp only [sectionEnds, hstage₂])
      set c₃ := tablesNext c₂ (.writer w now) with hc₃
      have hstage₃ : c₃.writers w = .withdrawn cutoff := by
        simp [hc₃, tablesNext, GossipShared.writerNext, hstage₂, GossipShared.setWriter]
      clear_value c₃
      apply endsAlone_of_leave
      · simp only [tablesNext, GossipShared.writerNext, hstage₃]
        rfl
      · simp only [sectionEnds, hstage₃]

/-- The early returns are invisible. -/
theorem apply_sweep (s : Server) (cutoff : Int) :
    Section.apply ⟨s.peerNodes, s.gossipSeen⟩ (.sweep cutoff) =
      ⟨(s.sweepStaleGossip cutoff).peerNodes, (s.sweepStaleGossip cutoff).gossipSeen⟩ := by
  unfold Server.sweepStaleGossip
  dsimp only
  split_ifs with hnone hsame
  · exact congrArg (Routes.mk · _) (routesKept_of_size hnone _)
  · exact congrArg (Routes.mk · _) (FiniteMap.filter_eq_self_of_size _ _ hsame)
  · rfl

/-- **A sweep that is not interrupted** is `sweepStaleGossip`. -/
theorem sweep_uninterrupted {s : Server} (h : Serial ⟨s.peerNodes, s.gossipSeen⟩ c)
    (hfree : c.routes.holder = none) (cutoff now : Int) :
    let c' := Transition.run tablesNext c
      (.sweep w cutoff :: List.replicate 4 (.writer w now))
    c'.routes.holder = none ∧ c'.tables =
      ⟨(s.sweepStaleGossip cutoff).peerNodes, (s.sweepStaleGossip cutoff).gossipSeen⟩ := by
  have hidle : c.writers w = .idle := h.alone w (by rw [hfree]; exact nofun)
  have hstage : (tablesNext c (.sweep w cutoff)).writers w = .sweeping cutoff := by
    simp [tablesNext, GossipShared.enter, hidle, hfree, GossipShared.setWriter]
  obtain ⟨hlast, hends⟩ := endsAlone_sweeping now hstage
  have hserial := (h.next (.sweep w cutoff)).run (List.replicate 4 (.writer w now))
  rw [hends] at hserial
  rw [← apply_sweep]
  exact ⟨hlast, hserial.free hlast⟩

end

/-! ## Registered nodes -/

/-- The ids a goroutine has given a route in its copy. -/
def WriterStage.absent : WriterStage → List UInt32
  | .adding _ _ absent => absent
  | .stored _ absent => absent
  | _ => []

/-- The section gives no route to `id`. -/
def Section.Spares (id : UInt32) : Section → Prop
  | .sync _ absent _ => id ∉ absent
  | .sweep _ => True

theorem Section.Spares.apply {id : UInt32} {sec : Section} (h : sec.Spares id) {t : Routes}
    (ht : t.peerNodes.lookup id = none) : (sec.apply t).peerNodes.lookup id = none := by
  cases sec with
  | sync remote absent now =>
    rw [Section.apply, FiniteMap.lookup_insertAll, if_neg h, routesOfOthers,
      FiniteMap.lookup_filter, ht]
    rfl
  | sweep cutoff =>
    rw [Section.apply, routesKept, FiniteMap.lookup_filter, ht]
    rfl

theorem lookup_of_spares {id : UInt32} {secs : List Section} (h : ∀ sec ∈ secs, sec.Spares id)
    {t : Routes} (ht : t.peerNodes.lookup id = none) :
    (secs.foldl Section.apply t).peerNodes.lookup id = none := by
  induction secs generalizing t with
  | nil => exact ht
  | cons sec secs ih =>
    apply ih (fun sec' hsec' => h sec' (List.mem_cons_of_mem _ hsec'))
    exact (h sec List.mem_cons_self).apply ht

section

variable {c : GossipShared} {id : UInt32}

/-- The step leaves `id` registered. -/
def GossipStep.Keeps (id : UInt32) : GossipStep → Prop
  | .setNodes nodes => nodes.has id = true
  | _ => True

/-- `id` is registered, and nobody is about to give it a route. -/
structure Spared (id : UInt32) (c : GossipShared) : Prop where
  registered : c.nodes.has id = true
  absent : ∀ w, id ∉ (c.writers w).absent

theorem Spared.setWriter (h : Spared id c) {routes : Cow (FiniteMap UInt32 UDPAddr)}
    {seen : FiniteMap Text Int} (w : Nat) {stage : WriterStage} (hstage : id ∉ stage.absent) :
    Spared id
      (GossipShared.setWriter { c with routes := routes, gossipSeen := seen } w stage) where
  registered := h.registered
  absent := by
    intro w'
    by_cases hw : w' = w
    · subst hw
      simpa [GossipShared.setWriter] using hstage
    · simpa [GossipShared.setWriter, Function.update_of_ne hw] using h.absent w'

theorem Spared.next (h : Spared id c) {e : GossipStep} (he : e.Keeps id) :
    Spared id (tablesNext c e) := by
  have henter : ∀ w stage, id ∉ stage.absent → Spared id (c.enter w stage) := by
    intro w stage hstage
    unfold GossipShared.enter
    split
    · exact h.setWriter w hstage
    · exact h
  cases e with
  | sync w remote ids => exact henter w _ List.not_mem_nil
  | sweep w cutoff => exact henter w _ List.not_mem_nil
  | load r => exact ⟨h.registered, h.absent⟩
  | lookup r id => exact h
  | setNodes nodes => exact ⟨he, h.absent⟩
  | writer w now =>
    have habsent := h.absent w
    simp only [tablesNext, GossipShared.writerNext]
    cases hstage : c.writers w with
    | adding remote todo absent =>
      rw [hstage] at habsent
      cases todo with
      | nil => exact h.setWriter w habsent
      | cons id' todo =>
        dsimp only
        split_ifs with hid
        · exact h.setWriter w habsent
        · -- an id that is added is not registered
          apply h.setWriter w
          simp only [WriterStage.absent, List.mem_append, List.mem_singleton, not_or]
          refine ⟨habsent, ?_⟩
          rintro rfl
          exact hid h.registered
    | sweeping cutoff =>
      dsimp only
      split_ifs <;> exact h.setWriter w List.not_mem_nil
    | expired cutoff stale =>
      dsimp only
      split_ifs <;> exact h.setWriter w List.not_mem_nil
    | idle => exact h
    | syncing | stored | withdrawing | withdrawn => exact h.setWriter w List.not_mem_nil

theorem Spared.sectionEnds (h : Spared id c) (e : GossipStep) :
    ∀ sec ∈ sectionEnds c e, sec.Spares id := by
  intro sec hsec
  unfold PilotBeacon.sectionEnds at hsec
  split at hsec
  · rename_i w now
    have habsent := h.absent w
    cases hstage : c.writers w with
    | stored remote absent =>
      rw [hstage] at habsent
      simp only [hstage, List.mem_singleton] at hsec
      subst hsec
      exact habsent
    | sweeping | expired =>
      simp only [hstage] at hsec
      split_ifs at hsec
      · rw [List.mem_singleton.mp hsec]
        trivial
      · cases hsec
    | withdrawn =>
      simp only [hstage, List.mem_singleton] at hsec
      subst hsec
      trivial
    | idle | syncing | adding | withdrawing =>
      simp only [hstage] at hsec
      cases hsec
  · cases hsec

theorem Spared.published (h : Spared id c) : ∀ sec ∈ c.published, sec.Spares id := by
  intro sec hsec
  obtain ⟨w, -, hw⟩ := List.mem_flatMap.mp hsec
  have habsent := h.absent w
  cases hstage : c.writers w with
  | stored remote absent =>
    rw [hstage] at habsent hw
    rw [List.mem_singleton.mp hw]
    exact habsent
  | withdrawn cutoff =>
    rw [hstage] at hw
    rw [List.mem_singleton.mp hw]
    trivial
  | idle | syncing | adding | sweeping | expired | withdrawing =>
    rw [hstage] at hw
    cases hw

/-- **While `id` stays registered**, no section gives it a route. -/
theorem Spared.run (h : Spared id c) {es : List GossipStep} (hes : ∀ e ∈ es, e.Keeps id) :
    Spared id (Transition.run tablesNext c es) ∧
      ∀ sec ∈ Transition.observe tablesNext PilotBeacon.sectionEnds c es, sec.Spares id := by
  induction es generalizing c with
  | nil => exact ⟨h, fun _ hsec => absurd hsec List.not_mem_nil⟩
  | cons e es ih =>
    obtain ⟨hrun, hsecs⟩ := ih (h.next (hes e List.mem_cons_self)) fun e' he' =>
      hes e' (List.mem_cons_of_mem e he')
    refine ⟨hrun, fun sec hsec => ?_⟩
    rw [Transition.observe_cons, List.mem_append] at hsec
    exact hsec.elim (h.sectionEnds e sec) (hsecs sec)

end

/-- The last load of a reader comes after `es₀` if there is one after it. -/
theorem load_after {es₀ pre before mid : List GossipStep} {e : GossipStep}
    (heq : es₀ ++ pre = before ++ e :: mid) (hlater : e ∈ pre) (hlast : e ∉ mid) :
    ∃ before', before = es₀ ++ before' ∧ pre = before' ++ e :: mid := by
  rcases List.append_eq_append_iff.mp heq with ⟨before', rfl, hpre⟩ | ⟨rest, hes₀, hrest⟩
  · exact ⟨before', rfl, hpre⟩
  · -- otherwise `pre` is part of what follows the last load
    cases rest with
    | nil => exact ⟨[], by simpa using hes₀.symm, by simpa using hrest.symm⟩
    | cons d rest =>
      cases hrest
      exact absurd (List.mem_append_right rest hlater) hlast

/-- **A registered node is not routed elsewhere.** Take any moment of any run at which `id` is
    registered here, has no route, and nobody has the lock. As long as it stays registered, whoever
    loads the table after that moment finds no route for it, whatever other beacons list and
    however their syncs are interleaved with lookups. -/
theorem registered_not_routed (nodes : NodeMap) (t : Routes) (es₀ es : List GossipStep)
    (id : UInt32) (hfree : (tablesRun nodes t es₀).routes.holder = none)
    (hid : (tablesRun nodes t es₀).nodes.has id = true)
    (hroute : (tablesRun nodes t es₀).routes.table.lookup id = none)
    (hes : ∀ e ∈ es, e.Keeps id) :
    ∀ pre e post, es = pre ++ e :: post → ∀ x ∈ routeReads (tablesRun nodes t (es₀ ++ pre)) e,
      x.id = id → GossipStep.load x.reader ∈ pre → x.found = none := by
  have hserial := serial_run nodes t es₀
  have hspared : Spared id (tablesRun nodes t es₀) := by
    refine ⟨hid, fun w => ?_⟩
    rw [hserial.alone w (by simp [hfree])]
    exact List.not_mem_nil
  have hstart : ((sections nodes t es₀).foldl Section.apply t).peerNodes.lookup id = none := by
    rw [← hserial.free hfree]
    exact hroute
  intro pre e post heq x hx hxid hload
  cases e with
  | lookup r id' =>
    simp only [routeReads, Option.mem_toList, Option.map_eq_some_iff] at hx
    obtain ⟨m, hm, rfl⟩ := hx
    obtain ⟨before, mid, hsplit, hmid, rfl⟩ := view_of_run nodes t (es₀ ++ pre) r m hm
    obtain ⟨before', rfl, rfl⟩ := load_after hsplit hload hmid
    have hkeeps : ∀ e' ∈ before', e'.Keeps id := fun e' he' => hes e' (by simp [heq, he'])
    obtain ⟨hstate, hsecs⟩ := hspared.run hkeeps
    have hrun : tablesRun nodes t (es₀ ++ before') =
        Transition.run tablesNext (tablesRun nodes t es₀) before' := Transition.run_append ..
    cases hxid
    dsimp only
    rw [(serial_run nodes t (es₀ ++ before')).table, sections, Transition.observe_append,
      List.foldl_append, ← List.foldl_append]
    apply lookup_of_spares _ hstart
    intro sec hsec
    rcases List.mem_append.mp hsec with hsec | hsec
    · exact hsecs sec hsec
    · rw [hrun] at hsec
      exact hstate.published sec hsec
  | _ => cases hx

/-- Node 7 is registered and a first sync has gone through; a peer lists 7 and 8 while a reader has
    the old table in its hands. -/
def listedElsewhere : List GossipStep :=
  [.sync 0 (sampleAddr 10 0 0 9 9001) [7, 8], .writer 0 second, .load 1, .writer 0 second,
    .writer 0 second, .writer 0 second, .load 2]

/-- A sync that lists node 6 only. -/
def firstSync : List GossipStep :=
  .sync 0 (sampleAddr 10 0 0 9 9001) [6] :: List.replicate 4 (.writer 0 second)

/-- The reader of the new table finds node 8, and nobody finds node 7. -/
theorem registered_not_routed_seven :
    let nodes := (runFrom sampleConfig [] nodeSeven).nodes
    let c := tablesRun nodes ⟨∅, ∅⟩ (firstSync ++ listedElsewhere)
    ((routeReads c (.lookup 2 8)).map RouteRead.found = [some (sampleAddr 10 0 0 9 9001)]) ∧
      (routeReads c (.lookup 2 7)).length = 1 ∧
      ∀ x ∈ routeReads c (.lookup 2 7), x.id = 7 → .load x.reader ∈ listedElsewhere →
        x.found = none := by
  refine ⟨by decide, by decide, ?_⟩
  apply registered_not_routed _ _ firstSync (listedElsewhere ++ [.lookup 2 7]) 7 (by decide)
    (by decide) (by decide) _ listedElsewhere _ [] rfl
  simp [listedElsewhere, GossipStep.Keeps]

end PilotBeacon
