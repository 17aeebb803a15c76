import PilotBeacon.Lib.History
import PilotBeacon.Server.Beacon

/-!
# The Route Table and Its History

Syncs replace routes by comparing IP and port, sweeps withdraw them by comparing printed
addresses, and several sources overwrite each other. Still, who owns the route for an id is
a plain function of the history: the source whose last sync published it, if nothing
happened since that takes it away.

The runs are those of the beacon, with sweeps at arbitrary cutoffs in addition to those of
the reaper.

- `routeEvents`: the history of one id
- `routesRecorded_run`: the table agrees with the history, after every run
- `gossip_routes`: owners, and what a sweep leaves
-/

namespace PilotBeacon

open PilotBeacon.Lib PilotBeacon.Net
open History (Since)

/-! ## Runs -/

inductive GossipEvent where
  | beacon (e : Event)
  | sweep (cutoff : Int)

def gossipNext (cfg : Config) (s : Server) : GossipEvent → Server
  | .beacon e => next cfg s e
  | .sweep cutoff => s.sweepStaleGossip cutoff

/-- The state after a run from the start. -/
def gossipRun (cfg : Config) (peers : List Text) (es : List GossipEvent) : Server :=
  Transition.run (gossipNext cfg) (newWithPeers cfg peers) es

/-! ## The history of one route -/

/-- What bears on the route of an id: an accepted sync, which publishes the id if it lists it
    while the id is not registered here, and a sweep. -/
inductive RouteEvent where
  | sync (src : UDPAddr) (publishes : Bool) (time : Int)
  | sweep (cutoff : Int)

/-- The entry an event makes in the history of `id`. -/
def routeEvent (cfg : Config) (id : UInt32) (s : Server) : GossipEvent → List RouteEvent
  | .sweep cutoff => [.sweep cutoff]
  | .beacon e =>
    match acceptedGossip cfg s e with
    | some (src, ids) => [.sync src (decide (id ∈ ids) && !s.nodes.has id) e.now]
    | none =>
      match e.act with
      | .reap => [.sweep (e.now - gossipPeerTTL)]
      | _ => []

def routeEvents (cfg : Config) (peers : List Text) (id : UInt32) (es : List GossipEvent) :
    List RouteEvent :=
  Transition.observe (gossipNext cfg) (routeEvent cfg id) (newWithPeers cfg peers) es

/-- A sync of source `r` at time `t` that publishes the id. -/
def PublishedBy (r : UDPAddr) (t : Int) : RouteEvent → Prop
  | .sync src publishes time => src.sameEndpoint r = true ∧ publishes = true ∧ time = t
  | .sweep _ => False

/-- Does not take the route away from `r`, last heard at `t`: no sync of `r` itself, none of
    another source that publishes the id, no sweep that expires `r`. -/
def KeepsRoute (r : UDPAddr) (t : Int) : RouteEvent → Prop
  | .sync src publishes _ => src.sameEndpoint r = false ∧ publishes = false
  | .sweep cutoff => cutoff ≤ t

/-- `r`'s most recent sync, at `t`, published the id, and it still counts. -/
def OwnedSince (hist : List RouteEvent) (r : UDPAddr) (t : Int) : Prop :=
  Since (KeepsRoute r t) (PublishedBy r t) hist

/-! ## Steps -/

/-- Routes change by accepted syncs and by sweeps, and these are what the history records. -/
theorem gossipNext_routes (cfg : Config) (id : UInt32) (s : Server) (e : GossipEvent) :
    (∃ src ids now, routeEvent cfg id s e =
        [.sync src (decide (id ∈ ids) && !s.nodes.has id) now] ∧
      (gossipNext cfg s e).peerNodes = (s.publishRoutes ids src now).peerNodes ∧
      (gossipNext cfg s e).gossipSeen = (s.publishRoutes ids src now).gossipSeen) ∨
    (∃ cutoff, routeEvent cfg id s e = [.sweep cutoff] ∧
      (gossipNext cfg s e).peerNodes = (s.sweepStaleGossip cutoff).peerNodes ∧
      (gossipNext cfg s e).gossipSeen = (s.sweepStaleGossip cutoff).gossipSeen) ∨
    (routeEvent cfg id s e = [] ∧ (gossipNext cfg s e).peerNodes = s.peerNodes ∧
      (gossipNext cfg s e).gossipSeen = s.gossipSeen) := by
  cases e with
  | sweep cutoff => exact Or.inr (Or.inl ⟨cutoff, rfl, rfl, rfl⟩)
  | beacon e =>
    simp only [gossipNext, routeEvent]
    rcases next_routes cfg s e with
      ⟨src, ids, hev, -, hroutes, hseen⟩ | ⟨hev, hreap, hroutes, hseen⟩ |
        ⟨hev, hreap, hroutes, hseen⟩
    · exact Or.inl ⟨src, ids, e.now, by rw [hev], hroutes, hseen⟩
    · exact Or.inr (Or.inl ⟨_, by rw [hev, hreap], hroutes, hseen⟩)
    · refine Or.inr (Or.inr ⟨?_, hroutes, hseen⟩)
      rw [hev]
      cases hact : e.act with
      | reap => exact absurd hact hreap
      | _ => rfl

/-- `OwnedSince` for the very address that is stored, zone included. -/
def StoredSince (hist : List RouteEvent) (a : UDPAddr) (t : Int) : Prop :=
  Since (KeepsRoute a t) (fun ev => ev = .sync a true t) hist

/-- The route of `id` and the time its owner was last seen, read off the history. -/
structure RoutesRecorded (id : UInt32) (hist : List RouteEvent) (s : Server) : Prop where
  owner : ∀ a, s.peerNodes.lookup id = some a ↔ ∃ t, StoredSince hist a t
  seen : ∀ a t, StoredSince hist a t → s.gossipSeen.lookup a.string = some t

section

variable {id : UInt32} {hist : List RouteEvent} {s s' : Server}

/-- How a sync changes who has owned the route since when. -/
theorem storedSince_sync {src a : UDPAddr} {publishes : Bool} {now t : Int} :
    StoredSince (hist ++ [.sync src publishes now]) a t ↔
      (src = a ∧ publishes = true ∧ now = t) ∨
        (StoredSince hist a t ∧ src.sameEndpoint a = false ∧ publishes = false) := by
  rw [StoredSince, History.since_concat, RouteEvent.sync.injEq]
  rfl

/-- One more sync. -/
theorem RoutesRecorded.sync (h : RoutesRecorded id hist s) {src : UDPAddr} {ids : List UInt32}
    {now : Int} (hroutes : s'.peerNodes = (s.publishRoutes ids src now).peerNodes)
    (hseen : s'.gossipSeen = (s.publishRoutes ids src now).gossipSeen) :
    RoutesRecorded id (hist ++ [.sync src (decide (id ∈ ids) && !s.nodes.has id) now]) s' := by
  constructor
  · intro a
    rw [hroutes, Server.lookup_publishRoutes]
    simp only [storedSince_sync]
    by_cases hpub : id ∈ ids ∧ s.nodes.has id = false
    · -- the sync publishes the id: its source is the owner
      have hflag : (decide (id ∈ ids) && !s.nodes.has id) = true := by simp [hpub]
      rw [if_pos hpub, hflag, Option.some_inj]
      constructor
      · intro hsrc
        exact ⟨now, Or.inl ⟨hsrc, rfl, rfl⟩⟩
      · rintro ⟨t, ⟨hsrc, -⟩ | ⟨-, -, hfalse⟩⟩
        · exact hsrc
        · cases hfalse
    · -- it does not: it only withdraws what its source owned
      have hflag : (decide (id ∈ ids) && !s.nodes.has id) = false := by
        rw [Bool.eq_false_iff]
        intro htrue
        apply hpub
        simpa using htrue
      rw [if_neg hpub, hflag, Option.filter_eq_some_iff, h.owner]
      constructor
      · rintro ⟨⟨t, ht⟩, hother⟩
        refine ⟨t, Or.inr ⟨ht, ?_, rfl⟩⟩
        rw [UDPAddr.sameEndpoint_comm]
        simpa using hother
      · rintro ⟨t, ⟨-, hfalse, -⟩ | ⟨ht, hother, -⟩⟩
        · cases hfalse
        · refine ⟨⟨t, ht⟩, ?_⟩
          rw [UDPAddr.sameEndpoint_comm, hother]
          rfl
  · intro a t ht
    rw [hseen, Server.lookup_gossipSeen_publishRoutes]
    rcases storedSince_sync.mp ht with ⟨rfl, -, rfl⟩ | ⟨ht, hother, -⟩
    · rw [if_pos rfl]
    · rw [if_neg, h.seen a t ht]
      -- printed alike would mean one endpoint
      intro hstr
      rw [(UDPAddr.string_injective hstr.symm).1] at hother
      cases hother

theorem storedSince_sweep {cutoff : Int} {a : UDPAddr} {t : Int} :
    StoredSince (hist ++ [.sweep cutoff]) a t ↔ StoredSince hist a t ∧ cutoff ≤ t := by
  rw [StoredSince, History.since_concat]
  simp only [reduceCtorEq, false_or]
  rfl

/-- One more sweep. -/
theorem RoutesRecorded.sweep (h : RoutesRecorded id hist s) {cutoff : Int}
    (hroutes : s'.peerNodes = (s.sweepStaleGossip cutoff).peerNodes)
    (hseen : s'.gossipSeen = (s.sweepStaleGossip cutoff).gossipSeen) :
    RoutesRecorded id (hist ++ [.sweep cutoff]) s' := by
  constructor
  · intro a
    -- the sweep looks at the time last seen, which is the time of the owner's sync
    rw [hroutes, Server.lookup_sweepStaleGossip, Option.filter_eq_some_iff, h.owner]
    simp only [storedSince_sweep]
    constructor
    · rintro ⟨⟨t, ht⟩, hfresh⟩
      rw [h.seen a t ht] at hfresh
      exact ⟨t, ht, by simpa using hfresh⟩
    · rintro ⟨t, ht, hfresh⟩
      refine ⟨⟨t, ht⟩, ?_⟩
      rw [h.seen a t ht]
      simpa using hfresh
  · intro a t ht
    obtain ⟨ht, hfresh⟩ := storedSince_sweep.mp ht
    rw [hseen, Server.lookup_gossipSeen_sweep, h.seen a t ht, Option.filter_eq_some_iff]
    exact ⟨rfl, by simpa using hfresh⟩

/-- Anything else. -/
theorem RoutesRecorded.idle (h : RoutesRecorded id hist s) (hroutes : s'.peerNodes = s.peerNodes)
    (hseen : s'.gossipSeen = s.gossipSeen) : RoutesRecorded id (hist ++ []) s' := by
  rw [List.append_nil]
  constructor
  · rw [hroutes]
    exact h.owner
  · rw [hseen]
    exact h.seen

end

/-! ## Runs and their histories -/

/-- **The table agrees with the history**, after every run. -/
theorem routesRecorded_run (cfg : Config) (peers : List Text) (id : UInt32)
    (es : List GossipEvent) :
    RoutesRecorded id (routeEvents cfg peers id es) (gossipRun cfg peers es) := by
  apply Transition.run_induction (gossipNext cfg)
    (fun es s => RoutesRecorded id (routeEvents cfg peers id es) s)
  · -- no routes and no history
    constructor
    · intro a
      constructor
      · intro h
        cases h
      · rintro ⟨t, ht⟩
        exact absurd ht History.not_since_nil
    · intro a t ht
      exact absurd ht History.not_since_nil
  · intro es e ih
    rw [routeEvents, Transition.observe_concat]
    rcases gossipNext_routes cfg id (gossipRun cfg peers es) e with
      ⟨src, ids, now, hev, hroutes, hseen⟩ | ⟨cutoff, hev, hroutes, hseen⟩ | ⟨hev, hroutes, hseen⟩
    · exact hev ▸ ih.sync hroutes hseen
    · exact hev ▸ ih.sweep hroutes hseen
    · exact hev ▸ ih.idle hroutes hseen

/-- A source is an endpoint; some address of that endpoint is the one stored. -/
theorem ownedSince_iff {hist : List RouteEvent} {r : UDPAddr} {t : Int} :
    OwnedSince hist r t ↔ ∃ a, a.sameEndpoint r = true ∧ StoredSince hist a t := by
  -- events do not tell two addresses of one endpoint apart
  have hkeeps : ∀ a, a.sameEndpoint r = true → KeepsRoute a t = KeepsRoute r t := by
    intro a ha
    funext ev
    cases ev with
    | sync src publishes time => simp only [KeepsRoute, UDPAddr.sameEndpoint_congr ha]
    | sweep cutoff => rfl
  constructor
  · rintro ⟨before, ev, after, heq, hstart, hkeep⟩
    cases ev with
    | sync src publishes time =>
      obtain ⟨hsrc, rfl, rfl⟩ := hstart
      refine ⟨src, hsrc, before, _, after, heq, rfl, ?_⟩
      rw [hkeeps src hsrc]
      exact hkeep
    | sweep cutoff => cases hstart
  · rintro ⟨a, ha, before, ev, after, heq, rfl, hkeep⟩
    rw [hkeeps a ha] at hkeep
    exact ⟨before, _, after, heq, ⟨ha, rfl, rfl⟩, hkeep⟩

theorem StoredSince.owned {hist : List RouteEvent} {a : UDPAddr} {t : Int}
    (h : StoredSince hist a t) : OwnedSince hist a t :=
  ownedSince_iff.mpr ⟨a, UDPAddr.sameEndpoint_refl a, h⟩

/-- **The route table is a function of the history.** After every run, the route of `id` leads
    to source `r` exactly if `r`'s last sync published the id and it still counts. Every owner
    has been seen, at the time of that sync. A sweep leaves only routes of owners heard at or
    after its cutoff, and all of these. -/
theorem gossip_routes (cfg : Config) (peers : List Text) (es : List GossipEvent) (id : UInt32) :
    (∀ r, (∃ a, (gossipRun cfg peers es).peerNodes.lookup id = some a ∧
        a.sameEndpoint r = true) ↔
      ∃ t, OwnedSince (routeEvents cfg peers id es) r t) ∧
    (∀ a, (gossipRun cfg peers es).peerNodes.lookup id = some a →
      ∃ t, (gossipRun cfg peers es).gossipSeen.lookup a.string = some t ∧
        OwnedSince (routeEvents cfg peers id es) a t) ∧
    (∀ cutoff a, ((gossipRun cfg peers es).sweepStaleGossip cutoff).peerNodes.lookup id = some a →
      ∃ t, OwnedSince (routeEvents cfg peers id es) a t ∧ cutoff ≤ t) ∧
    (∀ cutoff a t, (gossipRun cfg peers es).peerNodes.lookup id = some a →
      OwnedSince (routeEvents cfg peers id es) a t → cutoff ≤ t →
      ((gossipRun cfg peers es).sweepStaleGossip cutoff).peerNodes.lookup id = some a) := by
  have hrec := routesRecorded_run cfg peers id es
  refine ⟨?_, ?_, ?_, ?_⟩
  · intro r
    constructor
    · rintro ⟨a, ha, har⟩
      obtain ⟨t, ht⟩ := (hrec.owner a).mp ha
      exact ⟨t, ownedSince_iff.mpr ⟨a, har, ht⟩⟩
    · rintro ⟨t, ht⟩
      obtain ⟨a, har, ht⟩ := ownedSince_iff.mp ht
      exact ⟨a, (hrec.owner a).mpr ⟨t, ht⟩, har⟩
  · intro a ha
    obtain ⟨t, ht⟩ := (hrec.owner a).mp ha
    exact ⟨t, hrec.seen a t ht, ht.owned⟩
  · intro cutoff a ha
    obtain ⟨t, ht⟩ := ((hrec.sweep rfl rfl).owner a).mp ha
    obtain ⟨ht, hfresh⟩ := storedSince_sweep.mp ht
    exact ⟨t, ht.owned, hfresh⟩
  · intro cutoff a t ha ht hfresh
    -- the address of `r` that the history stores is the one in the table
    obtain ⟨b, hb, ht⟩ := ownedSince_iff.mp ht
    have hba : b = a := Option.some_inj.mp (((hrec.owner b).mpr ⟨t, ht⟩).symm.trans ha)
    rw [hba] at ht
    exact ((hrec.sweep rfl rfl).owner a).mpr ⟨t, storedSince_sweep.mpr ⟨ht, hfresh⟩⟩

end PilotBeacon
