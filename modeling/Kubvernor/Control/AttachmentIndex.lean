import Kubvernor.Control.Reconcile

/-!
# Where routes are attached

The index of the routes of each gateway is to follow the parent references of the stored routes. A new or
changed route is attached to the gateways it names and detached from none, and a deletion detaches it from the
gateways that the deleted object names. So along a run the index follows exactly if no spec that is taken leaves
out a gateway the route is attached to, and no GRPC route, which a deletion leaves stored, is detached from a
gateway it names (`index_follows_iff`).
-/

namespace Kubvernor

open Lib

/-- The stored routes are attached to the gateways they name. -/
def RouteStores.Follows (s : RouteStores) : Prop :=
  ∀ (k : RouteKey) (v : RouteView), s.view k = some v → ∀ g, s.Attached g k ↔ v.NamesGateway k g

/-! ## One handler -/

namespace CommonRouteHandler

variable {M F : Type} [DecidableEq M] [DecidableEq F] {h : CommonRouteHandler M F} {s : Stores}

/-- The spec of the object is taken, for a new route or a changed one. -/
structure TakesSpec (h : CommonRouteHandler M F) (s : Stores) : Prop where
  accepts : h.Accepts
  state : h.resourceState s = .new ∨ h.resourceState s = .specChanged

/-- A spec that is taken names every gateway the route is attached to, and a GRPC route that is deleted names
none that the stored one names. -/
structure KeepsParents (h : CommonRouteHandler M F) (s : Stores) : Prop where
  taken : h.TakesSpec s → ∀ g, s.routes.Attached g h.resourceKey → h.NamesGateway g
  deleted : h.Deletes → h.kind.kind = "GRPCRoute" → ∀ v, s.routes.view h.resourceKey = some v →
    ∀ g, v.NamesGateway h.resourceKey g → ¬ h.NamesGateway g

/-- What the handler is to leave: an index that follows, and, of a spec that is taken, no attachment but to the
gateways it names. -/
structure LeavesIndex (h : CommonRouteHandler M F) (s : Stores) (s' : RouteStores) : Prop where
  follows : s'.Follows
  taken : h.TakesSpec s → ∀ g, s'.Attached g h.resourceKey → h.NamesGateway g

theorem Changes.takesSpec (hc : h.Changes s) : h.TakesSpec s := ⟨hc.accepts, hc.state⟩

theorem TakesSpec.not_deletes (ht : h.TakesSpec s) : ¬ h.Deletes := by
  intro hd
  have hdeleted := resourceState_deleted_iff (s := s) |>.2 hd.deletion
  rcases ht.state with hstate | hstate
  · rw [hstate] at hdeleted
    cases hdeleted
  · rw [hstate] at hdeleted
    cases hdeleted

variable {s' : RouteStores}

/-- A route that is saved stays attached to the gateways it no longer names. -/
theorem leavesIndex_of_saved (hfollows : s.routes.Follows) (hc : h.Changes s) {status : RouteStatus}
    (hsaved : s.routes.SavedRoute h.resourceKey ⟨h.resource.spec.parentRefs, some status⟩ s') :
    h.LeavesIndex s s' ↔ h.KeepsParents s := by
  have hattached (g : GatewayKey) : s'.Attached g h.resourceKey ↔
      h.NamesGateway g ∨ s.routes.Attached g h.resourceKey := by
    rw [hsaved.attached, and_iff_left rfl]
    rfl
  constructor
  · intro hleaves
    refine ⟨fun ht g hg => hleaves.taken ht g ((hattached g).2 (.inr hg)), fun hd => ?_⟩
    exact absurd hd hc.takesSpec.not_deletes
  · intro hkeeps
    have hnames (g : GatewayKey) : s'.Attached g h.resourceKey ↔ h.NamesGateway g := by
      rw [hattached]
      exact ⟨fun hor => hor.elim id (hkeeps.taken hc.takesSpec g), .inl⟩
    refine ⟨fun k v hv g => ?_, fun _ g hg => (hnames g).1 hg⟩
    rw [hsaved.view] at hv
    split_ifs at hv with hk
    · obtain rfl := Option.some.inj hv
      subst hk
      exact hnames g
    · rw [hsaved.attached, ← hfollows k v hv g]
      exact or_iff_right fun hor => hk hor.2

theorem leavesIndex_of_deleted (hs : s.routes.Keyed) (hfollows : s.routes.Follows) (hd : h.Deletes)
    (hdeleted : s.routes.DeletedRoute h.resourceKey h.resource.view s')
    (hkinds : h.kind.kind = "HTTPRoute" ∨ h.kind.kind = "GRPCRoute") : h.LeavesIndex s s' ↔ h.KeepsParents s := by
  have hview := hdeleted.view_eq hs hkinds
  constructor
  · intro hleaves
    refine ⟨fun ht => absurd hd ht.not_deletes, fun _ hkind v hv g hg hnames => ?_⟩
    have hv' : s'.view h.resourceKey = some v := by
      rw [hview, if_neg (fun hand => absurd (hkind.symm.trans hand.2) (by decide)), hv]
    have hattached := (hleaves.follows _ v hv' g).2 hg
    exact ((hdeleted.attached g _).1 hattached).2 ⟨hnames, rfl⟩
  · intro hkeeps
    refine ⟨fun k v hv g => ?_, fun ht => absurd hd ht.not_deletes⟩
    rw [hview] at hv
    split_ifs at hv with hk
    rw [hdeleted.attached, ← hfollows k v hv g]
    refine and_iff_left_of_imp fun hattached hand => ?_
    obtain ⟨hnames, rfl⟩ := hand
    have hkind : h.kind.kind = "GRPCRoute" := hkinds.resolve_left fun hkind => hk ⟨rfl, hkind⟩
    exact hkeeps.deleted hd hkind v hv g ((hfollows _ v hv g).1 hattached) hnames

theorem leavesIndex_of_same (hfollows : s.routes.Follows) (hd : ¬ h.Deletes)
    (hsame : s.routes.SameRoutes s') : h.LeavesIndex s s' ↔ h.KeepsParents s := by
  constructor
  · intro hleaves
    exact ⟨fun ht g hg => hleaves.taken ht g ((hsame.attached g _).2 hg), fun hd' => absurd hd' hd⟩
  · intro hkeeps
    refine ⟨fun k v hv g => ?_, fun ht g hg => hkeeps.taken ht g ((hsame.attached g _).1 hg)⟩
    rw [hsame.view] at hv
    rw [hsame.attached]
    exact hfollows k v hv g

/-- **The index still follows after an event** exactly if the event keeps the parents of its route. -/
theorem leavesIndex_iff (hkind : h.kind.Lawful) (hs : s.routes.Keyed) (hfollows : s.routes.Follows)
    (hkinds : h.kind.kind = "HTTPRoute" ∨ h.kind.kind = "GRPCRoute") :
    h.LeavesIndex s (h.reconcile s).stores.routes ↔ h.KeepsParents s := by
  rcases reconcile_cases hkind hs with ⟨hc, status, -, hsaved⟩ | ⟨hd, hdeleted⟩ | ⟨-, hd, hsame⟩
  · exact leavesIndex_of_saved hfollows hc hsaved
  · exact leavesIndex_of_deleted hs hfollows hd hdeleted hkinds
  · exact leavesIndex_of_same hfollows hd hsame

end CommonRouteHandler

/-! ## Runs -/

section Runs

namespace ReconcileEvent

variable (config : ControllerConfig)

/-- What an event is to leave of the index. -/
def LeavesIndex (s : Stores) (s' : RouteStores) : ReconcileEvent → Prop
  | .httpRoute r => (httpRouteHandler config r).LeavesIndex s s'
  | .grpcRoute r => (grpcRouteHandler config r).LeavesIndex s s'
  | .gatewayClass .. | .gateway .. => s'.Follows

/-- The event of a route keeps its parents. -/
def KeepsParents (s : Stores) : ReconcileEvent → Prop
  | .httpRoute r => (httpRouteHandler config r).KeepsParents s
  | .grpcRoute r => (grpcRouteHandler config r).KeepsParents s
  | .gatewayClass .. | .gateway .. => True

end ReconcileEvent

variable (config : ControllerConfig)

/-- The index follows the specs of the routes in this step. -/
def IndexFollows (σ : Reconciled) (e : ReconcileEvent) : Prop :=
  ∀ σ', (controllers config).step σ e = some σ' → e.LeavesIndex config σ.stores σ'.stores.routes

/-- The invariant: keys are where they belong, and the index follows. -/
structure Indexed (σ : Reconciled) : Prop where
  keyed : σ.stores.WellKeyed
  follows : σ.stores.routes.Follows

variable {config} {σ σ' : Reconciled} {e : ReconcileEvent}

theorem Indexed.init : Indexed (controllers config).init :=
  ⟨.init, fun k v hv => by simp [controllers, RouteStores.view] at hv⟩

theorem ReconcileEvent.LeavesIndex.follows {s : Stores} {s' : RouteStores} (h : e.LeavesIndex config s s') :
    s'.Follows := by
  cases e with
  | httpRoute r => exact CommonRouteHandler.LeavesIndex.follows h
  | grpcRoute r => exact CommonRouteHandler.LeavesIndex.follows h
  | gatewayClass c answer => exact h
  | gateway g configurations => exact h

/-- One step, for each controller. -/
theorem leavesIndex_reconcile_iff (h : Indexed σ) :
    e.LeavesIndex config σ.stores (σ.stores.reconcile config e).routes ↔ e.KeepsParents config σ.stores := by
  cases e with
  | httpRoute r =>
    exact CommonRouteHandler.leavesIndex_iff (h := httpRouteHandler config r) httpRouteKind_lawful h.keyed.routes
      h.follows (.inl rfl)
  | grpcRoute r =>
    exact CommonRouteHandler.leavesIndex_iff (h := grpcRouteHandler config r) grpcRouteKind_lawful h.keyed.routes
      h.follows (.inr rfl)
  | gatewayClass c answer =>
    rw [routes_reconcile_gatewayClass h.keyed]
    exact iff_true_intro h.follows
  | gateway g configurations =>
    rw [routes_reconcile_gateway]
    exact iff_true_intro h.follows

theorem indexFollows_step_iff (h : Indexed σ) : IndexFollows config σ e ↔ e.KeepsParents config σ.stores := by
  rw [← leavesIndex_reconcile_iff h]
  constructor
  · exact fun hall => hall _ rfl
  · intro hleaves σ' hstep
    rw [(step_controllers hstep).1]
    exact hleaves

theorem Indexed.step (h : Indexed σ) (he : e.KeepsParents config σ.stores)
    (hstep : (controllers config).step σ e = some σ') : Indexed σ' := by
  refine ⟨?_, ((indexFollows_step_iff h).2 he σ' hstep).follows⟩
  rw [(step_controllers hstep).1]
  exact wellKeyed_reconcile config _ h.keyed

/-- **The attachment index follows the specs of the routes** along a run exactly if every event keeps the parents
of its route. -/
theorem index_follows_iff (events : List ReconcileEvent) :
    (controllers config).Along (IndexFollows config) (controllers config).init events ↔
    (controllers config).Along (fun σ e => e.KeepsParents config σ.stores) (controllers config).init events :=
  System.along_congr Indexed .init (fun _ _ h => indexFollows_step_iff h) fun _ _ _ h he hstep => h.step he hstep

end Runs

/-! ## A parent that is removed -/

def routeOf (resourceVersion gateway : String) : HTTPRoute where
  metadata := { name := some "route", uid := some someUid, resourceVersion := some resourceVersion }
  spec := { parentRefs := some [{ name := gateway }] }

/-- A route is created for one gateway, and changed to another one. -/
def movedRouteRun : List ReconcileEvent := [.httpRoute (routeOf "1" "gateway-a"), .httpRoute (routeOf "2" "gateway-b")]

/-- **The route stays attached to the first gateway**, which it no longer names. -/
theorem movedRouteRun_not_follows : ∃ σ,
    (controllers someConfig).run (controllers someConfig).init movedRouteRun = some σ ∧
    σ.stores.routes.Attached (.new "gateway-a") (HTTPRoute.resourceKey (routeOf "2" "gateway-b")) ∧
    (σ.stores.routes.view (HTTPRoute.resourceKey (routeOf "2" "gateway-b"))).map (·.parentRefs) =
      some (some [{ name := "gateway-b" }]) ∧
    ¬ σ.stores.routes.Follows := by
  have hrun : ((controllers someConfig).run (controllers someConfig).init movedRouteRun).map (fun σ =>
      (decide (σ.stores.routes.Attached (.new "gateway-a") (HTTPRoute.resourceKey (routeOf "2" "gateway-b"))),
        (σ.stores.routes.view (HTTPRoute.resourceKey (routeOf "2" "gateway-b"))).map (·.parentRefs))) =
      some (true, some (some [{ name := "gateway-b" }])) := by decide +kernel
  obtain ⟨σ, hσ, heq⟩ := Option.map_eq_some_iff.1 hrun
  obtain ⟨hattached, hparents⟩ := Prod.mk.inj heq
  have hattached := of_decide_eq_true hattached
  refine ⟨σ, hσ, hattached, hparents, fun hfollows => ?_⟩
  obtain ⟨v, hv, hrefs⟩ := Option.map_eq_some_iff.1 hparents
  obtain ⟨p, hp, hkey⟩ := (hfollows _ v hv _).1 hattached
  rw [hrefs, Option.getD_some, List.mem_singleton] at hp
  subst hp
  exact absurd hkey (by decide)

end Kubvernor
