import Kubvernor.Control.GatewayProcessedHandler
import Kubvernor.Control.Reconcile

/-!
# Status entries of other controllers

The status of a route may have entries of other controllers. The update of a route's status keeps them, but it
is made to the stored route, and that one was stored with a status of the controller's own: the handler of a new
or changed route puts the entries for unknown gateways in the place of all that are there. So every entry that
is handed to the patcher is the controller's own (`own_of_handsOver`), and whatever another controller wrote is
gone from it (`foreign_kept_iff`).
-/

namespace Kubvernor

open Lib

/-- The entries of a stored route are the controller's own. -/
def RouteView.Own (controllerName : String) (v : RouteView) : Prop :=
  ∀ p ∈ (v.status.getD {}).parents, p.controllerName = controllerName

/-- The entries of the stored routes are the controller's own. -/
def RouteStores.OwnStatuses (controllerName : String) (s : RouteStores) : Prop :=
  ∀ (k : RouteKey) (v : RouteView), s.view k = some v → v.Own controllerName

/-- What is handed to the patchers of routes once a gateway is processed: the entries of the updated route. -/
inductive HandsOver (config : ControllerConfig) (s : RouteStores) (route : Route) : List ParentRouteStatus → Prop
  | http (gatewayId : GatewayKey) (conditions : List Condition) (r : HTTPRoute)
      (h : (GatewayProcessedHandler.mk s config.controllerName).updateHttpRouteParents gatewayId conditions route =
        some r) : HandsOver config s route r.statusParents
  | grpc (gatewayId : GatewayKey) (conditions : List Condition) (r : GRPCRoute)
      (h : (GatewayProcessedHandler.mk s config.controllerName).updateGrpcRouteParents gatewayId conditions route =
        some r) : HandsOver config s route r.statusParents

/-! ## The update keeps to own entries -/

section Update

variable {M F : Type} {handler : GatewayProcessedHandler} {g : GatewayKey} {conditions : List Condition}

/-- An update adds own entries. -/
theorem own_updateRouteParents {r : KubeRoute M F} (h : r.view.Own handler.controllerName) :
    (handler.updateRouteParents g conditions r).view.Own handler.controllerName := by
  intro p hp
  rcases List.mem_append.1 hp with hold | hnew
  · exact h p (List.mem_of_mem_filter hold)
  · obtain ⟨q, -, rfl⟩ := List.mem_map.1 hnew
    rfl

/-- A route that is found is one of those given. -/
theorem mem_of_findRoute {route : Route} {kubeRoutes : Option (List (KubeRoute M F))} {r : KubeRoute M F}
    (h : GatewayProcessedHandler.findRoute route kubeRoutes = some r) : r ∈ kubeRoutes.getD [] :=
  List.mem_of_find?_eq_some h

variable {s : RouteStores}

theorem view_of_attachedHttpRoute {r : HTTPRoute} (h : r ∈ (s.getHttpRoutesAttachedToGateway g).getD []) :
    ∃ k, s.view k = some r.view := by
  obtain ⟨k, -, hk⟩ := RouteStores.mem_getHttpRoutesAttachedToGateway.1 h
  refine ⟨k, ?_⟩
  unfold RouteStores.view
  rw [hk]
  rfl

theorem view_of_attachedGrpcRoute (hs : s.Keyed) {r : GRPCRoute}
    (h : r ∈ (s.getGrpcRoutesAttachedToGateway g).getD []) : ∃ k, s.view k = some r.view := by
  obtain ⟨k, -, hk⟩ := RouteStores.mem_getGrpcRoutesAttachedToGateway.1 h
  have hmem : k ∈ s.grpcRoutes := Std.ExtTreeMap.mem_iff_isSome_getElem?.2 (Option.isSome_iff_exists.2 ⟨r, hk⟩)
  refine ⟨k, ?_⟩
  unfold RouteStores.view
  rw [hs.getHttp_eq_none (hs.grpc k hmem), hk]
  rfl

/-- **All that is handed over is the controller's own**, if all that is stored is. -/
theorem own_of_handsOver {config : ControllerConfig} (hs : s.Keyed) (hown : s.OwnStatuses config.controllerName)
    {route : Route} {parents : List ParentRouteStatus} (h : HandsOver config s route parents) :
    ∀ p ∈ parents, p.controllerName = config.controllerName := by
  cases h with
  | http gatewayId conditions r hr =>
    obtain ⟨stored, hstored, rfl⟩ := Option.map_eq_some_iff.1 hr
    obtain ⟨k, hk⟩ := view_of_attachedHttpRoute (mem_of_findRoute hstored)
    exact own_updateRouteParents (hown k _ hk)
  | grpc gatewayId conditions r hr =>
    obtain ⟨stored, hstored, rfl⟩ := Option.map_eq_some_iff.1 hr
    obtain ⟨k, hk⟩ := view_of_attachedGrpcRoute hs (mem_of_findRoute hstored)
    exact own_updateRouteParents (hown k _ hk)

end Update

/-! ## The controllers store own entries -/

section Store

variable {config : ControllerConfig}

/-- An event of a route leaves own entries. -/
theorem CommonRouteHandler.ownStatuses_reconcile {M F : Type} [DecidableEq M] [DecidableEq F]
    {h : CommonRouteHandler M F} {s : Stores} (hkind : h.kind.Lawful) (hs : s.routes.Keyed)
    (hkinds : h.kind.kind = "HTTPRoute" ∨ h.kind.kind = "GRPCRoute")
    (hown : s.routes.OwnStatuses h.config.controllerName) :
    (h.reconcile s).stores.routes.OwnStatuses h.config.controllerName := by
  intro k v hv
  rcases reconcile_cases hkind hs with ⟨-, status, hstatus, hsaved⟩ | ⟨-, hdeleted⟩ | ⟨-, -, hsame⟩
  · rw [hsaved.view] at hv
    split_ifs at hv
    · obtain rfl := Option.some.inj hv
      exact hstatus
    · exact hown k v hv
  · rw [hdeleted.view_eq hs hkinds] at hv
    split_ifs at hv
    exact hown k v hv
  · rw [hsame.view] at hv
    exact hown k v hv

/-- The invariant: keys are where they belong, and the entries of the stored routes are own ones. -/
structure OwnEntries (config : ControllerConfig) (σ : Reconciled) : Prop where
  keyed : σ.stores.WellKeyed
  own : σ.stores.routes.OwnStatuses config.controllerName

variable {σ σ' : Reconciled} {e : ReconcileEvent}

theorem OwnEntries.init : OwnEntries config (controllers config).init :=
  ⟨.init, fun k v hv => by simp [controllers, RouteStores.view] at hv⟩

theorem OwnEntries.step (h : OwnEntries config σ) (hstep : (controllers config).step σ e = some σ') :
    OwnEntries config σ' := by
  have hstores := (step_controllers hstep).1
  refine ⟨by rw [hstores]; exact wellKeyed_reconcile config _ h.keyed, ?_⟩
  rw [hstores]
  cases e with
  | gatewayClass c answer =>
    rw [routes_reconcile_gatewayClass h.keyed]
    exact h.own
  | gateway g configurations =>
    rw [routes_reconcile_gateway]
    exact h.own
  | httpRoute r =>
    exact CommonRouteHandler.ownStatuses_reconcile (h := httpRouteHandler config r) httpRouteKind_lawful
      h.keyed.routes (.inl rfl) h.own
  | grpcRoute r =>
    exact CommonRouteHandler.ownStatuses_reconcile (h := grpcRouteHandler config r) grpcRouteKind_lawful
      h.keyed.routes (.inr rfl) h.own

/-! ## What becomes of foreign entries -/

/-- The entries of the status of an object. -/
def ReconcileEvent.statusParents : ReconcileEvent → List ParentRouteStatus
  | .httpRoute r => r.statusParents
  | .grpcRoute r => r.statusParents
  | .gatewayClass .. | .gateway .. => []

/-- The latest event of an object. -/
def latestEvent (events : List ReconcileEvent) (k : ResourceKey) : Option ReconcileEvent :=
  events.reverse.find? fun e => e.resourceKey = k

/-- The foreign entries of the latest reconciled object are among those that are handed over. -/
def ForeignKept (config : ControllerConfig) (events : List ReconcileEvent) (k : ResourceKey)
    (parents : List ParentRouteStatus) : Prop :=
  ∀ e, latestEvent events k = some e → ∀ p ∈ e.statusParents, p.controllerName ≠ config.controllerName → p ∈ parents

/-- The latest reconciled object has an entry of another controller. -/
def HasForeign (config : ControllerConfig) (events : List ReconcileEvent) (k : ResourceKey) : Prop :=
  ∃ e, latestEvent events k = some e ∧ ∃ p ∈ e.statusParents, p.controllerName ≠ config.controllerName

/-- **Foreign entries are never kept**: what is handed over after any run has them all exactly if there are none. -/
theorem foreign_kept_iff {events : List ReconcileEvent}
    (hrun : (controllers config).run (controllers config).init events = some σ) {route : Route}
    {parents : List ParentRouteStatus} (h : HandsOver config σ.stores.routes route parents) :
    ForeignKept config events route.resourceKey parents ↔ ¬ HasForeign config events route.resourceKey := by
  have hinv : OwnEntries config σ :=
    System.inv_run (fun _ _ _ hs _ hstep => OwnEntries.step hs hstep) .init System.along_any hrun
  have hown := own_of_handsOver hinv.keyed.routes hinv.own h
  constructor
  · rintro hkept ⟨e, he, p, hp, hforeign⟩
    exact hforeign (hown p (hkept e he p hp hforeign))
  · intro hnone e he p hp hforeign
    exact absurd ⟨e, he, p, hp, hforeign⟩ hnone

end Store

/-! ## An entry that is lost -/

/-- A route to one gateway, which another controller has written to. -/
def sharedRoute : HTTPRoute where
  metadata := { name := some "route", ns := some "default", uid := some someUid }
  spec := { parentRefs := some [{ name := "gateway" }] }
  status := some { parents := [{ controllerName := "other", parentRef := { name := "gateway" } }] }

/-- The route as the controller converts it. -/
def sharedRouteConverted : Route := .ofHTTPRoute (fun _ => false) sharedRoute

def foreignEntryRun : List ReconcileEvent := [.httpRoute sharedRoute]

/-- What is handed over once the gateway of the route is processed. -/
theorem sharedRoute_handed : ∃ σ,
    (controllers someConfig).run (controllers someConfig).init foreignEntryRun = some σ ∧
    ∃ parents, HandsOver someConfig σ.stores.routes sharedRouteConverted parents ∧
      ∀ p ∈ parents, p.controllerName = "controller" := by
  have hrun : ((controllers someConfig).run (controllers someConfig).init foreignEntryRun).map (fun σ =>
      ((GatewayProcessedHandler.mk σ.stores.routes "controller").updateHttpRouteParents (.new "gateway") []
        sharedRouteConverted).map fun r => r.statusParents.map (·.controllerName)) =
      some (some ["controller"]) := by decide +kernel
  obtain ⟨σ, hσ, heq⟩ := Option.map_eq_some_iff.1 hrun
  obtain ⟨r, hr, hnames⟩ := Option.map_eq_some_iff.1 heq
  refine ⟨σ, hσ, r.statusParents, .http (.new "gateway") [] r hr, fun p hp => ?_⟩
  have hname : p.controllerName ∈ r.statusParents.map (·.controllerName) := List.mem_map_of_mem hp
  rw [hnames] at hname
  exact List.mem_singleton.1 hname

theorem latestEvent_foreignEntryRun : latestEvent foreignEntryRun sharedRouteConverted.resourceKey =
    some (.httpRoute sharedRoute) := List.find?_cons_of_pos (decide_eq_true rfl)

/-- **The entry of the other controller is lost.** -/
theorem sharedRoute_not_kept : ∃ σ,
    (controllers someConfig).run (controllers someConfig).init foreignEntryRun = some σ ∧
    ∃ parents, HandsOver someConfig σ.stores.routes sharedRouteConverted parents ∧
      ¬ ForeignKept someConfig foreignEntryRun sharedRouteConverted.resourceKey parents := by
  obtain ⟨σ, hσ, parents, hparents, hown⟩ := sharedRoute_handed
  refine ⟨σ, hσ, parents, hparents, fun hkept => ?_⟩
  have hmem := hkept _ latestEvent_foreignEntryRun { controllerName := "other", parentRef := { name := "gateway" } }
    (List.mem_singleton_self _) (by decide)
  exact absurd (hown _ hmem) (by decide)

/-- The general result at this run, where there is an entry to lose. -/
theorem sharedRoute_kept_iff : ∃ σ,
    (controllers someConfig).run (controllers someConfig).init foreignEntryRun = some σ ∧
    HasForeign someConfig foreignEntryRun sharedRouteConverted.resourceKey ∧
    ∃ parents, HandsOver someConfig σ.stores.routes sharedRouteConverted parents ∧
      (ForeignKept someConfig foreignEntryRun sharedRouteConverted.resourceKey parents ↔
        ¬ HasForeign someConfig foreignEntryRun sharedRouteConverted.resourceKey) := by
  obtain ⟨σ, hσ, parents, hparents, -⟩ := sharedRoute_handed
  refine ⟨σ, hσ, ⟨_, latestEvent_foreignEntryRun, _, List.mem_singleton_self _, by decide⟩, parents, hparents, ?_⟩
  exact foreign_kept_iff hσ hparents

end Kubvernor
