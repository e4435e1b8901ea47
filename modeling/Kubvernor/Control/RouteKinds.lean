import Kubvernor.Control.GatewayProcessedHandler
import Kubvernor.Control.RouteHandlers

/-!
# The statuses of HTTP and of GRPC routes

When a gateway has been processed, two passes patch the statuses of its routes, one the HTTP routes and
one the GRPC routes. Each goes over the attached, the unresolved and the orphaned routes and looks an
object of its kind up by the name and the namespace of a route. The attached and the unresolved routes
are filtered by their kind first, the orphaned ones are not. So a pass patches an object for a route of
the other kind exactly if that route is orphaned and an attached object has its name
(`kindsApart_iff`).
-/

namespace Kubvernor

/-- `only_http_routes`. -/
def onlyHttpRoutes (route : Route) : Bool :=
  match route.routeType with
  | .http _ => true
  | .grpc _ => false

/-- `only_grpc_routes`. -/
def onlyGrpcRoutes (route : Route) : Bool :=
  match route.routeType with
  | .http _ => false
  | .grpc _ => true

/-- `Gateway::routes`: the resolved and the unresolved routes of all listeners. -/
def Gateway.routes (g : Gateway) : RouteSet × RouteSet :=
  g.listenerValues.foldl
    (fun s l => (s.1.insertMany l.data.resolvedRoutes.toList, s.2.insertMany l.data.unresolvedRoutes.toList)) (∅, ∅)

namespace GatewayProcessedHandler

/-! ## The passes -/

/-- What the two passes have in common: which routes they go over, and what they make of each. A patch is
listed with the route it is made for. -/
def routePatches {R : Type} (only : Route → Bool) (attached unresolved nonAttached : Route → Option R)
    (effectiveGateway : Gateway) : List (Route × R) :=
  let (attachedRoutes, unresolvedRoutes) := effectiveGateway.routes
  let patched (update : Route → Option R) (routes : List Route) : List (Route × R) :=
    routes.filterMap fun route => (update route).map fun resource => (route, resource)
  patched attached (attachedRoutes.routes.filter only) ++ patched unresolved (unresolvedRoutes.routes.filter only) ++
    patched nonAttached effectiveGateway.orphanedRoutes.routes

variable (self : GatewayProcessedHandler) (effectiveGateway : Gateway)

/-- The patches of `update_http_routes`. -/
def httpPatches : List (Route × HTTPRoute) :=
  let gatewayId := effectiveGateway.resourceKey
  routePatches onlyHttpRoutes (self.updateHttpAttachedRouteParents gatewayId)
    (self.updateHttpUnresolvedRouteParents gatewayId) (self.updateHttpNonAttachedRouteParents gatewayId) effectiveGateway

/-- The patches of `update_grpc_routes`. -/
def grpcPatches : List (Route × GRPCRoute) :=
  let gatewayId := effectiveGateway.resourceKey
  routePatches onlyGrpcRoutes (self.updateGrpcAttachedRouteParents gatewayId)
    (self.updateGrpcUnresolvedRouteParents gatewayId) (self.updateGrpcNonAttachedRouteParents gatewayId) effectiveGateway

/-- `update_http_routes`: what is sent to the patcher. -/
def updateHttpRoutes : List (Operation HTTPRoute) :=
  (self.httpPatches effectiveGateway).map fun p => .patchStatus (HTTPRoute.resourceKey p.2) p.2 self.controllerName

/-- `update_grpc_routes`. -/
def updateGrpcRoutes : List (Operation GRPCRoute) :=
  (self.grpcPatches effectiveGateway).map fun p => .patchStatus (GRPCRoute.resourceKey p.2) p.2 self.controllerName

/-! ## Where a patch comes from -/

/-- What has become of a route of a gateway. -/
inductive RoutePlace
  | attached
  | unresolved
  | orphaned
deriving DecidableEq, Repr

/-- The routes of a gateway that this has become of. -/
def RoutePlace.routes (g : Gateway) : RoutePlace → List Route
  | .attached => g.routes.1.routes
  | .unresolved => g.routes.2.routes
  | .orphaned => g.orphanedRoutes.routes

/-- The conditions that say what has become of a route. -/
def RoutePlace.conditions (status : ResolutionStatus) : RoutePlace → List Condition
  | .attached => attachedConditions
  | .unresolved => unresolvedConditions status
  | .orphaned => nonAttachedConditions status

/-- The patches are all for routes that `only` admits: each is the object found for its route, with the
conditions of what has become of that route. -/
def OwnOutcomes {M F : Type} (only : Route → Bool) (object? : Route → Option (KubeRoute M F))
    (patches : List (Route × KubeRoute M F)) : Prop :=
  ∀ p ∈ patches, only p.1 = true ∧ ∃ (place : RoutePlace) (kubeRoute : KubeRoute M F),
    p.1 ∈ place.routes effectiveGateway ∧ object? p.1 = some kubeRoute ∧
    p.2 = self.updateRouteParents effectiveGateway.resourceKey (place.conditions p.1.resolutionStatus) kubeRoute

/-- Each pass patches an object only for a route of its own kind, with that route's own outcome. -/
structure KindsApart (handler : GatewayProcessedHandler) (g : Gateway) : Prop where
  http : handler.OwnOutcomes g onlyHttpRoutes (handler.attachedHttpRoute? g.resourceKey) (handler.httpPatches g)
  grpc : handler.OwnOutcomes g onlyGrpcRoutes (handler.attachedGrpcRoute? g.resourceKey) (handler.grpcPatches g)

section Patches

variable {self effectiveGateway} {R M F : Type} {only : Route → Bool} {attached unresolved nonAttached : Route → Option R}

theorem mem_routePatches {p : Route × R} :
    p ∈ routePatches only attached unresolved nonAttached effectiveGateway ↔
      (p.1 ∈ RoutePlace.attached.routes effectiveGateway ∧ only p.1 = true ∧ attached p.1 = some p.2) ∨
      (p.1 ∈ RoutePlace.unresolved.routes effectiveGateway ∧ only p.1 = true ∧ unresolved p.1 = some p.2) ∨
      (p.1 ∈ RoutePlace.orphaned.routes effectiveGateway ∧ nonAttached p.1 = some p.2) := by
  have hpatched (update : Route → Option R) (routes : List Route) :
      p ∈ routes.filterMap (fun route => (update route).map fun resource => (route, resource)) ↔
        p.1 ∈ routes ∧ update p.1 = some p.2 := by
    simp only [List.mem_filterMap, Option.map_eq_some_iff]
    constructor
    · rintro ⟨route, hroute, resource, hresource, rfl⟩
      exact ⟨hroute, hresource⟩
    · rintro ⟨hroute, hresource⟩
      exact ⟨p.1, hroute, p.2, hresource, rfl⟩
  simp only [routePatches, List.mem_append, hpatched, List.mem_filter, RoutePlace.routes, and_assoc, or_assoc]

/-- What a pass makes of a route, by what has become of it. -/
def placePatch (self : GatewayProcessedHandler) (g : Gateway) (object? : Route → Option (KubeRoute M F))
    (place : RoutePlace) (route : Route) : Option (KubeRoute M F) :=
  (object? route).map (self.updateRouteParents g.resourceKey (place.conditions route.resolutionStatus))

/-- Only the orphaned routes of the other kind can be patched for. -/
theorem ownOutcomes_iff (self : GatewayProcessedHandler) (effectiveGateway : Gateway) (only : Route → Bool)
    (object? : Route → Option (KubeRoute M F)) :
    self.OwnOutcomes effectiveGateway only object?
        (routePatches only (self.placePatch effectiveGateway object? .attached)
          (self.placePatch effectiveGateway object? .unresolved) (self.placePatch effectiveGateway object? .orphaned)
          effectiveGateway) ↔
      ∀ route ∈ effectiveGateway.orphanedRoutes.routes, only route = false → object? route = none := by
  unfold OwnOutcomes
  constructor
  · intro h route hroute honly
    cases hobject : object? route with
    | none => rfl
    | some kubeRoute =>
      have hpatch : self.placePatch effectiveGateway object? .orphaned route = some (self.updateRouteParents
          effectiveGateway.resourceKey (RoutePlace.conditions route.resolutionStatus .orphaned) kubeRoute) := by
        rw [placePatch, hobject]
        rfl
      have hown := (h (route, _) (mem_routePatches.2 (.inr (.inr ⟨hroute, hpatch⟩)))).1
      rw [honly] at hown
      cases hown
  · intro h p hp
    have hplace (place : RoutePlace) (hmem : p.1 ∈ place.routes effectiveGateway)
        (hpatch : self.placePatch effectiveGateway object? place p.1 = some p.2) :
        ∃ (place : RoutePlace) (kubeRoute : KubeRoute M F), p.1 ∈ place.routes effectiveGateway ∧
          object? p.1 = some kubeRoute ∧ p.2 = self.updateRouteParents effectiveGateway.resourceKey
            (place.conditions p.1.resolutionStatus) kubeRoute := by
      obtain ⟨kubeRoute, hobject, heq⟩ := Option.map_eq_some_iff.1 hpatch
      exact ⟨place, kubeRoute, hmem, hobject, heq.symm⟩
    rcases mem_routePatches.1 hp with ⟨hmem, honly, hpatch⟩ | ⟨hmem, honly, hpatch⟩ | ⟨hmem, hpatch⟩
    · exact ⟨honly, hplace .attached hmem hpatch⟩
    · exact ⟨honly, hplace .unresolved hmem hpatch⟩
    · refine ⟨?_, hplace .orphaned hmem hpatch⟩
      by_contra honly
      rw [placePatch, h p.1 hmem (Bool.not_eq_true _ ▸ honly)] at hpatch
      cases hpatch

/-- The object has the name and the namespace of the route. -/
def IsNamed (route : Route) (r : KubeRoute M F) : Prop :=
  r.metadata.name = some route.resourceKey.name ∧ r.metadata.ns = some route.resourceKey.ns

theorem findRoute_eq_none {route : Route} {kubeRoutes : Option (List (KubeRoute M F))} :
    findRoute route kubeRoutes = none ↔ ∀ r ∈ kubeRoutes.getD [], ¬ IsNamed route r := by
  simp only [findRoute, List.find?_eq_none, decide_eq_true_eq, IsNamed]

end Patches

/-- The two passes keep to their kinds exactly if no orphaned GRPC route has the name of an HTTP object
attached to the gateway, and no orphaned HTTP route that of a GRPC object. -/
theorem kindsApart_iff (self : GatewayProcessedHandler) (effectiveGateway : Gateway) :
    self.KindsApart effectiveGateway ↔
      (∀ route ∈ effectiveGateway.orphanedRoutes.routes, onlyHttpRoutes route = false →
        ∀ r ∈ (self.routes.getHttpRoutesAttachedToGateway effectiveGateway.resourceKey).getD [], ¬ IsNamed route r) ∧
      ∀ route ∈ effectiveGateway.orphanedRoutes.routes, onlyGrpcRoutes route = false →
        ∀ r ∈ (self.routes.getGrpcRoutesAttachedToGateway effectiveGateway.resourceKey).getD [], ¬ IsNamed route r := by
  simp only [← findRoute_eq_none]
  have hhttp := ownOutcomes_iff self effectiveGateway onlyHttpRoutes
    (self.attachedHttpRoute? effectiveGateway.resourceKey)
  have hgrpc := ownOutcomes_iff self effectiveGateway onlyGrpcRoutes
    (self.attachedGrpcRoute? effectiveGateway.resourceKey)
  exact ⟨fun h => ⟨hhttp.1 h.http, hgrpc.1 h.grpc⟩, fun h => ⟨hhttp.2 h.1, hgrpc.2 h.2⟩⟩

def cartHttpRoute : HTTPRoute where
  metadata := { name := some "cart", ns := some "shop" }
  spec := { parentRefs := some [{ name := "edge" }] }

def cartGrpcRoute : GRPCRoute where
  metadata := { name := some "cart", ns := some "shop" }
  spec := { parentRefs := some [{ name := "edge" }] }

/-- The HTTP route as it is resolved, and the GRPC route, whose hostname no listener has. -/
def attachedCart : Route where
  resourceKey := cartHttpRoute.resourceKey
  resolutionStatus := .resolved
  routeType := .http []

def orphanedCart : Route where
  resourceKey := cartGrpcRoute.resourceKey
  resolutionStatus := .notResolved .noMatchingListenerHostname
  routeType := .grpc []

/-- Both routes are stored, and attached to the gateway. -/
def cartHandler : GatewayProcessedHandler where
  routes := ((((({} : RouteStores).saveHttpRoute cartHttpRoute.resourceKey cartHttpRoute).saveGrpcRoute
    cartGrpcRoute.resourceKey cartGrpcRoute).attachHttpRouteToGateway { ns := "shop", name := "edge" }
      cartHttpRoute.resourceKey).attachGrpcRouteToGateway { ns := "shop", name := "edge" } cartGrpcRoute.resourceKey)
  controllerName := "kubvernor"

def webListener : Listener where
  protocol := .http
  data := { config := { name := "web", port := 80 }, resolvedRoutes := .ofRoutes [attachedCart] }

def cartGateway : Gateway where
  id := 1
  resourceKey := { ns := "shop", name := "edge" }
  listeners := .ofList [("web", webListener)]
  orphanedRoutes := .ofRoutes [orphanedCart]

/-- The HTTP object is patched for the GRPC route. -/
theorem cartGateway_not_kindsApart : ¬ cartHandler.KindsApart cartGateway := by
  intro h
  have hnone : cartHandler.attachedHttpRoute? cartGateway.resourceKey orphanedCart = none :=
    (ownOutcomes_iff cartHandler cartGateway onlyHttpRoutes _).1 h.http orphanedCart (by decide +kernel) rfl
  revert hnone
  decide +kernel

end GatewayProcessedHandler

end Kubvernor
