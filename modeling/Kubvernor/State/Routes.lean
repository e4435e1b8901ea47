import Kubvernor.Common.KubeRoutes

/-!
# The stores of routes

The part of the state that holds the routes and which of them are attached to which gateway. As with
the other stores, each has a lock of its own.
-/

namespace Kubvernor

/-- `State`: the stores of HTTP and GRPC routes, and the keys of the routes of each gateway. -/
structure RouteStores where
  httpRoutes : Std.ExtTreeMap RouteKey HTTPRoute := ∅
  grpcRoutes : Std.ExtTreeMap RouteKey GRPCRoute := ∅
  gatewaysWithRoutes : Std.ExtTreeMap GatewayKey (Std.ExtTreeSet RouteKey) := ∅

namespace RouteStores

variable (s : RouteStores)

/-- A route of either kind is attached. -/
def attachRoute (gatewayId : GatewayKey) (routeId : RouteKey) : RouteStores :=
  let routes :=
    match s.gatewaysWithRoutes[gatewayId]? with
    | some routes => routes.insert routeId
    | none => (∅ : Std.ExtTreeSet RouteKey).insert routeId
  { s with gatewaysWithRoutes := s.gatewaysWithRoutes.insert gatewayId routes }

/-- `attach_http_route_to_gateway`. -/
def attachHttpRouteToGateway (gatewayId : GatewayKey) (routeId : RouteKey) : RouteStores :=
  s.attachRoute gatewayId routeId

/-- `attach_grpc_route_to_gateway`. -/
def attachGrpcRouteToGateway (gatewayId : GatewayKey) (routeId : RouteKey) : RouteStores :=
  s.attachRoute gatewayId routeId

/-- A route of either kind is detached. -/
def detachRoute (gatewayId : GatewayKey) (routeId : RouteKey) : RouteStores :=
  match s.gatewaysWithRoutes[gatewayId]? with
  | some routes => { s with gatewaysWithRoutes := s.gatewaysWithRoutes.insert gatewayId (routes.erase routeId) }
  | none => s

/-- `detach_http_route_from_gateway`. -/
def detachHttpRouteFromGateway (gatewayId : GatewayKey) (routeId : RouteKey) : RouteStores :=
  s.detachRoute gatewayId routeId

/-- `detach_grpc_route_from_gateway`. -/
def detachGrpcRouteFromGateway (gatewayId : GatewayKey) (routeId : RouteKey) : RouteStores :=
  s.detachRoute gatewayId routeId

/-- `save_http_route`. -/
def saveHttpRoute (id : RouteKey) (route : HTTPRoute) : RouteStores :=
  { s with httpRoutes := s.httpRoutes.insert id route }

/-- `maybe_save_http_route`: replaces a route that is there. -/
def maybeSaveHttpRoute (id : RouteKey) (route : HTTPRoute) : RouteStores :=
  if id ∈ s.httpRoutes then s.saveHttpRoute id route else s

/-- `delete_http_route`. -/
def deleteHttpRoute (id : RouteKey) : RouteStores := { s with httpRoutes := s.httpRoutes.erase id }

/-- `get_http_route_by_id`. -/
def getHttpRouteById (id : RouteKey) : Option HTTPRoute := s.httpRoutes[id]?

/-- `save_grpc_route`. -/
def saveGrpcRoute (id : RouteKey) (route : GRPCRoute) : RouteStores :=
  { s with grpcRoutes := s.grpcRoutes.insert id route }

/-- `maybe_save_grpc_route`. -/
def maybeSaveGrpcRoute (id : RouteKey) (route : GRPCRoute) : RouteStores :=
  if id ∈ s.grpcRoutes then s.saveGrpcRoute id route else s

/-- `delete_grpc_route`. -/
def deleteGrpcRoute (id : RouteKey) : RouteStores := { s with grpcRoutes := s.grpcRoutes.erase id }

/-- `get_grpc_route_by_id`. -/
def getGrpcRouteById (id : RouteKey) : Option GRPCRoute := s.grpcRoutes[id]?

/-- `get_http_routes_attached_to_gateway`: the stored ones among the attached routes, in key order. -/
def getHttpRoutesAttachedToGateway (gatewayKey : GatewayKey) : Option (List HTTPRoute) :=
  s.gatewaysWithRoutes[gatewayKey]?.map fun keys => keys.toList.filterMap (s.httpRoutes[·]?)

/-- `get_grpc_routes_attached_to_gateway`. -/
def getGrpcRoutesAttachedToGateway (gatewayKey : GatewayKey) : Option (List GRPCRoute) :=
  s.gatewaysWithRoutes[gatewayKey]?.map fun keys => keys.toList.filterMap (s.grpcRoutes[·]?)

/-- `find_linked_routes`; `isIpAddr` says which hostnames parse as IP addresses. -/
def findLinkedRoutes (isIpAddr : String → Bool) (gatewayId : GatewayKey) : List Route :=
  ((s.getHttpRoutesAttachedToGateway gatewayId).getD []).map (Route.ofHTTPRoute isIpAddr) ++
    ((s.getGrpcRoutesAttachedToGateway gatewayId).getD []).map (Route.ofGRPCRoute isIpAddr)

/-- The route is attached to the gateway. -/
def Attached (g : GatewayKey) (k : RouteKey) : Prop := k ∈ s.gatewaysWithRoutes[g]?.getD ∅

instance (g : GatewayKey) (k : RouteKey) : Decidable (s.Attached g k) :=
  inferInstanceAs (Decidable (k ∈ s.gatewaysWithRoutes[g]?.getD ∅))

variable {s} {g g' : GatewayKey} {k k' : RouteKey}

/-- The stored ones among the routes of a gateway, whichever store that is; none for a gateway without. -/
theorem attachedRoutes_eq {R : Type} (s : RouteStores) (g : GatewayKey) (stored : RouteKey → Option R) :
    (s.gatewaysWithRoutes[g]?.map fun keys => keys.toList.filterMap stored).getD [] =
      (s.gatewaysWithRoutes[g]?.getD ∅).toList.filterMap stored := by
  cases s.gatewaysWithRoutes[g]? with
  | none => simp [List.eq_nil_iff_forall_not_mem]
  | some keys => rfl

theorem mem_getHttpRoutesAttachedToGateway {r : HTTPRoute} :
    r ∈ (s.getHttpRoutesAttachedToGateway g).getD [] ↔ ∃ k, s.Attached g k ∧ s.httpRoutes[k]? = some r := by
  unfold getHttpRoutesAttachedToGateway Attached
  rw [attachedRoutes_eq]
  simp only [List.mem_filterMap, Std.ExtTreeSet.mem_toList]

theorem mem_getGrpcRoutesAttachedToGateway {r : GRPCRoute} :
    r ∈ (s.getGrpcRoutesAttachedToGateway g).getD [] ↔ ∃ k, s.Attached g k ∧ s.grpcRoutes[k]? = some r := by
  unfold getGrpcRoutesAttachedToGateway Attached
  rw [attachedRoutes_eq]
  simp only [List.mem_filterMap, Std.ExtTreeSet.mem_toList]

theorem attached_attachRoute : (s.attachRoute g k).Attached g' k' ↔ (g' = g ∧ k' = k) ∨ s.Attached g' k' := by
  unfold Attached attachRoute
  simp only [Std.ExtTreeMap.getElem?_insert, Std.LawfulEqOrd.compare_eq_iff_eq]
  by_cases hg : g = g'
  · subst hg
    cases s.gatewaysWithRoutes[g]? with
    | none => simp [eq_comm (a := k)]
    | some routes => simp [eq_comm (a := k)]
  · simp [hg, Ne.symm hg]

theorem attached_detachRoute : (s.detachRoute g k).Attached g' k' ↔ s.Attached g' k' ∧ ¬ (g' = g ∧ k' = k) := by
  unfold Attached detachRoute
  cases hroutes : s.gatewaysWithRoutes[g]? with
  | none =>
    by_cases hg : g' = g
    · subst hg
      simp [hroutes]
    · simp [hg]
  | some routes =>
    simp only [Std.ExtTreeMap.getElem?_insert, Std.LawfulEqOrd.compare_eq_iff_eq]
    by_cases hg : g = g'
    · subst hg
      simp [hroutes, eq_comm (a := k), and_comm]
    · simp [hg, Ne.symm hg]

@[simp] theorem httpRoutes_attachRoute : (s.attachRoute g k).httpRoutes = s.httpRoutes := rfl

@[simp] theorem grpcRoutes_attachRoute : (s.attachRoute g k).grpcRoutes = s.grpcRoutes := rfl

@[simp] theorem httpRoutes_detachRoute : (s.detachRoute g k).httpRoutes = s.httpRoutes := by
  unfold detachRoute
  split <;> rfl

@[simp] theorem grpcRoutes_detachRoute : (s.detachRoute g k).grpcRoutes = s.grpcRoutes := by
  unfold detachRoute
  split <;> rfl

end RouteStores

/-- What the controllers of routes do to the stores. -/
inductive RouteStoresOp
  | saveHttpRoute (id : RouteKey) (route : HTTPRoute)
  | maybeSaveHttpRoute (id : RouteKey) (route : HTTPRoute)
  | deleteHttpRoute (id : RouteKey)
  | saveGrpcRoute (id : RouteKey) (route : GRPCRoute)
  | maybeSaveGrpcRoute (id : RouteKey) (route : GRPCRoute)
  | deleteGrpcRoute (id : RouteKey)
  | attachHttpRouteToGateway (gatewayId : GatewayKey) (routeId : RouteKey)
  | attachGrpcRouteToGateway (gatewayId : GatewayKey) (routeId : RouteKey)
  | detachHttpRouteFromGateway (gatewayId : GatewayKey) (routeId : RouteKey)
  | detachGrpcRouteFromGateway (gatewayId : GatewayKey) (routeId : RouteKey)

def RouteStores.apply (s : RouteStores) : RouteStoresOp → RouteStores
  | .saveHttpRoute id route => s.saveHttpRoute id route
  | .maybeSaveHttpRoute id route => s.maybeSaveHttpRoute id route
  | .deleteHttpRoute id => s.deleteHttpRoute id
  | .saveGrpcRoute id route => s.saveGrpcRoute id route
  | .maybeSaveGrpcRoute id route => s.maybeSaveGrpcRoute id route
  | .deleteGrpcRoute id => s.deleteGrpcRoute id
  | .attachHttpRouteToGateway gatewayId routeId => s.attachHttpRouteToGateway gatewayId routeId
  | .attachGrpcRouteToGateway gatewayId routeId => s.attachGrpcRouteToGateway gatewayId routeId
  | .detachHttpRouteFromGateway gatewayId routeId => s.detachHttpRouteFromGateway gatewayId routeId
  | .detachGrpcRouteFromGateway gatewayId routeId => s.detachGrpcRouteFromGateway gatewayId routeId

end Kubvernor
