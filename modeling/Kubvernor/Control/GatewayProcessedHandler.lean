import Kubvernor.State.Routes

/-!
# The statuses of the routes of a gateway

When a gateway has been processed, the status of each of its routes is brought up to date: the entries
of this controller for the gateway are taken out, and entries with the new conditions are put in.

The entries that are put in are for every parent reference of the route, not only for those to the
gateway, and an entry without a namespace is taken out whatever namespace its route lives in. So a
status update keeps to its gateway exactly if there is no such reference and no such entry
(`updateRouteParents_touchesOnly_iff`).
-/

namespace Kubvernor

/-- A parent reference names this gateway; the namespace it leaves out is the one of its route. -/
def ParentReference.Names (p : ParentReference) (routeNamespace : String) (g : GatewayKey) : Prop :=
  p.name = g.name ∧ p.ns.getD routeNamespace = g.ns

instance (p : ParentReference) (routeNamespace : String) (g : GatewayKey) : Decidable (p.Names routeNamespace g) :=
  inferInstanceAs (Decidable (_ ∧ _))

def ROUTE_CONDITION_MESSAGE : String := "Route status updated by controller"

def routeCondition (type status reason : String) : Condition :=
  { type := type, status := status, reason := reason, message := ROUTE_CONDITION_MESSAGE }

/-- The entries of a route's status. -/
def KubeRoute.statusParents {M F : Type} (r : KubeRoute M F) : List ParentRouteStatus := (r.status.getD {}).parents

/-- `GatewayProcessedHandler`: the stores it reads and the name it writes. -/
structure GatewayProcessedHandler where
  routes : RouteStores
  controllerName : String

namespace GatewayProcessedHandler

/-! ## The conditions of a route -/

/-- The conditions of a route with listeners and backends. -/
def attachedConditions : List Condition :=
  [routeCondition "Accepted" "True" "Accepted", routeCondition "ResolvedRefs" "True" "ResolvedRefs"]

/-- The conditions of a route with listeners, not all of whose backends are resolved. -/
def unresolvedConditions : ResolutionStatus → List Condition
  | .resolved => [routeCondition "Conflicted" "False" "Invalid"]
  | .notResolved .invalidBackend =>
    [routeCondition "ResolvedRefs" "False" "InvalidKind", routeCondition "Programmed" "False" "Programmed",
      routeCondition "Accepted" "True" "Accepted"]
  | .notResolved .backendNotFound =>
    [routeCondition "ResolvedRefs" "False" "BackendNotFound", routeCondition "Programmed" "False" "Programmed",
      routeCondition "Accepted" "True" "Accepted"]
  | .notResolved .refNotPermitted =>
    [routeCondition "ResolvedRefs" "False" "RefNotPermitted", routeCondition "Accepted" "True" "Accepted"]
  | .notResolved .noMatchingParent =>
    [routeCondition "ResolvedRefs" "True" "NoMatchingParent", routeCondition "Accepted" "False" "NoMatchingParent"]
  | .notResolved _ =>
    [routeCondition "ResolvedRefs" "False" "ResolvedRefs", routeCondition "Programmed" "False" "Programmed"]

/-- The conditions of a route without listeners. -/
def nonAttachedConditions : ResolutionStatus → List Condition
  | .resolved =>
    [routeCondition "Accepted" "True" "Accepted", routeCondition "ResolvedRefs" "True" "ResolvedRefs"]
  | .notResolved .unknown => [routeCondition "Programmed" "False" "Uknown reason"]
  | .notResolved .notAllowedByListeners =>
    [routeCondition "Accepted" "False" "NotAllowedByListeners", routeCondition "ResolvedRefs" "True" "ResolvedRefs"]
  | .notResolved .refNotPermitted =>
    [routeCondition "Accepted" "False" "RefNotPermitted", routeCondition "ResolvedRefs" "False" "RefNotPermitted"]
  | .notResolved .noMatchingListenerHostname =>
    [routeCondition "Accepted" "False" "NoMatchingListenerHostname",
      routeCondition "ResolvedRefs" "True" "ResolvedRefs"]
  | .notResolved .noMatchingParent =>
    [routeCondition "ResolvedRefs" "True" "NoMatchingParent", routeCondition "Accepted" "False" "NoMatchingParent"]
  | .notResolved .invalidBackend | .notResolved .backendNotFound =>
    [routeCondition "ResolvedRefs" "False" "ResolvedRefs", routeCondition "Programmed" "False" "Programmed"]

/-- The conditions as they are written, for the generation of the object. -/
def observed (generation : Option Int) (conditions : List Condition) : List Condition :=
  conditions.map fun c => { c with observedGeneration := generation }

/-! ## The update -/

section Update

variable {M F : Type} (self : GatewayProcessedHandler) (gatewayId : GatewayKey) (conditions : List Condition)

/-- The entries that stay: the namespace of an entry is compared only if it has one. -/
def retainParents (parents : List ParentRouteStatus) : List ParentRouteStatus :=
  parents.filter fun p =>
    if p.parentRef.ns.isSome then
      ¬ (p.controllerName = self.controllerName ∧ p.parentRef.ns = some gatewayId.ns ∧
        gatewayId.name = p.parentRef.name)
    else ¬ (p.controllerName = self.controllerName ∧ gatewayId.name = p.parentRef.name)

/-- The entries that are added, one for each parent reference. -/
def newParents (parentRefs : List ParentReference) : List ParentRouteStatus :=
  parentRefs.map fun p =>
    { conditions := conditions, controllerName := self.controllerName, parentRef := p }

/-- What `update_http_route_parents` and `update_grpc_route_parents` make of a stored route. -/
def updateRouteParents (kubeRoute : KubeRoute M F) : KubeRoute M F :=
  { kubeRoute with
    status := some
      { parents := self.retainParents gatewayId kubeRoute.statusParents ++
          self.newParents (observed kubeRoute.metadata.generation conditions) (kubeRoute.spec.parentRefs.getD []) } }

/-- The first of some objects with the name and the namespace of a route. -/
def findRoute (route : Route) (kubeRoutes : Option (List (KubeRoute M F))) : Option (KubeRoute M F) :=
  (kubeRoutes.getD []).find? fun f =>
    f.metadata.name = some route.resourceKey.name ∧ f.metadata.ns = some route.resourceKey.ns

/-- The object of a route among the HTTP routes attached to the gateway. -/
def attachedHttpRoute? (route : Route) : Option HTTPRoute :=
  findRoute route (self.routes.getHttpRoutesAttachedToGateway gatewayId)

/-- The object of a route among the GRPC routes attached to the gateway. -/
def attachedGrpcRoute? (route : Route) : Option GRPCRoute :=
  findRoute route (self.routes.getGrpcRoutesAttachedToGateway gatewayId)

/-- `update_http_route_parents`. -/
def updateHttpRouteParents (route : Route) : Option HTTPRoute :=
  (self.attachedHttpRoute? gatewayId route).map (self.updateRouteParents gatewayId conditions)

/-- `update_grpc_route_parents`. -/
def updateGrpcRouteParents (route : Route) : Option GRPCRoute :=
  (self.attachedGrpcRoute? gatewayId route).map (self.updateRouteParents gatewayId conditions)

/-- `update_http_attached_route_parents`. -/
def updateHttpAttachedRouteParents (attachedRoute : Route) : Option HTTPRoute :=
  self.updateHttpRouteParents gatewayId attachedConditions attachedRoute

/-- `update_grpc_attached_route_parents`. -/
def updateGrpcAttachedRouteParents (attachedRoute : Route) : Option GRPCRoute :=
  self.updateGrpcRouteParents gatewayId attachedConditions attachedRoute

/-- `update_http_unresolved_route_parents`. -/
def updateHttpUnresolvedRouteParents (rejectedRoute : Route) : Option HTTPRoute :=
  self.updateHttpRouteParents gatewayId (unresolvedConditions rejectedRoute.resolutionStatus) rejectedRoute

/-- `update_grpc_unresolved_route_parents`. -/
def updateGrpcUnresolvedRouteParents (rejectedRoute : Route) : Option GRPCRoute :=
  self.updateGrpcRouteParents gatewayId (unresolvedConditions rejectedRoute.resolutionStatus) rejectedRoute

/-- `update_http_non_attached_route_parents`. -/
def updateHttpNonAttachedRouteParents (nonAttachedRoute : Route) : Option HTTPRoute :=
  self.updateHttpRouteParents gatewayId (nonAttachedConditions nonAttachedRoute.resolutionStatus) nonAttachedRoute

/-- `update_grpc_non_attached_route_parents`. -/
def updateGrpcNonAttachedRouteParents (nonAttachedRoute : Route) : Option GRPCRoute :=
  self.updateGrpcRouteParents gatewayId (nonAttachedConditions nonAttachedRoute.resolutionStatus) nonAttachedRoute

end Update

/-! ## Keeping to one gateway -/

section TouchesOnly

variable {M F : Type} {self : GatewayProcessedHandler} {g : GatewayKey} {conditions : List Condition}
variable {r : KubeRoute M F}

/-- An entry of this controller for this gateway. -/
def IsOwnAt (self : GatewayProcessedHandler) (routeNamespace : String) (g : GatewayKey) (p : ParentRouteStatus) :
    Prop :=
  p.controllerName = self.controllerName ∧ p.parentRef.Names routeNamespace g

instance (routeNamespace : String) : DecidablePred (self.IsOwnAt routeNamespace g) :=
  fun _ => inferInstanceAs (Decidable (_ ∧ _))

/-- The namespace of an object. -/
def routeNamespace (r : KubeRoute M F) : String := r.metadata.ns.getD DEFAULT_NAMESPACE_NAME

/-- A status update keeps to one gateway: only its own entries for the gateway go, there comes one for
each parent reference to the gateway, and doing it twice is like doing it once. -/
structure TouchesOnly (handler : GatewayProcessedHandler) (g : GatewayKey) (conditions : List Condition)
    (r : KubeRoute M F) : Prop where
  kept : handler.retainParents g r.statusParents =
    r.statusParents.filter fun p => ¬ handler.IsOwnAt (routeNamespace r) g p
  produced : handler.newParents (observed r.metadata.generation conditions) (r.spec.parentRefs.getD []) =
    handler.newParents (observed r.metadata.generation conditions)
      ((r.spec.parentRefs.getD []).filter fun p => p.Names (routeNamespace r) g)
  idempotent : handler.updateRouteParents g conditions (handler.updateRouteParents g conditions r) =
    handler.updateRouteParents g conditions r

/-- Every parent reference of the route is to the gateway, and every own entry without a namespace that has
the gateway's name is for the gateway. -/
structure OnlyParent (handler : GatewayProcessedHandler) (g : GatewayKey) (r : KubeRoute M F) : Prop where
  refs : ∀ p ∈ r.spec.parentRefs.getD [], p.Names (routeNamespace r) g
  entries : ∀ p ∈ r.statusParents, p.controllerName = handler.controllerName → p.parentRef.ns = none →
    p.parentRef.name = g.name → routeNamespace r = g.ns

/-- The entries that go: those of the controller with the gateway's name and its namespace or none. -/
def IsRemoved (self : GatewayProcessedHandler) (g : GatewayKey) (p : ParentRouteStatus) : Prop :=
  p.controllerName = self.controllerName ∧ p.parentRef.name = g.name ∧
    (p.parentRef.ns = none ∨ p.parentRef.ns = some g.ns)

instance : DecidablePred (self.IsRemoved g) := fun _ => inferInstanceAs (Decidable (_ ∧ _ ∧ _))

theorem retainParents_eq (parents : List ParentRouteStatus) :
    self.retainParents g parents = parents.filter fun p => ¬ self.IsRemoved g p := by
  unfold retainParents IsRemoved
  refine List.filter_congr fun p _ => ?_
  by_cases hns : p.parentRef.ns.isSome = true
  · have hne : p.parentRef.ns ≠ none := Option.isSome_iff_ne_none.1 hns
    rw [if_pos hns, decide_eq_decide, eq_comm (a := g.name), and_comm (a := p.parentRef.ns = some g.ns)]
    simp only [hne, false_or]
  · have hnone : p.parentRef.ns = none := Option.not_isSome_iff_eq_none.1 hns
    rw [if_neg hns, decide_eq_decide, eq_comm (a := g.name)]
    simp only [hnone, true_or, and_true]

/-- Own entries for the gateway go. -/
theorem IsOwnAt.isRemoved {ns : String} {p : ParentRouteStatus} (hp : self.IsOwnAt ns g p) : self.IsRemoved g p := by
  refine ⟨hp.1, hp.2.1, ?_⟩
  have hname := hp.2.2
  cases hns : p.parentRef.ns with
  | none => exact .inl rfl
  | some ns' =>
    rw [hns] at hname
    exact .inr (congrArg some hname)

/-- Exactly these go, if the entries without a namespace are for the gateway too. -/
theorem kept_iff : self.retainParents g r.statusParents =
      (r.statusParents.filter fun p => ¬ self.IsOwnAt (routeNamespace r) g p) ↔
    ∀ p ∈ r.statusParents, p.controllerName = self.controllerName → p.parentRef.ns = none →
      p.parentRef.name = g.name → routeNamespace r = g.ns := by
  rw [retainParents_eq]
  constructor
  · intro h p hp hown hns hname
    by_contra hne
    have hnot : ¬ self.IsOwnAt (routeNamespace r) g p := by
      rintro ⟨-, -, hns'⟩
      rw [hns] at hns'
      exact hne hns'
    have hkept : p ∈ r.statusParents.filter fun p => ¬ self.IsRemoved g p := by
      rw [h, List.mem_filter, decide_eq_true_eq]
      exact ⟨hp, hnot⟩
    rw [List.mem_filter, decide_eq_true_eq] at hkept
    exact hkept.2 ⟨hown, hname, .inl hns⟩
  · intro h
    refine List.filter_congr fun p hp => ?_
    refine decide_eq_decide.2 (not_congr ⟨?_, IsOwnAt.isRemoved⟩)
    rintro ⟨hown, hname, hns | hns⟩
    · refine ⟨hown, hname, ?_⟩
      rw [hns]
      exact h p hp hown hns hname
    · refine ⟨hown, hname, ?_⟩
      rw [hns]
      rfl

/-- Exactly the right entries come, if no parent reference is to another gateway. -/
theorem produced_iff : self.newParents conditions (r.spec.parentRefs.getD []) =
      self.newParents conditions ((r.spec.parentRefs.getD []).filter fun p => p.Names (routeNamespace r) g) ↔
    ∀ p ∈ r.spec.parentRefs.getD [], p.Names (routeNamespace r) g := by
  unfold newParents
  constructor
  · intro h p hp
    have hlength := congrArg List.length h
    rw [List.length_map, List.length_map] at hlength
    have hall := List.length_filter_eq_length_iff.1 hlength.symm p hp
    rwa [decide_eq_true_eq] at hall
  · intro h
    rw [List.filter_eq_self.2 fun p hp => decide_eq_true (h p hp)]

/-- Every entry that is added is taken out by the next update, if every parent reference is to the gateway. -/
theorem updateRouteParents_idempotent (h : ∀ p ∈ r.spec.parentRefs.getD [], p.Names (routeNamespace r) g) :
    self.updateRouteParents g conditions (self.updateRouteParents g conditions r) =
      self.updateRouteParents g conditions r := by
  have hnew : self.retainParents g
      (self.newParents (observed r.metadata.generation conditions) (r.spec.parentRefs.getD [])) = [] := by
    rw [retainParents_eq, List.filter_eq_nil_iff]
    intro q hq
    obtain ⟨p, hp, rfl⟩ := List.mem_map.1 hq
    rw [decide_eq_true_eq, not_not]
    exact IsOwnAt.isRemoved ⟨rfl, h p hp⟩
  have hold : self.retainParents g (self.retainParents g (r.status.getD {}).parents) =
      self.retainParents g (r.status.getD {}).parents := by
    rw [retainParents_eq, retainParents_eq, List.filter_filter]
    simp only [Bool.and_self]
  have happend (parents parents' : List ParentRouteStatus) : self.retainParents g (parents ++ parents') =
      self.retainParents g parents ++ self.retainParents g parents' := List.filter_append parents parents'
  unfold updateRouteParents
  simp only [KubeRoute.statusParents, Option.getD_some]
  rw [happend, hnew, hold, List.append_nil]

/-- An update keeps to its gateway exactly if the route has no other parent. -/
theorem touchesOnly_iff : self.TouchesOnly g conditions r ↔ self.OnlyParent g r := by
  constructor
  · rintro ⟨hkept, hproduced, -⟩
    exact ⟨produced_iff.1 hproduced, kept_iff.1 hkept⟩
  · rintro ⟨hrefs, hentries⟩
    exact ⟨kept_iff.2 hentries, produced_iff.2 hrefs, updateRouteParents_idempotent hrefs⟩

end TouchesOnly

/-! ## A route with one gateway, and with two -/

def oneGatewayRoute : HTTPRoute where
  metadata := { name := some "route", ns := some "default" }
  spec := { parentRefs := some [{ name := "gw-a" }] }

def twoGatewaysRoute : HTTPRoute :=
  { oneGatewayRoute with spec := { parentRefs := some [{ name := "gw-a" }, { name := "gw-b" }] } }

/-- The route as the controller knows it. -/
def linkedRoute : Route where
  resourceKey := oneGatewayRoute.resourceKey
  routeType := .http []

/-- A handler whose stores have the one route, attached to the first gateway. -/
def handlerOf (r : HTTPRoute) : GatewayProcessedHandler where
  routes := (({} : RouteStores).saveHttpRoute r.resourceKey r).attachHttpRouteToGateway (.new "gw-a") r.resourceKey
  controllerName := "kubvernor"

/-- The route with a status: entries of the controller for the gateway, for one of its name in another namespace and
for another gateway, and an entry of another controller for the gateway. -/
def reportedRoute : HTTPRoute :=
  { oneGatewayRoute with
    status := some { parents := [
      { controllerName := "kubvernor", parentRef := { name := "gw-a" } },
      { controllerName := "kubvernor", parentRef := { name := "gw-a", ns := some "infra" } },
      { controllerName := "kubvernor", parentRef := { name := "gw-b" } },
      { controllerName := "other", parentRef := { name := "gw-a" } }] } }

end GatewayProcessedHandler

end Kubvernor
