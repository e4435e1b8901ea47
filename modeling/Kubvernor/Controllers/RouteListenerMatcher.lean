import Kubvernor.Common.Gateway
import Kubvernor.Controllers.HostnameMatchFilter

/-!
# Matching routes with listeners

`RouteListenerMatcher` finds, for each parent reference of a route to a gateway, the listeners that
admit the route: by its namespace first, then by its hostnames, then by the name and the port the
reference asks for. A reference no listener admits leaves its reason on the route. A listener is then
given the routes that match it, apart as resolved and not (`Listener.updateRoutes`).
-/

namespace Kubvernor

structure RouteRefKey where
  resourceKey : ResourceKey
  sectionName : Option String := none
  port : Option Int := none
deriving DecidableEq, Repr

/-- `RouteRefKey::from((&ParentReference, String))`. -/
def ParentReference.routeRefKey (p : ParentReference) (routeNamespace : String) : RouteRefKey where
  resourceKey :=
    { group := p.group.getD DEFAULT_GROUP_NAME
      ns := p.ns.getD routeNamespace
      name := p.name
      kind := p.kind.getD DEFAULT_KIND_NAME }
  sectionName := p.sectionName
  port := p.port

/-- A listener has the name and the port a parent reference asks for. -/
def ParentReference.selects (p : ParentReference) (l : KubeListener) : Bool :=
  match p.port, p.sectionName with
  | some port, some sectionName => decide (l.port = port) && decide (l.name = sectionName)
  | some port, none => decide (l.port = port)
  | none, some sectionName => decide (l.name = sectionName)
  | none, none => true

structure RouteToListenersMapping where
  route : Route
  listeners : List KubeListener

structure RouteListenerMatcher where
  gateway : KubeGateway
  routes : List Route
  resolvedNamespaces : Std.ExtTreeMap String (Std.ExtTreeMap String String) := ∅

namespace RouteListenerMatcher

/-- One of the labels of a selector is on the namespace. -/
def hasSelectedLabel (m : RouteListenerMatcher) (selector : Option LabelSelector) (routeNamespace : String) : Bool :=
  match selector.bind (·.matchLabels), m.resolvedNamespaces[routeNamespace]? with
  | some selectorLabels, some labels => selectorLabels.any fun p => labels[p.1]? = some p.2
  | _, _ => false

/-- `filter_listeners_by_namespace`. A selector decides alone, whatever the kinds are. -/
def filterListenersByNamespace (m : RouteListenerMatcher) (listeners : List KubeListener)
    (gatewayKey : GatewayKey) (routeKey : RouteKey) : List KubeListener :=
  listeners.filter fun l =>
    let isAllowed := match l.allowedKinds with
      | some allowedKinds => allowedKinds.isEmpty || allowedKinds.any (· = "HTTPRoute")
      | none => true
    match l.allowedNamespaces with
    | none => isAllowed
    | some namespaces =>
      match namespaces.selectorType with
      | none | some .all => isAllowed
      | some .selector => m.hasSelectedLabel namespaces.selector routeKey.ns
      | some .same => isAllowed && decide (routeKey.ns = gatewayKey.ns)

variable (domainPattern : String → Option (String → Bool))

/-- `filter_listeners_by_hostnames`. -/
def filterListenersByHostnames (listeners : List KubeListener) (route : Route) : List KubeListener :=
  listeners.filter fun l =>
    match l.hostname with
    | some hostname => decide (hostname = "") || HostnameMatchFilter.filter domainPattern ⟨hostname, route.hostnames⟩
    | none => true

/-- One round of the loop of `filter_matching_route` over the parent references. -/
def matchParent (m : RouteListenerMatcher) (route : Route) (found : List KubeListener × Option ResolutionStatus)
    (parent : ParentReference) : List KubeListener × Option ResolutionStatus :=
  let parentKey := (parent.routeRefKey route.resourceKey.ns).resourceKey
  let gatewayKey := m.gateway.resourceKey
  if parentKey.name = gatewayKey.name ∧ parentKey.ns = gatewayKey.ns then
    let byNamespace := m.filterListenersByNamespace m.gateway.spec.listeners gatewayKey route.resourceKey
    let byHostname := filterListenersByHostnames domainPattern byNamespace route
    let matched := byHostname.filter parent.selects
    if byNamespace = [] then (found.1, some (.notResolved .notAllowedByListeners))
    else if byHostname = [] then (found.1, some (.notResolved .noMatchingListenerHostname))
    else if matched = [] ∧ parent.sectionName.isSome then (found.1, some (.notResolved .noMatchingParent))
    else (found.1 ++ matched, found.2)
  else found

/-- `filter_matching_route`. -/
def filterMatchingRoute (m : RouteListenerMatcher) (route : Route) : List KubeListener × Option ResolutionStatus :=
  (route.parents.getD []).foldl (m.matchParent domainPattern route) ([], none)

/-- A route as matching leaves it, and its listeners. -/
def matchRoute (m : RouteListenerMatcher) (route : Route) : RouteToListenersMapping :=
  let (listeners, status) := m.filterMatchingRoute domainPattern route
  { route := { route with resolutionStatus := status.getD route.resolutionStatus }, listeners := listeners }

/-- `filter_matching_routes`: the routes with their listeners, and the ones without. -/
def filterMatchingRoutes (m : RouteListenerMatcher) : List RouteToListenersMapping × List Route :=
  let mappings := m.routes.map (m.matchRoute domainPattern)
  (mappings.filter fun mapping => mapping.listeners ≠ [],
    (mappings.filter fun mapping => mapping.listeners = []).map (·.route))

end RouteListenerMatcher

/-! ## Giving listeners their routes -/

/-- `BTreeSet::insert`: a route with the same key stays. -/
def RouteSet.insertNew (s : RouteSet) (r : Route) : RouteSet := s.insertIfNew r.resourceKey r

/-- `calculate_attached_routes`: the routes of each listener name. -/
def calculateAttachedRoutes (mappedRoutes : List RouteToListenersMapping) : Std.ExtTreeMap String RouteSet :=
  mappedRoutes.foldl
    (fun attachedRoutes mapping => mapping.listeners.foldl
      (fun attachedRoutes l =>
        attachedRoutes.alter l.name fun routes => some (RouteSet.insertNew (routes.getD ∅) mapping.route))
      attachedRoutes)
    ∅

/-- `Listener::update_routes`. Only the first unresolved route decides whether a backend is on record
as invalid. -/
def Listener.updateRoutes (l : Listener) (resolvedRoutes unresolvedRoutes : RouteSet) : Listener :=
  let conditions :=
    if unresolvedRoutes.isEmpty then l.data.conditions
    else
      match unresolvedRoutes.routes.head? with
      | some route =>
        if route.resolutionStatus = .notResolved .refNotPermitted then
          l.data.conditions.replace (.resolvedRefs (.invalidBackend APPROVED_ROUTES))
        else l.data.conditions
      | none => l.data.conditions.replace .unresolvedRouteRefs
  { l with data := { l.data with
      conditions := conditions
      attachedRoutes := unresolvedRoutes.size + resolvedRoutes.size
      resolvedRoutes := resolvedRoutes
      unresolvedRoutes := unresolvedRoutes } }

namespace RouteListenerMatcher

variable (domainPattern : String → Option (String → Bool))

/-- What `RoutesResolver::validate` does to a gateway once its linked routes are resolved. -/
def attachRoutes (m : RouteListenerMatcher) (g : Gateway) : Gateway :=
  let (routeToListenersMapping, routesWithNoListeners) := m.filterMatchingRoutes domainPattern
  let attachedRoutes := calculateAttachedRoutes routeToListenersMapping
  { g with
    listeners := g.listeners.map fun name l =>
      match attachedRoutes[name]? with
      | some routes =>
        l.updateRoutes (routes.filter fun _ r => r.resolutionStatus = .resolved)
          (routes.filter fun _ r => r.resolutionStatus ≠ .resolved)
      | none => l
    orphanedRoutes := .ofRoutes routesWithNoListeners }

end RouteListenerMatcher

end Kubvernor
