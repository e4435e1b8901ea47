import Kubvernor.Common.Route
import Mathlib.Data.List.Basic

/-!
# Route objects

HTTPRoute and GRPCRoute objects of Kubernetes, and the controller's `Route` they are converted into. No
conversion fails: a backend reference of an unknown kind becomes an invalid backend.
-/

namespace Kubvernor

/-! ## Objects of the Gateway API -/

/-- `HTTPBackendReference`, and `GRPCBackendReference` alike. -/
structure BackendReference where
  group : Option String := none
  kind : Option String := none
  name : String
  ns : Option String := none
  port : Option Int := none
  weight : Option Int := none
deriving DecidableEq, Repr

/-- `HttpRouteRule` and `GrpcRouteRule`. -/
structure KubeRouteRule (M F : Type) where
  ruleMatches : Option (List M) := none
  filters : Option (List F) := none
  backendRefs : Option (List BackendReference) := none
deriving DecidableEq, Repr

structure ParentRouteStatus where
  conditions : List Condition := []
  controllerName : String
  parentRef : ParentReference
deriving DecidableEq, Repr

structure RouteStatus where
  parents : List ParentRouteStatus := []
deriving DecidableEq, Repr

structure KubeRouteSpec (M F : Type) where
  hostnames : Option (List String) := none
  parentRefs : Option (List ParentReference) := none
  rules : Option (List (KubeRouteRule M F)) := none
deriving DecidableEq, Repr

structure KubeRoute (M F : Type) where
  metadata : ObjectMeta := {}
  spec : KubeRouteSpec M F := {}
  status : Option RouteStatus := none
deriving DecidableEq, Repr

abbrev HTTPRoute := KubeRoute RouteMatch HttpRouteFilter
abbrev GRPCRoute := KubeRoute GrpcRouteMatch GrpcRouteFilter

/-- `ResourceKey::from(&HTTPRoute)`. -/
def HTTPRoute.resourceKey (r : HTTPRoute) : RouteKey := r.metadata.resourceKey "HTTPRoute"

/-- `ResourceKey::from(&GRPCRoute)`. -/
def GRPCRoute.resourceKey (r : GRPCRoute) : RouteKey := r.metadata.resourceKey "GRPCRoute"

/-! ## Backends -/

/-- `ResourceKey::from((&HTTPBackendReference, String))`, and for GRPC alike. -/
def BackendReference.resourceKey (br : BackendReference) (localNamespace : String) : ResourceKey :=
  { group := DEFAULT_GROUP_NAME, ns := br.ns.getD localNamespace, name := br.name, kind := br.kind.getD "" }

/-- The name of an endpoint: names in the default namespace stand alone. -/
def endpointName (name : String) (ns : Option String) (localNamespace : String) : String :=
  match ns with
  | some ns => if ns = DEFAULT_NAMESPACE_NAME then name else name ++ "." ++ ns
  | none => if localNamespace = DEFAULT_NAMESPACE_NAME then name else name ++ "." ++ localNamespace

/-- `ServiceTypeConfig::from((&HTTPBackendReference, &str))`, and the configuration for GRPC. -/
def ServiceTypeConfig.ofBackendReference (br : BackendReference) (localNamespace : String) : ServiceTypeConfig where
  resourceKey := br.resourceKey localNamespace
  endpoint := endpointName br.name br.ns localNamespace
  port := br.port.getD 0
  effectivePort := br.port.getD 0
  weight := br.weight.getD 1

/-- `ServiceTypeConfig::from((&BackendObjectReference, &str))`. -/
def ServiceTypeConfig.ofBackendObjectReference (br : BackendObjectReference) (localNamespace : String) :
    ServiceTypeConfig where
  resourceKey := br.resourceKey localNamespace
  endpoint := endpointName br.name br.ns localNamespace
  port := br.port.getD 0
  effectivePort := br.port.getD 0
  weight := 1

/-- `InferencePoolTypeConfig::from((&HTTPBackendReference, &str))`. -/
def InferencePoolTypeConfig.ofBackendReference (br : BackendReference) (localNamespace : String) :
    InferencePoolTypeConfig where
  resourceKey := { br.resourceKey localNamespace with group := DEFAULT_INFERENCE_GROUP_NAME }
  endpoint := endpointName br.name br.ns localNamespace
  port := br.port.getD 0
  targetPorts := [br.port.getD 0]
  weight := br.weight.getD 1

/-- A reference of this kind is to a Service. -/
def IsServiceKind (kind : Option String) : Prop := kind = none ∨ kind = some "Service"

instance (kind : Option String) : Decidable (IsServiceKind kind) := inferInstanceAs (Decidable (_ ∨ _))

namespace Backend

/-- The backend of a mirror filter, for either kind of route. -/
def ofMirror (localNamespace : String) (mirror : RequestMirror) : Backend :=
  let config := ServiceTypeConfig.ofBackendObjectReference mirror.backendRef localNamespace
  if IsServiceKind mirror.backendRef.kind then .maybe (.service config) else .invalid (.invalid config)

/-- A backend of a rule of an HTTP route. -/
def ofHttpReference (localNamespace : String) (br : BackendReference) : Backend :=
  if IsServiceKind br.kind then .maybe (.service (.ofBackendReference br localNamespace))
  else if br.kind = some "InferencePool" then .maybe (.inferencePool (.ofBackendReference br localNamespace))
  else .invalid (.invalid (.ofBackendReference br localNamespace))

/-- A backend of a rule of a GRPC route. -/
def ofGrpcReference (localNamespace : String) (br : BackendReference) : Backend :=
  if IsServiceKind br.kind then .maybe (.service (.ofBackendReference br localNamespace))
  else .invalid (.invalid (.ofBackendReference br localNamespace))

def IsInvalid : Backend → Prop
  | .invalid _ => True
  | _ => False

instance : DecidablePred IsInvalid
  | .invalid _ => .isTrue trivial
  | .resolved _ | .unresolved _ | .notAllowed _ | .maybe _ => .isFalse id

end Backend

/-! ## Conversion -/

/-- The rule of this index of an HTTP route. -/
def HTTPRoutingRule.ofKube (r : HTTPRoute) (i : Nat) (rr : KubeRouteRule RouteMatch HttpRouteFilter) :
    HTTPRoutingRule where
  name := r.metadata.nameAny ++ "-" ++ toString i
  matchingRules := rr.ruleMatches.getD []
  filters := rr.filters.getD []
  filterBackends := (rr.filters.getD []).filterMap fun filter =>
    filter.requestMirror.map (Backend.ofMirror r.resourceKey.ns)
  backends := (rr.backendRefs.getD []).map (Backend.ofHttpReference r.resourceKey.ns)

/-- The rule of this index of a GRPC route. -/
def GRPCRoutingRule.ofKube (r : GRPCRoute) (i : Nat) (rr : KubeRouteRule GrpcRouteMatch GrpcRouteFilter) :
    GRPCRoutingRule where
  name := r.metadata.nameAny ++ "-" ++ toString i
  matchingRules := rr.ruleMatches.getD []
  filters := rr.filters.getD []
  filterBackends := (rr.filters.getD []).filterMap fun filter =>
    filter.requestMirror.map (Backend.ofMirror r.resourceKey.ns)
  backends := (rr.backendRefs.getD []).map (Backend.ofGrpcReference r.resourceKey.ns)

/-- The status of a route before it is resolved. -/
def ResolutionStatus.ofBackends (backends : List Backend) : ResolutionStatus :=
  if ∃ b ∈ backends, b.IsInvalid then .notResolved .invalidBackend else .notResolved .unknown

namespace Route

variable (isIpAddr : String → Bool)

/-- The hostnames of a route; `isIpAddr` says which ones parse as IP addresses. -/
def hostnamesOf (hostnames : Option (List String)) : List String :=
  match hostnames with
  | some hostnames => hostnames.filter fun hostname => !isIpAddr hostname
  | none => [DEFAULT_ROUTE_HOSTNAME]

/-- `Route::try_from(&HTTPRoute)`. -/
def ofHTTPRoute (r : HTTPRoute) : Route :=
  let rules := (r.spec.rules.getD []).mapIdx (HTTPRoutingRule.ofKube r)
  { resourceKey := r.resourceKey
    parents := r.spec.parentRefs
    hostnames := hostnamesOf isIpAddr r.spec.hostnames
    resolutionStatus := .ofBackends (rules.flatMap fun rule => rule.filterBackends ++ rule.backends)
    routeType := .http rules }

/-- `Route::try_from(&GRPCRoute)`. -/
def ofGRPCRoute (r : GRPCRoute) : Route :=
  let rules := (r.spec.rules.getD []).mapIdx (GRPCRoutingRule.ofKube r)
  { resourceKey := r.resourceKey
    parents := r.spec.parentRefs
    hostnames := hostnamesOf isIpAddr r.spec.hostnames
    resolutionStatus := .ofBackends (rules.flatMap fun rule => rule.filterBackends ++ rule.backends)
    routeType := .grpc rules }

end Route

/-- What does not depend on a rule's place in the route. -/
theorem map_mapIdx {α β γ : Type} {f : Nat → α → β} {g : β → γ} {h : α → γ} (hgh : ∀ i a, g (f i a) = h a)
    (l : List α) : (l.mapIdx f).map g = l.map h := by
  induction l generalizing f with
  | nil => rfl
  | cons a l ih => rw [List.mapIdx_cons, List.map_cons, List.map_cons, hgh, ih fun i a => hgh (i + 1) a]

theorem flatMap_mapIdx {α β γ : Type} {f : Nat → α → β} {g : β → List γ} {h : α → List γ}
    (hgh : ∀ i a, g (f i a) = h a) (l : List α) : (l.mapIdx f).flatMap g = l.flatMap h := by
  rw [List.flatMap_def, map_mapIdx hgh, ← List.flatMap_def]

/-- The backends of a converted route are those its references name. -/
theorem Route.backends_ofHTTPRoute (isIpAddr : String → Bool) (r : HTTPRoute) :
    (ofHTTPRoute isIpAddr r).backends = (r.spec.rules.getD []).flatMap fun rr =>
      (rr.backendRefs.getD []).map (Backend.ofHttpReference r.resourceKey.ns) := by
  simp only [backends, ofHTTPRoute]
  apply flatMap_mapIdx
  exact fun _ _ => rfl

end Kubvernor
