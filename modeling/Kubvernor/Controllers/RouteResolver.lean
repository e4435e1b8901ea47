import Kubvernor.Common.Route
import Kubvernor.References.Grants
import Kubvernor.References.MultiReferences
import Kubvernor.State.InMemory

/-!
# Resolving the backends of a route

`RouteResolver` takes every backend of every rule of a route from `maybe` to `resolved`,
`unresolved` or `notAllowed`. What it reads of the cluster (the Service and Pod objects, the answer
to a status patch) is given by `Api`; the pools it saves on the way go to `State`.

A backend may be reached if it is authorised: it lives in the namespace of its route, or a grant
allows the reference. `lawful_iff` says that the resolver keeps to this exactly when the gateway
lives in the route's namespace too, or the backend is authorised anyway.
-/

namespace Kubvernor

/-- What the API server answers. -/
structure Api where
  /-- whether a Service of this namespace and name can be fetched -/
  getService : String → String → Bool
  /-- the IPs of the Pods of a namespace with these labels -/
  listPodIPs : String → List (String × String) → List String
  /-- whether patching the status of the pool of this key succeeds -/
  patchStatus : ResourceKey → InferencePool → Bool

structure RouteResolver where
  api : Api
  gatewayResourceKey : GatewayKey
  services : MultiReferencesResolver Service := {}
  inferencePools : MultiReferencesResolver InferencePool := {}
  referenceGrantsResolver : ReferenceGrantsResolver := {}
  controllerName : String := ""

/-- `PermittedBackends::is_permitted`, for the namespace of a gateway. -/
def isPermitted (gatewayNamespace routeNamespace backendNamespace : String) : Bool :=
  gatewayNamespace ≠ routeNamespace || backendNamespace = gatewayNamespace

/-- `backend_remap_port`. -/
def backendRemapPort (port : Int) (service : Service) : Int :=
  match service.spec with
  | none => port
  | some spec =>
    if spec.clusterIP.any (· ≠ KUBERNETES_NONE) then port
    else
      match (spec.ports.getD []).find? fun p => p.port = port with
      | none => port
      | some servicePort =>
        match servicePort.targetPort with
        | some (.int value) => value
        | some (.string _) | none => port

def INFERENCE_POOL_CONDITION_MESSAGE : String := "Inference Pool status updated by controller"

/-- `update_inference_pool_parents`. -/
def updateInferencePoolParents (controllerName : String) (gateways : List GatewayKey)
    (pool : InferencePool) (resolvedEndpointPicker : Bool) : InferencePool :=
  let accepted : Condition :=
    { type := "Accepted", status := "True", reason := "Accepted"
      message := INFERENCE_POOL_CONDITION_MESSAGE, observedGeneration := pool.metadata.generation }
  let resolvedRefs : Condition :=
    { type := "ResolvedRefs", status := if resolvedEndpointPicker then "True" else "False"
      reason := "ResolvedRefs", message := INFERENCE_POOL_CONDITION_MESSAGE }
  let parents := gateways.map fun gateway =>
    { name := gateway.name, ns := some gateway.ns, kind := some "Gateway"
      controllerName := some controllerName, conditions := some [accepted, resolvedRefs] }
  { pool with parents := some parents }

namespace RouteResolver

variable (self : RouteResolver)

/-- `get_inference_extension`. -/
def getInferenceExtension (ns : String) (spec : InferencePoolSpec) : Bool :=
  self.api.getService ns spec.endpointPickerRef.name

/-- Whether the endpoint picker of a pool is found; only Services are looked for. -/
def resolvedEndpointPicker (ns : String) (spec : InferencePoolSpec) : Bool :=
  match spec.endpointPickerRef.kind with
  | none => self.getInferenceExtension ns spec
  | some kind => if kind = "Service" then self.getInferenceExtension ns spec else false

/-- `process_service_backend`. -/
def processServiceBackend (routeResourceKey : RouteKey) (backend : Backend) : Backend × ResolutionStatus :=
  match backend with
  | .maybe (.service config) | .maybe (.invalid config) =>
    let referenceGrantAllowed := self.referenceGrantsResolver.isAllowed routeResourceKey
      config.resourceKey self.gatewayResourceKey
    if referenceGrantAllowed ||
        isPermitted self.gatewayResourceKey.ns routeResourceKey.ns config.resourceKey.ns then
      match self.services.getReference config.resourceKey with
      | some service =>
        (.resolved (.service { config with effectivePort := backendRemapPort config.port service }), .resolved)
      | none => (.unresolved (.service config), .notResolved .backendNotFound)
    else (.notAllowed (.service config), .notResolved .refNotPermitted)
  | .unresolved _ | .notAllowed _ | .invalid _ => (backend, .notResolved .invalidBackend)
  | .maybe _ => (backend, .notResolved .invalidBackend)
  | .resolved _ => (backend, .resolved)

/-- The pool a backend resolves to, with the configuration taken from it and the pool to be saved. -/
def resolvePool (state : State) (routeResourceKey : RouteKey) (config : InferencePoolTypeConfig)
    (fetched : InferencePool) : InferencePoolTypeConfig × InferencePool :=
  let pool := (state.getInferencePool fetched.resourceKey).getD fetched
  let modelEndpoints := self.api.listPodIPs routeResourceKey.ns pool.spec.matchLabels
  ({ config with
      inferenceConfig := some pool.spec
      targetPorts := pool.spec.targetPorts
      endpoints := some modelEndpoints },
    updateInferencePoolParents self.controllerName (state.findGatewaysByInferencePool fetched.resourceKey)
      pool (self.resolvedEndpointPicker routeResourceKey.ns pool.spec))

/-- `process_inference_pool_backend`, with the state it leaves behind. -/
def processInferencePoolBackend (state : State) (routeResourceKey : RouteKey) (backend : Backend) :
    (Backend × ResolutionStatus) × State :=
  match backend with
  | .maybe (.inferencePool config) =>
    if isPermitted self.gatewayResourceKey.ns routeResourceKey.ns config.resourceKey.ns then
      match self.inferencePools.getReference config.resourceKey with
      | some fetched =>
        let (config, pool) := self.resolvePool state routeResourceKey config fetched
        if pool.metadata.name.isSome then
          let state := state.saveInferencePool fetched.resourceKey pool
          if self.api.patchStatus fetched.resourceKey pool then
            ((.resolved (.inferencePool config), .resolved), state)
          else ((.unresolved (.inferencePool config), .notResolved .backendNotFound), state)
        else ((.unresolved (.inferencePool config), .notResolved .backendNotFound), state)
      | none => ((.unresolved (.inferencePool config), .notResolved .backendNotFound), state)
    else ((.notAllowed (.inferencePool config), .notResolved .refNotPermitted), state)
  | .unresolved _ | .notAllowed _ | .invalid _ => ((backend, .notResolved .invalidBackend), state)
  | .maybe _ => ((backend, .notResolved .invalidBackend), state)
  | .resolved _ => ((backend, .resolved), state)

/-- How `process_backends` treats one backend: by the type of what it refers to. -/
def processBackend (state : State) (routeResourceKey : RouteKey) (backend : Backend) :
    (Backend × ResolutionStatus) × State :=
  match backend.backendType with
  | .service _ | .invalid _ => (self.processServiceBackend routeResourceKey backend, state)
  | .inferencePool _ => self.processInferencePoolBackend state routeResourceKey backend

/-- The loop over some backends: the new backends, the status of the last one that did not resolve,
and the state. -/
def processEach (routeResourceKey : RouteKey) :
    List Backend → State → (List Backend × ResolutionStatus) × State
  | [], state => (([], .resolved), state)
  | b :: bs, state =>
    let ((backend, status), state) := self.processBackend state routeResourceKey b
    let ((backends, rest), state) := processEach routeResourceKey bs state
    ((backend :: backends, if rest = .resolved then status else rest), state)

/-- `process_backends`: first the Services, then the pools. -/
def processBackends (routeResourceKey : RouteKey) (backends : List Backend) (state : State) :
    (List Backend × ResolutionStatus) × State :=
  let isPool (b : Backend) : Bool := match b.backendType with
    | .inferencePool _ => true
    | .service _ | .invalid _ => false
  self.processEach routeResourceKey (backends.filter (fun b => !isPool b) ++ backends.filter isPool) state

/-- A route's status after one more group of backends. -/
def mergeStatus (status new : ResolutionStatus) : ResolutionStatus := if new = .resolved then status else new

def resolveHttpRules (routeResourceKey : RouteKey) :
    List HTTPRoutingRule → ResolutionStatus → State → (List HTTPRoutingRule × ResolutionStatus) × State
  | [], status, state => (([], status), state)
  | rule :: rules, status, state =>
    let ((backends, s₁), state) := self.processBackends routeResourceKey rule.backends state
    let ((filterBackends, s₂), state) := self.processBackends routeResourceKey rule.filterBackends state
    let ((rules, status), state) :=
      resolveHttpRules routeResourceKey rules (mergeStatus (mergeStatus status s₁) s₂) state
    (({ rule with backends := backends, filterBackends := filterBackends } :: rules, status), state)

def resolveGrpcRules (routeResourceKey : RouteKey) :
    List GRPCRoutingRule → ResolutionStatus → State → (List GRPCRoutingRule × ResolutionStatus) × State
  | [], status, state => (([], status), state)
  | rule :: rules, status, state =>
    let ((backends, s₁), state) := self.processBackends routeResourceKey rule.backends state
    let ((rules, status), state) :=
      resolveGrpcRules routeResourceKey rules (mergeStatus status s₁) state
    (({ rule with backends := backends } :: rules, status), state)

/-- `RouteResolver::resolve`, with the state it leaves behind. -/
def resolve (route : Route) (state : State) : Route × State :=
  match route.routeType with
  | .http rules =>
    let ((rules, status), state) := self.resolveHttpRules route.resourceKey rules .resolved state
    ({ route with routeType := .http rules, resolutionStatus := status }, state)
  | .grpc rules =>
    let ((rules, status), state) := self.resolveGrpcRules route.resourceKey rules .resolved state
    ({ route with routeType := .grpc rules, resolutionStatus := status }, state)

/-! ## Authorisation -/

variable {self} {state : State} {routeKey : RouteKey} {t : BackendType}

/-- The backend lives in its route's namespace, or a grant allows the reference. -/
def Authorised (self : RouteResolver) (routeKey : RouteKey) (t : BackendType) : Prop :=
  t.resourceKey.ns = routeKey.ns ∨
    self.referenceGrantsResolver.isAllowed routeKey t.resourceKey self.gatewayResourceKey = true

/-- What a resolver owes to namespaces and grants when it has processed a backend: only an
authorised one is resolved, any other is not allowed, and one of the route's own namespace never is. -/
structure Lawful (resolver : RouteResolver) (routeKey : RouteKey) (t : BackendType)
    (result : Backend × ResolutionStatus) : Prop where
  resolved : result.1.IsResolved → resolver.Authorised routeKey t
  otherwise : ¬ resolver.Authorised routeKey t →
    result.1.IsNotAllowed ∧ result.2 = .notResolved .refNotPermitted
  same_namespace : t.resourceKey.ns = routeKey.ns → ¬ result.1.IsNotAllowed

theorem isPermitted_iff {gw route backend : String} :
    isPermitted gw route backend = true ↔ gw = route → backend = route := by
  simp only [isPermitted, Bool.or_eq_true, decide_eq_true_eq]
  by_cases h : gw = route
  · simp [h]
  · simp [h]

/-- Whether a backend gets past the guard of its path: pools are not checked for grants. -/
def Permitted (self : RouteResolver) (routeKey : RouteKey) (t : BackendType) : Prop :=
  isPermitted self.gatewayResourceKey.ns routeKey.ns t.resourceKey.ns = true ∨
    match t with
    | .service c | .invalid c =>
      self.referenceGrantsResolver.isAllowed routeKey c.resourceKey self.gatewayResourceKey = true
    | .inferencePool _ => False

theorem processServiceBackend_spec (self : RouteResolver) (routeKey : RouteKey) {t : BackendType}
    {c : ServiceTypeConfig} (ht : t = .service c ∨ t = .invalid c) :
    (self.Permitted routeKey t ∧ ¬ (self.processServiceBackend routeKey (.maybe t)).1.IsNotAllowed) ∨
      (¬ self.Permitted routeKey t ∧ (self.processServiceBackend routeKey (.maybe t)).1.IsNotAllowed ∧
        (self.processServiceBackend routeKey (.maybe t)).2 = .notResolved .refNotPermitted) := by
  have hperm : self.Permitted routeKey t ↔
      (self.referenceGrantsResolver.isAllowed routeKey c.resourceKey self.gatewayResourceKey ||
        isPermitted self.gatewayResourceKey.ns routeKey.ns c.resourceKey.ns) = true := by
    rcases ht with rfl | rfl <;> simp only [Permitted, BackendType.resourceKey, Bool.or_eq_true, or_comm]
  rw [hperm]
  rcases ht with rfl | rfl
  all_goals
    simp only [processServiceBackend]
    split
    · left
      split <;> simp [*, Backend.IsNotAllowed]
    · right
      simp [*, Backend.IsNotAllowed]

theorem processInferencePoolBackend_spec (self : RouteResolver) (state : State) (routeKey : RouteKey)
    (c : InferencePoolTypeConfig) :
    let result := (self.processInferencePoolBackend state routeKey (.maybe (.inferencePool c))).1
    (self.Permitted routeKey (.inferencePool c) ∧ ¬ result.1.IsNotAllowed) ∨
      (¬ self.Permitted routeKey (.inferencePool c) ∧ result.1.IsNotAllowed ∧
        result.2 = .notResolved .refNotPermitted) := by
  simp only [processInferencePoolBackend, Permitted, BackendType.resourceKey, or_false]
  split
  · refine .inl ⟨by assumption, ?_⟩
    split
    · split
      · split <;> exact id
      · exact id
    · exact id
  · exact .inr ⟨by assumption, trivial, rfl⟩

/-- **What processing a backend does.** A permitted one becomes resolved or unresolved, any other
is not allowed. -/
theorem processBackend_spec (self : RouteResolver) (state : State) (routeKey : RouteKey) (t : BackendType) :
    let result := (self.processBackend state routeKey (.maybe t)).1
    (self.Permitted routeKey t ∧ ¬ result.1.IsNotAllowed) ∨
      (¬ self.Permitted routeKey t ∧ result.1.IsNotAllowed ∧ result.2 = .notResolved .refNotPermitted) := by
  cases t with
  | service c => exact self.processServiceBackend_spec routeKey (.inl rfl)
  | invalid c => exact self.processServiceBackend_spec routeKey (.inr rfl)
  | inferencePool c => exact self.processInferencePoolBackend_spec state routeKey c

theorem permitted_of_same_namespace (h : t.resourceKey.ns = routeKey.ns) : self.Permitted routeKey t :=
  .inl (isPermitted_iff.2 fun _ => h)

/-- With the gateway in the route's namespace, only authorised backends are permitted. -/
theorem authorised_of_permitted (hns : self.gatewayResourceKey.ns = routeKey.ns)
    (h : self.Permitted routeKey t) : self.Authorised routeKey t := by
  rcases h with h | h
  · exact .inl (isPermitted_iff.1 h hns)
  · cases t with
    | service c => exact .inr h
    | invalid c => exact .inr h
    | inferencePool c => exact h.elim

/-- With the gateway in another namespace than the route, every backend is permitted. -/
theorem permitted_of_ne (hns : self.gatewayResourceKey.ns ≠ routeKey.ns) : self.Permitted routeKey t :=
  .inl (isPermitted_iff.2 fun h => absurd h hns)

/-- **When cross-namespace authorisation holds.** The resolver is lawful on a backend exactly when
its gateway lives in the route's namespace or the backend is authorised. -/
theorem lawful_iff (self : RouteResolver) (state : State) (routeKey : RouteKey) (t : BackendType) :
    self.Lawful routeKey t (self.processBackend state routeKey (.maybe t)).1 ↔
      self.gatewayResourceKey.ns = routeKey.ns ∨ self.Authorised routeKey t := by
  rcases self.processBackend_spec state routeKey t with ⟨hperm, hres⟩ | ⟨hperm, hres, hstatus⟩
  · constructor
    · intro h
      by_contra hn
      exact hres (h.otherwise (not_or.1 hn).2).1
    · intro h
      have hauth : self.Authorised routeKey t := h.elim (authorised_of_permitted · hperm) id
      exact ⟨fun _ => hauth, fun hn => absurd hauth hn, fun _ => hres⟩
  · constructor
    · intro _
      by_contra hn
      exact hperm (permitted_of_ne (not_or.1 hn).1)
    · intro _
      refine ⟨fun h => ?_, fun _ => ⟨hres, hstatus⟩, fun h => absurd (permitted_of_same_namespace h) hperm⟩
      revert h hres
      cases (self.processBackend state routeKey (.maybe t)).1.1 <;> simp [Backend.IsResolved, Backend.IsNotAllowed]

end RouteResolver

/-- A gateway of namespace `infra` with a route of namespace `apps` that refers to a Service of
namespace `secrets`, which exists; there is no grant. -/
def crossNamespaceResolver : RouteResolver where
  api := { getService := fun _ _ => false, listPodIPs := fun _ _ => [], patchStatus := fun _ _ => false }
  gatewayResourceKey := .namespaced "gateway" "infra"
  services := { references := { resolvedReferences :=
    (∅ : Std.ExtTreeMap ReferenceKey Service).insert { ns := "secrets", name := "vault", kind := "Service" } {} } }

def crossNamespaceRoute : RouteKey := { ns := "apps", name := "route", kind := "HTTPRoute" }

def crossNamespaceBackend : BackendType :=
  .service { resourceKey := { ns := "secrets", name := "vault", kind := "Service" }, port := 80 }

/-- The Service is resolved without a grant. -/
theorem crossNamespaceBackend_resolved :
    (crossNamespaceResolver.processBackend {} crossNamespaceRoute (.maybe crossNamespaceBackend)).1.1.IsResolved ∧
      ¬ crossNamespaceResolver.Authorised crossNamespaceRoute crossNamespaceBackend ∧
      ¬ crossNamespaceResolver.Lawful crossNamespaceRoute crossNamespaceBackend
        (crossNamespaceResolver.processBackend {} crossNamespaceRoute (.maybe crossNamespaceBackend)).1 := by
  have hres : (crossNamespaceResolver.processBackend {} crossNamespaceRoute
      (.maybe crossNamespaceBackend)).1.1.IsResolved := by decide
  have hauth : ¬ crossNamespaceResolver.Authorised crossNamespaceRoute crossNamespaceBackend := by
    rw [RouteResolver.Authorised, not_or]
    exact ⟨by decide, by decide⟩
  exact ⟨hres, hauth, fun h => hauth (h.resolved hres)⟩

end Kubvernor
