import Kubvernor.Agentgateway.ResourceNames

/-!
# Where the backends of routes lead

A route refers to its Service backends by namespace and name, in whatever state they are. The resources these
references lead to are made for resolved backends alone, but they are collected for the whole gateway under the
same keys: of several that are offered for one key the last one is kept. So a reference leads where it should
exactly if its backend is resolved whenever some rule offers a resource of its key, and is like the last one
offered (`backends_faithful_iff`).
-/

namespace Kubvernor.Agentgateway

/-- The configuration of a backend that a route refers to by its key: a Service, unless it is not looked at yet. -/
def referredService : Backend → Option ServiceTypeConfig
  | .resolved (.service config) | .invalid (.service config) | .notAllowed (.service config)
  | .unresolved (.service config) => some config
  | _ => none

/-- What a resolved Service offers. -/
def serviceOffer (key : String) : Backend → Option Api.StaticBackend
  | .resolved (.service config) =>
    if backendKey config.resourceKey = key then some { host := config.endpoint, port := config.effectivePort } else none
  | _ => none

namespace AttachedRule

variable (r : AttachedRule) (key : String)

/-- What the endpoint pickers of the route offer under a key. -/
def pickerOffers : List Api.StaticBackend :=
  r.inferenceExtensionConfigurations.filterMap fun p =>
    if "epp-backend-" ++ p.1 = key then
      p.2.2.inferenceConfig.map fun spec =>
        { host := spec.endpointPickerRef.name ++ "." ++ p.2.2.resourceKey.ns
          port := spec.endpointPickerRef.port.getD EPP_DEFAULT_PORT }
    else none

/-- The hosts and ports a rule offers under a key: its resolved Services, those of its mirrors, and the endpoint
pickers of its route. -/
def offers : List Api.StaticBackend :=
  (r.routingRule.backends ++ r.routingRule.filterBackends).filterMap (serviceOffer key) ++ r.pickerOffers key

/-- They are what is collected under the key. -/
theorem offers_eq : (r.backends.filterMap fun p => if p.1 = key then some p.2 else none).map (·.kind) =
    r.offers key := by
  unfold backends offers
  rw [List.filterMap_append, List.map_append]
  congr 1
  · rw [List.filterMap_flatMap, List.map_flatMap, List.filterMap_eq_flatMap_toList]
    congr 1
    funext b
    cases b with
    | resolved t =>
      cases t with
      | service config =>
        simp only [createBackends, serviceOffer, List.filterMap_cons, List.filterMap_nil]
        split_ifs <;> rfl
      | inferencePool config | invalid config => rfl
    | unresolved t | notAllowed t | maybe t | invalid t => rfl
  · unfold eppBackends pickerOffers
    rw [List.filterMap_filterMap, List.map_filterMap]
    congr 1
    funext p
    unfold createInferencePolicies
    cases p.2.2.inferenceConfig with
    | none => simp
    | some spec => simp only [Option.map_some, Option.bind_some]; split_ifs <;> rfl

end AttachedRule

/-- What the rules of a gateway offer under a key, in the order of the rounds. -/
def offers (gateway : Gateway) (key : String) : List Api.StaticBackend :=
  (attachedRules gateway).flatMap (·.offers key)

variable {gateway : Gateway} {methodJson : HTTPMethod → Option String} {parseIpAddr : String → Option (List UInt8)}

/-- The resource of a key has the host and the port that are offered last. -/
theorem generated_backend_iff (methodJson : HTTPMethod → Option String) (parseIpAddr : String → Option (List UInt8))
    {key : String} {served : Api.StaticBackend} :
    (∃ resource ∈ (generateRoutesAndBackendsAndPolicies methodJson parseIpAddr gateway).2.1, resource.key = key ∧
      resource.kind = served) ↔ (offers gateway key).getLast? = some served := by
  set collected := (attachedRules gateway).flatMap (·.backends) with hcollected
  have hkeys (k : String) (b : Api.Backend) (hb : (Std.ExtTreeMap.ofList collected)[k]? = some b) : b.key = k := by
    obtain ⟨r, -, hr⟩ := List.mem_flatMap.1 (Lib.mem_of_getElem?_ofList hb)
    exact AttachedRule.backends_key hr
  have hoffers : offers gateway key =
      (collected.filterMap fun p => if p.1 = key then some p.2 else none).map (·.kind) := by
    rw [hcollected, List.filterMap_flatMap, List.map_flatMap]
    unfold offers
    congr 1
    funext r
    exact (r.offers_eq key).symm
  rw [hoffers, List.getLast?_map, ← Lib.getElem?_ofList_eq_getLast?, Option.map_eq_some_iff]
  constructor
  · rintro ⟨resource, hresource, rfl, rfl⟩
    exact ⟨resource, (Lib.mem_values_of_key hkeys).1 hresource, rfl⟩
  · rintro ⟨resource, hresource, rfl⟩
    obtain rfl := hkeys key resource hresource
    exact ⟨resource, (Lib.mem_values_of_key hkeys).2 hresource, rfl, rfl⟩

/-! ## Faithful references -/

/-- A reference to a generated resource comes from a resolved Service backend, and the resource has its endpoint and
its effective port. -/
def BackendsFaithful (methodJson : HTTPMethod → Option String) (parseIpAddr : String → Option (List UInt8))
    (gateway : Gateway) : Prop :=
  ∀ r ∈ attachedRules gateway, ∀ b ∈ r.routingRule.backends, ∀ routeBackend, createRouteBackend b = some routeBackend →
    ∀ resource ∈ (generateRoutesAndBackendsAndPolicies methodJson parseIpAddr gateway).2.1,
      routeBackend.backend.kind = .backend resource.key →
      ∃ config, b = .resolved (.service config) ∧
        resource.kind = { host := config.endpoint, port := config.effectivePort }

/-- A Service of a rule for whose key something is offered is resolved, and like the last that is offered. -/
def LikeLastOffer (gateway : Gateway) : Prop :=
  ∀ r ∈ attachedRules gateway, ∀ b ∈ r.routingRule.backends, ∀ config, referredService b = some config →
    ∀ served, (offers gateway (backendKey config.resourceKey)).getLast? = some served →
      b = .resolved (.service config) ∧ served = { host := config.endpoint, port := config.effectivePort }

/-- What a backend refers to by a key. -/
theorem createRouteBackend_backend_iff {b : Backend} {key : String} :
    (∃ routeBackend, createRouteBackend b = some routeBackend ∧ routeBackend.backend.kind = .backend key) ↔
      ∃ config, referredService b = some config ∧ backendKey config.resourceKey = key := by
  cases b with
  | resolved t | invalid t | notAllowed t | unresolved t => cases t <;> simp [createRouteBackend, referredService]
  | maybe t => simp [createRouteBackend, referredService]

/-- **References lead where they should** exactly if every Service that is referred to is resolved and like the last one
offered for its key, wherever one is offered. -/
theorem backends_faithful_iff : BackendsFaithful methodJson parseIpAddr gateway ↔ LikeLastOffer gateway := by
  constructor
  · intro hfaithful r hr b hb config hconfig served hserved
    obtain ⟨resource, hresource, hkey, rfl⟩ := (generated_backend_iff methodJson parseIpAddr).2 hserved
    obtain ⟨routeBackend, hrouteBackend, hkind⟩ := createRouteBackend_backend_iff.2 ⟨config, hconfig, hkey.symm⟩
    obtain ⟨config', rfl, hkind'⟩ := hfaithful r hr b hb routeBackend hrouteBackend resource hresource hkind
    obtain rfl : config' = config := Option.some.inj hconfig
    exact ⟨rfl, hkind'⟩
  · intro hlike r hr b hb routeBackend hrouteBackend resource hresource hkind
    obtain ⟨config, hconfig, hkey⟩ := createRouteBackend_backend_iff.1 ⟨routeBackend, hrouteBackend, hkind⟩
    have hserved := (generated_backend_iff methodJson parseIpAddr).1 ⟨resource, hresource, hkey.symm, rfl⟩
    exact ⟨config, hlike r hr b hb config hconfig resource.kind hserved⟩

/-! ## A Service that is not allowed -/

def paymentsService : ServiceTypeConfig where
  resourceKey := { ns := "shop", name := "payments", kind := "Service" }
  endpoint := "payments.shop"
  port := 80
  effectivePort := 80

/-- A route of a namespace with one rule for the backend. -/
def routeWithBackend (ns name : String) (b : Backend) : Route where
  resourceKey := { ns := ns, name := name, kind := "HTTPRoute" }
  routeType := .http [{ name := name ++ "-0", backends := [b] }]

/-- Two routes refer to one Service: the first one may, and the second one may not. -/
def sharedServiceListener : Listener where
  protocol := .http
  data :=
    { config := { name := "http", port := 80 }
      resolvedRoutes := .ofRoutes [routeWithBackend "shop" "checkout" (.resolved (.service paymentsService))]
      unresolvedRoutes := .ofRoutes [routeWithBackend "guest" "visit" (.notAllowed (.service paymentsService))] }

def sharedServiceGateway : Gateway where
  id := 1
  resourceKey := { name := "edge" }
  backendType := .agentgateway
  listeners := .ofList [("http", sharedServiceListener)]

/-- **The route that may not use the Service refers to the resource** that is made for the other one. -/
theorem sharedServiceGateway_not_faithful :
    (∃ r ∈ attachedRules sharedServiceGateway, ∃ b ∈ r.routingRule.backends,
      b = .notAllowed (.service paymentsService) ∧
      ∃ resource ∈ (generateRoutesAndBackendsAndPolicies quotedMethod (fun _ => none) sharedServiceGateway).2.1,
        (createRouteBackend b).map (·.backend.kind) = some (.backend resource.key)) ∧
    ¬ BackendsFaithful quotedMethod (fun _ => none) sharedServiceGateway := by
  have hserved : ∃ r ∈ attachedRules sharedServiceGateway, ∃ b ∈ r.routingRule.backends,
      b = .notAllowed (.service paymentsService) ∧
      ∃ resource ∈ (generateRoutesAndBackendsAndPolicies quotedMethod (fun _ => none) sharedServiceGateway).2.1,
        (createRouteBackend b).map (·.backend.kind) = some (.backend resource.key) := by decide +kernel
  refine ⟨hserved, fun hfaithful => ?_⟩
  obtain ⟨r, hr, b, hb, rfl, resource, hresource, hkind⟩ := hserved
  obtain ⟨routeBackend, hrouteBackend, hkind⟩ := Option.map_eq_some_iff.1 hkind
  obtain ⟨config, hresolved, -⟩ := hfaithful r hr _ hb routeBackend hrouteBackend resource hresource hkind
  cases hresolved

end Kubvernor.Agentgateway
