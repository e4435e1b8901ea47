import Kubvernor.Controllers.RouteResolver
import Kubvernor.References.GrantTracking

/-!
# The references the grants resolver is asked about

While a gateway is processed, the grants resolver is asked about every Service that a rule or a mirror
filter of a linked HTTP route refers to, or a rule of a linked GRPC route, and about every certificate
(`RouteResolver.resolve_congr` and `validate_congr` say that nothing else it knows matters). The search
for the references to track leaves out the mirror filters: only if a rule backend also refers to what a
mirror filter refers to is its reference tracked (`queries_tracked_iff`).
-/

namespace Kubvernor

/-- A call of `is_allowed`. -/
structure GrantQuery where
  sender : ResourceKey
  target : ResourceKey
  gatewayKey : GatewayKey
deriving DecidableEq

/-- The reference that answers a call. -/
def GrantQuery.reference (q : GrantQuery) : ReferenceGrantRef := .ofKeys q.sender q.target q.gatewayKey

/-- Two resolvers answer the same. -/
def SameAnswers (s s' : ReferenceGrantsResolver) (queries : List GrantQuery) : Prop :=
  ∀ q ∈ queries, s.isAllowed q.sender q.target q.gatewayKey = s'.isAllowed q.sender q.target q.gatewayKey

theorem SameAnswers.append {s s' : ReferenceGrantsResolver} {l l' : List GrantQuery} :
    SameAnswers s s' (l ++ l') ↔ SameAnswers s s' l ∧ SameAnswers s s' l' := by
  simp only [SameAnswers, List.mem_append, or_imp, forall_and]

/-! ## Backends -/

namespace RouteResolver

variable (gatewayKey : GatewayKey) (routeKey : RouteKey)

/-- The calls of `process_service_backend`. -/
def serviceBackendQueries (backend : Backend) : List GrantQuery :=
  match backend with
  | .maybe (.service config) | .maybe (.invalid config) => [⟨routeKey, config.resourceKey, gatewayKey⟩]
  | .maybe (.inferencePool _) | .resolved _ | .unresolved _ | .notAllowed _ | .invalid _ => []

/-- Those for one backend: pools are not asked about. -/
def backendQueries (backend : Backend) : List GrantQuery :=
  match backend.backendType with
  | .service _ | .invalid _ => serviceBackendQueries gatewayKey routeKey backend
  | .inferencePool _ => []

/-- Those of `process_backends`. -/
def backendsQueries (backends : List Backend) : List GrantQuery :=
  let isPool (b : Backend) : Bool := match b.backendType with
    | .inferencePool _ => true
    | .service _ | .invalid _ => false
  (backends.filter (fun b => !isPool b) ++ backends.filter isPool).flatMap (backendQueries gatewayKey routeKey)

/-- Those of `resolve`. -/
def queries (route : Route) : List GrantQuery :=
  match route.routeType with
  | .http rules =>
    rules.flatMap fun rule =>
      backendsQueries gatewayKey route.resourceKey rule.backends ++
        backendsQueries gatewayKey route.resourceKey rule.filterBackends
  | .grpc rules => rules.flatMap fun rule => backendsQueries gatewayKey route.resourceKey rule.backends

variable {gatewayKey routeKey} {self : RouteResolver} {grants : ReferenceGrantsResolver} {backend : Backend}
  {backends : List Backend}

theorem processServiceBackend_congr
    (h : SameAnswers grants self.referenceGrantsResolver
      (serviceBackendQueries self.gatewayResourceKey routeKey backend)) :
    { self with referenceGrantsResolver := grants }.processServiceBackend routeKey backend =
      self.processServiceBackend routeKey backend := by
  cases backend with
  | maybe t =>
    cases t with
    | service config | invalid config =>
      have hallowed := h ⟨routeKey, config.resourceKey, self.gatewayResourceKey⟩ (List.mem_singleton_self _)
      simp only [processServiceBackend, hallowed]
    | inferencePool => rfl
  | resolved | unresolved | notAllowed | invalid => rfl

theorem processBackend_congr {state : State}
    (h : SameAnswers grants self.referenceGrantsResolver (backendQueries self.gatewayResourceKey routeKey backend)) :
    { self with referenceGrantsResolver := grants }.processBackend state routeKey backend =
      self.processBackend state routeKey backend := by
  unfold processBackend
  unfold backendQueries at h
  cases htype : backend.backendType with
  | service | invalid =>
    rw [htype] at h
    simp only
    rw [processServiceBackend_congr h]
  | inferencePool => rfl

theorem processEach_congr {state : State}
    (h : SameAnswers grants self.referenceGrantsResolver
      (backends.flatMap (backendQueries self.gatewayResourceKey routeKey))) :
    { self with referenceGrantsResolver := grants }.processEach routeKey backends state =
      self.processEach routeKey backends state := by
  induction backends generalizing state with
  | nil => rfl
  | cons b bs ih =>
    rw [List.flatMap_cons, SameAnswers.append] at h
    simp only [processEach, processBackend_congr h.1, ih h.2]

theorem processBackends_congr {state : State}
    (h : SameAnswers grants self.referenceGrantsResolver (backendsQueries self.gatewayResourceKey routeKey backends)) :
    { self with referenceGrantsResolver := grants }.processBackends routeKey backends state =
      self.processBackends routeKey backends state :=
  processEach_congr h

theorem resolveHttpRules_congr {rules : List HTTPRoutingRule} {status : ResolutionStatus} {state : State}
    (h : SameAnswers grants self.referenceGrantsResolver (rules.flatMap fun rule =>
      backendsQueries self.gatewayResourceKey routeKey rule.backends ++
        backendsQueries self.gatewayResourceKey routeKey rule.filterBackends)) :
    { self with referenceGrantsResolver := grants }.resolveHttpRules routeKey rules status state =
      self.resolveHttpRules routeKey rules status state := by
  induction rules generalizing status state with
  | nil => rfl
  | cons rule rules ih =>
    rw [List.flatMap_cons, SameAnswers.append, SameAnswers.append] at h
    simp only [resolveHttpRules, processBackends_congr h.1.1, processBackends_congr h.1.2, ih h.2]

theorem resolveGrpcRules_congr {rules : List GRPCRoutingRule} {status : ResolutionStatus} {state : State}
    (h : SameAnswers grants self.referenceGrantsResolver (rules.flatMap fun rule =>
      backendsQueries self.gatewayResourceKey routeKey rule.backends)) :
    { self with referenceGrantsResolver := grants }.resolveGrpcRules routeKey rules status state =
      self.resolveGrpcRules routeKey rules status state := by
  induction rules generalizing status state with
  | nil => rfl
  | cons rule rules ih =>
    rw [List.flatMap_cons, SameAnswers.append] at h
    simp only [resolveGrpcRules, processBackends_congr h.1, ih h.2]

/-- **Of the grants only the answers to these calls matter** for what becomes of a route. -/
theorem resolve_congr {route : Route} {state : State}
    (h : SameAnswers grants self.referenceGrantsResolver (queries self.gatewayResourceKey route)) :
    { self with referenceGrantsResolver := grants }.resolve route state = self.resolve route state := by
  unfold resolve
  unfold queries at h
  cases htype : route.routeType with
  | http rules =>
    rw [htype] at h
    simp only
    rw [resolveHttpRules_congr h]
  | grpc rules =>
    rw [htype] at h
    simp only
    rw [resolveGrpcRules_congr h]

theorem mem_backendsQueries {q : GrantQuery} : q ∈ backendsQueries gatewayKey routeKey backends ↔
    ∃ target ∈ backends.filterMap Backend.grantTarget?, ⟨routeKey, target, gatewayKey⟩ = q := by
  have hbackend (b : Backend) : q ∈ backendQueries gatewayKey routeKey b ↔
      ∃ target, b.grantTarget? = some target ∧ ⟨routeKey, target, gatewayKey⟩ = q := by
    cases b with
    | maybe t =>
      cases t <;>
        simp [backendQueries, serviceBackendQueries, Backend.backendType, Backend.grantTarget?, eq_comm (a := q)]
    | resolved t | unresolved t | notAllowed t | invalid t =>
      cases t <;> simp [backendQueries, serviceBackendQueries, Backend.backendType, Backend.grantTarget?]
  simp only [backendsQueries, List.mem_flatMap, List.mem_append, List.mem_filter, ← and_or_left, hbackend,
    List.mem_filterMap]
  constructor
  · rintro ⟨b, ⟨hb, -⟩, target, htarget, rfl⟩
    exact ⟨target, ⟨b, hb, htarget⟩, rfl⟩
  · rintro ⟨target, ⟨b, hb, htarget⟩, rfl⟩
    refine ⟨b, ⟨hb, ?_⟩, target, htarget, rfl⟩
    cases b.backendType <;> simp

theorem mem_queries_http {route : Route} {rules : List HTTPRoutingRule} (h : route.routeType = .http rules)
    {q : GrantQuery} : q ∈ queries gatewayKey route ↔ ∃ target,
      (target ∈ route.backends.filterMap Backend.grantTarget? ∨
        target ∈ route.filterBackends.filterMap Backend.grantTarget?) ∧ ⟨route.resourceKey, target, gatewayKey⟩ = q := by
  simp only [queries, Route.backends, Route.filterBackends, h, List.mem_flatMap, List.mem_append,
    mem_backendsQueries, List.filterMap_flatMap]
  constructor
  · rintro ⟨rule, hrule, ⟨target, htarget, heq⟩ | ⟨target, htarget, heq⟩⟩
    · exact ⟨target, .inl ⟨rule, hrule, htarget⟩, heq⟩
    · exact ⟨target, .inr ⟨rule, hrule, htarget⟩, heq⟩
  · rintro ⟨target, ⟨rule, hrule, htarget⟩ | ⟨rule, hrule, htarget⟩, heq⟩
    · exact ⟨rule, hrule, .inl ⟨target, htarget, heq⟩⟩
    · exact ⟨rule, hrule, .inr ⟨target, htarget, heq⟩⟩

theorem mem_queries_grpc {route : Route} {rules : List GRPCRoutingRule} (h : route.routeType = .grpc rules)
    {q : GrantQuery} : q ∈ queries gatewayKey route ↔
      ∃ target ∈ route.backends.filterMap Backend.grantTarget?, ⟨route.resourceKey, target, gatewayKey⟩ = q := by
  simp only [queries, Route.backends, h, List.mem_flatMap, mem_backendsQueries, List.filterMap_flatMap]
  constructor
  · rintro ⟨rule, hrule, target, htarget, heq⟩
    exact ⟨target, ⟨rule, hrule, htarget⟩, heq⟩
  · rintro ⟨target, ⟨rule, hrule, htarget⟩, heq⟩
    exact ⟨rule, hrule, target, htarget, heq⟩

end RouteResolver

/-! ## Certificates -/

namespace ListenerTlsConfigValidator

/-- The calls of one round of `validate`. -/
def listenerQueries (gatewayKey : GatewayKey) (l : Listener) : List GrantQuery :=
  if l.IsTls then
    match l.data.config.tlsType with
    | some (.terminate certificates) => certificates.map fun c => ⟨gatewayKey, c.resourceKey, gatewayKey⟩
    | some .passthrough | none => []
  else []

/-- Those of `validate`. -/
def queries (g : Gateway) : List GrantQuery := g.listenerValues.flatMap (listenerQueries g.resourceKey)

/-- One call for each certificate that the gateway terminates TLS with. -/
theorem queries_eq (g : Gateway) :
    queries g = g.terminateCertificates.map fun c => ⟨g.resourceKey, c.resourceKey, g.resourceKey⟩ := by
  unfold queries Gateway.terminateCertificates
  induction g.listenerValues with
  | nil => rfl
  | cons l listeners ih =>
    rw [List.flatMap_cons, ih, List.filter_cons, listenerQueries]
    by_cases htls : l.IsTls
    · cases htype : l.data.config.tlsType with
      | none => simp [htls, Listener.certificates?, htype]
      | some t =>
        cases t with
        | passthrough => simp [htls, Listener.certificates?, htype]
        | terminate certificates => simp [htls, Listener.certificates?, htype]
    · simp [htls]

/-- Two validators find the same under a key, and are answered the same about it. -/
structure AgreesOn (v v' : ListenerTlsConfigValidator) (gatewayKey : GatewayKey) (k : ResourceKey) : Prop where
  getReference : v.getReference k = v'.getReference k
  isAllowed : v.isAllowed gatewayKey k gatewayKey = v'.isAllowed gatewayKey k gatewayKey
  certificateFromPem : v.certificateFromPem = v'.certificateFromPem
  privateKeyFromPem : v.privateKeyFromPem = v'.privateKeyFromPem

variable {v v' : ListenerTlsConfigValidator} {grants grants' : ReferenceGrantsResolver} {gatewayKey : GatewayKey}

theorem validateCertificates_congr {supportedRoutes : List String} {certificates : List Certificate}
    {conditions : ListenerConditions} (h : ∀ c ∈ certificates, v.AgreesOn v' gatewayKey c.resourceKey) :
    v.validateCertificates gatewayKey supportedRoutes certificates conditions =
      v'.validateCertificates gatewayKey supportedRoutes certificates conditions := by
  induction certificates generalizing conditions with
  | nil => rfl
  | cons c certificates ih =>
    rw [List.forall_mem_cons] at h
    have hcertificate : v.validateCertificate gatewayKey supportedRoutes c =
        v'.validateCertificate gatewayKey supportedRoutes c := by
      simp only [validateCertificate, h.1.getReference, h.1.isAllowed, h.1.certificateFromPem, h.1.privateKeyFromPem]
    simp only [validateCertificates, hcertificate, ih h.2]

theorem validateListener_congr {l : Listener}
    (h : l.IsTls → ∀ c ∈ l.certificates?.getD [], v.AgreesOn v' gatewayKey c.resourceKey) :
    v.validateListener gatewayKey l = v'.validateListener gatewayKey l := by
  unfold validateListener
  by_cases htls : l.IsTls
  · rw [if_pos htls, if_pos htls]
    cases htype : l.data.config.tlsType with
    | none => rfl
    | some t =>
      cases t with
      | passthrough => rfl
      | terminate certificates =>
        have hagree := h htls
        rw [Listener.certificates?_eq_some.2 htype, Option.getD_some] at hagree
        simp only [validateCertificates_congr hagree]
  · rw [if_neg htls, if_neg htls]

/-- **Only what is found under the keys of its certificates, and allowed for them, matters** for what becomes of
a gateway. -/
theorem validate_congr_of_agreesOn {g : Gateway}
    (h : ∀ c ∈ g.terminateCertificates, v.AgreesOn v' g.resourceKey c.resourceKey) : v.validate g = v'.validate g := by
  have hlisteners : (g.listeners.map fun _ l => v.validateListener g.resourceKey l) =
      g.listeners.map fun _ l => v'.validateListener g.resourceKey l := by
    apply Std.ExtTreeMap.ext_getElem?
    intro name
    rw [Std.ExtTreeMap.getElem?_map, Std.ExtTreeMap.getElem?_map]
    cases hl : g.listeners[name]? with
    | none => rfl
    | some l =>
      refine congrArg some (validateListener_congr fun htls c hc => h c ?_)
      exact List.mem_flatMap.2 ⟨l, List.mem_filter.2 ⟨Lib.mem_values.2 ⟨name, hl⟩, decide_eq_true htls⟩, hc⟩
  simp only [validate, hlisteners]

/-- **Of the grants only the answers to these calls matter** for what becomes of a gateway's certificates. -/
theorem validate_congr {g : Gateway} (h : SameAnswers grants grants' (queries g)) :
    { v with isAllowed := grants.isAllowed }.validate g = { v with isAllowed := grants'.isAllowed }.validate g := by
  rw [queries_eq] at h
  exact validate_congr_of_agreesOn fun c hc => ⟨rfl, h _ (List.mem_map_of_mem hc), rfl, rfl⟩

/-- All of them are tracked. -/
theorem map_reference_queries (g : Gateway) : (queries g).map GrantQuery.reference = g.grantReferences := by
  rw [queries_eq, List.map_map]
  rfl

end ListenerTlsConfigValidator

/-! ## What is tracked -/

/-- The calls of `is_allowed` while a gateway is processed. -/
def grantQueries (isIpAddr : String → Bool) (routes : RouteStores) (gateway : Gateway) : List GrantQuery :=
  (routes.findLinkedRoutes isIpAddr gateway.resourceKey).flatMap (RouteResolver.queries gateway.resourceKey) ++
    ListenerTlsConfigValidator.queries gateway

namespace HTTPRoute

/-- The keys of the Services that rules of the route refer to. -/
def backendServices (r : HTTPRoute) : List ResourceKey :=
  (r.spec.rules.getD []).flatMap fun rule =>
    ((rule.backendRefs.getD []).filter (IsServiceKind ·.kind)).map (·.resourceKey r.resourceKey.ns)

/-- The keys of the Services that its mirror filters refer to. -/
def mirrorServices (r : HTTPRoute) : List ResourceKey :=
  (r.spec.rules.getD []).flatMap fun rule =>
    (((rule.filters.getD []).filterMap (·.requestMirror)).filter (IsServiceKind ·.backendRef.kind)).map
      (·.backendRef.resourceKey r.resourceKey.ns)

end HTTPRoute

/-- The Services that mirror filters refer to are referred to by rules, too, in the same namespace. -/
def MirrorsAreBackends (attached : List HTTPRoute) : Prop :=
  ∀ r ∈ attached, ∀ k ∈ r.mirrorServices, ∃ r' ∈ attached,
    r'.resourceKey.ns = r.resourceKey.ns ∧ k ∈ r'.backendServices

section
variable {isIpAddr : String → Bool} {r r' : HTTPRoute}

theorem grantTarget?_ofHttpReference (ns : String) (br : BackendReference) :
    (Backend.ofHttpReference ns br).grantTarget? =
      if IsServiceKind br.kind then some (br.resourceKey ns) else none := by
  unfold Backend.ofHttpReference
  by_cases hkind : IsServiceKind br.kind
  · rw [if_pos hkind, if_pos hkind]
    rfl
  · rw [if_neg hkind, if_neg hkind]
    split <;> rfl

theorem grantTarget?_ofMirror (ns : String) (mirror : RequestMirror) :
    (Backend.ofMirror ns mirror).grantTarget? =
      if IsServiceKind mirror.backendRef.kind then some (mirror.backendRef.resourceKey ns) else none := by
  simp only [Backend.ofMirror]
  split <;> rfl

/-- The references of an HTTP route's backends. -/
theorem filterMap_backends_ofHTTPRoute :
    (Route.ofHTTPRoute isIpAddr r).backends.filterMap Backend.grantTarget? = r.backendServices := by
  simp only [Route.backends_ofHTTPRoute, List.filterMap_flatMap, HTTPRoute.backendServices, List.filterMap_map,
    Function.comp_def, grantTarget?_ofHttpReference]
  refine List.flatMap_congr fun rule _ => ?_
  induction rule.backendRefs.getD [] with
  | nil => rfl
  | cons br l ih => by_cases hkind : IsServiceKind br.kind <;> simp [hkind, ih]

theorem filterMap_filterBackends_ofHTTPRoute :
    (Route.ofHTTPRoute isIpAddr r).filterBackends.filterMap Backend.grantTarget? = r.mirrorServices := by
  simp only [Route.filterBackends, Route.ofHTTPRoute, List.filterMap_flatMap, HTTPRoute.mirrorServices]
  apply flatMap_mapIdx
  intro i rule
  simp only [HTTPRoutingRule.ofKube, ← List.map_filterMap, List.filterMap_map, Function.comp_def,
    grantTarget?_ofMirror]
  induction (rule.filters.getD []).filterMap (·.requestMirror) with
  | nil => rfl
  | cons mirror l ih => by_cases hkind : IsServiceKind mirror.backendRef.kind <;> simp [hkind, ih]

/-- What is asked about an HTTP route. -/
theorem mem_queries_ofHTTPRoute {gatewayKey : GatewayKey} {q : GrantQuery} :
    q ∈ RouteResolver.queries gatewayKey (Route.ofHTTPRoute isIpAddr r) ↔
      ∃ k, (k ∈ r.backendServices ∨ k ∈ r.mirrorServices) ∧ ⟨r.resourceKey, k, gatewayKey⟩ = q := by
  rw [RouteResolver.mem_queries_http rfl, filterMap_backends_ofHTTPRoute, filterMap_filterBackends_ofHTTPRoute]
  rfl

/-- What is found for it. -/
theorem mem_grantReferences_ofHTTPRoute {gatewayKey : GatewayKey} {ref : ReferenceGrantRef} :
    ref ∈ (Route.ofHTTPRoute isIpAddr r).grantReferencesOf gatewayKey (Route.ofHTTPRoute isIpAddr r).backends ↔
      ∃ k ∈ r.backendServices, .ofKeys r.resourceKey k gatewayKey = ref := by
  rw [Route.grantReferencesOf, filterMap_backends_ofHTTPRoute, List.mem_map]
  rfl

/-- A reference tells everything but the names of its sender and the group of its target. -/
theorem eq_of_ofKeys {sender sender' target target' g : ResourceKey}
    (h : ReferenceGrantRef.ofKeys sender target g = .ofKeys sender' target' g) (hgroup : target.group = target'.group) :
    sender.ns = sender'.ns ∧ sender.kind = sender'.kind ∧ target = target' := by
  obtain ⟨group, ns, name, kind⟩ := target
  obtain ⟨group', ns', name', kind'⟩ := target'
  simp only [ReferenceGrantRef.ofKeys, ReferenceGrantRef.mk.injEq, FromResourceKey.ofKey, FromResourceKey.mk.injEq,
    ToResourceKey.ofKey, ToResourceKey.mk.injEq] at h
  obtain ⟨⟨-, hns, hkind⟩, ⟨-, hname, rfl⟩, -, rfl⟩ := h
  obtain rfl : group = group' := hgroup
  refine ⟨hns, hkind, ?_⟩
  split at hname
  · next hempty =>
    split at hname
    · next hempty' => rw [hempty, hempty']
    · cases hname
  · split at hname
    · cases hname
    · rw [Option.some.inj hname]

theorem group_of_mem_backendServices {k : ResourceKey} (h : k ∈ r.backendServices) : k.group = DEFAULT_GROUP_NAME := by
  simp only [HTTPRoute.backendServices, List.mem_flatMap, List.mem_map] at h
  obtain ⟨rule, -, br, -, rfl⟩ := h
  rfl

theorem group_of_mem_mirrorServices {k : ResourceKey} (h : k ∈ r.mirrorServices) : k.group = DEFAULT_GROUP_NAME := by
  simp only [HTTPRoute.mirrorServices, List.mem_flatMap, List.mem_map] at h
  obtain ⟨rule, -, mirror, -, rfl⟩ := h
  rfl

end

section
variable {isIpAddr : String → Bool} {routes : RouteStores} {gateway : Gateway} {q : GrantQuery}

theorem mem_findLinkedRoutes {g : GatewayKey} {route : Route} : route ∈ routes.findLinkedRoutes isIpAddr g ↔
    (∃ r ∈ (routes.getHttpRoutesAttachedToGateway g).getD [], Route.ofHTTPRoute isIpAddr r = route) ∨
      ∃ r ∈ (routes.getGrpcRoutesAttachedToGateway g).getD [], Route.ofGRPCRoute isIpAddr r = route := by
  rw [RouteStores.findLinkedRoutes, List.mem_append, List.mem_map, List.mem_map]

/-- The calls about rule backends and certificates are tracked, so only those about mirror filters matter. -/
theorem tracked_iff_mirrors :
    (∀ q ∈ grantQueries isIpAddr routes gateway,
      q.reference ∈ ReferenceGrantsResolver.searchReferences isIpAddr routes gateway) ↔
    ∀ r ∈ (routes.getHttpRoutesAttachedToGateway gateway.resourceKey).getD [], ∀ k ∈ r.mirrorServices,
      .ofKeys r.resourceKey k gateway.resourceKey ∈
        ReferenceGrantsResolver.searchReferences isIpAddr routes gateway := by
  constructor
  · intro h r hr k hk
    refine h ⟨r.resourceKey, k, gateway.resourceKey⟩ (List.mem_append_left _ (List.mem_flatMap.2 ?_))
    exact ⟨_, mem_findLinkedRoutes.2 (.inl ⟨r, hr, rfl⟩), mem_queries_ofHTTPRoute.2 ⟨k, .inr hk, rfl⟩⟩
  · intro h q hq
    rw [ReferenceGrantsResolver.mem_searchReferences]
    rcases List.mem_append.1 hq with hq | hq
    · obtain ⟨route, hroute, hq⟩ := List.mem_flatMap.1 hq
      rcases mem_findLinkedRoutes.1 hroute with ⟨r, hr, rfl⟩ | ⟨r, -, rfl⟩
      · obtain ⟨k, hk | hk, rfl⟩ := mem_queries_ofHTTPRoute.1 hq
        · exact .inl ⟨_, hroute, mem_grantReferences_ofHTTPRoute.2 ⟨k, hk, rfl⟩⟩
        · exact ReferenceGrantsResolver.mem_searchReferences.1 (h r hr k hk)
      · obtain ⟨k, hk, rfl⟩ := (RouteResolver.mem_queries_grpc rfl).1 hq
        exact .inl ⟨_, hroute, List.mem_map.2 ⟨k, hk, rfl⟩⟩
    · refine .inr ?_
      rw [← ListenerTlsConfigValidator.map_reference_queries]
      exact List.mem_map_of_mem hq

/-- What is found for a sender of the kind HTTPRoute comes from a rule of an HTTP route. -/
theorem found_iff (hkind : gateway.resourceKey.kind = "Gateway") {r : HTTPRoute} {k : ResourceKey}
    (hk : k.group = DEFAULT_GROUP_NAME) :
    .ofKeys r.resourceKey k gateway.resourceKey ∈ ReferenceGrantsResolver.searchReferences isIpAddr routes gateway ↔
      ∃ r' ∈ (routes.getHttpRoutesAttachedToGateway gateway.resourceKey).getD [],
        r'.resourceKey.ns = r.resourceKey.ns ∧ k ∈ r'.backendServices := by
  rw [ReferenceGrantsResolver.mem_searchReferences]
  constructor
  · rintro (⟨route, hroute, href⟩ | href)
    · rcases mem_findLinkedRoutes.1 hroute with ⟨r', hr', rfl⟩ | ⟨r', -, rfl⟩
      · obtain ⟨k', hk', heq⟩ := mem_grantReferences_ofHTTPRoute.1 href
        obtain ⟨hns, -, rfl⟩ := eq_of_ofKeys heq ((group_of_mem_backendServices hk').trans hk.symm)
        exact ⟨r', hr', hns, hk'⟩
      · obtain ⟨k', -, heq⟩ := List.mem_map.1 href
        have hsender : "GRPCRoute" = "HTTPRoute" := congrArg (·.sender.kind) heq
        exact absurd hsender (by decide)
    · obtain ⟨certificate, -, heq⟩ := List.mem_map.1 href
      have hsender : gateway.resourceKey.kind = "HTTPRoute" := congrArg (·.sender.kind) heq
      rw [hkind] at hsender
      exact absurd hsender (by decide)
  · rintro ⟨r', hr', hns, hk'⟩
    refine .inl ⟨_, mem_findLinkedRoutes.2 (.inl ⟨r', hr', rfl⟩), mem_grantReferences_ofHTTPRoute.2 ⟨k, hk', ?_⟩⟩
    have hkeys : FromResourceKey.ofKey r'.resourceKey = .ofKey r.resourceKey := by
      simp only [FromResourceKey.ofKey, hns]
      rfl
    simp only [ReferenceGrantRef.ofKeys, hkeys]

end

/-- **Everything that needs a grant is tracked** exactly if the Services that mirror filters of linked HTTP
routes refer to are referred to by rules, too. The kind is the one every converted gateway has. -/
theorem queries_tracked_iff (isIpAddr : String → Bool) (routes : RouteStores) (gateway : Gateway)
    (hkind : gateway.resourceKey.kind = "Gateway") :
    (∀ q ∈ grantQueries isIpAddr routes gateway,
      q.reference ∈ ReferenceGrantsResolver.searchReferences isIpAddr routes gateway) ↔
    MirrorsAreBackends ((routes.getHttpRoutesAttachedToGateway gateway.resourceKey).getD []) := by
  rw [tracked_iff_mirrors]
  refine forall_congr' fun r => forall_congr' fun _ => forall_congr' fun k => forall_congr' fun hk => ?_
  exact found_iff hkind (group_of_mem_mirrorServices hk)

/-- A gateway to which one HTTP route is attached, with these backends and mirror filters. -/
def oneRouteStores (backendRefs : List BackendReference) (mirrors : List BackendObjectReference) : RouteStores :=
  let route : HTTPRoute :=
    { metadata := { name := some "route" }
      spec :=
        { rules := some
            [{ filters := some (mirrors.map fun b => { type := .requestMirror, requestMirror := some { backendRef := b } })
               backendRefs := some backendRefs }] } }
  (({} : RouteStores).saveHttpRoute route.resourceKey route).attachHttpRouteToGateway (.new "gateway") route.resourceKey

/-- A mirror filter and a rule that refer to one Service. -/
theorem mirroredBackend_tracked :
    let routes := oneRouteStores [{ name := "service", ns := some "other" }] [{ name := "service", ns := some "other" }]
    ∀ q ∈ grantQueries (fun _ => false) routes { id := 0, resourceKey := .new "gateway" },
      q.reference ∈ ReferenceGrantsResolver.searchReferences (fun _ => false) routes
        { id := 0, resourceKey := .new "gateway" } := by
  intro routes
  refine (queries_tracked_iff (fun _ => false) routes { id := 0, resourceKey := .new "gateway" } rfl).2 ?_
  unfold MirrorsAreBackends
  decide +kernel

/-- **The Service of a mirror filter alone is not tracked**, so no grant can allow it. -/
theorem mirrorOnly_not_tracked :
    let routes := oneRouteStores [] [{ name := "service", ns := some "other" }]
    ¬ ∀ q ∈ grantQueries (fun _ => false) routes { id := 0, resourceKey := .new "gateway" },
      q.reference ∈ ReferenceGrantsResolver.searchReferences (fun _ => false) routes
        { id := 0, resourceKey := .new "gateway" } := by
  decide +kernel

end Kubvernor
