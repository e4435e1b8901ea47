import Kubvernor.Agentgateway.ResourceGenerator
import Kubvernor.Common.KubeRoutes
import Kubvernor.Controllers.RouteResolver
import Kubvernor.Envoy.Routes

/-!
# Mirrored requests

A rule with a mirror filter has a filter backend, whose key is made from the reference and the namespace of
the route when the route is converted. Both generators look for that backend again by the key they make from the
reference themselves, and there a namespace that is left out is the default one. So in any other namespace a
mirror without a namespace is not found: Envoy mirrors nowhere, an agentgateway to no backend
(`mirror_reaches_iff`). Envoy does not mirror a request that it redirects, either.
-/

namespace Kubvernor

/-! ## A rule with one mirror -/

/-- The rule has one mirror filter, which is this. -/
def KubeRouteRule.MirrorsOnce {M : Type} (rr : KubeRouteRule M HttpRouteFilter) (mirror : RequestMirror) : Prop :=
  ∃ f : HttpRouteFilter, (rr.filters.getD []).filter (fun f => f.type = .requestMirror ∨ f.requestMirror ≠ none) = [f] ∧
    f.type = .requestMirror ∧ f.requestMirror = some mirror

namespace KubeRouteRule.MirrorsOnce

variable {M : Type} {rr : KubeRouteRule M HttpRouteFilter} {mirror : RequestMirror}

/-- Whatever only mirror filters have, the rule has once. -/
theorem filterMap_eq {α : Type} (h : rr.MirrorsOnce mirror) {f : HttpRouteFilter → Option α} {a : α}
    (hf : ∀ filter, filter.type = .requestMirror → filter.requestMirror = some mirror → f filter = some a)
    (hnone : ∀ filter, filter.type ≠ .requestMirror → filter.requestMirror = none → f filter = none) :
    (rr.filters.getD []).filterMap f = [a] := by
  obtain ⟨filter, hfilters, htype, hmirror⟩ := h
  have hmap : (rr.filters.getD []).filterMap f =
      ((rr.filters.getD []).filter fun f => f.type = .requestMirror ∨ f.requestMirror ≠ none).filterMap f := by
    rw [List.filterMap_filter]
    refine List.filterMap_congr fun filter _ => ?_
    split
    · rfl
    · next hnot =>
      rw [decide_eq_true_eq, not_or, not_not] at hnot
      exact hnone filter hnot.1 hnot.2
  rw [hmap, hfilters, List.filterMap_cons, hf filter htype hmirror, List.filterMap_nil]

theorem filterBackends (h : rr.MirrorsOnce mirror) (ns : String) :
    ((rr.filters.getD []).filterMap fun filter => filter.requestMirror.map (Backend.ofMirror ns)) =
      [Backend.ofMirror ns mirror] :=
  h.filterMap_eq (fun filter _ hmirror => by rw [hmirror]; rfl) fun filter _ hnone => by rw [hnone]; rfl

theorem mirrorFilters (h : rr.MirrorsOnce mirror) :
    ((rr.filters.getD []).filterMap fun f => if f.type = .requestMirror then f.requestMirror else none) = [mirror] :=
  h.filterMap_eq (fun filter htype hmirror => by rw [if_pos htype, hmirror])
    fun filter htype _ => by rw [if_neg htype]

end KubeRouteRule.MirrorsOnce

/-! ## The rule, once the route is resolved -/

namespace RouteResolver

variable {self : RouteResolver} {routeKey : RouteKey}

/-- Each rule keeps its place and what it has besides its backends. -/
theorem getElem?_resolveHttpRules {rules : List HTTPRoutingRule} {i : Nat} {rule : HTTPRoutingRule}
    (h : rules[i]? = some rule) (status : ResolutionStatus) (state : State) : ∃ state₁ state₂,
    (self.resolveHttpRules routeKey rules status state).1.1[i]? = some
      { rule with
        backends := (self.processBackends routeKey rule.backends state₁).1.1
        filterBackends := (self.processBackends routeKey rule.filterBackends state₂).1.1 } := by
  induction rules generalizing i status state with
  | nil => cases h
  | cons rule₀ rules ih =>
    cases i with
    | zero =>
      obtain rfl := Option.some.inj h
      exact ⟨_, _, rfl⟩
    | succ i => exact ih h _ _

/-- A Service stays a Service of the same key. -/
theorem processServiceBackend_service (self : RouteResolver) (routeKey : RouteKey) (c : ServiceTypeConfig) :
    ∃ c', (self.processServiceBackend routeKey (.maybe (.service c))).1.backendType = .service c' ∧
      c'.resourceKey = c.resourceKey := by
  simp only [processServiceBackend]
  split
  · split
    · exact ⟨_, rfl, rfl⟩
    · exact ⟨_, rfl, rfl⟩
  · exact ⟨_, rfl, rfl⟩

end RouteResolver

/-! ## Where the routes of a rule mirror to -/

/-- The clusters an Envoy route mirrors requests to; a redirect mirrors to none. -/
def EnvoyRoute.mirrorClusters (r : EnvoyRoute) : List String :=
  match r.action with
  | .route action => action.requestMirrorPolicies.map (·.cluster)
  | .redirect _ => []

open Agentgateway in
/-- What an agentgateway route mirrors requests to, for each mirror of its policies. -/
def Agentgateway.Api.Route.mirrorBackends (r : Api.Route) : List (Option Api.BackendReferenceKind) :=
  r.trafficPolicies.flatMap fun policy => match policy with
    | .requestMirror mirrors => mirrors.map fun mirror => mirror.backend.map (·.kind)
    | .urlRewrite _ | .requestRedirect _ | .requestHeaderModifier _ | .responseHeaderModifier _ | .hostRewriteNone => []

/-- Every route that is generated for this rule of the route mirrors to the backend of the key, and to no other. -/
structure HTTPRoutingRule.MirrorsTo (route : Route) (rules : List HTTPRoutingRule) (rule : HTTPRoutingRule)
    (target : ResourceKey) : Prop where
  envoy : ∀ (l : Listener) (hostnames : List String),
    ∀ r ∈ (l.createHttpEffectiveRoute hostnames [rule]).flatMap (·.envoyRoutes), r.mirrorClusters = [target.clusterName]
  agentgateway : ∀ (methodJson : HTTPMethod → Option String) (l : Listener),
    ((Agentgateway.AttachedRule.mk l route rules rule).toRoute methodJson).mirrorBackends =
      [some (.backend (Agentgateway.backendKey target))]

/-- The routes of one rule all mirror alike. -/
theorem HTTPEffectiveRoutingRule.mirrorClusters_of_mem {rule : HTTPEffectiveRoutingRule} {r : EnvoyRoute}
    (hr : r ∈ rule.envoyRoutes) : r.mirrorClusters = rule.envoyRoute.mirrorClusters := by
  unfold envoyRoutes at hr
  simp only at hr
  split at hr
  · rw [List.mem_singleton.1 hr]
  · obtain ⟨pool, -, rfl⟩ := List.mem_map.1 hr
    rfl

/-- The rule has one mirror, and one filter backend, which is the Service of this key. -/
structure HTTPRoutingRule.HasMirror (rule : HTTPRoutingRule) (mirror : RequestMirror) (k : ResourceKey) : Prop where
  filters : (rule.filters.filterMap fun f => if f.type = .requestMirror then f.requestMirror else none) = [mirror]
  filterBackends : ∃ b c, rule.filterBackends = [b] ∧ b.backendType = .service c ∧ c.resourceKey = k

/-- The other filters mirror nothing. -/
theorem mirrors_of_mem_mapFilters {f : HttpRouteFilter} {port : Nat} {policy : Agentgateway.Api.TrafficPolicySpec}
    (h : policy ∈ Agentgateway.mapFilters f port) (mirrors : List Agentgateway.Api.Mirror) :
    policy ≠ .requestMirror mirrors := by
  simp only [Agentgateway.mapFilters, List.mem_filterMap, id_eq, exists_eq_right, List.mem_cons, List.not_mem_nil,
    or_false, eq_comm (a := some policy), Agentgateway.mapRedirectFilter, Agentgateway.mapRequestHeaderModifierFilter,
    Agentgateway.mapResponseHeaderModifierFilter, Agentgateway.mapUrlRewriteFilter, Option.map_eq_some_iff] at h
  rintro rfl
  rcases h with ⟨_, -, h⟩ | ⟨_, -, h⟩ | ⟨_, -, h⟩ | ⟨_, -, h⟩ <;> cases h

namespace HTTPRoutingRule.HasMirror

variable {rule : HTTPRoutingRule} {mirror : RequestMirror} {k : ResourceKey}

/-- The mirror filter of the effective rules. -/
theorem findFilter (h : rule.HasMirror mirror k) :
    rule.findFilter .requestMirror (·.requestMirror) = some mirror := by
  rw [HTTPRoutingRule.findFilter, ← List.head?_filterMap, h.filters, List.head?_cons]

theorem mirrorClusters (h : rule.HasMirror mirror k) (l : Listener) (hostnames : List String) (matcher : RouteMatch) :
    (l.httpEffectiveRule hostnames rule matcher).envoyRoute.mirrorClusters =
      if rule.redirectFilter = none ∧ k = mirror.backendRef.resourceKey DEFAULT_NAMESPACE_NAME then [k.clusterName]
      else [] := by
  obtain ⟨b, c, hbackends, htype, rfl⟩ := h.filterBackends
  unfold EnvoyRoute.mirrorClusters HTTPEffectiveRoutingRule.envoyRoute
  simp only [Listener.httpEffectiveRule]
  cases rule.redirectFilter with
  | some f => simp
  | none =>
    simp only [HTTPEffectiveRoutingRule.clusterAction, HTTPEffectiveRoutingRule.mirrorPolicies, h.findFilter,
      HTTPEffectiveRoutingRule.mirrorBackends, hbackends, List.filterMap_cons, htype, List.filterMap_nil, true_and]
    by_cases hkey : c.resourceKey = mirror.backendRef.resourceKey DEFAULT_NAMESPACE_NAME
    · simp [hkey, ServiceTypeConfig.clusterName]
    · simp [hkey]

theorem mirrorBackends (h : rule.HasMirror mirror k) (methodJson : HTTPMethod → Option String) (l : Listener)
    (route : Route) (rules : List HTTPRoutingRule) :
    ((Agentgateway.AttachedRule.mk l route rules rule).toRoute methodJson).mirrorBackends =
      [if k = mirror.backendRef.resourceKey DEFAULT_NAMESPACE_NAME then some (.backend (Agentgateway.backendKey k))
       else none] := by
  obtain ⟨b, c, hbackends, htype, rfl⟩ := h.filterBackends
  have hbackend : (Agentgateway.mirrorBackend rule mirror).map (·.kind) =
      if c.resourceKey = mirror.backendRef.resourceKey DEFAULT_NAMESPACE_NAME then
        some (.backend (Agentgateway.backendKey c.resourceKey))
      else none := by
    simp only [Agentgateway.mirrorBackend, hbackends, List.filterMap_cons, htype, List.filterMap_nil]
    by_cases hkey : c.resourceKey = mirror.backendRef.resourceKey DEFAULT_NAMESPACE_NAME
    · simp [hkey]
    · simp [hkey]
  simp only [Agentgateway.Api.Route.mirrorBackends, Agentgateway.AttachedRule.toRoute,
    Agentgateway.AttachedRule.trafficPolicies, List.flatMap_append, Agentgateway.createRequestMirrorTrafficPolicy,
    h.filters, List.map_cons, List.map_nil, List.isEmpty_cons, Bool.false_eq_true, if_false, Option.toList_some,
    List.flatMap_cons, List.flatMap_nil, List.append_nil, hbackend]
  refine (congrArg (· ++ _) (List.flatMap_eq_nil_iff.2 fun policy hpolicy => ?_)).trans (List.nil_append _)
  obtain ⟨f, -, hpolicy⟩ := List.mem_flatMap.1 hpolicy
  have hmirror := mirrors_of_mem_mapFilters hpolicy
  cases policy with
  | requestMirror mirrors => exact absurd rfl (hmirror mirrors)
  | urlRewrite | requestRedirect | requestHeaderModifier | responseHeaderModifier | hostRewriteNone => rfl

/-- Both find the backend if the two keys are the same. -/
theorem mirrorsTo_iff (h : rule.HasMirror mirror k) (route : Route) (rules : List HTTPRoutingRule) :
    rule.MirrorsTo route rules k ↔
      k = mirror.backendRef.resourceKey DEFAULT_NAMESPACE_NAME ∧ rule.redirectFilter = none := by
  constructor
  · intro hmirrors
    let l : Listener := { protocol := .http, data := { config := { name := "http", port := 80 } } }
    obtain ⟨matcher, hmatcher⟩ := List.exists_mem_of_ne_nil _ rule.matchers_ne_nil
    obtain ⟨r, hr⟩ := List.exists_mem_of_ne_nil _ (l.httpEffectiveRule [] rule matcher).envoyRoutes_ne_nil
    have hclusters := hmirrors.envoy l [] r (List.mem_flatMap.2 ⟨_, List.mem_flatMap.2 ⟨rule,
      List.mem_singleton_self _, List.mem_map_of_mem hmatcher⟩, hr⟩)
    rw [HTTPEffectiveRoutingRule.mirrorClusters_of_mem hr, h.mirrorClusters] at hclusters
    split at hclusters
    · next hfound => exact hfound.symm
    · cases hclusters
  · rintro ⟨hkey, hredirect⟩
    refine ⟨fun l hostnames r hr => ?_, fun methodJson l => ?_⟩
    · obtain ⟨er, her, hr⟩ := List.mem_flatMap.1 hr
      obtain ⟨rule', hrule', hmatchers⟩ := List.mem_flatMap.1 her
      obtain rfl := List.mem_singleton.1 hrule'
      obtain ⟨matcher, -, rfl⟩ := List.mem_map.1 hmatchers
      rw [HTTPEffectiveRoutingRule.mirrorClusters_of_mem hr, h.mirrorClusters, if_pos ⟨hredirect, hkey⟩]
    · rw [h.mirrorBackends, if_pos hkey]

end HTTPRoutingRule.HasMirror

/-! ## When mirrors reach their backend -/

/-- Requests of the rule are redirected. -/
def KubeRouteRule.Redirects {M : Type} (rr : KubeRouteRule M HttpRouteFilter) : Prop :=
  ∃ f ∈ rr.filters.getD [], f.type = .requestRedirect ∧ f.requestRedirect ≠ none

theorem redirectFilter_eq_none {rr : KubeRouteRule RouteMatch HttpRouteFilter} {rule : HTTPRoutingRule}
    (h : rule.filters = rr.filters.getD []) : rule.redirectFilter = none ↔ ¬ rr.Redirects := by
  unfold HTTPRoutingRule.redirectFilter HTTPRoutingRule.findFilter KubeRouteRule.Redirects
  rw [h, List.findSome?_eq_none_iff]
  push Not
  refine forall₂_congr fun f _ => ?_
  split
  · next htype => exact ⟨fun hnone _ => hnone, fun hnone => hnone htype⟩
  · next htype => exact iff_of_true rfl fun hredirect => absurd hredirect htype

/-- The two keys of a reference are the same if its namespace is given, or the route is in the default one. -/
theorem resourceKey_eq_iff {br : BackendObjectReference} {ns : String} :
    br.resourceKey ns = br.resourceKey DEFAULT_NAMESPACE_NAME ↔ (br.ns = none → ns = DEFAULT_NAMESPACE_NAME) := by
  simp only [BackendObjectReference.resourceKey, ResourceKey.mk.injEq, true_and, and_true]
  cases br.ns with
  | none => simp
  | some ns => simp

/-- The rule of a resolved route still has its mirror. -/
theorem exists_hasMirror (v : RouteResolver) (state : State) (isIpAddr : String → Bool) (r : HTTPRoute) {i : Nat}
    {rr : KubeRouteRule RouteMatch HttpRouteFilter} (hi : (r.spec.rules.getD [])[i]? = some rr)
    {mirror : RequestMirror} (hmirror : rr.MirrorsOnce mirror) (hkind : IsServiceKind mirror.backendRef.kind) :
    ∃ rules rule, (v.resolve (.ofHTTPRoute isIpAddr r) state).1.routeType = .http rules ∧ rules[i]? = some rule ∧
      rule.filters = rr.filters.getD [] ∧ rule.HasMirror mirror (mirror.backendRef.resourceKey r.resourceKey.ns) := by
  have hrule : ((r.spec.rules.getD []).mapIdx (HTTPRoutingRule.ofKube r))[i]? = some (.ofKube r i rr) := by
    rw [List.getElem?_mapIdx, hi, Option.map_some]
  obtain ⟨state₁, state₂, hresolved⟩ :=
    @RouteResolver.getElem?_resolveHttpRules v r.resourceKey _ i _ hrule .resolved state
  have hbackends : (HTTPRoutingRule.ofKube r i rr).filterBackends =
      [.maybe (.service (.ofBackendObjectReference mirror.backendRef r.resourceKey.ns))] := by
    rw [HTTPRoutingRule.ofKube, hmirror.filterBackends, Backend.ofMirror, if_pos hkind]
  obtain ⟨c, htype, hkey⟩ := v.processServiceBackend_service r.resourceKey
    (.ofBackendObjectReference mirror.backendRef r.resourceKey.ns)
  rw [hbackends] at hresolved
  exact ⟨_, _, rfl, hresolved, rfl, hmirror.mirrorFilters, _, c, rfl, htype, hkey⟩

/-- **When mirrors reach their backend.** Once its route is resolved, in whatever way, the routes generated for
a rule with one mirror, of a Service, mirror to that Service exactly if its namespace is given or the route is in
the default namespace, and the rule does not redirect. -/
theorem mirror_reaches_iff (v : RouteResolver) (state : State) (isIpAddr : String → Bool) (r : HTTPRoute) {i : Nat}
    {rr : KubeRouteRule RouteMatch HttpRouteFilter} (hi : (r.spec.rules.getD [])[i]? = some rr)
    {mirror : RequestMirror} (hmirror : rr.MirrorsOnce mirror) (hkind : IsServiceKind mirror.backendRef.kind) :
    ∃ rules rule, (v.resolve (.ofHTTPRoute isIpAddr r) state).1.routeType = .http rules ∧ rules[i]? = some rule ∧
      (rule.MirrorsTo (v.resolve (.ofHTTPRoute isIpAddr r) state).1 rules
          (mirror.backendRef.resourceKey r.resourceKey.ns) ↔
        (mirror.backendRef.ns = none → r.resourceKey.ns = DEFAULT_NAMESPACE_NAME) ∧ ¬ rr.Redirects) := by
  obtain ⟨rules, rule, hroute, hrule, hfilters, h⟩ := exists_hasMirror v state isIpAddr r hi hmirror hkind
  refine ⟨rules, rule, hroute, hrule, (h.mirrorsTo_iff _ _).trans ?_⟩
  exact and_congr resourceKey_eq_iff (redirectFilter_eq_none hfilters)

/-! ## A route with one mirror -/

def auditMirror : RequestMirror where
  backendRef := { name := "audit", kind := some "Service" }

/-- A rule whose requests are mirrored to the Service `audit` of the route's namespace. -/
def auditedRule : KubeRouteRule RouteMatch HttpRouteFilter where
  filters := some [{ type := .requestMirror, requestMirror := some auditMirror }]
  backendRefs := some [{ name := "cart" }]

def auditedRoute (ns : String) : HTTPRoute where
  metadata := { name := some "shop", ns := some ns }
  spec := { rules := some [auditedRule] }

theorem auditedRule_mirrorsOnce : auditedRule.MirrorsOnce auditMirror := ⟨_, rfl, rfl, rfl⟩

/-- In the default namespace the mirror is reached. -/
theorem auditedRoute_reaches : ∃ rules rule,
    (crossNamespaceResolver.resolve (.ofHTTPRoute (fun _ => false) (auditedRoute "default")) {}).1.routeType =
        .http rules ∧
      rules[0]? = some rule ∧
      rule.MirrorsTo (crossNamespaceResolver.resolve (.ofHTTPRoute (fun _ => false) (auditedRoute "default")) {}).1 rules
        { ns := "default", name := "audit", kind := "Service" } := by
  obtain ⟨rules, rule, hroute, hrule, h⟩ := mirror_reaches_iff crossNamespaceResolver {} (fun _ => false)
    (auditedRoute "default") (i := 0) rfl auditedRule_mirrorsOnce (.inr rfl)
  refine ⟨rules, rule, hroute, hrule, h.2 ⟨fun _ => rfl, ?_⟩⟩
  rintro ⟨f, hf, hredirect, -⟩
  obtain rfl := List.mem_singleton.1 hf
  cases hredirect

/-- **In any other it is not.** -/
theorem auditedRoute_not_reaches : ∃ rules rule,
    (crossNamespaceResolver.resolve (.ofHTTPRoute (fun _ => false) (auditedRoute "shop")) {}).1.routeType =
        .http rules ∧
      rules[0]? = some rule ∧
      ¬ rule.MirrorsTo (crossNamespaceResolver.resolve (.ofHTTPRoute (fun _ => false) (auditedRoute "shop")) {}).1 rules
        { ns := "shop", name := "audit", kind := "Service" } := by
  obtain ⟨rules, rule, hroute, hrule, -, h⟩ := exists_hasMirror crossNamespaceResolver {} (fun _ => false)
    (auditedRoute "shop") (i := 0) rfl auditedRule_mirrorsOnce (.inr rfl)
  refine ⟨rules, rule, hroute, hrule, fun hmirrors => ?_⟩
  have hns := congrArg ResourceKey.ns ((h.mirrorsTo_iff _ _).1 hmirrors).1
  exact absurd hns (by decide)

end Kubvernor
