import Kubvernor.Common.KubeRoutes
import Kubvernor.Controllers.ListenerHealth
import Kubvernor.Controllers.RouteResolver

/-!
# The names of routes and rules

Conversion puts a listener under its name, and numbers the rules of a route after the name of the route.
What is done to a gateway before it is deployed keeps the names: backends are resolved, routes attached,
certificates validated (`Gateway.WellNamed.processed`).
-/

namespace Kubvernor

namespace Route

/-- The rules of an HTTP route. -/
def httpRules (r : Route) : List HTTPRoutingRule :=
  match r.routeType with
  | .http rules => rules
  | .grpc _ => []

/-- An HTTP route has the key of an HTTPRoute, and its rules have its name and their number. -/
structure Named (r : Route) : Prop where
  key : r.httpRules ≠ [] → r.resourceKey.group = DEFAULT_GROUP_NAME ∧ r.resourceKey.kind = "HTTPRoute"
  rules : ∀ (i : Nat) (rule : HTTPRoutingRule), r.httpRules[i]? = some rule →
    rule.name = r.resourceKey.name ++ "-" ++ toString i

theorem named_ofHTTPRoute (isIpAddr : String → Bool) (r : HTTPRoute) : (ofHTTPRoute isIpAddr r).Named where
  key _ := ⟨rfl, rfl⟩
  rules i rule h := by
    obtain ⟨kubeRule, -, rfl⟩ := Option.map_eq_some_iff.1 (List.getElem?_mapIdx.symm.trans h)
    rfl

theorem named_ofGRPCRoute (isIpAddr : String → Bool) (r : GRPCRoute) : (ofGRPCRoute isIpAddr r).Named where
  key h := absurd rfl h
  rules i rule h := by cases h

/-- Only the key and the names of the rules decide whether a route is named. -/
theorem Named.of_names {r r' : Route} (h : r.Named) (hkey : r'.resourceKey = r.resourceKey)
    (hnames : r'.httpRules.map (·.name) = r.httpRules.map (·.name)) : r'.Named where
  key hne := by
    rw [hkey]
    refine h.key fun hnil => hne ?_
    rw [hnil, List.map_nil, List.map_eq_nil_iff] at hnames
    exact hnames
  rules i rule hrule := by
    have hname : (r.httpRules.map (·.name))[i]? = some rule.name := by
      rw [← hnames, List.getElem?_map, hrule]
      rfl
    rw [List.getElem?_map] at hname
    obtain ⟨rule', hrule', heq⟩ := Option.map_eq_some_iff.1 hname
    rw [hkey, ← heq]
    exact h.rules i rule' hrule'

/-- An HTTP route is known by its namespace and its name. -/
theorem Named.key_eq {r r' : Route} (h : r.Named) (h' : r'.Named) (hne : r.httpRules ≠ [])
    (hne' : r'.httpRules ≠ []) (hns : r.resourceKey.ns = r'.resourceKey.ns)
    (hname : r.resourceKey.name = r'.resourceKey.name) : r.resourceKey = r'.resourceKey := by
  obtain ⟨hgroup, hkind⟩ := h.key hne
  obtain ⟨hgroup', hkind'⟩ := h'.key hne'
  exact ResourceKey.eq_of_fields (hgroup.trans hgroup'.symm) hns hname (hkind.trans hkind'.symm)

end Route

namespace RouteResolver

variable (self : RouteResolver)

theorem resolveHttpRules_names (routeKey : RouteKey) (rules : List HTTPRoutingRule) (status : ResolutionStatus)
    (state : State) : (self.resolveHttpRules routeKey rules status state).1.1.map (·.name) = rules.map (·.name) := by
  induction rules generalizing status state with
  | nil => rfl
  | cons rule rules ih =>
    rw [resolveHttpRules, List.map_cons, List.map_cons, ih]

/-- Resolving the backends of a route keeps its names. -/
theorem resolve_named {route : Route} (h : route.Named) (state : State) : (self.resolve route state).1.Named := by
  unfold resolve
  cases hroute : route.routeType with
  | http rules =>
    refine h.of_names rfl ?_
    simp only [Route.httpRules, hroute]
    exact self.resolveHttpRules_names route.resourceKey rules .resolved state
  | grpc rules =>
    refine h.of_names rfl ?_
    simp only [Route.httpRules, hroute]

end RouteResolver

/-! ## The routes of a listener -/

/-- The routes of a set are named, and each is under its key. -/
def RouteSet.Named (s : RouteSet) : Prop :=
  ∀ (k : ResourceKey) (r : Route), s[k]? = some r → r.resourceKey = k ∧ r.Named

namespace RouteSet

variable {s : RouteSet}

theorem named_empty : Named ∅ := by
  intro k r h
  rw [Std.ExtTreeMap.getElem?_empty] at h
  cases h

theorem Named.insertNew (hs : s.Named) {r : Route} (hr : r.Named) : (s.insertNew r).Named := by
  intro k r' h
  rw [RouteSet.insertNew, Lib.getElem?_insertIfNew_or] at h
  split at h
  · rename_i hk
    obtain rfl := Std.LawfulEqOrd.eq_of_compare hk
    rcases Option.or_eq_some_iff.1 h with hold | ⟨-, hnew⟩
    · exact hs _ r' hold
    · obtain rfl := Option.some.inj hnew
      exact ⟨rfl, hr⟩
  · exact hs k r' h

theorem Named.filter (hs : s.Named) (f : ResourceKey → Route → Bool) : RouteSet.Named (s.filter f) := by
  intro k r h
  rw [Std.ExtTreeMap.getElem?_filter', Option.filter_eq_some_iff] at h
  exact hs k r h.1

end RouteSet

/-- The routes of a listener are named, and no two of them have one key. -/
structure Listener.RoutesNamed (l : Listener) : Prop where
  resolved : l.data.resolvedRoutes.Named
  unresolved : l.data.unresolvedRoutes.Named
  disjoint : ∀ k ∈ l.data.resolvedRoutes, k ∉ l.data.unresolvedRoutes

/-- The listeners of a gateway are under their names, and their routes are named. -/
structure Gateway.WellNamed (g : Gateway) : Prop where
  name : ∀ (name : String) (l : Listener), g.listeners[name]? = some l → l.name = name
  routes : ∀ (name : String) (l : Listener), g.listeners[name]? = some l → l.RoutesNamed

theorem RouteSet.Named.mem_routes {s : RouteSet} (hs : s.Named) {r : Route} :
    r ∈ s.routes ↔ s[r.resourceKey]? = some r :=
  Lib.mem_values_of_key fun k r hk => (hs k r hk).1

theorem RouteSet.Named.nodup_keys {s : RouteSet} (hs : s.Named) : (s.routes.map (·.resourceKey)).Nodup :=
  Lib.nodup_map_values fun k r hk => (hs k r hk).1

namespace Listener.RoutesNamed

variable {l : Listener} (h : l.RoutesNamed)
include h

theorem named {r : Route} (hr : r ∈ l.routes.1 ++ l.routes.2) : r.Named := by
  rcases List.mem_append.1 hr with hr | hr
  · exact (h.resolved _ r (h.resolved.mem_routes.1 hr)).2
  · exact (h.unresolved _ r (h.unresolved.mem_routes.1 hr)).2

theorem nodup_keys : ((l.routes.1 ++ l.routes.2).map (·.resourceKey)).Nodup := by
  rw [List.map_append]
  refine h.resolved.nodup_keys.append h.unresolved.nodup_keys fun k hk hk' => ?_
  obtain ⟨r, hr, rfl⟩ := List.mem_map.1 hk
  obtain ⟨r', hr', heq⟩ := List.mem_map.1 hk'
  have hsome := h.resolved.mem_routes.1 hr
  have hsome' := h.unresolved.mem_routes.1 hr'
  rw [heq] at hsome'
  refine h.disjoint r.resourceKey ?_ ?_
  · rw [Std.ExtTreeMap.mem_iff_isSome_getElem?, hsome]
    rfl
  · rw [Std.ExtTreeMap.mem_iff_isSome_getElem?, hsome']
    rfl

end Listener.RoutesNamed

namespace Gateway.WellNamed

variable {g : Gateway} (h : g.WellNamed)
include h

theorem mem_listenerValues {l : Listener} : l ∈ g.listenerValues ↔ g.listeners[l.name]? = some l :=
  Lib.mem_values_of_key h.name

theorem nodup_names : (g.listenerValues.map (·.name)).Nodup := Lib.nodup_map_values h.name

theorem eq_of_name {l l' : Listener} (hl : l ∈ g.listenerValues) (hl' : l' ∈ g.listenerValues)
    (hname : l.name = l'.name) : l = l' :=
  List.inj_on_of_nodup_map h.nodup_names hl hl' hname

theorem routesNamed {l : Listener} (hl : l ∈ g.listenerValues) : l.RoutesNamed :=
  h.routes _ l (h.mem_listenerValues.1 hl)

end Gateway.WellNamed

/-! ## Conversion and the passes -/

theorem Listener.routesNamed_of_tryFrom {kl : KubeListener} {l : Listener} (h : Listener.tryFrom kl = .ok l) :
    l.RoutesNamed := by
  obtain ⟨tlsType, -, hdata⟩ := Listener.eq_of_tryFrom h
  have hnone (k : ResourceKey) : k ∉ (∅ : RouteSet) := Std.ExtTreeMap.not_mem_empty
  refine ⟨?_, ?_, fun k _ => ?_⟩
  · rw [hdata]
    exact RouteSet.named_empty
  · rw [hdata]
    exact RouteSet.named_empty
  · rw [hdata]
    exact hnone k

/-- **Converted gateways are well named.** -/
theorem Gateway.wellNamed_of_tryFrom {parseUuid : String → Option Uuid} {g : KubeGateway}
    {t : GatewayImplementationType} {gw : Gateway} (h : Gateway.tryFrom parseUuid g t = .ok gw) : gw.WellNamed where
  name _ _ hl := (Gateway.getElem?_of_tryFrom h hl).1
  routes _ _ hl := by
    obtain ⟨-, kl, -, hkl⟩ := Gateway.getElem?_of_tryFrom h hl
    exact Listener.routesNamed_of_tryFrom hkl

namespace RouteListenerMatcher

variable {domainPattern : String → Option (String → Bool)} {m : RouteListenerMatcher}

/-- The routes attached to listeners are named. -/
def AttachedNamed (attachedRoutes : Std.ExtTreeMap String RouteSet) : Prop :=
  ∀ (name : String) (s : RouteSet), attachedRoutes[name]? = some s → s.Named

theorem AttachedNamed.alter {attachedRoutes : Std.ExtTreeMap String RouteSet} (h : AttachedNamed attachedRoutes)
    {route : Route} (hroute : route.Named) (name : String) :
    AttachedNamed (attachedRoutes.alter name fun routes => some (RouteSet.insertNew (routes.getD ∅) route)) := by
  intro name' s hs
  rw [Std.ExtTreeMap.getElem?_alter] at hs
  split at hs
  · obtain rfl := Option.some.inj hs
    refine RouteSet.Named.insertNew ?_ hroute
    cases hold : attachedRoutes[name]? with
    | none => exact RouteSet.named_empty
    | some s => exact h name s hold
  · exact h name' s hs

theorem calculateAttachedRoutes_named {mappedRoutes : List RouteToListenersMapping}
    (h : ∀ mapping ∈ mappedRoutes, mapping.route.Named) : AttachedNamed (calculateAttachedRoutes mappedRoutes) := by
  unfold calculateAttachedRoutes
  refine List.foldlRecOn mappedRoutes _ ?_ fun attachedRoutes hattached mapping hmapping => ?_
  · intro name s hs
    rw [Std.ExtTreeMap.getElem?_empty] at hs
    cases hs
  · refine List.foldlRecOn mapping.listeners _ hattached fun _ hattached l _ => ?_
    exact hattached.alter (h mapping hmapping) l.name

theorem attachedRoutes?_named (hm : ∀ r ∈ m.routes, r.Named) {name : String} {s : RouteSet}
    (hs : m.attachedRoutes? domainPattern name = some s) : s.Named := by
  refine calculateAttachedRoutes_named ?_ name s hs
  intro mapping hmapping
  obtain ⟨r, hr, rfl⟩ := List.mem_map.1 (List.mem_filter.1 hmapping).1
  exact (hm r hr).of_names rfl rfl

theorem attachTo_routesNamed (hm : ∀ r ∈ m.routes, r.Named) (name : String) {l : Listener} (hl : l.RoutesNamed) :
    (m.attachTo domainPattern name l).RoutesNamed := by
  unfold attachTo
  cases hs : m.attachedRoutes? domainPattern name with
  | none => exact hl
  | some routes =>
    have hroutes := attachedRoutes?_named hm hs
    refine ⟨hroutes.filter _, hroutes.filter _, fun k hk hk' => ?_⟩
    obtain ⟨r, hr⟩ := Option.isSome_iff_exists.1 (Std.ExtTreeMap.mem_iff_isSome_getElem?.1 hk)
    obtain ⟨r', hr'⟩ := Option.isSome_iff_exists.1 (Std.ExtTreeMap.mem_iff_isSome_getElem?.1 hk')
    simp only [Listener.updateRoutes, Std.ExtTreeMap.getElem?_filter', Option.filter_eq_some_iff,
      decide_eq_true_eq] at hr hr'
    rw [hr.1] at hr'
    obtain rfl := Option.some.inj hr'.1
    exact hr'.2 hr.2

end RouteListenerMatcher

theorem ListenerTlsConfigValidator.validateListener_routesNamed (v : ListenerTlsConfigValidator)
    (gatewayKey : GatewayKey) {l : Listener} (hl : l.RoutesNamed) : (v.validateListener gatewayKey l).RoutesNamed := by
  unfold validateListener
  split
  · simp only
    split
    · exact ⟨hl.resolved, hl.unresolved, hl.disjoint⟩
    · exact hl
    · exact hl
  · exact hl

/-- **Gateways are deployed well named**, if the routes that are attached to them are named. -/
theorem Gateway.WellNamed.processed {domainPattern : String → Option (String → Bool)}
    {v : ListenerTlsConfigValidator} {m : RouteListenerMatcher} {g : Gateway} (hm : ∀ r ∈ m.routes, r.Named)
    (hg : g.WellNamed) : (g.processed domainPattern v m).WellNamed where
  name name l hl := by
    rw [getElem?_processed] at hl
    obtain ⟨l', hl', rfl⟩ := Option.map_eq_some_iff.1 hl
    rw [Listener.name_processed]
    exact hg.name name l' hl'
  routes name l hl := by
    rw [getElem?_processed] at hl
    obtain ⟨l', hl', rfl⟩ := Option.map_eq_some_iff.1 hl
    have hvalidated := v.validateListener_routesNamed g.resourceKey (hg.routes name l' hl')
    have hattached : (m.attachTo domainPattern name (v.validateListener g.resourceKey l')).RoutesNamed :=
      RouteListenerMatcher.attachTo_routesNamed hm name hvalidated
    exact ⟨hattached.resolved, hattached.unresolved, hattached.disjoint⟩

end Kubvernor
