import Kubvernor.Controllers.RouteNames

/-!
# Where the routes of a gateway end up

The matching step takes every linked route to the listeners that admit it, or to the orphaned routes of
the gateway. A route may be found at a listener through several of its parent references; the sets of
routes are by key, so it is there once (`attachRoutes_partition`).
-/

namespace Kubvernor

namespace RouteListenerMatcher

variable {domainPattern : String → Option (String → Bool)} {m : RouteListenerMatcher} {route : Route}

/-! ## The listeners of a route -/

theorem matchParent_subset {found : List KubeListener × Option ResolutionStatus} (parent : ParentReference)
    (h : ∀ l ∈ found.1, l ∈ m.gateway.spec.listeners) :
    ∀ l ∈ (m.matchParent domainPattern route found parent).1, l ∈ m.gateway.spec.listeners := by
  intro l hl
  unfold matchParent at hl
  simp only at hl
  split at hl
  · split at hl
    · exact h l hl
    · split at hl
      · exact h l hl
      · split at hl
        · exact h l hl
        · rcases List.mem_append.1 hl with hl | hl
          · exact h l hl
          · exact List.mem_of_mem_filter (List.mem_of_mem_filter (List.mem_of_mem_filter hl))
  · exact h l hl

/-- The listeners a route matches are listeners of the gateway. -/
theorem mem_listeners_of_filterMatchingRoute {l : KubeListener}
    (hl : l ∈ (m.filterMatchingRoute domainPattern route).1) : l ∈ m.gateway.spec.listeners := by
  have hall : ∀ l ∈ (m.filterMatchingRoute domainPattern route).1, l ∈ m.gateway.spec.listeners := by
    unfold filterMatchingRoute
    refine List.foldlRecOn (motive := fun (found : List KubeListener × Option ResolutionStatus) =>
      ∀ l ∈ found.1, l ∈ m.gateway.spec.listeners) (route.parents.getD []) _ ?_ ?_
    · intro l hl
      cases hl
    · intro found hfound parent _
      exact matchParent_subset parent hfound
  exact hall l hl

/-! ## The routes of a listener name -/

/-- The routes collected for the listener of a name. -/
def routesFor (attachedRoutes : Std.ExtTreeMap String RouteSet) (name : String) : RouteSet :=
  attachedRoutes[name]?.getD ∅

variable {attachedRoutes : Std.ExtTreeMap String RouteSet} {name : String} {k : RouteKey}

theorem getElem?_insertNew {s : RouteSet} :
    (s.insertNew route)[k]? = s[k]?.or (if route.resourceKey = k then some route else none) := by
  rw [RouteSet.insertNew, Std.ExtTreeMap.getElem?_insertIfNew]
  simp only [Std.LawfulEqOrd.compare_eq_iff_eq]
  by_cases hkey : route.resourceKey = k
  · subst hkey
    cases hs : s[route.resourceKey]? with
    | none => simp [Std.ExtTreeMap.mem_iff_isSome_getElem?, hs]
    | some r => simp [Std.ExtTreeMap.mem_iff_isSome_getElem?, hs]
  · simp [hkey]

theorem getElem?_routesFor_alter (l : KubeListener) :
    (routesFor (attachedRoutes.alter l.name fun routes => some (RouteSet.insertNew (routes.getD ∅) route)) name)[k]? =
      (routesFor attachedRoutes name)[k]?.or (if route.resourceKey = k ∧ l.name = name then some route else none) := by
  unfold routesFor
  rw [Std.ExtTreeMap.getElem?_alter]
  by_cases hname : l.name = name
  · subst hname
    rw [if_pos Std.ReflCmp.compare_self, Option.getD_some, getElem?_insertNew]
    simp
  · rw [if_neg (by rwa [Std.LawfulEqOrd.compare_eq_iff_eq])]
    simp [hname]

theorem getElem?_routesFor_listeners (listeners : List KubeListener) :
    (routesFor (listeners.foldl (fun attachedRoutes l => attachedRoutes.alter l.name fun routes =>
        some (RouteSet.insertNew (routes.getD ∅) route)) attachedRoutes) name)[k]? =
      (routesFor attachedRoutes name)[k]?.or
        (if route.resourceKey = k ∧ ∃ l ∈ listeners, l.name = name then some route else none) := by
  induction listeners generalizing attachedRoutes with
  | nil => simp
  | cons l listeners ih =>
    rw [List.foldl_cons, ih, getElem?_routesFor_alter, Option.or_assoc]
    congr 1
    by_cases hkey : route.resourceKey = k
    · by_cases hname : l.name = name <;> simp [hkey, hname]
    · simp [hkey]

/-- The first route mapped to a listener of the name is the one that is there under its key. -/
theorem getElem?_routesFor (mappedRoutes : List RouteToListenersMapping) :
    (routesFor (calculateAttachedRoutes mappedRoutes) name)[k]? =
      (mappedRoutes.find? fun mapping =>
        decide (mapping.route.resourceKey = k ∧ ∃ l ∈ mapping.listeners, l.name = name)).map (·.route) := by
  have hfold (attachedRoutes : Std.ExtTreeMap String RouteSet) :
      (routesFor (mappedRoutes.foldl (fun attachedRoutes mapping => mapping.listeners.foldl
          (fun attachedRoutes l => attachedRoutes.alter l.name fun routes =>
            some (RouteSet.insertNew (routes.getD ∅) mapping.route)) attachedRoutes) attachedRoutes) name)[k]? =
        (routesFor attachedRoutes name)[k]?.or ((mappedRoutes.find? fun mapping =>
          decide (mapping.route.resourceKey = k ∧ ∃ l ∈ mapping.listeners, l.name = name)).map (·.route)) := by
    induction mappedRoutes generalizing attachedRoutes with
    | nil => simp
    | cons mapping mappedRoutes ih =>
      rw [List.foldl_cons, ih, getElem?_routesFor_listeners, Option.or_assoc, List.find?_cons]
      congr 1
      by_cases hmapping : mapping.route.resourceKey = k ∧ ∃ l ∈ mapping.listeners, l.name = name
      · rw [if_pos hmapping, decide_eq_true hmapping]
        rfl
      · rw [if_neg hmapping, decide_eq_false hmapping]
        rfl
  have hempty : (routesFor ∅ name)[k]? = none := by simp [routesFor]
  rw [calculateAttachedRoutes, hfold, hempty, Option.none_or]

/-- A listener name has the routes that are mapped to a listener of that name. -/
theorem mem_routesFor {mappedRoutes : List RouteToListenersMapping} :
    k ∈ routesFor (calculateAttachedRoutes mappedRoutes) name ↔
      ∃ mapping ∈ mappedRoutes, mapping.route.resourceKey = k ∧ ∃ l ∈ mapping.listeners, l.name = name := by
  rw [Std.ExtTreeMap.mem_iff_isSome_getElem?, getElem?_routesFor, Option.isSome_map, List.find?_isSome]
  simp only [decide_eq_true_eq]

theorem routesFor_filterMatchingRoutes : routesFor (calculateAttachedRoutes (m.filterMatchingRoutes domainPattern).1) name =
    (m.attachedRoutes? domainPattern name).getD ∅ := rfl

/-- The routes attached to a listener of the gateway are those that match it. -/
theorem mem_attachedRoutes?_iff (hnames : (m.gateway.spec.listeners.map (·.name)).Nodup) {kl : KubeListener}
    (hkl : kl ∈ m.gateway.spec.listeners) :
    k ∈ (m.attachedRoutes? domainPattern kl.name).getD ∅ ↔
      ∃ r ∈ m.routes, r.resourceKey = k ∧ kl ∈ (m.filterMatchingRoute domainPattern r).1 := by
  rw [← routesFor_filterMatchingRoutes, mem_routesFor]
  constructor
  · rintro ⟨mapping, hmapping, hk, l, hl, hname⟩
    obtain ⟨r, hr, rfl⟩ := List.mem_map.1 (List.mem_filter.1 hmapping).1
    obtain rfl := List.inj_on_of_nodup_map hnames (mem_listeners_of_filterMatchingRoute hl) hkl hname
    exact ⟨r, hr, hk, hl⟩
  · rintro ⟨r, hr, hk, hkl⟩
    refine ⟨m.matchRoute domainPattern r, List.mem_filter.2 ⟨List.mem_map_of_mem hr, ?_⟩, hk, kl, hkl, rfl⟩
    rw [decide_eq_true_eq]
    exact List.ne_nil_of_mem hkl

/-- The orphaned routes are those that match no listener. -/
theorem mem_orphanedRoutes_iff {g : Gateway} : k ∈ (m.attachRoutes domainPattern g).orphanedRoutes ↔
    ∃ r ∈ m.routes, r.resourceKey = k ∧ (m.filterMatchingRoute domainPattern r).1 = [] := by
  show k ∈ RouteSet.ofRoutes (m.filterMatchingRoutes domainPattern).2 ↔ _
  rw [RouteSet.ofRoutes, Std.ExtTreeMap.mem_ofList, List.contains_iff_mem, List.map_map]
  simp only [filterMatchingRoutes, List.mem_map, List.mem_filter, decide_eq_true_eq, Function.comp_apply]
  constructor
  · rintro ⟨_, ⟨_, ⟨⟨r, hr, rfl⟩, hnone⟩, rfl⟩, hk⟩
    exact ⟨r, hr, hk, hnone⟩
  · rintro ⟨r, hr, hk, hnone⟩
    exact ⟨_, ⟨_, ⟨⟨r, hr, rfl⟩, hnone⟩, rfl⟩, hk⟩

end RouteListenerMatcher

/-! ## The routes a listener is given -/

/-- The listener has the route of this key, resolved or not. -/
def Listener.HasRoute (l : Listener) (k : RouteKey) : Prop :=
  k ∈ l.data.resolvedRoutes ∨ k ∈ l.data.unresolvedRoutes

/-- No route of the listener is counted twice or left out. -/
structure Listener.Accounted (l : Listener) : Prop where
  disjoint : ∀ k ∈ l.data.resolvedRoutes, k ∉ l.data.unresolvedRoutes
  counted : l.data.attachedRoutes = l.data.resolvedRoutes.size + l.data.unresolvedRoutes.size

/-- The listener has no routes yet. -/
structure Listener.Fresh (l : Listener) : Prop where
  resolved : l.data.resolvedRoutes = ∅
  unresolved : l.data.unresolvedRoutes = ∅
  attached : l.data.attachedRoutes = 0

theorem Listener.fresh_of_tryFrom {kl : KubeListener} {l : Listener} (h : Listener.tryFrom kl = .ok l) : l.Fresh := by
  obtain ⟨tlsType, -, hdata⟩ := Listener.eq_of_tryFrom h
  constructor
  all_goals rw [hdata]

theorem ListenerTlsConfigValidator.validateListener_fresh (v : ListenerTlsConfigValidator) (gatewayKey : GatewayKey)
    {l : Listener} (hl : l.Fresh) : (v.validateListener gatewayKey l).Fresh := by
  unfold validateListener
  split
  · simp only
    split
    · exact ⟨hl.resolved, hl.unresolved, hl.attached⟩
    · exact hl
    · exact hl
  · exact hl

namespace RouteListenerMatcher

variable {domainPattern : String → Option (String → Bool)} {m : RouteListenerMatcher} {name : String}
variable {l : Listener} (hl : l.Fresh)
include hl

theorem hasRoute_attachTo {k : RouteKey} :
    (m.attachTo domainPattern name l).HasRoute k ↔ k ∈ (m.attachedRoutes? domainPattern name).getD ∅ := by
  unfold attachTo Listener.HasRoute
  cases m.attachedRoutes? domainPattern name with
  | none => simp [hl.resolved, hl.unresolved]
  | some routes =>
    simp only [Listener.updateRoutes, Std.ExtTreeMap.mem_iff_isSome_getElem?, Std.ExtTreeMap.getElem?_filter',
      Option.getD_some]
    cases routes[k]? with
    | none => simp
    | some r => by_cases hr : r.resolutionStatus = .resolved <;> simp [hr]

theorem accounted_attachTo : (m.attachTo domainPattern name l).Accounted := by
  unfold attachTo
  cases m.attachedRoutes? domainPattern name with
  | none =>
    refine ⟨fun k hk => ?_, ?_⟩
    · rw [hl.resolved] at hk
      exact absurd hk Std.ExtTreeMap.not_mem_empty
    · rw [hl.attached, hl.resolved, hl.unresolved]
      rfl
  | some routes =>
    refine ⟨fun k hk hk' => ?_, Nat.add_comm _ _⟩
    simp only [Listener.updateRoutes, Std.ExtTreeMap.mem_iff_isSome_getElem?, Std.ExtTreeMap.getElem?_filter',
      Option.isSome_iff_exists, Option.filter_eq_some_iff, decide_eq_true_eq] at hk hk'
    obtain ⟨r, hr, hresolved⟩ := hk
    obtain ⟨r', hr', hunresolved⟩ := hk'
    rw [hr] at hr'
    obtain rfl := Option.some.inj hr'
    exact hunresolved hresolved

end RouteListenerMatcher

/-! ## The partition -/

/-- How the linked routes are shared out over a gateway. -/
structure RouteListenerMatcher.Partition (domainPattern : String → Option (String → Bool)) (m : RouteListenerMatcher)
    (g : Gateway) : Prop where
  placed : ∀ r ∈ m.routes, Xor (r.resourceKey ∈ g.orphanedRoutes)
    (∃ (name : String) (l : Listener), g.listeners[name]? = some l ∧ l.HasRoute r.resourceKey)
  listed : ∀ kl ∈ m.gateway.spec.listeners, ∃ l : Listener, g.listeners[kl.name]? = some l ∧
    ∀ k, l.HasRoute k ↔ ∃ r ∈ m.routes, r.resourceKey = k ∧ kl ∈ (m.filterMatchingRoute domainPattern r).1
  named : ∀ (name : String) (l : Listener), g.listeners[name]? = some l → ∃ kl ∈ m.gateway.spec.listeners, kl.name = name
  accounted : ∀ (name : String) (l : Listener), g.listeners[name]? = some l → l.Accounted

section Partition

variable (parseUuid : String → Option Uuid) (domainPattern : String → Option (String → Bool))
variable {m : RouteListenerMatcher} {g : Gateway} {t : GatewayImplementationType}

/-- The listeners of a gateway, validated and with their routes. -/
theorem getElem?_attachRoutes_validate (v : ListenerTlsConfigValidator) (g : Gateway) (name : String) :
    (m.attachRoutes domainPattern (v.validate g)).listeners[name]? =
      g.listeners[name]?.map fun l => m.attachTo domainPattern name (v.validateListener g.resourceKey l) := by
  rw [RouteListenerMatcher.getElem?_attachRoutes, ListenerTlsConfigValidator.validate, Std.ExtTreeMap.getElem?_map,
    Option.map_map]
  rfl

/-- A route is orphaned, or at a listener, but not both, if the listeners have the routes that match them. -/
theorem placed_of_listed {g : Gateway} (hkeys : (m.routes.map (·.resourceKey)).Nodup)
    (hlisted : ∀ kl ∈ m.gateway.spec.listeners, ∃ l : Listener,
      (m.attachRoutes domainPattern g).listeners[kl.name]? = some l ∧
      ∀ k, l.HasRoute k ↔ ∃ r ∈ m.routes, r.resourceKey = k ∧ kl ∈ (m.filterMatchingRoute domainPattern r).1)
    (hnamed : ∀ (name : String) (l : Listener), (m.attachRoutes domainPattern g).listeners[name]? = some l →
      ∃ kl ∈ m.gateway.spec.listeners, kl.name = name) {r : Route} (hr : r ∈ m.routes) :
    Xor (r.resourceKey ∈ (m.attachRoutes domainPattern g).orphanedRoutes) (∃ (name : String) (l : Listener),
      (m.attachRoutes domainPattern g).listeners[name]? = some l ∧ l.HasRoute r.resourceKey) := by
  rw [RouteListenerMatcher.mem_orphanedRoutes_iff]
  by_cases hnone : (m.filterMatchingRoute domainPattern r).1 = []
  · refine .inl ⟨⟨r, hr, rfl, hnone⟩, ?_⟩
    rintro ⟨name, l, hl, hroute⟩
    obtain ⟨kl, hkl, rfl⟩ := hnamed name l hl
    obtain ⟨l', hl', hiff⟩ := hlisted kl hkl
    rw [hl] at hl'
    obtain rfl := Option.some.inj hl'
    obtain ⟨r', hr', hkey, hmem⟩ := (hiff _).1 hroute
    obtain rfl := List.inj_on_of_nodup_map hkeys hr' hr hkey
    rw [hnone] at hmem
    cases hmem
  · refine .inr ⟨?_, ?_⟩
    · obtain ⟨kl, hkl⟩ := List.exists_mem_of_ne_nil _ hnone
      obtain ⟨l, hl, hiff⟩ := hlisted kl (RouteListenerMatcher.mem_listeners_of_filterMatchingRoute hkl)
      exact ⟨kl.name, l, hl, (hiff _).2 ⟨r, hr, rfl, hkl⟩⟩
    · rintro ⟨r', hr', hkey, hnone'⟩
      obtain rfl := List.inj_on_of_nodup_map hkeys hr' hr hkey
      exact hnone hnone'

/-- **The linked routes are shared out over a gateway** whose listeners have different names: each goes to
exactly the listeners it matches, once to each, and to the orphaned routes if there is none. -/
theorem attachRoutes_partition (v : ListenerTlsConfigValidator) (hg : Gateway.tryFrom parseUuid m.gateway t = .ok g)
    (hnames : (m.gateway.spec.listeners.map (·.name)).Nodup) (hkeys : (m.routes.map (·.resourceKey)).Nodup) :
    m.Partition domainPattern (m.attachRoutes domainPattern (v.validate g)) := by
  have hlisteners := getElem?_attachRoutes_validate domainPattern (m := m) v g
  have hfresh {name : String} {l : Listener} (hl : g.listeners[name]? = some l) :
      (v.validateListener g.resourceKey l).Fresh := by
    obtain ⟨-, kl, -, hkl⟩ := Gateway.getElem?_of_tryFrom hg hl
    exact v.validateListener_fresh g.resourceKey (Listener.fresh_of_tryFrom hkl)
  have hlisted : ∀ kl ∈ m.gateway.spec.listeners, ∃ l : Listener,
      (m.attachRoutes domainPattern (v.validate g)).listeners[kl.name]? = some l ∧
      ∀ k, l.HasRoute k ↔ ∃ r ∈ m.routes, r.resourceKey = k ∧ kl ∈ (m.filterMatchingRoute domainPattern r).1 := by
    intro kl hkl
    obtain ⟨l, hl⟩ := Gateway.exists_listener_of_tryFrom hg hkl
    refine ⟨m.attachTo domainPattern kl.name (v.validateListener g.resourceKey l), by rw [hlisteners, hl]; rfl, ?_⟩
    intro k
    rw [RouteListenerMatcher.hasRoute_attachTo (hfresh hl), RouteListenerMatcher.mem_attachedRoutes?_iff hnames hkl]
  have hnamed : ∀ name l, (m.attachRoutes domainPattern (v.validate g)).listeners[name]? = some l →
      ∃ kl ∈ m.gateway.spec.listeners, kl.name = name := by
    intro name l hl
    rw [hlisteners] at hl
    obtain ⟨l', hl', -⟩ := Option.map_eq_some_iff.1 hl
    obtain ⟨hname, kl, hkl, hok⟩ := Gateway.getElem?_of_tryFrom hg hl'
    obtain ⟨tlsType, -, hdata⟩ := Listener.eq_of_tryFrom hok
    refine ⟨kl, hkl, ?_⟩
    rw [← hname, Listener.name, hdata]
  refine ⟨fun r hr => placed_of_listed domainPattern hkeys hlisted hnamed hr, hlisted, hnamed, fun name l hl => ?_⟩
  rw [hlisteners] at hl
  obtain ⟨l', hl', rfl⟩ := Option.map_eq_some_iff.1 hl
  exact RouteListenerMatcher.accounted_attachTo (hfresh hl')

end Partition

/-- A route that refers to its gateway twice, and one that asks for a port no listener has. -/
def twiceReferringRoutes : List Route :=
  [{ refusedRoute with parents := some [{ name := "gw" }, { name := "gw", sectionName := some "https" }] },
    { refusedRoute with
      resourceKey := { name := "other", kind := "HTTPRoute" }
      parents := some [{ name := "gw", port := some 8080 }] }]

/-- The first route is at the listener once, the second one is orphaned. -/
theorem twiceReferringRoutes_partition :
    Gateway.tryFrom (fun _ => some 1) secretlessKubeGateway .envoy = .ok secretlessGateway ∧
    RouteListenerMatcher.Partition (fun pattern => some (· = pattern))
      { gateway := secretlessKubeGateway, routes := twiceReferringRoutes }
      (RouteListenerMatcher.attachRoutes (fun pattern => some (· = pattern))
        { gateway := secretlessKubeGateway, routes := twiceReferringRoutes }
        (emptyValidator.validate secretlessGateway)) :=
  ⟨rfl, attachRoutes_partition (fun _ => some 1) _ (t := .envoy) emptyValidator rfl (by decide) (by decide)⟩

end Kubvernor
