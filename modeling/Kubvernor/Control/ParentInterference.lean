import Kubvernor.Control.OrphanedRoutes
import Kubvernor.Controllers.RoutePartition

/-!
# Parent references that interfere

A route is matched once for each of its parent references. What it matches is put together from them,
so a reference that selects no listener changes nothing there; but the reason it leaves is the reason
of the route, and the route is unresolved on every listener it is found at. So it is for a reference
that asks for a section and not for one that only asks for a port (`insertParent_resolved_iff`).
-/

namespace Kubvernor

namespace RouteListenerMatcher

variable {domainPattern : String → Option (String → Bool)} {m : RouteListenerMatcher} {r : Route}

/-! ## One round for each parent reference -/

/-- The listeners a parent reference selects. -/
def selectedBy (domainPattern : String → Option (String → Bool)) (m : RouteListenerMatcher) (r : Route)
    (parent : ParentReference) : List KubeListener :=
  if m.IsParent r parent then (m.byHostname domainPattern r).filter parent.selects else []

/-- A parent reference to the gateway that selects none of its listeners. -/
def SelectsNone (domainPattern : String → Option (String → Bool)) (m : RouteListenerMatcher) (r : Route)
    (parent : ParentReference) : Prop :=
  m.IsParent r parent ∧ m.selectedBy domainPattern r parent = []

theorem byHostname_of_byNamespace (h : m.byNamespace r = []) : m.byHostname domainPattern r = [] := by
  rw [byHostname, h]
  rfl

/-- A round adds the selected listeners, and the reason if there are none. -/
theorem matchParent_eq_selectedBy (found : List KubeListener × Option ResolutionStatus) (parent : ParentReference) :
    m.matchParent domainPattern r found parent = (found.1 ++ m.selectedBy domainPattern r parent,
      if m.selectedBy domainPattern r parent = [] then
        ((m.reasonOf domainPattern r parent).map ResolutionStatus.notResolved).or found.2
      else found.2) := by
  rw [matchParent_eq]
  unfold selectedBy reasonOf
  by_cases hparent : m.IsParent r parent
  · simp only [if_pos hparent]
    by_cases hns : m.byNamespace r = []
    · simp [hns, byHostname_of_byNamespace hns]
    · by_cases hhost : m.byHostname domainPattern r = []
      · simp [hns, hhost]
      · by_cases hsection : parent.sectionName.isSome = true
        · by_cases hmatched : (m.byHostname domainPattern r).filter parent.selects = []
          · simp [hns, hhost, hsection, hmatched]
          · simp only [hns, hhost, hmatched, false_and, if_false]
        · simp [hns, hhost, hsection]
  · simp [hparent]

theorem foldl_matchParent_fst (parents : List ParentReference) (found : List KubeListener × Option ResolutionStatus) :
    (parents.foldl (m.matchParent domainPattern r) found).1 =
      found.1 ++ parents.flatMap (m.selectedBy domainPattern r) := by
  induction parents generalizing found with
  | nil => rw [List.foldl_nil, List.flatMap_nil, List.append_nil]
  | cons parent parents ih =>
    rw [List.foldl_cons, ih, matchParent_eq_selectedBy, List.flatMap_cons, List.append_assoc]

theorem foldl_matchParent_snd (parents : List ParentReference) (found : List KubeListener × Option ResolutionStatus) :
    (parents.foldl (m.matchParent domainPattern r) found).2 = none ↔ found.2 = none ∧
      ∀ parent ∈ parents, m.selectedBy domainPattern r parent = [] → m.reasonOf domainPattern r parent = none := by
  induction parents generalizing found with
  | nil => simp
  | cons parent parents ih =>
    rw [List.foldl_cons, ih, matchParent_eq_selectedBy, List.forall_mem_cons, ← and_assoc]
    refine and_congr_left' ?_
    by_cases hnone : m.selectedBy domainPattern r parent = []
    · simp only [hnone, if_true, forall_const]
      cases m.reasonOf domainPattern r parent <;> simp
    · simp [hnone]

/-- The reasons that are left are reasons why a route is not resolved. -/
theorem foldl_matchParent_ne_resolved (parents : List ParentReference)
    {found : List KubeListener × Option ResolutionStatus} (h : found.2 ≠ some .resolved) :
    (parents.foldl (m.matchParent domainPattern r) found).2 ≠ some .resolved := by
  induction parents generalizing found with
  | nil => exact h
  | cons parent parents ih =>
    rw [List.foldl_cons]
    refine ih ?_
    rw [matchParent_eq_selectedBy]
    dsimp only
    split
    · cases m.reasonOf domainPattern r parent with
      | none => exact h
      | some reason => exact fun heq => nomatch heq
    · exact h

theorem filterMatchingRoute_fst : (m.filterMatchingRoute domainPattern r).1 =
    (r.parents.getD []).flatMap (m.selectedBy domainPattern r) := by
  rw [filterMatchingRoute, foldl_matchParent_fst]
  rfl

/-- Matching leaves a route resolved if it was and no parent reference has left a reason. -/
theorem matchRoute_resolved_iff : (m.matchRoute domainPattern r).route.resolutionStatus = .resolved ↔
    r.resolutionStatus = .resolved ∧ ∀ parent ∈ r.parents.getD [],
      m.selectedBy domainPattern r parent = [] → m.reasonOf domainPattern r parent = none := by
  have hnone := @foldl_matchParent_snd domainPattern m r (r.parents.getD []) ([], none)
  have hne := @foldl_matchParent_ne_resolved domainPattern m r (r.parents.getD []) ([], none) (fun heq => nomatch heq)
  rw [and_iff_right rfl] at hnone
  rw [← hnone]
  change ((m.filterMatchingRoute domainPattern r).2.getD r.resolutionStatus = .resolved) ↔ _ ∧
    (m.filterMatchingRoute domainPattern r).2 = none
  change (m.filterMatchingRoute domainPattern r).2 ≠ _ at hne
  cases hstatus : (m.filterMatchingRoute domainPattern r).2 with
  | none => simp
  | some status =>
    rw [hstatus] at hne
    refine iff_of_false (fun heq => hne (congrArg some heq)) fun h => nomatch h.2

/-- Where a listener admits the hostnames, only a section that is asked for in vain leaves a reason. -/
theorem reasonOf_eq_none_iff (hhost : m.byHostname domainPattern r ≠ []) {parent : ParentReference} :
    m.reasonOf domainPattern r parent = none ↔ ¬ (m.IsParent r parent ∧ parent.sectionName.isSome) := by
  have hns : m.byNamespace r ≠ [] := fun h => hhost (byHostname_of_byNamespace h)
  rw [← Option.not_isSome_iff_eq_none, reasonOf_isSome]
  simp only [hns, hhost, false_or]

/-! ## Where a route is resolved -/

variable {l : Listener} {name : String} {k : RouteKey}

theorem mem_resolvedRoutes_attachTo (hl : l.Fresh) : k ∈ (m.attachTo domainPattern name l).data.resolvedRoutes ↔
    ∃ route ∈ ((m.attachedRoutes? domainPattern name).getD ∅)[k]?, route.resolutionStatus = .resolved := by
  unfold attachTo
  cases m.attachedRoutes? domainPattern name with
  | none => simp [hl.resolved]
  | some routes =>
    simp only [Listener.updateRoutes, Std.ExtTreeMap.mem_iff_isSome_getElem?, Std.ExtTreeMap.getElem?_filter',
      Option.getD_some]
    cases routes[k]? with
    | none => simp
    | some route => simp

/-- Under its key there is the route itself, as matching left it. -/
theorem getElem?_attachedRoutes? (hkeys : (m.routes.map (·.resourceKey)).Nodup) (hr : r ∈ m.routes)
    {kl : KubeListener} (hkl : kl ∈ (m.filterMatchingRoute domainPattern r).1) :
    ((m.attachedRoutes? domainPattern kl.name).getD ∅)[r.resourceKey]? = some (m.matchRoute domainPattern r).route := by
  rw [← routesFor_filterMatchingRoutes, getElem?_routesFor]
  have hmapping : m.matchRoute domainPattern r ∈ (m.filterMatchingRoutes domainPattern).1 :=
    List.mem_filter.2 ⟨List.mem_map_of_mem hr, decide_eq_true (List.ne_nil_of_mem hkl)⟩
  cases hfind : (m.filterMatchingRoutes domainPattern).1.find? fun mapping =>
      decide (mapping.route.resourceKey = r.resourceKey ∧ ∃ l ∈ mapping.listeners, l.name = kl.name) with
  | none => exact absurd (decide_eq_true ⟨rfl, kl, hkl, rfl⟩) (List.find?_eq_none.1 hfind _ hmapping)
  | some mapping =>
    have hfound := List.find?_some hfind
    rw [decide_eq_true_eq] at hfound
    obtain ⟨hkey, -⟩ := hfound
    obtain ⟨r', hr', rfl⟩ := List.mem_map.1 (List.mem_filter.1 (List.mem_of_find?_eq_some hfind)).1
    obtain rfl := List.inj_on_of_nodup_map hkeys hr' hr hkey
    rfl

end RouteListenerMatcher

/-- The route with one more parent reference among the others. -/
def Route.withParent (r : Route) (ps₁ : List ParentReference) (p : ParentReference) (ps₂ : List ParentReference) : Route :=
  { r with parents := some (ps₁ ++ p :: ps₂) }

namespace RouteListenerMatcher

section Insertion

variable (parseUuid : String → Option Uuid) (domainPattern : String → Option (String → Bool))
variable {m : RouteListenerMatcher} {g : Gateway} {t : GatewayImplementationType} {r : Route}

/-- The route of this key is resolved at the listener once the routes are attached. -/
def ResolvedAt (m : RouteListenerMatcher) (v : ListenerTlsConfigValidator) (g : Gateway) (kl : KubeListener)
    (k : RouteKey) : Prop :=
  ∃ l, (m.attachRoutes domainPattern (v.validate g)).listeners[kl.name]? = some l ∧ k ∈ l.data.resolvedRoutes

theorem resolvedAt_iff (v : ListenerTlsConfigValidator) (hg : Gateway.tryFrom parseUuid m.gateway t = .ok g)
    (hkeys : (m.routes.map (·.resourceKey)).Nodup) (hr : r ∈ m.routes) {kl : KubeListener}
    (hkl : kl ∈ (m.filterMatchingRoute domainPattern r).1) :
    m.ResolvedAt domainPattern v g kl r.resourceKey ↔
      (m.matchRoute domainPattern r).route.resolutionStatus = .resolved := by
  obtain ⟨l, hl⟩ := Gateway.exists_listener_of_tryFrom hg (mem_listeners_of_filterMatchingRoute hkl)
  obtain ⟨-, kl', -, hkl'⟩ := Gateway.getElem?_of_tryFrom hg hl
  have hfresh := v.validateListener_fresh g.resourceKey (Listener.fresh_of_tryFrom hkl')
  unfold ResolvedAt
  rw [getElem?_attachRoutes_validate, hl, Option.map_some]
  simp only [Option.some.injEq, exists_eq_left', mem_resolvedRoutes_attachTo hfresh,
    getElem?_attachedRoutes? hkeys hr hkl, Option.mem_some_iff]

variable {rs₁ rs₂ : List Route} {ps₁ ps₂ : List ParentReference} {p : ParentReference}

/-- A reference that selects no listener does not change what the route matches. -/
theorem filterMatchingRoute_withParent (hparents : r.parents.getD [] = ps₁ ++ ps₂)
    (hp : m.selectedBy domainPattern r p = []) :
    (m.filterMatchingRoute domainPattern (r.withParent ps₁ p ps₂)).1 = (m.filterMatchingRoute domainPattern r).1 := by
  rw [filterMatchingRoute_fst, filterMatchingRoute_fst, hparents]
  change (ps₁ ++ p :: ps₂).flatMap (m.selectedBy domainPattern r) = _
  rw [List.flatMap_append, List.flatMap_cons, hp, List.nil_append, List.flatMap_append]

theorem matchRoute_withParent_resolved_iff (hparents : r.parents.getD [] = ps₁ ++ ps₂)
    (hp : m.selectedBy domainPattern r p = []) :
    (m.matchRoute domainPattern (r.withParent ps₁ p ps₂)).route.resolutionStatus = .resolved ↔
      (m.matchRoute domainPattern r).route.resolutionStatus = .resolved ∧ m.reasonOf domainPattern r p = none := by
  rw [matchRoute_resolved_iff, matchRoute_resolved_iff, hparents, and_assoc]
  refine and_congr_right fun _ => ?_
  change (∀ parent ∈ ps₁ ++ p :: ps₂, m.selectedBy domainPattern r parent = [] →
    m.reasonOf domainPattern r parent = none) ↔ _
  simp only [List.mem_append, List.mem_cons, or_imp, forall_and, forall_eq, hp, forall_const]
  tauto

/-- On a listener the route matches it is then resolved if it was and the reference leaves no reason. -/
theorem resolvedAt_withParent_iff (v : ListenerTlsConfigValidator) (hg : Gateway.tryFrom parseUuid m.gateway t = .ok g)
    (hroutes : m.routes = rs₁ ++ r :: rs₂) (hkeys : (m.routes.map (·.resourceKey)).Nodup)
    (hparents : r.parents.getD [] = ps₁ ++ ps₂) (hp : m.selectedBy domainPattern r p = []) {kl : KubeListener}
    (hkl : kl ∈ (m.filterMatchingRoute domainPattern r).1) :
    ResolvedAt domainPattern { m with routes := rs₁ ++ r.withParent ps₁ p ps₂ :: rs₂ } v g kl r.resourceKey ↔
      (m.matchRoute domainPattern r).route.resolutionStatus = .resolved ∧ m.reasonOf domainPattern r p = none := by
  have hkeys' : ((rs₁ ++ r.withParent ps₁ p ps₂ :: rs₂).map (·.resourceKey)).Nodup := by
    rw [hroutes, List.map_append, List.map_cons] at hkeys
    rw [List.map_append, List.map_cons]
    exact hkeys
  have hsame := filterMatchingRoute_withParent domainPattern hparents hp
  rw [← matchRoute_withParent_resolved_iff domainPattern hparents hp]
  exact resolvedAt_iff parseUuid domainPattern (m := { m with routes := rs₁ ++ r.withParent ps₁ p ps₂ :: rs₂ })
    (r := r.withParent ps₁ p ps₂) v hg hkeys' (List.mem_append_right _ List.mem_cons_self) (hsame.symm ▸ hkl)

/-- The route is found at some listener; it stays resolved on all of them if the reference leaves no reason. -/
theorem staysResolved_iff (v : ListenerTlsConfigValidator) (hg : Gateway.tryFrom parseUuid m.gateway t = .ok g)
    (hroutes : m.routes = rs₁ ++ r :: rs₂) (hkeys : (m.routes.map (·.resourceKey)).Nodup)
    (hparents : r.parents.getD [] = ps₁ ++ ps₂) (hp : m.selectedBy domainPattern r p = [])
    (hfound : (m.filterMatchingRoute domainPattern r).1 ≠ []) :
    (∀ kl ∈ (m.filterMatchingRoute domainPattern r).1, m.ResolvedAt domainPattern v g kl r.resourceKey →
        ResolvedAt domainPattern { m with routes := rs₁ ++ r.withParent ps₁ p ps₂ :: rs₂ } v g kl r.resourceKey) ↔
      ((m.matchRoute domainPattern r).route.resolutionStatus = .resolved → m.reasonOf domainPattern r p = none) := by
  have hr : r ∈ m.routes := by simp [hroutes]
  constructor
  · intro hstays hresolved
    obtain ⟨kl, hkl⟩ := List.exists_mem_of_ne_nil _ hfound
    have hafter := hstays kl hkl ((resolvedAt_iff parseUuid domainPattern v hg hkeys hr hkl).2 hresolved)
    exact ((resolvedAt_withParent_iff parseUuid domainPattern v hg hroutes hkeys hparents hp hkl).1 hafter).2
  · intro hreason kl hkl hbefore
    have hstatus := (resolvedAt_iff parseUuid domainPattern v hg hkeys hr hkl).1 hbefore
    exact (resolvedAt_withParent_iff parseUuid domainPattern v hg hroutes hkeys hparents hp hkl).2
      ⟨hstatus, hreason hstatus⟩

/-- Where a listener admits the hostnames, the reasons are sections that are asked for in vain. -/
theorem exists_selectsNone_iff (hhost : m.byHostname domainPattern r ≠ []) {parents : List ParentReference} :
    (∃ parent ∈ parents, m.SelectsNone domainPattern r parent ∧ parent.sectionName.isSome) ↔
      ¬ ∀ parent ∈ parents, m.selectedBy domainPattern r parent = [] → m.reasonOf domainPattern r parent = none := by
  push Not
  refine exists_congr fun parent => and_congr_right fun _ => ?_
  rw [SelectsNone, and_comm (b := m.selectedBy domainPattern r parent = []), and_assoc, Ne, reasonOf_eq_none_iff hhost,
    not_not]

/-- **A parent reference that selects no listener** does not touch the others exactly if it asks for no
section, or there is nothing to touch. -/
theorem insertParent_resolved_iff (v : ListenerTlsConfigValidator) (hg : Gateway.tryFrom parseUuid m.gateway t = .ok g)
    (hroutes : m.routes = rs₁ ++ r :: rs₂) (hkeys : (m.routes.map (·.resourceKey)).Nodup)
    (hparents : r.parents.getD [] = ps₁ ++ ps₂) (hp : m.SelectsNone domainPattern r p) :
    ((m.filterMatchingRoute domainPattern (r.withParent ps₁ p ps₂)).1 = (m.filterMatchingRoute domainPattern r).1 ∧
      ∀ kl ∈ (m.filterMatchingRoute domainPattern r).1, m.ResolvedAt domainPattern v g kl r.resourceKey →
        ResolvedAt domainPattern { m with routes := rs₁ ++ r.withParent ps₁ p ps₂ :: rs₂ } v g kl r.resourceKey) ↔
      p.sectionName = none ∨ (∀ parent ∈ ps₁ ++ ps₂, m.selectedBy domainPattern r parent = []) ∨
        r.resolutionStatus ≠ .resolved ∨
        ∃ parent ∈ ps₁ ++ ps₂, m.SelectsNone domainPattern r parent ∧ parent.sectionName.isSome := by
  obtain ⟨hparent, hnone⟩ := hp
  have hlisteners : (m.filterMatchingRoute domainPattern r).1 = [] ↔
      ∀ parent ∈ ps₁ ++ ps₂, m.selectedBy domainPattern r parent = [] := by
    rw [filterMatchingRoute_fst, hparents, List.flatMap_eq_nil_iff]
  rw [and_iff_right (filterMatchingRoute_withParent domainPattern hparents hnone), ← hlisteners]
  by_cases hfound : (m.filterMatchingRoute domainPattern r).1 = []
  · rw [hfound]
    exact iff_of_true (fun _ h => nomatch h) (.inr (.inl rfl))
  · have hhost : m.byHostname domainPattern r ≠ [] := by
      intro hempty
      refine hfound (hlisteners.2 fun parent _ => ?_)
      rw [selectedBy, hempty]
      exact ite_self _
    rw [staysResolved_iff parseUuid domainPattern v hg hroutes hkeys hparents hnone hfound, matchRoute_resolved_iff,
      hparents, reasonOf_eq_none_iff hhost, and_iff_right hparent, Option.not_isSome_iff_eq_none,
      exists_selectsNone_iff domainPattern hhost]
    tauto

end Insertion

end RouteListenerMatcher

/-! ## A section that no listener has -/

/-- A resolved route that refers to the gateway. -/
def resolvedRoute : Route where
  resourceKey := { name := "route", kind := "HTTPRoute" }
  parents := some [{ name := "gw" }]
  resolutionStatus := .resolved
  routeType := .http []

def resolvedRouteMatcher : RouteListenerMatcher where
  gateway := secretlessKubeGateway
  routes := [resolvedRoute]

/-- A port that no listener has is asked for without harm. -/
theorem resolvedRoute_withPort :
    Gateway.tryFrom (fun _ => some 1) secretlessKubeGateway .envoy = .ok secretlessGateway ∧
    resolvedRouteMatcher.SelectsNone (fun pattern => some (· = pattern)) resolvedRoute { name := "gw", port := some 8080 } ∧
    (resolvedRouteMatcher.filterMatchingRoute (fun pattern => some (· = pattern))
        (resolvedRoute.withParent [{ name := "gw" }] { name := "gw", port := some 8080 } [])).1 =
      (resolvedRouteMatcher.filterMatchingRoute (fun pattern => some (· = pattern)) resolvedRoute).1 ∧
    ∀ kl ∈ (resolvedRouteMatcher.filterMatchingRoute (fun pattern => some (· = pattern)) resolvedRoute).1,
      resolvedRouteMatcher.ResolvedAt (fun pattern => some (· = pattern)) emptyValidator secretlessGateway kl
        resolvedRoute.resourceKey →
      RouteListenerMatcher.ResolvedAt (fun pattern => some (· = pattern))
        { resolvedRouteMatcher with
          routes := [resolvedRoute.withParent [{ name := "gw" }] { name := "gw", port := some 8080 } []] }
        emptyValidator secretlessGateway kl resolvedRoute.resourceKey := by
  have hp : resolvedRouteMatcher.SelectsNone (fun pattern => some (· = pattern)) resolvedRoute
      { name := "gw", port := some 8080 } := ⟨by decide, by decide +kernel⟩
  have hroutes : resolvedRouteMatcher.routes = [] ++ resolvedRoute :: [] := rfl
  have hparents : resolvedRoute.parents.getD [] = [{ name := "gw" }] ++ [] := rfl
  exact ⟨rfl, hp, (RouteListenerMatcher.insertParent_resolved_iff (fun _ => some 1) (fun pattern => some (· = pattern))
    (t := .envoy) emptyValidator rfl hroutes (by decide) hparents hp).2 (.inl rfl)⟩

/-- **A section that no listener has** makes the route unresolved at the listener it has always been at. -/
theorem resolvedRoute_withSection :
    Gateway.tryFrom (fun _ => some 1) secretlessKubeGateway .envoy = .ok secretlessGateway ∧
    resolvedRouteMatcher.SelectsNone (fun pattern => some (· = pattern)) resolvedRoute
      { name := "gw", sectionName := some "http" } ∧
    ¬ ∀ kl ∈ (resolvedRouteMatcher.filterMatchingRoute (fun pattern => some (· = pattern)) resolvedRoute).1,
      resolvedRouteMatcher.ResolvedAt (fun pattern => some (· = pattern)) emptyValidator secretlessGateway kl
        resolvedRoute.resourceKey →
      RouteListenerMatcher.ResolvedAt (fun pattern => some (· = pattern))
        { resolvedRouteMatcher with
          routes := [resolvedRoute.withParent [{ name := "gw" }] { name := "gw", sectionName := some "http" } []] }
        emptyValidator secretlessGateway kl resolvedRoute.resourceKey := by
  have hp : resolvedRouteMatcher.SelectsNone (fun pattern => some (· = pattern)) resolvedRoute
      { name := "gw", sectionName := some "http" } := ⟨by decide, by decide +kernel⟩
  refine ⟨rfl, hp, fun hstays => ?_⟩
  have hne : (resolvedRouteMatcher.filterMatchingRoute (fun pattern => some (· = pattern)) resolvedRoute).1 ≠ [] := by
    decide +kernel
  obtain ⟨kl, hkl⟩ := List.exists_mem_of_ne_nil _ hne
  have hroutes : resolvedRouteMatcher.routes = [] ++ resolvedRoute :: [] := rfl
  have hparents : resolvedRoute.parents.getD [] = [{ name := "gw" }] ++ [] := rfl
  have hbefore := (RouteListenerMatcher.resolvedAt_iff (fun _ => some 1) (fun pattern => some (· = pattern)) (t := .envoy)
    emptyValidator rfl (by decide) (List.mem_singleton.2 rfl) hkl).2 (by decide +kernel)
  have hafter := (RouteListenerMatcher.resolvedAt_withParent_iff (fun _ => some 1) (fun pattern => some (· = pattern))
    (t := .envoy) emptyValidator rfl hroutes (by decide) hparents hp.2 hkl).1 (hstays kl hkl hbefore)
  exact absurd hafter.2 (by decide +kernel)

end Kubvernor
