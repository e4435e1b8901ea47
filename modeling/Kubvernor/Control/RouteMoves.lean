import Kubvernor.Control.RouteHandlers

/-!
# What the handlers of routes do to the stores

For each way an event can be taken, what is stored of the routes afterwards and where they are attached:
nothing changes (`process_same`), the route is saved and attached to its parents (`process_saved`), or it is
detached from them and gone from the HTTP routes (`process_deleted`). Both kinds of routes are read through
one view, so that each is said once.
-/

namespace Kubvernor

variable {M F : Type}

/-- What the invariants read of a stored route. -/
structure RouteView where
  parentRefs : Option (List ParentReference)
  status : Option RouteStatus

def KubeRoute.view (r : KubeRoute M F) : RouteView := ⟨r.spec.parentRefs, r.status⟩

/-- A parent reference is to this gateway, for a route of this key. -/
def RouteView.NamesGateway (v : RouteView) (k : RouteKey) (g : GatewayKey) : Prop :=
  ∃ p ∈ v.parentRefs.getD [], p.gatewayKey k = g

instance (v : RouteView) (k : RouteKey) (g : GatewayKey) : Decidable (v.NamesGateway k g) :=
  inferInstanceAs (Decidable (∃ p ∈ v.parentRefs.getD [], p.gatewayKey k = g))

namespace RouteStores

/-- The route stored under a key, of either kind. -/
def view (s : RouteStores) (k : RouteKey) : Option RouteView :=
  (s.httpRoutes[k]?.map KubeRoute.view).or (s.grpcRoutes[k]?.map KubeRoute.view)

/-- Routes are stored under the keys of their kind. -/
structure Keyed (s : RouteStores) : Prop where
  http : ∀ k ∈ s.httpRoutes, k.kind = "HTTPRoute"
  grpc : ∀ k ∈ s.grpcRoutes, k.kind = "GRPCRoute"

variable {s : RouteStores} {k k' : RouteKey}

theorem Keyed.getHttp_eq_none (h : s.Keyed) (hk : k.kind = "GRPCRoute") : s.httpRoutes[k]? = none := by
  rw [getElem?_eq_none_iff]
  intro hmem
  have hkind := h.http k hmem
  rw [hk] at hkind
  exact absurd hkind (by decide)

theorem Keyed.getGrpc_eq_none (h : s.Keyed) (hk : k.kind = "HTTPRoute") : s.grpcRoutes[k]? = none := by
  rw [getElem?_eq_none_iff]
  intro hmem
  have hkind := h.grpc k hmem
  rw [hk] at hkind
  exact absurd hkind (by decide)

/-- Views are of the objects alone. -/
theorem view_congr {s' : RouteStores} (hhttp : s'.httpRoutes = s.httpRoutes) (hgrpc : s'.grpcRoutes = s.grpcRoutes)
    (k : RouteKey) : s'.view k = s.view k := by
  unfold view
  rw [hhttp, hgrpc]

theorem view_saveHttpRoute (r : HTTPRoute) (k' : RouteKey) :
    (s.saveHttpRoute k r).view k' = if k' = k then some r.view else s.view k' := by
  unfold view saveHttpRoute
  simp only [Lib.getElem?_insert_ite]
  split <;> rfl

theorem view_saveGrpcRoute (hk : s.httpRoutes[k]? = none) (r : GRPCRoute) (k' : RouteKey) :
    (s.saveGrpcRoute k r).view k' = if k' = k then some r.view else s.view k' := by
  unfold view saveGrpcRoute
  simp only [Lib.getElem?_insert_ite]
  split
  · rename_i heq
    rw [heq, hk]
    rfl
  · rfl

theorem view_deleteHttpRoute (hk : s.grpcRoutes[k]? = none) (k' : RouteKey) :
    (s.deleteHttpRoute k).view k' = if k' = k then none else s.view k' := by
  unfold view deleteHttpRoute
  simp only [Lib.getElem?_erase_ite]
  split
  · rename_i heq
    rw [heq, hk]
    rfl
  · rfl

theorem Keyed.saveHttpRoute (hs : s.Keyed) (hk : k.kind = "HTTPRoute") (r : HTTPRoute) : (s.saveHttpRoute k r).Keyed := by
  refine ⟨fun k' hk' => ?_, hs.grpc⟩
  rcases Std.ExtTreeMap.mem_insert.1 hk' with heq | hmem
  · rw [← Std.LawfulEqOrd.eq_of_compare heq, hk]
  · exact hs.http k' hmem

theorem Keyed.saveGrpcRoute (hs : s.Keyed) (hk : k.kind = "GRPCRoute") (r : GRPCRoute) : (s.saveGrpcRoute k r).Keyed := by
  refine ⟨hs.http, fun k' hk' => ?_⟩
  rcases Std.ExtTreeMap.mem_insert.1 hk' with heq | hmem
  · rw [← Std.LawfulEqOrd.eq_of_compare heq, hk]
  · exact hs.grpc k' hmem

theorem Keyed.deleteHttpRoute (hs : s.Keyed) : (s.deleteHttpRoute k).Keyed :=
  ⟨fun k' hk' => hs.http k' (Std.ExtTreeMap.mem_of_mem_erase hk'), hs.grpc⟩

end RouteStores

/-! ## The two kinds -/

/-- What the operations of a kind do, under the keys of the kind. -/
structure RouteKind.Lawful (kind : RouteKind M F) : Prop where
  view_stored : ∀ {s : RouteStores} {k : RouteKey}, s.Keyed → k.kind = kind.kind →
    s.view k = (kind.stored s k).map KubeRoute.view
  view_save : ∀ {s : RouteStores} {k : RouteKey}, s.Keyed → k.kind = kind.kind → ∀ (r : KubeRoute M F) (k' : RouteKey),
    (kind.save s k r).view k' = if k' = k then some r.view else s.view k'
  index_save : ∀ (s : RouteStores) (k : RouteKey) (r : KubeRoute M F),
    (kind.save s k r).gatewaysWithRoutes = s.gatewaysWithRoutes
  maybeSave_eq : ∀ (s : RouteStores) (k : RouteKey) (r : KubeRoute M F),
    kind.maybeSave s k r = if (kind.stored s k).isSome then kind.save s k r else s
  keyed_save : ∀ {s : RouteStores} {k : RouteKey}, s.Keyed → k.kind = kind.kind → ∀ (r : KubeRoute M F),
    (kind.save s k r).Keyed
  http_save : kind.kind ≠ "HTTPRoute" → ∀ (s : RouteStores) (k : RouteKey) (r : KubeRoute M F),
    (kind.save s k r).httpRoutes = s.httpRoutes
  grpc_save : kind.kind ≠ "GRPCRoute" → ∀ (s : RouteStores) (k : RouteKey) (r : KubeRoute M F),
    (kind.save s k r).grpcRoutes = s.grpcRoutes

section Kinds

variable {isIpAddr : String → Bool}

theorem httpRouteKind_lawful : (httpRouteKind isIpAddr).Lawful where
  view_stored hs hk := by
    unfold RouteStores.view
    rw [hs.getGrpc_eq_none hk, Option.map_none, Option.or_none]
    rfl
  view_save _ _ r k' := RouteStores.view_saveHttpRoute r k'
  index_save _ _ _ := rfl
  maybeSave_eq s k r := by
    show (if k ∈ s.httpRoutes then s.saveHttpRoute k r else s) =
      if s.httpRoutes[k]?.isSome then s.saveHttpRoute k r else s
    have hmem : k ∈ s.httpRoutes ↔ s.httpRoutes[k]?.isSome := Std.ExtTreeMap.mem_iff_isSome_getElem?
    by_cases h : k ∈ s.httpRoutes
    · rw [if_pos h, if_pos (hmem.1 h)]
    · rw [if_neg h, if_neg (mt hmem.2 h)]
  keyed_save hs hk r := hs.saveHttpRoute hk r
  http_save hk := absurd rfl hk
  grpc_save _ _ _ _ := rfl

theorem grpcRouteKind_lawful : (grpcRouteKind isIpAddr).Lawful where
  view_stored hs hk := by
    unfold RouteStores.view
    rw [hs.getHttp_eq_none hk, Option.map_none, Option.none_or]
    rfl
  view_save hs hk r k' := RouteStores.view_saveGrpcRoute (hs.getHttp_eq_none hk) r k'
  index_save _ _ _ := rfl
  maybeSave_eq s k r := by
    show (if k ∈ s.grpcRoutes then s.saveGrpcRoute k r else s) =
      if s.grpcRoutes[k]?.isSome then s.saveGrpcRoute k r else s
    have hmem : k ∈ s.grpcRoutes ↔ s.grpcRoutes[k]?.isSome := Std.ExtTreeMap.mem_iff_isSome_getElem?
    by_cases h : k ∈ s.grpcRoutes
    · rw [if_pos h, if_pos (hmem.1 h)]
    · rw [if_neg h, if_neg (mt hmem.2 h)]
  keyed_save hs hk r := hs.saveGrpcRoute hk r
  http_save _ _ _ _ := rfl
  grpc_save hk := absurd rfl hk

end Kinds

/-! ## Attaching and detaching -/

namespace Stores

/-- The stores differ in nothing but the attachments. -/
structure SameObjects (s s' : Stores) : Prop where
  http : s'.routes.httpRoutes = s.routes.httpRoutes
  grpc : s'.routes.grpcRoutes = s.routes.grpcRoutes
  classes : s'.gatewayClasses = s.gatewayClasses
  gateways : s'.state.gateways = s.state.gateways
  types : s'.state.gatewayImplementationTypes = s.state.gatewayImplementationTypes
  pools : s'.state.inferencePools = s.state.inferencePools

variable {s s' s'' : Stores} {routeKey : RouteKey} {pools : List ResourceKey}

theorem SameObjects.refl (s : Stores) : s.SameObjects s := ⟨rfl, rfl, rfl, rfl, rfl, rfl⟩

theorem SameObjects.trans (h : s.SameObjects s') (h' : s'.SameObjects s'') : s.SameObjects s'' :=
  ⟨h'.http.trans h.http, h'.grpc.trans h.grpc, h'.classes.trans h.classes, h'.gateways.trans h.gateways,
    h'.types.trans h.types, h'.pools.trans h.pools⟩

theorem sameObjects_attach (g : GatewayKey) : s.SameObjects (s.attach routeKey pools g) :=
  ⟨rfl, rfl, rfl, rfl, rfl, rfl⟩

theorem sameObjects_detach (g : GatewayKey) : s.SameObjects (s.detach routeKey g) := by
  have hstate : ∀ s' : State, (s'.detachInfererencePoolFromGateway g routeKey).1.gateways = s'.gateways ∧
      (s'.detachInfererencePoolFromGateway g routeKey).1.gatewayImplementationTypes = s'.gatewayImplementationTypes ∧
      (s'.detachInfererencePoolFromGateway g routeKey).1.inferencePools = s'.inferencePools := by
    intro s'
    unfold State.detachInfererencePoolFromGateway
    split
    · exact ⟨rfl, rfl, rfl⟩
    · split
      · exact ⟨rfl, rfl, rfl⟩
      · exact ⟨rfl, rfl, rfl⟩
  obtain ⟨hgateways, htypes, hpools⟩ := hstate s.state
  exact ⟨RouteStores.httpRoutes_detachRoute, RouteStores.grpcRoutes_detachRoute, rfl, hgateways, htypes, hpools⟩

/-- A route attached to several gateways. -/
def attachAll (s : Stores) (routeKey : RouteKey) (pools : List ResourceKey) (gateways : List GatewayKey) : Stores :=
  gateways.foldl (fun s gatewayKey => s.attach routeKey pools gatewayKey) s

/-- A route detached from several gateways. -/
def detachAll (s : Stores) (routeKey : RouteKey) (gateways : List GatewayKey) : Stores :=
  gateways.foldl (fun s gatewayKey => s.detach routeKey gatewayKey) s

theorem sameObjects_attachAll (gateways : List GatewayKey) : s.SameObjects (s.attachAll routeKey pools gateways) := by
  induction gateways generalizing s with
  | nil => exact SameObjects.refl s
  | cons g gateways ih => exact (sameObjects_attach g).trans ih

theorem sameObjects_detachAll (gateways : List GatewayKey) : s.SameObjects (s.detachAll routeKey gateways) := by
  induction gateways generalizing s with
  | nil => exact SameObjects.refl s
  | cons g gateways ih => exact (sameObjects_detach g).trans ih

variable {g : GatewayKey} {k : RouteKey}

theorem attached_attachAll (gateways : List GatewayKey) :
    (s.attachAll routeKey pools gateways).routes.Attached g k ↔
      (g ∈ gateways ∧ k = routeKey) ∨ s.routes.Attached g k := by
  induction gateways generalizing s with
  | nil => simp [attachAll]
  | cons g' gateways ih =>
    have hattach : (s.attach routeKey pools g').routes.Attached g k ↔ (g = g' ∧ k = routeKey) ∨ s.routes.Attached g k :=
      RouteStores.attached_attachRoute
    rw [attachAll, List.foldl_cons, ← attachAll, ih, hattach, List.mem_cons, or_and_right]
    exact or_left_comm.trans or_assoc.symm

theorem attached_detachAll (gateways : List GatewayKey) :
    (s.detachAll routeKey gateways).routes.Attached g k ↔
      s.routes.Attached g k ∧ ¬ (g ∈ gateways ∧ k = routeKey) := by
  induction gateways generalizing s with
  | nil => simp [detachAll]
  | cons g' gateways ih =>
    have hdetach : (s.detach routeKey g').routes.Attached g k ↔ s.routes.Attached g k ∧ ¬ (g = g' ∧ k = routeKey) :=
      RouteStores.attached_detachRoute
    rw [detachAll, List.foldl_cons, ← detachAll, ih, hdetach, List.mem_cons, or_and_right, not_or, and_assoc]

theorem storedPools_detachAll (gateways : List GatewayKey) :
    (s.detachAll routeKey gateways).state.storedPools g k =
      if g ∈ gateways ∧ k = routeKey then none else s.state.storedPools g k := by
  induction gateways generalizing s with
  | nil => simp [detachAll]
  | cons g' gateways ih =>
    have hdetach : (s.detach routeKey g').state.storedPools g k =
        if g = g' ∧ k = routeKey then none else s.state.storedPools g k := State.storedPools_detach
    rw [detachAll, List.foldl_cons, ← detachAll, ih, hdetach]
    by_cases hk : k = routeKey
    · by_cases hg : g = g' <;> simp [hk, hg]
    · simp [hk]

end Stores

/-! ## The moves of a handler -/

namespace RouteStores

/-- The routes and their attachments are the same. -/
structure SameRoutes (s s' : RouteStores) : Prop where
  view : ∀ k, s'.view k = s.view k
  attached : ∀ g k, s'.Attached g k ↔ s.Attached g k
  keyed : s.Keyed → s'.Keyed

theorem SameRoutes.refl (s : RouteStores) : s.SameRoutes s := ⟨fun _ => rfl, fun _ _ => Iff.rfl, id⟩

/-- A route is saved, and attached to the gateways it names. -/
structure SavedRoute (k : RouteKey) (v : RouteView) (s s' : RouteStores) : Prop where
  view : ∀ k', s'.view k' = if k' = k then some v else s.view k'
  attached : ∀ g k', s'.Attached g k' ↔ (v.NamesGateway k g ∧ k' = k) ∨ s.Attached g k'
  keyed : s.Keyed → s'.Keyed

/-- A route is detached from the gateways it names, and is no longer among the HTTP routes. -/
structure DeletedRoute (k : RouteKey) (v : RouteView) (s s' : RouteStores) : Prop where
  http : s'.httpRoutes = s.httpRoutes.erase k
  grpc : s'.grpcRoutes = s.grpcRoutes
  attached : ∀ g k', s'.Attached g k' ↔ s.Attached g k' ∧ ¬ (v.NamesGateway k g ∧ k' = k)
  keyed : s.Keyed → s'.Keyed

/-- An HTTP route is no longer stored, and a GRPC route still is. -/
theorem DeletedRoute.view_eq {s s' : RouteStores} {k : RouteKey} {v : RouteView} (h : s.DeletedRoute k v s')
    (hs : s.Keyed) (hkinds : k.kind = "HTTPRoute" ∨ k.kind = "GRPCRoute") (k' : RouteKey) :
    s'.view k' = if k' = k ∧ k.kind = "HTTPRoute" then none else s.view k' := by
  have hview : s'.view k' = (s.deleteHttpRoute k).view k' :=
    view_congr (s := s.deleteHttpRoute k) h.http h.grpc k'
  rw [hview]
  rcases hkinds with hkind | hkind
  · rw [view_deleteHttpRoute (hs.getGrpc_eq_none hkind)]
    exact if_congr (and_iff_left hkind).symm rfl rfl
  · rw [if_neg fun hand => absurd (hkind.symm.trans hand.2) (by decide)]
    have herase : (s.deleteHttpRoute k).httpRoutes = s.httpRoutes := Lib.erase_of_none (hs.getHttp_eq_none hkind)
    exact view_congr herase rfl k'

end RouteStores

namespace CommonRouteHandler

variable {h : CommonRouteHandler M F} {s : Stores}

theorem kind_resourceKey : h.resourceKey.kind = h.kind.kind := rfl

variable (h s) in
/-- What the stores are after a new or changed route with these parent references, before anything is sent. -/
theorem stores_onNewOrChanged (refs : List ParentReference) : ∃ status : RouteStatus,
    (∀ p ∈ status.parents, p.controllerName = h.config.controllerName) ∧
    (h.onNewOrChanged s refs).stores =
      { s.attachAll h.resourceKey (h.kind.toRoute h.resource).inferencePools (refs.map (·.gatewayKey h.resourceKey)) with
        routes := h.kind.save (s.attachAll h.resourceKey (h.kind.toRoute h.resource).inferencePools
          (refs.map (·.gatewayKey h.resourceKey))).routes h.resourceKey { h.resource with status := some status } } := by
  refine ⟨_, ?_, rfl⟩
  intro p hp
  obtain ⟨gateway, -, rfl⟩ := List.mem_map.1 hp
  rfl

/-- **A new or changed route is saved and attached to the parents it names**; its status is what the controller
knows itself. -/
theorem savedRoute_onNewOrChanged (hkind : h.kind.Lawful) (hs : s.routes.Keyed) {refs : List ParentReference}
    (hrefs : h.resource.spec.parentRefs = some refs) : ∃ status : RouteStatus,
    (∀ p ∈ status.parents, p.controllerName = h.config.controllerName) ∧
    s.routes.SavedRoute h.resourceKey ⟨some refs, some status⟩ (h.onNewOrChanged s refs).stores.routes := by
  obtain ⟨status, hstatus, hstores⟩ := h.stores_onNewOrChanged s refs
  refine ⟨status, hstatus, ?_⟩
  have hsame : s.SameObjects (s.attachAll h.resourceKey (h.kind.toRoute h.resource).inferencePools
      (refs.map (·.gatewayKey h.resourceKey))) := Stores.sameObjects_attachAll _
  have hkeyed : (s.attachAll h.resourceKey (h.kind.toRoute h.resource).inferencePools
      (refs.map (·.gatewayKey h.resourceKey))).routes.Keyed :=
    ⟨by rw [hsame.http]; exact hs.http, by rw [hsame.grpc]; exact hs.grpc⟩
  rw [hstores]
  refine ⟨fun k' => ?_, fun g k' => ?_, fun _ => hkind.keyed_save hkeyed kind_resourceKey _⟩
  · rw [hkind.view_save hkeyed kind_resourceKey, RouteStores.view_congr hsame.http hsame.grpc]
    unfold KubeRoute.view
    rw [hrefs]
  · unfold RouteStores.Attached
    rw [hkind.index_save]
    refine (Stores.attached_attachAll _).trans (or_congr (and_congr_left fun _ => ?_) Iff.rfl)
    simp only [RouteView.NamesGateway, Option.getD_some, List.mem_map]

/-- A parent reference of the object is to this gateway. -/
def NamesGateway (h : CommonRouteHandler M F) (g : GatewayKey) : Prop :=
  h.resource.view.NamesGateway h.resourceKey g

instance (g : GatewayKey) : Decidable (h.NamesGateway g) :=
  inferInstanceAs (Decidable (h.resource.view.NamesGateway h.resourceKey g))

/-- The gateways a deletion detaches a route from. -/
def gatewayIds (h : CommonRouteHandler M F) (refs : List ParentReference) : List GatewayKey :=
  (Std.ExtTreeSet.ofList (refs.map (·.gatewayKey h.resourceKey))).toList

theorem mem_gatewayIds {refs : List ParentReference} (hrefs : h.resource.spec.parentRefs = some refs)
    {g : GatewayKey} : g ∈ h.gatewayIds refs ↔ h.NamesGateway g := by
  rw [gatewayIds, Std.ExtTreeSet.mem_toList, Std.ExtTreeSet.mem_ofList, List.contains_iff_mem, List.mem_map,
    NamesGateway, RouteView.NamesGateway, KubeRoute.view, hrefs]
  rfl

/-- The stores once a route is detached. -/
def detached (h : CommonRouteHandler M F) (s : Stores) (refs : List ParentReference) : Stores :=
  s.detachAll h.resourceKey (h.gatewayIds refs)

theorem attached_detached {refs : List ParentReference} (hrefs : h.resource.spec.parentRefs = some refs)
    {g : GatewayKey} {k : RouteKey} : (h.detached s refs).routes.Attached g k ↔
      s.routes.Attached g k ∧ ¬ (h.NamesGateway g ∧ k = h.resourceKey) := by
  rw [detached, Stores.attached_detachAll, mem_gatewayIds hrefs]

theorem storedPools_detached {refs : List ParentReference} (hrefs : h.resource.spec.parentRefs = some refs)
    {g : GatewayKey} {k : RouteKey} : (h.detached s refs).state.storedPools g k =
      if h.NamesGateway g ∧ k = h.resourceKey then none else s.state.storedPools g k := by
  rw [detached, Stores.storedPools_detachAll]
  exact if_congr (and_congr_left fun _ => mem_gatewayIds hrefs) rfl rfl

theorem sameObjects_detached (refs : List ParentReference) : s.SameObjects (h.detached s refs) :=
  Stores.sameObjects_detachAll _

/-- A deletion of a route that is not among the HTTP routes fails, once the route is detached. -/
theorem onDeleted_of_none (refs : List ParentReference) (hnone : s.routes.httpRoutes[h.resourceKey]? = none) :
    h.onDeleted s refs =
      { stores := h.detached s refs, outcome := .failed (.invalidPayload "Route doesn't exist") } := by
  have hget : (h.detached s refs).routes.getHttpRouteById h.resourceKey = none := by
    unfold RouteStores.getHttpRouteById
    rw [(sameObjects_detached refs).http, hnone]
  unfold onDeleted
  simp only
  split
  · rfl
  · rename_i stored hstored
    have hstored' : (h.detached s refs).routes.getHttpRouteById h.resourceKey = some stored := hstored
    rw [hget] at hstored'
    cases hstored'

/-- What a deletion does to the pools of the route. -/
def updatedPools (h : CommonRouteHandler M F) (s : Stores) (refs : List ParentReference) (stored : HTTPRoute) :
    Stores × List (Operation InferencePool) :=
  let deleted : Stores :=
    { h.detached s refs with routes := (h.detached s refs).routes.deleteHttpRoute h.resourceKey }
  if h.kind.patchesPools then
    deleted.updatePools h.config.controllerName
      ((h.detached s refs).state.findGatewaysByRouteAndInferencePool h.resourceKey)
      (Route.ofHTTPRoute h.config.isIpAddr stored).inferencePools
  else (deleted, [])

/-- A deletion of a route that is among the HTTP routes. -/
theorem onDeleted_of_some (refs : List ParentReference) {stored : HTTPRoute}
    (hstored : s.routes.httpRoutes[h.resourceKey]? = some stored) :
    h.onDeleted s refs =
      { stores := (h.updatedPools s refs stored).1
        sent := (h.updatedPools s refs stored).2.map .poolPatcher ++
          [.patcher (.delete h.resourceKey h.resource h.config.controllerName),
            .validator (.deleteRoute h.resourceKey (extractReferences (Route.ofHTTPRoute h.config.isIpAddr stored)))]
        outcome := .awaitChange } := by
  have hget : (h.detached s refs).routes.getHttpRouteById h.resourceKey = some stored := by
    unfold RouteStores.getHttpRouteById
    rw [(sameObjects_detached refs).http, hstored]
  unfold onDeleted
  simp only
  split
  · rename_i hnone
    have hnone' : (h.detached s refs).routes.getHttpRouteById h.resourceKey = none := hnone
    rw [hget] at hnone'
    cases hnone'
  · rename_i stored' hstored'
    have hsame : (h.detached s refs).routes.getHttpRouteById h.resourceKey = some stored' := hstored'
    rw [hget] at hsame
    obtain rfl := Option.some.inj hsame
    rfl

end CommonRouteHandler

namespace State

theorem gateways_maybeSaveInferencePool {s : State} (id : ResourceKey) (p : InferencePool) :
    (s.maybeSaveInferencePool id p).gateways = s.gateways := by
  unfold maybeSaveInferencePool
  split <;> rfl

theorem types_maybeSaveInferencePool {s : State} (id : ResourceKey) (p : InferencePool) :
    (s.maybeSaveInferencePool id p).gatewayImplementationTypes = s.gatewayImplementationTypes := by
  unfold maybeSaveInferencePool
  split <;> rfl

end State

namespace CommonRouteHandler

variable {h : CommonRouteHandler M F} {s : Stores}

/-- Updating pools changes the stored pools alone. -/
theorem updatePools_frame (s : Stores) (controllerName : String) (gatewayIds : List GatewayKey)
    (pools : List ResourceKey) :
    (s.updatePools controllerName gatewayIds pools).1.routes = s.routes ∧
    (s.updatePools controllerName gatewayIds pools).1.gatewayClasses = s.gatewayClasses ∧
    (s.updatePools controllerName gatewayIds pools).1.state.gateways = s.state.gateways ∧
    (s.updatePools controllerName gatewayIds pools).1.state.gatewayImplementationTypes =
      s.state.gatewayImplementationTypes := by
  induction pools generalizing s with
  | nil => exact ⟨rfl, rfl, rfl, rfl⟩
  | cons pool pools ih =>
    have hone : (s.updatePool controllerName gatewayIds pool).1.routes = s.routes ∧
        (s.updatePool controllerName gatewayIds pool).1.gatewayClasses = s.gatewayClasses ∧
        (s.updatePool controllerName gatewayIds pool).1.state.gateways = s.state.gateways ∧
        (s.updatePool controllerName gatewayIds pool).1.state.gatewayImplementationTypes =
          s.state.gatewayImplementationTypes := by
      unfold Stores.updatePool
      split
      · exact ⟨rfl, rfl, rfl, rfl⟩
      · exact ⟨rfl, rfl, State.gateways_maybeSaveInferencePool _ _, State.types_maybeSaveInferencePool _ _⟩
    obtain ⟨hroutes, hclasses, hgateways, htypes⟩ := ih (s.updatePool controllerName gatewayIds pool).1
    exact ⟨hroutes.trans hone.1, hclasses.trans hone.2.1, hgateways.trans hone.2.2.1, htypes.trans hone.2.2.2⟩

/-- The routes and the gateways once the pools are updated. -/
theorem updatedPools_frame (refs : List ParentReference) (stored : HTTPRoute) :
    (h.updatedPools s refs stored).1.routes = (h.detached s refs).routes.deleteHttpRoute h.resourceKey ∧
    (h.updatedPools s refs stored).1.gatewayClasses = s.gatewayClasses ∧
    (h.updatedPools s refs stored).1.state.gateways = s.state.gateways ∧
    (h.updatedPools s refs stored).1.state.gatewayImplementationTypes = s.state.gatewayImplementationTypes := by
  have hsame := sameObjects_detached (h := h) (s := s) refs
  unfold updatedPools
  simp only
  split
  · obtain ⟨hroutes, hclasses, hgateways, htypes⟩ := updatePools_frame
      { h.detached s refs with routes := (h.detached s refs).routes.deleteHttpRoute h.resourceKey }
      h.config.controllerName ((h.detached s refs).state.findGatewaysByRouteAndInferencePool h.resourceKey)
      (Route.ofHTTPRoute h.config.isIpAddr stored).inferencePools
    exact ⟨hroutes, hclasses.trans hsame.classes, hgateways.trans hsame.gateways, htypes.trans hsame.types⟩
  · exact ⟨rfl, hsame.classes, hsame.gateways, hsame.types⟩

/-- **A deletion detaches the route** from the parents it names, and takes it from the HTTP routes. -/
theorem deletedRoute_onDeleted {refs : List ParentReference} (hrefs : h.resource.spec.parentRefs = some refs) :
    s.routes.DeletedRoute h.resourceKey h.resource.view (h.onDeleted s refs).stores.routes := by
  have hsame := sameObjects_detached (h := h) (s := s) refs
  have hattached (g : GatewayKey) (k : RouteKey) : (h.detached s refs).routes.Attached g k ↔
      s.routes.Attached g k ∧ ¬ (h.resource.view.NamesGateway h.resourceKey g ∧ k = h.resourceKey) :=
    attached_detached hrefs
  have hkeyed (hs : s.routes.Keyed) : (h.detached s refs).routes.Keyed :=
    ⟨by rw [hsame.http]; exact hs.http, by rw [hsame.grpc]; exact hs.grpc⟩
  cases hstored : s.routes.httpRoutes[h.resourceKey]? with
  | none =>
    rw [onDeleted_of_none refs hstored]
    refine ⟨?_, hsame.grpc, hattached, hkeyed⟩
    rw [Lib.erase_of_none hstored]
    exact hsame.http
  | some stored =>
    rw [onDeleted_of_some refs hstored]
    show s.routes.DeletedRoute h.resourceKey h.resource.view (h.updatedPools s refs stored).1.routes
    rw [(updatedPools_frame refs stored).1]
    refine ⟨?_, hsame.grpc, hattached, fun hs => (hkeyed hs).deleteHttpRoute⟩
    show (h.detached s refs).routes.httpRoutes.erase h.resourceKey = _
    rw [hsame.http]

/-! ## Which move an event makes -/

section Process

variable [DecidableEq M] [DecidableEq F]

/-- What the handler has found, for each of its branches. -/
theorem resourceState_cases (h : CommonRouteHandler M F) (s : Stores) :
    match h.resourceState s with
    | .deleted => h.resource.metadata.IsDeletion
    | .new => ¬ h.resource.metadata.IsDeletion ∧ h.kind.stored s.routes h.resourceKey = none
    | .specNotChanged => False
    | .statusNotChanged => ∃ old, h.kind.stored s.routes h.resourceKey = some old ∧
        h.resource.spec = old.spec ∧ h.resource.status = old.status
    | .specChanged | .statusChanged | .versionNotChanged => ¬ h.resource.metadata.IsDeletion ∧
        ∃ old, h.kind.stored s.routes h.resourceKey = some old := by
  unfold resourceState
  by_cases hdel : h.resource.metadata.IsDeletion
  · rw [checkStatus_of_deletion hdel]
    exact hdel
  · rw [checkStatus_of_not_deletion hdel]
    cases hstored : h.kind.stored s.routes h.resourceKey with
    | none => exact ⟨hdel, rfl⟩
    | some old =>
      simp only
      by_cases hversion : old.metadata.resourceVersion = h.resource.metadata.resourceVersion
      · rw [if_pos hversion]
        exact ⟨hdel, old, rfl⟩
      · rw [if_neg hversion]
        unfold checkSpec checkRouteStatus
        by_cases hspec : h.resource.spec = old.spec
        · by_cases hstatus : h.resource.status = old.status
          · simp [hspec, hstatus]
          · simp [hspec, hstatus, hdel]
        · simp [hspec, hdel]

theorem resourceState_deleted_iff : h.resourceState s = .deleted ↔ h.resource.metadata.IsDeletion := by
  refine checkStatus_eq_deleted_iff (fun r r' => ?_) fun r r' => ?_
  · unfold checkSpec
    split_ifs <;> exact ResourceState.noConfusion
  · unfold checkRouteStatus
    split_ifs <;> exact ResourceState.noConfusion

/-- **Any other event leaves the routes and their attachments as they are.** -/
theorem sameRoutes_process (hkind : h.kind.Lawful) (hs : s.routes.Keyed)
    (hstate : h.resourceState s = .new ∨ h.resourceState s = .specChanged ∨ h.resourceState s = .deleted →
      h.resource.spec.parentRefs = none) : s.routes.SameRoutes (h.process s).stores.routes := by
  have hcases := h.resourceState_cases s
  unfold process
  cases hevent : h.resourceState s with
  | versionNotChanged | statusChanged => exact .refl _
  | specNotChanged =>
    rw [hevent] at hcases
    exact hcases.elim
  | new | specChanged =>
    have hnone := hstate (by simp [hevent])
    simp only [handleNewOrChanged, hnone]
    exact .refl _
  | deleted =>
    have hnone := hstate (by simp [hevent])
    simp only [handleDeleted, hnone]
    exact .refl _
  | statusNotChanged =>
    rw [hevent] at hcases
    obtain ⟨old, hold, hspec, hstatus⟩ := hcases
    simp only
    rw [hkind.maybeSave_eq, if_pos (by rw [hold]; rfl)]
    refine ⟨fun k => ?_, fun g k => ?_, fun _ => hkind.keyed_save hs kind_resourceKey _⟩
    · rw [hkind.view_save hs kind_resourceKey]
      split
      · rename_i heq
        rw [heq, hkind.view_stored hs kind_resourceKey, hold, Option.map_some, KubeRoute.view, KubeRoute.view, hspec,
          hstatus]
      · rfl
    · unfold RouteStores.Attached
      rw [hkind.index_save]

theorem process_of_changed {refs : List ParentReference} (hrefs : h.resource.spec.parentRefs = some refs)
    (hstate : h.resourceState s = .new ∨ h.resourceState s = .specChanged) :
    h.process s = h.onNewOrChanged s refs := by
  unfold process
  rcases hstate with hstate | hstate
  · simp only [hstate, handleNewOrChanged, hrefs]
  · simp only [hstate, handleNewOrChanged, hrefs]

theorem process_of_deletion {refs : List ParentReference} (hrefs : h.resource.spec.parentRefs = some refs)
    (hdel : h.resource.metadata.IsDeletion) : h.process s = h.onDeleted s refs := by
  unfold process
  simp only [resourceState_deleted_iff.2 hdel, handleDeleted, hrefs]

/-- The object's uid parses. -/
def Accepts (h : CommonRouteHandler M F) : Prop := (h.resource.metadata.uid.bind h.config.parseUuid).isSome

instance : Decidable h.Accepts := inferInstanceAs (Decidable (_ = true))

/-- An object whose uid does not parse is ignored, and any other one is processed. -/
theorem stores_reconcile (h : CommonRouteHandler M F) (s : Stores) :
    (h.reconcile s).stores = if h.Accepts then (h.process s).stores else s := by
  unfold reconcile
  cases huid : h.resource.metadata.uid with
  | none =>
    have hnot : ¬ h.Accepts := by simp [Accepts, huid]
    rw [if_neg hnot]
  | some uid =>
    have haccepts : h.Accepts ↔ (h.config.parseUuid uid).isSome := by simp [Accepts, huid]
    simp only [haccepts]
    split_ifs <;> rfl

/-- The route is found to be new or changed, and has parent references. -/
structure Changes (h : CommonRouteHandler M F) (s : Stores) : Prop where
  accepts : h.Accepts
  state : h.resourceState s = .new ∨ h.resourceState s = .specChanged
  parents : h.resource.spec.parentRefs.isSome

/-- The route is deleted, and has parent references. -/
structure Deletes (h : CommonRouteHandler M F) : Prop where
  accepts : h.Accepts
  deletion : h.resource.metadata.IsDeletion
  parents : h.resource.spec.parentRefs.isSome

/-- **What an event can do**: a changed route is saved and attached, with a status of the controller's own, a
deleted one is detached, and any other event leaves the routes as they are. -/
theorem reconcile_cases (hkind : h.kind.Lawful) (hs : s.routes.Keyed) :
    (h.Changes s ∧ ∃ status : RouteStatus, (∀ p ∈ status.parents, p.controllerName = h.config.controllerName) ∧
      s.routes.SavedRoute h.resourceKey ⟨h.resource.spec.parentRefs, some status⟩ (h.reconcile s).stores.routes) ∨
    (h.Deletes ∧ s.routes.DeletedRoute h.resourceKey h.resource.view (h.reconcile s).stores.routes) ∨
    (¬ h.Changes s ∧ ¬ h.Deletes ∧ s.routes.SameRoutes (h.reconcile s).stores.routes) := by
  rw [stores_reconcile]
  by_cases haccepts : h.Accepts
  · rw [if_pos haccepts]
    cases hrefs : h.resource.spec.parentRefs with
    | none =>
      refine .inr (.inr ⟨fun hc => ?_, fun hd => ?_, sameRoutes_process hkind hs fun _ => hrefs⟩)
      · have hparents := hc.parents
        rw [hrefs] at hparents
        cases hparents
      · have hparents := hd.parents
        rw [hrefs] at hparents
        cases hparents
    | some refs =>
      have hparents : h.resource.spec.parentRefs.isSome := by
        rw [hrefs]
        rfl
      by_cases hstate : h.resourceState s = .new ∨ h.resourceState s = .specChanged
      · rw [process_of_changed hrefs hstate]
        exact .inl ⟨⟨haccepts, hstate, hparents⟩, savedRoute_onNewOrChanged hkind hs hrefs⟩
      · by_cases hdel : h.resource.metadata.IsDeletion
        · rw [process_of_deletion hrefs hdel]
          exact .inr (.inl ⟨⟨haccepts, hdel, hparents⟩, deletedRoute_onDeleted hrefs⟩)
        · refine .inr (.inr ⟨fun hc => hstate hc.state, fun hd => hdel hd.deletion, sameRoutes_process hkind hs ?_⟩)
          rintro (hnew | hchanged | hdeleted)
          · exact absurd (.inl hnew) hstate
          · exact absurd (.inr hchanged) hstate
          · exact absurd (resourceState_deleted_iff.1 hdeleted) hdel
  · rw [if_neg haccepts]
    exact .inr (.inr ⟨fun hc => haccepts hc.accepts, fun hd => haccepts hd.accepts, .refl _⟩)

theorem keyed_reconcile (hkind : h.kind.Lawful) (hs : s.routes.Keyed) : (h.reconcile s).stores.routes.Keyed := by
  rcases reconcile_cases hkind hs with ⟨-, status, -, hsaved⟩ | ⟨-, hdeleted⟩ | ⟨-, -, hsame⟩
  · exact hsaved.keyed hs
  · exact hdeleted.keyed hs
  · exact hsame.keyed hs

end Process

end CommonRouteHandler

end Kubvernor
