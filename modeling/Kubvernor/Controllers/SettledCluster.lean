import Kubvernor.Controllers.RouteResolver
import Kubvernor.References.BackendReferences
import Kubvernor.References.GrantQueries

/-!
# A gateway in a settled cluster

What a route is resolved with once a gateway is added and nothing changes any more: its Services and pools
are tracked and polled, the grants for its references are resolved. Then a Service or a pool has its value
if a linked route refers to it (`settled_spec`), and a reference is allowed if a search for the gateway
finds it and there are grants for it (`isAllowed_settled`).
-/

namespace Kubvernor

open Lib

/-! ## Linked routes -/

namespace RouteStores

/-- Every route is stored under its key. -/
structure StoredByKey (s : RouteStores) : Prop where
  http : ∀ (k : RouteKey) (r : HTTPRoute), s.httpRoutes[k]? = some r → r.resourceKey = k
  grpc : ∀ (k : RouteKey) (r : GRPCRoute), s.grpcRoutes[k]? = some r → r.resourceKey = k

variable {s : RouteStores} {g : GatewayKey} (isIpAddr : String → Bool)

/-- The routes that are linked to a gateway, but the one of this key. -/
def OtherLinked (s : RouteStores) (g : GatewayKey) (key : RouteKey) (route : Route) : Prop :=
  (∃ k r, k ≠ key ∧ s.Attached g k ∧ s.httpRoutes[k]? = some r ∧ Route.ofHTTPRoute isIpAddr r = route) ∨
    ∃ k r, k ≠ key ∧ s.Attached g k ∧ s.grpcRoutes[k]? = some r ∧ Route.ofGRPCRoute isIpAddr r = route

/-- The store in which an HTTP route is saved and attached. -/
def linkHttp (s : RouteStores) (g : GatewayKey) (r : HTTPRoute) : RouteStores :=
  (s.attachHttpRouteToGateway g r.resourceKey).saveHttpRoute r.resourceKey r

/-- The store in which a GRPC route is saved and attached. -/
def linkGrpc (s : RouteStores) (g : GatewayKey) (r : GRPCRoute) : RouteStores :=
  (s.attachGrpcRouteToGateway g r.resourceKey).saveGrpcRoute r.resourceKey r

/-- A route is linked, and so are others; a key stands for one of them. -/
structure LinkedWith (s : RouteStores) (g : GatewayKey) (route : Route) (others : Route → Prop) : Prop where
  mem : ∀ route', route' ∈ s.findLinkedRoutes isIpAddr g ↔ route' = route ∨ others route'
  keys : ∀ a ∈ s.findLinkedRoutes isIpAddr g, ∀ b ∈ s.findLinkedRoutes isIpAddr g,
    a.resourceKey = b.resourceKey → a = b

/-- In such a store a key stands for one linked route. -/
theorem StoredByKey.linked_eq (h : s.StoredByKey) : ∀ a ∈ s.findLinkedRoutes isIpAddr g, ∀ b ∈ s.findLinkedRoutes isIpAddr g,
    a.resourceKey = b.resourceKey → a = b := by
  intro a ha b hb hkey
  rw [mem_findLinkedRoutes] at ha hb
  simp only [mem_getHttpRoutesAttachedToGateway, mem_getGrpcRoutesAttachedToGateway] at ha hb
  rcases ha with ⟨r, ⟨k, -, hr⟩, rfl⟩ | ⟨r, ⟨k, -, hr⟩, rfl⟩ <;>
    rcases hb with ⟨r', ⟨k', -, hr'⟩, rfl⟩ | ⟨r', ⟨k', -, hr'⟩, rfl⟩
  · have hk : k = k' := (h.http k r hr).symm.trans (hkey.trans (h.http k' r' hr'))
    rw [hk, hr'] at hr
    rw [Option.some.inj hr]
  · exact absurd (congrArg ResourceKey.kind hkey) (by decide : "HTTPRoute" ≠ "GRPCRoute")
  · exact absurd (congrArg ResourceKey.kind hkey) (by decide : "GRPCRoute" ≠ "HTTPRoute")
  · have hk : k = k' := (h.grpc k r hr).symm.trans (hkey.trans (h.grpc k' r' hr'))
    rw [hk, hr'] at hr
    rw [Option.some.inj hr]

theorem StoredByKey.linkHttp (h : s.StoredByKey) (g : GatewayKey) (r : HTTPRoute) : (s.linkHttp g r).StoredByKey where
  http k r' hr' := by
    simp only [RouteStores.linkHttp, saveHttpRoute, getElem?_insert_ite] at hr'
    split at hr'
    · next hk => rw [← Option.some.inj hr', hk]
    · exact h.http k r' hr'
  grpc := h.grpc

theorem StoredByKey.linkGrpc (h : s.StoredByKey) (g : GatewayKey) (r : GRPCRoute) : (s.linkGrpc g r).StoredByKey where
  http := h.http
  grpc k r' hr' := by
    simp only [RouteStores.linkGrpc, saveGrpcRoute, getElem?_insert_ite] at hr'
    split at hr'
    · next hk => rw [← Option.some.inj hr', hk]
    · exact h.grpc k r' hr'

theorem linkedWith_linkHttp (h : s.StoredByKey) (g : GatewayKey) (r : HTTPRoute) :
    (s.linkHttp g r).LinkedWith isIpAddr g (.ofHTTPRoute isIpAddr r) (s.OtherLinked isIpAddr g r.resourceKey) where
  mem route' := by
    rw [mem_findLinkedRoutes]
    simp only [mem_getHttpRoutesAttachedToGateway, mem_getGrpcRoutesAttachedToGateway]
    have hattached (k : RouteKey) : (s.linkHttp g r).Attached g k ↔ k = r.resourceKey ∨ s.Attached g k := by
      exact attached_attachRoute.trans (by simp)
    have hhttp (k : RouteKey) : (s.linkHttp g r).httpRoutes[k]? =
        if k = r.resourceKey then some r else s.httpRoutes[k]? := getElem?_insert_ite _ _ _ _
    have hgrpc : (s.linkHttp g r).grpcRoutes = s.grpcRoutes := rfl
    simp only [hattached, hhttp, hgrpc]
    constructor
    · rintro (⟨r', ⟨k, hk, hr'⟩, rfl⟩ | ⟨r', ⟨k, hk, hr'⟩, rfl⟩)
      · split at hr'
        · exact .inl (by rw [Option.some.inj hr'])
        · next hne => exact .inr (.inl ⟨k, r', hne, hk.resolve_left hne, hr', rfl⟩)
      · have hne : k ≠ r.resourceKey := by
          rintro rfl
          exact absurd (congrArg ResourceKey.kind (h.grpc _ r' hr')) (by decide : "GRPCRoute" ≠ "HTTPRoute")
        exact .inr (.inr ⟨k, r', hne, hk.resolve_left hne, hr', rfl⟩)
    · rintro (rfl | ⟨k, r', hne, hk, hr', rfl⟩ | ⟨k, r', -, hk, hr', rfl⟩)
      · exact .inl ⟨r, ⟨r.resourceKey, .inl rfl, if_pos rfl⟩, rfl⟩
      · exact .inl ⟨r', ⟨k, .inr hk, (if_neg hne).trans hr'⟩, rfl⟩
      · exact .inr ⟨r', ⟨k, .inr hk, hr'⟩, rfl⟩
  keys := (h.linkHttp g r).linked_eq isIpAddr

theorem linkedWith_linkGrpc (h : s.StoredByKey) (g : GatewayKey) (r : GRPCRoute) :
    (s.linkGrpc g r).LinkedWith isIpAddr g (.ofGRPCRoute isIpAddr r) (s.OtherLinked isIpAddr g r.resourceKey) where
  mem route' := by
    rw [mem_findLinkedRoutes]
    simp only [mem_getHttpRoutesAttachedToGateway, mem_getGrpcRoutesAttachedToGateway]
    have hattached (k : RouteKey) : (s.linkGrpc g r).Attached g k ↔ k = r.resourceKey ∨ s.Attached g k := by
      exact attached_attachRoute.trans (by simp)
    have hgrpc (k : RouteKey) : (s.linkGrpc g r).grpcRoutes[k]? =
        if k = r.resourceKey then some r else s.grpcRoutes[k]? := getElem?_insert_ite _ _ _ _
    have hhttp : (s.linkGrpc g r).httpRoutes = s.httpRoutes := rfl
    simp only [hattached, hhttp, hgrpc]
    constructor
    · rintro (⟨r', ⟨k, hk, hr'⟩, rfl⟩ | ⟨r', ⟨k, hk, hr'⟩, rfl⟩)
      · have hne : k ≠ r.resourceKey := by
          rintro rfl
          exact absurd (congrArg ResourceKey.kind (h.http _ r' hr')) (by decide : "HTTPRoute" ≠ "GRPCRoute")
        exact .inr (.inl ⟨k, r', hne, hk.resolve_left hne, hr', rfl⟩)
      · split at hr'
        · exact .inl (by rw [Option.some.inj hr'])
        · next hne => exact .inr (.inr ⟨k, r', hne, hk.resolve_left hne, hr', rfl⟩)
    · rintro (rfl | ⟨k, r', -, hk, hr', rfl⟩ | ⟨k, r', hne, hk, hr', rfl⟩)
      · exact .inr ⟨r, ⟨r.resourceKey, .inl rfl, if_pos rfl⟩, rfl⟩
      · exact .inl ⟨r', ⟨k, .inr hk, hr'⟩, rfl⟩
      · exact .inr ⟨r', ⟨k, .inr hk, (if_neg hne).trans hr'⟩, rfl⟩
  keys := (h.linkGrpc g r).linked_eq isIpAddr

end RouteStores

/-! ## What the gateway's resolvers hold -/

/-- What the API server answers, as long as nothing changes: `service` and `inferencePool` give the object
of a namespace and a name. -/
structure KubeCluster where
  api : Api
  service : String → String → Option Service
  inferencePool : String → String → Option InferencePool
  grants : ReferenceGrantLister

/-- The grants resolver, with the gateway's references searched and the grants resolved. -/
def ReferenceGrantsResolver.settled (cluster : KubeCluster) (isIpAddr : String → Bool) (routes : RouteStores)
    (gateway : Gateway) : ReferenceGrantsResolver :=
  ((({} : ReferenceGrantsResolver).addReferencesByGateway isIpAddr routes gateway).resolveInternal cluster.grants).1

/-- What the routes of the gateway are resolved with: its references are tracked and polled. -/
def RouteResolver.settled (cluster : KubeCluster) (controllerName : String) (isIpAddr : String → Bool)
    (routes : RouteStores) (gateway : Gateway) : Option RouteResolver :=
  (({} : BackendReferenceResolver).addReferencesByGateway isIpAddr routes gateway.resourceKey).map fun backends =>
    { api := cluster.api
      gatewayResourceKey := gateway.resourceKey
      services := backends.referenceResolver.poll (fun s => { s with metadata := {} })
        fun k => cluster.service k.ns k.name
      inferencePools := backends.inferencePoolReferenceResolver.poll (fun p => { p with metadata := {} })
        fun k => cluster.inferencePool k.ns k.name
      referenceGrantsResolver := .settled cluster isIpAddr routes gateway
      controllerName := controllerName }

section

variable {R : Type} [DecidableEq R]

/-- A resolver that polls these keys, with what the cluster answers. -/
structure MultiReferencesResolver.Polls (s : MultiReferencesResolver R) (keys : ReferenceKey → Prop)
    (fetch : ReferenceKey → Option R) : Prop where
  mem : ∀ k, k ∈ s.references.parents ↔ keys k
  value : ∀ k, keys k → s.getReference k = fetch k
  other : ∀ k, ¬ keys k → s.getReference k = none

omit [DecidableEq R] in
/-- What polls the same keys has the same values. -/
theorem MultiReferencesResolver.Polls.getReference_eq {s s' : MultiReferencesResolver R}
    {keys keys' : ReferenceKey → Prop} {fetch : ReferenceKey → Option R} (h' : s'.Polls keys' fetch)
    (h : s.Polls keys fetch) (hkeys : ∀ k, keys' k ↔ keys k) (k : ReferenceKey) :
    s'.getReference k = s.getReference k := by
  by_cases hk : keys k
  · rw [h.value k hk, h'.value k ((hkeys k).2 hk)]
  · rw [h.other k hk, h'.other k (mt (hkeys k).1 hk)]

theorem MultiReferencesResolver.polls_of_linked (clearMeta : R → R) (fetch : ReferenceKey → Option R)
    (references : Route → Std.ExtTreeSet ReferenceKey) {linkedRoutes : List Route} (g : GatewayKey)
    (hkeys : ∀ a ∈ linkedRoutes, ∀ b ∈ linkedRoutes, a.resourceKey = b.resourceKey → a = b) :
    ∃ s, ({} : MultiReferencesResolver R).addReferencesForGateway g (routeReferences references linkedRoutes) = some s ∧
      (s.poll clearMeta fetch).Polls (fun k => ∃ route ∈ linkedRoutes, k ∈ references route) fetch := by
  obtain ⟨s, hs, hparents, hempty⟩ := addReferencesForGateway_empty (R := R) g (routeReferences references linkedRoutes)
  have hmem (k : ReferenceKey) : k ∈ s.references.parents ↔ ∃ route ∈ linkedRoutes, k ∈ references route :=
    (hparents k).trans (mem_referenceKeys_routeReferences hkeys)
  refine ⟨s, hs, fun k => ?_, fun k hk => ?_, fun k hk => ?_⟩
  · rw [parents_poll]
    exact hmem k
  · rw [getReference_poll hempty, if_pos ((hmem k).2 hk)]
  · rw [getReference_poll hempty, if_neg (mt (hmem k).1 hk)]

end

variable {isIpAddr : String → Bool} {routes : RouteStores} {gateway : Gateway}

/-- **What a gateway's routes are resolved with.** -/
theorem RouteResolver.settled_spec (cluster : KubeCluster) (controllerName : String) {route : Route} {others : Route → Prop}
    (h : routes.LinkedWith isIpAddr gateway.resourceKey route others) :
    ∃ services inferencePools,
      settled cluster controllerName isIpAddr routes gateway = some
        { api := cluster.api
          gatewayResourceKey := gateway.resourceKey
          services := services
          inferencePools := inferencePools
          referenceGrantsResolver := .settled cluster isIpAddr routes gateway
          controllerName := controllerName } ∧
      services.Polls (fun k => ∃ r, (r = route ∨ others r) ∧ k ∈ r.serviceReferences)
        (fun k => cluster.service k.ns k.name) ∧
      inferencePools.Polls (fun k => ∃ r, (r = route ∨ others r) ∧ k ∈ r.inferencePoolReferences)
        (fun k => cluster.inferencePool k.ns k.name) := by
  obtain ⟨services, hservices, hpolls⟩ := MultiReferencesResolver.polls_of_linked
    (fun s : Service => { s with metadata := {} }) (fun k => cluster.service k.ns k.name)
    Route.serviceReferences gateway.resourceKey h.keys
  obtain ⟨pools, hpools, hpolls'⟩ := MultiReferencesResolver.polls_of_linked
    (fun p : InferencePool => { p with metadata := {} }) (fun k => cluster.inferencePool k.ns k.name)
    Route.inferencePoolReferences gateway.resourceKey h.keys
  simp only [h.mem] at hpolls hpolls'
  refine ⟨_, _, ?_, hpolls, hpolls'⟩
  rw [settled, BackendReferenceResolver.addReferencesByGateway]
  simp only [hservices, hpools, Option.bind_some, Option.map_some]

/-- A reference is allowed if it is found and there are grants for it. -/
theorem isAllowed_settled {cluster : KubeCluster} {sender target : ResourceKey} {gatewayKey : GatewayKey} :
    (ReferenceGrantsResolver.settled cluster isIpAddr routes gateway).isAllowed sender target gatewayKey = true ↔
      .ofKeys sender target gatewayKey ∈ ReferenceGrantsResolver.searchReferences isIpAddr routes gateway ∧
        ReferenceGrantsResolver.GrantsFor cluster.grants sender target := by
  rw [ReferenceGrantsResolver.settled, ReferenceGrantsResolver.isAllowed_resolveInternal_keys]
  refine and_congr_left fun _ => ?_
  rw [ReferenceGrantsResolver.mem_addReferencesByGateway]
  exact or_iff_right Std.ExtTreeSet.not_mem_empty

end Kubvernor
