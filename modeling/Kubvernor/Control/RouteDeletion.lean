import Kubvernor.Control.Reconcile

/-!
# Deletions of routes

A deletion is to detach its route and the pools of the route, to have the finalizer released and to tell the
reference validator. The common handler looks for the deleted route among the HTTP routes. So the deletion of an
HTTP route completes, if the deleted object still names the gateways its route is attached to, and that of a GRPC
route fails once the route is detached: the finalizer stays (`deletion_completes_iff`).
-/

namespace Kubvernor

variable {R : Type}

/-- What is sent to the patcher of the resource. -/
def Sent.operation? : Sent R → Option (Operation R)
  | .patcher operation => some operation
  | .poolPatcher _ | .validator _ => none

/-- What is sent to the validator. -/
def Sent.request? : Sent R → Option ValidateRequest
  | .validator request => some request
  | .patcher _ | .poolPatcher _ => none

namespace CommonRouteHandler

variable {M F : Type} {h : CommonRouteHandler M F} {s : Stores}

/-- Updating pools leaves their gateways. -/
theorem storedPools_updatePools (controllerName : String) (gatewayIds : List GatewayKey) (pools : List ResourceKey)
    (g : GatewayKey) (k : RouteKey) :
    (s.updatePools controllerName gatewayIds pools).1.state.storedPools g k = s.state.storedPools g k := by
  induction pools generalizing s with
  | nil => rfl
  | cons pool pools ih =>
    have hone : (s.updatePool controllerName gatewayIds pool).1.state.storedPools g k = s.state.storedPools g k := by
      unfold Stores.updatePool
      split
      · rfl
      · simp only [State.maybeSaveInferencePool]
        split_ifs <;> rfl
    exact (ih (s := (s.updatePool controllerName gatewayIds pool).1)).trans hone

section Completes

variable [DecidableEq M] [DecidableEq F]

/-- The deletion of a stored route completes: the route and its pools are detached from every gateway that the
deleted object or the stored one names, the patcher is asked once, for the finalizer, the validator is told once,
with the references of the stored route, and there is no error. -/
structure Completes (h : CommonRouteHandler M F) (s : Stores) (stored : KubeRoute M F) : Prop where
  detached : ∀ g, h.NamesGateway g ∨ stored.view.NamesGateway h.resourceKey g →
    ¬ (h.process s).stores.routes.Attached g h.resourceKey
  poolsDetached : ∀ g, h.NamesGateway g ∨ stored.view.NamesGateway h.resourceKey g →
    (h.process s).stores.state.storedPools g h.resourceKey = none
  released : (h.process s).sent.filterMap Sent.operation? =
    [.delete h.resourceKey h.resource h.config.controllerName]
  told : (h.process s).sent.filterMap Sent.request? =
    [.deleteRoute h.resourceKey (extractReferences (h.kind.toRoute stored))]
  succeeds : ∀ error, (h.process s).outcome ≠ .failed error

/-- The deleted object has parent references, and they name each gateway that the stored one names, if the route
is still attached there. -/
structure NamesParents (h : CommonRouteHandler M F) (s : Stores) (stored : KubeRoute M F) : Prop where
  parents : h.resource.spec.parentRefs.isSome
  named : ∀ g, stored.view.NamesGateway h.resourceKey g →
    s.routes.Attached g h.resourceKey ∨ s.state.storedPools g h.resourceKey ≠ none → h.NamesGateway g

/-- Without parent references a deletion fails. -/
theorem Completes.parents {stored : KubeRoute M F} (hdel : h.resource.metadata.IsDeletion)
    (hc : h.Completes s stored) : h.resource.spec.parentRefs.isSome := by
  by_contra hnone
  have hrefs := Option.not_isSome_iff_eq_none.1 hnone
  refine hc.succeeds (.invalidPayload "Route with no parents") ?_
  unfold process
  rw [resourceState_deleted_iff.2 hdel]
  simp only [handleDeleted, hrefs]

/-- **A route that is not among the HTTP routes stays half deleted.** -/
theorem not_completes_of_none {stored : KubeRoute M F} (hdel : h.resource.metadata.IsDeletion)
    (hnone : s.routes.httpRoutes[h.resourceKey]? = none) : ¬ h.Completes s stored := by
  intro hc
  obtain ⟨refs, hrefs⟩ := Option.isSome_iff_exists.1 (hc.parents hdel)
  refine hc.succeeds (.invalidPayload "Route doesn't exist") ?_
  rw [process_of_deletion hrefs hdel, onDeleted_of_none refs hnone]

end Completes

/-- The stores once the deletion of an HTTP route is through: it is detached, together with its pools. -/
theorem onDeleted_of_some_frame (refs : List ParentReference) {stored : HTTPRoute}
    (hstored : s.routes.httpRoutes[h.resourceKey]? = some stored) (g : GatewayKey) (k : RouteKey) :
    ((h.onDeleted s refs).stores.routes.Attached g k ↔ (h.detached s refs).routes.Attached g k) ∧
    (h.onDeleted s refs).stores.state.storedPools g k = (h.detached s refs).state.storedPools g k := by
  rw [onDeleted_of_some refs hstored]
  show ((h.updatedPools s refs stored).1.routes.Attached g k ↔ _) ∧
    (h.updatedPools s refs stored).1.state.storedPools g k = _
  constructor
  · rw [(updatedPools_frame refs stored).1]
    exact Iff.rfl
  · unfold updatedPools
    simp only
    split_ifs
    · exact storedPools_updatePools _ _ _ g k
    · rfl

/-- What is sent once the deletion of an HTTP route is through. -/
theorem sent_onDeleted_of_some (refs : List ParentReference) {stored : HTTPRoute}
    (hstored : s.routes.httpRoutes[h.resourceKey]? = some stored) :
    (h.onDeleted s refs).sent.filterMap Sent.operation? = [.delete h.resourceKey h.resource h.config.controllerName] ∧
    (h.onDeleted s refs).sent.filterMap Sent.request? =
      [.deleteRoute h.resourceKey (extractReferences (Route.ofHTTPRoute h.config.isIpAddr stored))] := by
  have hoperations (operations : List (Operation InferencePool)) :
      (operations.map (Sent.poolPatcher (R := KubeRoute M F))).filterMap Sent.operation? = [] := by
    rw [List.filterMap_map, List.filterMap_eq_nil_iff]
    exact fun _ _ => rfl
  have hrequests (operations : List (Operation InferencePool)) :
      (operations.map (Sent.poolPatcher (R := KubeRoute M F))).filterMap Sent.request? = [] := by
    rw [List.filterMap_map, List.filterMap_eq_nil_iff]
    exact fun _ _ => rfl
  rw [onDeleted_of_some refs hstored]
  constructor
  · rw [List.filterMap_append, hoperations]
    rfl
  · rw [List.filterMap_append, hrequests]
    rfl

end CommonRouteHandler

variable {config : ControllerConfig} {s : Stores}

/-- The deletion of an HTTP route completes exactly if it names the parents of the stored route. -/
theorem completes_http_iff {r stored : HTTPRoute} (hdel : r.metadata.IsDeletion)
    (hstored : s.routes.httpRoutes[(httpRouteHandler config r).resourceKey]? = some stored) :
    (httpRouteHandler config r).Completes s stored ↔ (httpRouteHandler config r).NamesParents s stored := by
  set h := httpRouteHandler config r
  constructor
  · intro hc
    obtain ⟨refs, hrefs⟩ := Option.isSome_iff_exists.1 (hc.parents hdel)
    refine ⟨hc.parents hdel, fun g hg hleft => ?_⟩
    by_contra hnot
    have hattached := hc.detached g (.inr hg)
    have hpools := hc.poolsDetached g (.inr hg)
    obtain ⟨hroutes, hstate⟩ := h.onDeleted_of_some_frame refs hstored g h.resourceKey
    rw [h.process_of_deletion hrefs hdel, hroutes, h.attached_detached hrefs] at hattached
    rw [h.process_of_deletion hrefs hdel, hstate, h.storedPools_detached hrefs, if_neg fun hand => hnot hand.1] at hpools
    rcases hleft with hleft | hleft
    · exact hattached ⟨hleft, fun hand => hnot hand.1⟩
    · exact hleft hpools
  · rintro ⟨hparents, hnamed⟩
    obtain ⟨refs, hrefs⟩ := Option.isSome_iff_exists.1 hparents
    have hprocess := h.process_of_deletion hrefs hdel (s := s)
    have hframe (g : GatewayKey) := h.onDeleted_of_some_frame refs hstored g h.resourceKey
    obtain ⟨hreleased, htold⟩ := h.sent_onDeleted_of_some refs hstored
    refine ⟨fun g hg hattached => ?_, fun g hg => ?_, by rw [hprocess, hreleased], by rw [hprocess, htold]; rfl, ?_⟩
    · rw [hprocess, (hframe g).1, h.attached_detached hrefs] at hattached
      rcases hg with hg | hg
      · exact hattached.2 ⟨hg, rfl⟩
      · exact hattached.2 ⟨hnamed g hg (.inl hattached.1), rfl⟩
    · rw [hprocess, (hframe g).2, h.storedPools_detached hrefs]
      split_ifs with hnames
      · rfl
      · by_contra hleft
        rcases hg with hg | hg
        · exact hnames ⟨hg, rfl⟩
        · exact hnames ⟨hnamed g hg (.inr hleft), rfl⟩
    · intro error
      rw [hprocess, h.onDeleted_of_some refs hstored]
      exact Outcome.noConfusion

/-- **Which deletions complete**: those of HTTP routes that name the parents of the stored route, and none of a GRPC
route. -/
theorem deletion_completes_iff (hs : s.routes.Keyed) :
    (∀ r stored : HTTPRoute, r.metadata.IsDeletion → s.routes.getHttpRouteById r.resourceKey = some stored →
      ((httpRouteHandler config r).Completes s stored ↔ (httpRouteHandler config r).NamesParents s stored)) ∧
    (∀ r stored : GRPCRoute, r.metadata.IsDeletion → s.routes.getGrpcRouteById r.resourceKey = some stored →
      ¬ (grpcRouteHandler config r).Completes s stored) := by
  constructor
  · intro r stored hdel hstored
    exact completes_http_iff hdel hstored
  · intro r stored hdel _
    exact (grpcRouteHandler config r).not_completes_of_none hdel (hs.getHttp_eq_none rfl)

/-! ## A GRPC route that is deleted -/

/-- A route of either kind to one gateway, with a finalizer, and deleted or not. -/
def finalizedRoute {M F : Type} (deletionTimestamp : Option String) : KubeRoute M F where
  metadata :=
    { name := some "route", uid := some someUid, finalizers := some ["controller"]
      deletionTimestamp := deletionTimestamp }
  spec := { parentRefs := some [{ name := "gateway" }] }

/-- The stores once both routes are created. -/
def routesStored : Stores :=
  let s := ({} : Stores).reconcile someConfig (.httpRoute (finalizedRoute none))
  s.reconcile someConfig (.grpcRoute (finalizedRoute none))

def deletionTime : Option String := some "2026-01-01T00:00:00Z"

theorem keyed_routesStored : routesStored.routes.Keyed :=
  (wellKeyed_reconcile _ _ (wellKeyed_reconcile _ _ .init)).routes

/-- **The GRPC route is detached**, and then its deletion fails: nothing is sent. -/
theorem grpcDeletion_not_completes :
    (∃ stored, routesStored.routes.getGrpcRouteById (GRPCRoute.resourceKey (finalizedRoute deletionTime)) = some stored ∧
      stored.spec.parentRefs = some [{ name := "gateway" }] ∧
      ¬ (grpcRouteHandler someConfig (finalizedRoute deletionTime)).Completes routesStored stored) ∧
    ((grpcRouteHandler someConfig (finalizedRoute deletionTime)).process routesStored).sent.length = 0 ∧
    ((grpcRouteHandler someConfig (finalizedRoute deletionTime)).process routesStored).outcome =
      .failed (.invalidPayload "Route doesn't exist") := by
  have hstored : (routesStored.routes.getGrpcRouteById (GRPCRoute.resourceKey (finalizedRoute deletionTime))).map
      (·.spec.parentRefs) = some (some [{ name := "gateway" }]) := by decide +kernel
  obtain ⟨stored, hstored, hrefs⟩ := Option.map_eq_some_iff.1 hstored
  refine ⟨⟨stored, hstored, hrefs, ?_⟩, by decide +kernel, by decide +kernel⟩
  exact CommonRouteHandler.not_completes_of_none (by decide) (keyed_routesStored.getHttp_eq_none rfl)

/-- The deletion of the HTTP route completes. -/
theorem httpDeletion_completes : ∃ stored,
    routesStored.routes.getHttpRouteById (HTTPRoute.resourceKey (finalizedRoute deletionTime)) = some stored ∧
    (httpRouteHandler someConfig (finalizedRoute deletionTime)).Completes routesStored stored := by
  have hstored : (routesStored.routes.getHttpRouteById (HTTPRoute.resourceKey (finalizedRoute deletionTime))).map
      (·.spec.parentRefs) = some (some [{ name := "gateway" }]) := by decide +kernel
  obtain ⟨stored, hstored, hrefs⟩ := Option.map_eq_some_iff.1 hstored
  refine ⟨stored, hstored, ?_⟩
  refine ((deletion_completes_iff keyed_routesStored).1 _ stored (by decide) hstored).2 ⟨rfl, fun g hg _ => ?_⟩
  unfold KubeRoute.view RouteView.NamesGateway at hg
  rw [hrefs] at hg
  exact hg

end Kubvernor
