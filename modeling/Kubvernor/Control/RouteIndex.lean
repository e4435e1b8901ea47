import Kubvernor.Control.RouteHandlers
import Kubvernor.Lib.Since

/-!
# The index of routes and gateways

Which route is attached to which gateway is kept in a map of its own, apart from the maps of the stored
routes. A route is attached exactly if it was attached and not detached since (`attached_run_iff`),
whatever was saved and deleted in between. The routes of a gateway are the stored ones among its
attached keys; the gateways of a set of routes are those with an attached key in the set. Under a key is stored what
was saved there last, unless it was deleted since (`getHttpRouteById_run_iff`).
-/

namespace Kubvernor

open Lib

/-- `get_gateways_with_http_routes`. -/
def RouteStores.getGatewaysWithHttpRoutes (s : RouteStores) (routes : Std.ExtTreeSet RouteKey) :
    Std.ExtTreeSet GatewayKey :=
  s.gatewaysWithRoutes.toList.foldl (fun ownedGateways p =>
    if p.2.toList.any (routes.contains ·) then ownedGateways.insert p.1 else ownedGateways) ∅

/-! ## Runs of the state -/

/-- The methods of `State` that change it. -/
inductive StateOp
  | routes (op : RouteStoresOp)
  | saveGateway (id : GatewayKey) (gateway : KubeGateway)
  | maybeSaveGateway (id : GatewayKey) (gateway : KubeGateway)
  | deleteGateway (id : GatewayKey)
  | saveGatewayType (id : GatewayKey) (gatewayImplementationType : GatewayImplementationType)
  | deleteGatewayType (id : GatewayKey)
  | saveGatewayClass (id : ResourceKey) (gatewayClass : GatewayClass)
  | deleteGatewayClass (id : ResourceKey)
  | saveInferencePool (id : ResourceKey) (inferencePool : InferencePool)
  | maybeSaveInferencePool (id : ResourceKey) (inferencePool : InferencePool)
  | deleteInferencePool (id : ResourceKey)
  | attachInferencePoolToGateway (gatewayId : GatewayKey) (routeId : RouteKey) (inferencePoolIds : List ResourceKey)
  | detachInfererencePoolFromGateway (gatewayId : GatewayKey) (routeId : RouteKey)

def Stores.apply (s : Stores) : StateOp → Stores
  | .routes op => { s with routes := s.routes.apply op }
  | .saveGateway id gateway => { s with state := s.state.saveGateway id gateway }
  | .maybeSaveGateway id gateway => { s with state := s.state.maybeSaveGateway id gateway }
  | .deleteGateway id => { s with state := s.state.deleteGateway id }
  | .saveGatewayType id t => { s with state := s.state.saveGatewayType id t }
  | .deleteGatewayType id => { s with state := s.state.deleteGatewayType id }
  | .saveGatewayClass id gatewayClass => { s with gatewayClasses := s.gatewayClasses.insert id gatewayClass }
  | .deleteGatewayClass id => { s with gatewayClasses := s.gatewayClasses.erase id }
  | .saveInferencePool id pool => { s with state := s.state.saveInferencePool id pool }
  | .maybeSaveInferencePool id pool => { s with state := s.state.maybeSaveInferencePool id pool }
  | .deleteInferencePool id =>
    { s with state := { s.state with inferencePools := s.state.inferencePools.erase id } }
  | .attachInferencePoolToGateway gatewayId routeId ids =>
    { s with state := s.state.attachInferencePoolToGateway gatewayId routeId ids }
  | .detachInfererencePoolFromGateway gatewayId routeId =>
    { s with state := (s.state.detachInfererencePoolFromGateway gatewayId routeId).1 }

/-- The state after a run from the empty one. -/
def Stores.run (ops : List StateOp) : Stores := ops.foldl Stores.apply {}

/-- The step is one of the route stores, of this kind. -/
def StateOp.OfRoutes (p : RouteStoresOp → Prop) : StateOp → Prop
  | .routes op => p op
  | _ => False

namespace RouteStoresOp

/-- The route is attached to the gateway, as one of either kind. -/
def Attaches (g : GatewayKey) (k : RouteKey) : RouteStoresOp → Prop
  | .attachHttpRouteToGateway gatewayId routeId => g = gatewayId ∧ k = routeId
  | .attachGrpcRouteToGateway gatewayId routeId => g = gatewayId ∧ k = routeId
  | _ => False

/-- The route is detached from the gateway, as one of either kind. -/
def Detaches (g : GatewayKey) (k : RouteKey) : RouteStoresOp → Prop
  | .detachHttpRouteFromGateway gatewayId routeId => g = gatewayId ∧ k = routeId
  | .detachGrpcRouteFromGateway gatewayId routeId => g = gatewayId ∧ k = routeId
  | _ => False

/-- An HTTP route is stored under the key, whatever was there. -/
def SavesHttp (k : RouteKey) : RouteStoresOp → Prop
  | .saveHttpRoute id _ => k = id
  | _ => False

def DeletesHttp (k : RouteKey) : RouteStoresOp → Prop
  | .deleteHttpRoute id => k = id
  | _ => False

/-- A GRPC route is stored under the key, whatever was there. -/
def SavesGrpc (k : RouteKey) : RouteStoresOp → Prop
  | .saveGrpcRoute id _ => k = id
  | _ => False

def DeletesGrpc (k : RouteKey) : RouteStoresOp → Prop
  | .deleteGrpcRoute id => k = id
  | _ => False

/-- What is stored as an HTTP route under the key is written or deleted. -/
def WritesHttp (k : RouteKey) : RouteStoresOp → Prop
  | .saveHttpRoute id _ | .maybeSaveHttpRoute id _ | .deleteHttpRoute id => k = id
  | _ => False

def WritesGrpc (k : RouteKey) : RouteStoresOp → Prop
  | .saveGrpcRoute id _ | .maybeSaveGrpcRoute id _ | .deleteGrpcRoute id => k = id
  | _ => False

end RouteStoresOp

/-! ## What a step does -/

namespace RouteStores

open RouteStoresOp

variable {s : RouteStores} {op : RouteStoresOp} {g : GatewayKey} {k : RouteKey}

/-- Saving and deleting routes leaves the index alone. -/
theorem attached_apply : (s.apply op).Attached g k ↔ op.Attaches g k ∨ (s.Attached g k ∧ ¬ op.Detaches g k) := by
  cases op with
  | attachHttpRouteToGateway | attachGrpcRouteToGateway =>
    simp only [Attaches, Detaches, not_false_eq_true, and_true]
    exact attached_attachRoute
  | detachHttpRouteFromGateway | detachGrpcRouteFromGateway =>
    simp only [Attaches, Detaches, false_or]
    exact attached_detachRoute
  | maybeSaveHttpRoute id route =>
    simp only [RouteStores.apply, maybeSaveHttpRoute, Attaches, Detaches]
    split <;> simp [saveHttpRoute, Attached]
  | maybeSaveGrpcRoute id route =>
    simp only [RouteStores.apply, maybeSaveGrpcRoute, Attaches, Detaches]
    split <;> simp [saveGrpcRoute, Attached]
  | saveHttpRoute | deleteHttpRoute | saveGrpcRoute | deleteGrpcRoute =>
    simp [RouteStores.apply, saveHttpRoute, deleteHttpRoute, saveGrpcRoute, deleteGrpcRoute, Attached, Attaches,
      Detaches]

/-- A conditional save adds no key. -/
theorem mem_httpRoutes_maybeSaveHttpRoute {id : RouteKey} {route : HTTPRoute} :
    k ∈ (s.maybeSaveHttpRoute id route).httpRoutes ↔ k ∈ s.httpRoutes := by
  unfold maybeSaveHttpRoute
  split
  · rename_i hid
    simp only [saveHttpRoute, Std.ExtTreeMap.mem_insert, Std.LawfulEqOrd.compare_eq_iff_eq, or_iff_right_iff_imp]
    rintro rfl
    exact hid
  · rfl

theorem mem_grpcRoutes_maybeSaveGrpcRoute {id : RouteKey} {route : GRPCRoute} :
    k ∈ (s.maybeSaveGrpcRoute id route).grpcRoutes ↔ k ∈ s.grpcRoutes := by
  unfold maybeSaveGrpcRoute
  split
  · rename_i hid
    simp only [saveGrpcRoute, Std.ExtTreeMap.mem_insert, Std.LawfulEqOrd.compare_eq_iff_eq, or_iff_right_iff_imp]
    rintro rfl
    exact hid
  · rfl

@[simp] theorem grpcRoutes_maybeSaveHttpRoute {id : RouteKey} {route : HTTPRoute} :
    (s.maybeSaveHttpRoute id route).grpcRoutes = s.grpcRoutes := by
  unfold maybeSaveHttpRoute
  split <;> rfl

@[simp] theorem httpRoutes_maybeSaveGrpcRoute {id : RouteKey} {route : GRPCRoute} :
    (s.maybeSaveGrpcRoute id route).httpRoutes = s.httpRoutes := by
  unfold maybeSaveGrpcRoute
  split <;> rfl

theorem mem_httpRoutes_apply :
    k ∈ (s.apply op).httpRoutes ↔ op.SavesHttp k ∨ (k ∈ s.httpRoutes ∧ ¬ op.DeletesHttp k) := by
  cases op with
  | saveHttpRoute id route =>
    simp [RouteStores.apply, saveHttpRoute, SavesHttp, DeletesHttp, eq_comm (a := id)]
  | maybeSaveHttpRoute id route =>
    simp [RouteStores.apply, mem_httpRoutes_maybeSaveHttpRoute, SavesHttp, DeletesHttp]
  | deleteHttpRoute id =>
    simp [RouteStores.apply, deleteHttpRoute, SavesHttp, DeletesHttp, eq_comm (a := id), and_comm]
  | _ =>
    simp [RouteStores.apply, saveGrpcRoute, deleteGrpcRoute, attachHttpRouteToGateway, attachGrpcRouteToGateway,
      detachHttpRouteFromGateway, detachGrpcRouteFromGateway, SavesHttp, DeletesHttp]

theorem mem_grpcRoutes_apply :
    k ∈ (s.apply op).grpcRoutes ↔ op.SavesGrpc k ∨ (k ∈ s.grpcRoutes ∧ ¬ op.DeletesGrpc k) := by
  cases op with
  | saveGrpcRoute id route =>
    simp [RouteStores.apply, saveGrpcRoute, SavesGrpc, DeletesGrpc, eq_comm (a := id)]
  | maybeSaveGrpcRoute id route =>
    simp [RouteStores.apply, mem_grpcRoutes_maybeSaveGrpcRoute, SavesGrpc, DeletesGrpc]
  | deleteGrpcRoute id =>
    simp [RouteStores.apply, deleteGrpcRoute, SavesGrpc, DeletesGrpc, eq_comm (a := id), and_comm]
  | _ =>
    simp [RouteStores.apply, saveHttpRoute, deleteHttpRoute, attachHttpRouteToGateway, attachGrpcRouteToGateway,
      detachHttpRouteFromGateway, detachGrpcRouteFromGateway, SavesGrpc, DeletesGrpc]

/-- Under a key is what a step puts there: a save does, and a conditional save where something is. -/
theorem getElem?_httpRoutes_apply {r : HTTPRoute} : (s.apply op).httpRoutes[k]? = some r ↔
    (op = .saveHttpRoute k r ∨ op = .maybeSaveHttpRoute k r ∧ k ∈ s.httpRoutes) ∨
      (s.httpRoutes[k]? = some r ∧ ¬ op.WritesHttp k) := by
  cases op with
  | saveHttpRoute id route =>
    simp only [RouteStores.apply, saveHttpRoute, getElem?_insert_ite, WritesHttp, saveHttpRoute.injEq, reduceCtorEq,
      false_and, or_false]
    by_cases hk : k = id <;> simp [hk, eq_comm (a := id)]
  | maybeSaveHttpRoute id route =>
    simp only [RouteStores.apply, maybeSaveHttpRoute, WritesHttp, maybeSaveHttpRoute.injEq, reduceCtorEq, false_or]
    by_cases hk : k = id
    · subst hk
      by_cases hmem : k ∈ s.httpRoutes
      · simp [saveHttpRoute, hmem]
      · simp [hmem]
    · by_cases hmem : id ∈ s.httpRoutes
      · simp [if_pos hmem, saveHttpRoute, getElem?_insert_ite, hk, Ne.symm hk]
      · simp [if_neg hmem, hk, Ne.symm hk]
  | deleteHttpRoute id =>
    simp only [RouteStores.apply, deleteHttpRoute, WritesHttp, reduceCtorEq, false_and, or_false, false_or]
    by_cases hk : k = id
    · simp [hk]
    · simp [hk, Ne.symm hk, Std.ExtTreeMap.getElem?_erase]
  | _ =>
    simp [RouteStores.apply, saveGrpcRoute, deleteGrpcRoute, attachHttpRouteToGateway, attachGrpcRouteToGateway,
      detachHttpRouteFromGateway, detachGrpcRouteFromGateway, WritesHttp]

theorem getElem?_grpcRoutes_apply {r : GRPCRoute} : (s.apply op).grpcRoutes[k]? = some r ↔
    (op = .saveGrpcRoute k r ∨ op = .maybeSaveGrpcRoute k r ∧ k ∈ s.grpcRoutes) ∨
      (s.grpcRoutes[k]? = some r ∧ ¬ op.WritesGrpc k) := by
  cases op with
  | saveGrpcRoute id route =>
    simp only [RouteStores.apply, saveGrpcRoute, getElem?_insert_ite, WritesGrpc, saveGrpcRoute.injEq, reduceCtorEq,
      false_and, or_false]
    by_cases hk : k = id <;> simp [hk, eq_comm (a := id)]
  | maybeSaveGrpcRoute id route =>
    simp only [RouteStores.apply, maybeSaveGrpcRoute, WritesGrpc, maybeSaveGrpcRoute.injEq, reduceCtorEq, false_or]
    by_cases hk : k = id
    · subst hk
      by_cases hmem : k ∈ s.grpcRoutes
      · simp [saveGrpcRoute, hmem]
      · simp [hmem]
    · by_cases hmem : id ∈ s.grpcRoutes
      · simp [if_pos hmem, saveGrpcRoute, getElem?_insert_ite, hk, Ne.symm hk]
      · simp [if_neg hmem, hk, Ne.symm hk]
  | deleteGrpcRoute id =>
    simp only [RouteStores.apply, deleteGrpcRoute, WritesGrpc, reduceCtorEq, false_and, or_false, false_or]
    by_cases hk : k = id
    · simp [hk]
    · simp [hk, Ne.symm hk, Std.ExtTreeMap.getElem?_erase]
  | _ =>
    simp [RouteStores.apply, saveHttpRoute, deleteHttpRoute, attachHttpRouteToGateway, attachGrpcRouteToGateway,
      detachHttpRouteFromGateway, detachGrpcRouteFromGateway, WritesGrpc]

/-! ## The lookups -/

/-- A gateway is found if one of its attached keys is among the routes. -/
theorem mem_getGatewaysWithHttpRoutes {routes : Std.ExtTreeSet RouteKey} :
    g ∈ s.getGatewaysWithHttpRoutes routes ↔ ∃ k ∈ routes, s.Attached g k := by
  have hfold (l : List (GatewayKey × Std.ExtTreeSet RouteKey)) (owned : Std.ExtTreeSet GatewayKey) :
      g ∈ l.foldl (fun owned p => if p.2.toList.any (routes.contains ·) then owned.insert p.1 else owned) owned ↔
        g ∈ owned ∨ ∃ p ∈ l, p.1 = g ∧ ∃ k ∈ routes, k ∈ p.2 := by
    induction l generalizing owned with
    | nil => simp
    | cons p l ih =>
      have hany : p.2.toList.any (routes.contains ·) = true ↔ ∃ k ∈ routes, k ∈ p.2 := by
        simp [List.any_eq_true, and_comm]
      rw [List.foldl_cons, ih]
      by_cases hp : ∃ k ∈ routes, k ∈ p.2
      · rw [if_pos (hany.2 hp)]
        simp only [Std.ExtTreeSet.mem_insert, Std.LawfulEqOrd.compare_eq_iff_eq, List.mem_cons, exists_eq_or_imp, hp,
          and_true]
        rw [or_comm (a := p.1 = g), or_assoc]
      · rw [if_neg (mt hany.1 hp)]
        simp only [List.mem_cons, exists_eq_or_imp, hp, and_false, false_or]
  unfold getGatewaysWithHttpRoutes Attached
  rw [hfold]
  simp only [Std.ExtTreeSet.not_mem_empty, false_or, Prod.exists, Std.ExtTreeMap.mem_toList_iff_getElem?_eq_some]
  constructor
  · rintro ⟨g', stored, hstored, rfl, k, hk, hmem⟩
    refine ⟨k, hk, ?_⟩
    rw [hstored]
    exact hmem
  · rintro ⟨k, hk, hmem⟩
    cases hstored : s.gatewaysWithRoutes[g]? with
    | none => simp [hstored] at hmem
    | some stored => exact ⟨g, stored, hstored, rfl, k, hk, by simpa [hstored] using hmem⟩

end RouteStores

/-- The list holds what is stored under the attached keys: each key once, in key order. -/
def ListedInOrder {R : Type} (attached : RouteKey → Prop) (stored : RouteKey → Option R) (routes : List R) : Prop :=
  ∃ keys : List RouteKey, keys.Pairwise (compare · · = .lt) ∧
    (∀ k, k ∈ keys ↔ attached k ∧ (stored k).isSome) ∧ List.Forall₂ (fun k r => stored k = some r) keys routes

theorem listedInOrder_filterMap {R : Type} (keys : Std.ExtTreeSet RouteKey) (stored : RouteKey → Option R) :
    ListedInOrder (· ∈ keys) stored (keys.toList.filterMap stored) := by
  refine ⟨keys.toList.filter fun k => (stored k).isSome, keys.ordered_toList.filter _, ?_, ?_⟩
  · intro k
    rw [List.mem_filter, Std.ExtTreeSet.mem_toList]
  · induction keys.toList with
    | nil => exact .nil
    | cons k l ih =>
      cases hk : stored k with
      | none => simpa [hk] using ih
      | some r => simpa [hk] using ih

/-! ## The index over a run -/

/-- A property of the route stores that one kind of step makes true and another makes false. -/
theorem run_iff_since (holds : RouteStores → Prop) {p q : RouteStoresOp → Prop} (hinit : ¬ holds {})
    (hstep : ∀ s op, holds (s.apply op) ↔ p op ∨ (holds s ∧ ¬ q op)) (ops : List StateOp) :
    holds (Stores.run ops).routes ↔ Since (StateOp.OfRoutes p) (StateOp.OfRoutes q) ops := by
  refine foldl_iff_since (fun s : Stores => holds s.routes) hinit ?_ ops
  intro s op
  cases op with
  | routes op => exact hstep s.routes op
  | _ => simp [Stores.apply, StateOp.OfRoutes]

/-- The route was attached to the gateway and not detached since. -/
def AttachedSince (ops : List StateOp) (g : GatewayKey) (k : RouteKey) : Prop :=
  Since (StateOp.OfRoutes (RouteStoresOp.Attaches g k)) (StateOp.OfRoutes (RouteStoresOp.Detaches g k)) ops

theorem attached_run_iff (ops : List StateOp) (g : GatewayKey) (k : RouteKey) :
    (Stores.run ops).routes.Attached g k ↔ AttachedSince ops g k :=
  run_iff_since (fun s => s.Attached g k) (by simp [RouteStores.Attached])
    (fun _ _ => RouteStores.attached_apply) ops

/-- An HTTP route was saved under the key and not deleted since. -/
def HttpSavedSince (ops : List StateOp) (k : RouteKey) : Prop :=
  Since (StateOp.OfRoutes (RouteStoresOp.SavesHttp k)) (StateOp.OfRoutes (RouteStoresOp.DeletesHttp k)) ops

/-- A GRPC route was saved under the key and not deleted since. -/
def GrpcSavedSince (ops : List StateOp) (k : RouteKey) : Prop :=
  Since (StateOp.OfRoutes (RouteStoresOp.SavesGrpc k)) (StateOp.OfRoutes (RouteStoresOp.DeletesGrpc k)) ops

theorem isSome_getHttpRouteById_run_iff (ops : List StateOp) (k : RouteKey) :
    ((Stores.run ops).routes.getHttpRouteById k).isSome ↔ HttpSavedSince ops k := by
  unfold RouteStores.getHttpRouteById
  rw [← Std.ExtTreeMap.mem_iff_isSome_getElem?]
  exact run_iff_since (fun s => k ∈ s.httpRoutes) (by simp) (fun _ _ => RouteStores.mem_httpRoutes_apply) ops

theorem isSome_getGrpcRouteById_run_iff (ops : List StateOp) (k : RouteKey) :
    ((Stores.run ops).routes.getGrpcRouteById k).isSome ↔ GrpcSavedSince ops k := by
  unfold RouteStores.getGrpcRouteById
  rw [← Std.ExtTreeMap.mem_iff_isSome_getElem?]
  exact run_iff_since (fun s => k ∈ s.grpcRoutes) (by simp) (fun _ _ => RouteStores.mem_grpcRoutes_apply) ops

/-- The HTTP route was saved under the key, or put in the place of one that was, and not written over or deleted
since. -/
def HttpStoredSince (ops : List StateOp) (k : RouteKey) (r : HTTPRoute) : Prop :=
  SinceAfter (fun before op => op = .routes (.saveHttpRoute k r) ∨
      op = .routes (.maybeSaveHttpRoute k r) ∧ HttpSavedSince before k)
    (StateOp.OfRoutes (RouteStoresOp.WritesHttp k)) ops

def GrpcStoredSince (ops : List StateOp) (k : RouteKey) (r : GRPCRoute) : Prop :=
  SinceAfter (fun before op => op = .routes (.saveGrpcRoute k r) ∨
      op = .routes (.maybeSaveGrpcRoute k r) ∧ GrpcSavedSince before k)
    (StateOp.OfRoutes (RouteStoresOp.WritesGrpc k)) ops

theorem getHttpRouteById_run_iff (ops : List StateOp) (k : RouteKey) (r : HTTPRoute) :
    (Stores.run ops).routes.getHttpRouteById k = some r ↔ HttpStoredSince ops k r := by
  refine foldl_iff_sinceAfter (fun s : Stores => s.routes.getHttpRouteById k = some r)
    (by simp [RouteStores.getHttpRouteById]) (fun before op => ?_) ops
  cases op with
  | routes op =>
    have hsaved : HttpSavedSince before k ↔ k ∈ (Stores.run before).routes.httpRoutes := by
      rw [← isSome_getHttpRouteById_run_iff, RouteStores.getHttpRouteById, ← Std.ExtTreeMap.mem_iff_isSome_getElem?]
    rw [hsaved, StateOp.routes.injEq, StateOp.routes.injEq]
    exact RouteStores.getElem?_httpRoutes_apply
  | _ => simp [Stores.apply, StateOp.OfRoutes]

theorem getGrpcRouteById_run_iff (ops : List StateOp) (k : RouteKey) (r : GRPCRoute) :
    (Stores.run ops).routes.getGrpcRouteById k = some r ↔ GrpcStoredSince ops k r := by
  refine foldl_iff_sinceAfter (fun s : Stores => s.routes.getGrpcRouteById k = some r)
    (by simp [RouteStores.getGrpcRouteById]) (fun before op => ?_) ops
  cases op with
  | routes op =>
    have hsaved : GrpcSavedSince before k ↔ k ∈ (Stores.run before).routes.grpcRoutes := by
      rw [← isSome_getGrpcRouteById_run_iff, RouteStores.getGrpcRouteById, ← Std.ExtTreeMap.mem_iff_isSome_getElem?]
    rw [hsaved, StateOp.routes.injEq, StateOp.routes.injEq]
    exact RouteStores.getElem?_grpcRoutes_apply
  | _ => simp [Stores.apply, StateOp.OfRoutes]

/-- The stored ones among the attached keys of a gateway; the lookups of both kinds are of this form. -/
theorem listedInOrder_attached {R : Type} (s : RouteStores) (g : GatewayKey) (stored : RouteKey → Option R) :
    ListedInOrder (s.Attached g) stored
      ((s.gatewaysWithRoutes[g]?.map fun keys => keys.toList.filterMap stored).getD []) := by
  rw [RouteStores.attachedRoutes_eq]
  exact listedInOrder_filterMap _ stored

/-- After every run the routes of a gateway are the stored ones attached to it and not detached since, each as it was
saved last, and the gateways of a set of routes are those that such a route of the set is attached to. -/
theorem routeIndex_twoWay (ops : List StateOp) :
    (∀ g, ListedInOrder (AttachedSince ops g) (Stores.run ops).routes.getHttpRouteById
        (((Stores.run ops).routes.getHttpRoutesAttachedToGateway g).getD []) ∧
      ListedInOrder (AttachedSince ops g) (Stores.run ops).routes.getGrpcRouteById
        (((Stores.run ops).routes.getGrpcRoutesAttachedToGateway g).getD [])) ∧
    (∀ k, (((Stores.run ops).routes.getHttpRouteById k).isSome ↔ HttpSavedSince ops k) ∧
      (((Stores.run ops).routes.getGrpcRouteById k).isSome ↔ GrpcSavedSince ops k) ∧
      (∀ r, (Stores.run ops).routes.getHttpRouteById k = some r ↔ HttpStoredSince ops k r) ∧
      ∀ r, (Stores.run ops).routes.getGrpcRouteById k = some r ↔ GrpcStoredSince ops k r) ∧
    ∀ (routes : Std.ExtTreeSet RouteKey) (g : GatewayKey),
      g ∈ (Stores.run ops).routes.getGatewaysWithHttpRoutes routes ↔ ∃ k ∈ routes, AttachedSince ops g k := by
  have hattached (g : GatewayKey) : (Stores.run ops).routes.Attached g = AttachedSince ops g :=
    funext fun k => propext (attached_run_iff ops g k)
  refine ⟨fun g => ?_, fun k => ?_, fun routes g => ?_⟩
  · rw [← hattached]
    exact ⟨listedInOrder_attached _ g _, listedInOrder_attached _ g _⟩
  · exact ⟨isSome_getHttpRouteById_run_iff ops k, isSome_getGrpcRouteById_run_iff ops k,
      getHttpRouteById_run_iff ops k, getGrpcRouteById_run_iff ops k⟩
  · rw [RouteStores.mem_getGatewaysWithHttpRoutes, hattached]

end Kubvernor
