import Kubvernor.Lib.Transition
import Kubvernor.Lib.TreeMap
import Kubvernor.State.InMemory

/-!
# The inference pools of a gateway's routes

The state keeps for every gateway a set of its routes with the pools they send traffic to. Two entries
of such a set are equal if their routes are, and a hash set keeps the entry it has when it is given an
equal one. So a route that is attached again, with other pools, stays with the ones it had
(`index_refines_iff`).
-/

namespace Kubvernor

open Lib

namespace State

/-- `attach_inference_pool_to_gateway`; `HashSet::insert` does not replace an equal entry. -/
def attachInferencePoolToGateway (s : State) (gatewayId : GatewayKey) (routeId : RouteKey)
    (inferencePoolIds : List ResourceKey) : State :=
  let routesWithPools :=
    match s.gatewaysWithRoutesWithInferencePools[gatewayId]? with
    | some routesWithPools => routesWithPools.insertIfNew routeId inferencePoolIds
    | none => (∅ : Std.ExtTreeMap RouteKey (List ResourceKey)).insertIfNew routeId inferencePoolIds
  { s with
    gatewaysWithRoutesWithInferencePools :=
      s.gatewaysWithRoutesWithInferencePools.insert gatewayId routesWithPools }

/-- `detach_infererence_pool_from_gateway`, with the pools it returns. -/
def detachInfererencePoolFromGateway (s : State) (gatewayId : GatewayKey) (routeId : RouteKey) :
    State × List ResourceKey :=
  match s.gatewaysWithRoutesWithInferencePools[gatewayId]? with
  | none => (s, [])
  | some routesWithPools =>
    match routesWithPools[routeId]? with
    | none => (s, [])
    | some inferencePoolIds =>
      ({ s with
          gatewaysWithRoutesWithInferencePools :=
            s.gatewaysWithRoutesWithInferencePools.insert gatewayId (routesWithPools.erase routeId) },
        inferencePoolIds)

/-- The pools a route is stored with at any gateway. -/
def poolsOfRoute (s : State) (routeId : RouteKey) : List ResourceKey :=
  (s.gatewaysWithRoutesWithInferencePools.toList.filterMap fun p => p.2[routeId]?).flatten

/-- `find_gateways_by_route_and_inference_pool`, in key order: the gateways with a route that shares a
pool with this one. -/
def findGatewaysByRouteAndInferencePool (s : State) (routeId : RouteKey) : List GatewayKey :=
  (s.gatewaysWithRoutesWithInferencePools.toList.filter fun p =>
    p.2.toList.any fun q => (s.poolsOfRoute routeId).any fun pool => q.2.contains pool).map (·.1)

/-- The pools a route is stored with at a gateway. -/
def storedPools (s : State) (g : GatewayKey) (r : RouteKey) : Option (List ResourceKey) :=
  s.gatewaysWithRoutesWithInferencePools[g]?.bind (·[r]?)

variable {s : State} {g g' : GatewayKey} {r r' : RouteKey} {ids : List ResourceKey} {p : ResourceKey}

theorem storedPools_insert {routes : Std.ExtTreeMap RouteKey (List ResourceKey)} :
    storedPools { s with
      gatewaysWithRoutesWithInferencePools := s.gatewaysWithRoutesWithInferencePools.insert g routes } g' r' =
      if g' = g then routes[r']? else s.storedPools g' r' := by
  simp only [storedPools, Std.ExtTreeMap.getElem?_insert, Std.LawfulEqOrd.compare_eq_iff_eq, eq_comm (a := g')]
  split <;> rfl

/-- An attach leaves a route with the pools it has. -/
theorem storedPools_attach : (s.attachInferencePoolToGateway g r ids).storedPools g' r' =
    if g' = g ∧ r' = r then (s.storedPools g r).or (some ids) else s.storedPools g' r' := by
  refine storedPools_insert.trans ?_
  by_cases hg : g' = g
  · subst hg
    cases hroutes : s.gatewaysWithRoutesWithInferencePools[g']? with
    | none => simp [storedPools, hroutes, getElem?_insertIfNew_or, eq_comm (a := r)]
    | some routes => simp [storedPools, hroutes, getElem?_insertIfNew_or, eq_comm (a := r)]
  · simp [hg]

/-- A detach returns the pools of the route and takes them away. -/
theorem detach_eq : (s.detachInfererencePoolFromGateway g r).2 = (s.storedPools g r).getD [] := by
  unfold detachInfererencePoolFromGateway storedPools
  cases s.gatewaysWithRoutesWithInferencePools[g]? with
  | none => rfl
  | some routes => cases hr : routes[r]? <;> simp [hr]

theorem storedPools_detach : (s.detachInfererencePoolFromGateway g r).1.storedPools g' r' =
    if g' = g ∧ r' = r then none else s.storedPools g' r' := by
  unfold detachInfererencePoolFromGateway
  cases hroutes : s.gatewaysWithRoutesWithInferencePools[g]? with
  | none =>
    by_cases hg : g' = g
    · subst hg
      simp [storedPools, hroutes]
    · simp [hg]
  | some routes =>
    cases hr : routes[r]? with
    | none =>
      simp only [hr]
      by_cases h : g' = g ∧ r' = r
      · obtain ⟨rfl, rfl⟩ := h
        simp [storedPools, hroutes, hr]
      · simp [h]
    | some ids =>
      simp only [hr]
      refine storedPools_insert.trans ?_
      by_cases hg : g' = g
      · subst hg
        simp [storedPools, hroutes, Std.ExtTreeMap.getElem?_erase, eq_comm (a := r')]
      · simp [hg]

/-- A gateway is found if one of its routes is stored with the pool. -/
theorem mem_findGatewaysByInferencePool :
    g ∈ s.findGatewaysByInferencePool p ↔ ∃ r ids, s.storedPools g r = some ids ∧ p ∈ ids := by
  simp only [findGatewaysByInferencePool, List.mem_map, List.mem_filter, List.any_eq_true, List.contains_iff_mem,
    storedPools, Option.bind_eq_some_iff, Prod.exists, Std.ExtTreeMap.mem_toList_iff_getElem?_eq_some]
  constructor
  · rintro ⟨g, routes, ⟨hroutes, r, ids, hr, hp⟩, rfl⟩
    exact ⟨r, ids, ⟨routes, hroutes, hr⟩, hp⟩
  · rintro ⟨r, ids, ⟨routes, hroutes, hr⟩, hp⟩
    exact ⟨g, routes, ⟨hroutes, r, ids, hr, hp⟩, rfl⟩

theorem mem_poolsOfRoute : p ∈ s.poolsOfRoute r ↔ ∃ g ids, s.storedPools g r = some ids ∧ p ∈ ids := by
  simp only [poolsOfRoute, storedPools, List.mem_flatten, List.mem_filterMap, Option.bind_eq_some_iff, Prod.exists,
    Std.ExtTreeMap.mem_toList_iff_getElem?_eq_some]
  constructor
  · rintro ⟨ids, ⟨g, routes, hroutes, hr⟩, hp⟩
    exact ⟨g, ids, ⟨routes, hroutes, hr⟩, hp⟩
  · rintro ⟨g, ids, ⟨routes, hroutes, hr⟩, hp⟩
    exact ⟨ids, ⟨g, routes, hroutes, hr⟩, hp⟩

/-- A gateway is found if one of its routes shares a pool with the route. -/
theorem mem_findGatewaysByRouteAndInferencePool : g ∈ s.findGatewaysByRouteAndInferencePool r ↔
    ∃ r' ids, s.storedPools g r' = some ids ∧ ∃ p ∈ s.poolsOfRoute r, p ∈ ids := by
  simp only [findGatewaysByRouteAndInferencePool, List.mem_map, List.mem_filter, List.any_eq_true,
    List.contains_iff_mem, storedPools, Option.bind_eq_some_iff, Prod.exists,
    Std.ExtTreeMap.mem_toList_iff_getElem?_eq_some]
  constructor
  · rintro ⟨g, routes, ⟨hroutes, r', ids, hr, hp⟩, rfl⟩
    exact ⟨r', ids, ⟨routes, hroutes, hr⟩, hp⟩
  · rintro ⟨r', ids, ⟨routes, hroutes, hr⟩, hp⟩
    exact ⟨g, routes, ⟨hroutes, r', ids, hr, hp⟩, rfl⟩

end State

/-! ## The index as a map -/

inductive InferencePoolOp
  | attach (gatewayId : GatewayKey) (routeId : RouteKey) (inferencePoolIds : List ResourceKey)
  | detach (gatewayId : GatewayKey) (routeId : RouteKey)
deriving DecidableEq

/-- What the index is for: the pools of the latest attach of a route to a gateway, unless it was
detached since. -/
abbrev LatestPools := GatewayKey → RouteKey → Option (List ResourceKey)

def LatestPools.step (m : LatestPools) : InferencePoolOp → LatestPools
  | .attach g r ids => fun g' r' => if g' = g ∧ r' = r then some ids else m g' r'
  | .detach g r => fun g' r' => if g' = g ∧ r' = r then none else m g' r'

/-- The state, with the map beside it. -/
def inferencePoolSystem : System (State × LatestPools) InferencePoolOp where
  init := ({}, fun _ _ => none)
  step
    | (s, m), .attach g r ids => some (s.attachInferencePoolToGateway g r ids, m.step (.attach g r ids))
    | (s, m), .detach g r => some ((s.detachInfererencePoolFromGateway g r).1, m.step (.detach g r))

/-- What the state answers is what the map says. -/
structure RefinesMap (σ : State × LatestPools) : Prop where
  found : ∀ p g, g ∈ σ.1.findGatewaysByInferencePool p ↔ ∃ r ids, σ.2 g r = some ids ∧ p ∈ ids
  detached : ∀ g r, (σ.1.detachInfererencePoolFromGateway g r).2 = (σ.2 g r).getD []

/-- A route that is attached is only attached with the pools it has. -/
def SamePools : State × LatestPools → InferencePoolOp → Prop
  | (_, m), .attach g r ids => ∀ ids', m g r = some ids' → ids' = ids
  | _, .detach .. => True

/-- The routes are stored as the map has them. -/
def StoresMap (σ : State × LatestPools) : Prop := ∀ g r, σ.1.storedPools g r = σ.2 g r

variable {σ σ' : State × LatestPools} {op : InferencePoolOp}

theorem StoresMap.init : StoresMap inferencePoolSystem.init := by
  intro g r
  simp [inferencePoolSystem, State.storedPools]

theorem StoresMap.refines (h : StoresMap σ) : RefinesMap σ := by
  constructor
  · intro p g
    rw [State.mem_findGatewaysByInferencePool]
    simp only [h g]
  · intro g r
    rw [State.detach_eq, h g r]

theorem StoresMap.step (h : StoresMap σ) (hop : SamePools σ op)
    (hstep : inferencePoolSystem.step σ op = some σ') : StoresMap σ' := by
  cases op with
  | attach g r ids =>
    obtain rfl := Option.some.inj hstep
    intro g' r'
    refine State.storedPools_attach.trans ?_
    rw [h g r, h g' r']
    simp only [LatestPools.step]
    split
    · cases hm : σ.2 g r with
      | none => rfl
      | some ids' => rw [hop ids' hm, Option.some_or]
    · rfl
  | detach g r =>
    obtain rfl := Option.some.inj hstep
    intro g' r'
    refine State.storedPools_detach.trans ?_
    rw [h g' r']
    rfl

/-- What a step leaves refines the map exactly if it attaches a route with the pools it has. -/
theorem StoresMap.refines_step_iff (h : StoresMap σ) :
    (∀ σ', inferencePoolSystem.step σ op = some σ' → RefinesMap σ') ↔ SamePools σ op := by
  constructor
  · intro hrefines
    cases op with
    | detach => trivial
    | attach g r ids =>
      intro ids' hm
      have hdetached := (hrefines _ rfl).detached g r
      rw [State.detach_eq, State.storedPools_attach, h g r, hm] at hdetached
      simpa [LatestPools.step] using hdetached
  · exact fun hop σ' hstep => (h.step hop hstep).refines

/-- **The index refines the map** along a run exactly if no route that is attached is attached again
with other pools. -/
theorem index_refines_iff (ops : List InferencePoolOp) :
    inferencePoolSystem.Along (fun σ op => ∀ σ', inferencePoolSystem.step σ op = some σ' → RefinesMap σ')
      inferencePoolSystem.init ops ↔
    inferencePoolSystem.Along SamePools inferencePoolSystem.init ops :=
  System.along_congr StoresMap StoresMap.init (fun _ _ h => h.refines_step_iff)
    fun _ _ _ h hop hstep => h.step hop hstep

/-- A route is attached with one pool, and when it changes with another one. -/
def changedPoolsRun : List InferencePoolOp :=
  [.attach (.new "gateway") (.new "route") [.new "pool-a"],
    .attach (.new "gateway") (.new "route") [.new "pool-b"]]

/-- **The gateway is still found by the first pool**, and not by the second. -/
theorem changedPoolsRun_not_refines : ∃ σ,
    inferencePoolSystem.run inferencePoolSystem.init changedPoolsRun = some σ ∧
    σ.1.findGatewaysByInferencePool (.new "pool-a") = [.new "gateway"] ∧
    σ.1.findGatewaysByInferencePool (.new "pool-b") = [] ∧ ¬ RefinesMap σ := by
  have hrun : (inferencePoolSystem.run inferencePoolSystem.init changedPoolsRun).map (fun σ =>
      (σ.1.findGatewaysByInferencePool (.new "pool-a"), σ.1.findGatewaysByInferencePool (.new "pool-b"),
        σ.2 (.new "gateway") (.new "route"))) =
      some ([.new "gateway"], [], some [.new "pool-b"]) := by decide +kernel
  obtain ⟨σ, hσ, heq⟩ := Option.map_eq_some_iff.1 hrun
  obtain ⟨ha, hb⟩ := Prod.mk.inj heq
  obtain ⟨hb, hlatest⟩ := Prod.mk.inj hb
  refine ⟨σ, hσ, ha, hb, fun h => ?_⟩
  have hfound := (h.found (.new "pool-b") (.new "gateway")).2 ⟨.new "route", _, hlatest, List.mem_singleton_self _⟩
  rw [hb] at hfound
  exact List.not_mem_nil hfound

end Kubvernor
