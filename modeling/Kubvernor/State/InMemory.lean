import Kubvernor.Common.Gateway

/-!
# The in-memory state

The stores that the controller's tasks share. Each method locks one store, so that it is one atomic
step of the task that calls it. The stores of the source are hash maps; nothing depends on the order
they are iterated in.
-/

namespace Kubvernor

/-- `State`: the stores of gateways, of their implementation types and of inference pools. -/
structure State where
  gateways : Std.ExtTreeMap GatewayKey KubeGateway := ∅
  gatewayImplementationTypes : Std.ExtTreeMap GatewayKey GatewayImplementationType := ∅
  inferencePools : Std.ExtTreeMap ResourceKey InferencePool := ∅
  gatewaysWithRoutesWithInferencePools :
    Std.ExtTreeMap GatewayKey (Std.ExtTreeMap RouteKey (List ResourceKey)) := ∅

namespace State

/-- `save_gateway`. -/
def saveGateway (s : State) (id : GatewayKey) (g : KubeGateway) : State :=
  { s with gateways := s.gateways.insert id g }

/-- `maybe_save_gateway`: replaces a gateway that is there. -/
def maybeSaveGateway (s : State) (id : GatewayKey) (g : KubeGateway) : State :=
  if id ∈ s.gateways then s.saveGateway id g else s

/-- `delete_gateway`. -/
def deleteGateway (s : State) (id : GatewayKey) : State := { s with gateways := s.gateways.erase id }

/-- `get_gateway`. -/
def getGateway (s : State) (id : GatewayKey) : Option KubeGateway := s.gateways[id]?

/-- `save_gateway_type`. -/
def saveGatewayType (s : State) (id : GatewayKey) (t : GatewayImplementationType) : State :=
  { s with gatewayImplementationTypes := s.gatewayImplementationTypes.insert id t }

/-- `get_gateway_type`. -/
def getGatewayType (s : State) (id : GatewayKey) : Option GatewayImplementationType :=
  s.gatewayImplementationTypes[id]?

/-- `delete_gateway_type`; the type it returns is `getGatewayType`. -/
def deleteGatewayType (s : State) (id : GatewayKey) : State :=
  { s with gatewayImplementationTypes := s.gatewayImplementationTypes.erase id }

/-- `get_inference_pool`. -/
def getInferencePool (s : State) (id : ResourceKey) : Option InferencePool := s.inferencePools[id]?

/-- `save_inference_pool`. -/
def saveInferencePool (s : State) (id : ResourceKey) (p : InferencePool) : State :=
  { s with inferencePools := s.inferencePools.insert id p }

/-- `maybe_save_inference_pool`: replaces a pool that is there. -/
def maybeSaveInferencePool (s : State) (id : ResourceKey) (p : InferencePool) : State :=
  if id ∈ s.inferencePools then s.saveInferencePool id p else s

/-- `find_gateways_by_inference_pool`, in key order. -/
def findGatewaysByInferencePool (s : State) (pool : ResourceKey) : List GatewayKey :=
  (s.gatewaysWithRoutesWithInferencePools.toList.filter fun p =>
    p.2.toList.any fun q => q.2.contains pool).map (·.1)

variable {s : State} {id id' : GatewayKey} {g g' : KubeGateway} {t : GatewayImplementationType}

@[simp] theorem getGateway_saveGateway :
    (s.saveGateway id g).getGateway id' = if id = id' then some g else s.getGateway id' := by
  simp only [getGateway, saveGateway, Std.ExtTreeMap.getElem?_insert, Std.LawfulEqOrd.compare_eq_iff_eq]

@[simp] theorem getGateway_deleteGateway :
    (s.deleteGateway id).getGateway id' = if id = id' then none else s.getGateway id' := by
  simp only [getGateway, deleteGateway, Std.ExtTreeMap.getElem?_erase, Std.LawfulEqOrd.compare_eq_iff_eq]

theorem getGateway_maybeSaveGateway :
    (s.maybeSaveGateway id g).getGateway id' =
      if id = id' ∧ (s.getGateway id).isSome then some g else s.getGateway id' := by
  unfold maybeSaveGateway
  have hmem : id ∈ s.gateways ↔ (s.getGateway id).isSome := Std.ExtTreeMap.mem_iff_isSome_getElem?
  by_cases h : id ∈ s.gateways
  · simp [h, hmem.1 h]
  · simp [h, mt hmem.2 h]

/-- What is stored after a conditional save was stored before or is the saved gateway, in place of
one that was stored. -/
theorem getGateway_maybeSaveGateway_cases (h : (s.maybeSaveGateway id g).getGateway id' = some g') :
    s.getGateway id' = some g' ∨ (id = id' ∧ g = g' ∧ ∃ g₀, s.getGateway id = some g₀) := by
  rw [getGateway_maybeSaveGateway] at h
  split at h
  · rename_i hc
    exact .inr ⟨hc.1, Option.some.inj h, Option.isSome_iff_exists.1 hc.2⟩
  · exact .inl h

@[simp] theorem getGateway_saveGatewayType : (s.saveGatewayType id t).getGateway id' = s.getGateway id' := rfl

@[simp] theorem getGateway_deleteGatewayType : (s.deleteGatewayType id).getGateway id' = s.getGateway id' := rfl

@[simp] theorem getGatewayType_saveGatewayType :
    (s.saveGatewayType id t).getGatewayType id' = if id = id' then some t else s.getGatewayType id' := by
  simp only [getGatewayType, saveGatewayType, Std.ExtTreeMap.getElem?_insert, Std.LawfulEqOrd.compare_eq_iff_eq]

@[simp] theorem getGatewayType_deleteGatewayType :
    (s.deleteGatewayType id).getGatewayType id' = if id = id' then none else s.getGatewayType id' := by
  simp only [getGatewayType, deleteGatewayType, Std.ExtTreeMap.getElem?_erase, Std.LawfulEqOrd.compare_eq_iff_eq]

@[simp] theorem getGatewayType_saveGateway : (s.saveGateway id g).getGatewayType id' = s.getGatewayType id' := rfl

@[simp] theorem getGatewayType_deleteGateway : (s.deleteGateway id).getGatewayType id' = s.getGatewayType id' := rfl

@[simp] theorem getGatewayType_maybeSaveGateway :
    (s.maybeSaveGateway id g).getGatewayType id' = s.getGatewayType id' := by
  unfold maybeSaveGateway
  split <;> rfl

end State

end Kubvernor
