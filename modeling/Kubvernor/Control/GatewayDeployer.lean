import Kubvernor.Common.Gateway

/-!
# Gateway statuses before a deployment

What the gateway deployer writes into a gateway before it hands it to a backend: the conditions of
its listeners are adjusted to the references that were resolved (`adjustStatuses`), and they become
the listener statuses of the Gateway object (`resolveListenersStatuses`), whose metadata and spec
stay as they are.
-/

namespace Kubvernor

namespace ListenerConditions

/-- `BTreeSet::insert`: a condition with the same discriminant stays. -/
def insertNew (s : ListenerConditions) (c : ListenerCondition) : ListenerConditions :=
  if c.discriminant ∈ s then s else s.insert c.discriminant c

/-- `BTreeSet::remove`. -/
def remove (s : ListenerConditions) (c : ListenerCondition) : ListenerConditions :=
  s.erase c.discriminant

end ListenerConditions

namespace ListenerCondition

/-- `resolved_type`: the status, type and reason a condition is reported with. -/
def resolvedType : ListenerCondition → String × String × String
  | .resolvedRefs .invalidAllowedRoutes | .resolvedRefs (.resolvedWithNotAllowedRoutes _) =>
    ("False", "ResolvedRefs", "InvalidRouteKinds")
  | .resolvedRefs (.invalidBackend _) => ("True", "ResolvedRefs", "InvalidRouteKinds")
  | .resolvedRefs (.resolved _) => ("True", "ResolvedRefs", "ResolvedRefs")
  | .resolvedRefs (.invalidCertificates _) => ("False", "ResolvedRefs", "InvalidCertificateRef")
  | .resolvedRefs (.refNotPermitted _) => ("False", "ResolvedRefs", "RefNotPermitted")
  | .unresolvedRouteRefs => ("False", "ResolvedRefs", "ResolvedRefs")
  | .accepted => ("True", "Accepted", "Accepted")
  | .notAccepted => ("False", "Accepted", "Accepted")
  | .programmed => ("True", "Programmed", "Programmed")
  | .notProgrammed => ("False", "Programmed", "Programmed")

/-- `supported_routes`. -/
def supportedRoutes : ListenerCondition → List String
  | .resolvedRefs (.resolved routes) | .resolvedRefs (.resolvedWithNotAllowedRoutes routes)
  | .resolvedRefs (.invalidCertificates routes) => routes
  | _ => APPROVED_ROUTES

/-- The conditions whose supported routes a listener status reports. -/
def reportsKinds : ListenerCondition → Bool
  | .resolvedRefs .invalidAllowedRoutes => false
  | .resolvedRefs _ | .unresolvedRouteRefs => true
  | _ => false

end ListenerCondition

namespace GatewayDeployer

/-- What `adjust_statuses` does to the conditions of a listener with `resolvedCount` resolved routes. -/
def adjustConditions (resolvedCount : Nat) (conditions : ListenerConditions) : ListenerConditions :=
  let conditions :=
    match conditions[(ListenerCondition.resolvedRefs .invalidAllowedRoutes).discriminant]? with
    | some (.resolvedRefs (.resolved _)) | some (.resolvedRefs (.resolvedWithNotAllowedRoutes _))
    | some (.resolvedRefs (.invalidBackend _)) =>
      (ListenerConditions.replace conditions .accepted).replace .programmed
    | some (.resolvedRefs .invalidAllowedRoutes) | some (.resolvedRefs (.refNotPermitted _)) =>
      (ListenerConditions.insertNew conditions .notProgrammed).replace .notAccepted
    | some (.resolvedRefs (.invalidCertificates _)) =>
      (ListenerConditions.remove conditions .accepted).replace .notProgrammed
    | _ => conditions
  if ListenerCondition.unresolvedRouteRefs.discriminant ∈ conditions then
    let conditions :=
      if resolvedCount = 0 then (ListenerConditions.replace conditions .notProgrammed).replace .notAccepted
      else conditions
    conditions.remove (.resolvedRefs .invalidAllowedRoutes)
  else conditions

/-- `adjust_statuses`. -/
def adjustStatuses (g : Gateway) : Gateway :=
  { g with listeners := g.listeners.map fun _ l =>
      { l with data := { l.data with
          conditions := adjustConditions l.data.resolvedRoutes.size l.data.conditions } } }

def CONDITION_MESSAGE : String := "Gateway updated by controller"

/-- The status of one listener: a condition replaces an earlier one of its type. -/
def listenerStatus (generation : Option Int) (l : Listener) : ListenerStatus :=
  (l.data.conditions.toList.map (·.2)).foldl
    (fun status c =>
      let (state, type, reason) := c.resolvedType
      let condition : Condition :=
        { type := type, status := state, reason := reason
          message := CONDITION_MESSAGE, observedGeneration := generation }
      { status with
        conditions := (status.conditions.filter fun d => d.type ≠ type) ++ [condition]
        supportedKinds := if c.reportsKinds then some c.supportedRoutes else status.supportedKinds })
    { name := l.name, attachedRoutes := l.data.attachedRoutes }

/-- `resolve_listeners_statuses`. -/
def resolveListenersStatuses (g : Gateway) (kube : KubeGateway) : KubeGateway :=
  let statuses := g.listeners.toList.map fun p => listenerStatus kube.metadata.generation p.2
  { kube with status := some { kube.status.getD {} with listeners := some statuses } }

@[simp] theorem resolveListenersStatuses_metadata (g : Gateway) (kube : KubeGateway) :
    (resolveListenersStatuses g kube).metadata = kube.metadata := rfl

@[simp] theorem resolveListenersStatuses_spec (g : Gateway) (kube : KubeGateway) :
    (resolveListenersStatuses g kube).spec = kube.spec := rfl

@[simp] theorem adjustStatuses_resourceKey (g : Gateway) :
    (adjustStatuses g).resourceKey = g.resourceKey := rfl

@[simp] theorem adjustStatuses_backendType (g : Gateway) :
    (adjustStatuses g).backendType = g.backendType := rfl

end GatewayDeployer

end Kubvernor
