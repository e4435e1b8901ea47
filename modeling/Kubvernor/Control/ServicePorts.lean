import Kubvernor.Common.Gateway
import Kubvernor.Lib.Dedup

/-!
# The ports of a gateway's deployment and service

Each deployer applies a deployment and a service for a gateway, whose ports are those of its listeners.
The listeners come in the order of their names, and a port is dropped if it repeats the one before it.
So a port is there once exactly if no listener of another port stands between two of its listeners
(`listenerPortsOnce_iff`).
-/

namespace Kubvernor

open Lib

namespace Deployers

/-! ## What is applied -/

structure ContainerPort where
  containerPort : Int
  name : Option String := none
  protocol : Option String := none
  hostIP : Option String := none
  hostPort : Option Int := none
deriving DecidableEq, Repr

structure Container where
  name : String
  ports : Option (List ContainerPort) := none
deriving DecidableEq, Repr

structure PodSpec where
  containers : List Container := []
deriving DecidableEq, Repr

/-- The ports go to the first container. -/
def PodSpec.setPorts (spec : PodSpec) (ports : List ContainerPort) : PodSpec :=
  match spec.containers with
  | [] => spec
  | container :: containers => { spec with containers := { container with ports := some ports } :: containers }

/-- A `Deployment`, with what is set of its metadata and its pods. -/
structure Deployment where
  name : String
  ns : String
  matchLabels : List (String × String)
  podSpec : PodSpec
  replicas : Nat := 1
deriving DecidableEq, Repr

structure ServicePort where
  port : Int
  appProtocol : Option String := none
  name : Option String := none
  nodePort : Option Int := none
  protocol : Option String := none
  targetPort : Option IntOrString := none
deriving DecidableEq, Repr

/-- A `Service`, with what is set of its metadata. -/
structure Service where
  name : String
  ns : String
  selector : List (String × String)
  ports : List ServicePort
  serviceType : String := "LoadBalancer"
deriving DecidableEq, Repr

/-- The ports a deployment opens. -/
def Deployment.portNumbers (d : Deployment) : List Int :=
  d.podSpec.containers.flatMap fun c => (c.ports.getD []).map (·.containerPort)

/-- The ports a service listens on. -/
def Service.portNumbers (s : Service) : List Int := s.ports.map (·.port)

/-! ## The deployers -/

/-- `ProtocolType`, as it is displayed. -/
def display : ProtocolType → String
  | .http => "HTTP"
  | .https => "HTTPS"
  | .tls => "TLS"
  | .tcp => "TCP"
  | .udp => "UDP"

/-- `name`, of a port. -/
def portName (gw : String) (port : Int) (proto : String) : String := s!"{gw}-{port}-{proto.toLower}"

def containerPort (l : Listener) : ContainerPort where
  name := none
  containerPort := l.port
  protocol := some "TCP"

/-- The ports of `create_deployment`: `dedup_by` looks at neighbours only. -/
def containerPorts (gateway : Gateway) : List ContainerPort :=
  (gateway.listenerValues.map containerPort).destutter fun x y =>
    ¬ (x.containerPort = y.containerPort ∧ x.protocol = y.protocol)

/-- `create_deployment`, from the pod of the deployer. -/
def deploymentOf (podSpec : PodSpec) (gateway : Gateway) : Deployment where
  name := gateway.resourceKey.name
  ns := gateway.resourceKey.ns
  matchLabels := [("app", gateway.resourceKey.name)]
  podSpec := podSpec.setPorts (containerPorts gateway)

def servicePort (gateway : Gateway) (l : Listener) : ServicePort where
  appProtocol := none
  name := some (portName gateway.resourceKey.name l.port (display l.protocol))
  nodePort := none
  port := l.port
  protocol := some "TCP"
  targetPort := some (.int l.port)

/-- The ports of `create_service`. -/
def servicePorts (gateway : Gateway) : List ServicePort :=
  (gateway.listenerValues.map (servicePort gateway)).destutter fun x y => ¬ (x.port = y.port ∧ x.protocol = y.protocol)

/-- `create_service`. -/
def serviceOf (gateway : Gateway) : Service where
  name := gateway.resourceKey.name
  ns := gateway.resourceKey.ns
  selector := [("app", gateway.resourceKey.name)]
  ports := servicePorts gateway

end Deployers

open Deployers

namespace EnvoyDeployer

def ENVOY_POD_SPEC : PodSpec := { containers := [{ name := "envoy", ports := some [] }] }

def createDeployment (gateway : Gateway) : Deployment := deploymentOf ENVOY_POD_SPEC gateway

def createService (gateway : Gateway) : Deployers.Service := serviceOf gateway

end EnvoyDeployer

namespace OrionDeployer

def ORION_POD_SPEC : PodSpec := { containers := [{ name := "orion", ports := some [] }] }

def createDeployment (gateway : Gateway) : Deployment := deploymentOf ORION_POD_SPEC gateway

def createService (gateway : Gateway) : Deployers.Service := serviceOf gateway

end OrionDeployer

namespace AgentgatewayDeployer

def AGENTGATEWAY_POD_SPEC : PodSpec := { containers := [{ name := "agentgateway", ports := some [] }] }

def createDeployment (gateway : Gateway) : Deployment := deploymentOf AGENTGATEWAY_POD_SPEC gateway

def createService (gateway : Gateway) : Deployers.Service := serviceOf gateway

end AgentgatewayDeployer

/-- `create_deployment` of the deployer of the implementation. -/
def GatewayImplementationType.createDeployment : GatewayImplementationType → Gateway → Deployment
  | .envoy => EnvoyDeployer.createDeployment
  | .orion => OrionDeployer.createDeployment
  | .agentgateway => AgentgatewayDeployer.createDeployment

/-- `create_service` of the deployer of the implementation. -/
def GatewayImplementationType.createService : GatewayImplementationType → Gateway → Deployers.Service
  | .envoy => EnvoyDeployer.createService
  | .orion => OrionDeployer.createService
  | .agentgateway => AgentgatewayDeployer.createService

/-! ## The ports -/

/-- The ports are those of the listeners, each once. -/
def ListenerPortsOnce (gateway : Gateway) (ports : List Int) : Prop :=
  ports.Nodup ∧ ∀ p, p ∈ ports ↔ ∃ l ∈ gateway.listenerValues, l.port = p

/-- In the order of the names no listener stands between two of one port that are not of its own. -/
def PortsSideBySide (gateway : Gateway) : Prop :=
  ∀ l₁ l₂ l₃ : Listener, [l₁, l₂, l₃].Sublist gateway.listenerValues → l₁.port = l₃.port → l₂.port = l₁.port

section Ports

variable {gateway : Gateway}

theorem contiguous_ports_iff : Contiguous (gateway.listenerValues.map Listener.port) ↔ PortsSideBySide gateway := by
  constructor
  · intro h l₁ l₂ l₃ hl h₁₃
    refine (h l₁.port l₂.port ?_).symm
    have hports := hl.map Listener.port
    rwa [List.map_cons, List.map_cons, List.map_cons, List.map_nil, ← h₁₃] at hports
  · intro h a b hab
    obtain ⟨ls, hls, heq⟩ := List.sublist_map_iff.1 hab
    obtain ⟨l₁, ls₁, rfl, rfl, heq₁⟩ := List.map_eq_cons_iff.1 heq.symm
    obtain ⟨l₂, ls₂, rfl, rfl, heq₂⟩ := List.map_eq_cons_iff.1 heq₁
    obtain ⟨l₃, ls₃, rfl, h₃, heq₃⟩ := List.map_eq_cons_iff.1 heq₂
    obtain rfl := List.map_eq_nil_iff.1 heq₃
    exact (h l₁ l₂ l₃ hls h₃.symm).symm

/-- What is left of the listeners' ports when repeated neighbours are dropped. -/
theorem listenerPortsOnce_destutter_iff :
    ListenerPortsOnce gateway ((gateway.listenerValues.map Listener.port).destutter (· ≠ ·)) ↔
      PortsSideBySide gateway := by
  unfold ListenerPortsOnce
  rw [nodup_destutter_iff, contiguous_ports_iff]
  refine and_iff_left fun p => ?_
  rw [mem_destutter_iff, List.mem_map]

/-- Entries that are told apart by the listeners' ports. -/
theorem map_destutter_entries {β : Type} (entry : Listener → β) (port : β → Int) {R : β → β → Prop} [DecidableRel R]
    (hport : ∀ l, port (entry l) = l.port) (hR : ∀ l l', R (entry l) (entry l') ↔ l.port ≠ l'.port)
    (ls : List Listener) : ((ls.map entry).destutter R).map port = (ls.map Listener.port).destutter (· ≠ ·) := by
  have hmap : ((ls.map entry).destutter R).map port = ((ls.map entry).map port).destutter (· ≠ ·) := by
    refine List.map_destutter ?_
    simp only [List.mem_map]
    rintro _ ⟨l, -, rfl⟩ _ ⟨l', -, rfl⟩
    rw [hR, hport, hport]
  rw [hmap, List.map_map]
  congr 1
  exact List.map_congr_left fun l _ => hport l

/-- All ports have one protocol, so they are told apart by their numbers. -/
theorem portNumbers_serviceOf :
    (serviceOf gateway).portNumbers = (gateway.listenerValues.map Listener.port).destutter (· ≠ ·) :=
  map_destutter_entries (servicePort gateway) (fun p => p.port) (fun _ => rfl)
    (fun _ _ => by simp [servicePort]) _

theorem portNumbers_deploymentOf {container : Container} :
    (deploymentOf { containers := [container] } gateway).portNumbers =
      (gateway.listenerValues.map Listener.port).destutter (· ≠ ·) := by
  have hports : (deploymentOf { containers := [container] } gateway).portNumbers =
      (containerPorts gateway).map (·.containerPort) := by
    simp [deploymentOf, Deployment.portNumbers, PodSpec.setPorts]
  rw [hports]
  exact map_destutter_entries containerPort ContainerPort.containerPort (fun _ => rfl)
    (fun _ _ => by simp [containerPort]) _

end Ports

/-- The ports of the deployment and those of the service are the listeners' ports, each once, exactly if
the listeners of each port stand side by side. -/
theorem listenerPortsOnce_iff (t : GatewayImplementationType) (gateway : Gateway) :
    (ListenerPortsOnce gateway (t.createDeployment gateway).portNumbers ↔ PortsSideBySide gateway) ∧
      (ListenerPortsOnce gateway (t.createService gateway).portNumbers ↔ PortsSideBySide gateway) := by
  have hdeployment : (t.createDeployment gateway).portNumbers =
      (gateway.listenerValues.map Listener.port).destutter (· ≠ ·) := by
    cases t <;> exact portNumbers_deploymentOf
  have hservice : (t.createService gateway).portNumbers =
      (gateway.listenerValues.map Listener.port).destutter (· ≠ ·) := by
    cases t <;> exact portNumbers_serviceOf
  rw [hdeployment, hservice]
  exact ⟨listenerPortsOnce_destutter_iff, listenerPortsOnce_destutter_iff⟩

def httpListenerOn (name : String) (port : Int) : Listener where
  protocol := .http
  data := { config := { name := name, port := port } }

/-- Two listeners of port 80 with one of port 8080 between them, as the names are ordered. -/
def interleavedGateway : Gateway where
  id := 1
  resourceKey := { ns := "shop", name := "edge" }
  listeners := .ofList [("a", httpListenerOn "a" 80), ("b", httpListenerOn "b" 8080), ("c", httpListenerOn "c" 80)]

/-- Every deployer lists port 80 twice. -/
theorem interleavedGateway_portsTwice : ¬ ∃ t : GatewayImplementationType,
    ListenerPortsOnce interleavedGateway (t.createDeployment interleavedGateway).portNumbers ∨
      ListenerPortsOnce interleavedGateway (t.createService interleavedGateway).portNumbers := by
  have hports : interleavedGateway.listenerValues.map Listener.port = [80, 8080, 80] := by decide +kernel
  have htwice : ¬ ListenerPortsOnce interleavedGateway
      ((interleavedGateway.listenerValues.map Listener.port).destutter (· ≠ ·)) := by
    rw [hports]
    exact fun h => absurd h.1 (by decide)
  rintro ⟨t, h | h⟩
  · cases t <;> exact htwice (portNumbers_deploymentOf ▸ h)
  · cases t <;> exact htwice (portNumbers_serviceOf ▸ h)

end Kubvernor
