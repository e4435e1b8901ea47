import Kubvernor.Lib.Transition
import Mathlib.Data.List.Nodup
import Mathlib.Logic.Function.Basic

/-!
# The state-of-the-world server

The server that sends Envoys the clusters and listeners of their gateway, with the tasks that share
its tables: the deployer, which numbers the changes of each gateway and queues two updates for each;
the service, which stores an update and sends it to the clients of its gateway; and for every stream
a handler, which answers the requests of one client. Every section under a mutex and every send and
receive is a step of its own, so that the tasks may interleave between any two of them.

An Envoy names in a request the version of the last response it accepted, per type; it installs and
acknowledges every response. The lookup of the client's Pod succeeds: `gatewayOf` is the id of the
gateway it finds. A gateway goes by its id, `namespace.name`, which tells gateways apart since a
namespace has no dot. The channels are not bounded here, which only allows more orders of steps.
-/

namespace Kubvernor.Xds

/-! ## Messages and tables -/

/-- The types of resources the server answers requests for. -/
inductive TypeUrl
  | cluster
  | listener
deriving DecidableEq, Repr

structure AckVersions where
  cluster : Nat := 0
  listener : Nat := 0
deriving DecidableEq, Repr

namespace AckVersions

def get (v : AckVersions) : TypeUrl → Nat
  | .cluster => v.cluster
  | .listener => v.listener

def set (v : AckVersions) (t : TypeUrl) (n : Nat) : AckVersions :=
  match t with
  | .cluster => { v with cluster := n }
  | .listener => { v with listener := n }

/-- `AckVersions::inc`, on 32 bits. -/
def inc (v : AckVersions) : AckVersions where
  cluster := (v.cluster + 1) % UInt32.size
  listener := (v.listener + 1) % UInt32.size

theorem get_set (v : AckVersions) (t t' : TypeUrl) (n : Nat) :
    (v.set t n).get t' = if t' = t then n else v.get t' := by
  cases t <;> cases t' <;> rfl

@[simp] theorem get_default (t : TypeUrl) : ({} : AckVersions).get t = 0 := by cases t <;> rfl

end AckVersions

abbrev SocketAddr := Nat
abbrev StreamId := Nat
abbrev EnvoyId := Nat

/-- `AdsClient`; its sender belongs to a stream. -/
structure AdsClient where
  sender : StreamId
  ackVersions : AckVersions := {}
  clientId : SocketAddr
  gatewayId : Option String := none
deriving DecidableEq, Repr

/-- `AdsClient::update_from`. -/
def AdsClient.updateFrom (c value : AdsClient) : AdsClient :=
  { c with ackVersions := value.ackVersions, gatewayId := value.gatewayId }

/-- `AdsClients`, with one function for each section under its mutex. -/
abbrev AdsClients := List AdsClient

namespace AdsClients

def getClientsByGatewayId (cs : AdsClients) (gatewayId : String) : List AdsClient :=
  cs.filter fun c => c.gatewayId = some gatewayId

def getClientByClientId (cs : AdsClients) (clientId : SocketAddr) : Option AdsClient :=
  cs.find? fun c => c.clientId = clientId

/-- `update_client`: the first entry with the client's id takes its versions and its gateway. -/
def updateClient : AdsClients → AdsClient → AdsClients
  | [], _ => []
  | c :: cs, client =>
    if c.clientId = client.clientId then c.updateFrom client :: cs else c :: updateClient cs client

/-- `add_or_replace_client`: an entry with the client's id is replaced, but for its versions. -/
def addOrReplaceClient : AdsClients → AdsClient → AdsClients
  | [], client => [client]
  | c :: cs, client =>
    if c.clientId = client.clientId then { client with ackVersions := c.ackVersions } :: cs
    else c :: addOrReplaceClient cs client

def removeClient (cs : AdsClients) (clientId : SocketAddr) : AdsClients :=
  cs.filter fun c => c.clientId ≠ clientId

end AdsClients

/-- `ServerAction`: an update of the clusters or of the listeners of a gateway. -/
structure ServerAction (ρ : Type) where
  type : TypeUrl
  gatewayId : String
  resources : List ρ
  ackVersion : Nat
deriving DecidableEq, Repr

/-- A request; the version info is empty before the first accepted response. -/
structure DiscoveryRequest where
  type : TypeUrl
  versionInfo : Option Nat
deriving DecidableEq, Repr

structure DiscoveryResponse (ρ : Type) where
  type : TypeUrl
  resources : List ρ
  version : Nat
deriving DecidableEq, Repr

/-- An entry of `ResourcesMapping`. The server keeps the resources; the version of the update they
came with is recorded for the statements and never read. -/
structure Update (ρ : Type) where
  resources : List ρ
  ackVersion : Nat
deriving DecidableEq, Repr

/-! ## The tasks -/

/-- Where the service is with an update, and which of the clients it has looked up come next. -/
inductive Service (ρ : Type)
  | idle
  | received (e : ServerAction ρ)
  | inserted (e : ServerAction ρ)
  | sending (e : ServerAction ρ) (client : AdsClient) (todo : List AdsClient)
  | storing (e : ServerAction ρ) (client : AdsClient) (todo : List AdsClient)
deriving DecidableEq, Repr

/-- The service goes on to the next client. -/
def Service.next {ρ : Type} (e : ServerAction ρ) : List AdsClient → Service ρ
  | [] => .idle
  | client :: todo => .sending e client todo

/-- Where a handler is with a request, with its own copy of the client's entry. -/
inductive Handler (ρ : Type)
  | idle
  | lookup (r : DiscoveryRequest)
  | assign (r : DiscoveryRequest) (client : AdsClient)
  | read (r : DiscoveryRequest) (client : AdsClient)
  | restore (r : DiscoveryRequest) (client : AdsClient) (resources : List ρ)
  | respond (r : DiscoveryRequest) (client : AdsClient) (resources : List ρ)
  | ended
deriving DecidableEq, Repr

/-- A stream with the messages in flight on it. Which types were asked for and answered on it is
recorded for the statements. -/
structure Stream (ρ : Type) where
  envoy : EnvoyId
  clientIp : SocketAddr
  isOpen : Bool := true
  requests : List DiscoveryRequest := []
  responses : List (DiscoveryResponse ρ) := []
  handler : Handler ρ := .idle
  asked : TypeUrl → Bool := fun _ => false
  answered : TypeUrl → Bool := fun _ => false

/-- A client: its current stream, and for each type what it holds and the version it came with. -/
structure Envoy (ρ : Type) where
  stream : Option StreamId := none
  resources : TypeUrl → Option (List ρ) := fun _ => none
  version : TypeUrl → Option Nat := fun _ => none

/-- All tables and tasks; `deployer` is the update the deployer has yet to queue. What was last
produced for a gateway is recorded for the statements. -/
structure State (ρ : Type) where
  ackVersions : String → Option AckVersions := fun _ => none
  deployer : Option (ServerAction ρ) := none
  events : List (ServerAction ρ) := []
  adsChannels : TypeUrl → String → Option (Update ρ) := fun _ _ => none
  service : Service ρ := .idle
  adsClients : AdsClients := []
  streams : StreamId → Option (Stream ρ) := fun _ => none
  nextStream : StreamId := 0
  envoys : EnvoyId → Envoy ρ := fun _ => {}
  produced : TypeUrl → String → Option (List ρ) := fun _ _ => none

/-- What may happen next: a gateway changes or is deleted, the deployer, the service or a handler
does its next step, a handler whose stream is closed ends, or an Envoy does something. -/
inductive Step (ρ : Type)
  | changed (gatewayId : String) (clusters listeners : List ρ) (deployed : Bool)
  | deleted (gatewayId : String)
  | deployer
  | service
  | handler (s : StreamId)
  | close (s : StreamId)
  | connect (c : EnvoyId) (addr : SocketAddr)
  | disconnect (c : EnvoyId)
  | request (c : EnvoyId) (t : TypeUrl)
  | receive (c : EnvoyId)
deriving DecidableEq, Repr

variable {ρ : Type}

/-- A response goes into a stream, and nowhere once the client is gone. -/
def Stream.push (st : Stream ρ) (r : DiscoveryResponse ρ) : Stream ρ :=
  if st.isOpen then
    { st with
      responses := st.responses ++ [r]
      answered := Function.update st.answered r.type true }
  else st

namespace State

variable (σ : State ρ)

def setStream (s : StreamId) (st : Stream ρ) : State ρ :=
  { σ with streams := Function.update σ.streams s (some st) }

def push (s : StreamId) (r : DiscoveryResponse ρ) : State ρ :=
  { σ with streams := Function.update σ.streams s ((σ.streams s).map (·.push r)) }

/-- The deployer on a changed gateway: it numbers the change, and if the gateway is deployed it
queues the clusters and goes on to the listeners. -/
def change (gatewayId : String) (clusters listeners : List ρ) (deployed : Bool) : State ρ :=
  let ackVersion := ((σ.ackVersions gatewayId).map AckVersions.inc).getD {}
  let σ := { σ with ackVersions := Function.update σ.ackVersions gatewayId (some ackVersion) }
  if deployed then
    { σ with
      events := σ.events ++ [⟨.cluster, gatewayId, clusters, ackVersion.cluster⟩]
      deployer := some ⟨.listener, gatewayId, listeners, ackVersion.listener⟩
      produced := fun t g =>
        if g = gatewayId then some (match t with | .cluster => clusters | .listener => listeners)
        else σ.produced t g }
  else σ

/-- `channels.cluster.insert` and `channels.listener.insert`. -/
def insert (e : ServerAction ρ) : State ρ :=
  { σ with adsChannels := fun t g =>
      if t = e.type ∧ g = e.gatewayId then some ⟨e.resources, e.ackVersion⟩ else σ.adsChannels t g }

/-- The next step of `AggregateServerService::start`. -/
def serviceStep : Option (State ρ) :=
  match σ.service with
  | .idle =>
    match σ.events with
    | [] => none
    | e :: rest => some { σ with events := rest, service := .received e }
  | .received e => some { σ.insert e with service := .inserted e }
  | .inserted e =>
    some { σ with service := .next e (AdsClients.getClientsByGatewayId σ.adsClients e.gatewayId) }
  | .sending e client todo =>
    some { σ.push client.sender ⟨e.type, e.resources, e.ackVersion⟩ with
      service := .storing e client todo }
  | .storing e client todo =>
    some { σ with
      adsClients := AdsClients.updateClient σ.adsClients
        { client with ackVersions := client.ackVersions.set e.type e.ackVersion }
      service := .next e todo }

variable (gatewayOf : EnvoyId → String)

/-- The next step of the task `stream_aggregated_resources` spawns for a stream. -/
def handlerStep (s : StreamId) (st : Stream ρ) : Option (State ρ) :=
  match st.handler with
  | .idle =>
    match st.requests with
    | [] => none
    | r :: rest => some (σ.setStream s { st with requests := rest, handler := .lookup r })
  | .lookup r =>
    match AdsClients.getClientByClientId σ.adsClients st.clientIp with
    | none => some (σ.setStream s { st with handler := .idle })
    | some client => some (σ.setStream s
        { st with handler := .assign r { client with gatewayId := some (gatewayOf st.envoy) } })
  | .assign r client =>
    let handler := if r.versionInfo = some (client.ackVersions.get r.type) then .idle else .read r client
    some { σ.setStream s { st with handler := handler } with
      adsClients := AdsClients.updateClient σ.adsClients client }
  | .read r client =>
    match σ.adsChannels r.type (gatewayOf st.envoy) with
    | none => some (σ.setStream s { st with handler := .idle })
    | some u => some (σ.setStream s
        { st with handler := if u.resources = [] then .respond r client [] else .restore r client u.resources })
  | .restore r client resources =>
    some { σ.setStream s { st with handler := .respond r client resources } with
      adsClients := AdsClients.updateClient σ.adsClients client }
  | .respond r client resources =>
    some (σ.setStream s
      ({ st with handler := .idle }.push ⟨r.type, resources, client.ackVersions.get r.type⟩))
  | .ended => none

/-- A new stream: its client is added and its handler is spawned. -/
def connect (c : EnvoyId) (addr : SocketAddr) : State ρ :=
  { σ.setStream σ.nextStream { envoy := c, clientIp := addr } with
    adsClients := AdsClients.addOrReplaceClient σ.adsClients { sender := σ.nextStream, clientId := addr }
    nextStream := σ.nextStream + 1
    envoys := Function.update σ.envoys c { σ.envoys c with stream := some σ.nextStream } }

/-- A request for a type, with the version of the last response of the type. -/
def request (s : StreamId) (st : Stream ρ) (t : TypeUrl) : State ρ :=
  σ.setStream s
    { st with
      requests := st.requests ++ [⟨t, (σ.envoys st.envoy).version t⟩]
      asked := Function.update st.asked t true }

/-- An Envoy installs a response and acknowledges it. -/
def receive (s : StreamId) (st : Stream ρ) (r : DiscoveryResponse ρ) (rest : List (DiscoveryResponse ρ)) :
    State ρ :=
  let envoy := σ.envoys st.envoy
  { σ.setStream s
      { st with
        responses := rest
        requests := st.requests ++ [⟨r.type, some r.version⟩]
        asked := Function.update st.asked r.type true } with
    envoys := Function.update σ.envoys st.envoy
      { envoy with
        resources := Function.update envoy.resources r.type (some r.resources)
        version := Function.update envoy.version r.type (some r.version) } }

/-- The current stream of an Envoy. -/
def currentStream (c : EnvoyId) : Option (StreamId × Stream ρ) :=
  (σ.envoys c).stream.bind fun s => (σ.streams s).map fun st => (s, st)

def step : Step ρ → Option (State ρ)
  | .changed gatewayId clusters listeners deployed =>
    if σ.deployer.isNone then some (σ.change gatewayId clusters listeners deployed) else none
  | .deleted gatewayId =>
    if σ.deployer.isNone then
      some { σ with ackVersions := Function.update σ.ackVersions gatewayId none }
    else none
  | .deployer => σ.deployer.map fun e => { σ with events := σ.events ++ [e], deployer := none }
  | .service => σ.serviceStep
  | .handler s => (σ.streams s).bind (σ.handlerStep gatewayOf s)
  | .close s =>
    (σ.streams s).bind fun st =>
      if st.isOpen = false ∧ st.handler matches .idle then
        some { σ.setStream s { st with handler := .ended } with
          adsClients := AdsClients.removeClient σ.adsClients st.clientIp }
      else none
  | .connect c addr => if (σ.envoys c).stream = none then some (σ.connect c addr) else none
  | .disconnect c =>
    (σ.currentStream c).map fun (s, st) =>
      { σ.setStream s { st with isOpen := false } with
        envoys := Function.update σ.envoys c { σ.envoys c with stream := none } }
  | .request c t => (σ.currentStream c).map fun (s, st) => σ.request s st t
  | .receive c =>
    (σ.currentStream c).bind fun (s, st) =>
      match st.responses with
      | [] => none
      | r :: rest => some (σ.receive s st r rest)

end State

/-- The server with its clients. -/
def server (gatewayOf : EnvoyId → String) : Lib.System (State ρ) (Step ρ) where
  init := {}
  step := fun σ a => σ.step gatewayOf a

end Kubvernor.Xds
