import Kubvernor.Lib.NamedSet
import Kubvernor.Lib.Sessions
import Kubvernor.Lib.Transition

/-!
# The delta server

The server that sends agentgateways the resources and the workloads of their gateway, with the tasks
that share its tables: the service, which stores an update, and sends every client of the gateway
what changed since the set it has cached for it; and for every stream a handler, which registers its
client with a gateway and sends a snapshot for a request. Every section under a mutex and every send
and receive is a step of its own, so that the tasks may interleave between any two of them.

The lookup of a client's Pod finds the gateway of the stream, or fails. A gateway goes by its id,
`namespace.name`, which tells gateways apart since a namespace has no dot. The channels are not
bounded here, which only allows more orders of steps. The versions of a client, which the server never
changes, are left out.
-/

namespace Kubvernor.Agentgateway

open Lib

/-! ## Resources and workloads -/

/-- The kinds of a `Resource`; `spec` is the rest of its fields. -/
inductive Kind (β : Type)
  | bind (key : String) (spec : β)
  | listener (key : String) (spec : β)
  | route (key : String) (spec : β)
  | backend (key : String) (spec : β)
  | policy (key : String) (spec : β)
  | tcpRoute (key : String) (spec : β)
  | workload (name ns : String) (spec : β)
  | service (name ns : String) (spec : β)
deriving DecidableEq, Repr

/-- The types of an `Address`. -/
inductive AddressType (β : Type)
  | workload (uid : String) (spec : β)
  | service (name ns : String) (spec : β)
deriving DecidableEq, Repr

/-- A resource or a workload address. -/
inductive Item (β : Type)
  | resource (kind : Option (Kind β))
  | address (type : Option (AddressType β))
deriving DecidableEq, Repr

variable {β : Type}

def getResourceName : Kind β → String
  | .bind key _ => "bind/" ++ key
  | .listener key _ => "listener/" ++ key
  | .route key _ => "route/" ++ key
  | .backend key _ => "backend/" ++ key
  | .policy key _ => "policy/" ++ key
  | .tcpRoute key _ => "tcproute/" ++ key
  | .workload name ns _ => "workload/" ++ name ++ "/" ++ ns
  | .service name ns _ => "service/" ++ name ++ "/" ++ ns

def getWorkloadName : AddressType β → String
  | .workload uid _ => "address/" ++ uid
  | .service name ns _ => "address/" ++ name ++ "/" ++ ns

def Item.name? : Item β → Option String
  | .resource kind => kind.map getResourceName
  | .address type => type.map getWorkloadName

/-- The name a client knows an item by. -/
def Item.name (i : Item β) : String := i.name?.getD ""

/-- The types of items a client asks for. -/
inductive TypeUrl
  | resource
  | address
deriving DecidableEq, Repr

/-- `difference`: the items that are in `this` and not in `other`. -/
def difference {α : Type} [DecidableEq α] (this other : List α) : List α := this.filter (· ∉ other)

structure Delta (β : Type) where
  toAdd : List (Item β)
  toRemove : List String

/-- What takes a client from its cached items to new ones. -/
def Delta.between [DecidableEq β] (cached new : List (Item β)) : Delta β where
  toAdd := difference new cached
  toRemove := difference (cached.filterMap Item.name?) (new.filterMap Item.name?)

/-- The names the first of the two messages of an update removes: of resources, also those of what the
second one adds. -/
def Delta.removed (delta : Delta β) : TypeUrl → List String
  | .resource => delta.toRemove ++ delta.toAdd.filterMap Item.name?
  | .address => delta.toRemove

/-! ## Messages and tables -/

abbrev SocketAddr := Nat
abbrev StreamId := Nat

structure ManagedResources (β : Type) where
  allResources : List (Item β) := []
  allWorkloads : List (Item β) := []
deriving DecidableEq

namespace ManagedResources

def items (m : ManagedResources β) : TypeUrl → List (Item β)
  | .resource => m.allResources
  | .address => m.allWorkloads

def setItems (m : ManagedResources β) (t : TypeUrl) (items : List (Item β)) : ManagedResources β :=
  match t with
  | .resource => { m with allResources := items }
  | .address => { m with allWorkloads := items }

theorem items_setItems (m : ManagedResources β) (t t' : TypeUrl) (l : List (Item β)) :
    (m.setItems t l).items t' = if t' = t then l else m.items t' := by
  cases t <;> cases t' <;> rfl

end ManagedResources

/-- `AdsClient`; its sender belongs to a stream. -/
structure AdsClient (β : Type) where
  sender : StreamId
  clientId : SocketAddr
  gatewayId : Option String := none
  resources : List (Item β) := []
  workloads : List (Item β) := []
deriving DecidableEq

namespace AdsClient

/-- The cached items of a type. -/
def items (c : AdsClient β) : TypeUrl → List (Item β)
  | .resource => c.resources
  | .address => c.workloads

/-- What a request for a type is answered with: nothing, if the server does not know the type. -/
def itemsOf (c : AdsClient β) : Option TypeUrl → List (Item β)
  | some t => c.items t
  | none => []

def setItems (c : AdsClient β) (t : TypeUrl) (items : List (Item β)) : AdsClient β :=
  match t with
  | .resource => { c with resources := items }
  | .address => { c with workloads := items }

def updateFrom (c value : AdsClient β) : AdsClient β :=
  { c with gatewayId := value.gatewayId, resources := value.resources, workloads := value.workloads }

/-- The first section of `update_client`: a client without a gateway is given its gateway and what is
stored for it. -/
def attach (c : AdsClient β) (managed : String → Option (ManagedResources β)) (gatewayId : String) :
    AdsClient β :=
  match c.gatewayId with
  | some _ => c
  | none =>
    match managed gatewayId with
    | some m =>
      { c with gatewayId := some gatewayId, resources := m.allResources, workloads := m.allWorkloads }
    | none => { c with gatewayId := some gatewayId }

theorem items_setItems (c : AdsClient β) (t t' : TypeUrl) (l : List (Item β)) :
    (c.setItems t l).items t' = if t' = t then l else c.items t' := by
  cases t <;> cases t' <;> rfl

@[simp] theorem sender_setItems (c : AdsClient β) (t : TypeUrl) (l : List (Item β)) :
    (c.setItems t l).sender = c.sender := by cases t <;> rfl

@[simp] theorem clientId_setItems (c : AdsClient β) (t : TypeUrl) (l : List (Item β)) :
    (c.setItems t l).clientId = c.clientId := by cases t <;> rfl

@[simp] theorem gatewayId_setItems (c : AdsClient β) (t : TypeUrl) (l : List (Item β)) :
    (c.setItems t l).gatewayId = c.gatewayId := by cases t <;> rfl

@[simp] theorem items_updateFrom (c value : AdsClient β) (t : TypeUrl) :
    (c.updateFrom value).items t = value.items t := by cases t <;> rfl

end AdsClient

abbrev AdsClients (β : Type) := List (AdsClient β)

namespace AdsClients

def getClientsByGatewayId (cs : AdsClients β) (gatewayId : String) : List (AdsClient β) :=
  cs.filter fun c => c.gatewayId = some gatewayId

def getClientByClientId (cs : AdsClients β) (clientId : SocketAddr) : Option (AdsClient β) :=
  Table.find AdsClient.clientId cs clientId

/-- The second section of `update_client`. -/
def updateClient (cs : AdsClients β) (client : AdsClient β) : AdsClients β :=
  Table.modify AdsClient.clientId client.clientId (fun c => c.updateFrom client) cs

def addOrReplaceClient (cs : AdsClients β) (client : AdsClient β) : AdsClients β :=
  Table.modifyOrAdd AdsClient.clientId client (fun _ => client) cs

def removeClient (cs : AdsClients β) (clientId : SocketAddr) : AdsClients β :=
  Table.remove AdsClient.clientId cs clientId

end AdsClients

/-- `ServerAction`: an update of the resources or of the workloads of a gateway. -/
structure ServerAction (β : Type) where
  type : TypeUrl
  gatewayId : String
  items : List (Item β)
deriving DecidableEq

/-- A request without a nonce asks for a type, `none` being one the server does not know; one with a
nonce answers a response. Requests with an error or without a node are skipped as answers are. -/
inductive DeltaDiscoveryRequest
  | subscribe (type : Option TypeUrl)
  | ack
deriving DecidableEq, Repr

structure DeltaDiscoveryResponse (β : Type) where
  type : Option TypeUrl
  resources : List (Item β) := []
  removedResources : List String := []
deriving DecidableEq

/-- A client gives up the removed names and holds the resources of the type by their names. -/
def DeltaDiscoveryResponse.apply (r : DeltaDiscoveryResponse β) (t : TypeUrl) (held : List (Item β)) :
    List (Item β) :=
  if r.type = some t then holdAll Item.name (giveUp Item.name held r.removedResources) r.resources
  else held

/-! ## The tasks -/

/-- Where the service is with an update, and which of the clients it has read come next. -/
inductive Service (β : Type)
  | idle
  | received (e : ServerAction β)
  | listed (e : ServerAction β) (clients : List (AdsClient β))
  | removing (e : ServerAction β) (client : AdsClient β) (todo : List (AdsClient β))
  | updating (e : ServerAction β) (client : AdsClient β) (todo : List (AdsClient β))
  | adding (e : ServerAction β) (client : AdsClient β) (todo : List (AdsClient β))
deriving DecidableEq

/-- The service goes on to the next client. -/
def Service.next (e : ServerAction β) : List (AdsClient β) → Service β
  | [] => .idle
  | client :: todo => .removing e client todo

/-- An update of resources is cached before the new ones are sent, one of workloads after. -/
def Service.afterRemoving (e : ServerAction β) (client : AdsClient β) (todo : List (AdsClient β)) : Service β :=
  match e.type with
  | .resource => .updating e client todo
  | .address => .adding e client todo

def Service.afterUpdating (e : ServerAction β) (client : AdsClient β) (todo : List (AdsClient β)) : Service β :=
  match e.type with
  | .resource => .adding e client todo
  | .address => .next e todo

def Service.afterAdding (e : ServerAction β) (client : AdsClient β) (todo : List (AdsClient β)) : Service β :=
  match e.type with
  | .resource => .next e todo
  | .address => .updating e client todo

/-- Where a handler is with a request, with its own copy of the client's entry. -/
inductive Handler (β : Type)
  | idle
  | lookup (t : Option TypeUrl)
  | await (t : Option TypeUrl) (client : AdsClient β)
  | update (t : Option TypeUrl) (client : AdsClient β)
  | respond (t : Option TypeUrl) (client : AdsClient β)
  | ended
deriving DecidableEq

/-- A stream and its client: the gateway of its Pod, the messages in flight and what the client holds.
Which types it asked for is recorded for the statements. -/
structure Stream (β : Type) where
  clientIp : SocketAddr
  gateway : String
  requests : List DeltaDiscoveryRequest := []
  responses : List (DeltaDiscoveryResponse β) := []
  handler : Handler β := .idle
  held : TypeUrl → List (Item β) := fun _ => []
  asked : TypeUrl → Bool := fun _ => false

/-- All tables and tasks. What was last produced for a gateway is recorded for the statements. -/
structure State (β : Type) where
  managed : String → Option (ManagedResources β) := fun _ => none
  adsClients : AdsClients β := []
  events : List (ServerAction β) := []
  service : Service β := .idle
  streams : StreamId → Option (Stream β) := fun _ => none
  nextStream : StreamId := 0
  produced : TypeUrl → String → List (Item β) := fun _ _ => []

/-- What may happen next: a gateway changes, the service or a handler does its next step, the lookup of a
Pod fails, a handler ends with its stream, or a client does something. -/
inductive Step (β : Type)
  | changed (e : ServerAction β)
  | service
  | handler (s : StreamId)
  | lookupFails (s : StreamId)
  | close (s : StreamId)
  | connect (addr : SocketAddr) (gateway : String)
  | request (s : StreamId) (r : DeltaDiscoveryRequest)
  | receive (s : StreamId)
deriving DecidableEq

def Stream.push (st : Stream β) (r : DeltaDiscoveryResponse β) : Stream β :=
  { st with responses := st.responses ++ [r] }

namespace State

variable (σ : State β)

def setStream (s : StreamId) (st : Stream β) : State β :=
  { σ with streams := Function.update σ.streams s (some st) }

def push (s : StreamId) (r : DeltaDiscoveryResponse β) : State β :=
  { σ with streams := Function.update σ.streams s ((σ.streams s).map (·.push r)) }

/-- An update is queued. -/
def change (e : ServerAction β) : State β :=
  { σ with
    events := σ.events ++ [e]
    produced := fun t g => if t = e.type ∧ g = e.gatewayId then e.items else σ.produced t g }

/-- `update_managed_resources` and `update_managed_workloads`. -/
def updateManaged (gatewayId : String) (t : TypeUrl) (items : List (Item β)) : State β :=
  let managed := ((σ.managed gatewayId).getD {}).setItems t items
  { σ with managed := Function.update σ.managed gatewayId (some managed) }

/-- `update_client_and_resources` and `update_client_and_workloads`. -/
def updateClientAndItems (client : AdsClient β) (t : TypeUrl) (items : List (Item β)) : State β :=
  let σ := { σ with adsClients := AdsClients.updateClient σ.adsClients client }
  match client.gatewayId with
  | some gatewayId => σ.updateManaged gatewayId t items
  | none => σ

/-- The next step of `AggregateServerService::start`. -/
def serviceStep [DecidableEq β] : Option (State β) :=
  match σ.service with
  | .idle =>
    match σ.events with
    | [] => none
    | e :: rest => some { σ with events := rest, service := .received e }
  | .received e =>
    some { σ with
      service := .listed e (AdsClients.getClientsByGatewayId σ.adsClients e.gatewayId) }
  | .listed e clients => some { σ.updateManaged e.gatewayId e.type e.items with service := .next e clients }
  | .removing e client todo =>
    let delta := Delta.between (client.items e.type) e.items
    some { σ.push client.sender ⟨some e.type, [], delta.removed e.type⟩ with
      service := .afterRemoving e client todo }
  | .updating e client todo =>
    some { σ.updateClientAndItems (client.setItems e.type e.items) e.type e.items with
      service := .afterUpdating e client todo }
  | .adding e client todo =>
    let delta := Delta.between (client.items e.type) e.items
    some { σ.push client.sender ⟨some e.type, delta.toAdd, []⟩ with
      service := .afterAdding e client todo }

/-- The next step of the task `delta_aggregated_resources` spawns for a stream. -/
def handlerStep (s : StreamId) (st : Stream β) : Option (State β) :=
  match st.handler with
  | .idle =>
    match st.requests with
    | [] => none
    | .ack :: rest => some (σ.setStream s { st with requests := rest, handler := .idle })
    | .subscribe t :: rest => some (σ.setStream s { st with requests := rest, handler := .lookup t })
  | .lookup t =>
    match AdsClients.getClientByClientId σ.adsClients st.clientIp with
    | none => some (σ.setStream s { st with handler := .idle })
    | some client => some (σ.setStream s { st with handler := .await t client })
  | .await t client =>
    some (σ.setStream s { st with handler := .update t (client.attach σ.managed st.gateway) })
  | .update t client =>
    some { σ.setStream s { st with handler := .respond t client } with
      adsClients := AdsClients.updateClient σ.adsClients client }
  | .respond t client =>
    some (σ.setStream s ({ st with handler := .idle }.push ⟨t, client.itemsOf t, []⟩))
  | .ended => none

/-- A new stream: its client is added and its handler is spawned. -/
def connect (addr : SocketAddr) (gateway : String) : State β :=
  { σ.setStream σ.nextStream { clientIp := addr, gateway := gateway } with
    adsClients := AdsClients.addOrReplaceClient σ.adsClients { sender := σ.nextStream, clientId := addr }
    nextStream := σ.nextStream + 1 }

/-- A client sends a request. -/
def request (s : StreamId) (st : Stream β) (r : DeltaDiscoveryRequest) : State β :=
  σ.setStream s
    { st with
      requests := st.requests ++ [r]
      asked :=
        match r with
        | .subscribe (some t) => Function.update st.asked t true
        | .subscribe none | .ack => st.asked }

/-- A client receives a response. -/
def receive (s : StreamId) (st : Stream β) (r : DeltaDiscoveryResponse β)
    (rest : List (DeltaDiscoveryResponse β)) : State β :=
  σ.setStream s
    { st with responses := rest, held := fun t => r.apply t (st.held t) }

def step [DecidableEq β] : Step β → Option (State β)
  | .changed e => some (σ.change e)
  | .service => σ.serviceStep
  | .handler s => (σ.streams s).bind (σ.handlerStep s)
  | .lookupFails s =>
    (σ.streams s).bind fun st =>
      if st.handler matches .await .. then some (σ.setStream s { st with handler := .idle }) else none
  | .close s =>
    (σ.streams s).bind fun st =>
      if st.handler matches .idle then
        some { σ.setStream s { st with handler := .ended } with
          adsClients := AdsClients.removeClient σ.adsClients st.clientIp }
      else none
  | .connect addr gateway => some (σ.connect addr gateway)
  | .request s r => (σ.streams s).map fun st => σ.request s st r
  | .receive s =>
    (σ.streams s).bind fun st =>
      match st.responses with
      | [] => none
      | r :: rest => some (σ.receive s st r rest)

end State

/-- The server with its clients. -/
def server [DecidableEq β] : System (State β) (Step β) where
  init := {}
  step := fun σ a => σ.step a

end Kubvernor.Agentgateway
