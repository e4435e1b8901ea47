import Kubvernor.Common.Gateway
import Kubvernor.Common.ResourceKey
import Kubvernor.Lib.Channels

/-!
# The channels between the services

The services of the control plane run as tasks that send to each other: the controllers and the resolvers
to the reference validator, the validator to the gateway deployer, the deployer to the backends, these to
the servers of their clients and back to the deployer, and nearly all of them to the patchers. Every
channel is bounded (`start`), and a task that sends into a full one waits. Here is what each task sends, in
which order and for which message; what decides between the branches of the source, and how many objects a
loop goes over, is in `Circumstances`. The mutexes of the resolvers are left out: a task that goes on here may have
to wait for one of them, and only what waits at the channels is told here.

Requests that are answered through a oneshot channel (status patches, deletions of gateways) carry the task
that waits for the answer. A channel whose other end is gone takes every message at once, as one does whose
receiver is idle.
-/

namespace Kubvernor.ServiceChannels

open Lib

/-- The kinds of resources that have a patcher service. -/
inductive PatchedKind
  | gatewayClass | gateway | httpRoute | grpcRoute | inferencePool
deriving DecidableEq, Repr

/-- The services; the reconciliations of the single objects, the tasks of the resolvers, the tasks spawned
for an address and the client streams, each with its task in the server and the client that reads. -/
inductive ServiceTask
  | controller (kind : PatchedKind) (key : ResourceKey)
  | resolver (i : Nat)
  | referenceValidator
  | gatewayDeployer
  | backendDeployer (t : GatewayImplementationType)
  | addressPolling (i : Nat)
  | aggregateServer (t : GatewayImplementationType)
  | stream (i : Nat)
  | client (i : Nat)
  | patcher (kind : PatchedKind)
deriving DecidableEq

/-- The channels that `start`, the deployers' `start` and the servers create. That a task polls again for an
address is a message to itself. -/
inductive ServiceChannel
  | referenceValidate
  | gatewayDeployer
  | backendDeployer (t : GatewayImplementationType)
  | backendResponse
  | streamResource (t : GatewayImplementationType)
  | discovery (i : Nat)
  | patcher (kind : PatchedKind)
  | addressPolling (i : Nat)
deriving DecidableEq

/-- `ReferenceValidateRequest`, `GatewayDeployRequest`, `BackendGatewayEvent`, `BackendGatewayResponse`,
`ServerAction`, the discovery responses and `Operation`. -/
inductive Message
  | addGateway (t : GatewayImplementationType)
  | deleteGateway | addRoute | deleteRoute | updatedGateways | updatedRoutes
  | deploy (t : GatewayImplementationType)
  | changed (t : GatewayImplementationType)
  | deleted (t : GatewayImplementationType) (response_sender : ServiceTask)
  | processed | processedWithContext
  | update (t : GatewayImplementationType)
  | discoveryResponse (i : Nat)
  | patchStatus (kind : PatchedKind) (response_sender : ServiceTask)
  | patchFinalizer (kind : PatchedKind)
  | delete (kind : PatchedKind)
  | poll (i : Nat)
deriving DecidableEq

/-- The channel a message is sent into. -/
def Message.channel : Message → ServiceChannel
  | .addGateway _ | .deleteGateway | .addRoute | .deleteRoute | .updatedGateways | .updatedRoutes =>
    .referenceValidate
  | .deploy _ => .gatewayDeployer
  | .changed t | .deleted t _ => .backendDeployer t
  | .processed | .processedWithContext => .backendResponse
  | .update t => .streamResource t
  | .discoveryResponse i => .discovery i
  | .patchStatus kind _ | .patchFinalizer kind | .delete kind => .patcher kind
  | .poll i => .addressPolling i

/-- The holder of the other end of a message's `response_sender`. -/
def Message.asker : Message → Option ServiceTask
  | .deleted _ sender | .patchStatus _ sender => some sender
  | _ => none

/-- What a reconciliation, a resolver or a client stream is about to tell the others. -/
inductive Occasion
  | gatewayClassChanged | gatewayClassDeleted
  | gatewayChanged (t : GatewayImplementationType)
  | gatewayReady (finalizer : Bool)
  | gatewayDeleted (t : Option GatewayImplementationType)
  | routeChanged (finalizer : Bool) (gateways : List GatewayImplementationType)
  | routeDeleted (pools : Nat)
  | routeReleased
  | poolChanged (finalizer : Bool)
  | poolDeleted (routes : Bool)
  | referenceChanged (routes : Bool)
  | discoveryRequest (responses : Nat)

/-- What a polling task finds: an address, none, or no service. -/
inductive Lookup
  | address | noAddress | failed
deriving DecidableEq, Repr

/-- What decides between the branches of the programs below. -/
structure Circumstances where
  occasion : Occasion := .discoveryRequest 0
  /-- the number of pools whose status is patched while the added gateway is processed -/
  pools : Nat := 0
  /-- the stored gateways of a request, each with the number of pools that are patched for it -/
  gateways : List (GatewayImplementationType × Nat) := []
  httpRoutes : Nat := 0
  grpcRoutes : Nat := 0
  /-- the patched gateway is ready, and it has our finalizer -/
  ready : Bool := true
  finalizer : Bool := true
  /-- Kubernetes has taken what a backend deploys, and the service has an address -/
  deployed : Bool := true
  addressed : Bool := true
  poller : Nat := 0
  lookup : Lookup := .address
  /-- the client streams of the gateway -/
  streams : List Nat := []

instance : Inhabited Circumstances := ⟨{}⟩

abbrev ServiceAction := ChannelAction ServiceChannel ServiceTask Message

abbrev Program := List ServiceAction

def send (q : Message) : ServiceAction := .send q.channel q

/-- A status patch, whose result the task waits for. -/
def patchStatus (kind : PatchedKind) (sender : ServiceTask) : Program :=
  [send (.patchStatus kind sender), .await]

def patchStatuses (kind : PatchedKind) (sender : ServiceTask) (n : Nat) : Program :=
  (List.replicate n (patchStatus kind sender)).flatten

/-! ## What is done for a message -/

/-- `process` of a gateway, which patches the status of its inference pools, and the deploy request. -/
def processAndDeploy (t : GatewayImplementationType) (pools : Nat) : Program :=
  patchStatuses .inferencePool .referenceValidator pools ++ [send (.deploy t)]

/-- `on_version_not_changed` of `GatewayDeployerServiceInternal`. -/
def onVersionNotChanged (e : Circumstances) : Program :=
  if e.ready then
    send (.patchFinalizer .gatewayClass) :: if e.finalizer then [] else [send (.patchFinalizer .gateway)]
  else []

/-- The gateway deployer and a backend's response: the statuses of the routes, then that of the gateway. -/
def processResponse (e : Circumstances) : Program :=
  patchStatuses .httpRoute .gatewayDeployer e.httpRoutes ++
    patchStatuses .grpcRoute .gatewayDeployer e.grpcRoutes ++
    patchStatus .gateway .gatewayDeployer ++ onVersionNotChanged e

/-- `update_address_with_polling`. -/
def updateAddressWithPolling (e : Circumstances) : ServiceAction :=
  if e.addressed then send .processedWithContext else send (.poll e.poller)

/-- A backend deployer and a changed gateway: the clients' server hears of it twice, for the clusters and the
listeners (the resources and the workloads). -/
def deployGateway (t : GatewayImplementationType) (e : Circumstances) : Program :=
  if e.deployed then [send (.update t), send (.update t), updateAddressWithPolling e] else [send .processed]

/-- A backend deployer and a deleted gateway. The Envoy and Orion backends never await their send to the
deployer, so that it does not happen. -/
def undeployGateway (sender : ServiceTask) : GatewayImplementationType → Program
  | .agentgateway => [send .processed, .answer sender]
  | .envoy | .orion => [.answer sender]

/-- One round of the polling task. -/
def pollAddress (i : Nat) : Lookup → Program
  | .address => [send .processedWithContext]
  | .noAddress => [send (.poll i)]
  | .failed => [send .processed, send (.poll i)]

/-- The responses the aggregate server sends to every client: the removals and the additions for
agentgateway, else one. -/
def responsesPerClient : GatewayImplementationType → Nat
  | .agentgateway => 2
  | .envoy | .orion => 1

def updateClients (t : GatewayImplementationType) (e : Circumstances) : Program :=
  e.streams.flatMap fun i => List.replicate (responsesPerClient t) (send (.discoveryResponse i))

def handle (q : Message) (e : Circumstances) : Program :=
  match q with
  | .addGateway t => processAndDeploy t e.pools
  | .deleteRoute | .updatedGateways => e.gateways.flatMap fun g => processAndDeploy g.1 g.2
  | .deleteGateway | .addRoute | .updatedRoutes => []
  | .deploy t => [send (.changed t)]
  | .processed => []
  | .processedWithContext => processResponse e
  | .changed t => deployGateway t e
  | .deleted t sender => undeployGateway sender t
  | .poll i => pollAddress i e.lookup
  | .update t => updateClients t e
  | .discoveryResponse _ => []
  | .patchStatus _ sender => [.answer sender]
  | .patchFinalizer _ | .delete _ => []

/-! ## What tasks start by themselves -/

/-- `add_finalizer`, where the object has none. -/
def addFinalizer (kind : PatchedKind) (finalizer : Bool) : Program :=
  if finalizer then [] else [send (.patchFinalizer kind)]

/-- `on_deleted` of the gateway controller: the type is known unless the gateway was never accepted. -/
def gatewayDeleted (sender : ServiceTask) : Option GatewayImplementationType → Program
  | some t => [send .deleteGateway, send (.deleted t sender), .await, send (.delete .gateway)]
  | none => [send (.delete .gateway)]

/-- `on_deleted` of the route handlers; only HTTP routes have inference pools. -/
def routeDeleted (sender : ServiceTask) (kind : PatchedKind) (pools : Nat) : Program :=
  (if kind = .httpRoute then patchStatuses .inferencePool sender pools else []) ++
    [send (.delete kind), send .deleteRoute]

def routeChanged (kind : PatchedKind) (finalizer : Bool) (gateways : List GatewayImplementationType) : Program :=
  addFinalizer kind finalizer ++ send .addRoute :: gateways.map fun t => send (.addGateway t)

def reconcile (sender : ServiceTask) : PatchedKind → Occasion → Option Program
  | .gatewayClass, .gatewayClassChanged => some (patchStatus .gatewayClass sender)
  | .gatewayClass, .gatewayClassDeleted => some [send (.delete .gatewayClass)]
  | .gateway, .gatewayChanged t => some [send (.addGateway t)]
  | .gateway, .gatewayReady finalizer =>
    some (send (.patchFinalizer .gatewayClass) :: addFinalizer .gateway finalizer)
  | .gateway, .gatewayDeleted t => some (gatewayDeleted sender t)
  | .httpRoute, .routeChanged finalizer gateways => some (routeChanged .httpRoute finalizer gateways)
  | .grpcRoute, .routeChanged finalizer gateways => some (routeChanged .grpcRoute finalizer gateways)
  | .httpRoute, .routeDeleted pools => some (routeDeleted sender .httpRoute pools)
  | .grpcRoute, .routeDeleted pools => some (routeDeleted sender .grpcRoute pools)
  | .httpRoute, .routeReleased => some [send (.delete .httpRoute)]
  | .grpcRoute, .routeReleased => some [send (.delete .grpcRoute)]
  | .inferencePool, .poolChanged finalizer =>
    some (patchStatus .inferencePool sender ++ addFinalizer .inferencePool finalizer ++ [send .updatedGateways])
  | .inferencePool, .poolDeleted routes =>
    some (send (.delete .inferencePool) :: if routes then [send .updatedGateways] else [])
  | _, _ => none

/-- `update_gateways` of the resolvers, those of the backends with the routes. -/
def updateGateways (routes : Bool) : Program :=
  send .updatedGateways :: if routes then [send .updatedRoutes] else []

def produce : ServiceTask → Occasion → Option Program
  | .controller kind key, o => reconcile (.controller kind key) kind o
  | .resolver _, .referenceChanged routes => some (updateGateways routes)
  | .stream i, .discoveryRequest n => some (List.replicate n (send (.discoveryResponse i)))
  | _, _ => none

/-! ## The network -/

def receiver : ServiceChannel → ServiceTask
  | .referenceValidate => .referenceValidator
  | .gatewayDeployer | .backendResponse => .gatewayDeployer
  | .backendDeployer t => .backendDeployer t
  | .streamResource t => .aggregateServer t
  | .discovery i => .client i
  | .patcher kind => .patcher kind
  | .addressPolling i => .addressPolling i

def capacity : ServiceChannel → Option Nat
  | .addressPolling _ => none
  | .discovery _ => some 128
  | _ => some 1024

theorem capacity_pos (k : ServiceChannel) (n : Nat) (h : capacity k = some n) : 0 < n := by
  cases k <;> simp only [capacity, Option.some.injEq, reduceCtorEq] at h <;> omega

theorem handle_answers (q : Message) (e : Circumstances) (t : ServiceTask) (h : q.asker = some t) :
    .answer t ∈ handle q e := by
  cases q <;> simp only [Message.asker, Option.some.injEq, reduceCtorEq] at h
  case deleted ty sender =>
    subst h
    cases ty <;> simp [handle, undeployGateway]
  case patchStatus kind sender =>
    subst h
    simp [handle]

/-- A backend only runs if its control plane is configured. -/
def serves (configured : GatewayImplementationType → Bool) : ServiceChannel → Bool
  | .backendDeployer t => configured t
  | _ => true

/-- The services of `start`. -/
def services (configured : GatewayImplementationType → Bool) :
    Network ServiceChannel ServiceTask Message Circumstances where
  capacity := capacity
  receiver := receiver
  serves := serves configured
  asker := Message.asker
  handle _ := handle
  produce t e := produce t e.occasion
  capacity_pos := capacity_pos
  handle_answers _ := handle_answers

/-! ## Who waits for whom -/

variable {configured : GatewayImplementationType → Bool} {c : (services configured).State}
  {t u : ServiceTask} {k : ServiceChannel} {q : Message} {ty : GatewayImplementationType}

/-- The order in which the tasks wait for each other. -/
def rank : ServiceTask → Nat
  | .client _ | .patcher _ => 0
  | .aggregateServer _ | .stream _ => 1
  | .backendDeployer _ => 2
  | .gatewayDeployer => 3
  | .addressPolling _ | .referenceValidator => 4
  | .controller _ _ | .resolver _ => 5

/-- Who asks a task of a lower rank; the gateway deployer asks nobody but the patchers. -/
def Asks (t u : ServiceTask) : Prop := rank u < rank t ∧ (t = .gatewayDeployer → rank u = 0)

/-- A message in its channel, with a request of a task that may ask the receiver. -/
structure Sound (k : ServiceChannel) (q : Message) : Prop where
  channel : q.channel = k
  asker : ∀ t, q.asker = some t → Asks t (receiver k)

/-- Who sends which messages. -/
def Message.sentBy : Message → ServiceTask → Bool
  | .addGateway _, .controller _ _ | .deleteGateway, .controller _ _ | .addRoute, .controller _ _
  | .deleteRoute, .controller _ _ | .updatedGateways, .controller _ _ | .updatedGateways, .resolver _
  | .updatedRoutes, .resolver _ => true
  | .deploy _, .referenceValidator => true
  | .changed _, .gatewayDeployer | .deleted _ _, .controller _ _ => true
  | .processed, .backendDeployer _ | .processed, .addressPolling _ | .processedWithContext, .backendDeployer _
  | .processedWithContext, .addressPolling _ => true
  | .update ty, .backendDeployer ty' => ty = ty'
  | .discoveryResponse _, .aggregateServer _ | .discoveryResponse _, .stream _ => true
  | .patchStatus _ _, .controller _ _ | .patchStatus _ _, .referenceValidator | .patchStatus _ _, .gatewayDeployer
  | .patchFinalizer _, .controller _ _ | .patchFinalizer _, .gatewayDeployer | .delete _, .controller _ _ => true
  | .poll _, .backendDeployer _ | .poll _, .addressPolling _ => true
  | _, _ => false

def Does (t : ServiceTask) : ServiceAction → Prop
  | .send k q => Sound k q ∧ q.sentBy t = true
  | .answer u => Asks u t
  | .await => True

theorem does_send (hasker : q.asker = none) (hsent : q.sentBy t = true) : Does t (send q) := by
  refine ⟨⟨rfl, fun u hu => ?_⟩, hsent⟩
  rw [hasker] at hu
  cases hu

theorem forall_mem_ite {P : ServiceAction → Prop} {b : Bool} {p p' : Program} (h : ∀ a ∈ p, P a)
    (h' : ∀ a ∈ p', P a) : ∀ a ∈ (if b then p else p'), P a := by
  cases b
  · exact h'
  · exact h

theorem does_patchStatus {kind : PatchedKind} (h : 0 < rank t)
    (hsent : (Message.patchStatus kind t).sentBy t = true) : ∀ a ∈ patchStatus kind t, Does t a := by
  refine List.forall_mem_cons.2 ⟨⟨⟨rfl, fun u hu => ?_⟩, hsent⟩, List.forall_mem_singleton.2 trivial⟩
  obtain rfl := Option.some.inj hu
  exact ⟨h, fun _ => rfl⟩

theorem does_patchStatuses {kind : PatchedKind} {n : Nat} (h : 0 < rank t)
    (hsent : (Message.patchStatus kind t).sentBy t = true) : ∀ a ∈ patchStatuses kind t n, Does t a := by
  intro a ha
  obtain ⟨p, hp, hap⟩ := List.mem_flatten.1 ha
  obtain rfl := List.eq_of_mem_replicate hp
  exact does_patchStatus h hsent a hap

theorem does_processAndDeploy {pools : Nat} : ∀ a ∈ processAndDeploy ty pools, Does .referenceValidator a :=
  List.forall_mem_append.2 ⟨does_patchStatuses (by decide) rfl,
    List.forall_mem_singleton.2 (does_send rfl rfl)⟩

theorem does_processResponse {e : Circumstances} : ∀ a ∈ processResponse e, Does .gatewayDeployer a := by
  have hfinalizer (kind : PatchedKind) : Does .gatewayDeployer (send (.patchFinalizer kind)) :=
    does_send rfl rfl
  have hready : ∀ a ∈ onVersionNotChanged e, Does .gatewayDeployer a :=
    forall_mem_ite
      (List.forall_mem_cons.2 ⟨hfinalizer _,
        forall_mem_ite (List.forall_mem_nil _) (List.forall_mem_singleton.2 (hfinalizer _))⟩)
      (List.forall_mem_nil _)
  exact List.forall_mem_append.2 ⟨List.forall_mem_append.2 ⟨List.forall_mem_append.2
    ⟨does_patchStatuses (by decide) rfl, does_patchStatuses (by decide) rfl⟩, does_patchStatus (by decide) rfl⟩, hready⟩

theorem does_deployGateway {e : Circumstances} : ∀ a ∈ deployGateway ty e, Does (.backendDeployer ty) a := by
  have hupdate : Does (.backendDeployer ty) (send (.update ty)) := does_send rfl (decide_eq_true rfl)
  have haddress : Does (.backendDeployer ty) (updateAddressWithPolling e) := by
    unfold updateAddressWithPolling
    split
    · exact does_send rfl rfl
    · exact does_send rfl rfl
  exact forall_mem_ite
    (List.forall_mem_cons.2 ⟨hupdate, List.forall_mem_cons.2 ⟨hupdate, List.forall_mem_singleton.2 haddress⟩⟩)
    (List.forall_mem_singleton.2 (does_send rfl rfl))

theorem does_undeployGateway {sender : ServiceTask} (h : Asks sender (.backendDeployer ty)) :
    ∀ a ∈ undeployGateway sender ty, Does (.backendDeployer ty) a := by
  have hanswer : ∀ a ∈ [ChannelAction.answer sender], Does (.backendDeployer ty) a :=
    List.forall_mem_singleton.2 h
  cases ty with
  | agentgateway => exact List.forall_mem_cons.2 ⟨does_send rfl rfl, hanswer⟩
  | envoy | orion => exact hanswer

theorem does_pollAddress {i : Nat} {l : Lookup} : ∀ a ∈ pollAddress i l, Does (.addressPolling i) a := by
  have hagain : Does (.addressPolling i) (send (.poll i)) := does_send rfl rfl
  cases l with
  | address => exact List.forall_mem_singleton.2 (does_send rfl rfl)
  | noAddress => exact List.forall_mem_singleton.2 hagain
  | failed => exact List.forall_mem_cons.2 ⟨does_send rfl rfl, List.forall_mem_singleton.2 hagain⟩

theorem does_updateClients {e : Circumstances} : ∀ a ∈ updateClients ty e, Does (.aggregateServer ty) a := by
  intro a ha
  obtain ⟨i, -, hi⟩ := List.mem_flatMap.1 ha
  obtain rfl := List.eq_of_mem_replicate hi
  exact does_send rfl rfl

/-- What is done for a message, the receiver of its channel may do. -/
theorem does_handle (hq : Sound k q) (e : Circumstances) : ∀ a ∈ handle q e, Does (receiver k) a := by
  obtain ⟨rfl, hasker⟩ := hq
  cases q with
  | addGateway t => exact does_processAndDeploy
  | deleteRoute | updatedGateways =>
    intro a ha
    obtain ⟨g, -, hg⟩ := List.mem_flatMap.1 ha
    exact does_processAndDeploy a hg
  | deploy t => exact List.forall_mem_singleton.2 (does_send rfl rfl)
  | processedWithContext => exact does_processResponse
  | changed t => exact does_deployGateway
  | deleted t sender => exact does_undeployGateway (hasker sender rfl)
  | poll i => exact does_pollAddress
  | update t => exact does_updateClients
  | patchStatus kind sender => exact List.forall_mem_singleton.2 (hasker sender rfl)
  | deleteGateway | addRoute | updatedRoutes | processed | discoveryResponse i | patchFinalizer kind
  | delete kind => exact List.forall_mem_nil _

section
variable {kind : PatchedKind} {key : ResourceKey}

theorem does_addFinalizer (kind' : PatchedKind) (finalizer : Bool) :
    ∀ a ∈ addFinalizer kind' finalizer, Does (.controller kind key) a :=
  forall_mem_ite (List.forall_mem_nil _)
    (List.forall_mem_singleton.2 (does_send rfl rfl))

theorem does_gatewayDeleted (o : Option GatewayImplementationType) :
    ∀ a ∈ gatewayDeleted (.controller kind key) o, Does (.controller kind key) a := by
  have hdelete : Does (.controller kind key) (send (.delete .gateway)) :=
    does_send rfl rfl
  cases o with
  | none => exact List.forall_mem_singleton.2 hdelete
  | some ty =>
    -- the only request of a controller that is not for a patcher
    have hask : Does (.controller kind key) (send (.deleted ty (.controller kind key))) := by
      refine ⟨⟨rfl, fun u hu => ?_⟩, rfl⟩
      obtain rfl := Option.some.inj hu
      exact ⟨(by decide : 2 < 5), fun h => by cases h⟩
    exact List.forall_mem_cons.2 ⟨does_send rfl rfl,
      List.forall_mem_cons.2 ⟨hask, List.forall_mem_cons.2 ⟨trivial, List.forall_mem_singleton.2 hdelete⟩⟩⟩

theorem does_routeChanged (kind' : PatchedKind) (finalizer : Bool) (gateways : List GatewayImplementationType) :
    ∀ a ∈ routeChanged kind' finalizer gateways, Does (.controller kind key) a := by
  refine List.forall_mem_append.2 ⟨does_addFinalizer kind' finalizer,
    List.forall_mem_cons.2 ⟨does_send rfl rfl, fun a ha => ?_⟩⟩
  obtain ⟨ty, -, rfl⟩ := List.mem_map.1 ha
  exact does_send rfl rfl

theorem does_routeDeleted (kind' : PatchedKind) (pools : Nat) :
    ∀ a ∈ routeDeleted (.controller kind key) kind' pools, Does (.controller kind key) a := by
  refine List.forall_mem_append.2 ⟨?_, List.forall_mem_cons.2 ⟨does_send rfl rfl,
    List.forall_mem_singleton.2 (does_send rfl rfl)⟩⟩
  split
  · exact does_patchStatuses (by decide : 0 < 5) rfl
  · exact List.forall_mem_nil _

theorem does_reconcile {o : Occasion} {p : Program} (h : reconcile (.controller kind key) kind o = some p) :
    ∀ a ∈ p, Does (.controller kind key) a := by
  have hpatch (kind' : PatchedKind) :
      ∀ a ∈ patchStatus kind' (.controller kind key), Does (.controller kind key) a :=
    does_patchStatus (by decide : 0 < 5) rfl
  have hto (kind' : PatchedKind) : Does (.controller kind key) (send (.delete kind')) :=
    does_send rfl rfl
  have hupdated : ∀ a ∈ [send .updatedGateways], Does (.controller kind key) a :=
    List.forall_mem_singleton.2 (does_send rfl rfl)
  unfold reconcile at h
  split at h
  case h_1 => exact Option.some.inj h ▸ hpatch _
  case h_2 => exact Option.some.inj h ▸ List.forall_mem_singleton.2 (hto _)
  case h_3 =>
    exact Option.some.inj h ▸ List.forall_mem_singleton.2 (does_send rfl rfl)
  case h_4 =>
    exact Option.some.inj h ▸
      List.forall_mem_cons.2 ⟨does_send rfl rfl, does_addFinalizer _ _⟩
  case h_5 => exact Option.some.inj h ▸ does_gatewayDeleted _
  case h_6 | h_7 => exact Option.some.inj h ▸ does_routeChanged _ _ _
  case h_8 | h_9 => exact Option.some.inj h ▸ does_routeDeleted _ _
  case h_10 | h_11 => exact Option.some.inj h ▸ List.forall_mem_singleton.2 (hto _)
  case h_12 =>
    exact Option.some.inj h ▸ List.forall_mem_append.2
      ⟨List.forall_mem_append.2 ⟨hpatch _, does_addFinalizer _ _⟩, hupdated⟩
  case h_13 =>
    exact Option.some.inj h ▸ List.forall_mem_cons.2 ⟨hto _, forall_mem_ite hupdated (List.forall_mem_nil _)⟩
  case h_14 => cases h

end

theorem does_produce {o : Occasion} {p : Program} (h : produce t o = some p) : ∀ a ∈ p, Does t a := by
  unfold produce at h
  split at h
  case h_1 => exact does_reconcile h
  case h_2 i routes =>
    exact Option.some.inj h ▸ List.forall_mem_cons.2 ⟨does_send rfl rfl,
      forall_mem_ite (List.forall_mem_singleton.2 (does_send rfl rfl)) (List.forall_mem_nil _)⟩
  case h_3 i n =>
    obtain rfl := Option.some.inj h
    intro a ha
    obtain rfl := List.eq_of_mem_replicate ha
    exact does_send rfl rfl
  case h_4 => cases h

theorem typed_step {c' : (services configured).State} {x : (services configured).Step}
    (hc : Network.Typed Sound Does c) (hmove : Network.Moves c x c') : Network.Typed Sound Does c' :=
  hc.step (fun _ _ _ => does_produce) (fun _ _ e hq => does_handle hq e) (fun _ _ _ ha => ha.1) hmove

/-- Whatever happens, the channels have sound messages, and the tasks do what they may do. -/
theorem typed_of_reachable (hc : (services configured).tasks.system.Reachable System.Any c) :
    Network.Typed Sound Does c := by
  refine hc.inv (Network.Typed Sound Does) ⟨fun _ _ h => ?_, fun _ _ h => ?_⟩
    fun _ _ _ h _ hstep => typed_step h (Network.moves_of_step hstep)
  · exact absurd h List.not_mem_nil
  · exact absurd h List.not_mem_nil

/-! ## The one cycle -/

/-- A full channel of the services, all of which have room for 1024 messages, but those of the clients. -/
theorem full_iff (hk : capacity k = some 1024) :
    (services configured).Full c.shared k ↔ 1024 ≤ (c.shared.queue k).length := by
  constructor
  · rintro ⟨n, hn, hle⟩
    obtain rfl := Option.some.inj (hk.symm.trans hn)
    exact hle
  · intro hle
    exact ⟨1024, hk, hle⟩

/-- The task is about to send into a channel that is full. -/
def SendsIntoFull (c : (services configured).State) (t : ServiceTask) (k : ServiceChannel) : Prop :=
  (∃ q, (c.program t).head? = some (.send k q)) ∧ 1024 ≤ (c.shared.queue k).length

/-- The gateway deployer waits for a backend, and the backend for the deployer. -/
def Deadlocked (ty : GatewayImplementationType) (c : (services configured).State) : Prop :=
  SendsIntoFull c .gatewayDeployer (.backendDeployer ty) ∧
    SendsIntoFull c (.backendDeployer ty) .backendResponse

/-- A task sends to tasks of a lower rank, but for the responses of the backends. -/
theorem Message.rank_lt_of_sentBy (h : q.sentBy t = true) :
    rank (receiver q.channel) < rank t ∨ capacity q.channel = none ∨
      q.channel = .backendResponse ∧ ∃ ty, t = .backendDeployer ty := by
  unfold Message.sentBy at h
  split at h <;> simp_all [Message.channel, receiver, rank, capacity]

/-- Where the gateway deployer sends to. -/
theorem Message.channel_of_sentBy (h : q.sentBy .gatewayDeployer = true) :
    (∃ ty, q.channel = .backendDeployer ty) ∨ ∃ kind, q.channel = .patcher kind := by
  cases q <;> simp_all [Message.sentBy, Message.channel]

/-- A task waits for one of a lower rank, but for a backend that has a response. -/
theorem waitsFor_rank (hc : Network.Typed Sound Does c) (h : Network.WaitsFor c t u) :
    rank u < rank t ∨
      u = .gatewayDeployer ∧ ∃ ty, t = .backendDeployer ty ∧ SendsIntoFull c t .backendResponse := by
  rcases h with ⟨k, hwaits, rfl⟩ | ⟨-, -, hanswer⟩
  · rcases hwaits with ⟨q, hhead, hfull⟩ | ⟨-, -, q, hq, hasker⟩
    · obtain ⟨⟨rfl, -⟩, hsent⟩ := hc.action t _ (List.mem_of_head? hhead)
      rcases Message.rank_lt_of_sentBy hsent with hlow | hroom | ⟨hk, ty, rfl⟩
      · exact .inl hlow
      · obtain ⟨n, hn, -⟩ := hfull
        cases hroom.symm.trans hn
      · rw [hk] at hhead hfull ⊢
        exact .inr ⟨rfl, ty, rfl, ⟨q, hhead⟩, (full_iff rfl).1 hfull⟩
    · exact .inl ((hc.message k q hq).asker t hasker).1
  · exact .inl (hc.action u _ hanswer).1

/-- Whom the gateway deployer waits for: a patcher, or a backend whose channel is full. -/
theorem deployer_waitsFor (hc : Network.Typed Sound Does c) (h : Network.WaitsFor c .gatewayDeployer u) :
    rank u = 0 ∨ ∃ ty, u = .backendDeployer ty ∧ SendsIntoFull c .gatewayDeployer (.backendDeployer ty) := by
  rcases h with ⟨k, hwaits, rfl⟩ | ⟨-, -, hanswer⟩
  · rcases hwaits with ⟨q, hhead, hfull⟩ | ⟨-, -, q, hq, hasker⟩
    · obtain ⟨⟨rfl, -⟩, hsent⟩ := hc.action _ _ (List.mem_of_head? hhead)
      rcases Message.channel_of_sentBy hsent with ⟨ty, hk⟩ | ⟨kind, hk⟩
      · rw [hk] at hhead hfull ⊢
        exact .inr ⟨ty, rfl, ⟨q, hhead⟩, (full_iff rfl).1 hfull⟩
      · rw [hk]
        exact .inl rfl
    · exact .inl (((hc.message k q hq).asker _ hasker).2 rfl)
  · exact .inl ((hc.action u _ hanswer).2 rfl)

/-- Waits that do not start at a deadlocked deployer end. -/
theorem waits_wellFounded (hc : Network.Typed Sound Does c) (t : ServiceTask) :
    Acc (fun u t => Network.WaitsFor c t u ∧ ¬ (t = .gatewayDeployer ∧ ∃ ty, Deadlocked ty c)) t := by
  set R := fun u t => Network.WaitsFor c t u ∧ ¬ (t = .gatewayDeployer ∧ ∃ ty, Deadlocked ty c)
  have hlow : ∀ n t, rank t = n → n < 2 → Acc R t := by
    intro n
    induction n using Nat.strong_induction_on with
    | _ n ih =>
      intro t ht hn
      refine ⟨t, fun u hu => ?_⟩
      rcases waitsFor_rank hc hu.1 with hrank | ⟨-, ty, rfl, -⟩
      · exact ih (rank u) (ht ▸ hrank) u rfl (by omega)
      · exact absurd hn (ht ▸ (by decide : ¬ 2 < 2))
  have hdeployer : Acc R .gatewayDeployer := by
    refine ⟨_, fun u hu => ?_⟩
    rcases deployer_waitsFor hc hu.1 with hrank | ⟨ty, rfl, hrequests⟩
    · exact hlow _ u rfl (by omega)
    · -- the backend does not wait for the deployer, for then the two would be deadlocked
      refine ⟨_, fun v hv => ?_⟩
      rcases waitsFor_rank hc hv.1 with hrank | ⟨-, ty', hty, hresponses⟩
      · exact hlow _ v rfl hrank
      · exact absurd ⟨rfl, ty, hrequests, hresponses⟩ hu.2
  have hall : ∀ n t, rank t = n → Acc R t := by
    intro n
    induction n using Nat.strong_induction_on with
    | _ n ih =>
      intro t ht
      refine ⟨t, fun u hu => ?_⟩
      rcases waitsFor_rank hc hu.1 with hrank | ⟨rfl, -⟩
      · exact ih (rank u) (ht ▸ hrank) u rfl
      · exact hdeployer
  exact hall _ t rfl

theorem serves_eq_false (h : (services configured).serves k = false) :
    ∃ ty, k = .backendDeployer ty ∧ configured ty = false := by
  cases k with
  | backendDeployer ty => exact ⟨ty, rfl, h⟩
  | _ => cases h

/-- **Whoever waits at a channel waits for a task that does not**, directly or through others; or for a backend
that is not configured, or for the gateway deployer when it and a backend are deadlocked. At the channels there is no
other way to be stuck. -/
theorem wait_ends (hc : (services configured).tasks.system.Reachable System.Any c) (hbusy : c.program t ≠ []) :
    ∃ u, Relation.ReflTransGen (Network.WaitsFor c) t u ∧
      (Network.Proceeds c u ∨ (∃ ty, configured ty = false ∧ Network.WaitsAt c u (.backendDeployer ty)) ∨
        u = .gatewayDeployer ∧ ∃ ty, Deadlocked ty c) := by
  obtain ⟨u, hu, hgo | ⟨k, hk, hserves⟩ | hdead⟩ := Network.exists_proceeds
    (Network.answersOwed_of_reachable hc) (waits_wellFounded (typed_of_reachable hc) t) hbusy
  · exact ⟨u, hu, .inl hgo⟩
  · obtain ⟨ty, rfl, hty⟩ := serves_eq_false hserves
    exact ⟨u, hu, .inr (.inl ⟨ty, hty, hk⟩)⟩
  · exact ⟨u, hu, .inr (.inr hdead)⟩

def onlyEnvoy (ty : GatewayImplementationType) : Bool := ty == .envoy

/-- The deletion of a gateway whose backend is not configured. -/
def deletion : List (services onlyEnvoy).Step :=
  [.start (.controller .gateway {}) (.produce { occasion := .gatewayDeleted (some .orion) }),
    .next (.controller .gateway {}) (), .next (.controller .gateway {}) ()]

theorem wait_ends_deletion : ∃ c : (services onlyEnvoy).State,
    (services onlyEnvoy).tasks.system.run (services onlyEnvoy).tasks.system.init deletion = some c ∧
    ∃ u, Relation.ReflTransGen (Network.WaitsFor c) (.controller .gateway {}) u ∧
      (Network.Proceeds c u ∨ (∃ ty, onlyEnvoy ty = false ∧ Network.WaitsAt c u (.backendDeployer ty)) ∨
        u = .gatewayDeployer ∧ ∃ ty, Deadlocked ty c) :=
  ⟨_, rfl, wait_ends ⟨deletion, System.along_any, rfl⟩ (by decide)⟩

end Kubvernor.ServiceChannels
