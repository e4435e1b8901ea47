import Kubvernor.Control.GatewayDeployer
import Kubvernor.Controllers.ResourceState
import Kubvernor.Lib.Tasks
import Kubvernor.State.InMemory

/-!
# The gateway pipeline

The tasks that a change of a gateway passes through, and the channels and stores between them:

* the gateway controller, one task for each gateway (a controller never reconciles one object twice
  at a time), which stores gateways and asks the validator for a deployment;
* the route handlers, which ask for the gateways of a changed route again;
* the reference validator, the only receiver of the validate channel, which re-reads stored gateways
  when a reference or a route has changed;
* the gateway deployer, which passes deploy requests to the backends and stores what they answer;
* the backends, one for each implementation type, with the tasks they spawn to poll for an address;
* the other tasks that only send to the validate channel (pollers, inference pools, route deletion).

One action is one critical section of a mutex, one send, or one receive. Channels are queues without
a bound. What the outside decides during an action is its `Choice`.
-/

namespace Kubvernor

open Lib

/-! ## Messages -/

structure RequestContext where
  gateway : Gateway
  kubeGateway : KubeGateway
  gatewayClassName : String

inductive ReferenceValidateRequest
  | addGateway (ctx : RequestContext)
  | addRoute (routeKey : RouteKey)
  | updatedGateways (gateways : Std.ExtTreeSet GatewayKey)
  | updatedRoutes (routes : Std.ExtTreeSet RouteKey)
  | deleteRoute (routeKey : RouteKey)
  | deleteGateway (gateway : Gateway)

inductive BackendGatewayEvent
  | changed (ctx : RequestContext)
  | deleted (gateway : Gateway)

inductive BackendGatewayResponse
  | processed (gateway : Gateway)
  | processedWithContext (ctx : RequestContext)

/-! ## Tasks and actions -/

inductive Task
  | controller (key : GatewayKey)
  | route (key : RouteKey)
  | validator
  | deployer
  | backend (type : GatewayImplementationType)
  | poll
  | other
deriving DecidableEq

/-- Where a gateway is saved: by which handler of the controller, or after which step of a response. -/
inductive SaveReason
  | new | specNotChanged | statusChanged | processed | patched | ready
deriving DecidableEq, Repr

inductive Action
  | saveGateway (reason : SaveReason) (key : GatewayKey) (g : KubeGateway)
  | maybeSaveGateway (key : GatewayKey) (g : KubeGateway)
  | newOrChanged (g : KubeGateway) (type : GatewayImplementationType)
  | saveGatewayType (key : GatewayKey) (type : GatewayImplementationType)
  | deleteGateway (key : GatewayKey)
  | deleteGatewayType (key : GatewayKey) (g : KubeGateway)
  | awaitDeleted (key : GatewayKey)
  | send (request : ReferenceValidateRequest)
  | sendBackend (type : GatewayImplementationType) (event : BackendGatewayEvent)
  | getGatewayForRoute (key : GatewayKey)
  | addGatewayForRoute (g : KubeGateway)
  | redeploy (key : GatewayKey)
  | redeployAs (g : KubeGateway) (gateway : Gateway)
  | process (ctx : RequestContext)
  | sendDeploy (ctx : RequestContext)
  | awaitPatch (key : GatewayKey)

/-- What the outside decides during an action: whether a route matches a gateway or its class is
known (`flag`), the gateway that processing ends with (`effective`), and the answer to a patch. -/
structure Choice where
  flag : Bool := true
  effective : Option Gateway := none
  answer : Option KubeGateway := none

/-- How a backend gets on with a changed gateway: it fails, finds addresses, or goes polling. -/
inductive BackendOutcome
  | failed
  | addressed (addresses : List GatewayAddress)
  | polling

/-- The events tasks start on. -/
inductive Event
  | reconcile (g : KubeGateway) (type : GatewayImplementationType)
  | reconcileRoute (parents : List GatewayKey)
  | receive (affected : Std.ExtTreeSet GatewayKey)
  | receiveDeploy
  | receiveResponse (ok : Bool)
  | receiveBackend (outcome : BackendOutcome)
  | pollAnswered (i : Nat) (addresses : List GatewayAddress)
  | notify (request : ReferenceValidateRequest)

/-! ## The shared state -/

/-- What has happened to a gateway so far; no task reads it. -/
structure History where
  /-- the spec of the last reconcile that converted, since the last deletion -/
  accepted : Std.ExtTreeMap GatewayKey GatewaySpec := ∅
  /-- every deploy request handed to the deployer -/
  deployed : List RequestContext := []
  /-- the gateways that were deleted and not stored by a reconcile since -/
  deleted : Std.ExtTreeSet GatewayKey := ∅

structure Pipeline where
  state : State := {}
  validateChannel : List ReferenceValidateRequest := []
  deployChannel : List RequestContext := []
  backendChannel : GatewayImplementationType → List BackendGatewayEvent := fun _ => []
  responseChannel : List BackendGatewayResponse := []
  polling : List RequestContext := []
  deletedAnswers : List GatewayKey := []
  aborted : Bool := false
  history : History := {}

namespace Pipeline

variable (s : Pipeline)

def sendRequest (r : ReferenceValidateRequest) : Pipeline := { s with validateChannel := s.validateChannel ++ [r] }

def sendBackendEvent (t : GatewayImplementationType) (e : BackendGatewayEvent) : Pipeline :=
  { s with backendChannel := Function.update s.backendChannel t (s.backendChannel t ++ [e]) }

def sendResponse (r : BackendGatewayResponse) : Pipeline := { s with responseChannel := s.responseChannel ++ [r] }

/-- Saves a gateway. A save by the controller follows a reconcile event that is not a deletion. -/
def save (reason : SaveReason) (key : GatewayKey) (g : KubeGateway) : Pipeline :=
  { s with
    state := s.state.saveGateway key g
    history := { s.history with
      deleted := match reason with
        | .new | .specNotChanged | .statusChanged => s.history.deleted.erase key
        | .processed | .patched | .ready => s.history.deleted } }

/-- A panic of a task. -/
def abort : Pipeline := { s with aborted := true }

end Pipeline

/-! ## What the tasks do -/

/-- `check_spec_changed`. -/
def checkSpecChanged (resource stored : KubeGateway) : ResourceState :=
  if resource.spec = stored.spec then .specNotChanged else .specChanged

/-- `check_status_changed`. -/
def checkStatusChanged (resource stored : KubeGateway) : ResourceState :=
  if resource.status = stored.status then .statusNotChanged else .statusChanged

/-- A condition of type `Ready`. -/
def KubeGateway.Ready (g : KubeGateway) : Prop := ∃ c ∈ g.conditions, c.type = "Ready"

/-- A condition of type `Programmed` with the status `Pending`. -/
def KubeGateway.Pending (g : KubeGateway) : Prop := ∃ c ∈ g.conditions, c.type = "Programmed" ∧ c.status = "Pending"

instance : DecidablePred KubeGateway.Ready := fun g => inferInstanceAs (Decidable (∃ c ∈ g.conditions, _))

instance : DecidablePred KubeGateway.Pending := fun g => inferInstanceAs (Decidable (∃ c ∈ g.conditions, _))

/-- The handlers of `GatewayResourceHandler`, by the state of the reconciled resource. -/
def gatewayHandler (key : GatewayKey) (g : KubeGateway) (t : GatewayImplementationType) : ResourceState → List Action
  | .versionNotChanged => []
  | .specNotChanged => [.saveGateway .specNotChanged key g]
  | .new => [.saveGateway .new key g, .newOrChanged g t]
  | .specChanged => [.newOrChanged g t]
  | .statusChanged =>
    if g.Ready then [.saveGateway .statusChanged key g]
    else if g.Pending then [.newOrChanged g t]
    else []
  | .statusNotChanged => [.maybeSaveGateway key g]
  | .deleted => [.deleteGateway key, .deleteGatewayType key g]

/-- What the reference validator does for a request; `affected` are the gateways from which the
resolvers have removed the references of a deleted route. -/
def validateHandler (affected : Std.ExtTreeSet GatewayKey) : ReferenceValidateRequest → List Action
  | .addGateway ctx => [.process ctx]
  | .updatedGateways gateways => gateways.toList.map .redeploy
  | .deleteRoute _ => affected.toList.map .redeploy
  | .addRoute _ | .updatedRoutes _ | .deleteGateway _ => []

/-- What `GatewayDeployer::deploy_gateway` sends to the backend. -/
def changedContext (ctx : RequestContext) : RequestContext :=
  let gateway := GatewayDeployer.adjustStatuses ctx.gateway
  { ctx with
    gateway := gateway
    kubeGateway := GatewayDeployer.resolveListenersStatuses gateway ctx.kubeGateway }

/-- The answer of a backend that has found the addresses of a gateway. -/
def addressedContext (ctx : RequestContext) (addresses : List GatewayAddress) : RequestContext :=
  { ctx with gateway := { ctx.gateway with addresses := ctx.gateway.addresses ++ addresses } }

variable (parseUuid : String → Option Uuid)

/-- How an idle task starts on an event. -/
def startTask : Task → Event → Pipeline → Option (Pipeline × List Action)
  | .controller key, .reconcile g t, s =>
    -- `reconcile_gateway` turns down an object without a name or with a uid that does not parse
    if g.resourceKey = key ∧ g.metadata.name.isSome ∧ (g.metadata.uid.bind parseUuid).isSome then
      some (s, gatewayHandler key g t
        (checkStatus KubeGateway.metadata checkSpecChanged checkStatusChanged g (s.state.getGateway key)))
    else none
  | .route _, .reconcileRoute parents, s => some (s, parents.map .getGatewayForRoute)
  | .validator, .receive affected, s =>
    match s.validateChannel with
    | [] => none
    | r :: rs => some ({ s with validateChannel := rs }, validateHandler affected r)
  | .deployer, .receiveDeploy, s =>
    match s.deployChannel with
    | [] => none
    | ctx :: rest => some ({ s with deployChannel := rest },
        [.sendBackend ctx.gateway.backendType (.changed (changedContext ctx))])
  | .deployer, .receiveResponse ok, s =>
    match s.responseChannel with
    | [] => none
    | .processed _ :: rest => some ({ s with responseChannel := rest }, [])
    | .processedWithContext ctx :: rest => some ({ s with responseChannel := rest },
        if ok then [.saveGateway .processed ctx.gateway.resourceKey ctx.kubeGateway,
          .awaitPatch ctx.gateway.resourceKey]
        else [])
  | .backend t, .receiveBackend outcome, s =>
    match s.backendChannel t with
    | [] => none
    | e :: rest =>
      let s := { s with backendChannel := Function.update s.backendChannel t rest }
      match e, outcome with
      | .changed ctx, .failed => some (s.sendResponse (.processed ctx.gateway), [])
      | .changed ctx, .addressed addresses =>
        some (s.sendResponse (.processedWithContext (addressedContext ctx addresses)), [])
      | .changed ctx, .polling => some ({ s with polling := s.polling ++ [ctx] }, [])
      | .deleted gateway, _ => some ({ s with deletedAnswers := gateway.resourceKey :: s.deletedAnswers }, [])
  | .poll, .pollAnswered i addresses, s =>
    s.polling[i]?.map fun ctx =>
      ({ s with polling := s.polling.eraseIdx i }.sendResponse
        (.processedWithContext (addressedContext ctx addresses)), [])
  | .other, .notify r, s =>
    match r with
    | .addGateway _ | .deleteGateway _ => none
    | r => some (s.sendRequest r, [])
  | _, _, _ => none

/-- One action: the new shared state and what is left of the task's program. -/
def execAction (a : Action) (rest : List Action) (w : Choice) (s : Pipeline) :
    Option (Pipeline × List Action) :=
  match a with
  | .saveGateway reason key g => some (s.save reason key g, rest)
  | .maybeSaveGateway key g => some ({ s with state := s.state.maybeSaveGateway key g }, rest)
  | .newOrChanged g t =>
    match Gateway.tryFrom parseUuid g t with
    | .error _ => some (s, [])
    | .ok gateway =>
      some ({ s with history := { s.history with
          accepted := s.history.accepted.insert gateway.resourceKey g.spec } },
        [.saveGatewayType gateway.resourceKey t,
          .send (.addGateway { gateway := gateway, kubeGateway := g, gatewayClassName := g.spec.gatewayClassName })])
  | .saveGatewayType key t => some ({ s with state := s.state.saveGatewayType key t }, rest)
  | .deleteGateway key =>
    some ({ s with
      state := s.state.deleteGateway key
      history := { s.history with
        accepted := s.history.accepted.erase key, deleted := s.history.deleted.insert key } }, rest)
  | .deleteGatewayType key g =>
    let s' := { s with state := s.state.deleteGatewayType key }
    match s.state.getGatewayType key with
    | none => some (s', rest)
    | some t =>
      match Gateway.tryFrom parseUuid g .envoy with
      | .error _ => some (s', rest)
      | .ok gateway =>
        let gateway := { gateway with backendType := t }
        some (s', [.send (.deleteGateway gateway), .sendBackend t (.deleted gateway), .awaitDeleted key] ++ rest)
  | .awaitDeleted key =>
    if key ∈ s.deletedAnswers then some ({ s with deletedAnswers := s.deletedAnswers.erase key }, rest) else none
  | .send r => some (s.sendRequest r, rest)
  | .sendBackend t e => some (s.sendBackendEvent t e, rest)
  | .getGatewayForRoute key =>
    match s.state.getGateway key with
    | some g => some (s, if w.flag then rest ++ [.addGatewayForRoute g] else rest)
    | none => some (s, rest)
  | .addGatewayForRoute g =>
    if w.flag then
      match Gateway.tryFrom parseUuid g .envoy with
      | .error _ => some (s.abort, [])
      | .ok gateway =>
        match s.state.getGatewayType gateway.resourceKey with
        | none => some (s, [])
        | some t =>
          some (s, .send (.addGateway
            { gateway := { gateway with backendType := t }, kubeGateway := g
              gatewayClassName := g.spec.gatewayClassName }) :: rest)
    else some (s, [])
  | .redeploy key =>
    match s.state.getGateway key with
    | none => some (s, rest)
    | some g =>
      match Gateway.tryFrom parseUuid g .envoy with
      | .error _ => some (s.abort, [])
      | .ok gateway => some (s, .redeployAs g gateway :: rest)
  | .redeployAs g gateway =>
    match s.state.getGatewayType gateway.resourceKey with
    | none => some (s, rest)
    | some t =>
      some (s, .process
        { gateway := { gateway with backendType := t }, kubeGateway := g
          gatewayClassName := g.spec.gatewayClassName } :: rest)
  | .process ctx =>
    -- certificates and routes are filled in; the key and the backend type stay
    let effective := w.effective.getD ctx.gateway
    if effective.resourceKey = ctx.gateway.resourceKey ∧ effective.backendType = ctx.gateway.backendType then
      some (s, .sendDeploy { ctx with gateway := effective } :: rest)
    else none
  | .sendDeploy ctx =>
    some ({ s with
      deployChannel := s.deployChannel ++ [ctx]
      history := { s.history with deployed := s.history.deployed ++ [ctx] } }, rest)
  | .awaitPatch key =>
    match w.answer with
    | none => some (s, rest)
    | some p =>
      -- the API server answers with the object of the patched key
      if p.resourceKey = key then
        some (s, .saveGateway .patched key p :: if p.Ready then .saveGateway .ready key p :: rest else rest)
      else none

/-- The pipeline as a system of interleaved tasks; `parseUuid` parses uids. -/
def pipeline : TaskSystem Pipeline Task Action Event Choice where
  init := {}
  start := startTask parseUuid
  exec := fun _ => execAction parseUuid

abbrev PipelineConfig := Config Pipeline Task Action
abbrev PipelineStep := TaskStep Task Event Choice

/-! The runs on fixed inputs use one uid and a parser that knows it. -/

def someUid : String := "00000000-0000-0000-0000-000000000001"

def parseSomeUid (uid : String) : Option Uuid := if uid = someUid then some 1 else none

end Kubvernor
