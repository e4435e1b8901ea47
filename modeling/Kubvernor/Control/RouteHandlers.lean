import Kubvernor.Control.Pipeline
import Kubvernor.Controllers.RouteListenerMatcher
import Kubvernor.Controllers.RouteResolver
import Kubvernor.State.InferencePools
import Kubvernor.State.Routes

/-!
# The handlers of routes

What the controllers of HTTP and GRPC routes do with a reconciled object: the state they leave, what they
send to the patchers and to the reference validator, and how they end. One handler serves both kinds
(`CommonRouteHandler`); a kind says how its routes are stored (`RouteKind`). The deletion it shares looks
for the route among the HTTP routes, whatever its kind.
-/

namespace Kubvernor

/-! ## Stores, messages and outcomes -/

structure GatewayParametersRef where
  group : String
  kind : String
  name : String
  ns : Option String := none
deriving DecidableEq, Repr

structure GatewayClassSpec where
  controllerName : String
  description : Option String := none
  parametersRef : Option GatewayParametersRef := none
deriving DecidableEq, Repr

structure GatewayClassStatus where
  conditions : Option (List Condition) := none
  supportedFeatures : Option (List String) := none
deriving DecidableEq, Repr

/-- The GatewayClass object of the Gateway API. -/
structure GatewayClass where
  metadata : ObjectMeta := {}
  spec : GatewayClassSpec
  status : Option GatewayClassStatus := none
deriving DecidableEq, Repr

/-- `ResourceKey::from(&GatewayClass)`. -/
def GatewayClass.resourceKey (c : GatewayClass) : ResourceKey := c.metadata.resourceKey "GatewayClass"

/-- All stores of `State`. -/
structure Stores where
  state : State := {}
  routes : RouteStores := {}
  gatewayClasses : Std.ExtTreeMap ResourceKey GatewayClass := ∅

namespace Stores

/-- A class of this name is stored. -/
def KnowsClass (s : Stores) (className : String) : Prop :=
  ∃ c ∈ s.gatewayClasses.toList.map (·.2), c.metadata.name = some className

instance (s : Stores) (className : String) : Decidable (s.KnowsClass className) :=
  inferInstanceAs (Decidable (∃ c ∈ s.gatewayClasses.toList.map (·.2), c.metadata.name = some className))

end Stores

inductive ControllerError
  | alreadyAdded
  | invalidPayload (message : String)
  | invalidRecipent
  | unknownGatewayClass (name : String)
  | unknownGatewayType
  | resourceHasWrongStatus
deriving DecidableEq, Repr

/-- How a handler ends: with a wait for the next change, with an error, or in a panic. -/
inductive Outcome
  | awaitChange
  | requeue (seconds : Nat)
  | failed (error : ControllerError)
  | panicked
deriving DecidableEq, Repr

def RECONCILE_LONG_WAIT : Nat := 3600

/-- `Operation`: what a patcher is asked to do. -/
inductive Operation (R : Type)
  | patchStatus (resourceKey : ResourceKey) (resource : R) (controllerName : String)
  | patchFinalizer (resourceKey : ResourceKey) (controllerName finalizerName : String)
  | delete (resourceKey : ResourceKey) (resource : R) (controllerName : String)

/-- What the handlers ask of the reference validator. -/
inductive ValidateRequest
  | addRoute (routeKey : RouteKey) (references : Std.ExtTreeSet ReferenceKey)
  | addGateway (ctx : RequestContext)
  | deleteRoute (routeKey : RouteKey) (references : Std.ExtTreeSet ReferenceKey)

/-- What a handler sends, and to whom. -/
inductive Sent (R : Type)
  | patcher (operation : Operation R)
  | poolPatcher (operation : Operation InferencePool)
  | validator (request : ValidateRequest)

/-- What a handler does: the stores it leaves, what it has sent, in order, and how it ends. -/
structure Handled (R : Type) where
  stores : Stores
  sent : List (Sent R) := []
  outcome : Outcome

/-- `needs_finalizer`. -/
def needsFinalizer {R : Type} (resourceKey : ResourceKey) (controllerName : String) (m : ObjectMeta) :
    Option (Operation R) :=
  if controllerName ∈ m.finalizers.getD [] then none
  else some (.patchFinalizer resourceKey controllerName controllerName)

/-! ## The kinds of routes -/

variable {M F : Type}

/-- How the routes of one kind are stored and converted, and whether its handler patches pools. -/
structure RouteKind (M F : Type) where
  kind : String
  stored : RouteStores → RouteKey → Option (KubeRoute M F)
  save : RouteStores → RouteKey → KubeRoute M F → RouteStores
  maybeSave : RouteStores → RouteKey → KubeRoute M F → RouteStores
  toRoute : KubeRoute M F → Route
  patchesPools : Bool

/-- `ResourceKey::from`, for an object of the kind. -/
def RouteKind.keyOf (k : RouteKind M F) (r : KubeRoute M F) : RouteKey := r.metadata.resourceKey k.kind

section Kinds

variable (isIpAddr : String → Bool)

def httpRouteKind : RouteKind RouteMatch HttpRouteFilter where
  kind := "HTTPRoute"
  stored := RouteStores.getHttpRouteById
  save := RouteStores.saveHttpRoute
  maybeSave := RouteStores.maybeSaveHttpRoute
  toRoute := Route.ofHTTPRoute isIpAddr
  patchesPools := true

def grpcRouteKind : RouteKind GrpcRouteMatch GrpcRouteFilter where
  kind := "GRPCRoute"
  stored := RouteStores.getGrpcRouteById
  save := RouteStores.saveGrpcRoute
  maybeSave := RouteStores.maybeSaveGrpcRoute
  toRoute := Route.ofGRPCRoute isIpAddr
  patchesPools := false

end Kinds

/-! ## The common handler -/

/-- The surroundings of the controllers: their name, and how uids and IP addresses are parsed. -/
structure ControllerConfig where
  controllerName : String
  parseUuid : String → Option Uuid
  isIpAddr : String → Bool

/-- The configuration of the runs on fixed inputs. -/
def someConfig : ControllerConfig where
  controllerName := "controller"
  parseUuid := parseSomeUid
  isIpAddr _ := false

def CONDITION_MESSAGE : String := "Route updated by controller"

/-- `generate_status_for_unknown_gateways`. -/
def generateStatusForUnknownGateways (controllerName : String) (gateways : List ParentReference)
    (generation : Option Int) : List ParentRouteStatus :=
  gateways.map fun gateway =>
    { conditions :=
        [{ type := "ResolvedRefs", status := "False", reason := "BackendNotFound"
           message := CONDITION_MESSAGE, observedGeneration := generation }]
      controllerName := controllerName
      parentRef := gateway }

/-- `extract_references`: what the backends refer to that are not resolved yet. -/
def extractReferences (route : Route) : Std.ExtTreeSet ReferenceKey :=
  .ofList (route.backends.filterMap fun backend =>
    match backend with
    | .maybe backendType => some backendType.resourceKey
    | _ => none)

/-- The keys of the pools among the backends. -/
def Route.inferencePools (route : Route) : List ResourceKey :=
  route.backends.filterMap fun b =>
    match b.backendType with
    | .inferencePool config => some config.resourceKey
    | .service _ | .invalid _ => none

/-- The key of the gateway a parent reference is to. -/
def ParentReference.gatewayKey (p : ParentReference) (routeKey : RouteKey) : GatewayKey :=
  (p.routeRefKey routeKey.ns).resourceKey

/-- `RouteListenerMatcher::filter_matching_gateways`: a reference is compared again, with the namespace of
the gateway for the one it leaves out. -/
def filterMatchingGateways (s : State) (resolvedGateways : List (ParentReference × KubeGateway)) :
    List KubeGateway :=
  resolvedGateways.filterMap fun p =>
    let gatewayKey := p.2.resourceKey
    if (p.1.routeRefKey gatewayKey.ns).resourceKey = gatewayKey then s.getGateway gatewayKey else none

namespace Stores

/-- A route is attached to a gateway, with its pools. -/
def attach (s : Stores) (routeKey : RouteKey) (pools : List ResourceKey) (gatewayKey : GatewayKey) : Stores :=
  { s with
    routes := s.routes.attachHttpRouteToGateway gatewayKey routeKey
    state := s.state.attachInferencePoolToGateway gatewayKey routeKey pools }

/-- A route is detached from a gateway, and its pools. -/
def detach (s : Stores) (routeKey : RouteKey) (gatewayKey : GatewayKey) : Stores :=
  { s with
    routes := s.routes.detachHttpRouteFromGateway gatewayKey routeKey
    state := (s.state.detachInfererencePoolFromGateway gatewayKey routeKey).1 }

/-- The round of `update_inference_pools` for one pool. -/
def updatePool (s : Stores) (controllerName : String) (gatewayIds : List GatewayKey) (pool : ResourceKey) :
    Stores × List (Operation InferencePool) :=
  match s.state.getInferencePool pool with
  | none => (s, [])
  | some inferencePool =>
    let updated := updateInferencePoolParents controllerName gatewayIds inferencePool true
    ({ s with state := s.state.maybeSaveInferencePool updated.resourceKey updated },
      [.patchStatus updated.resourceKey updated controllerName])

/-- `update_inference_pools`. -/
def updatePools (s : Stores) (controllerName : String) (gatewayIds : List GatewayKey) :
    List ResourceKey → Stores × List (Operation InferencePool)
  | [] => (s, [])
  | pool :: pools =>
    let (s, operations) := s.updatePool controllerName gatewayIds pool
    let (s, rest) := updatePools s controllerName gatewayIds pools
    (s, operations ++ rest)

/-- The requests for the matching gateways of a route, up to one whose class or type is not known. -/
def addGateways (s : Stores) (parseUuid : String → Option Uuid) :
    List KubeGateway → List ValidateRequest × Outcome
  | [] => ([], .awaitChange)
  | g :: gs =>
    if s.KnowsClass g.spec.gatewayClassName then
      match Gateway.tryFrom parseUuid g .envoy with
      | .error _ => ([], .panicked)
      | .ok gateway =>
        match s.state.getGatewayType gateway.resourceKey with
        | none => ([], .failed .unknownGatewayType)
        | some gatewayType =>
          let (requests, outcome) := addGateways s parseUuid gs
          (.addGateway
            { gateway := { gateway with backendType := gatewayType }
              kubeGateway := g
              gatewayClassName := g.spec.gatewayClassName } :: requests, outcome)
    else ([], .failed (.unknownGatewayClass g.spec.gatewayClassName))

end Stores

/-- `CommonRouteHandler`, with the kind of its routes. -/
structure CommonRouteHandler (M F : Type) where
  config : ControllerConfig
  kind : RouteKind M F
  resource : KubeRoute M F

namespace CommonRouteHandler

variable (h : CommonRouteHandler M F) (s : Stores)

def resourceKey : RouteKey := h.kind.keyOf h.resource

/-- `CommonRouteHandler::on_new_or_changed`. -/
def onNewOrChanged (parentGatewayRefs : List ParentReference) : Handled (KubeRoute M F) :=
  let routeKey := h.resourceKey
  let route := h.kind.toRoute h.resource
  let unknownGateways := parentGatewayRefs.filter fun p => (s.state.getGateway (p.gatewayKey routeKey)).isNone
  let resolvedGateways := parentGatewayRefs.filterMap fun p =>
    (s.state.getGateway (p.gatewayKey routeKey)).map fun g => (p, g)
  let attached := (parentGatewayRefs.map (·.gatewayKey routeKey)).foldl
    (fun s gatewayKey => s.attach routeKey route.inferencePools gatewayKey) s
  let matchingGateways := filterMatchingGateways attached.state resolvedGateways
  let status : RouteStatus :=
    { parents := generateStatusForUnknownGateways h.config.controllerName unknownGateways
        h.resource.metadata.generation }
  let saved : Stores :=
    { attached with routes := h.kind.save attached.routes routeKey { h.resource with status := some status } }
  let (requests, outcome) := saved.addGateways h.config.parseUuid matchingGateways
  { stores := saved
    sent :=
      ((needsFinalizer routeKey h.config.controllerName h.resource.metadata).toList.map .patcher) ++
        .validator (.addRoute routeKey (extractReferences route)) :: requests.map .validator
    outcome := outcome }

/-- `CommonRouteHandler::on_deleted`, which looks for the route among the HTTP routes. -/
def onDeleted (parentGatewayRefs : List ParentReference) : Handled (KubeRoute M F) :=
  let routeKey := h.resourceKey
  let gatewayIds : Std.ExtTreeSet GatewayKey := .ofList (parentGatewayRefs.map (·.gatewayKey routeKey))
  let detached := gatewayIds.toList.foldl (fun s gatewayKey => s.detach routeKey gatewayKey) s
  let poolGateways := detached.state.findGatewaysByRouteAndInferencePool routeKey
  match detached.routes.getHttpRouteById routeKey with
  | none => { stores := detached, outcome := .failed (.invalidPayload "Route doesn't exist") }
  | some stored =>
    let deleted : Stores := { detached with routes := detached.routes.deleteHttpRoute routeKey }
    let route := Route.ofHTTPRoute h.config.isIpAddr stored
    let (updated, operations) :=
      if h.kind.patchesPools then deleted.updatePools h.config.controllerName poolGateways route.inferencePools
      else (deleted, [])
    { stores := updated
      sent := operations.map .poolPatcher ++
        [.patcher (.delete routeKey h.resource h.config.controllerName),
          .validator (.deleteRoute routeKey (extractReferences route))]
      outcome := .awaitChange }

/-! ## The handlers of the two kinds -/

/-- `on_new_or_changed` of the handlers of both kinds. -/
def handleNewOrChanged : Handled (KubeRoute M F) :=
  match h.resource.spec.parentRefs with
  | none => { stores := s, outcome := .failed (.invalidPayload "Route with no parents") }
  | some parentGatewayRefs => h.onNewOrChanged s parentGatewayRefs

/-- `on_deleted` of the handlers of both kinds. -/
def handleDeleted : Handled (KubeRoute M F) :=
  match h.resource.spec.parentRefs with
  | none =>
    { stores := s
      sent := [.patcher (.delete h.resourceKey h.resource h.config.controllerName)]
      outcome := .failed (.invalidPayload "Route with no parents") }
  | some parentGatewayRefs => h.onDeleted s parentGatewayRefs

/-- `check_spec` of both kinds. -/
def checkSpec [DecidableEq M] [DecidableEq F] (resource stored : KubeRoute M F) : ResourceState :=
  if resource.spec = stored.spec then .specNotChanged else .specChanged

/-- `check_status` of both kinds. -/
def checkRouteStatus (resource stored : KubeRoute M F) : ResourceState :=
  if resource.status = stored.status then .statusNotChanged else .statusChanged

/-- What the event means for the handler. -/
def resourceState [DecidableEq M] [DecidableEq F] : ResourceState :=
  checkStatus KubeRoute.metadata checkSpec checkRouteStatus h.resource (h.kind.stored s.routes h.resourceKey)

/-- `ResourceHandler::process`, for a route. -/
def process [DecidableEq M] [DecidableEq F] : Handled (KubeRoute M F) :=
  match h.resourceState s with
  | .versionNotChanged => { stores := s, outcome := .failed .alreadyAdded }
  | .specNotChanged =>
    { stores := { s with routes := h.kind.save s.routes h.resourceKey h.resource }, outcome := .failed .alreadyAdded }
  | .new | .specChanged => h.handleNewOrChanged s
  | .statusChanged => { stores := s, outcome := .awaitChange }
  | .statusNotChanged =>
    { stores := { s with routes := h.kind.maybeSave s.routes h.resourceKey h.resource }
      outcome := .failed .alreadyAdded }
  | .deleted => h.handleDeleted s

/-- `reconcile_http_route` and `reconcile_grpc_route`. -/
def reconcile [DecidableEq M] [DecidableEq F] : Handled (KubeRoute M F) :=
  match h.resource.metadata.uid with
  | none => { stores := s, outcome := .failed (.invalidPayload "Uid must be present") }
  | some uid =>
    if (h.config.parseUuid uid).isSome then h.process s
    else { stores := s, outcome := .failed (.invalidPayload "Uid in wrong format") }

end CommonRouteHandler

/-- `HTTPRouteHandler` for an object. -/
def httpRouteHandler (config : ControllerConfig) (resource : HTTPRoute) :
    CommonRouteHandler RouteMatch HttpRouteFilter where
  config := config
  kind := httpRouteKind config.isIpAddr
  resource := resource

/-- `GRPCRouteHandler` for an object. -/
def grpcRouteHandler (config : ControllerConfig) (resource : GRPCRoute) :
    CommonRouteHandler GrpcRouteMatch GrpcRouteFilter where
  config := config
  kind := grpcRouteKind config.isIpAddr
  resource := resource

end Kubvernor
