import Kubvernor.Control.GatewayNotices
import Kubvernor.Control.TrackedRoutes
import Kubvernor.Lib.Notices

/-!
# Deployments follow the routes

The controllers change the routes of gateways, each sends its requests to the reference validator while the others go
on, and the validator deploys a gateway with the routes that are linked to it at that time. `routeDeployments` steps
through this in any order, where one step is what a task does between two waits, and steps do not overlap: an event of
an object is taken when the handler of its last one is done; the controller of gateways may wait for a configuration
before it reads the stored gateway; a class is saved once more when its patch is answered; the handler of a route looks
a gateway up after the request for the one before is sent; the validator reads the routes of a gateway before it waits
to list them in a resolver, tells one resolver after the other of a request, and looks a gateway up again before it
reads its routes for the deploy request. Only the pools of a deleted route, one patch after the other in the source, are
written with its event: no deployment depends on them.

The system is a board of notices (`board`): gateways read their linked routes, the objects own the notices, the
validator lists the routes of a gateway in its two resolvers. Every orderly event of a controller tells what it changes
(`eventTold_reconcile`).
-/

namespace Kubvernor

open Lib

/-! ## The system -/

/-- Where the validator is with a request that it has taken: the resolver of Services is to be told, or has found
these gateways affected and the resolver of pools is to be told. The routes of a gateway that is added are read before
each resolver lists them. -/
inductive Handling
  | services (request : ReferenceValidateRequest)
  | listServices (ctx : RequestContext) (mapping : RouteToReferenceMapping)
  | pools (request : ReferenceValidateRequest) (affected : Std.ExtTreeSet GatewayKey)
  | listPools (ctx : RequestContext) (mapping : RouteToReferenceMapping)

/-- The stores of the controllers, the gateways whose configuration is there, what each controller has still to send
and to look up, and the reference validator with what it has still to do; and the routes that each gateway was last
deployed with. -/
structure RouteDeployments where
  stores : Stores := {}
  configuring : ResourceKey → Option (KubeGateway × GatewayImplementationType) := fun _ => none
  unsent : ResourceKey → List ReferenceValidateRequest := fun _ => []
  unannounced : ResourceKey → List KubeGateway := fun _ => []
  validateChannel : List ReferenceValidateRequest := []
  resolver : BackendReferenceResolver := {}
  handling : Option Handling := none
  todo : List Action := []
  deployed : GatewayKey → Option (List Route) := fun _ => none

/-- What happens: the controller of an object takes an event; the controller of gateways takes one and has to wait for
a configuration, or goes on when it is there; the patch of a class is answered; the gateway deployer saves a gateway it
has deployed; another task sends a request; a controller sends its next request; the handler of a route looks up its
next gateway; the validator takes a request, does what is next to tell a resolver of it, or does the next thing it has
to do. -/
inductive DeploymentsStep
  | reconcile (e : ReconcileEvent)
  | configure (g : KubeGateway) (configurations : Configurations)
  | configured (key : ResourceKey)
  | patched (c : GatewayClass)
  | save (g : KubeGateway)
  | notify (request : ReferenceValidateRequest)
  | send (key : ResourceKey)
  | announce (key : ResourceKey)
  | receive
  | track
  | work

namespace RouteDeployments

/-- The handler of the last event of an object is done. -/
def Idle (σ : RouteDeployments) (k : ResourceKey) : Prop :=
  σ.configuring k = none ∧ σ.unsent k = [] ∧ σ.unannounced k = []

instance (σ : RouteDeployments) (k : ResourceKey) : Decidable (σ.Idle k) := inferInstanceAs (Decidable (_ ∧ _ ∧ _))

/-- The validator reads the linked routes of a gateway, for the deploy request that it is about to send. -/
def deploy (isIpAddr : String → Bool) (σ : RouteDeployments) (key : GatewayKey) : RouteDeployments :=
  { σ with
    deployed := Function.update σ.deployed key (some (σ.stores.routes.findLinkedRoutes isIpAddr key)) }

/-- What the validator does next for a gateway; `none` where it panics. -/
def perform (config : ControllerConfig) (σ : RouteDeployments) : Action → Option RouteDeployments
  | .process ctx => some (σ.deploy config.isIpAddr ctx.gateway.resourceKey)
  | .redeploy key =>
    match σ.stores.state.getGateway key with
    | none => some σ
    | some g =>
      match Gateway.tryFrom config.parseUuid g .envoy with
      | .error _ => none
      | .ok gateway => some { σ with todo := .redeployAs g gateway :: σ.todo }
  | .redeployAs g gateway =>
    match σ.stores.state.getGatewayType gateway.resourceKey with
    | none => some σ
    | some t =>
      some { σ with
        todo := .process
          { gateway := { gateway with backendType := t }, kubeGateway := g
            gatewayClassName := g.spec.gatewayClassName } :: σ.todo }
  | _ => none

/-- The validator reads the routes that a resolver is to list for a gateway. -/
def mappingOf (isIpAddr : String → Bool) (σ : RouteDeployments) (references : Route → Std.ExtTreeSet ReferenceKey)
    (ctx : RequestContext) : RouteToReferenceMapping :=
  routeReferences references (σ.stores.routes.findLinkedRoutes isIpAddr ctx.gateway.resourceKey)

/-- What the validator does next to tell the resolvers of the request it has taken; `none` if a counter underflows. -/
def tell (isIpAddr : String → Bool) (σ : RouteDeployments) : Handling → Option RouteDeployments
  | .services (.addGateway ctx) =>
    some { σ with handling := some (.listServices ctx (σ.mappingOf isIpAddr Route.serviceReferences ctx)) }
  | .services request =>
    (σ.resolver.referenceResolver.track request).map fun p =>
    { σ with
      resolver := { σ.resolver with referenceResolver := p.1 }
      handling := some (.pools request p.2) }
  | .listServices ctx mapping =>
    (σ.resolver.referenceResolver.addReferencesForGateway ctx.gateway.resourceKey mapping).map fun s =>
    { σ with
      resolver := { σ.resolver with referenceResolver := s }
      handling := some (.pools (.addGateway ctx) ∅) }
  | .pools (.addGateway ctx) _ =>
    some { σ with handling := some (.listPools ctx (σ.mappingOf isIpAddr Route.inferencePoolReferences ctx)) }
  | .pools request affected =>
    (σ.resolver.inferencePoolReferenceResolver.track request).map fun p =>
    { σ with
      resolver := { σ.resolver with inferencePoolReferenceResolver := p.1 }
      handling := none
      todo := validateHandler (.ofList (affected.toList ++ p.2.toList)) request }
  | .listPools ctx mapping =>
    (σ.resolver.inferencePoolReferenceResolver.addReferencesForGateway ctx.gateway.resourceKey mapping).map fun s =>
    { σ with
      resolver := { σ.resolver with inferencePoolReferenceResolver := s }
      handling := none
      todo := validateHandler ∅ (.addGateway ctx) }

def step (config : ControllerConfig) (σ : RouteDeployments) : DeploymentsStep → Option RouteDeployments
  | .reconcile e =>
    if σ.Idle e.resourceKey then
      some { σ with
        stores := σ.stores.reconcile config e
        unsent := Function.update σ.unsent e.resourceKey (e.requests config σ.stores)
        unannounced := Function.update σ.unannounced e.resourceKey (e.announced config σ.stores) }
    else none
  | .configure g configurations =>
    if σ.Idle g.resourceKey then
      match configuredType config σ.stores g configurations with
      | .error _ => some σ
      | .ok t => some { σ with configuring := Function.update σ.configuring g.resourceKey (some (g, t)) }
    else none
  | .configured key =>
    match σ.configuring key, σ.unsent key, σ.unannounced key with
    | some (g, t), [], [] =>
      some { σ with
        stores := gatewayConfigured config σ.stores g t
        configuring := Function.update σ.configuring key none
        unsent := Function.update σ.unsent key (configuredRequests config σ.stores g t) }
    | _, _, _ => none
  | .patched c =>
    if c.resourceKey ∈ σ.stores.gatewayClasses then
      some { σ with stores := σ.stores.saveGatewayClass c.resourceKey c }
    else none
  | .save g => some { σ with stores := { σ.stores with state := σ.stores.state.saveGateway g.resourceKey g } }
  | .notify request =>
    match request with
    | .addRoute _ | .updatedGateways _ | .updatedRoutes _ =>
      some { σ with validateChannel := σ.validateChannel ++ [request] }
    | .addGateway _ | .deleteGateway _ | .deleteRoute _ => none
  | .send key =>
    match σ.unsent key with
    | [] => none
    | request :: rest =>
      some { σ with
        unsent := Function.update σ.unsent key rest
        validateChannel := σ.validateChannel ++ [request] }
  | .announce key =>
    match σ.unsent key, σ.unannounced key with
    | [], g :: rest =>
      match σ.stores.addGateways config.parseUuid [g] with
      | (requests, .awaitChange) =>
        some { σ with
          unsent := Function.update σ.unsent key (requests.map ValidateRequest.request)
          unannounced := Function.update σ.unannounced key rest }
      | (_, .panicked) => none
      | (_, .failed _) | (_, .requeue _) => some { σ with unannounced := Function.update σ.unannounced key [] }
    | _, _ => none
  | .receive =>
    match σ.handling, σ.todo, σ.validateChannel with
    | none, [], request :: rest => some { σ with validateChannel := rest, handling := some (.services request) }
    | _, _, _ => none
  | .track => σ.handling.bind (σ.tell config.isIpAddr)
  | .work =>
    match σ.todo with
    | [] => none
    | a :: rest => ({ σ with todo := rest } : RouteDeployments).perform config a

end RouteDeployments

/-- The controllers and the validator as a system. -/
def routeDeployments (config : ControllerConfig) : System RouteDeployments DeploymentsStep where
  init := {}
  step := RouteDeployments.step config

section Spec

variable {config : ControllerConfig} {σ σ' : RouteDeployments}

theorem step_reconcile {e : ReconcileEvent} : (routeDeployments config).step σ (.reconcile e) = some σ' ↔
    σ.Idle e.resourceKey ∧ σ' = { σ with
      stores := σ.stores.reconcile config e
      unsent := Function.update σ.unsent e.resourceKey (e.requests config σ.stores)
      unannounced := Function.update σ.unannounced e.resourceKey (e.announced config σ.stores) } := by
  simp only [routeDeployments, RouteDeployments.step]
  split_ifs with hidle
  · rw [Option.some.injEq, and_iff_right hidle, eq_comm]
  · exact iff_of_false (fun h => by cases h) fun hand => hidle hand.1

/-- A gateway waits for its configuration, or is turned down. -/
theorem step_configure {g : KubeGateway} {configurations : Configurations} :
    (routeDeployments config).step σ (.configure g configurations) = some σ' ↔
      σ.Idle g.resourceKey ∧ ((∃ e, configuredType config σ.stores g configurations = .error e ∧ σ' = σ) ∨
        ∃ t, configuredType config σ.stores g configurations = .ok t ∧
          σ' = { σ with configuring := Function.update σ.configuring g.resourceKey (some (g, t)) }) := by
  simp only [routeDeployments, RouteDeployments.step]
  split_ifs with hidle
  · rw [and_iff_right hidle]
    cases configuredType config σ.stores g configurations with
    | error e => simp [eq_comm]
    | ok t => simp [eq_comm]
  · exact iff_of_false (fun h => by cases h) fun hand => hidle hand.1

theorem step_configured {key : ResourceKey} : (routeDeployments config).step σ (.configured key) = some σ' ↔
    ∃ g t, σ.configuring key = some (g, t) ∧ σ.unsent key = [] ∧ σ.unannounced key = [] ∧ σ' = { σ with
      stores := gatewayConfigured config σ.stores g t
      configuring := Function.update σ.configuring key none
      unsent := Function.update σ.unsent key (configuredRequests config σ.stores g t) } := by
  simp only [routeDeployments, RouteDeployments.step]
  split
  · rename_i g t hconfiguring hunsent hunannounced
    rw [Option.some.injEq]
    constructor
    · rintro rfl
      exact ⟨g, t, hconfiguring, hunsent, hunannounced, rfl⟩
    · rintro ⟨g', t', hconfiguring', -, -, rfl⟩
      rw [hconfiguring] at hconfiguring'
      obtain ⟨rfl, rfl⟩ := Prod.mk.inj (Option.some.inj hconfiguring')
      rfl
  · rename_i hnot
    simp only [reduceCtorEq, false_iff]
    rintro ⟨g, t, hconfiguring, hunsent, hunannounced, -⟩
    exact hnot g t hconfiguring hunsent hunannounced

theorem step_patched {c : GatewayClass} : (routeDeployments config).step σ (.patched c) = some σ' ↔
    c.resourceKey ∈ σ.stores.gatewayClasses ∧
      σ' = { σ with stores := σ.stores.saveGatewayClass c.resourceKey c } := by
  simp only [routeDeployments, RouteDeployments.step]
  split_ifs with hstored
  · rw [Option.some.injEq, and_iff_right hstored, eq_comm]
  · exact iff_of_false (fun h => by cases h) fun hand => hstored hand.1

theorem step_send {key : ResourceKey} : (routeDeployments config).step σ (.send key) = some σ' ↔
    ∃ request rest, σ.unsent key = request :: rest ∧ σ' = { σ with
      unsent := Function.update σ.unsent key rest
      validateChannel := σ.validateChannel ++ [request] } := by
  simp only [routeDeployments, RouteDeployments.step]
  split
  · rename_i hnil
    simp [hnil]
  · rename_i request rest hcons
    simp only [hcons, Option.some.injEq, List.cons.injEq]
    constructor
    · intro h
      exact ⟨request, rest, ⟨rfl, rfl⟩, h.symm⟩
    · rintro ⟨_, _, ⟨rfl, rfl⟩, h⟩
      exact h.symm

/-- The handler of a route looks up its next gateway, and has a request for it or stops. -/
theorem step_announce {key : ResourceKey} : (routeDeployments config).step σ (.announce key) = some σ' ↔
    ∃ g rest, σ.unsent key = [] ∧ σ.unannounced key = g :: rest ∧
      ((∃ ctx, ctx.gateway.resourceKey = g.resourceKey ∧
          σ.stores.addGateways config.parseUuid [g] = ([.addGateway ctx], .awaitChange) ∧
          σ' = { σ with
            unsent := Function.update σ.unsent key [.addGateway ctx]
            unannounced := Function.update σ.unannounced key rest }) ∨
        (∃ e, σ.stores.addGateways config.parseUuid [g] = ([], .failed e) ∧
          σ' = { σ with unannounced := Function.update σ.unannounced key [] })) := by
  simp only [routeDeployments, RouteDeployments.step]
  split
  · rename_i g rest hunsent hunannounced
    simp only [hunsent, hunannounced, List.cons.injEq, true_and]
    rcases σ.stores.addGateways_round config.parseUuid g with ⟨ctx, hround, hkey⟩ | ⟨e, hround⟩ | ⟨hround, -⟩
    · simp only [hround, Option.some.injEq]
      constructor
      · rintro rfl
        exact ⟨g, rest, ⟨rfl, rfl⟩, .inl ⟨ctx, hkey, hround, rfl⟩⟩
      · rintro ⟨_, _, ⟨rfl, rfl⟩, ⟨ctx', -, hround', rfl⟩ | ⟨e, hround', -⟩⟩
        · rw [hround] at hround'
          obtain ⟨heq, -⟩ := Prod.mk.inj hround'
          obtain rfl := ValidateRequest.addGateway.inj (List.cons.inj heq).1
          rfl
        · rw [hround] at hround'
          cases hround'
    · simp only [hround, Option.some.injEq]
      constructor
      · rintro rfl
        exact ⟨g, rest, ⟨rfl, rfl⟩, .inr ⟨e, hround, rfl⟩⟩
      · rintro ⟨_, _, ⟨rfl, rfl⟩, ⟨ctx', -, hround', -⟩ | ⟨e, hround', rfl⟩⟩
        · rw [hround] at hround'
          cases hround'
        · rfl
    · simp only [hround, reduceCtorEq, false_iff]
      rintro ⟨_, _, ⟨rfl, rfl⟩, ⟨ctx', -, hround', -⟩ | ⟨e, hround', -⟩⟩
      · rw [hround] at hround'
        cases hround'
      · rw [hround] at hround'
        cases hround'
  · rename_i hnot
    simp only [reduceCtorEq, false_iff]
    rintro ⟨g, rest, hunsent, hunannounced, -⟩
    exact hnot g rest hunsent hunannounced

theorem step_receive : (routeDeployments config).step σ .receive = some σ' ↔
    σ.handling = none ∧ σ.todo = [] ∧ ∃ request rest, σ.validateChannel = request :: rest ∧
      σ' = { σ with validateChannel := rest, handling := some (.services request) } := by
  simp only [routeDeployments, RouteDeployments.step]
  split
  · rename_i request rest hhandling htodo hch
    simp only [hhandling, htodo, hch, true_and, Option.some.injEq, List.cons.injEq]
    constructor
    · rintro rfl
      exact ⟨request, rest, ⟨rfl, rfl⟩, rfl⟩
    · rintro ⟨_, _, ⟨rfl, rfl⟩, rfl⟩
      rfl
  · rename_i hnot
    simp only [reduceCtorEq, false_iff]
    rintro ⟨hhandling, htodo, request, rest, hch, -⟩
    exact hnot request rest hhandling htodo hch

theorem step_track : (routeDeployments config).step σ .track = some σ' ↔
    ∃ handling, σ.handling = some handling ∧ σ.tell config.isIpAddr handling = some σ' := Option.bind_eq_some_iff

theorem step_work : (routeDeployments config).step σ .work = some σ' ↔
    ∃ a rest, σ.todo = a :: rest ∧ ({ σ with todo := rest } : RouteDeployments).perform config a = some σ' := by
  simp only [routeDeployments, RouteDeployments.step]
  split
  · rename_i hnil
    simp [hnil]
  · rename_i a rest hcons
    simp only [hcons, List.cons.injEq]
    constructor
    · intro h
      exact ⟨a, rest, ⟨rfl, rfl⟩, h⟩
    · rintro ⟨_, _, ⟨rfl, rfl⟩, h⟩
      exact h

end Spec

/-- What is assumed of the steps: events are orderly, and the answer to the patch of a class has a name; a gateway that
the deployer saves is stored, converts and has a known class; and where the handler of a route does not find the next
gateway, none of those it has still to announce the route to is stored. -/
def DeploymentsStep.Orderly (config : ControllerConfig) (σ : RouteDeployments) : DeploymentsStep → Prop
  | .reconcile e => e.Orderly config σ.stores
  | .configure g configurations => (ReconcileEvent.gateway g configurations).Orderly config σ.stores
  | .patched c => c.metadata.name.isSome
  | .save g => g.resourceKey ∈ σ.stores.state.gateways ∧ Converts config.parseUuid g ∧
      σ.stores.KnowsClass g.spec.gatewayClassName
  | .announce key => (σ.stores.addGateways config.parseUuid ((σ.unannounced key).take 1)).2 ≠ .awaitChange →
      ∀ g ∈ σ.unannounced key, g.resourceKey ∉ σ.stores.state.gateways
  | .configured _ | .notify _ | .send _ | .receive | .track | .work => True

/-! ## The board -/

/-- What a request tells the validator. -/
def ReferenceValidateRequest.notice : ReferenceValidateRequest → Notice GatewayKey RouteKey
  | .addGateway ctx => .refresh ctx.gateway.resourceKey
  | .deleteRoute routeKey => .gone routeKey
  | .deleteGateway gateway => .forget gateway.resourceKey
  | .addRoute _ | .updatedGateways _ | .updatedRoutes _ => .other

/-- What is still to be told by these requests, and by the requests for these gateways. -/
def notices (requests : List ReferenceValidateRequest) (gateways : List KubeGateway) :
    List (Notice GatewayKey RouteKey) :=
  requests.map (·.notice) ++ gateways.map fun g => .refresh g.resourceKey

/-- The notice that the validator is at, until both resolvers are told of it or are about to be. -/
def Handling.notice? : Handling → Option (Notice GatewayKey RouteKey)
  | .services request | .pools request _ => some request.notice
  | .listServices ctx _ => some (.refresh ctx.gateway.resourceKey)
  | .listPools _ _ => none

/-- The gateways that are to be done for the request, as far as they are found. -/
def Handling.affected : Handling → List GatewayKey
  | .pools (.deleteRoute _) affected => affected.toList
  | .listPools ctx _ => [ctx.gateway.resourceKey]
  | _ => []

/-- The gateway that an action of the validator is about. -/
def Action.target? : Action → Option GatewayKey
  | .process ctx => some ctx.gateway.resourceKey
  | .redeploy key => some key
  | .redeployAs _ gateway => some gateway.resourceKey
  | _ => none

/-- How many steps the validator takes for an action and what it becomes. -/
def Action.steps : Action → ℕ
  | .redeploy _ => 3
  | .redeployAs _ _ => 2
  | _ => 1

namespace RouteDeployments

variable (isIpAddr : String → Bool) (σ : RouteDeployments)

/-- The resolvers with the routes that have been read for the second of them. -/
def listing : BackendReferenceResolver :=
  match σ.handling with
  | some (.listPools ctx mapping) =>
    match σ.resolver.inferencePoolReferenceResolver.addReferencesForGateway ctx.gateway.resourceKey mapping with
    | some pools => { σ.resolver with inferencePoolReferenceResolver := pools }
    | none => σ.resolver
  | _ => σ.resolver

/-- Gateways read their linked routes, and every object owns what is told of it. A request that the validator is at
is the first in the channel until the second resolver is told of it, or has read what it lists. -/
def board : Board ResourceKey GatewayKey RouteKey (List Route) where
  live g := g ∈ σ.stores.state.gateways
  reads g := σ.stores.routes.findLinkedRoutes isIpAddr g
  has g r := σ.stores.routes.Linked g r
  unsent k := notices (σ.unsent k) (σ.unannounced k)
  channel := (σ.handling.bind Handling.notice?).toList ++ σ.validateChannel.map (·.notice)
  listed g r := σ.listing.Lists g r
  todo := (σ.handling.map Handling.affected).getD [] ++ σ.todo.filterMap Action.target?
  copy g := σ.deployed g

end RouteDeployments

section Notices

variable {requests : List ReferenceValidateRequest} {gateways : List KubeGateway} {g : GatewayKey} {r : RouteKey}

theorem notice_eq_gone {q : ReferenceValidateRequest} : q.notice = .gone r ↔ q = .deleteRoute r := by
  cases q <;> simp [ReferenceValidateRequest.notice]

theorem notice_eq_forget {q : ReferenceValidateRequest} :
    q.notice = .forget g ↔ ∃ gateway, q = .deleteGateway gateway ∧ gateway.resourceKey = g := by
  cases q <;> simp [ReferenceValidateRequest.notice]

theorem refresh_mem_announced (h : g ∈ gateways.map (·.resourceKey)) : .refresh g ∈ notices requests gateways := by
  obtain ⟨kg, hkg, rfl⟩ := List.mem_map.1 h
  exact List.mem_append_right _ (List.mem_map.2 ⟨kg, hkg, rfl⟩)

theorem refresh_mem_requests {ctx : RequestContext} (h : .addGateway ctx ∈ requests) :
    .refresh ctx.gateway.resourceKey ∈ notices requests gateways :=
  List.mem_append_left _ (List.mem_map.2 ⟨_, h, rfl⟩)

theorem gone_mem : .gone r ∈ notices requests gateways ↔ .deleteRoute r ∈ requests := by
  simp [notices, notice_eq_gone]

theorem forget_mem : .forget g ∈ notices requests gateways ↔
    ∃ gateway, .deleteGateway gateway ∈ requests ∧ gateway.resourceKey = g := by
  simp only [notices, List.mem_append, List.mem_map, notice_eq_forget, reduceCtorEq, and_false, exists_false, or_false]
  constructor
  · rintro ⟨q, hq, gateway, rfl, hkey⟩
    exact ⟨gateway, hq, hkey⟩
  · rintro ⟨gateway, hgateway, hkey⟩
    exact ⟨_, hgateway, gateway, rfl, hkey⟩

end Notices

/-! ## Events -/

/-- What an event of the object `k` changes is told of by these notices. -/
structure Stores.EventTold (isIpAddr : String → Bool) (k : ResourceKey) (s s' : Stores)
    (notices : List (Notice GatewayKey RouteKey)) : Prop where
  told : ∀ g ∈ s'.state.gateways, .refresh g ∈ notices ∨
    (g ∈ s.state.gateways ∧ (∀ r, s'.routes.Linked g r → s.routes.Linked g r) ∧
      (s'.routes.findLinkedRoutes isIpAddr g = s.routes.findLinkedRoutes isIpAddr g ∨
        ∃ r, s.routes.Linked g r ∧ .gone r ∈ notices))
  came : ∀ g ∈ s'.state.gateways, g ∉ s.state.gateways → g = k
  gained : ∀ g r, s'.routes.Linked g r → ¬ s.routes.Linked g r → r = k
  gone : ∀ r, .gone r ∈ notices → r = k ∧ ∀ g, ¬ s'.routes.Linked g r
  forgotten : ∀ g, .forget g ∈ notices → g = k ∧ g ∉ s'.state.gateways

section Events

variable {config : ControllerConfig} {s s' : Stores} {k : ResourceKey} {isIpAddr : String → Bool}
  {requests : List ReferenceValidateRequest} {announced : List KubeGateway}

/-- Where routes and gateways are the same, there is nothing to tell. -/
theorem Stores.EventTold.of_same (hroutes : s'.routes = s.routes) (hgateways : s'.state.gateways = s.state.gateways) :
    s.EventTold isIpAddr k s' (notices [] []) := by
  refine ⟨fun g hg => .inr ?_, fun g hg hnot => ?_, fun g r hr hnot => ?_, by simp [notices], by simp [notices]⟩
  · rw [hroutes, ← hgateways]
    exact ⟨hg, fun _ => id, .inl rfl⟩
  · rw [hgateways] at hg
    exact absurd hg hnot
  · rw [hroutes] at hr
    exact absurd hr hnot

theorem Stores.RouteTold.eventTold (h : s.RouteTold isIpAddr k s' requests announced)
    (hgateways : s'.state.gateways = s.state.gateways) : s.EventTold isIpAddr k s' (notices requests announced) := by
  refine ⟨fun g hg => ?_, fun g hg hnot => ?_, fun g r hr hnot => ?_, fun r hr => ?_, fun g hg => ?_⟩
  · rw [hgateways] at hg
    rcases h.told g hg with hrefresh | halike | ⟨hlinked, hgone⟩
    · exact .inl (refresh_mem_announced hrefresh)
    · refine .inr ⟨hg, fun r hr => ?_, .inl (h.beside.findLinkedRoutes_eq halike)⟩
      by_cases hk : r = k
      · rw [hk] at hr ⊢
        exact halike.linked.1 hr
      · exact (h.beside.linked hk).1 hr
    · refine .inr ⟨hg, fun r hr => ?_, .inr ⟨k, hlinked, gone_mem.2 hgone⟩⟩
      by_cases hk : r = k
      · rw [hk] at hr
        exact absurd hr ((h.gone k hgone).2 g)
      · exact (h.beside.linked hk).1 hr
  · rw [hgateways] at hg
    exact absurd hg hnot
  · by_contra hk
    exact hnot ((h.beside.linked hk).1 hr)
  · obtain ⟨rfl, hnone⟩ := h.gone r (gone_mem.1 hr)
    exact ⟨rfl, hnone⟩
  · obtain ⟨gateway, hq, -⟩ := forget_mem.1 hg
    exact absurd hq (h.kept gateway)

theorem GatewayMoved.eventTold {g : KubeGateway} (h : GatewayMoved config s g s' requests) :
    s.EventTold isIpAddr g.resourceKey s' (notices requests []) := by
  have hsaved {k' : GatewayKey} (hk' : k' ∈ (s.state.saveGateway g.resourceKey g).gateways) :
      k' = g.resourceKey ∨ k' ∈ s.state.gateways := mem_insert_iff.1 hk'
  cases h with
  | same => exact .of_same rfl rfl
  | saved hstored hknown hdel =>
    have hstays {k' : GatewayKey} (hk' : k' ∈ (s.state.saveGateway g.resourceKey g).gateways) :
        k' ∈ s.state.gateways := (hsaved hk').elim (fun heq => heq ▸ hstored) id
    exact ⟨fun k' hk' => .inr ⟨hstays hk', fun _ => id, .inl rfl⟩, fun k' hk' hnot => absurd (hstays hk') hnot,
      fun _ _ hr hnot => absurd hr hnot, by simp [notices], by simp [notices]⟩
  | changed t ctx hkey hstored =>
    exact ⟨fun k' hk' => .inr ⟨hk', fun _ => id, .inl rfl⟩, fun k' hk' hnot => absurd hk' hnot,
      fun _ _ hr hnot => absurd hr hnot, by simp [gone_mem], by simp [forget_mem]⟩
  | new t ctx hkey hknown hdel =>
    refine ⟨fun k' hk' => ?_, fun k' hk' hnot => (hsaved hk').resolve_right hnot, fun _ _ hr hnot => absurd hr hnot,
      by simp [gone_mem], by simp [forget_mem]⟩
    rcases hsaved hk' with rfl | hold
    · rw [← hkey]
      exact .inl (refresh_mem_requests (List.mem_singleton_self _))
    · exact .inr ⟨hold, fun _ => id, .inl rfl⟩
  | deleted requests honly =>
    have hstays {k' : GatewayKey} (hk' : k' ∈ s.state.gateways.erase g.resourceKey) : k' ∈ s.state.gateways :=
      Std.ExtTreeMap.mem_of_mem_erase hk'
    refine ⟨fun k' hk' => .inr ⟨hstays hk', fun _ => id, .inl rfl⟩, fun k' hk' hnot => absurd (hstays hk') hnot,
      fun _ _ hr hnot => absurd hr hnot, fun r hr => ?_, fun k' hk' => ?_⟩
    · obtain ⟨_, heq, -⟩ := honly _ (gone_mem.1 hr)
      cases heq
    · obtain ⟨gateway, hq, rfl⟩ := forget_mem.1 hk'
      obtain ⟨_, heq, hkey⟩ := honly _ hq
      obtain rfl := ReferenceValidateRequest.deleteGateway.inj heq
      refine ⟨hkey, ?_⟩
      show gateway.resourceKey ∉ s.state.gateways.erase g.resourceKey
      rw [hkey]
      simp

/-- **Every orderly event tells what it changes**, or is still to announce it. -/
theorem eventTold_reconcile {e : ReconcileEvent} (hs : s.Sound config) (he : e.Orderly config s) :
    s.EventTold config.isIpAddr e.resourceKey (s.reconcile config e)
      (notices (e.requests config s) (e.announced config s)) := by
  have hother := sameBut_reconcile config e hs.wellKeyed
  cases e with
  | gatewayClass c answer =>
    change s.SameBut "GatewayClass" _ at hother
    exact .of_same (routes_reconcile_gatewayClass hs.wellKeyed) (hother.gateways (by decide))
  | gateway g configurations => exact (gatewayMoved_reconcile s configurations he).eventTold
  | httpRoute r =>
    change s.SameBut "HTTPRoute" _ at hother
    exact (CommonRouteHandler.told_reconcile httpRouteKind_lawful httpRouteKind_savesOne hs he).eventTold
      (hother.gateways (by decide))
  | grpcRoute r =>
    change s.SameBut "GRPCRoute" _ at hother
    exact (CommonRouteHandler.told_reconcile grpcRouteKind_lawful grpcRouteKind_savesOne hs he).eventTold
      (hother.gateways (by decide))

/-- The gateways that a route is to be announced to are stored. -/
theorem announced_stored {e : ReconcileEvent} (hs : s.Sound config) (he : e.Orderly config s) :
    ∀ g ∈ e.announced config s, s.state.getGateway g.resourceKey = some g := by
  cases e with
  | gatewayClass c answer => exact fun g hg => absurd hg List.not_mem_nil
  | gateway g configurations => exact fun g hg => absurd hg List.not_mem_nil
  | httpRoute r => exact (CommonRouteHandler.told_reconcile httpRouteKind_lawful httpRouteKind_savesOne hs he).stored
  | grpcRoute r => exact (CommonRouteHandler.told_reconcile grpcRouteKind_lawful grpcRouteKind_savesOne hs he).stored

end Events

end Kubvernor
