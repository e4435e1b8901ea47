import Kubvernor.Control.RouteMoves

/-!
# The controllers on one state

The controllers of gateway classes, gateways, HTTP routes and GRPC routes are given the objects that have
changed and write to one state. `controllers` steps through their events; beside the stores it keeps the
keys whose last event was not a deletion, which no controller reads.

Each store has the keys of its own kind (`Stores.WellKeyed`), and what an event may do to the stores is said
once for each controller (`classMove`, `gatewayMove`, `CommonRouteHandler.sameBut_process`).
-/

namespace Kubvernor

open Lib

/-! ## Gateway classes -/

namespace GatewayClass

/-- `update_status_conditions`. -/
def updateStatusConditions (c : GatewayClass) : GatewayClass :=
  { c with
    status := some
      { conditions := some
          [{ type := "Accepted", status := "True", reason := "AcceptedByController"
             message := "Updated by controller", observedGeneration := c.metadata.generation }] } }

/-- `check_spec`. -/
def checkSpec (resource stored : GatewayClass) : ResourceState :=
  if resource.spec = stored.spec then .specNotChanged else .specChanged

/-- `check_status`. -/
def checkClassStatus (resource stored : GatewayClass) : ResourceState :=
  if resource.status = stored.status then .statusNotChanged else .statusChanged

end GatewayClass

/-- `save_gateway_class`. -/
def Stores.saveGatewayClass (s : Stores) (id : ResourceKey) (c : GatewayClass) : Stores :=
  { s with gatewayClasses := s.gatewayClasses.insert id c }

/-- `GatewayClassResourceHandler`. -/
structure GatewayClassResourceHandler where
  controllerName : String
  resource : GatewayClass

namespace GatewayClassResourceHandler

variable (h : GatewayClassResourceHandler) (s : Stores)

/-- `on_new_or_changed`; `answer` is what the API server makes of the patch. -/
def onNewOrChanged (answer : Option GatewayClass) : Handled GatewayClass :=
  let id := h.resource.resourceKey
  let saved := s.saveGatewayClass id h.resource
  { stores :=
      match answer with
      | some patched => saved.saveGatewayClass id patched
      | none => saved
    sent := [.patcher (.patchStatus id h.resource.updateStatusConditions h.controllerName)]
    outcome := .requeue RECONCILE_LONG_WAIT }

/-- `on_deleted`, which deletes a gateway of this key and its type. -/
def onDeleted : Handled GatewayClass :=
  let id := h.resource.resourceKey
  { stores := { s with state := (s.state.deleteGateway id).deleteGatewayType id }
    sent := [.patcher (.delete id h.resource h.controllerName)]
    outcome := .requeue RECONCILE_LONG_WAIT }

/-- `ResourceHandler::process`, for a gateway class. -/
def process (answer : Option GatewayClass) : Handled GatewayClass :=
  match checkStatus GatewayClass.metadata GatewayClass.checkSpec GatewayClass.checkClassStatus h.resource
    s.gatewayClasses[h.resource.resourceKey]? with
  | .new | .specChanged => h.onNewOrChanged s answer
  | .specNotChanged =>
    { stores := s.saveGatewayClass h.resource.resourceKey h.resource, outcome := .failed .alreadyAdded }
  | .deleted => h.onDeleted s
  | .versionNotChanged | .statusChanged | .statusNotChanged => { stores := s, outcome := .failed .alreadyAdded }

end GatewayClassResourceHandler

section Reconcile

variable (config : ControllerConfig) (s : Stores)

/-- `reconcile_gateway_class`. -/
def reconcileGatewayClass (resource : GatewayClass) (answer : Option GatewayClass) : Handled GatewayClass :=
  match resource.metadata.uid with
  | none => { stores := s, outcome := .failed (.invalidPayload "Uid must be present") }
  | some uid =>
    if (config.parseUuid uid).isNone then
      { stores := s, outcome := .failed (.invalidPayload "Uid in wrong format") }
    else if config.controllerName ≠ resource.spec.controllerName then
      { stores := s, outcome := .failed .invalidRecipent }
    else ({ controllerName := resource.spec.controllerName, resource := resource } :
      GatewayClassResourceHandler).process s answer

/-! ## Gateways -/

/-- `GatewayImplementationType::try_from`. -/
def GatewayImplementationType.tryFrom : Option String → Option GatewayImplementationType
  | some "agentgateway" => some .agentgateway
  | some "orion" => some .orion
  | some "envoy" | none => some .envoy
  | some _ => none

/-- The backend types in the `KubvernorConfig`s of the API server, by namespace and name. -/
abbrev Configurations := String → String → Option (Option String)

/-- The class lookup of `reconcile_gateway`: the type a gateway is configured with. -/
def backendTypeOf (configurations : Configurations) (resource : KubeGateway) :
    Except ControllerError GatewayImplementationType :=
  match (s.gatewayClasses.toList.map (·.2)).find? fun gc => gc.metadata.name = some resource.spec.gatewayClassName with
  | none => .error (.unknownGatewayClass resource.spec.gatewayClassName)
  | some gatewayClass =>
    match gatewayClass.spec.parametersRef with
    | none => .ok .envoy
    | some configReference =>
      match configurations resource.resourceKey.ns configReference.name with
      | none => .error (.invalidPayload "Unable to find KubernorConfig")
      | some backendtype =>
        match GatewayImplementationType.tryFrom backendtype with
        | none => .error (.invalidPayload "Invalid backend type")
        | some t => .ok t

/-- `reconcile_gateway`: what its handler does, or why the gateway is turned down. -/
def reconcileGateway (resource : KubeGateway) (configurations : Configurations) :
    Except ControllerError (List Action) :=
  match resource.metadata.name, resource.metadata.uid with
  | none, _ => .error (.invalidPayload "Resource name is not provided")
  | some _, none => .error (.invalidPayload "Uid must be present")
  | some _, some uid =>
    if (config.parseUuid uid).isNone then .error (.invalidPayload "Uid in wrong format")
    else
      (backendTypeOf s configurations resource).map fun t =>
        gatewayHandler resource.resourceKey resource t
          (checkStatus KubeGateway.metadata checkSpecChanged checkStatusChanged resource
            (s.state.getGateway resource.resourceKey))

/-- What an action of the handler of gateways writes. -/
def Stores.write (config : ControllerConfig) (s : Stores) : Action → Stores
  | .saveGateway _ key g => { s with state := s.state.saveGateway key g }
  | .maybeSaveGateway key g => { s with state := s.state.maybeSaveGateway key g }
  | .newOrChanged g t =>
    match Gateway.tryFrom config.parseUuid g t with
    | .error _ => s
    | .ok gateway => { s with state := s.state.saveGatewayType gateway.resourceKey t }
  | .deleteGateway key => { s with state := s.state.deleteGateway key }
  | .deleteGatewayType key _ => { s with state := s.state.deleteGatewayType key }
  | _ => s

/-- The stores once a gateway is reconciled. -/
def gatewayReconciled (resource : KubeGateway) (configurations : Configurations) : Stores :=
  match reconcileGateway config s resource configurations with
  | .error _ => s
  | .ok actions => actions.foldl (Stores.write config) s

end Reconcile

/-! ## The system -/

/-- What the controllers are given: an object that has changed, with what the API server answers meanwhile. A
patch is answered with the object of the patched key. -/
inductive ReconcileEvent
  | gatewayClass (resource : GatewayClass)
      (answer : Option { patched : GatewayClass // patched.resourceKey = resource.resourceKey })
  | gateway (resource : KubeGateway) (configurations : Configurations)
  | httpRoute (resource : HTTPRoute)
  | grpcRoute (resource : GRPCRoute)

namespace ReconcileEvent

def metadata : ReconcileEvent → ObjectMeta
  | .gatewayClass resource _ => resource.metadata
  | .gateway resource _ => resource.metadata
  | .httpRoute resource => resource.metadata
  | .grpcRoute resource => resource.metadata

def kind : ReconcileEvent → String
  | .gatewayClass .. => "GatewayClass"
  | .gateway .. => "Gateway"
  | .httpRoute _ => "HTTPRoute"
  | .grpcRoute _ => "GRPCRoute"

/-- The key of the object. -/
def resourceKey (e : ReconcileEvent) : ResourceKey := e.metadata.resourceKey e.kind

end ReconcileEvent

/-- The stores, and the objects whose last event was not their deletion. -/
structure Reconciled where
  stores : Stores := {}
  live : Std.ExtTreeSet ResourceKey := ∅

/-- What the controller of the object leaves in the stores. -/
def Stores.reconcile (config : ControllerConfig) (s : Stores) : ReconcileEvent → Stores
  | .gatewayClass resource answer => (reconcileGatewayClass config s resource (answer.map (·.1))).stores
  | .gateway resource configurations => gatewayReconciled config s resource configurations
  | .httpRoute resource => ((httpRouteHandler config resource).reconcile s).stores
  | .grpcRoute resource => ((grpcRouteHandler config resource).reconcile s).stores

/-- The controllers as a system. -/
def controllers (config : ControllerConfig) : System Reconciled ReconcileEvent where
  init := {}
  step σ e := some
    { stores := σ.stores.reconcile config e
      live := if e.metadata.IsDeletion then σ.live.erase e.resourceKey else σ.live.insert e.resourceKey }

/-! ## Keys and kinds -/

namespace Stores

/-- Objects are stored under the keys of their kinds. -/
structure WellKeyed (s : Stores) : Prop where
  classes : ∀ (k : ResourceKey) (c : GatewayClass), s.gatewayClasses[k]? = some c → c.resourceKey = k
  gateways : ∀ k ∈ s.state.gateways, k.kind = "Gateway"
  types : ∀ k ∈ s.state.gatewayImplementationTypes, k.kind = "Gateway"
  routes : s.routes.Keyed

/-- The stores of the other kinds are the same. -/
structure SameBut (kind : String) (s s' : Stores) : Prop where
  classes : kind ≠ "GatewayClass" → s'.gatewayClasses = s.gatewayClasses
  gateways : kind ≠ "Gateway" → s'.state.gateways = s.state.gateways
  types : kind ≠ "Gateway" → s'.state.gatewayImplementationTypes = s.state.gatewayImplementationTypes
  http : kind ≠ "HTTPRoute" → s'.routes.httpRoutes = s.routes.httpRoutes
  grpc : kind ≠ "GRPCRoute" → s'.routes.grpcRoutes = s.routes.grpcRoutes

variable {s s' : Stores} {kind : String}

theorem SameBut.refl (kind : String) (s : Stores) : s.SameBut kind s :=
  ⟨fun _ => rfl, fun _ => rfl, fun _ => rfl, fun _ => rfl, fun _ => rfl⟩

theorem SameBut.trans {s'' : Stores} (h : s.SameBut kind s') (h' : s'.SameBut kind s'') : s.SameBut kind s'' :=
  ⟨fun hk => (h'.classes hk).trans (h.classes hk), fun hk => (h'.gateways hk).trans (h.gateways hk),
    fun hk => (h'.types hk).trans (h.types hk), fun hk => (h'.http hk).trans (h.http hk),
    fun hk => (h'.grpc hk).trans (h.grpc hk)⟩

theorem SameObjects.sameBut (h : s.SameObjects s') : s.SameBut kind s' :=
  ⟨fun _ => h.classes, fun _ => h.gateways, fun _ => h.types, fun _ => h.http, fun _ => h.grpc⟩

theorem WellKeyed.init : ({} : Stores).WellKeyed where
  classes k c h := by simp at h
  gateways k hk := absurd hk (by simp)
  types k hk := absurd hk (by simp)
  routes := ⟨fun k hk => absurd hk (by simp), fun k hk => absurd hk (by simp)⟩

end Stores

/-! ## Gateway classes move -/

section Class

variable {config : ControllerConfig} {s : Stores} {c : GatewayClass}
  {answer : Option { patched : GatewayClass // patched.resourceKey = c.resourceKey }}

/-- A deletion of a gateway class changes nothing: there is no gateway of its key. -/
theorem stores_onDeleted (h : GatewayClassResourceHandler) (hs : s.WellKeyed) : (h.onDeleted s).stores = s := by
  have hkind : h.resource.resourceKey.kind = "GatewayClass" := rfl
  have hgateways : s.state.gateways[h.resource.resourceKey]? = none := by
    rw [getElem?_eq_none_iff]
    intro hmem
    have hgateway := hs.gateways _ hmem
    rw [hkind] at hgateway
    exact absurd hgateway (by decide)
  have htypes : s.state.gatewayImplementationTypes[h.resource.resourceKey]? = none := by
    rw [getElem?_eq_none_iff]
    intro hmem
    have hgateway := hs.types _ hmem
    rw [hkind] at hgateway
    exact absurd hgateway (by decide)
  unfold GatewayClassResourceHandler.onDeleted State.deleteGateway State.deleteGatewayType
  simp only [Lib.erase_of_none hgateways, Lib.erase_of_none htypes]

theorem classState_eq_deleted_iff {stored : Option GatewayClass} :
    checkStatus GatewayClass.metadata GatewayClass.checkSpec GatewayClass.checkClassStatus c stored = .deleted ↔
      c.metadata.IsDeletion := by
  refine checkStatus_eq_deleted_iff (fun r r' => ?_) fun r r' => ?_
  · unfold GatewayClass.checkSpec
    split_ifs <;> exact ResourceState.noConfusion
  · unfold GatewayClass.checkClassStatus
    split_ifs <;> exact ResourceState.noConfusion

/-- What `onNewOrChanged` saves: the class, and the one the API server answers with. -/
theorem stores_onNewOrChanged_class (h : GatewayClassResourceHandler) (s : Stores)
    (answer : Option { patched : GatewayClass // patched.resourceKey = h.resource.resourceKey }) :
    ∃ saved : List GatewayClass, (∀ c' ∈ saved, c'.resourceKey = h.resource.resourceKey) ∧
      (h.onNewOrChanged s (answer.map (·.1))).stores =
        { s with gatewayClasses := saved.foldl (fun m c' => m.insert h.resource.resourceKey c') s.gatewayClasses } := by
  cases answer with
  | none =>
    refine ⟨[h.resource], ?_, rfl⟩
    rintro c' hc'
    rw [List.mem_singleton.1 hc']
  | some patched =>
    refine ⟨[h.resource, patched.1], ?_, rfl⟩
    rintro c' hc'
    rcases List.mem_pair.1 hc' with rfl | rfl
    · rfl
    · exact patched.2

/-- **A gateway class stays or is saved**; its deletion changes nothing. -/
theorem classMove (config : ControllerConfig)
    (answer : Option { patched : GatewayClass // patched.resourceKey = c.resourceKey }) (hs : s.WellKeyed) :
    (reconcileGatewayClass config s c (answer.map (·.1))).stores = s ∨
    (¬ c.metadata.IsDeletion ∧ ∃ saved : List GatewayClass, (∀ c' ∈ saved, c'.resourceKey = c.resourceKey) ∧
      (reconcileGatewayClass config s c (answer.map (·.1))).stores =
        { s with gatewayClasses := saved.foldl (fun m c' => m.insert c.resourceKey c') s.gatewayClasses }) := by
  unfold reconcileGatewayClass
  cases c.metadata.uid with
  | none => exact .inl rfl
  | some uid =>
    simp only
    split_ifs with huid hname
    · exact .inl rfl
    · exact .inl rfl
    · unfold GatewayClassResourceHandler.process
      simp only
      have hdeleted := @classState_eq_deleted_iff c s.gatewayClasses[c.resourceKey]?
      generalize checkStatus GatewayClass.metadata GatewayClass.checkSpec GatewayClass.checkClassStatus c
        s.gatewayClasses[c.resourceKey]? = state at hdeleted
      cases state with
      | deleted => exact .inl (stores_onDeleted _ hs)
      | versionNotChanged | statusChanged | statusNotChanged => exact .inl rfl
      | specNotChanged =>
        refine .inr ⟨fun hdel => ResourceState.noConfusion (hdeleted.2 hdel), [c], ?_, rfl⟩
        rintro c' hc'
        rw [List.mem_singleton.1 hc']
      | new | specChanged =>
        exact .inr ⟨fun hdel => ResourceState.noConfusion (hdeleted.2 hdel),
          stores_onNewOrChanged_class ⟨c.spec.controllerName, c⟩ s answer⟩

/-- The routes are not touched. -/
theorem routes_reconcile_gatewayClass (hs : s.WellKeyed) :
    (s.reconcile config (.gatewayClass c answer)).routes = s.routes := by
  show (reconcileGatewayClass config s c (answer.map (·.1))).stores.routes = s.routes
  rcases classMove config answer hs with hsame | ⟨-, saved, -, hsaved⟩
  · rw [hsame]
  · rw [hsaved]

end Class

/-! ## Gateways move -/

/-- Nothing but the gateway of this key and its type is written. -/
structure Stores.GatewayWritten (key : GatewayKey) (s s' : Stores) : Prop where
  routes : s'.routes = s.routes
  classes : s'.gatewayClasses = s.gatewayClasses
  gateways : ∀ k ∈ s'.state.gateways, k = key ∨ k ∈ s.state.gateways
  types : ∀ k ∈ s'.state.gatewayImplementationTypes, k = key ∨ k ∈ s.state.gatewayImplementationTypes

/-- An action writes nothing but the gateway of this key and its type. -/
def Action.WritesAt (key : GatewayKey) : Action → Prop
  | .saveGateway _ k _ | .maybeSaveGateway k _ | .deleteGateway k | .deleteGatewayType k _ => k = key
  | .newOrChanged g _ => g.resourceKey = key
  | _ => True

section Gateway

variable {config : ControllerConfig} {s s' s'' : Stores} {key : GatewayKey} {g : KubeGateway}
  {configurations : Configurations}

theorem Stores.GatewayWritten.refl (key : GatewayKey) (s : Stores) : s.GatewayWritten key s :=
  ⟨rfl, rfl, fun _ hk => .inr hk, fun _ hk => .inr hk⟩

theorem Stores.GatewayWritten.trans (h : s.GatewayWritten key s') (h' : s'.GatewayWritten key s'') :
    s.GatewayWritten key s'' where
  routes := h'.routes.trans h.routes
  classes := h'.classes.trans h.classes
  gateways k hk := (h'.gateways k hk).elim .inl (h.gateways k)
  types k hk := (h'.types k hk).elim .inl (h.types k)

theorem mem_insert_iff {ν : Type} {m : Std.ExtTreeMap ResourceKey ν} {k key : ResourceKey} {v : ν} :
    k ∈ m.insert key v ↔ k = key ∨ k ∈ m := by
  rw [Std.ExtTreeMap.mem_insert, Std.LawfulEqOrd.compare_eq_iff_eq, eq_comm]

theorem gatewayWritten_write {a : Action} (ha : a.WritesAt key) : s.GatewayWritten key (s.write config a) := by
  unfold Stores.write
  split
  · exact ⟨rfl, rfl, fun k hk => (mem_insert_iff.1 hk).imp_left fun h => h.trans ha, fun _ hk => .inr hk⟩
  · refine ⟨rfl, rfl, fun k hk => ?_, fun k hk => ?_⟩
    · simp only [State.maybeSaveGateway] at hk
      split_ifs at hk
      · exact (mem_insert_iff.1 hk).imp_left fun h => h.trans ha
      · exact .inr hk
    · simp only [State.maybeSaveGateway] at hk
      split_ifs at hk
      · exact .inr hk
      · exact .inr hk
  · split
    · exact .refl key s
    · rename_i gateway hgateway
      refine ⟨rfl, rfl, fun _ hk => .inr hk, fun k hk => (mem_insert_iff.1 hk).imp_left fun h => ?_⟩
      rw [h, (Gateway.tryFrom_key hgateway).1, ha]
  · exact ⟨rfl, rfl, fun k hk => .inr (Std.ExtTreeMap.mem_of_mem_erase hk), fun _ hk => .inr hk⟩
  · exact ⟨rfl, rfl, fun _ hk => .inr hk, fun k hk => .inr (Std.ExtTreeMap.mem_of_mem_erase hk)⟩
  · exact .refl key s

theorem gatewayWritten_foldl {actions : List Action} (hactions : ∀ a ∈ actions, a.WritesAt key) :
    s.GatewayWritten key (actions.foldl (Stores.write config) s) := by
  induction actions generalizing s with
  | nil => exact .refl key s
  | cons a actions ih =>
    exact (gatewayWritten_write (hactions a List.mem_cons_self)).trans
      (ih fun a' ha' => hactions a' (List.mem_cons_of_mem _ ha'))

theorem writesAt_gatewayHandler {t : GatewayImplementationType} {state : ResourceState} :
    ∀ a ∈ gatewayHandler g.resourceKey g t state, a.WritesAt g.resourceKey := by
  cases state with
  | statusChanged =>
    simp only [gatewayHandler]
    split_ifs <;> simp [Action.WritesAt]
  | _ => simp [gatewayHandler, Action.WritesAt]

/-- **A gateway is written under its key.** -/
theorem gatewayMove : s.GatewayWritten g.resourceKey (gatewayReconciled config s g configurations) := by
  unfold gatewayReconciled
  cases hactions : reconcileGateway config s g configurations with
  | error _ => exact .refl _ s
  | ok actions =>
    refine gatewayWritten_foldl ?_
    unfold reconcileGateway at hactions
    split at hactions
    · cases hactions
    · cases hactions
    · split_ifs at hactions
      cases ht : backendTypeOf s configurations g with
      | error _ =>
        rw [ht] at hactions
        cases hactions
      | ok t =>
        rw [ht] at hactions
        obtain rfl := Except.ok.inj hactions
        exact writesAt_gatewayHandler

/-- The controller gets to the handler of a gateway. -/
def Stores.TakesGateway (config : ControllerConfig) (s : Stores) (g : KubeGateway) (configurations : Configurations) :
    Prop :=
  g.metadata.name.isSome ∧ (g.metadata.uid.bind config.parseUuid).isSome ∧ (backendTypeOf s configurations g).isOk

/-- The routes are not touched. -/
theorem routes_reconcile_gateway : (s.reconcile config (.gateway g configurations)).routes = s.routes :=
  Stores.GatewayWritten.routes gatewayMove

/-- A deletion takes a gateway out of the stores if it gets to the handler, and is ignored otherwise. -/
theorem gatewayReconciled_of_deletion (config : ControllerConfig) (s : Stores) (configurations : Configurations)
    (hdel : g.metadata.IsDeletion) :
    (s.TakesGateway config g configurations ∧ gatewayReconciled config s g configurations =
      { s with state := (s.state.deleteGateway g.resourceKey).deleteGatewayType g.resourceKey }) ∨
    (¬ s.TakesGateway config g configurations ∧ gatewayReconciled config s g configurations = s) := by
  unfold gatewayReconciled reconcileGateway Stores.TakesGateway
  rw [checkStatus_of_deletion hdel]
  cases hname : g.metadata.name with
  | none => simp
  | some name =>
    cases huid : g.metadata.uid with
    | none => simp
    | some uid =>
      cases hparse : config.parseUuid uid with
      | none => simp [hparse]
      | some id =>
        cases ht : backendTypeOf s configurations g with
        | error _ => simp [hparse, Except.map, Except.isOk, Except.toBool]
        | ok t => simp [hparse, Except.map, Except.isOk, Except.toBool, gatewayHandler, Stores.write]

end Gateway

/-! ## Routes move -/

namespace CommonRouteHandler

variable {M F : Type} {h : CommonRouteHandler M F} {s : Stores}

/-- A new or changed route is saved in the store of its kind. -/
theorem sameBut_onNewOrChanged (hkind : h.kind.Lawful) (refs : List ParentReference) :
    s.SameBut h.kind.kind (h.onNewOrChanged s refs).stores := by
  obtain ⟨status, -, hstores⟩ := h.stores_onNewOrChanged s refs
  rw [hstores]
  exact (Stores.sameObjects_attachAll _).sameBut.trans
    ⟨fun _ => rfl, fun _ => rfl, fun _ => rfl, fun hne => hkind.http_save hne _ _ _, fun hne => hkind.grpc_save hne _ _ _⟩

/-- A deleted route is taken from the HTTP routes, where there is none of another kind's key. -/
theorem sameBut_onDeleted (hs : s.routes.Keyed) (refs : List ParentReference)
    (hkinds : h.kind.kind = "HTTPRoute" ∨ h.kind.kind = "GRPCRoute") :
    s.SameBut h.kind.kind (h.onDeleted s refs).stores := by
  have hsame : s.SameBut h.kind.kind (h.detached s refs) := (sameObjects_detached refs).sameBut
  cases hstored : s.routes.httpRoutes[h.resourceKey]? with
  | none =>
    rw [onDeleted_of_none refs hstored]
    exact hsame
  | some stored =>
    have hhttp : h.kind.kind = "HTTPRoute" := by
      rcases hkinds with hkind | hkind
      · exact hkind
      · rw [hs.getHttp_eq_none hkind] at hstored
        cases hstored
    rw [onDeleted_of_some refs hstored]
    obtain ⟨hroutes, hclasses, hgateways, htypes⟩ := updatedPools_frame (h := h) (s := s) refs stored
    refine ⟨fun _ => hclasses, fun _ => hgateways, fun _ => htypes, fun hne => absurd hhttp hne, fun hne => ?_⟩
    show (h.updatedPools s refs stored).1.routes.grpcRoutes = _
    rw [hroutes]
    exact hsame.grpc hne

/-- **The handler of a route writes to the store of its kind**, and to the attachments. -/
theorem sameBut_process [DecidableEq M] [DecidableEq F] (hkind : h.kind.Lawful) (hs : s.routes.Keyed)
    (hkinds : h.kind.kind = "HTTPRoute" ∨ h.kind.kind = "GRPCRoute") :
    s.SameBut h.kind.kind (h.process s).stores := by
  have hsave : s.SameBut h.kind.kind { s with routes := h.kind.save s.routes h.resourceKey h.resource } :=
    ⟨fun _ => rfl, fun _ => rfl, fun _ => rfl, fun hne => hkind.http_save hne _ _ _, fun hne => hkind.grpc_save hne _ _ _⟩
  unfold process
  cases h.resourceState s with
  | versionNotChanged | statusChanged => exact .refl _ s
  | specNotChanged => exact hsave
  | statusNotChanged =>
    simp only
    rw [hkind.maybeSave_eq]
    split_ifs
    · exact hsave
    · exact .refl _ s
  | new | specChanged =>
    simp only [handleNewOrChanged]
    cases h.resource.spec.parentRefs with
    | none => exact .refl _ s
    | some refs => exact sameBut_onNewOrChanged hkind refs
  | deleted =>
    simp only [handleDeleted]
    cases h.resource.spec.parentRefs with
    | none => exact .refl _ s
    | some refs => exact sameBut_onDeleted hs refs hkinds

theorem sameBut_reconcile [DecidableEq M] [DecidableEq F] (hkind : h.kind.Lawful) (hs : s.routes.Keyed)
    (hkinds : h.kind.kind = "HTTPRoute" ∨ h.kind.kind = "GRPCRoute") :
    s.SameBut h.kind.kind (h.reconcile s).stores := by
  rw [stores_reconcile]
  split_ifs
  · exact sameBut_process hkind hs hkinds
  · exact .refl _ s

end CommonRouteHandler

/-! ## Every controller -/

section Reconcile

variable {config : ControllerConfig} {s : Stores} {e : ReconcileEvent}

/-- What is found after some values were put under one key. -/
theorem getElem?_foldl_insert {key k : ResourceKey} {saved : List GatewayClass} {c : GatewayClass}
    {m : Std.ExtTreeMap ResourceKey GatewayClass} (h : (saved.foldl (fun m c' => m.insert key c') m)[k]? = some c) :
    (k = key ∧ c ∈ saved) ∨ m[k]? = some c := by
  induction saved generalizing m with
  | nil => exact .inr h
  | cons c' saved ih =>
    rcases ih h with ⟨hk, hc⟩ | hm
    · exact .inl ⟨hk, List.mem_cons_of_mem _ hc⟩
    · rw [Lib.getElem?_insert_ite] at hm
      split_ifs at hm with hk
      · obtain rfl := Option.some.inj hm
        exact .inl ⟨hk, List.mem_cons_self⟩
      · exact .inr hm

/-- **No controller writes to the store of another kind.** -/
theorem sameBut_reconcile (config : ControllerConfig) (e : ReconcileEvent) (hs : s.WellKeyed) :
    s.SameBut e.kind (s.reconcile config e) := by
  cases e with
  | gatewayClass c answer =>
    show s.SameBut _ (reconcileGatewayClass config s c (answer.map (·.1))).stores
    rcases classMove config answer hs with hsame | ⟨-, saved, -, hsaved⟩
    · rw [hsame]
      exact .refl _ s
    · rw [hsaved]
      exact ⟨fun hne => absurd rfl hne, fun _ => rfl, fun _ => rfl, fun _ => rfl, fun _ => rfl⟩
  | gateway g configurations =>
    have hmove : s.GatewayWritten g.resourceKey (gatewayReconciled config s g configurations) := gatewayMove
    exact ⟨fun _ => hmove.classes, fun hne => absurd rfl hne, fun hne => absurd rfl hne,
      fun _ => congrArg RouteStores.httpRoutes hmove.routes, fun _ => congrArg RouteStores.grpcRoutes hmove.routes⟩
  | httpRoute r =>
    exact CommonRouteHandler.sameBut_reconcile (h := httpRouteHandler config r) httpRouteKind_lawful hs.routes (.inl rfl)
  | grpcRoute r =>
    exact CommonRouteHandler.sameBut_reconcile (h := grpcRouteHandler config r) grpcRouteKind_lawful hs.routes (.inr rfl)

theorem classes_reconcile_gatewayClass {c : GatewayClass}
    {answer : Option { patched : GatewayClass // patched.resourceKey = c.resourceKey }} (hs : s.WellKeyed) :
    ∀ (k : ResourceKey) (c' : GatewayClass),
      (s.reconcile config (.gatewayClass c answer)).gatewayClasses[k]? = some c' → c'.resourceKey = k := by
  show ∀ (k : ResourceKey) (c' : GatewayClass),
    (reconcileGatewayClass config s c (answer.map (·.1))).stores.gatewayClasses[k]? = some c' → c'.resourceKey = k
  rcases classMove config answer hs with hsame | ⟨-, saved, hkeys, hsaved⟩
  · rw [hsame]
    exact hs.classes
  · rw [hsaved]
    intro k c' hc'
    rcases getElem?_foldl_insert hc' with ⟨rfl, hmem⟩ | hold
    · exact hkeys c' hmem
    · exact hs.classes k c' hold

/-- A gateway that is written under its key leaves the others under theirs. -/
theorem Stores.GatewayWritten.wellKeyed {s' : Stores} {key : GatewayKey} (hkind : key.kind = "Gateway")
    (h : s.GatewayWritten key s') (hs : s.WellKeyed) : s'.WellKeyed := by
  refine ⟨?_, fun k hk => ?_, fun k hk => ?_, ?_⟩
  · rw [h.classes]
    exact hs.classes
  · rcases h.gateways k hk with rfl | hold
    · exact hkind
    · exact hs.gateways k hold
  · rcases h.types k hk with rfl | hold
    · exact hkind
    · exact hs.types k hold
  · rw [h.routes]
    exact hs.routes

/-- Objects stay under the keys of their kinds. -/
theorem wellKeyed_reconcile (config : ControllerConfig) (e : ReconcileEvent) (hs : s.WellKeyed) :
    (s.reconcile config e).WellKeyed := by
  have hother := sameBut_reconcile config e hs
  cases e with
  | gatewayClass c answer =>
    change s.SameBut "GatewayClass" _ at hother
    exact ⟨classes_reconcile_gatewayClass hs, by rw [hother.gateways (by decide)]; exact hs.gateways,
      by rw [hother.types (by decide)]; exact hs.types, by rw [routes_reconcile_gatewayClass hs]; exact hs.routes⟩
  | gateway g configurations => exact Stores.GatewayWritten.wellKeyed rfl gatewayMove hs
  | httpRoute r =>
    change s.SameBut "HTTPRoute" _ at hother
    exact ⟨by rw [hother.classes (by decide)]; exact hs.classes,
      by rw [hother.gateways (by decide)]; exact hs.gateways, by rw [hother.types (by decide)]; exact hs.types,
      CommonRouteHandler.keyed_reconcile (h := httpRouteHandler config r) httpRouteKind_lawful hs.routes⟩
  | grpcRoute r =>
    change s.SameBut "GRPCRoute" _ at hother
    exact ⟨by rw [hother.classes (by decide)]; exact hs.classes,
      by rw [hother.gateways (by decide)]; exact hs.gateways, by rw [hother.types (by decide)]; exact hs.types,
      CommonRouteHandler.keyed_reconcile (h := grpcRouteHandler config r) grpcRouteKind_lawful hs.routes⟩

theorem step_controllers {σ σ' : Reconciled} (hstep : (controllers config).step σ e = some σ') :
    σ'.stores = σ.stores.reconcile config e ∧
      σ'.live = if e.metadata.IsDeletion then σ.live.erase e.resourceKey else σ.live.insert e.resourceKey := by
  obtain rfl := Option.some.inj hstep
  exact ⟨rfl, rfl⟩

end Reconcile

end Kubvernor
