import Kubvernor.Control.Reconcile
import Kubvernor.Control.RouteIndex
import Kubvernor.Controllers.SettledCluster

/-!
# What the controllers ask the validator for

An event changes the routes that are linked to the gateways, and the controller that takes it sends requests to
the reference validator. `ReconcileEvent.requests` are those it has at once, in order; `ReconcileEvent.announced` are
the gateways that the handler of a route then looks up, one after the other, to send a request for each
(`requests_reconcile`). What an event changes is compared here with what it asks for: a route that is saved is to be
announced to every stored gateway it names (`mem_matchingGateways`), a deletion tells that the route is gone
(`requests_onDeleted_of_some`), and whatever else happens, the gateways keep the routes they have
(`findLinkedRoutes_congr`).
-/

namespace Kubvernor

open Lib

/-! ## The requests of the controllers -/

/-- The request that the validator receives. -/
def ValidateRequest.request : ValidateRequest → ReferenceValidateRequest
  | .addRoute routeKey _ => .addRoute routeKey
  | .addGateway ctx => .addGateway ctx
  | .deleteRoute routeKey _ => .deleteRoute routeKey

/-- What is sent to the validator, if it is. -/
def Sent.referenceRequest? {R : Type} : Sent R → Option ReferenceValidateRequest
  | .validator request => some request.request
  | .patcher _ | .poolPatcher _ => none

def Handled.requests {R : Type} (h : Handled R) : List ReferenceValidateRequest :=
  h.sent.filterMap Sent.referenceRequest?

/-- What an action of the handler of gateways sends to the validator. -/
def Action.requests (config : ControllerConfig) (s : Stores) : Action → List ReferenceValidateRequest
  | .newOrChanged g t =>
    match Gateway.tryFrom config.parseUuid g t with
    | .error _ => []
    | .ok gateway => [.addGateway { gateway := gateway, kubeGateway := g, gatewayClassName := g.spec.gatewayClassName }]
  | .deleteGatewayType key g =>
    match s.state.getGatewayType key with
    | none => []
    | some t =>
      match Gateway.tryFrom config.parseUuid g .envoy with
      | .error _ => []
      | .ok gateway => [.deleteGateway { gateway with backendType := t }]
  | _ => []

/-- The requests of the controller of gateways. -/
def gatewayRequests (config : ControllerConfig) (s : Stores) (resource : KubeGateway)
    (configurations : Configurations) :
    List ReferenceValidateRequest :=
  match reconcileGateway config s resource configurations with
  | .error _ => []
  | .ok actions => actions.flatMap (Action.requests config s)

/-- The request is for a gateway to be deployed. -/
def ReferenceValidateRequest.isAddGateway : ReferenceValidateRequest → Bool
  | .addGateway _ => true
  | _ => false

namespace CommonRouteHandler

variable {M F : Type} (h : CommonRouteHandler M F) (s : Stores)

/-- The gateways that a new or changed route is sent to the validator for. -/
def matchingGateways (refs : List ParentReference) : List KubeGateway :=
  filterMatchingGateways
    (s.attachAll h.resourceKey (h.kind.toRoute h.resource).inferencePools (refs.map (·.gatewayKey h.resourceKey))).state
    (refs.filterMap fun p => (s.state.getGateway (p.gatewayKey h.resourceKey)).map fun g => (p, g))

variable [DecidableEq M] [DecidableEq F]

/-- What the handler sends to the validator before it looks gateways up. -/
def firstRequests : List ReferenceValidateRequest := (h.reconcile s).requests.filter fun q => !q.isAddGateway

/-- The gateways that the handler then looks up, one after the other. -/
def announced : List KubeGateway :=
  if h.Accepts ∧ (h.resourceState s = .new ∨ h.resourceState s = .specChanged) then
    (h.resource.spec.parentRefs.map (h.matchingGateways s)).getD []
  else []

end CommonRouteHandler

/-- What the controller of the object sends to the validator at once. -/
def ReconcileEvent.requests (config : ControllerConfig) (s : Stores) : ReconcileEvent → List ReferenceValidateRequest
  | .gatewayClass _ _ => []
  | .gateway resource configurations => gatewayRequests config s resource configurations
  | .httpRoute resource => (httpRouteHandler config resource).firstRequests s
  | .grpcRoute resource => (grpcRouteHandler config resource).firstRequests s

/-- The gateways that the handler of a route is still to look up. -/
def ReconcileEvent.announced (config : ControllerConfig) (s : Stores) : ReconcileEvent → List KubeGateway
  | .gatewayClass _ _ | .gateway _ _ => []
  | .httpRoute resource => (httpRouteHandler config resource).announced s
  | .grpcRoute resource => (grpcRouteHandler config resource).announced s

/-! ## The linked routes of a gateway -/

/-- What is listed in order is given by what is stored under the attached keys. -/
theorem ListedInOrder.unique {R : Type} {attached attached' : RouteKey → Prop} {stored stored' : RouteKey → Option R}
    {l l' : List R} (h : ListedInOrder attached stored l) (h' : ListedInOrder attached' stored' l')
    (hsame : ∀ k r, (attached k ∧ stored k = some r) ↔ (attached' k ∧ stored' k = some r)) : l = l' := by
  obtain ⟨keys, hsorted, hmem, hvalues⟩ := h
  obtain ⟨keys', hsorted', hmem', hvalues'⟩ := h'
  have hnodup {ks : List RouteKey} (hks : ks.Pairwise (compare · · = .lt)) : ks.Nodup := by
    refine hks.imp ?_
    rintro a b hab rfl
    exact absurd (hab.symm.trans Std.ReflCmp.compare_self) (by decide)
  have hkeys : keys = keys' := by
    have hanti (a b : RouteKey) (hab : compare a b = .lt) : ¬ compare b a = .lt := Std.OrientedCmp.not_lt_of_lt hab
    refine List.Perm.eq_of_pairwise (fun a b _ _ hab hba => absurd hba (hanti a b hab)) hsorted
      hsorted' ((List.perm_ext_iff_of_nodup (hnodup hsorted) (hnodup hsorted')).2 fun k => ?_)
    rw [hmem, hmem', Option.isSome_iff_exists, Option.isSome_iff_exists, ← exists_and_left, ← exists_and_left]
    exact exists_congr (hsame k)
  have hlist {stored : RouteKey → Option R} {ks : List RouteKey} {rs : List R}
      (hrs : List.Forall₂ (fun k r => stored k = some r) ks rs) : rs = ks.filterMap stored := by
    induction hrs with
    | nil => rfl
    | cons hr _ ih => rw [List.filterMap_cons_some hr, ← ih]
  subst hkeys
  rw [hlist hvalues, hlist hvalues']
  refine List.filterMap_congr fun k hk => ?_
  obtain ⟨hattached, hstored⟩ := (hmem k).1 hk
  obtain ⟨r, hr⟩ := Option.isSome_iff_exists.1 hstored
  rw [hr, ((hsame k r).1 ⟨hattached, hr⟩).2]

namespace RouteStores

variable {s s' : RouteStores} {g : GatewayKey} {k : RouteKey} {isIpAddr : String → Bool}

/-- The route is attached to the gateway, and stored. -/
def Linked (s : RouteStores) (g : GatewayKey) (k : RouteKey) : Prop :=
  s.Attached g k ∧ (k ∈ s.httpRoutes ∨ k ∈ s.grpcRoutes)

/-- The gateway sees the same under the key. -/
structure LinkedAlike (isIpAddr : String → Bool) (s s' : RouteStores) (g : GatewayKey) (k : RouteKey) : Prop where
  http : ∀ r, (s'.Attached g k ∧ s'.httpRoutes[k]?.map (Route.ofHTTPRoute isIpAddr) = some r) ↔
    (s.Attached g k ∧ s.httpRoutes[k]?.map (Route.ofHTTPRoute isIpAddr) = some r)
  grpc : ∀ r, (s'.Attached g k ∧ s'.grpcRoutes[k]?.map (Route.ofGRPCRoute isIpAddr) = some r) ↔
    (s.Attached g k ∧ s.grpcRoutes[k]?.map (Route.ofGRPCRoute isIpAddr) = some r)

theorem LinkedAlike.of_eq (hattached : s'.Attached g k ↔ s.Attached g k) (hhttp : s'.httpRoutes[k]? = s.httpRoutes[k]?)
    (hgrpc : s'.grpcRoutes[k]? = s.grpcRoutes[k]?) : s.LinkedAlike isIpAddr s' g k :=
  ⟨fun r => by rw [hattached, hhttp], fun r => by rw [hattached, hgrpc]⟩

/-- A route that the gateway sees neither before nor after. -/
theorem LinkedAlike.of_not_linked (h : ¬ s.Linked g k) (h' : ¬ s'.Linked g k) : s.LinkedAlike isIpAddr s' g k := by
  have hnone {s : RouteStores} (h : ¬ s.Linked g k) (hattached : s.Attached g k) :
      s.httpRoutes[k]? = none ∧ s.grpcRoutes[k]? = none := by
    rw [getElem?_eq_none_iff, getElem?_eq_none_iff, ← not_or]
    exact fun hstored => h ⟨hattached, hstored⟩
  refine ⟨fun r => iff_of_false ?_ ?_, fun r => iff_of_false ?_ ?_⟩
  · rintro ⟨hattached, hr⟩
    rw [(hnone h' hattached).1] at hr
    cases hr
  · rintro ⟨hattached, hr⟩
    rw [(hnone h hattached).1] at hr
    cases hr
  · rintro ⟨hattached, hr⟩
    rw [(hnone h' hattached).2] at hr
    cases hr
  · rintro ⟨hattached, hr⟩
    rw [(hnone h hattached).2] at hr
    cases hr

theorem linked_iff (isIpAddr : String → Bool) : s.Linked g k ↔
    (∃ r, s.Attached g k ∧ s.httpRoutes[k]?.map (Route.ofHTTPRoute isIpAddr) = some r) ∨
      ∃ r, s.Attached g k ∧ s.grpcRoutes[k]?.map (Route.ofGRPCRoute isIpAddr) = some r := by
  unfold Linked
  rw [exists_and_left, exists_and_left, ← and_or_left, Std.ExtTreeMap.mem_iff_isSome_getElem?,
    Std.ExtTreeMap.mem_iff_isSome_getElem?, ← Option.isSome_iff_exists, ← Option.isSome_iff_exists, Option.isSome_map,
    Option.isSome_map]

theorem LinkedAlike.linked (h : s.LinkedAlike isIpAddr s' g k) : s'.Linked g k ↔ s.Linked g k := by
  rw [linked_iff isIpAddr, linked_iff isIpAddr]
  exact or_congr (exists_congr h.http) (exists_congr h.grpc)

/-- A gateway that sees the same under every key has the same linked routes. -/
theorem findLinkedRoutes_congr (h : ∀ k, s.LinkedAlike isIpAddr s' g k) :
    s'.findLinkedRoutes isIpAddr g = s.findLinkedRoutes isIpAddr g := by
  have hlisted (s : RouteStores) {R : Type} (stored : RouteKey → Option R) (f : R → Route) :
      ListedInOrder (s.Attached g) (fun k => (stored k).map f)
        (((s.gatewaysWithRoutes[g]?.map fun keys => keys.toList.filterMap stored).getD []).map f) := by
    rw [attachedRoutes_eq, List.map_filterMap, ← attachedRoutes_eq]
    exact listedInOrder_attached s g _
  unfold findLinkedRoutes
  congr 1
  · exact (hlisted s' _ _).unique (hlisted s _ _) fun k => (h k).http
  · exact (hlisted s' _ _).unique (hlisted s _ _) fun k => (h k).grpc

/-- Every other key has what it had. -/
structure SameBeside (k : RouteKey) (s s' : RouteStores) : Prop where
  http : ∀ k', k' ≠ k → s'.httpRoutes[k']? = s.httpRoutes[k']?
  grpc : ∀ k', k' ≠ k → s'.grpcRoutes[k']? = s.grpcRoutes[k']?
  attached : ∀ g k', k' ≠ k → (s'.Attached g k' ↔ s.Attached g k')

theorem SameBeside.refl (k : RouteKey) (s : RouteStores) : s.SameBeside k s :=
  ⟨fun _ _ => rfl, fun _ _ => rfl, fun _ _ _ => Iff.rfl⟩

theorem SameBeside.findLinkedRoutes_eq (h : s.SameBeside k s') (hk : s.LinkedAlike isIpAddr s' g k) :
    s'.findLinkedRoutes isIpAddr g = s.findLinkedRoutes isIpAddr g := by
  refine findLinkedRoutes_congr fun k' => ?_
  by_cases heq : k' = k
  · rw [heq]
    exact hk
  · exact .of_eq (h.attached g k' heq) (h.http k' heq) (h.grpc k' heq)

theorem SameBeside.linked (h : s.SameBeside k s') {k' : RouteKey} (hk' : k' ≠ k) : s'.Linked g k' ↔ s.Linked g k' := by
  unfold Linked
  rw [h.attached g k' hk', Std.ExtTreeMap.mem_iff_isSome_getElem?, Std.ExtTreeMap.mem_iff_isSome_getElem?,
    Std.ExtTreeMap.mem_iff_isSome_getElem?, Std.ExtTreeMap.mem_iff_isSome_getElem?, h.http k' hk', h.grpc k' hk']

end RouteStores

/-! ## What a save leaves -/

/-- Routes of one key and one spec are converted alike. -/
theorem Route.ofHTTPRoute_congr {isIpAddr : String → Bool} {r r' : HTTPRoute} (hspec : r.spec = r'.spec)
    (hkey : r.resourceKey = r'.resourceKey) : ofHTTPRoute isIpAddr r = ofHTTPRoute isIpAddr r' := by
  have hname : r.metadata.nameAny = r'.metadata.nameAny := congrArg ResourceKey.name hkey
  have hrule : HTTPRoutingRule.ofKube r = HTTPRoutingRule.ofKube r' := by
    funext i rr
    unfold HTTPRoutingRule.ofKube
    rw [hname, hkey]
  unfold ofHTTPRoute
  rw [hspec, hkey, hrule]

theorem Route.ofGRPCRoute_congr {isIpAddr : String → Bool} {r r' : GRPCRoute} (hspec : r.spec = r'.spec)
    (hkey : r.resourceKey = r'.resourceKey) : ofGRPCRoute isIpAddr r = ofGRPCRoute isIpAddr r' := by
  have hname : r.metadata.nameAny = r'.metadata.nameAny := congrArg ResourceKey.name hkey
  have hrule : GRPCRoutingRule.ofKube r = GRPCRoutingRule.ofKube r' := by
    funext i rr
    unfold GRPCRoutingRule.ofKube
    rw [hname, hkey]
  unfold ofGRPCRoute
  rw [hspec, hkey, hrule]

variable {M F : Type}

/-- What a save of a kind of routes does to what gateways see: nothing beside its key, and nothing at all where only
the status of the route is new. -/
structure RouteKind.SavesOne (isIpAddr : String → Bool) (kind : RouteKind M F) : Prop where
  beside : ∀ (s : RouteStores) (k : RouteKey) (r : KubeRoute M F), s.SameBeside k (kind.save s k r)
  byKey : ∀ {s : RouteStores} {r : KubeRoute M F}, s.StoredByKey → (kind.save s (kind.keyOf r) r).StoredByKey
  resaved : ∀ {s : RouteStores} {r old : KubeRoute M F}, s.StoredByKey → kind.stored s (kind.keyOf r) = some old →
    r.spec = old.spec → ∀ g, s.LinkedAlike isIpAddr (kind.save s (kind.keyOf r) r) g (kind.keyOf r)

theorem httpRouteKind_savesOne {isIpAddr : String → Bool} : (httpRouteKind isIpAddr).SavesOne isIpAddr where
  beside s k r := by
    refine ⟨fun k' hk' => ?_, fun _ _ => rfl, fun _ _ _ => Iff.rfl⟩
    show (s.httpRoutes.insert k r)[k']? = _
    rw [getElem?_insert_ite, if_neg hk']
  byKey {s r} hs := by
    refine ⟨fun k r' hr' => ?_, hs.grpc⟩
    change (s.httpRoutes.insert (HTTPRoute.resourceKey r) r)[k]? = some r' at hr'
    rw [getElem?_insert_ite] at hr'
    split_ifs at hr' with hk
    · rw [← Option.some.inj hr', hk]
    · exact hs.http k r' hr'
  resaved {s r old} hs hold hspec g := by
    have hold' : s.httpRoutes[HTTPRoute.resourceKey r]? = some old := hold
    have hsame : Route.ofHTTPRoute isIpAddr r = Route.ofHTTPRoute isIpAddr old :=
      Route.ofHTTPRoute_congr hspec (hs.http _ _ hold').symm
    refine ⟨fun r' => and_congr_right fun _ => ?_, fun _ => Iff.rfl⟩
    show (s.httpRoutes.insert (HTTPRoute.resourceKey r) r)[HTTPRoute.resourceKey r]?.map _ = _ ↔
      s.httpRoutes[HTTPRoute.resourceKey r]?.map _ = _
    rw [getElem?_insert_ite, if_pos rfl, hold', Option.map_some, Option.map_some, hsame]

theorem grpcRouteKind_savesOne {isIpAddr : String → Bool} : (grpcRouteKind isIpAddr).SavesOne isIpAddr where
  beside s k r := by
    refine ⟨fun _ _ => rfl, fun k' hk' => ?_, fun _ _ _ => Iff.rfl⟩
    show (s.grpcRoutes.insert k r)[k']? = _
    rw [getElem?_insert_ite, if_neg hk']
  byKey {s r} hs := by
    refine ⟨hs.http, fun k r' hr' => ?_⟩
    change (s.grpcRoutes.insert (GRPCRoute.resourceKey r) r)[k]? = some r' at hr'
    rw [getElem?_insert_ite] at hr'
    split_ifs at hr' with hk
    · rw [← Option.some.inj hr', hk]
    · exact hs.grpc k r' hr'
  resaved {s r old} hs hold hspec g := by
    have hold' : s.grpcRoutes[GRPCRoute.resourceKey r]? = some old := hold
    have hsame : Route.ofGRPCRoute isIpAddr r = Route.ofGRPCRoute isIpAddr old :=
      Route.ofGRPCRoute_congr hspec (hs.grpc _ _ hold').symm
    refine ⟨fun _ => Iff.rfl, fun r' => and_congr_right fun _ => ?_⟩
    show (s.grpcRoutes.insert (GRPCRoute.resourceKey r) r)[GRPCRoute.resourceKey r]?.map _ = _ ↔
      s.grpcRoutes[GRPCRoute.resourceKey r]?.map _ = _
    rw [getElem?_insert_ite, if_pos rfl, hold', Option.map_some, Option.map_some, hsame]

/-! ## The requests of a route -/

/-- A stored gateway that a deployment can be asked for: it converts, and its class and its type are known. -/
structure Stores.Serves (config : ControllerConfig) (s : Stores) (key : GatewayKey) (g : KubeGateway) : Prop where
  keyed : g.resourceKey = key
  converts : Converts config.parseUuid g
  known : s.KnowsClass g.spec.gatewayClassName
  typed : (s.state.getGatewayType key).isSome

/-- All requests for gateways are of one kind. -/
theorem Stores.addGateways_only {s : Stores} {parseUuid : String → Option Uuid} {gs : List KubeGateway} :
    ∀ q ∈ (s.addGateways parseUuid gs).1, ∃ ctx, q = .addGateway ctx := by
  induction gs with
  | nil => simp [addGateways]
  | cons g gs ih =>
    unfold addGateways
    split_ifs
    · split
      · simp
      · split
        · simp
        · intro q hq
          rcases List.mem_cons.1 hq with rfl | hq
          · exact ⟨_, rfl⟩
          · exact ih q hq
    · simp

/-- One round of the loop: the gateway is asked for, or the handler stops, or it panics at an object that does not
convert. -/
theorem Stores.addGateways_round (s : Stores) (parseUuid : String → Option Uuid) (g : KubeGateway) :
    (∃ ctx, s.addGateways parseUuid [g] = ([.addGateway ctx], .awaitChange) ∧
        ctx.gateway.resourceKey = g.resourceKey) ∨
      (∃ e, s.addGateways parseUuid [g] = ([], .failed e)) ∨
      (s.addGateways parseUuid [g] = ([], .panicked) ∧ ¬ Converts parseUuid g) := by
  unfold addGateways
  split_ifs
  · cases hgw : Gateway.tryFrom parseUuid g .envoy with
    | error e =>
      refine .inr (.inr ⟨rfl, fun hconv => ?_⟩)
      have hok : (Gateway.tryFrom parseUuid g .envoy).isOk := Gateway.tryFrom_isOk.2 hconv
      rw [hgw] at hok
      cases hok
    | ok gateway =>
      cases ht : s.state.getGatewayType gateway.resourceKey with
      | none => exact .inr (.inl ⟨.unknownGatewayType, by simp only [ht]⟩)
      | some t =>
        refine .inl ⟨⟨{ gateway with backendType := t }, g, g.spec.gatewayClassName⟩, ?_,
          (Gateway.tryFrom_key hgw).1⟩
        simp only [ht, addGateways]
  · exact .inr (.inl ⟨_, rfl⟩)

/-- The loop goes on after a round that has asked for its gateway, and only then. -/
theorem Stores.addGateways_cons (s : Stores) (parseUuid : String → Option Uuid) (g : KubeGateway)
    (gs : List KubeGateway) : s.addGateways parseUuid (g :: gs) =
      if (s.addGateways parseUuid [g]).2 = .awaitChange then
        ((s.addGateways parseUuid [g]).1 ++ (s.addGateways parseUuid gs).1, (s.addGateways parseUuid gs).2)
      else s.addGateways parseUuid [g] := by
  by_cases hclass : s.KnowsClass g.spec.gatewayClassName
  · cases hgw : Gateway.tryFrom parseUuid g .envoy with
    | error e => simp [addGateways, hclass, hgw]
    | ok gateway => cases ht : s.state.getGatewayType gateway.resourceKey <;> simp [addGateways, hclass, hgw, ht]
  · simp [addGateways, hclass]

namespace CommonRouteHandler

variable {h : CommonRouteHandler M F} {s : Stores} {refs : List ParentReference}

theorem filterMap_patcher {R : Type} (operations : List (Operation R)) :
    (operations.map Sent.patcher).filterMap Sent.referenceRequest? = [] := by
  rw [List.filterMap_map, List.filterMap_eq_nil_iff]
  exact fun _ _ => rfl

theorem filterMap_validator {R : Type} (requests : List ValidateRequest) :
    (requests.map (Sent.validator (R := R))).filterMap Sent.referenceRequest? =
      requests.map ValidateRequest.request := by
  rw [List.filterMap_map]
  exact congrFun (List.filterMap_eq_map (f := ValidateRequest.request)) requests

theorem requests_onNewOrChanged : (h.onNewOrChanged s refs).requests = .addRoute h.resourceKey ::
    ((h.onNewOrChanged s refs).stores.addGateways h.config.parseUuid (h.matchingGateways s refs)).1.map
      ValidateRequest.request := by
  have hsent : (h.onNewOrChanged s refs).sent =
      (needsFinalizer h.resourceKey h.config.controllerName h.resource.metadata).toList.map .patcher ++
        .validator (.addRoute h.resourceKey (extractReferences (h.kind.toRoute h.resource))) ::
          ((h.onNewOrChanged s refs).stores.addGateways h.config.parseUuid (h.matchingGateways s refs)).1.map
            .validator := rfl
  rw [Handled.requests, hsent, List.filterMap_append, filterMap_patcher, List.nil_append, List.filterMap_cons,
    filterMap_validator]
  rfl

/-- The namespace that a parent reference leaves out is that of the route. -/
theorem routeRefKey_gatewayKey (p : ParentReference) (k : RouteKey) :
    (p.routeRefKey (p.gatewayKey k).ns).resourceKey = p.gatewayKey k := by
  unfold ParentReference.gatewayKey ParentReference.routeRefKey
  cases p.ns <;> rfl

/-- **A changed route is announced to the stored gateways it names.** -/
theorem mem_matchingGateways (hown : ∀ k g, s.state.getGateway k = some g → g.resourceKey = k)
    (hrefs : h.resource.spec.parentRefs = some refs) {g : KubeGateway} :
    g ∈ h.matchingGateways s refs ↔ h.NamesGateway g.resourceKey ∧ s.state.getGateway g.resourceKey = some g := by
  have hsame : ∀ k, (s.attachAll h.resourceKey (h.kind.toRoute h.resource).inferencePools
      (refs.map (·.gatewayKey h.resourceKey))).state.getGateway k = s.state.getGateway k := by
    intro k
    unfold State.getGateway
    rw [(Stores.sameObjects_attachAll _).gateways]
  have hnames (k : GatewayKey) : h.NamesGateway k ↔ ∃ p ∈ refs, p.gatewayKey h.resourceKey = k := by
    unfold NamesGateway RouteView.NamesGateway KubeRoute.view
    simp only [hrefs, Option.getD_some]
  rw [hnames]
  unfold matchingGateways filterMatchingGateways
  simp only [List.mem_filterMap, Option.map_eq_some_iff, hsame]
  constructor
  · rintro ⟨a, ⟨p, hp, g', hg', rfl⟩, hg⟩
    have hkey := hown _ _ hg'
    simp only [hkey, routeRefKey_gatewayKey, if_true, hg'] at hg
    obtain rfl := Option.some.inj hg
    exact ⟨⟨p, hp, hkey.symm⟩, by rw [hkey]; exact hg'⟩
  · rintro ⟨⟨p, hp, hkey⟩, hg⟩
    refine ⟨(p, g), ⟨p, hp, g, by rw [hkey]; exact hg, rfl⟩, ?_⟩
    simp only [← hkey, routeRefKey_gatewayKey, if_true]
    rw [hkey]
    exact hg

end CommonRouteHandler

/-- What the stores of the controllers are to be: every object is under its own key, and every stored gateway can be
deployed. -/
structure Stores.Sound (config : ControllerConfig) (s : Stores) : Prop where
  wellKeyed : s.WellKeyed
  byKey : s.routes.StoredByKey
  serves : ∀ k g, s.state.getGateway k = some g → s.Serves config k g

theorem Stores.KnowsClass.congr {s s' : Stores} {className : String} (hs : s.KnowsClass className)
    (hclasses : s'.gatewayClasses = s.gatewayClasses) : s'.KnowsClass className := by
  unfold KnowsClass
  rw [hclasses]
  exact hs

theorem Stores.Serves.congr {config : ControllerConfig} {s s' : Stores} {k : GatewayKey} {g : KubeGateway}
    (hs : s.Serves config k g) (hclasses : s'.gatewayClasses = s.gatewayClasses)
    (htyped : (s.state.getGatewayType k).isSome → (s'.state.getGatewayType k).isSome) : s'.Serves config k g :=
  ⟨hs.keyed, hs.converts, hs.known.congr hclasses, htyped hs.typed⟩

namespace CommonRouteHandler

variable {h : CommonRouteHandler M F} {s : Stores} {refs : List ParentReference}

theorem requests_onDeleted_of_none (hnone : s.routes.httpRoutes[h.resourceKey]? = none) :
    (h.onDeleted s refs).requests = [] := by
  rw [onDeleted_of_none refs hnone]
  rfl

/-- **A deletion of a stored HTTP route tells that the route is gone.** -/
theorem requests_onDeleted_of_some {stored : HTTPRoute} (hstored : s.routes.httpRoutes[h.resourceKey]? = some stored) :
    (h.onDeleted s refs).requests = [.deleteRoute h.resourceKey] := by
  have hpools (operations : List (Operation InferencePool)) :
      (operations.map (Sent.poolPatcher (R := KubeRoute M F))).filterMap Sent.referenceRequest? = [] := by
    rw [List.filterMap_map, List.filterMap_eq_nil_iff]
    exact fun _ _ => rfl
  rw [onDeleted_of_some refs hstored, Handled.requests, List.filterMap_append, hpools]
  rfl

/-! ## Every event of a route -/

variable [DecidableEq M] [DecidableEq F]

/-- The handler has asked for nothing, and has left the stores or saved the route with the spec it has. -/
def Resaves (h : CommonRouteHandler M F) (s : Stores) (handled : Handled (KubeRoute M F)) : Prop :=
  handled.requests = [] ∧ (handled.stores = s ∨
    ∃ old, h.kind.stored s.routes h.resourceKey = some old ∧ h.resource.spec = old.spec ∧
      handled.stores = { s with routes := h.kind.save s.routes h.resourceKey h.resource })

theorem resaves_process (hkind : h.kind.Lawful)
    (hstate : h.resourceState s = .new ∨ h.resourceState s = .specChanged ∨ h.resourceState s = .deleted →
      h.resource.spec.parentRefs = none) : h.Resaves s (h.process s) := by
  have hcases := h.resourceState_cases s
  unfold process
  cases hevent : h.resourceState s with
  | versionNotChanged | statusChanged => exact ⟨rfl, .inl rfl⟩
  | specNotChanged =>
    rw [hevent] at hcases
    exact hcases.elim
  | new | specChanged =>
    have hnone := hstate (by simp [hevent])
    simp only [handleNewOrChanged, hnone]
    exact ⟨rfl, .inl rfl⟩
  | deleted =>
    have hnone := hstate (by simp [hevent])
    simp only [handleDeleted, hnone]
    exact ⟨rfl, .inl rfl⟩
  | statusNotChanged =>
    rw [hevent] at hcases
    obtain ⟨old, hold, hspec, -⟩ := hcases
    refine ⟨rfl, .inr ⟨old, hold, hspec, ?_⟩⟩
    simp only
    rw [hkind.maybeSave_eq, if_pos (by rw [hold]; rfl)]

/-- An event changes the route, or deletes it, or neither. -/
theorem reconcile_moves (h : CommonRouteHandler M F) (s : Stores) (hkind : h.kind.Lawful) :
    (h.Changes s ∧ ∃ refs, h.resource.spec.parentRefs = some refs ∧ h.reconcile s = h.onNewOrChanged s refs) ∨
    (¬ h.Changes s ∧
      ((h.Deletes ∧ ∃ refs, h.resource.spec.parentRefs = some refs ∧ h.reconcile s = h.onDeleted s refs) ∨
        h.Resaves s (h.reconcile s))) := by
  unfold reconcile
  cases huid : h.resource.metadata.uid with
  | none =>
    refine .inr ⟨fun hc => ?_, .inr ⟨rfl, .inl rfl⟩⟩
    have haccepts := hc.accepts
    simp [Accepts, huid] at haccepts
  | some uid =>
    have haccepts : h.Accepts ↔ (h.config.parseUuid uid).isSome := by simp [Accepts, huid]
    simp only [← haccepts]
    by_cases haccept : h.Accepts
    · rw [if_pos haccept]
      cases hrefs : h.resource.spec.parentRefs with
      | none =>
        refine .inr ⟨fun hc => ?_, .inr (resaves_process hkind fun _ => hrefs)⟩
        have hparents := hc.parents
        rw [hrefs] at hparents
        cases hparents
      | some refs =>
        have hparents : h.resource.spec.parentRefs.isSome := by
          rw [hrefs]
          rfl
        by_cases hstate : h.resourceState s = .new ∨ h.resourceState s = .specChanged
        · exact .inl ⟨⟨haccept, hstate, hparents⟩, refs, rfl, process_of_changed hrefs hstate⟩
        · refine .inr ⟨fun hc => hstate hc.state, ?_⟩
          by_cases hdel : h.resource.metadata.IsDeletion
          · exact .inl ⟨⟨haccept, hdel, hparents⟩, refs, rfl, process_of_deletion hrefs hdel⟩
          · refine .inr (resaves_process hkind ?_)
            rintro (hnew | hchanged | hdeleted)
            · exact absurd (.inl hnew) hstate
            · exact absurd (.inr hchanged) hstate
            · exact absurd (resourceState_deleted_iff.1 hdeleted) hdel
    · rw [if_neg haccept]
      exact .inr ⟨fun hc => haccept hc.accepts, .inr ⟨rfl, .inl rfl⟩⟩

theorem announced_of_changes (hc : h.Changes s) (hrefs : h.resource.spec.parentRefs = some refs) :
    h.announced s = h.matchingGateways s refs := by
  rw [announced, if_pos ⟨hc.accepts, hc.state⟩, hrefs]
  rfl

theorem announced_of_not_changes (hc : ¬ h.Changes s) : h.announced s = [] := by
  unfold announced
  split_ifs with hstate
  · cases hrefs : h.resource.spec.parentRefs with
    | none => rfl
    | some refs => exact absurd ⟨hstate.1, hstate.2, by rw [hrefs]; rfl⟩ hc
  · rfl

theorem firstRequests_of_changes (heq : h.reconcile s = h.onNewOrChanged s refs) :
    h.firstRequests s = [.addRoute h.resourceKey] := by
  have hnone (requests : List ValidateRequest) (honly : ∀ q ∈ requests, ∃ ctx, q = .addGateway ctx) :
      (requests.map ValidateRequest.request).filter (fun q => !q.isAddGateway) = [] := by
    rw [List.filter_eq_nil_iff]
    intro q hq
    obtain ⟨request, hrequest, rfl⟩ := List.mem_map.1 hq
    obtain ⟨ctx, rfl⟩ := honly request hrequest
    exact Bool.false_ne_true
  rw [firstRequests, heq, requests_onNewOrChanged, List.filter_cons_of_pos (by rfl),
    hnone _ Stores.addGateways_only]

/-- A deletion and a save without a change ask for no gateway. -/
theorem firstRequests_of_onDeleted (heq : h.reconcile s = h.onDeleted s refs) :
    h.firstRequests s = (h.onDeleted s refs).requests := by
  rw [firstRequests, heq]
  cases hstored : s.routes.httpRoutes[h.resourceKey]? with
  | none =>
    rw [requests_onDeleted_of_none hstored]
    rfl
  | some stored =>
    rw [requests_onDeleted_of_some hstored]
    rfl

theorem firstRequests_of_resaves (hresaves : h.Resaves s (h.reconcile s)) : h.firstRequests s = [] := by
  rw [firstRequests, hresaves.1]
  rfl

/-- **What the handler sends to the validator** where nothing changes in between: its first requests, and one for
each gateway up to the first it does not find. -/
theorem requests_reconcile (h : CommonRouteHandler M F) (s : Stores) (hkind : h.kind.Lawful) :
    (h.reconcile s).requests = h.firstRequests s ++
      ((h.reconcile s).stores.addGateways h.config.parseUuid (h.announced s)).1.map ValidateRequest.request := by
  rcases h.reconcile_moves s hkind with ⟨hc, refs, hrefs, heq⟩ | ⟨hc, ⟨-, refs, -, heq⟩ | hresaves⟩
  · rw [firstRequests_of_changes heq, announced_of_changes hc hrefs, heq, requests_onNewOrChanged]
    rfl
  · rw [firstRequests_of_onDeleted heq, announced_of_not_changes hc, heq]
    exact (List.append_nil _).symm
  · rw [firstRequests_of_resaves hresaves, announced_of_not_changes hc, hresaves.1]
    rfl

/-- An event of a route that the gateways can be told of. A spec that is taken names every stored gateway that the
route is attached to, and a GRPC route that is deleted names none that it is linked to: the controller says nothing
to a parent that is taken from a route, nor of a GRPC route that is deleted. -/
structure Orderly (h : CommonRouteHandler M F) (s : Stores) : Prop where
  parents : h.Changes s → ∀ g ∈ s.state.gateways, s.routes.Attached g h.resourceKey → h.NamesGateway g
  deleted : h.Deletes → h.kind.kind = "GRPCRoute" → ∀ g ∈ s.state.gateways, h.NamesGateway g →
    ¬ s.routes.Linked g h.resourceKey

end CommonRouteHandler

/-- What an event of a route leaves, what it tells of it, and which gateways it is still to be announced to. -/
structure Stores.RouteTold (isIpAddr : String → Bool) (k : RouteKey) (s s' : Stores)
    (requests : List ReferenceValidateRequest) (announced : List KubeGateway) : Prop where
  beside : s.routes.SameBeside k s'.routes
  byKey : s'.routes.StoredByKey
  told : ∀ g ∈ s.state.gateways, g ∈ announced.map (·.resourceKey) ∨
    s.routes.LinkedAlike isIpAddr s'.routes g k ∨ (s.routes.Linked g k ∧ .deleteRoute k ∈ requests)
  gone : ∀ r, .deleteRoute r ∈ requests → r = k ∧ ∀ g, ¬ s'.routes.Linked g k
  kept : ∀ gateway, .deleteGateway gateway ∉ requests
  stored : ∀ g ∈ announced, s.state.getGateway g.resourceKey = some g

namespace CommonRouteHandler

variable {h : CommonRouteHandler M F} {s : Stores} {refs : List ParentReference}

theorem told_onNewOrChanged (hkind : h.kind.Lawful) (hsaves : h.kind.SavesOne h.config.isIpAddr)
    (hs : s.Sound h.config) (hrefs : h.resource.spec.parentRefs = some refs)
    (hparents : ∀ g ∈ s.state.gateways, s.routes.Attached g h.resourceKey → h.NamesGateway g) :
    s.RouteTold h.config.isIpAddr h.resourceKey (h.onNewOrChanged s refs).stores [.addRoute h.resourceKey]
      (h.matchingGateways s refs) := by
  obtain ⟨_, -, hsaved⟩ := savedRoute_onNewOrChanged hkind hs.wellKeyed.routes hrefs
  obtain ⟨status, -, hstores⟩ := h.stores_onNewOrChanged s refs
  have hsame : s.SameObjects (s.attachAll h.resourceKey (h.kind.toRoute h.resource).inferencePools
      (refs.map (·.gatewayKey h.resourceKey))) := Stores.sameObjects_attachAll _
  have hattached (g : GatewayKey) (k : RouteKey) : (h.onNewOrChanged s refs).stores.routes.Attached g k ↔
      (h.NamesGateway g ∧ k = h.resourceKey) ∨ s.routes.Attached g k := by
    rw [hsaved.attached, NamesGateway, KubeRoute.view, hrefs]
    rfl
  have hmatching (g : KubeGateway) := h.mem_matchingGateways (g := g)
    (fun k g hg => (hs.serves k g hg).keyed) hrefs
  refine ⟨⟨fun k hk => ?_, fun k hk => ?_, fun g k hk => ?_⟩, ?_, fun g hg => ?_, by simp, by simp,
    fun g hg => ((hmatching g).1 hg).2⟩
  · rw [hstores]
    exact ((hsaves.beside _ _ _).http k hk).trans (by rw [hsame.http])
  · rw [hstores]
    exact ((hsaves.beside _ _ _).grpc k hk).trans (by rw [hsame.grpc])
  · rw [hattached]
    exact or_iff_right fun hand => hk hand.2
  · rw [hstores]
    refine hsaves.byKey (r := { h.resource with status := some status }) ⟨?_, ?_⟩
    · rw [hsame.http]
      exact hs.byKey.http
    · rw [hsame.grpc]
      exact hs.byKey.grpc
  · by_cases hnames : h.NamesGateway g
    · obtain ⟨kg, hkg⟩ := Option.isSome_iff_exists.1 (Std.ExtTreeMap.mem_iff_isSome_getElem?.1 hg)
      have hkey := (hs.serves g kg hkg).keyed
      exact .inl (List.mem_map.2 ⟨kg, (hmatching kg).2 (by rw [hkey]; exact ⟨hnames, hkg⟩), hkey⟩)
    · -- neither attached before nor now
      have hnot : ¬ s.routes.Attached g h.resourceKey := fun hatt => hnames (hparents g hg hatt)
      have hnot' : ¬ (h.onNewOrChanged s refs).stores.routes.Attached g h.resourceKey := by
        rw [hattached]
        exact fun hor => hor.elim (fun hand => hnames hand.1) hnot
      exact .inr (.inl (.of_not_linked (fun hl => hnot hl.1) fun hl => hnot' hl.1))

theorem told_onDeleted (hs : s.Sound h.config) (hrefs : h.resource.spec.parentRefs = some refs)
    (hdeleted : h.kind.kind = "GRPCRoute" → ∀ g ∈ s.state.gateways, h.NamesGateway g →
      ¬ s.routes.Linked g h.resourceKey) :
    s.RouteTold h.config.isIpAddr h.resourceKey (h.onDeleted s refs).stores (h.onDeleted s refs).requests [] := by
  have hd : s.routes.DeletedRoute h.resourceKey h.resource.view (h.onDeleted s refs).stores.routes :=
    deletedRoute_onDeleted hrefs
  have hlinked (g : GatewayKey) (hl : (h.onDeleted s refs).stores.routes.Linked g h.resourceKey) :
      s.routes.Linked g h.resourceKey ∧ ¬ h.NamesGateway g ∧ h.kind.kind = "GRPCRoute" := by
    obtain ⟨hatt, hstored⟩ := hl
    rw [hd.attached] at hatt
    rw [hd.http, hd.grpc] at hstored
    have hgrpc : h.resourceKey ∈ s.routes.grpcRoutes := hstored.resolve_left (by simp)
    exact ⟨⟨hatt.1, .inr hgrpc⟩, fun hn => hatt.2 ⟨hn, rfl⟩, hs.wellKeyed.routes.grpc _ hgrpc⟩
  have hbyKey : (h.onDeleted s refs).stores.routes.StoredByKey := by
    refine ⟨fun k r hr => ?_, fun k r hr => ?_⟩
    · rw [hd.http, getElem?_erase_ite] at hr
      split_ifs at hr
      exact hs.byKey.http k r hr
    · rw [hd.grpc] at hr
      exact hs.byKey.grpc k r hr
  have hbeside : s.routes.SameBeside h.resourceKey (h.onDeleted s refs).stores.routes := by
    refine ⟨fun k hk => ?_, fun k hk => ?_, fun g k hk => ?_⟩
    · rw [hd.http, getElem?_erase_ite, if_neg hk]
    · rw [hd.grpc]
    · rw [hd.attached]
      exact and_iff_left fun hand => hk hand.2
  cases hstored : s.routes.httpRoutes[h.resourceKey]? with
  | none =>
    have hnone : (h.onDeleted s refs).requests = [] := requests_onDeleted_of_none hstored
    rw [hnone]
    refine ⟨hbeside, hbyKey, fun g hg => .inr (.inl ?_), by simp, by simp, by simp⟩
    by_cases hnames : h.NamesGateway g
    · refine .of_not_linked (fun hl => ?_) fun hl => (hlinked g hl).2.1 hnames
      have hgrpc : h.resourceKey ∈ s.routes.grpcRoutes :=
        hl.2.resolve_left fun hmem => by simp [Std.ExtTreeMap.mem_iff_isSome_getElem?, hstored] at hmem
      exact hdeleted (hs.wellKeyed.routes.grpc _ hgrpc) g hg hnames hl
    · refine .of_eq ?_ ?_ ?_
      · rw [hd.attached]
        exact and_iff_left fun hand => hnames hand.1
      · rw [hd.http, getElem?_erase_ite, if_pos rfl, hstored]
      · rw [hd.grpc]
  | some stored =>
    rw [requests_onDeleted_of_some hstored]
    have hhttp : h.kind.kind = "HTTPRoute" :=
      hs.wellKeyed.routes.http h.resourceKey (Std.ExtTreeMap.mem_iff_isSome_getElem?.2 (by rw [hstored]; rfl))
    have hnot (g : GatewayKey) : ¬ (h.onDeleted s refs).stores.routes.Linked g h.resourceKey := fun hl =>
      absurd ((hlinked g hl).2.2.symm.trans hhttp) (by decide)
    refine ⟨hbeside, hbyKey, fun g _ => .inr ?_, fun r hr => ?_, by simp, by simp⟩
    · by_cases hl : s.routes.Linked g h.resourceKey
      · exact .inr ⟨hl, List.mem_singleton_self _⟩
      · exact .inl (.of_not_linked hl (hnot g))
    · rw [List.mem_singleton] at hr
      exact ⟨ReferenceValidateRequest.deleteRoute.inj hr, hnot⟩

/-- **What an event of a route changes is told.** -/
theorem told_reconcile [DecidableEq M] [DecidableEq F] (hkind : h.kind.Lawful)
    (hsaves : h.kind.SavesOne h.config.isIpAddr) (hs : s.Sound h.config) (ho : h.Orderly s) :
    s.RouteTold h.config.isIpAddr h.resourceKey (h.reconcile s).stores (h.firstRequests s) (h.announced s) := by
  rcases h.reconcile_moves s hkind with ⟨hc, refs, hrefs, heq⟩ | ⟨hc, ⟨hd, refs, hrefs, heq⟩ | hresaves⟩
  · rw [firstRequests_of_changes heq, announced_of_changes hc hrefs, heq]
    exact told_onNewOrChanged hkind hsaves hs hrefs (ho.parents hc)
  · rw [firstRequests_of_onDeleted heq, announced_of_not_changes hc, heq]
    exact told_onDeleted hs hrefs (ho.deleted hd)
  · rw [firstRequests_of_resaves hresaves, announced_of_not_changes hc]
    rcases hresaves.2 with heq | ⟨old, hold, hspec, heq⟩
    · rw [heq]
      exact ⟨.refl _ _, hs.byKey, fun g _ => .inr (.inl (.of_eq Iff.rfl rfl rfl)), by simp, by simp, by simp⟩
    · rw [heq]
      exact ⟨hsaves.beside s.routes h.resourceKey h.resource, hsaves.byKey hs.byKey,
        fun g _ => .inr (.inl (hsaves.resaved hs.byKey hold hspec g)), by simp, by simp, by simp⟩

end CommonRouteHandler

end Kubvernor
