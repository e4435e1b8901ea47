import Kubvernor.Control.RouteDeletion

/-!
# The parents of inference pools after a deletion

When an HTTP route is deleted, the pools it uses are to keep as their parents the gateways at which another route
uses them. The handler looks these gateways up after it has detached the route, by the pools the route is still
stored with: those of the gateways that the deletion does not name, and none at all if it names every one. The
gateways it finds are given to each of the route's pools. So the parents are right exactly if these gateways are,
for each pool, the ones with another route that uses it; for a deletion that names all gateways of the route,
exactly if no other route uses its pools (`poolParents_iff`).
-/

namespace Kubvernor

/-! ## Pools are updated -/

/-- A gateway of this name is among the parents of a pool. -/
def InferencePool.HasParent (p : InferencePool) (name ns : String) : Prop :=
  ∃ parent ∈ p.parents.getD [], parent.kind = some "Gateway" ∧ parent.name = name ∧ parent.ns = some ns

section Update

variable {controllerName : String} {gateways : List GatewayKey} {p : InferencePool}

theorem hasParent_updateInferencePoolParents {resolved : Bool} {name ns : String} :
    (updateInferencePoolParents controllerName gateways p resolved).HasParent name ns ↔
      ∃ g ∈ gateways, g.name = name ∧ g.ns = ns := by
  unfold InferencePool.HasParent updateInferencePoolParents
  simp only [Option.getD_some, List.mem_map, exists_exists_and_eq_and, Option.some.injEq, true_and]

end Update

/-- Pools are stored under their own keys. -/
def State.PoolsKeyed (s : State) : Prop :=
  ∀ (k : ResourceKey) (p : InferencePool), s.getInferencePool k = some p → p.resourceKey = k

section Pools

variable {s : Stores} {controllerName : String} {gatewayIds : List GatewayKey} {k pool : ResourceKey}

/-- One pool is updated, if it is there. -/
theorem getInferencePool_updatePool (hs : s.state.PoolsKeyed) :
    (s.updatePool controllerName gatewayIds pool).1.state.getInferencePool k =
      if k = pool then
        (s.state.getInferencePool k).map fun p => updateInferencePoolParents controllerName gatewayIds p true
      else s.state.getInferencePool k := by
  unfold Stores.updatePool
  cases hpool : s.state.getInferencePool pool with
  | none =>
    split_ifs with hk
    · rw [hk, hpool]
      rfl
    · rfl
  | some p =>
    have hkey : (updateInferencePoolParents controllerName gatewayIds p true).resourceKey = pool := hs pool p hpool
    have hmem : pool ∈ s.state.inferencePools :=
      Std.ExtTreeMap.mem_iff_isSome_getElem?.2 (Option.isSome_iff_exists.2 ⟨p, hpool⟩)
    simp only [hkey, State.maybeSaveInferencePool, if_pos hmem]
    show (s.state.inferencePools.insert pool _)[k]? = _
    rw [Lib.getElem?_insert_ite]
    split_ifs with hk
    · rw [hk, hpool]
      rfl
    · rfl

theorem poolsKeyed_updatePool (hs : s.state.PoolsKeyed) :
    (s.updatePool controllerName gatewayIds pool).1.state.PoolsKeyed := by
  intro k p hp
  rw [getInferencePool_updatePool hs] at hp
  split_ifs at hp
  · obtain ⟨q, hq, rfl⟩ := Option.map_eq_some_iff.1 hp
    exact hs k q hq
  · exact hs k p hp

/-- **Each pool of the list is updated**, if it is there. -/
theorem getInferencePool_updatePools (hs : s.state.PoolsKeyed) {pools : List ResourceKey} :
    (s.updatePools controllerName gatewayIds pools).1.state.getInferencePool k =
      if k ∈ pools then
        (s.state.getInferencePool k).map fun p => updateInferencePoolParents controllerName gatewayIds p true
      else s.state.getInferencePool k := by
  induction pools generalizing s with
  | nil => rfl
  | cons pool pools ih =>
    refine (ih (poolsKeyed_updatePool hs)).trans ?_
    rw [getInferencePool_updatePool hs]
    by_cases hk : k = pool
    · rw [if_pos hk, if_pos (List.mem_cons.2 (.inl hk))]
      split_ifs
      · rw [Option.map_map]
        rfl
      · rfl
    · rw [if_neg hk]
      exact if_congr (by rw [List.mem_cons, or_iff_right hk]) rfl rfl

/-- The patch of each pool of the list that is there. -/
theorem mem_operations_updatePools (hs : s.state.PoolsKeyed) {pools : List ResourceKey} {p : InferencePool}
    (hk : k ∈ pools) (hp : s.state.getInferencePool k = some p) :
    Operation.patchStatus k (updateInferencePoolParents controllerName gatewayIds p true) controllerName ∈
      (s.updatePools controllerName gatewayIds pools).2 := by
  induction pools generalizing s p with
  | nil => cases hk
  | cons pool pools ih =>
    refine List.mem_append.2 ?_
    rcases List.mem_cons.1 hk with rfl | hk
    · left
      have hkey : (updateInferencePoolParents controllerName gatewayIds p true).resourceKey = k := hs k p hp
      simp only [hp, hkey, List.mem_singleton]
    · right
      have hnext : (s.updatePool controllerName gatewayIds pool).1.state.getInferencePool k = _ :=
        getInferencePool_updatePool hs
      rw [hp, Option.map_some] at hnext
      split_ifs at hnext
      · -- it was given the same parents before
        have hmem := ih (poolsKeyed_updatePool hs) hk hnext
        exact hmem
      · exact ih (poolsKeyed_updatePool hs) hk hnext

end Pools

/-! ## Which gateways are found -/

namespace CommonRouteHandler

variable {M F : Type} {h : CommonRouteHandler M F} {s : Stores}

/-- A pool the route is still stored with once the deletion is detached: at a gateway it does not name. -/
def LeftPool (h : CommonRouteHandler M F) (s : Stores) (pool : ResourceKey) : Prop :=
  ∃ g ids, ¬ h.NamesGateway g ∧ s.state.storedPools g h.resourceKey = some ids ∧ pool ∈ ids

/-- A route that is not detached there shares a pool with what is left of the deleted one. -/
def SharesLeft (h : CommonRouteHandler M F) (s : Stores) (g : GatewayKey) : Prop :=
  ∃ r ids, ¬ (h.NamesGateway g ∧ r = h.resourceKey) ∧ s.state.storedPools g r = some ids ∧
    ∃ pool ∈ ids, h.LeftPool s pool

/-- Another route uses the pool at the gateway. -/
def UsedByOther (h : CommonRouteHandler M F) (s : Stores) (pool : ResourceKey) (g : GatewayKey) : Prop :=
  ∃ r ids, r ≠ h.resourceKey ∧ s.state.storedPools g r = some ids ∧ pool ∈ ids

/-- The gateways that are found after the route is detached. -/
theorem mem_foundGateways {refs : List ParentReference} (hrefs : h.resource.spec.parentRefs = some refs)
    {g : GatewayKey} :
    g ∈ (h.detached s refs).state.findGatewaysByRouteAndInferencePool h.resourceKey ↔ h.SharesLeft s g := by
  have hleft (pool : ResourceKey) : pool ∈ (h.detached s refs).state.poolsOfRoute h.resourceKey ↔
      h.LeftPool s pool := by
    rw [State.mem_poolsOfRoute]
    refine exists_congr fun g => exists_congr fun ids => ?_
    rw [storedPools_detached hrefs, ← and_assoc]
    refine and_congr_left fun _ => ?_
    by_cases hnames : h.NamesGateway g <;> simp [hnames]
  rw [State.mem_findGatewaysByRouteAndInferencePool]
  refine exists_congr fun r => exists_congr fun ids => ?_
  rw [storedPools_detached hrefs, ← and_assoc]
  refine and_congr ?_ (exists_congr fun pool => ?_)
  · by_cases hnames : h.NamesGateway g ∧ r = h.resourceKey
    · rw [if_pos hnames]
      exact iff_of_false (fun heq => Option.some_ne_none _ heq.symm) fun hand => hand.1 hnames
    · rw [if_neg hnames, and_iff_right hnames]
  · rw [hleft, and_comm]

/-- Nothing is left, and no gateway is found, of a deletion that names every gateway of its route. -/
theorem not_sharesLeft (hnamed : ∀ g ids, s.state.storedPools g h.resourceKey = some ids → h.NamesGateway g)
    (g : GatewayKey) : ¬ h.SharesLeft s g := by
  rintro ⟨-, -, -, -, pool, -, g', ids, hnot, hids, -⟩
  exact hnot (hnamed g' ids hids)

end CommonRouteHandler

/-! ## The pools of a deleted route -/

/-- Stores that were built by saving pools and routes and attaching routes with their pools. -/
inductive Stores.Built : Stores → Prop
  | init : Built {}
  | savePool {s : Stores} (h : Built s) (p : InferencePool) :
    Built { s with state := s.state.saveInferencePool p.resourceKey p }
  | saveRoute {s : Stores} (h : Built s) (k : RouteKey) (r : HTTPRoute) :
    Built { s with routes := s.routes.saveHttpRoute k r }
  | attach {s : Stores} (h : Built s) (k : RouteKey) (pools : List ResourceKey) (g : GatewayKey) :
    Built (s.attach k pools g)

theorem Stores.Built.poolsKeyed {s : Stores} (h : s.Built) : s.state.PoolsKeyed := by
  induction h with
  | init => exact fun k p hp => absurd hp (by simp [State.getInferencePool])
  | @savePool s h q ih =>
    intro k p hp
    change (s.state.inferencePools.insert q.resourceKey q)[k]? = some p at hp
    rw [Lib.getElem?_insert_ite] at hp
    split_ifs at hp with hk
    · rw [hk, ← Option.some.inj hp]
    · exact ih k p hp
  | saveRoute h k r ih => exact ih
  | attach h k pools g ih => exact ih

section Deletion

variable (config : ControllerConfig) (s : Stores) (r stored : HTTPRoute)

/-- The pools a stored route uses that are there. -/
def PresentPool (pool : ResourceKey) : Prop :=
  pool ∈ (Route.ofHTTPRoute config.isIpAddr stored).inferencePools ∧ (s.state.getInferencePool pool).isSome

/-- Each pool of the route that is there is given, stored and patched, the gateways as its parents at which another
route uses it. -/
def PoolParentsRight : Prop :=
  ∀ pool, PresentPool config s stored pool → ∃ p,
    ((httpRouteHandler config r).process s).stores.state.getInferencePool pool = some p ∧
    .poolPatcher (.patchStatus pool p config.controllerName) ∈ ((httpRouteHandler config r).process s).sent ∧
    ∀ name ns, p.HasParent name ns ↔ ∃ g : GatewayKey, (g.name = name ∧ g.ns = ns) ∧
      (httpRouteHandler config r).UsedByOther s pool g

/-- The deletion has parent references, and for each pool of the route that is there, the gateways that share a pool
with what it leaves are those with another route that uses the pool. -/
def FindsUsers : Prop :=
  ∀ pool, PresentPool config s stored pool → r.spec.parentRefs.isSome ∧
    ∀ name ns, (∃ g : GatewayKey, (g.name = name ∧ g.ns = ns) ∧ (httpRouteHandler config r).SharesLeft s g) ↔
      ∃ g : GatewayKey, (g.name = name ∧ g.ns = ns) ∧ (httpRouteHandler config r).UsedByOther s pool g

variable {config s r stored}

/-- What a deletion gives to a pool that is there. -/
theorem pool_onDeleted (hs : s.state.PoolsKeyed) {refs : List ParentReference} (hrefs : r.spec.parentRefs = some refs)
    (hstored : s.routes.httpRoutes[(httpRouteHandler config r).resourceKey]? = some stored) {pool : ResourceKey}
    (hpool : PresentPool config s stored pool) : ∃ p,
    ((httpRouteHandler config r).onDeleted s refs).stores.state.getInferencePool pool = some p ∧
    .poolPatcher (.patchStatus pool p config.controllerName) ∈ ((httpRouteHandler config r).onDeleted s refs).sent ∧
    ∀ name ns, p.HasParent name ns ↔
      ∃ g : GatewayKey, (g.name = name ∧ g.ns = ns) ∧ (httpRouteHandler config r).SharesLeft s g := by
  set h := httpRouteHandler config r
  have hsame := h.sameObjects_detached (s := s) refs
  obtain ⟨hused, hpresent⟩ := hpool
  obtain ⟨q, hq⟩ := Option.isSome_iff_exists.1 hpresent
  let deleted : Stores := { h.detached s refs with routes := (h.detached s refs).routes.deleteHttpRoute h.resourceKey }
  let found := (h.detached s refs).state.findGatewaysByRouteAndInferencePool h.resourceKey
  have hpools (k : ResourceKey) : deleted.state.getInferencePool k = s.state.getInferencePool k := by
    show (h.detached s refs).state.inferencePools[k]? = _
    rw [hsame.pools]
    rfl
  have hkeyed : deleted.state.PoolsKeyed := by
    intro k p hp
    rw [hpools] at hp
    exact hs k p hp
  have hupdated : h.updatedPools s refs stored =
      deleted.updatePools config.controllerName found (Route.ofHTTPRoute config.isIpAddr stored).inferencePools := rfl
  rw [h.onDeleted_of_some refs hstored, hupdated]
  refine ⟨updateInferencePoolParents config.controllerName found q true, ?_, ?_, fun name ns => ?_⟩
  · show (deleted.updatePools config.controllerName found _).1.state.getInferencePool pool = _
    rw [getInferencePool_updatePools hkeyed, if_pos hused, hpools, hq]
    rfl
  · refine List.mem_append_left _ (List.mem_map_of_mem ?_)
    exact mem_operations_updatePools hkeyed hused ((hpools pool).trans hq)
  · rw [hasParent_updateInferencePoolParents]
    refine exists_congr fun g => ?_
    rw [h.mem_foundGateways hrefs, and_comm]

/-- A deletion without parent references gives nothing to the pools. -/
theorem sent_process_of_none (hdel : r.metadata.IsDeletion) (hrefs : r.spec.parentRefs = none) (pool : ResourceKey)
    (p : InferencePool) :
    .poolPatcher (.patchStatus pool p config.controllerName) ∉ ((httpRouteHandler config r).process s).sent := by
  set h := httpRouteHandler config r
  have hsent : (h.process s).sent = [.patcher (.delete h.resourceKey h.resource h.config.controllerName)] := by
    unfold CommonRouteHandler.process
    rw [CommonRouteHandler.resourceState_deleted_iff.2 hdel]
    have hrefs' : h.resource.spec.parentRefs = none := hrefs
    simp only [CommonRouteHandler.handleDeleted, hrefs']
  rw [hsent, List.mem_singleton]
  intro heq
  cases heq

/-- The pools are given their users exactly if the deletion finds them. -/
theorem poolParentsRight_iff (config : ControllerConfig) (hs : s.state.PoolsKeyed) (hdel : r.metadata.IsDeletion)
    (hstored : s.routes.httpRoutes[(httpRouteHandler config r).resourceKey]? = some stored) :
    PoolParentsRight config s r stored ↔ FindsUsers config s r stored := by
  refine forall_congr' fun pool => forall_congr' fun hpool => ?_
  cases hrefs : r.spec.parentRefs with
  | none =>
    refine iff_of_false ?_ fun hand => absurd hand.1 Bool.false_ne_true
    rintro ⟨p, -, hsent, -⟩
    exact sent_process_of_none hdel hrefs pool p hsent
  | some refs =>
    obtain ⟨p, hp, hsent, hfound⟩ := pool_onDeleted hs hrefs hstored hpool
    rw [(httpRouteHandler config r).process_of_deletion hrefs hdel, and_iff_right (by rfl)]
    constructor
    · rintro ⟨p', hp', -, husers⟩ name ns
      obtain rfl := Option.some.inj (hp.symm.trans hp')
      rw [← hfound, husers]
    · intro husers
      exact ⟨p, hp, hsent, fun name ns => (hfound name ns).trans (husers name ns)⟩

end Deletion

/-- **The pools of a deleted route are given their users** exactly if the deletion finds them; if it names every gateway
at which the route is stored with pools, exactly if no other route uses a pool of the route. -/
theorem poolParents_iff {config : ControllerConfig} {s : Stores} (hs : s.Built) {r stored : HTTPRoute}
    (hdel : r.metadata.IsDeletion) (hstored : s.routes.getHttpRouteById r.resourceKey = some stored) :
    (PoolParentsRight config s r stored ↔ FindsUsers config s r stored) ∧
    (r.spec.parentRefs.isSome →
      (∀ g ids, s.state.storedPools g r.resourceKey = some ids → (httpRouteHandler config r).NamesGateway g) →
      (PoolParentsRight config s r stored ↔
        ∀ pool, PresentPool config s stored pool → ∀ g, ¬ (httpRouteHandler config r).UsedByOther s pool g)) := by
  have hiff := poolParentsRight_iff config hs.poolsKeyed hdel hstored
  refine ⟨hiff, fun hparents hnamed => hiff.trans ?_⟩
  have hnone := (httpRouteHandler config r).not_sharesLeft (s := s) hnamed
  refine forall_congr' fun pool => forall_congr' fun _ => ?_
  rw [and_iff_right hparents]
  constructor
  · intro husers g hg
    obtain ⟨g', -, hg'⟩ := (husers g.name g.ns).2 ⟨g, ⟨rfl, rfl⟩, hg⟩
    exact hnone g' hg'
  · intro hunused name ns
    constructor
    · rintro ⟨g, -, hg⟩
      exact absurd hg (hnone g)
    · rintro ⟨g, -, hg⟩
      exact absurd hg (hunused g)

/-! ## A pool of two routes -/

def sharedPool : InferencePool where
  metadata := { name := some "pool" }
  spec := { endpointPickerRef := { name := "picker" } }

/-- A route that sends its traffic to the pool, deleted or not. -/
def pooledRoute (name : String) (deletionTimestamp : Option String) : HTTPRoute where
  metadata :=
    { name := some name, uid := some someUid, finalizers := some ["controller"]
      deletionTimestamp := deletionTimestamp }
  spec :=
    { parentRefs := some [{ name := "gateway" }]
      rules := some [{ backendRefs := some [{ name := "pool", kind := some "InferencePool" }] }] }

/-- The stores with the pool, one route that uses it, and others at the same gateway. -/
def pooledStores (others : List String) : Stores :=
  let key (name : String) := HTTPRoute.resourceKey (pooledRoute name none)
  let s : Stores := { ({} : Stores) with state := State.saveInferencePool {} sharedPool.resourceKey sharedPool }
  let s : Stores := { s with routes := s.routes.saveHttpRoute (key "route") (pooledRoute "route" none) }
  others.foldl (fun s name => s.attach (key name) [sharedPool.resourceKey] (.new "gateway"))
    (s.attach (key "route") [sharedPool.resourceKey] (.new "gateway"))

theorem built_pooledStores (others : List String) : (pooledStores others).Built := by
  have hfoldl : ∀ s : Stores, s.Built → (others.foldl (fun s name =>
      s.attach (HTTPRoute.resourceKey (pooledRoute name none)) [sharedPool.resourceKey] (.new "gateway")) s).Built := by
    induction others with
    | nil => exact fun s hs => hs
    | cons name others ih => exact fun s hs => ih _ (hs.attach _ _ _)
  exact hfoldl _ (((Stores.Built.init.savePool sharedPool).saveRoute _ _).attach _ _ _)

theorem stored_pooledStores : (pooledStores ["other"]).routes.getHttpRouteById
      (HTTPRoute.resourceKey (pooledRoute "route" deletionTime)) = some (pooledRoute "route" none) ∧
    (pooledStores []).routes.getHttpRouteById (HTTPRoute.resourceKey (pooledRoute "route" deletionTime)) =
      some (pooledRoute "route" none) := by
  constructor <;> decide +kernel

theorem presentPool_pooledStores :
    PresentPool someConfig (pooledStores ["other"]) (pooledRoute "route" none) sharedPool.resourceKey :=
  ⟨by decide +kernel, by decide +kernel⟩

/-- **The pool loses its parent**, and the other route still uses it there. -/
theorem pooledStores_not_right : (pooledStores ["other"]).Built ∧
    (pooledStores ["other"]).routes.getHttpRouteById (HTTPRoute.resourceKey (pooledRoute "route" deletionTime)) =
      some (pooledRoute "route" none) ∧
    (((httpRouteHandler someConfig (pooledRoute "route" deletionTime)).process
      (pooledStores ["other"])).stores.state.getInferencePool sharedPool.resourceKey).map (·.parents) = some (some []) ∧
    ¬ PoolParentsRight someConfig (pooledStores ["other"]) (pooledRoute "route" deletionTime)
      (pooledRoute "route" none) := by
  have hparents : (((httpRouteHandler someConfig (pooledRoute "route" deletionTime)).process
      (pooledStores ["other"])).stores.state.getInferencePool sharedPool.resourceKey).map (·.parents) =
      some (some []) := by decide +kernel
  refine ⟨built_pooledStores _, stored_pooledStores.1, hparents, fun hright => ?_⟩
  obtain ⟨p, hp, -, husers⟩ := hright _ presentPool_pooledStores
  rw [hp, Option.map_some, Option.some.injEq] at hparents
  have hother : (pooledStores ["other"]).state.storedPools (.new "gateway")
      (HTTPRoute.resourceKey (pooledRoute "other" none)) = some [sharedPool.resourceKey] := by decide +kernel
  obtain ⟨parent, hparent, -⟩ := (husers "gateway" DEFAULT_NAMESPACE_NAME).2
    ⟨.new "gateway", ⟨rfl, rfl⟩, _, _, by decide, hother, List.mem_singleton_self _⟩
  rw [hparents] at hparent
  cases hparent

/-- Without another route, the pool is given no parent, as it should be. -/
theorem pooledStores_right : PoolParentsRight someConfig (pooledStores []) (pooledRoute "route" deletionTime)
    (pooledRoute "route" none) := by
  have hpools (g : GatewayKey) (k : RouteKey) (ids : List ResourceKey)
      (hids : (pooledStores []).state.storedPools g k = some ids) :
      g = .new "gateway" ∧ k = HTTPRoute.resourceKey (pooledRoute "route" none) := by
    have hattach : (pooledStores []).state.storedPools g k =
        if g = .new "gateway" ∧ k = HTTPRoute.resourceKey (pooledRoute "route" none) then _
        else (State.saveInferencePool {} sharedPool.resourceKey sharedPool).storedPools g k := State.storedPools_attach
    by_contra hne
    rw [if_neg hne] at hattach
    have hnone : State.storedPools (State.saveInferencePool {} sharedPool.resourceKey sharedPool) g k = none := by
      simp [State.storedPools, State.saveInferencePool]
    exact Option.some_ne_none _ (hids.symm.trans (hattach.trans hnone))
  refine ((poolParents_iff (built_pooledStores []) (by decide) stored_pooledStores.2).2 rfl ?_).2 ?_
  · intro g ids hids
    rw [(hpools g _ ids hids).1]
    decide
  · rintro pool - g ⟨k, ids, hne, hids, -⟩
    exact hne (hpools g k ids hids).2

end Kubvernor
