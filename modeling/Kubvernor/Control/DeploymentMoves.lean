import Kubvernor.Control.RouteDeployments

/-!
# Every step is a move on the board

What the controllers write and tell is a change of the objects' owner (`changes_of_eventTold`), and so is what the
handler of a gateway does once its configuration is there; a request that is sent is a notice that is sent, and the
gateways that the handler of a route gives up are notices that are withdrawn. The validator prepares for a notice when
the resolver of Services is told of it, and receives it when the resolver of pools is told, or the routes are read that
the latter is to list: what was read counts as listed, since nobody else writes lists (`RouteDeployments.listing`).
Each deploy request makes one copy again.

So every orderly step keeps the invariant (`RouteDeployments.Inv.step`), and every orderly run does (`inv_of_run`).
-/

namespace Kubvernor

open Lib

/-! ## The invariant -/

/-- A gateway whose configuration is there, under its key. -/
structure Configuring (config : ControllerConfig) (s : Stores) (k : ResourceKey) (g : KubeGateway) : Prop where
  keyed : g.resourceKey = k
  known : s.KnowsClass g.spec.gatewayClassName
  converts : ¬ g.metadata.IsDeletion → Converts config.parseUuid g

/-- The invariant: stored gateways can be deployed, and so can those that wait for their configurations; those still to
be announced convert; the resolvers have counted what they list; the validator has only gateways to do, and none while
it tells the resolvers of a request; a deleted route that the resolver of Services was told of is not listed there; and
everything is told. -/
structure RouteDeployments.Inv (config : ControllerConfig) (σ : RouteDeployments) : Prop where
  sound : σ.stores.Sound config
  configuring : ∀ k g t, σ.configuring k = some (g, t) → Configuring config σ.stores k g
  converts : ∀ k, ∀ g ∈ σ.unannounced k, Converts config.parseUuid g
  counts : σ.resolver.Counts
  todo : ∀ a ∈ σ.todo, a.target?.isSome
  alone : σ.handling.isSome → σ.todo = []
  unlisted : ∀ r affected, σ.handling = some (.pools (.deleteRoute r) affected) →
    ∀ g, ¬ σ.resolver.referenceResolver.Lists g r
  told : (σ.board config.isIpAddr).Told id id

section Steps

variable {config : ControllerConfig} {σ σ' : RouteDeployments}

theorem Configuring.congr {s s' : Stores} {k : ResourceKey} {g : KubeGateway} (h : Configuring config s k g)
    (hknown : ∀ className, s.KnowsClass className → s'.KnowsClass className) : Configuring config s' k g :=
  ⟨h.keyed, hknown _ h.known, h.converts⟩

/-- A gateway that is stored is saved again without a new key. -/
theorem mem_saveGateway_iff {s : State} {g : KubeGateway} (hg : g.resourceKey ∈ s.gateways) (k : GatewayKey) :
    k ∈ (s.saveGateway g.resourceKey g).gateways ↔ k ∈ s.gateways := by
  refine mem_insert_iff.trans (or_iff_right_of_imp ?_)
  rintro rfl
  exact hg

/-- A gateway that the deployer saves is stored like those before. -/
theorem sound_saveGateway {s : Stores} {g : KubeGateway} (hs : s.Sound config) (hg : g.resourceKey ∈ s.state.gateways)
    (hconv : Converts config.parseUuid g) (hknown : s.KnowsClass g.spec.gatewayClassName) :
    ({ s with state := s.state.saveGateway g.resourceKey g } : Stores).Sound config := by
  refine ⟨⟨hs.wellKeyed.classes, fun k hk => ?_, hs.wellKeyed.types, hs.wellKeyed.routes⟩, hs.byKey, fun k g' hg' => ?_⟩
  · exact hs.wellKeyed.gateways k ((mem_saveGateway_iff hg k).1 hk)
  · rcases getGateway_saved hg' with ⟨rfl, rfl⟩ | hold
    · obtain ⟨old, hold⟩ := Option.isSome_iff_exists.1 (Std.ExtTreeMap.mem_iff_isSome_getElem?.1 hg)
      exact ⟨rfl, hconv, hknown.congr rfl, (hs.serves _ old hold).typed⟩
    · exact (hs.serves k g' hold).congr rfl id

/-- An event that tells what it changes is a move of its object. -/
theorem changes_of_eventTold {k : ResourceKey} {s : Stores} {requests : List ReferenceValidateRequest}
    {announced : List KubeGateway} (hidle : σ.unsent k = [] ∧ σ.unannounced k = [])
    (h : σ.stores.EventTold config.isIpAddr k s (notices requests announced)) :
    (σ.board config.isIpAddr).Changes id id k
      (RouteDeployments.board config.isIpAddr { σ with
        stores := s
        unsent := Function.update σ.unsent k requests
        unannounced := Function.update σ.unannounced k announced }) := by
  have hunsent : (RouteDeployments.board config.isIpAddr { σ with
      stores := s
      unsent := Function.update σ.unsent k requests
      unannounced := Function.update σ.unannounced k announced }).unsent k = notices requests announced := by
    show notices (Function.update σ.unsent k requests k) (Function.update σ.unannounced k announced k) = _
    rw [Function.update_self, Function.update_self]
  constructor
  · show notices (σ.unsent k) (σ.unannounced k) = []
    rw [hidle.1, hidle.2]
    rfl
  · intro k' hk'
    show notices (Function.update σ.unsent k requests k') (Function.update σ.unannounced k announced k') = _
    rw [Function.update_of_ne hk', Function.update_of_ne hk']
    rfl
  · rfl
  · rfl
  · rfl
  · rfl
  · rw [hunsent]
    exact h.told
  · exact h.came
  · exact h.gained
  · rw [hunsent]
    exact h.gone
  · rw [hunsent]
    exact h.forgotten

/-! ## The validator -/

theorem filterMap_redeploy (keys : List GatewayKey) :
    (keys.map Action.redeploy).filterMap Action.target? = keys := by
  rw [List.filterMap_map]
  exact List.filterMap_some

/-- All that the validator is given to do is about gateways. -/
theorem target_validateHandler (affected : Std.ExtTreeSet GatewayKey) (q : ReferenceValidateRequest) :
    ∀ a ∈ validateHandler affected q, a.target?.isSome := by
  cases q with
  | addGateway ctx => simp [validateHandler, Action.target?]
  | updatedGateways gateways => simp [validateHandler, Action.target?]
  | deleteRoute routeKey => simp [validateHandler, Action.target?]
  | addRoute _ | updatedRoutes _ | deleteGateway _ => simp [validateHandler]

/-- What the validator does next for a gateway: it deploys the gateway, or finds it gone, or goes on with it. -/
inductive Performed (config : ControllerConfig) (σ : RouteDeployments) (key : GatewayKey) (a : Action) :
    RouteDeployments → Prop
  | deploys : Performed config σ key a (σ.deploy config.isIpAddr key)
  | gone (hgone : key ∉ σ.stores.state.gateways) : Performed config σ key a σ
  | goesOn (a' : Action) (hkey : a'.target? = some key) (hlater : a'.steps < a.steps) :
      Performed config σ key a { σ with todo := a' :: σ.todo }

theorem perform_of_target {a : Action} {key : GatewayKey} (hkey : a.target? = some key) (hs : σ.stores.Sound config) :
    ∃ σ', σ.perform config a = some σ' ∧ Performed config σ key a σ' := by
  cases a with
  | process ctx =>
    obtain rfl := Option.some.inj hkey
    exact ⟨_, rfl, .deploys⟩
  | redeploy key' =>
    obtain rfl := Option.some.inj hkey
    cases hg : σ.stores.state.getGateway key' with
    | none =>
      refine ⟨σ, by simp only [RouteDeployments.perform, hg], .gone ?_⟩
      rw [Std.ExtTreeMap.mem_iff_isSome_getElem?]
      unfold State.getGateway at hg
      simp [hg]
    | some g =>
      have hserves := hs.serves key' g hg
      have hok : (Gateway.tryFrom config.parseUuid g .envoy).isOk := Gateway.tryFrom_isOk.2 hserves.converts
      cases hgw : Gateway.tryFrom config.parseUuid g .envoy with
      | error e =>
        rw [hgw] at hok
        cases hok
      | ok gateway =>
        have hgwkey : gateway.resourceKey = key' := (Gateway.tryFrom_key hgw).1.trans hserves.keyed
        exact ⟨_, by simp only [RouteDeployments.perform, hg, hgw], .goesOn (.redeployAs g gateway)
          (congrArg some hgwkey) (Nat.lt_succ_self 2)⟩
  | redeployAs g gateway =>
    obtain rfl := Option.some.inj hkey
    cases ht : σ.stores.state.getGatewayType gateway.resourceKey with
    | none =>
      refine ⟨σ, by simp only [RouteDeployments.perform, ht], .gone fun hmem => ?_⟩
      -- a stored gateway has a type
      obtain ⟨g', hg'⟩ := Option.isSome_iff_exists.1 (Std.ExtTreeMap.mem_iff_isSome_getElem?.1 hmem)
      have htyped := (hs.serves _ g' hg').typed
      rw [ht] at htyped
      cases htyped
    | some t =>
      exact ⟨_, by simp only [RouteDeployments.perform, ht],
        .goesOn (.process ⟨{ gateway with backendType := t }, g, g.spec.gatewayClassName⟩) rfl (Nat.lt_succ_self 1)⟩
  | _ => cases hkey

/-- What is listed while the second resolver is not about to list the routes of a gateway. -/
theorem listing_eq {handling : Handling} (hhandling : σ.handling = some handling)
    (h : ∀ ctx mapping, handling ≠ .listPools ctx mapping) : σ.listing = σ.resolver := by
  unfold RouteDeployments.listing
  rw [hhandling]
  split
  · rename_i ctx mapping heq
    exact absurd (Option.some.inj heq) (h ctx mapping)
  · rfl

/-- **The resolver of Services is told**: what it no longer lists is about the gateway of the request, or is a deleted
route at a gateway that is found affected. -/
theorem prepares_of_services {q : ReferenceValidateRequest} {services : MultiReferencesResolver Service}
    {affected : Std.ExtTreeSet GatewayKey} (hhandling : σ.handling = some (.services q))
    (htracked : MultiReferencesResolver.Tracked σ.resolver.referenceResolver services affected q) :
    (σ.board config.isIpAddr).Prepares (RouteDeployments.board config.isIpAddr { σ with
      resolver := { σ.resolver with referenceResolver := services }
      handling := some (.pools q affected) }) := by
  have hlisting : σ.listing = σ.resolver := listing_eq hhandling fun _ _ heq => by cases heq
  refine ⟨⟨rfl, rfl, rfl, rfl⟩, rfl, ?_, fun g hg => ?_, q.notice, ?_, fun g r hr => ?_⟩
  · show [q.notice] ++ _ = _
    rw [RouteDeployments.board, hhandling]
    rfl
  · change g ∈ (σ.handling.map Handling.affected).getD [] ++ σ.todo.filterMap Action.target? at hg
    rw [hhandling] at hg
    exact List.mem_append_right _ hg
  · rw [RouteDeployments.board, hhandling]
    rfl
  · change σ.listing.Lists g r at hr
    rw [hlisting] at hr
    rcases hr with hservices | hpools
    · cases q with
      | deleteGateway gateway =>
        by_cases hg : g = gateway.resourceKey
        · exact .inr (.inr (.inl (by rw [hg]; rfl)))
        · exact .inl (.inl ((htracked g r hg).2 hservices))
      | deleteRoute routeKey =>
        by_cases hr : r = routeKey
        · subst hr
          exact .inr (.inr (.inr ⟨rfl, List.mem_append_left _ (Std.ExtTreeSet.mem_toList.2 (htracked.2 g hservices))⟩))
        · exact .inl (.inl ((htracked.1 g r).2 ⟨hservices, hr⟩))
      | addGateway _ | addRoute _ | updatedGateways _ | updatedRoutes _ =>
        exact .inl (.inl ((htracked g r).2 hservices))
    · exact .inl (.inr hpools)

/-- **The resolver of Services lists the routes of a gateway**, and no others are changed. -/
theorem prepares_of_listServices {ctx : RequestContext} {mapping : RouteToReferenceMapping}
    {services : MultiReferencesResolver Service} (hhandling : σ.handling = some (.listServices ctx mapping))
    (hadd : σ.resolver.referenceResolver.addReferencesForGateway ctx.gateway.resourceKey mapping = some services) :
    (σ.board config.isIpAddr).Prepares (RouteDeployments.board config.isIpAddr { σ with
      resolver := { σ.resolver with referenceResolver := services }
      handling := some (.pools (.addGateway ctx) ∅) }) := by
  have hlisting : σ.listing = σ.resolver := listing_eq hhandling fun _ _ heq => by cases heq
  refine ⟨⟨rfl, rfl, rfl, rfl⟩, rfl, ?_, fun g hg => ?_, .refresh ctx.gateway.resourceKey, ?_, fun g r hr => ?_⟩
  · show [Notice.refresh _] ++ _ = _
    rw [RouteDeployments.board, hhandling]
    rfl
  · change g ∈ (σ.handling.map Handling.affected).getD [] ++ σ.todo.filterMap Action.target? at hg
    rw [hhandling] at hg
    exact hg
  · rw [RouteDeployments.board, hhandling]
    rfl
  · change σ.listing.Lists g r at hr
    rw [hlisting] at hr
    by_cases hg : g = ctx.gateway.resourceKey
    · exact .inr (.inl (by rw [hg]))
    · exact .inl (hr.imp_left ((MultiReferencesResolver.lists_of_add hadd).2 g r hg).2)

/-- **The routes of a gateway are read for the resolver of pools**, and with it the request is handled. -/
theorem handled_of_read {ctx : RequestContext} {pools : MultiReferencesResolver InferencePool}
    {affected : Std.ExtTreeSet GatewayKey} (hroutes : σ.stores.routes.StoredByKey)
    (hhandling : σ.handling = some (.pools (.addGateway ctx) affected))
    (hadd : σ.resolver.inferencePoolReferenceResolver.addReferencesForGateway ctx.gateway.resourceKey
      (σ.mappingOf config.isIpAddr Route.inferencePoolReferences ctx) = some pools) :
    (σ.board config.isIpAddr).Handled (RouteDeployments.board config.isIpAddr { σ with
      handling := some (.listPools ctx (σ.mappingOf config.isIpAddr Route.inferencePoolReferences ctx)) })
      (.refresh ctx.gateway.resourceKey) := by
  have hlisting : σ.listing = σ.resolver := listing_eq hhandling fun _ _ heq => by cases heq
  have hread : RouteDeployments.listing { σ with
      handling := some (.listPools ctx (σ.mappingOf config.isIpAddr Route.inferencePoolReferences ctx)) } =
      { σ.resolver with inferencePoolReferenceResolver := pools } := by
    unfold RouteDeployments.listing
    simp only [hadd]
  obtain ⟨hnew, hothers⟩ := MultiReferencesResolver.lists_of_add hadd
  refine ⟨List.mem_append_left _ (List.mem_singleton_self _), fun r hr => ?_, fun g r hg hlisted => ?_⟩
  · show (RouteDeployments.listing { σ with handling := _ }).Lists _ r
    rw [hread]
    obtain ⟨route, hroute, rfl⟩ := RouteStores.Linked.exists_route config.isIpAddr hroutes hr
    exact .inr (hnew _ (MultiReferencesResolver.mem_routeReferences.2 ⟨route, hroute, rfl⟩))
  · change σ.listing.Lists g r at hlisted
    rw [hlisting] at hlisted
    show (RouteDeployments.listing { σ with handling := _ }).Lists g r
    rw [hread]
    exact hlisted.imp_right (hothers g r hg).2

/-- **The resolver of pools is told**, and with it the request is handled. -/
theorem handled_of_pools {q : ReferenceValidateRequest} {pools : MultiReferencesResolver InferencePool}
    {affected affected' : Std.ExtTreeSet GatewayKey} (hadd : ∀ ctx, q ≠ .addGateway ctx)
    (hhandling : σ.handling = some (.pools q affected))
    (hunlisted : ∀ r, q = .deleteRoute r → ∀ g, ¬ σ.resolver.referenceResolver.Lists g r)
    (htracked : MultiReferencesResolver.Tracked σ.resolver.inferencePoolReferenceResolver pools affected' q) :
    (σ.board config.isIpAddr).Handled (RouteDeployments.board config.isIpAddr { σ with
      resolver := { σ.resolver with inferencePoolReferenceResolver := pools }
      handling := none
      todo := validateHandler (.ofList (affected.toList ++ affected'.toList)) q }) q.notice := by
  have hlisting : σ.listing = σ.resolver := listing_eq hhandling fun _ _ heq => by cases heq
  cases q with
  | addGateway ctx => exact absurd rfl (hadd ctx)
  | deleteRoute routeKey =>
    refine ⟨fun g hlisted => ?_, fun g r hr hlisted => ?_⟩
    · change σ.listing.Lists g routeKey at hlisted
      rw [hlisting] at hlisted
      show g ∈ [] ++ (validateHandler _ (.deleteRoute routeKey)).filterMap Action.target?
      rw [List.nil_append, validateHandler, filterMap_redeploy, Std.ExtTreeSet.mem_toList, Std.ExtTreeSet.mem_ofList,
        List.contains_iff_mem, List.mem_append, Std.ExtTreeSet.mem_toList, Std.ExtTreeSet.mem_toList]
      exact .inr (htracked.2 g (hlisted.resolve_left (hunlisted routeKey rfl g)))
    · change σ.listing.Lists g r at hlisted
      rw [hlisting] at hlisted
      exact hlisted.imp_right fun hpools => (htracked.1 g r).2 ⟨hpools, hr⟩
  | deleteGateway gateway =>
    intro g r hg hlisted
    change σ.listing.Lists g r at hlisted
    rw [hlisting] at hlisted
    exact hlisted.imp_right (htracked g r hg).2
  | addRoute _ | updatedGateways _ | updatedRoutes _ =>
    intro g r hlisted
    change σ.listing.Lists g r at hlisted
    rw [hlisting] at hlisted
    exact hlisted.imp_right (htracked g r).2

/-- What is affected is done again. -/
theorem affected_todo {q : ReferenceValidateRequest} {affected affected' : Std.ExtTreeSet GatewayKey} {g : GatewayKey}
    (hg : g ∈ (Handling.pools q affected).affected) :
    g ∈ (validateHandler (.ofList (affected.toList ++ affected'.toList)) q).filterMap Action.target? := by
  cases q with
  | deleteRoute routeKey =>
    rw [validateHandler, filterMap_redeploy, Std.ExtTreeSet.mem_toList, Std.ExtTreeSet.mem_ofList,
      List.contains_iff_mem, List.mem_append]
    exact .inl hg
  | _ => exact absurd hg List.not_mem_nil

/-! ## The steps -/

/-- The gateways that one object has now to announce convert, like those of the others. -/
theorem RouteDeployments.Inv.converts_update (h : σ.Inv config) {key : ResourceKey} {gateways : List KubeGateway}
    (hconv : ∀ g ∈ gateways, Converts config.parseUuid g) :
    ∀ k, ∀ g ∈ Function.update σ.unannounced key gateways k, Converts config.parseUuid g :=
  (Function.forall_update_iff σ.unannounced fun _ gs => ∀ g ∈ gs, Converts config.parseUuid g).2
    ⟨hconv, fun k _ => h.converts k⟩

theorem RouteDeployments.Inv.reconcile {e : ReconcileEvent} (h : σ.Inv config) (he : e.Orderly config σ.stores)
    (hstep : (routeDeployments config).step σ (.reconcile e) = some σ') : σ'.Inv config := by
  obtain ⟨hidle, rfl⟩ := step_reconcile.1 hstep
  refine ⟨sound_reconcile h.sound he,
    fun k g t hg => (h.configuring k g t hg).congr fun _ => knowsClass_reconcile h.sound.wellKeyed he,
    h.converts_update fun g hg => (h.sound.serves _ g (announced_stored h.sound he g hg)).converts, h.counts, h.todo,
    h.alone, h.unlisted, h.told.move (.changes _ (changes_of_eventTold hidle.2 (eventTold_reconcile h.sound he)))⟩

theorem RouteDeployments.Inv.configure {g : KubeGateway} {configurations : Configurations} (h : σ.Inv config)
    (hg : ¬ g.metadata.IsDeletion → Converts config.parseUuid g)
    (hstep : (routeDeployments config).step σ (.configure g configurations) = some σ') : σ'.Inv config := by
  obtain ⟨-, ⟨_, -, rfl⟩ | ⟨t, ht, rfl⟩⟩ := step_configure.1 hstep
  · exact h
  · refine ⟨h.sound, fun k g' t' hg' => ?_, h.converts, h.counts, h.todo, h.alone, h.unlisted, h.told⟩
    change Function.update σ.configuring g.resourceKey _ k = _ at hg'
    by_cases hk : k = g.resourceKey
    · subst hk
      rw [Function.update_self] at hg'
      obtain ⟨rfl, -⟩ := Prod.mk.inj (Option.some.inj hg')
      exact ⟨rfl, knowsClass_of_configuredType ht, hg⟩
    · rw [Function.update_of_ne hk] at hg'
      exact h.configuring k g' t' hg'

/-- The handler of a gateway goes on with the stores as they are when the configuration is there. -/
theorem RouteDeployments.Inv.configured {key : ResourceKey} (h : σ.Inv config)
    (hstep : (routeDeployments config).step σ (.configured key) = some σ') : σ'.Inv config := by
  obtain ⟨g, t, hconfiguring, hunsent, hunannounced, rfl⟩ := step_configured.1 hstep
  obtain ⟨rfl, hknown, hconv⟩ := h.configuring key g t hconfiguring
  have hwritten : σ.stores.GatewayWritten g.resourceKey (gatewayConfigured config σ.stores g t) :=
    gatewayWritten_foldl writesAt_gatewayHandler
  have htold : σ.stores.EventTold config.isIpAddr g.resourceKey (gatewayConfigured config σ.stores g t)
      (notices (configuredRequests config σ.stores g t) []) := (gatewayMoved_configured t hknown hconv).eventTold
  have hchanges := changes_of_eventTold ⟨hunsent, hunannounced⟩ htold
  have hsame : Function.update σ.unannounced g.resourceKey [] = σ.unannounced := by
    rw [← hunannounced, Function.update_eq_self]
  rw [hsame] at hchanges
  refine ⟨sound_gatewayConfigured h.sound hknown hconv, fun k g' t' hg' => ?_, h.converts, h.counts, h.todo, h.alone,
    h.unlisted, h.told.move (.changes _ hchanges)⟩
  change Function.update σ.configuring g.resourceKey _ k = _ at hg'
  by_cases hk : k = g.resourceKey
  · rw [hk, Function.update_self] at hg'
    cases hg'
  · rw [Function.update_of_ne hk] at hg'
    exact (h.configuring k g' t' hg').congr fun _ hknown => hknown.congr hwritten.classes

/-- The answer to the patch of a class changes nothing on the board. -/
theorem RouteDeployments.Inv.patched {c : GatewayClass} (h : σ.Inv config) (hname : c.metadata.name.isSome)
    (hstep : (routeDeployments config).step σ (.patched c) = some σ') : σ'.Inv config := by
  obtain ⟨-, rfl⟩ := step_patched.1 hstep
  exact ⟨sound_saveGatewayClass h.sound hname,
    fun k g t hg => (h.configuring k g t hg).congr fun _ => knowsClass_saveGatewayClass h.sound.wellKeyed hname,
    h.converts, h.counts, h.todo, h.alone, h.unlisted, h.told⟩

/-- A save of a stored gateway changes nothing on the board. -/
theorem RouteDeployments.Inv.save {g : KubeGateway} (h : σ.Inv config) (hg : g.resourceKey ∈ σ.stores.state.gateways)
    (hconv : Converts config.parseUuid g) (hknown : σ.stores.KnowsClass g.spec.gatewayClassName) :
    RouteDeployments.Inv config
      { σ with stores := { σ.stores with state := σ.stores.state.saveGateway g.resourceKey g } } := by
  refine ⟨sound_saveGateway h.sound hg hconv hknown,
    fun k g' t hg' => (h.configuring k g' t hg').congr fun _ hknown => hknown.congr rfl,
    h.converts, h.counts, h.todo, h.alone, h.unlisted, ?_⟩
  have hsame : RouteDeployments.board config.isIpAddr
      { σ with stores := { σ.stores with state := σ.stores.state.saveGateway g.resourceKey g } } =
      σ.board config.isIpAddr := by
    unfold RouteDeployments.board
    congr 1
    funext k
    exact propext (mem_saveGateway_iff hg k)
  rw [hsame]
  exact h.told

theorem RouteDeployments.Inv.notify {q : ReferenceValidateRequest} (h : σ.Inv config)
    (hstep : (routeDeployments config).step σ (.notify q) = some σ') : σ'.Inv config := by
  have htells (hq : q.notice = .other) : (σ.board config.isIpAddr).Tells
      (RouteDeployments.board config.isIpAddr { σ with validateChannel := σ.validateChannel ++ [q] }) := by
    refine ⟨⟨rfl, rfl, rfl, rfl⟩, rfl, rfl, rfl, ?_⟩
    show _ ++ (σ.validateChannel ++ [q]).map _ = _
    rw [List.map_append, List.map_singleton, hq, ← List.append_assoc]
    rfl
  cases q with
  | addRoute _ | updatedGateways _ | updatedRoutes _ =>
    obtain rfl := Option.some.inj hstep
    exact ⟨h.sound, h.configuring, h.converts, h.counts, h.todo, h.alone, h.unlisted,
      h.told.move (.tells (htells rfl))⟩
  | addGateway _ | deleteGateway _ | deleteRoute _ => cases hstep

theorem RouteDeployments.Inv.send {key : ResourceKey} (h : σ.Inv config)
    (hstep : (routeDeployments config).step σ (.send key) = some σ') : σ'.Inv config := by
  obtain ⟨request, rest, hkey, rfl⟩ := step_send.1 hstep
  refine ⟨h.sound, h.configuring, h.converts, h.counts, h.todo, h.alone, h.unlisted, h.told.move (.sends key
    ⟨⟨rfl, rfl, rfl, rfl⟩, fun k hk => ?_, rfl, rfl, request.notice, ?_, ?_⟩)⟩
  · show notices (Function.update σ.unsent key rest k) _ = _
    rw [Function.update_of_ne hk]
    rfl
  · show notices (σ.unsent key) _ = request.notice :: notices (Function.update σ.unsent key rest key) _
    rw [hkey, Function.update_self]
    rfl
  · show _ ++ (σ.validateChannel ++ [request]).map _ = _
    rw [List.map_append, ← List.append_assoc]
    rfl

/-- A gateway that the handler of a route finds is told of as before; those that it gives up are not stored. -/
theorem RouteDeployments.Inv.announce {key : ResourceKey} (h : σ.Inv config)
    (horderly : (DeploymentsStep.announce key).Orderly config σ)
    (hstep : (routeDeployments config).step σ (.announce key) = some σ') : σ'.Inv config := by
  obtain ⟨g, rest, hunsent, hunannounced, ⟨ctx, hctx, hround, rfl⟩ | ⟨e, hround, rfl⟩⟩ := step_announce.1 hstep
  · have hrest : ∀ g ∈ rest, Converts config.parseUuid g := fun g' hg' =>
      h.converts key g' (by rw [hunannounced]; exact List.mem_cons_of_mem _ hg')
    refine ⟨h.sound, h.configuring, h.converts_update hrest, h.counts, h.todo, h.alone, h.unlisted, ?_⟩
    have hsame : RouteDeployments.board config.isIpAddr { σ with
        unsent := Function.update σ.unsent key [.addGateway ctx]
        unannounced := Function.update σ.unannounced key rest } = σ.board config.isIpAddr := by
      unfold RouteDeployments.board
      congr 1
      funext k
      by_cases hk : k = key
      · subst hk
        simp only [Function.update_self]
        rw [hunsent, hunannounced, notices, notices, List.map_singleton, List.map_cons, ← hctx]
        rfl
      · simp only [Function.update_of_ne hk]
    rw [hsame]
    exact h.told
  · have hgone : ∀ g ∈ σ.unannounced key, g.resourceKey ∉ σ.stores.state.gateways := by
      refine horderly ?_
      rw [hunannounced, List.take_succ_cons, List.take_zero, hround]
      exact fun heq => by cases heq
    refine ⟨h.sound, h.configuring, h.converts_update (List.forall_mem_nil _), h.counts, h.todo, h.alone, h.unlisted,
      h.told.move (.withdraws ⟨⟨rfl, rfl, rfl, rfl⟩, fun k n hn => ?_, fun k n hn => ?_, rfl, rfl, rfl⟩)⟩
    · change n ∈ notices (σ.unsent k) (Function.update σ.unannounced key [] k) at hn
      show n ∈ notices (σ.unsent k) (σ.unannounced k)
      by_cases hk : k = key
      · rw [hk, Function.update_self] at hn
        rw [hk]
        exact List.mem_append_left _ ((List.mem_append.1 hn).resolve_right List.not_mem_nil)
      · rw [Function.update_of_ne hk] at hn
        exact hn
    · change n ∈ notices (σ.unsent k) (σ.unannounced k) at hn
      by_cases hk : k = key
      · subst hk
        rw [hunsent] at hn
        obtain ⟨g', hg', rfl⟩ := List.mem_map.1 ((List.mem_append.1 hn).resolve_left List.not_mem_nil)
        exact .inr ⟨_, rfl, hgone g' hg'⟩
      · refine .inl ?_
        show n ∈ notices (σ.unsent k) (Function.update σ.unannounced key [] k)
        rw [Function.update_of_ne hk]
        exact hn

theorem RouteDeployments.Inv.receive (h : σ.Inv config) (hstep : (routeDeployments config).step σ .receive = some σ') :
    σ'.Inv config := by
  obtain ⟨hhandling, htodo, request, rest, hch, rfl⟩ := step_receive.1 hstep
  refine ⟨h.sound, h.configuring, h.converts, h.counts, h.todo, fun _ => htodo, fun r affected heq => (by cases heq),
    ?_⟩
  have hsame : RouteDeployments.board config.isIpAddr
      { σ with validateChannel := rest, handling := some (.services request) } = σ.board config.isIpAddr := by
    unfold RouteDeployments.board RouteDeployments.listing
    rw [hhandling, hch]
    rfl
  rw [hsame]
  exact h.told

theorem tell_services {q : ReferenceValidateRequest} (hadd : ∀ ctx, q ≠ .addGateway ctx) (isIpAddr : String → Bool) :
    σ.tell isIpAddr (.services q) = (σ.resolver.referenceResolver.track q).map fun p =>
      { σ with
        resolver := { σ.resolver with referenceResolver := p.1 }
        handling := some (.pools q p.2) } := by
  cases q with
  | addGateway ctx => exact absurd rfl (hadd ctx)
  | _ => rfl

theorem tell_pools {q : ReferenceValidateRequest} {affected : Std.ExtTreeSet GatewayKey}
    (hadd : ∀ ctx, q ≠ .addGateway ctx) (isIpAddr : String → Bool) :
    σ.tell isIpAddr (.pools q affected) = (σ.resolver.inferencePoolReferenceResolver.track q).map fun p =>
      { σ with
        resolver := { σ.resolver with inferencePoolReferenceResolver := p.1 }
        handling := none
        todo := validateHandler (.ofList (affected.toList ++ p.2.toList)) q } := by
  cases q with
  | addGateway ctx => exact absurd rfl (hadd ctx)
  | _ => rfl

/-- A request is for a gateway that is added, or for none. -/
theorem addGateway_or_ne (q : ReferenceValidateRequest) :
    (∃ ctx, q = .addGateway ctx) ∨ ∀ ctx, q ≠ .addGateway ctx := by
  cases q with
  | addGateway ctx => exact .inl ⟨ctx, rfl⟩
  | _ => exact .inr fun ctx heq => by cases heq

theorem RouteDeployments.Inv.tellServices {q : ReferenceValidateRequest} (h : σ.Inv config)
    (hhandling : σ.handling = some (.services q)) (htodo : σ.todo = [])
    (htell : σ.tell config.isIpAddr (.services q) = some σ') : σ'.Inv config := by
  rcases addGateway_or_ne q with ⟨ctx, rfl⟩ | hadd
  · obtain rfl := Option.some.inj htell
    refine ⟨h.sound, h.configuring, h.converts, h.counts, h.todo, fun _ => htodo, fun r affected heq => (by cases heq),
      ?_⟩
    have hsame : RouteDeployments.board config.isIpAddr { σ with
        handling := some (.listServices ctx (σ.mappingOf config.isIpAddr Route.serviceReferences ctx)) } =
        σ.board config.isIpAddr := by
      unfold RouteDeployments.board RouteDeployments.listing
      rw [hhandling]
      rfl
    rw [hsame]
    exact h.told
  · rw [tell_services hadd] at htell
    obtain ⟨⟨services, affected⟩, htrack, rfl⟩ := Option.map_eq_some_iff.1 htell
    obtain ⟨p, hp, hcounts⟩ := MultiReferencesResolver.counts_track h.counts.1 q
    obtain rfl := Option.some.inj (hp.symm.trans htrack)
    have htracked := MultiReferencesResolver.track_spec htrack
    refine ⟨h.sound, h.configuring, h.converts, ⟨hcounts, h.counts.2⟩, h.todo, fun _ => htodo,
      fun r affected' heq g hg => ?_, h.told.move (.prepares (prepares_of_services hhandling htracked))⟩
    obtain ⟨rfl, rfl⟩ := Handling.pools.inj (Option.some.inj heq)
    exact ((htracked.1 g r).1 hg).2 rfl

theorem RouteDeployments.Inv.listServices {ctx : RequestContext} {mapping : RouteToReferenceMapping} (h : σ.Inv config)
    (hhandling : σ.handling = some (.listServices ctx mapping)) (htodo : σ.todo = [])
    (htell : σ.tell config.isIpAddr (.listServices ctx mapping) = some σ') : σ'.Inv config := by
  obtain ⟨services, hadd, rfl⟩ := Option.map_eq_some_iff.1 htell
  obtain ⟨_, hadd', hcounts⟩ := MultiReferencesResolver.counts_add h.counts.1 ctx.gateway.resourceKey mapping
  obtain rfl := Option.some.inj (hadd'.symm.trans hadd)
  exact ⟨h.sound, h.configuring, h.converts, ⟨hcounts, h.counts.2⟩, h.todo, fun _ => htodo,
    fun r affected heq => (by cases heq), h.told.move (.prepares (prepares_of_listServices hhandling hadd))⟩

theorem RouteDeployments.Inv.tellPools {q : ReferenceValidateRequest} {affected : Std.ExtTreeSet GatewayKey}
    (h : σ.Inv config) (hhandling : σ.handling = some (.pools q affected)) (htodo : σ.todo = [])
    (htell : σ.tell config.isIpAddr (.pools q affected) = some σ') : σ'.Inv config := by
  have hboard : (σ.board config.isIpAddr).todo = (Handling.pools q affected).affected := by
    show (σ.handling.map Handling.affected).getD [] ++ σ.todo.filterMap Action.target? = _
    rw [hhandling, htodo]
    exact List.append_nil _
  have hchannel : (σ.board config.isIpAddr).channel = q.notice :: σ.validateChannel.map (·.notice) := by
    show (σ.handling.bind Handling.notice?).toList ++ _ = _
    rw [hhandling]
    rfl
  rcases addGateway_or_ne q with ⟨ctx, rfl⟩ | hadd
  · obtain rfl := Option.some.inj htell
    obtain ⟨pools, hpools, -⟩ := MultiReferencesResolver.counts_add h.counts.2 ctx.gateway.resourceKey
      (σ.mappingOf config.isIpAddr Route.inferencePoolReferences ctx)
    refine ⟨h.sound, h.configuring, h.converts, h.counts, h.todo, fun _ => htodo, fun r affected heq => (by cases heq),
      h.told.move (.receives ⟨⟨rfl, rfl, rfl, rfl⟩, rfl, fun g hg => ?_, .refresh ctx.gateway.resourceKey, hchannel,
        handled_of_read h.sound.byKey hhandling hpools⟩)⟩
    rw [hboard] at hg
    exact absurd hg List.not_mem_nil
  · rw [tell_pools hadd] at htell
    obtain ⟨⟨pools, affected'⟩, htrack, rfl⟩ := Option.map_eq_some_iff.1 htell
    obtain ⟨p, hp, hcounts⟩ := MultiReferencesResolver.counts_track h.counts.2 q
    obtain rfl := Option.some.inj (hp.symm.trans htrack)
    have hunlisted : ∀ r, q = .deleteRoute r → ∀ g, ¬ σ.resolver.referenceResolver.Lists g r := by
      rintro r rfl
      exact h.unlisted r affected hhandling
    refine ⟨h.sound, h.configuring, h.converts, ⟨h.counts.1, hcounts⟩, target_validateHandler _ q,
      fun hsome => (by cases hsome), fun r affected heq => (by cases heq), h.told.move (.receives
        ⟨⟨rfl, rfl, rfl, rfl⟩, rfl, fun g hg => ?_, q.notice, hchannel,
          handled_of_pools hadd hhandling hunlisted (MultiReferencesResolver.track_spec htrack)⟩)⟩
    rw [hboard] at hg
    exact List.mem_append_right _ (affected_todo hg)

/-- What was read is listed: nothing changes on the board. -/
theorem RouteDeployments.Inv.listPools {ctx : RequestContext} {mapping : RouteToReferenceMapping} (h : σ.Inv config)
    (hhandling : σ.handling = some (.listPools ctx mapping)) (htodo : σ.todo = [])
    (htell : σ.tell config.isIpAddr (.listPools ctx mapping) = some σ') : σ'.Inv config := by
  obtain ⟨pools, hadd, rfl⟩ := Option.map_eq_some_iff.1 htell
  obtain ⟨pools', hadd', hcounts⟩ := MultiReferencesResolver.counts_add h.counts.2 ctx.gateway.resourceKey mapping
  obtain rfl : pools = pools' := Option.some.inj (hadd.symm.trans hadd')
  refine ⟨h.sound, h.configuring, h.converts, ⟨h.counts.1, hcounts⟩, target_validateHandler ∅ (.addGateway ctx),
    fun hsome => (by cases hsome), fun r affected heq => (by cases heq), ?_⟩
  have hsame : RouteDeployments.board config.isIpAddr { σ with
      resolver := { σ.resolver with inferencePoolReferenceResolver := pools }
      handling := none
      todo := validateHandler ∅ (.addGateway ctx) } = σ.board config.isIpAddr := by
    unfold RouteDeployments.board RouteDeployments.listing
    simp only [hhandling, hadd, htodo]
    rfl
  rw [hsame]
  exact h.told

theorem RouteDeployments.Inv.track (h : σ.Inv config) (hstep : (routeDeployments config).step σ .track = some σ') :
    σ'.Inv config := by
  obtain ⟨handling, hhandling, htell⟩ := step_track.1 hstep
  have htodo : σ.todo = [] := h.alone (by rw [hhandling]; rfl)
  cases handling with
  | services q => exact h.tellServices hhandling htodo htell
  | listServices ctx mapping => exact h.listServices hhandling htodo htell
  | pools q affected => exact h.tellPools hhandling htodo htell
  | listPools ctx mapping => exact h.listPools hhandling htodo htell

theorem RouteDeployments.Inv.work (h : σ.Inv config) (hstep : (routeDeployments config).step σ .work = some σ') :
    σ'.Inv config := by
  obtain ⟨a, rest, htodo, hperform⟩ := step_work.1 hstep
  have htargets : ∀ a' ∈ a :: rest, a'.target?.isSome := htodo ▸ h.todo
  obtain ⟨hfirst, hrest⟩ := List.forall_mem_cons.1 htargets
  obtain ⟨key, hkey⟩ := Option.isSome_iff_exists.1 hfirst
  have hhandling : σ.handling = none := by
    by_contra hsome
    have hnil := h.alone (Option.isSome_iff_ne_none.2 hsome)
    rw [htodo] at hnil
    cases hnil
  have hboard : (σ.board config.isIpAddr).todo = key :: rest.filterMap Action.target? := by
    show (σ.handling.map Handling.affected).getD [] ++ σ.todo.filterMap _ = _
    rw [hhandling, htodo, List.filterMap_cons_some hkey]
    rfl
  have hrestBoard : (RouteDeployments.board config.isIpAddr { σ with todo := rest }).todo =
      rest.filterMap Action.target? := by
    show (σ.handling.map Handling.affected).getD [] ++ rest.filterMap _ = _
    rw [hhandling]
    rfl
  obtain ⟨τ, hτ, hperformed⟩ := perform_of_target (σ := { σ with todo := rest }) hkey h.sound
  obtain rfl := Option.some.inj (hτ.symm.trans hperform)
  have halone {todo : List Action} (hsome : σ.handling.isSome) : todo = [] := by
    rw [hhandling] at hsome
    cases hsome
  cases hperformed with
  | deploys =>
    refine ⟨h.sound, h.configuring, h.converts, h.counts, hrest, halone, h.unlisted, h.told.move (.works
      ⟨rfl, rfl, rfl, rfl, rfl, rfl,
      key, ?_, fun _ => Function.update_self .., fun g hg => Function.update_of_ne hg ..⟩)⟩
    exact hboard.trans (congrArg _ hrestBoard.symm)
  | gone hgone =>
    refine ⟨h.sound, h.configuring, h.converts, h.counts, hrest, halone, h.unlisted, h.told.move (.works
      ⟨rfl, rfl, rfl, rfl, rfl, rfl,
      key, ?_, fun hlive => absurd hlive hgone, fun _ _ => rfl⟩)⟩
    exact hboard.trans (congrArg _ hrestBoard.symm)
  | goesOn a' hkey' hlater =>
    have htargets' : ∀ a ∈ a' :: rest, a.target?.isSome :=
      List.forall_mem_cons.2 ⟨Option.isSome_iff_exists.2 ⟨key, hkey'⟩, hrest⟩
    refine ⟨h.sound, h.configuring, h.converts, h.counts, htargets', halone, h.unlisted, ?_⟩
    have hsame : RouteDeployments.board config.isIpAddr { σ with todo := a' :: rest } = σ.board config.isIpAddr := by
      unfold RouteDeployments.board
      rw [htodo, List.filterMap_cons_some hkey, List.filterMap_cons_some hkey']
      rfl
    rw [hsame]
    exact h.told

/-- **Every orderly step keeps the invariant.** -/
theorem RouteDeployments.Inv.step {a : DeploymentsStep} (h : σ.Inv config) (ha : a.Orderly config σ)
    (hstep : (routeDeployments config).step σ a = some σ') : σ'.Inv config := by
  cases a with
  | reconcile e => exact h.reconcile ha hstep
  | configure g configurations => exact h.configure ha hstep
  | configured key => exact h.configured hstep
  | patched c => exact h.patched ha hstep
  | save g =>
    obtain rfl := Option.some.inj hstep
    obtain ⟨hg, hconv, hknown⟩ := ha
    exact h.save hg hconv hknown
  | notify q => exact h.notify hstep
  | send key => exact h.send hstep
  | announce key => exact h.announce ha hstep
  | receive => exact h.receive hstep
  | track => exact h.track hstep
  | work => exact h.work hstep

theorem RouteDeployments.Inv.init : (routeDeployments config).init.Inv config where
  sound := ⟨.init, ⟨by simp [routeDeployments], by simp [routeDeployments]⟩,
    fun k g hg => by simp [routeDeployments, State.getGateway] at hg⟩
  configuring k g t hg := by cases hg
  converts k g hg := absurd hg List.not_mem_nil
  counts := ⟨CountsHolders.init id, CountsHolders.init id⟩
  todo a ha := absurd ha List.not_mem_nil
  alone _ := rfl
  unlisted r affected heq := by cases heq
  told := .of_quiet ⟨fun _ => rfl, rfl, rfl⟩ fun g hg => by
    simp [RouteDeployments.board, routeDeployments] at hg

/-- The invariant along an orderly run. -/
theorem inv_of_run {as : List DeploymentsStep}
    (hrun : (routeDeployments config).run (routeDeployments config).init as = some σ)
    (horderly : (routeDeployments config).Along (fun σ a => a.Orderly config σ) (routeDeployments config).init as) :
    σ.Inv config :=
  System.inv_run (fun _ _ _ hs ha hstep => hs.step ha hstep) .init horderly hrun

end Steps

end Kubvernor
