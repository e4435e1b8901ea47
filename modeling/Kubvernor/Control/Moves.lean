import Kubvernor.Control.Pipeline

/-!
# The moves of the pipeline

`Starts` and `Executes` list what the tasks of the pipeline can do, one constructor for each way a
move can go; `starts_of_startTask` and `executes_of_execAction` invert the step functions into them.
Every invariant of the pipeline is a case analysis over these constructors.
-/

namespace Kubvernor

open Lib

variable (parseUuid : String → Option Uuid)

/-- The state of a reconciled gateway against what is stored. -/
abbrev Pipeline.resourceState (s : Pipeline) (g : KubeGateway) : ResourceState :=
  checkStatus KubeGateway.metadata checkSpecChanged checkStatusChanged g (s.state.getGateway g.resourceKey)

/-- An idle task of `s` starts: the shared state after the event and the program of the task. -/
inductive Starts (s : Pipeline) : Task → Pipeline → List Action → Prop
  | reconcile (g : KubeGateway) (type : GatewayImplementationType)
      (huid : (parseUuid (g.metadata.uid.getD "")).isSome) :
      Starts s (.controller g.resourceKey) s (gatewayHandler g.resourceKey g type (s.resourceState g))
  | reconcileRoute (key : RouteKey) (parents : List GatewayKey) :
      Starts s (.route key) s (parents.map .getGatewayForRoute)
  | receiveAdd (ctx : RequestContext) (rest : List ReferenceValidateRequest)
      (hch : s.validateChannel = .addGateway ctx :: rest) :
      Starts s .validator { s with validateChannel := rest } [.process ctx]
  | receiveOther (q : ReferenceValidateRequest) (rest : List ReferenceValidateRequest)
      (hch : s.validateChannel = q :: rest) (hq : ∀ ctx, q ≠ .addGateway ctx) (keys : List GatewayKey) :
      Starts s .validator { s with validateChannel := rest } (keys.map .redeploy)
  | receiveDeploy (ctx : RequestContext) (rest : List RequestContext) (hch : s.deployChannel = ctx :: rest) :
      Starts s .deployer { s with deployChannel := rest }
        [.sendBackend ctx.gateway.backendType (.changed (changedContext ctx))]
  | receiveProcessed (q : BackendGatewayResponse) (rest : List BackendGatewayResponse)
      (hch : s.responseChannel = q :: rest) :
      Starts s .deployer { s with responseChannel := rest } []
  | receiveContext (ctx : RequestContext) (rest : List BackendGatewayResponse)
      (hch : s.responseChannel = .processedWithContext ctx :: rest) :
      Starts s .deployer { s with responseChannel := rest }
        [.saveGateway .processed ctx.gateway.resourceKey ctx.kubeGateway, .awaitPatch ctx.gateway.resourceKey]
  | backendFailed (type : GatewayImplementationType) (ctx : RequestContext) (rest : List BackendGatewayEvent)
      (hch : s.backendChannel type = .changed ctx :: rest) :
      Starts s (.backend type)
        (({ s with backendChannel := Function.update s.backendChannel type rest } : Pipeline).sendResponse
          (.processed ctx.gateway)) []
  | backendAddressed (type : GatewayImplementationType) (ctx : RequestContext) (rest : List BackendGatewayEvent)
      (hch : s.backendChannel type = .changed ctx :: rest) (addresses : List GatewayAddress) :
      Starts s (.backend type)
        (({ s with backendChannel := Function.update s.backendChannel type rest } : Pipeline).sendResponse
          (.processedWithContext (addressedContext ctx addresses))) []
  | backendPolling (type : GatewayImplementationType) (ctx : RequestContext) (rest : List BackendGatewayEvent)
      (hch : s.backendChannel type = .changed ctx :: rest) :
      Starts s (.backend type)
        { s with backendChannel := Function.update s.backendChannel type rest, polling := s.polling ++ [ctx] } []
  | backendDeleted (type : GatewayImplementationType) (gateway : Gateway) (rest : List BackendGatewayEvent)
      (hch : s.backendChannel type = .deleted gateway :: rest) :
      Starts s (.backend type)
        { s with
          backendChannel := Function.update s.backendChannel type rest
          deletedAnswers := gateway.resourceKey :: s.deletedAnswers } []
  | pollAnswered (i : Nat) (ctx : RequestContext) (hctx : s.polling[i]? = some ctx)
      (addresses : List GatewayAddress) :
      Starts s .poll
        (({ s with polling := s.polling.eraseIdx i } : Pipeline).sendResponse
          (.processedWithContext (addressedContext ctx addresses))) []
  | notify (q : ReferenceValidateRequest) (hq : ∀ ctx, q ≠ .addGateway ctx) :
      Starts s .other (s.sendRequest q) []

/-- A task of `s` executes an action with `rest` still to do: the shared state and the program after
it. -/
inductive Executes (s : Pipeline) (rest : List Action) : Action → Pipeline → List Action → Prop
  | saveGateway (reason : SaveReason) (key : GatewayKey) (g : KubeGateway) :
      Executes s rest (.saveGateway reason key g) (s.save reason key g) rest
  | maybeSaveGateway (key : GatewayKey) (g : KubeGateway) :
      Executes s rest (.maybeSaveGateway key g) { s with state := s.state.maybeSaveGateway key g } rest
  | misconfigured (g : KubeGateway) (type : GatewayImplementationType) :
      Executes s rest (.newOrChanged g type) s []
  | accepted (g : KubeGateway) (type : GatewayImplementationType) (gateway : Gateway)
      (hgw : Gateway.tryFrom parseUuid g type = .ok gateway) :
      Executes s rest (.newOrChanged g type)
        { s with history := { s.history with
            accepted := s.history.accepted.insert gateway.resourceKey g.spec } }
        [.saveGatewayType gateway.resourceKey type,
          .send (.addGateway
            { gateway := gateway, kubeGateway := g, gatewayClassName := g.spec.gatewayClassName })]
  | saveGatewayType (key : GatewayKey) (type : GatewayImplementationType) :
      Executes s rest (.saveGatewayType key type) { s with state := s.state.saveGatewayType key type } rest
  | deleteGateway (key : GatewayKey) :
      Executes s rest (.deleteGateway key)
        { s with
          state := s.state.deleteGateway key
          history := { s.history with
            accepted := s.history.accepted.erase key, deleted := s.history.deleted.insert key } } rest
  | deleteGatewayType (key : GatewayKey) (g : KubeGateway) :
      Executes s rest (.deleteGatewayType key g) { s with state := s.state.deleteGatewayType key } rest
  | deleteDeployed (key : GatewayKey) (g : KubeGateway) (type : GatewayImplementationType) (gateway : Gateway) :
      Executes s rest (.deleteGatewayType key g) { s with state := s.state.deleteGatewayType key }
        (.send (.deleteGateway gateway) :: .sendBackend type (.deleted gateway) :: .awaitDeleted key :: rest)
  | awaitDeleted (key : GatewayKey) :
      Executes s rest (.awaitDeleted key) { s with deletedAnswers := s.deletedAnswers.erase key } rest
  | send (q : ReferenceValidateRequest) : Executes s rest (.send q) (s.sendRequest q) rest
  | sendBackend (type : GatewayImplementationType) (e : BackendGatewayEvent) :
      Executes s rest (.sendBackend type e) (s.sendBackendEvent type e) rest
  | routeUnmatched (key : GatewayKey) : Executes s rest (.getGatewayForRoute key) s rest
  | routeMatched (key : GatewayKey) (g : KubeGateway) (hg : s.state.getGateway key = some g) :
      Executes s rest (.getGatewayForRoute key) s (rest ++ [.addGatewayForRoute g])
  | routeGivesUp (g : KubeGateway) : Executes s rest (.addGatewayForRoute g) s []
  | routeAborts (g : KubeGateway) (hg : ¬ Converts parseUuid g) :
      Executes s rest (.addGatewayForRoute g) s.abort []
  | routeAdds (g : KubeGateway) (gateway : Gateway) (type : GatewayImplementationType)
      (hgw : Gateway.tryFrom parseUuid g .envoy = .ok gateway) :
      Executes s rest (.addGatewayForRoute g) s
        (.send (.addGateway
          { gateway := { gateway with backendType := type }, kubeGateway := g
            gatewayClassName := g.spec.gatewayClassName }) :: rest)
  | redeployMissing (key : GatewayKey) : Executes s rest (.redeploy key) s rest
  | redeployAborts (key : GatewayKey) (g : KubeGateway) (hg : s.state.getGateway key = some g)
      (hconv : ¬ Converts parseUuid g) :
      Executes s rest (.redeploy key) s.abort []
  | redeploys (key : GatewayKey) (g : KubeGateway) (hg : s.state.getGateway key = some g) (gateway : Gateway)
      (hgw : Gateway.tryFrom parseUuid g .envoy = .ok gateway) :
      Executes s rest (.redeploy key) s (.redeployAs g gateway :: rest)
  | redeployUntyped (g : KubeGateway) (gateway : Gateway)
      (htype : s.state.getGatewayType gateway.resourceKey = none) :
      Executes s rest (.redeployAs g gateway) s rest
  | redeployTyped (g : KubeGateway) (gateway : Gateway) (type : GatewayImplementationType) :
      Executes s rest (.redeployAs g gateway) s
        (.process
          { gateway := { gateway with backendType := type }, kubeGateway := g
            gatewayClassName := g.spec.gatewayClassName } :: rest)
  | process (ctx : RequestContext) (effective : Gateway)
      (hkey : effective.resourceKey = ctx.gateway.resourceKey) :
      Executes s rest (.process ctx) s (.sendDeploy { ctx with gateway := effective } :: rest)
  | sendDeploy (ctx : RequestContext) :
      Executes s rest (.sendDeploy ctx)
        { s with
          deployChannel := s.deployChannel ++ [ctx]
          history := { s.history with deployed := s.history.deployed ++ [ctx] } } rest
  | patchFailed (key : GatewayKey) : Executes s rest (.awaitPatch key) s rest
  | patched (p : KubeGateway) :
      Executes s rest (.awaitPatch p.resourceKey) s (.saveGateway .patched p.resourceKey p :: rest)
  | patchedReady (p : KubeGateway) :
      Executes s rest (.awaitPatch p.resourceKey) s
        (.saveGateway .patched p.resourceKey p :: .saveGateway .ready p.resourceKey p :: rest)

variable {parseUuid} {s : Pipeline} {t : Task} {a : Action} {rest : List Action} {w : Choice}
  {e : Event} {r : Pipeline × List Action}

theorem starts_of_startTask (h : startTask parseUuid t e s = some r) : Starts parseUuid s t r.1 r.2 := by
  unfold startTask at h
  split at h
  · rename_i key g type
    split at h
    · rename_i hg
      obtain ⟨rfl, -, huid⟩ := hg
      obtain rfl := Option.some.inj h
      refine .reconcile g type ?_
      rcases hu : g.metadata.uid with _ | u
      · simp [hu] at huid
      · simpa [hu] using huid
    · cases h
  · obtain rfl := Option.some.inj h
    exact .reconcileRoute _ _
  · rename_i affected
    split at h
    · cases h
    · rename_i q qs hch
      obtain rfl := Option.some.inj h
      cases q with
      | addGateway ctx => exact .receiveAdd ctx qs hch
      | updatedGateways gateways => exact .receiveOther _ qs hch (by simp) gateways.toList
      | deleteRoute key => exact .receiveOther _ qs hch (by simp) affected.toList
      | addRoute key => exact .receiveOther _ qs hch (by simp) []
      | updatedRoutes routes => exact .receiveOther _ qs hch (by simp) []
      | deleteGateway gateway => exact .receiveOther _ qs hch (by simp) []
  · split at h
    · cases h
    · rename_i ctx rest hch
      obtain rfl := Option.some.inj h
      exact .receiveDeploy ctx rest hch
  · rename_i ok
    split at h
    · cases h
    · rename_i hch
      obtain rfl := Option.some.inj h
      exact .receiveProcessed _ _ hch
    · rename_i ctx rest hch
      obtain rfl := Option.some.inj h
      cases ok with
      | true => exact .receiveContext ctx rest hch
      | false => exact .receiveProcessed _ _ hch
  · rename_i type outcome
    split at h
    · cases h
    · rename_i ev rest hch
      split at h
      · obtain rfl := Option.some.inj h
        exact .backendFailed type _ rest hch
      · obtain rfl := Option.some.inj h
        exact .backendAddressed type _ rest hch _
      · obtain rfl := Option.some.inj h
        exact .backendPolling type _ rest hch
      · obtain rfl := Option.some.inj h
        exact .backendDeleted type _ rest hch
  · obtain ⟨ctx, hctx, rfl⟩ := Option.map_eq_some_iff.1 h
    exact .pollAnswered _ ctx hctx _
  · split at h
    · cases h
    · cases h
    · rename_i hnot _
      obtain rfl := Option.some.inj h
      exact .notify _ hnot
  · cases h

theorem not_converts_of_error {g : KubeGateway} {type : GatewayImplementationType} {err : GatewayError}
    (h : Gateway.tryFrom parseUuid g type = .error err) : ¬ Converts parseUuid g := by
  intro hc
  have hok := (Gateway.tryFrom_isOk (t := type)).2 hc
  rw [h] at hok
  simp [Except.isOk, Except.toBool] at hok

theorem converts_of_ok {g : KubeGateway} {type : GatewayImplementationType} {gateway : Gateway}
    (h : Gateway.tryFrom parseUuid g type = .ok gateway) : Converts parseUuid g := by
  apply (Gateway.tryFrom_isOk (t := type)).1
  rw [h]
  rfl

theorem executes_of_execAction (h : execAction parseUuid a rest w s = some r) :
    Executes parseUuid s rest a r.1 r.2 := by
  unfold execAction at h
  cases a with
  | saveGateway reason key g =>
    obtain rfl := Option.some.inj h
    exact .saveGateway reason key g
  | maybeSaveGateway key g =>
    obtain rfl := Option.some.inj h
    exact .maybeSaveGateway key g
  | newOrChanged g type =>
    simp only at h
    split at h
    · obtain rfl := Option.some.inj h
      exact .misconfigured g type
    · rename_i gateway hgw
      obtain rfl := Option.some.inj h
      exact .accepted g type gateway hgw
  | saveGatewayType key type =>
    obtain rfl := Option.some.inj h
    exact .saveGatewayType key type
  | deleteGateway key =>
    obtain rfl := Option.some.inj h
    exact .deleteGateway key
  | deleteGatewayType key g =>
    simp only at h
    split at h
    · obtain rfl := Option.some.inj h
      exact .deleteGatewayType key g
    · split at h
      · obtain rfl := Option.some.inj h
        exact .deleteGatewayType key g
      · obtain rfl := Option.some.inj h
        exact .deleteDeployed key g _ _
  | awaitDeleted key =>
    simp only [Option.ite_none_right_eq_some] at h
    obtain rfl := Option.some.inj h.2
    exact .awaitDeleted key
  | send q =>
    obtain rfl := Option.some.inj h
    exact .send q
  | sendBackend type ev =>
    obtain rfl := Option.some.inj h
    exact .sendBackend type ev
  | getGatewayForRoute key =>
    simp only at h
    split at h
    · rename_i g hg
      obtain rfl := Option.some.inj h
      by_cases hw : w.flag = true
      · simp only [hw, if_true]
        exact .routeMatched key g hg
      · simp only [hw]
        exact .routeUnmatched key
    · obtain rfl := Option.some.inj h
      exact .routeUnmatched key
  | addGatewayForRoute g =>
    simp only at h
    split at h
    · split at h
      · rename_i hgw
        obtain rfl := Option.some.inj h
        exact .routeAborts g (not_converts_of_error hgw)
      · rename_i gateway hgw
        split at h
        · obtain rfl := Option.some.inj h
          exact .routeGivesUp g
        · obtain rfl := Option.some.inj h
          exact .routeAdds g gateway _ hgw
    · obtain rfl := Option.some.inj h
      exact .routeGivesUp g
  | redeploy key =>
    simp only at h
    split at h
    · obtain rfl := Option.some.inj h
      exact .redeployMissing key
    · rename_i g hg
      split at h
      · rename_i hgw
        obtain rfl := Option.some.inj h
        exact .redeployAborts key g hg (not_converts_of_error hgw)
      · rename_i gateway hgw
        obtain rfl := Option.some.inj h
        exact .redeploys key g hg gateway hgw
  | redeployAs g gateway =>
    simp only at h
    split at h
    · rename_i htype
      obtain rfl := Option.some.inj h
      exact .redeployUntyped g gateway htype
    · obtain rfl := Option.some.inj h
      exact .redeployTyped g gateway _
  | process ctx =>
    simp only [Option.ite_none_right_eq_some] at h
    obtain ⟨⟨hkey, -⟩, h⟩ := h
    obtain rfl := Option.some.inj h
    exact .process ctx _ hkey
  | sendDeploy ctx =>
    obtain rfl := Option.some.inj h
    exact .sendDeploy ctx
  | awaitPatch key =>
    simp only at h
    split at h
    · obtain rfl := Option.some.inj h
      exact .patchFailed key
    · rename_i p _
      split at h
      · rename_i hkey
        subst hkey
        obtain rfl := Option.some.inj h
        by_cases hready : p.Ready
        · simp only [hready, if_true]
          exact .patchedReady p
        · simp only [hready, if_false]
          exact .patched p
      · cases h

end Kubvernor
