import Kubvernor.Control.FinalDeletion
import Kubvernor.Lib.Accounts

/-!
# What deployments are caused by

A gateway is deployed because it is new or its spec has changed, because one of its routes has, or because the
validator is told of a reference. Every such event causes one deploy request, and nothing else causes any: not
the responses of the backends, and not the patches of the status (`deployments_le_causes`).

So the control loop does not feed itself. The patched status comes back to the controller as an event of its own,
but it has a condition of type `Ready` (`updateGatewayResource_ready`); and where everything in flight has the
spec of the events, the stored gateway keeps it, and the events of the gateway cause nothing any more
(`settled_deployments_le`).
-/

namespace Kubvernor

open Lib TaskSystem

variable {parseUuid : String → Option Uuid} {k : GatewayKey}

/-! ## The status of a deployed gateway -/

namespace GatewayProcessedHandler

def GATEWAY_CONDITION_MESSAGE : String := "Gateway status updated by controller"

/-- `update_gateway_status_conditions`. -/
def updateGatewayStatusConditions (g : KubeGateway) : KubeGateway :=
  let status := g.status.getD {}
  let kept := (status.conditions.getD []).filter (·.type ≠ "Ready")
  let updated := kept.map fun f =>
    { f with observedGeneration := g.metadata.generation, status := "True", reason := "Ready" }
  let newCondition : Condition :=
    { type := "Ready", status := "True", reason := "Ready", message := GATEWAY_CONDITION_MESSAGE
      observedGeneration := g.metadata.generation }
  { g with status := some { status with conditions := some (updated ++ [newCondition]) } }

def addressValue : GatewayAddress → String
  | .hostname hostname => hostname
  | .ipAddress ipAddr => ipAddr
  | .namedAddress addr => addr

/-- `update_gateway_status_addresses`. -/
def updateGatewayStatusAddresses (effectiveGateway : Gateway) (g : KubeGateway) : KubeGateway :=
  { g with
    status := some { g.status.getD {} with addresses := some (effectiveGateway.addresses.map addressValue) } }

/-- `update_gateway_resource`. -/
def updateGatewayResource (effectiveGateway : Gateway) (g : KubeGateway) : KubeGateway :=
  updateGatewayStatusConditions (updateGatewayStatusAddresses effectiveGateway g)

theorem conditions_updateGatewayResource (effectiveGateway : Gateway) (g : KubeGateway) :
    (updateGatewayResource effectiveGateway g).conditions =
      (g.conditions.filter (·.type ≠ "Ready")).map (fun f =>
        { f with observedGeneration := g.metadata.generation, status := "True", reason := "Ready" }) ++
      [{ type := "Ready", status := "True", reason := "Ready", message := GATEWAY_CONDITION_MESSAGE
         observedGeneration := g.metadata.generation }] := by
  cases hstatus : g.status <;>
    simp [updateGatewayResource, updateGatewayStatusConditions, updateGatewayStatusAddresses,
      KubeGateway.conditions, hstatus]

/-- **The status that is written is ready.** -/
theorem updateGatewayResource_ready (effectiveGateway : Gateway) (g : KubeGateway) :
    (updateGatewayResource effectiveGateway g).Ready := by
  unfold KubeGateway.Ready
  rw [conditions_updateGatewayResource]
  exact ⟨_, List.mem_append_right _ (List.mem_singleton_self _), rfl⟩

/-- Writing it once more changes nothing. -/
theorem updateGatewayResource_idem (effectiveGateway : Gateway) (g : KubeGateway) :
    updateGatewayResource effectiveGateway (updateGatewayResource effectiveGateway g) =
      updateGatewayResource effectiveGateway g := by
  simp [updateGatewayResource, updateGatewayStatusConditions, updateGatewayStatusAddresses, List.filter_map,
    List.filter_filter, Function.comp_def]

end GatewayProcessedHandler

theorem KubeGateway.ready_congr {g g' : KubeGateway} (h : g.status = g'.status) : g.Ready ↔ g'.Ready := by
  simp [Ready, conditions, h]

/-! ## Causes and demands -/

/-- The handler of this state asks for a deployment. -/
def ResourceState.Asks (g : KubeGateway) : ResourceState → Prop
  | .new | .specChanged => True
  | .statusChanged => ¬ g.Ready ∧ g.Pending
  | .specNotChanged | .versionNotChanged | .statusNotChanged | .deleted => False

instance (g : KubeGateway) (r : ResourceState) : Decidable (r.Asks g) := by
  cases r <;> unfold ResourceState.Asks <;> infer_instance

def ReferenceValidateRequest.demand (k : GatewayKey) : ReferenceValidateRequest → Nat
  | .addGateway ctx => if ctx.gateway.resourceKey = k then 1 else 0
  | .updatedGateways gateways => if k ∈ gateways then 1 else 0
  | _ => 0

/-- The deploy requests of `k` that an action can still lead to. -/
def Action.demand (k : GatewayKey) : Action → Nat
  | .newOrChanged g _ | .addGatewayForRoute g => if g.resourceKey = k then 1 else 0
  | .send r => r.demand k
  | .getGatewayForRoute key | .redeploy key => if key = k then 1 else 0
  | .redeployAs _ gateway => if gateway.resourceKey = k then 1 else 0
  | .process ctx | .sendDeploy ctx => if ctx.gateway.resourceKey = k then 1 else 0
  | _ => 0

/-- The deploy requests of `k`, those there are and those there may be. -/
def demand (k : GatewayKey) : Account Pipeline Action where
  shared s := (s.deployedOf k).length + (s.validateChannel.map (·.demand k)).sum
  action := Action.demand k

/-- The causes for a deployment of `k` that come from its own events. -/
def ownCauses (k : GatewayKey) (c : PipelineConfig) : PipelineStep → Nat
  | .start (.controller _) (.reconcile g _) =>
    if g.resourceKey = k ∧ (c.shared.resourceState g).Asks g then 1 else 0
  | _ => 0

/-- The causes that come from routes and references. -/
def otherCauses (k : GatewayKey) (c : PipelineConfig) : PipelineStep → Nat
  | .start (.route _) (.reconcileRoute parents) => parents.count k
  | .start .validator (.receive affected) =>
    match c.shared.validateChannel.head? with
    | some (.deleteRoute _) => if k ∈ affected then 1 else 0
    | _ => 0
  | .start .other (.notify r) => r.demand k
  | _ => 0

def causes (k : GatewayKey) (c : PipelineConfig) (x : PipelineStep) : Nat := ownCauses k c x + otherCauses k c x

/-! ## What a step adds -/

section
variable {s s' : Pipeline} {t : Task} {a : Action} {rest p : List Action}

theorem sum_redeploy (keys : List GatewayKey) : (demand k).program (keys.map .redeploy) = keys.count k := by
  induction keys with
  | nil => rfl
  | cons key keys ih =>
    rw [List.map_cons, Account.program_cons, ih, List.count_cons, Nat.add_comm]
    simp [demand, Action.demand]

theorem sum_getGatewayForRoute (keys : List GatewayKey) :
    (demand k).program (keys.map .getGatewayForRoute) = keys.count k := by
  induction keys with
  | nil => rfl
  | cons key keys ih =>
    rw [List.map_cons, Account.program_cons, ih, List.count_cons, Nat.add_comm]
    simp [demand, Action.demand]

theorem count_gatewayKeys (keys : Std.ExtTreeSet GatewayKey) : keys.toList.count k = if k ∈ keys then 1 else 0 := by
  rw [(nodup_toList_set keys).count]
  exact if_congr Std.ExtTreeSet.mem_toList rfl rfl

@[simp] theorem shared_sendRequest (r : ReferenceValidateRequest) :
    (demand k).shared (s.sendRequest r) = (demand k).shared s + r.demand k := by
  simp [demand, Pipeline.sendRequest, Pipeline.deployedOf, Nat.add_assoc]

/-- An action leads to no more than it can lead to. -/
theorem Executes.demand_le (hr : Executes parseUuid s rest a s' p)
    (hstored : ∀ key g, s.state.getGateway key = some g → g.resourceKey = key) :
    (demand k).shared s' + (demand k).program p ≤ (demand k).shared s + (demand k).program (a :: rest) := by
  cases hr with
  | saveGateway | maybeSaveGateway | saveGatewayType | deleteGateway | deleteGatewayType | awaitDeleted
  | sendBackend | routeUnmatched | redeployMissing | redeployUntyped | patchFailed =>
    exact Nat.add_le_add_left (Nat.le_add_left ..) _
  | misconfigured | routeGivesUp | routeAborts | redeployAborts => exact Nat.add_le_add_left (Nat.zero_le _) _
  | accepted g type gateway hgw =>
    have hkey : (demand k).action (.send (.addGateway
        { gateway := gateway, kubeGateway := g, gatewayClassName := g.spec.gatewayClassName })) =
        (demand k).action (.newOrChanged g type) := by
      show (if gateway.resourceKey = k then 1 else 0) = if g.resourceKey = k then 1 else 0
      rw [(Gateway.tryFrom_key hgw).1]
    refine Nat.add_le_add_left ?_ _
    rw [Account.program_cons, Account.program_cons, Account.program_cons, hkey, Account.program_nil]
    show 0 + (_ + 0) ≤ _ + _
    omega
  | deleteDeployed key g type gateway =>
    refine Nat.add_le_add_left ?_ _
    show 0 + (0 + (0 + _)) ≤ 0 + _
    omega
  | send q =>
    rw [shared_sendRequest, Account.program_cons, Nat.add_assoc]
    rfl
  | routeMatched key g hg =>
    obtain rfl := hstored key g hg
    rw [Account.program_append, Account.program_cons, Account.program_cons, Account.program_nil, Nat.add_zero,
      Nat.add_comm ((demand k).program rest)]
    rfl
  | routeAdds g gateway type hgw =>
    have hkey := (Gateway.tryFrom_key hgw).1
    refine Nat.add_le_add_left (Nat.add_le_add_right (Nat.le_of_eq ?_) _) _
    show (if gateway.resourceKey = k then 1 else 0) = if g.resourceKey = k then 1 else 0
    rw [hkey]
  | redeploys key g hg gateway hgw =>
    have hkey := (Gateway.tryFrom_key hgw).1
    refine Nat.add_le_add_left (Nat.add_le_add_right (Nat.le_of_eq ?_) _) _
    show (if gateway.resourceKey = k then 1 else 0) = if key = k then 1 else 0
    rw [hkey, hstored key g hg]
  | redeployTyped g gateway type => rfl
  | process ctx effective hkey =>
    refine Nat.add_le_add_left (Nat.add_le_add_right (Nat.le_of_eq ?_) _) _
    show (if effective.resourceKey = k then 1 else 0) = if ctx.gateway.resourceKey = k then 1 else 0
    rw [hkey]
  | sendDeploy ctx =>
    simp only [demand, Pipeline.deployedOf, List.filter_append, List.length_append, List.filter_singleton,
      Account.program, List.map_cons, List.sum_cons, Action.demand]
    split
    · simp_all; omega
    · simp_all
  | patched p => exact Nat.le_refl _
  | patchedReady p =>
    refine Nat.add_le_add_left ?_ _
    show 0 + (0 + _) ≤ 0 + _
    omega

theorem program_gatewayHandler (g : KubeGateway) (type : GatewayImplementationType) (r : ResourceState) :
    (demand k).program (gatewayHandler g.resourceKey g type r) = if g.resourceKey = k ∧ r.Asks g then 1 else 0 := by
  have hasked : (demand k).program [.newOrChanged g type] = if g.resourceKey = k then 1 else 0 := rfl
  have hsaved : (demand k).program [.saveGateway .new g.resourceKey g, .newOrChanged g type] =
      if g.resourceKey = k then 1 else 0 := (Nat.zero_add _).trans hasked
  cases r with
  | new => simpa [gatewayHandler, ResourceState.Asks] using hsaved
  | specChanged => simpa [gatewayHandler, ResourceState.Asks] using hasked
  | statusChanged =>
    by_cases hready : g.Ready
    · simp [gatewayHandler, ResourceState.Asks, hready, demand, Action.demand]
    · by_cases hpending : g.Pending
      · simpa [gatewayHandler, ResourceState.Asks, hready, hpending] using hasked
      · simp [gatewayHandler, ResourceState.Asks, hready, hpending]
  | specNotChanged | versionNotChanged | statusNotChanged | deleted =>
    simp [gatewayHandler, ResourceState.Asks, demand, Action.demand]

/-- A task starts on what its event causes, or on what it takes out of a channel. -/
theorem startTask_demand_le {c : PipelineConfig} {e : Event} {r : Pipeline × List Action}
    (hr : startTask parseUuid t e c.shared = some r) :
    (demand k).shared r.1 + (demand k).program r.2 ≤ (demand k).shared c.shared + causes k c (.start t e) := by
  have hstart := starts_of_startTask hr
  obtain ⟨s', p⟩ := r
  cases t with
  | controller key =>
    cases e with
    | reconcile g type =>
      simp only [startTask] at hr
      split at hr
      · rename_i hkey
        obtain ⟨rfl, rfl⟩ := Prod.mk.inj (Option.some.inj hr)
        rw [← hkey.1, program_gatewayHandler]
        exact Nat.le_refl _
      · cases hr
    | _ => cases hr
  | route key =>
    cases e with
    | reconcileRoute parents =>
      obtain ⟨rfl, rfl⟩ := Prod.mk.inj (Option.some.inj hr)
      rw [sum_getGatewayForRoute]
      exact Nat.add_le_add_left (Nat.le_add_left ..) _
    | _ => cases hr
  | validator =>
    cases e with
    | receive affected =>
      simp only [startTask] at hr
      split at hr
      · cases hr
      · rename_i q qs hch
        obtain ⟨rfl, rfl⟩ := Prod.mk.inj (Option.some.inj hr)
        have hshared : (demand k).shared c.shared =
            (demand k).shared { c.shared with validateChannel := qs } + q.demand k := by
          simp only [demand, hch, List.map_cons, List.sum_cons, Pipeline.deployedOf]
          omega
        rw [hshared]
        cases q with
        | addGateway ctx => exact Nat.le_add_right _ _
        | updatedGateways gateways =>
          rw [validateHandler, sum_redeploy, count_gatewayKeys]
          exact Nat.le_add_right _ _
        | deleteRoute key =>
          rw [validateHandler, sum_redeploy, count_gatewayKeys]
          simp [causes, ownCauses, otherCauses, hch, ReferenceValidateRequest.demand]
        | addRoute key | updatedRoutes routes | deleteGateway gateway => exact Nat.le_add_right _ _
    | _ => cases hr
  | other =>
    cases e with
    | notify q =>
      simp only [startTask] at hr
      split at hr
      · cases hr
      · cases hr
      · obtain ⟨rfl, rfl⟩ := Prod.mk.inj (Option.some.inj hr)
        have hcauses : causes k c (.start .other (.notify q)) = q.demand k := Nat.zero_add _
        rw [shared_sendRequest, hcauses]
        exact Nat.le_refl _
    | _ => cases hr
  | deployer | backend type | poll =>
    cases hstart <;> exact Nat.le_add_right _ _

/-- **Every step of the pipeline pays for what it leads to.** -/
theorem demand_paid (parseUuid : String → Option Uuid) (k : GatewayKey) :
    (demand k).Paid (pipeline parseUuid) (causes k) WellKeyed where
  start _ _ _ _ _ hr := startTask_demand_le hr
  exec _ _ _ _ _ _ hc _ hr :=
    ((executes_of_execAction hr).demand_le hc.shared.stored).trans (Nat.le_add_right _ _)

end

/-- What is deployed and asked for has been caused. -/
theorem demand_le_causes {as : List PipelineStep} {c : PipelineConfig}
    (hrun : (pipeline parseUuid).system.run (pipeline parseUuid).system.init as = some c) (k : GatewayKey) :
    (demand k).shared c.shared ≤
      (pipeline parseUuid).system.cost (causes k) (pipeline parseUuid).system.init as := by
  have hnone (T : Finset Task) : (demand k).total T (pipeline parseUuid).system.init ≤ 0 :=
    (Account.total_init T).le
  have htotal := (demand_paid parseUuid k).run (fun _ _ _ hc _ hstep => wellKeyed_step hc hstep)
    wellKeyed_init hnone System.along_any hrun ∅
  rw [Nat.zero_add] at htotal
  exact (Account.shared_le_total _ ∅ c).trans htotal

/-- **There are no more deployments than causes**, in any run of the pipeline: the deploy requests of a gateway are at
most as many as the events that ask for one. -/
theorem deployments_le_causes {as : List PipelineStep} {c : PipelineConfig}
    (hrun : (pipeline parseUuid).system.run (pipeline parseUuid).system.init as = some c) (k : GatewayKey) :
    (c.shared.deployedOf k).length ≤
      (pipeline parseUuid).system.cost (causes k) (pipeline parseUuid).system.init as :=
  (Nat.le_add_right _ _).trans (demand_le_causes hrun k)

theorem deployments_le_causes_deployedRun : ∃ c,
    (pipeline parseSomeUid).system.run (pipeline parseSomeUid).system.init deployedRun = some c ∧
      (c.shared.deployedOf liveGateway.resourceKey).length = 1 ∧
      (c.shared.deployedOf liveGateway.resourceKey).length ≤
        (pipeline parseSomeUid).system.cost (causes liveGateway.resourceKey)
          (pipeline parseSomeUid).system.init deployedRun := by
  obtain ⟨c, hrun, -, -, -, hdeployed⟩ := deployedRun_settles
  exact ⟨c, hrun, hdeployed, deployments_le_causes hrun liveGateway.resourceKey⟩

/-! ## A gateway that has settled -/

section
variable (k : GatewayKey) (spec : GatewaySpec)

/-- An object under the key of the gateway has the spec. -/
def OfSpec : GatewayKey → KubeGateway → Prop := fun key g => key = k → g.spec = spec

/-- The action stores the gateway with this spec only, and does not delete it. -/
def Action.KeepsSpec : Action → Prop
  | .saveGateway _ key g | .maybeSaveGateway key g => key = k → g.spec = spec
  | .newOrChanged g _ => g.resourceKey = k → g.spec = spec
  | .deleteGateway key => key ≠ k
  | _ => True

/-- The gateway is stored with the spec, and so is everything of it in flight; it is not about to be deleted. -/
structure Settled (c : PipelineConfig) : Prop where
  stored : ∃ g, c.shared.state.getGateway k = some g ∧ g.spec = spec
  inFlight : LocalInv (Pipeline.Carries (OfSpec k spec))
    (fun _ _ p => ∀ a ∈ p, a.Carries (OfSpec k spec) ∧ a.KeepsSpec k spec) c

/-- The status is one the deployer has written, or it has no pending condition. -/
def KubeGateway.Quiet (g : KubeGateway) : Prop :=
  (∃ effectiveGateway g', g.status = (GatewayProcessedHandler.updateGatewayResource effectiveGateway g').status) ∨
    ¬ g.Pending

/-- The gateway is reconciled with the spec only, is not deleted, and its status is quiet; the API server answers
with the spec too. -/
def Steady : PipelineStep → Prop
  | .start (.controller _) (.reconcile g _) =>
    g.resourceKey = k → g.spec = spec ∧ ¬ g.metadata.IsDeletion ∧ g.Quiet
  | .next _ w => ∀ g ∈ w.answer, g.resourceKey = k → g.spec = spec
  | _ => True

end

theorem KubeGateway.Quiet.not_asks {g : KubeGateway} (h : g.Quiet) : ¬ (¬ g.Ready ∧ g.Pending) := by
  rintro ⟨hready, hpending⟩
  rcases h with ⟨effectiveGateway, g', hstatus⟩ | hpending'
  · exact hready ((KubeGateway.ready_congr hstatus).2
      (GatewayProcessedHandler.updateGatewayResource_ready effectiveGateway g'))
  · exact hpending' hpending

section
variable {spec : GatewaySpec} {s s' : Pipeline} {t : Task} {a : Action} {rest p : List Action}

theorem sourced_ofSpec (hkeyed : s.WellKeyed) (hstored : ∀ g, s.state.getGateway k = some g → g.spec = spec) :
    Sourced parseUuid (OfSpec k spec) s where
  resolve _ _ _ h := h
  read key g hg := by
    rw [hkeyed.stored key g hg]
    rintro rfl
    exact hstored g hg
  resave g g₀ hg₀ hspec _ := by
    rintro rfl
    exact hspec.trans (hstored g₀ hg₀)

theorem gatewayHandler_keepsSpec {g : KubeGateway} {type : GatewayImplementationType}
    (h : g.resourceKey = k → g.spec = spec ∧ ¬ g.metadata.IsDeletion) :
    ∀ a ∈ gatewayHandler g.resourceKey g type (s.resourceState g), a.KeepsSpec k spec := by
  intro a ha
  rcases gatewayHandler_mem ha with ⟨-, rfl⟩ | ⟨-, rfl⟩ | ⟨-, rfl⟩ | ⟨-, rfl⟩ | ⟨-, rfl⟩ | ⟨hdel, rfl | rfl⟩
  · exact fun hk => (h hk).1
  · exact fun hk => (h hk).1
  · exact fun hk => (h hk).1
  · exact fun hk => (h hk).1
  · exact fun hk => (h hk).1
  · intro hk
    exact (h hk).2 ((checkStatus_eq_deleted_iff
      (fun r r' => by unfold checkSpecChanged; split <;> simp)
      (fun r r' => by unfold checkStatusChanged; split <;> simp)).1 hdel)
  · trivial

/-- What a task starts on keeps to the spec, if that of a controller does. -/
theorem Starts.keepsSpec (hr : Starts parseUuid s t s' p) (h : s.Carries (OfSpec k spec))
    (hcontroller : ∀ key, t = .controller key → ∀ a ∈ p, a.KeepsSpec k spec) : ∀ a ∈ p, a.KeepsSpec k spec := by
  intro a ha
  cases hr with
  | reconcile g type huid => exact hcontroller _ rfl a ha
  | reconcileRoute key parents =>
    obtain ⟨key', -, rfl⟩ := List.mem_map.1 ha
    trivial
  | receiveOther q rest hch hq keys =>
    obtain ⟨key', -, rfl⟩ := List.mem_map.1 ha
    trivial
  | receiveAdd ctx rest hch =>
    obtain rfl := List.mem_singleton.1 ha
    trivial
  | receiveDeploy ctx rest hch =>
    obtain rfl := List.mem_singleton.1 ha
    trivial
  | receiveContext ctx rest hch =>
    rcases List.mem_pair.1 ha with rfl | rfl
    · exact h.response ctx (hch ▸ List.mem_cons_self)
    · trivial
  | receiveProcessed | backendFailed | backendAddressed | backendPolling | backendDeleted
  | pollAnswered | notify => simp at ha

theorem Executes.keepsSpec (hr : Executes parseUuid s rest a s' p)
    (hanswer : ∀ key g, a = .awaitPatch key → .saveGateway .patched key g ∈ p → key = k → g.spec = spec)
    (h : ∀ b ∈ a :: rest, b.KeepsSpec k spec) : ∀ b ∈ p, b.KeepsSpec k spec := by
  obtain ⟨ha, hrest⟩ := List.forall_mem_cons.1 h
  cases hr with
  | accepted g type gateway hgw =>
    intro b hb
    rcases List.mem_pair.1 hb with rfl | rfl <;> trivial
  | deleteDeployed key g type gateway =>
    simp only [List.forall_mem_cons]
    exact ⟨trivial, trivial, trivial, hrest⟩
  | routeMatched key g hg =>
    intro b hb
    rcases List.mem_append.1 hb with hb | hb
    · exact hrest b hb
    · obtain rfl := List.mem_singleton.1 hb
      trivial
  | routeAdds | redeploys | redeployTyped | process => exact List.forall_mem_cons.2 ⟨trivial, hrest⟩
  | patched p =>
    have hspec := hanswer p.resourceKey p rfl List.mem_cons_self
    exact List.forall_mem_cons.2 ⟨hspec, hrest⟩
  | patchedReady p =>
    have hspec := hanswer p.resourceKey p rfl List.mem_cons_self
    exact List.forall_mem_cons.2 ⟨hspec, List.forall_mem_cons.2 ⟨hspec, hrest⟩⟩
  | misconfigured | routeGivesUp | routeAborts | redeployAborts => simp
  | saveGateway | maybeSaveGateway | saveGatewayType | deleteGateway | deleteGatewayType | awaitDeleted
  | send | sendBackend | routeUnmatched | redeployMissing | redeployUntyped | sendDeploy
  | patchFailed => exact hrest

/-- The gateway stays in the store, with its spec. -/
theorem Executes.stored (hr : Executes parseUuid s rest a s' p) (ha : a.KeepsSpec k spec)
    (h : ∃ g, s.state.getGateway k = some g ∧ g.spec = spec) :
    ∃ g, s'.state.getGateway k = some g ∧ g.spec = spec := by
  obtain ⟨g, hg, hspec⟩ := h
  cases hr with
  | saveGateway reason key g' =>
    by_cases hkey : key = k
    · exact ⟨g', by simp [Pipeline.save, hkey], ha hkey⟩
    · exact ⟨g, by simp [Pipeline.save, hkey, hg], hspec⟩
  | maybeSaveGateway key g' =>
    by_cases hkey : key = k
    · exact ⟨g', by simp [State.getGateway_maybeSaveGateway, hkey, hg], ha hkey⟩
    · exact ⟨g, by simp [State.getGateway_maybeSaveGateway, hkey, hg], hspec⟩
  | deleteGateway key =>
    have hne : key ≠ k := ha
    exact ⟨g, by simp [hne, hg], hspec⟩
  | _ => exact ⟨g, hg, hspec⟩

end

section
variable {spec : GatewaySpec} {c c' : PipelineConfig} {x : PipelineStep} {as bs : List PipelineStep}

/-- **A steady step leaves the gateway settled.** -/
theorem Settled.step (hkeyed : WellKeyed c) (h : Settled k spec c) (hx : Steady k spec x)
    (hstep : (pipeline parseUuid).system.step c x = some c') : Settled k spec c' := by
  obtain ⟨g, hg, hspec⟩ := h.stored
  have hsrc : Sourced parseUuid (OfSpec k spec) c.shared := by
    refine sourced_ofSpec hkeyed.shared fun g' hg' => ?_
    obtain rfl := Option.some.inj (hg.symm.trans hg')
    exact hspec
  constructor
  · cases x with
    | start t e =>
      obtain ⟨-, r, hr, rfl⟩ := step_start.1 hstep
      rw [Config.move_shared, (starts_of_startTask hr).frame.1]
      exact h.stored
    | next t w =>
      obtain ⟨a, rest, hp, r, hr, rfl⟩ := step_next.1 hstep
      have ha := (h.inFlight.task t a (by rw [hp]; exact List.mem_cons_self)).2
      exact (executes_of_execAction hr).stored ha h.stored
  · refine LocalInv.step (fun c x => Sourced parseUuid (OfSpec k spec) c.shared ∧ Steady k spec x) h.inFlight
      ⟨hsrc, hx⟩ ?_ ?_ hstep
    · intro c t e r hc hok hidle hr
      have hstart := starts_of_startTask hr
      obtain ⟨hcarries, hp⟩ := hstart.carries hok.1 hc.shared
      refine ⟨hcarries, fun a ha => ⟨hp a ha, hstart.keepsSpec hc.shared ?_ a ha⟩, fun _ _ _ h => h⟩
      rintro key rfl
      cases e with
      | reconcile g type =>
        simp only [pipeline, startTask] at hr
        split at hr
        · rename_i hkey
          obtain ⟨rfl, -⟩ := hkey
          obtain rfl := Option.some.inj hr
          refine gatewayHandler_keepsSpec fun hk => ?_
          exact ⟨(hok.2 hk).1, (hok.2 hk).2.1⟩
        · cases hr
      | _ => cases hr
    · intro c t a rest w r hc hok hp hr
      have hexec := executes_of_execAction hr
      have hprog := hc.task t
      rw [hp] at hprog
      have hnew : ∀ g type, a = .newOrChanged g type → Converts parseUuid g → OfSpec k spec g.resourceKey g := by
        rintro g type rfl -
        exact (hprog _ List.mem_cons_self).2
      have hanswer : ∀ key g, a = .awaitPatch key → .saveGateway .patched key g ∈ r.2 → key = k →
          g.spec = spec := by
        rintro key g rfl hmem hk
        have hrest : .saveGateway .patched key g ∈ rest → g.spec = spec :=
          fun hmem => (hprog _ (List.mem_cons_of_mem _ hmem)).2 hk
        simp only [pipeline, execAction] at hr
        split at hr
        · obtain rfl := Option.some.inj hr
          exact hrest hmem
        · rename_i p hp'
          split at hr
          · rename_i hkey
            obtain rfl := Option.some.inj hr
            rcases List.mem_cons.1 hmem with hmem | hmem
            · obtain rfl : g = p := (Action.saveGateway.inj hmem).2.2
              exact hok.2 g hp' (hkey.trans hk)
            · refine hrest ?_
              split at hmem
              · exact (List.mem_cons.1 hmem).resolve_left (by simp)
              · exact hmem
          · cases hr
      obtain ⟨hcarries, hp'⟩ := hexec.carries hok.1 hc.shared (fun b hb => (hprog b hb).1) hnew
      have hkeeps := hexec.keepsSpec hanswer fun b hb => (hprog b hb).2
      exact ⟨hcarries, fun b hb => ⟨hp' b hb, hkeeps b hb⟩, fun _ _ _ h => h⟩

/-- The events of a settled gateway cause nothing. -/
theorem Settled.ownCauses_eq (h : Settled k spec c) (hx : Steady k spec x) : ownCauses k c x = 0 := by
  cases x with
  | next t w => rfl
  | start t e =>
    cases t with
    | controller key =>
      cases e with
      | reconcile g type =>
        refine if_neg ?_
        rintro ⟨rfl, hasks⟩
        obtain ⟨hspec, hdel, hquiet⟩ := hx rfl
        obtain ⟨g₀, hg₀, hspec₀⟩ := h.stored
        have hsame : checkSpecChanged g g₀ = .specNotChanged := if_pos (hspec.trans hspec₀.symm)
        rw [Pipeline.resourceState, checkStatus_of_not_deletion hdel, hg₀] at hasks
        simp only [hsame, if_true] at hasks
        split_ifs at hasks
        · exact hasks
        · unfold checkStatusChanged at hasks
          split_ifs at hasks
          · exact hasks
          · exact hquiet.not_asks hasks
      | _ => rfl
    | _ => cases e <;> rfl

/-- **A settled gateway is only deployed again for its routes and references.** From a state in which everything
stored and in flight of the gateway has the spec, in a run whose reconcile events of the gateway bring this spec
with a quiet status, there are no more deployments than the causes so far and those that come from routes and
references: what the deployer writes does not make the controller deploy again. -/
theorem settled_deployments_le (hrun : (pipeline parseUuid).system.run (pipeline parseUuid).system.init as = some c)
    (hsettled : Settled k spec c) (hbs : ∀ x ∈ bs, Steady k spec x)
    (hrun' : (pipeline parseUuid).system.run c bs = some c') :
    (c'.shared.deployedOf k).length ≤
      (pipeline parseUuid).system.cost (causes k) (pipeline parseUuid).system.init as +
        (pipeline parseUuid).system.cost (otherCauses k) c bs := by
  have hle := (Nat.le_add_right _ _).trans (demand_le_causes (System.run_append.2 ⟨c, hrun, hrun'⟩) k)
  rw [System.cost_append hrun] at hle
  have hinv : ∀ c x c', WellKeyed c ∧ Settled k spec c → True ∧ Steady k spec x →
      (pipeline parseUuid).system.step c x = some c' → WellKeyed c' ∧ Settled k spec c' :=
    fun _ _ _ hc hx hstep => ⟨wellKeyed_step hc.1 hstep, hc.2.step hc.1 hx.2 hstep⟩
  refine hle.trans (Nat.add_le_add_left (System.cost_le_cost (I := fun c => WellKeyed c ∧ Settled k spec c)
    (fun c x hc hx => ?_) hinv ⟨wellKeyed_of_run hrun, hsettled⟩ (System.along_any.and_forall hbs)) _)
  rw [causes, hc.2.ownCauses_eq hx.2, Nat.zero_add]

end

/-! ## The patched status comes back -/

/-- The gateway with the status the deployer writes. -/
def patchedGateway : KubeGateway :=
  { GatewayProcessedHandler.updateGatewayResource { id := 1, resourceKey := liveGateway.resourceKey } liveGateway with
    metadata := { liveGateway.metadata with resourceVersion := some "2" } }

/-- The gateway is reconciled with the patched status, and then a reference of it changes. -/
def afterPatch : List PipelineStep :=
  [.start (.controller liveGateway.resourceKey) (.reconcile patchedGateway .envoy),
    .next (.controller liveGateway.resourceKey) {},
    .start .other (.notify (.updatedGateways {liveGateway.resourceKey})),
    .start .validator (.receive ∅), .next .validator {}, .next .validator {}, .next .validator {},
    .next .validator {}]

theorem afterPatch_steady : ∀ x ∈ afterPatch, Steady liveGateway.resourceKey liveGateway.spec x := by
  have hquiet : patchedGateway.Quiet := .inl ⟨_, _, rfl⟩
  intro x hx
  simp only [afterPatch, List.mem_cons, List.not_mem_nil, or_false] at hx
  rcases hx with rfl | rfl | rfl | rfl | rfl | rfl | rfl | rfl
  · exact fun _ => ⟨rfl, by decide, hquiet⟩
  all_goals first | trivial | exact fun _ h => nomatch h

/-- The patched status deploys nothing, and the reference once more. -/
theorem settled_deployments_le_patched : ∃ c', (pipeline parseSomeUid).system.run (pipeline parseSomeUid).system.init
      (deployedRun ++ afterPatch) = some c' ∧
    (c'.shared.deployedOf liveGateway.resourceKey).length = 2 ∧
      (c'.shared.deployedOf liveGateway.resourceKey).length ≤ 1 + 1 := by
  have h : ((pipeline parseSomeUid).system.run (pipeline parseSomeUid).system.init (deployedRun ++ afterPatch)).map
      (fun c => (c.shared.deployedOf liveGateway.resourceKey).length) = some 2 := by decide
  have hcost : (pipeline parseSomeUid).system.cost (causes liveGateway.resourceKey)
      (pipeline parseSomeUid).system.init deployedRun = 1 := by decide
  obtain ⟨c', hrun, hdeployed⟩ := Option.map_eq_some_iff.1 h
  obtain ⟨c, hrun₀, hrun'⟩ := System.run_append.1 hrun
  obtain ⟨c₀, hrun₀', hempty, hprogram, hstored, -⟩ := deployedRun_settles
  obtain rfl : c = c₀ := Option.some.inj (hrun₀.symm.trans hrun₀')
  have hsettled : Settled liveGateway.resourceKey liveGateway.spec c :=
    ⟨Option.map_eq_some_iff.1 hstored, hempty.carries, fun t => by simp [hprogram t]⟩
  refine ⟨c', hrun, hdeployed, ?_⟩
  have hother : ((pipeline parseSomeUid).system.run (pipeline parseSomeUid).system.init deployedRun).map
      (fun c => (pipeline parseSomeUid).system.cost (otherCauses liveGateway.resourceKey) c afterPatch) = some 1 := by
    decide
  rw [hrun₀, Option.map_some] at hother
  have hle := settled_deployments_le hrun₀ hsettled afterPatch_steady hrun'
  rwa [hcost, Option.some.inj hother] at hle

end Kubvernor
