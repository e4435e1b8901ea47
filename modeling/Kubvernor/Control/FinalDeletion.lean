import Kubvernor.Control.Deletion

/-!
# Deletions that are final

What brings a deleted gateway back is in flight when the gateway is deleted: a request, a backend event or
response, a polling task, or an action that a task has still to do. Where nothing of the gateway is in flight
(`Clear`), a deletion is final: until the gateway is reconciled again it is neither stored nor deployed, whatever
requests name it and whatever its routes do (`deletion_final`).
-/

namespace Kubvernor

open Lib TaskSystem

variable {parseUuid : String → Option Uuid} {k : GatewayKey}

/-- An object under another key than `k`. -/
def Apart (k : GatewayKey) : GatewayKey → KubeGateway → Prop := fun k' _ => k' ≠ k

/-- The action does not store the gateway `k`, and it does not await what will be stored. -/
def Action.Spares (k : GatewayKey) : Action → Prop
  | .saveGateway _ key _ | .awaitPatch key => key ≠ k
  | .newOrChanged g _ => g.resourceKey ≠ k
  | _ => True

/-- Nothing of the gateway `k` is in flight: not in a channel, in a polling task or in the program of a task. -/
abbrev Clear (k : GatewayKey) (c : PipelineConfig) : Prop :=
  LocalInv (Pipeline.Carries (Apart k)) (fun _ _ p => ∀ a ∈ p, a.Carries (Apart k) ∧ a.Spares k) c

/-- The gateway `k` is reconciled. -/
def Reconciles (k : GatewayKey) : PipelineStep → Prop
  | .start (.controller key) (.reconcile _ _) => key = k
  | _ => False

/-- The deploy requests of the gateway `k` so far. -/
def Pipeline.deployedOf (s : Pipeline) (k : GatewayKey) : List RequestContext :=
  s.history.deployed.filter fun ctx => ctx.gateway.resourceKey = k

/-- The gateway is gone: it is not stored, nothing of it is in flight, and these were its deploy requests. -/
structure Gone (k : GatewayKey) (deployed : List RequestContext) (c : PipelineConfig) : Prop where
  absent : c.shared.state.getGateway k = none
  clear : Clear k c
  deployed : c.shared.deployedOf k = deployed

section
variable {s s' : Pipeline} {t : Task} {a : Action} {rest p : List Action}

/-- What is read from the store is not of a gateway that is absent. -/
theorem sourced_apart (hkeyed : s.WellKeyed) (hnone : s.state.getGateway k = none) :
    Sourced parseUuid (Apart k) s where
  resolve _ _ _ h := h
  read k' g hg := by
    rintro rfl
    rw [hkeyed.stored k' g hg] at hnone
    cases hnone.symm.trans hg
  resave g g₀ hg₀ _ _ := by
    rintro rfl
    cases hnone.symm.trans hg₀

theorem Starts.spares (hr : Starts parseUuid s t s' p) (ht : t ≠ .controller k) (h : s.Carries (Apart k)) :
    ∀ a ∈ p, a.Spares k := by
  intro a ha
  cases hr with
  | reconcile g type huid =>
    have hne : g.resourceKey ≠ k := by
      rintro rfl
      exact ht rfl
    rcases gatewayHandler_mem ha with ⟨-, rfl⟩ | ⟨-, rfl⟩ | ⟨-, rfl⟩ | ⟨-, rfl⟩ | ⟨-, rfl⟩ | ⟨-, rfl | rfl⟩
    · exact hne
    · exact hne
    · exact hne
    · exact hne
    · trivial
    · trivial
    · trivial
  | reconcileRoute key parents =>
    obtain ⟨k', -, rfl⟩ := List.mem_map.1 ha
    trivial
  | receiveOther q rest hch hq keys =>
    obtain ⟨k', -, rfl⟩ := List.mem_map.1 ha
    trivial
  | receiveAdd ctx rest hch =>
    obtain rfl := List.mem_singleton.1 ha
    trivial
  | receiveDeploy ctx rest hch =>
    obtain rfl := List.mem_singleton.1 ha
    trivial
  | receiveContext ctx rest hch =>
    have hk : ctx.gateway.resourceKey ≠ k := h.response ctx (hch ▸ List.mem_cons_self)
    rcases List.mem_pair.1 ha with rfl | rfl <;> exact hk
  | receiveProcessed | backendFailed | backendAddressed | backendPolling | backendDeleted
  | pollAnswered | notify => simp at ha

theorem Executes.spares (hr : Executes parseUuid s rest a s' p) (h : ∀ b ∈ a :: rest, b.Spares k) :
    ∀ b ∈ p, b.Spares k := by
  obtain ⟨ha, hrest⟩ := List.forall_mem_cons.1 h
  cases hr with
  | accepted g type gateway hgw =>
    intro b hb
    rcases List.mem_pair.1 hb with rfl | rfl <;> trivial
  | deleteDeployed key g type gateway =>
    simp only [List.forall_mem_cons]
    exact ⟨trivial, trivial, trivial, hrest⟩
  | routeMatched key g hg =>
    intro b hb
    rcases List.mem_append.1 hb with hb | hb
    · exact hrest b hb
    · obtain rfl := List.mem_singleton.1 hb
      trivial
  | routeAdds | redeploys | redeployTyped | process => exact List.forall_mem_cons.2 ⟨trivial, hrest⟩
  | patched p => exact List.forall_mem_cons.2 ⟨ha, hrest⟩
  | patchedReady p => exact List.forall_mem_cons.2 ⟨ha, List.forall_mem_cons.2 ⟨ha, hrest⟩⟩
  | misconfigured | routeGivesUp | routeAborts | redeployAborts => simp
  | saveGateway | maybeSaveGateway | saveGatewayType | deleteGateway | deleteGatewayType | awaitDeleted
  | send | sendBackend | routeUnmatched | redeployMissing | redeployUntyped | sendDeploy
  | patchFailed => exact hrest

/-- An absent gateway that an action spares stays absent. -/
theorem Executes.absent (hr : Executes parseUuid s rest a s' p) (h : s.state.getGateway k = none)
    (ha : a.Spares k) : s'.state.getGateway k = none := by
  rw [Option.eq_none_iff_forall_ne_some]
  intro g hg
  rcases hr.getGateway_cases hg with hg | ⟨reason, rfl⟩ | ⟨-, g₀, hg₀⟩
  · cases h.symm.trans hg
  · exact ha rfl
  · cases h.symm.trans hg₀

theorem Executes.deployedOf (hr : Executes parseUuid s rest a s' p) (ha : a.Carries (Apart k)) :
    s'.deployedOf k = s.deployedOf k := by
  cases hr with
  | sendDeploy ctx =>
    have hne : ctx.gateway.resourceKey ≠ k := ha
    simp [Pipeline.deployedOf, List.filter_append, hne]
  | _ => rfl

end

/-! ## Runs -/

theorem gone_step {c c' : PipelineConfig} {x : PipelineStep} {deployed : List RequestContext} (hkeyed : WellKeyed c)
    (h : Gone k deployed c) (hx : ¬ Reconciles k x) (hstep : (pipeline parseUuid).system.step c x = some c') :
    Gone k deployed c' := by
  have hsrc : Sourced parseUuid (Apart k) c.shared := sourced_apart hkeyed.shared h.absent
  have hclear : Clear k c' := by
    refine LocalInv.step (fun c x => Sourced parseUuid (Apart k) c.shared ∧ ¬ Reconciles k x) h.clear
      ⟨hsrc, hx⟩ ?_ ?_ hstep
    · intro c t e r hc hok hidle hr
      have hstart := starts_of_startTask hr
      obtain ⟨hcarries, hp⟩ := hstart.carries hok.1 hc.shared
      refine ⟨hcarries, fun a ha => ⟨hp a ha, hstart.spares ?_ hc.shared a ha⟩, fun _ _ _ h => h⟩
      rintro rfl
      cases e with
      | reconcile g' type' => exact absurd rfl hok.2
      | _ => cases hr
    · intro c t a rest w r hc hok hp hr
      have hexec := executes_of_execAction hr
      have hprog := hc.task t
      rw [hp] at hprog
      obtain ⟨hcarries, hp'⟩ := hexec.carries hok.1 hc.shared (fun b hb => (hprog b hb).1)
        (fun g type ha _ => (ha ▸ (hprog a List.mem_cons_self).2 : (Action.newOrChanged g type).Spares k))
      have hspares := hexec.spares fun b hb => (hprog b hb).2
      exact ⟨hcarries, fun b hb => ⟨hp' b hb, hspares b hb⟩, fun _ _ _ h => h⟩
  cases x with
  | start t e =>
    obtain ⟨-, r, hr, rfl⟩ := step_start.1 hstep
    obtain ⟨hstate, hhistory, -⟩ := (starts_of_startTask hr).frame
    refine ⟨?_, hclear, ?_⟩
    · rw [Config.move_shared, hstate]
      exact h.absent
    · rw [Config.move_shared, Pipeline.deployedOf, hhistory]
      exact h.deployed
  | next t w =>
    obtain ⟨a, rest, hp, r, hr, rfl⟩ := step_next.1 hstep
    have hexec := executes_of_execAction hr
    obtain ⟨hcarries, hspares⟩ := h.clear.task t a (by rw [hp]; exact List.mem_cons_self)
    refine ⟨hexec.absent h.absent hspares, hclear, ?_⟩
    rw [Config.move_shared, hexec.deployedOf hcarries]
    exact h.deployed

theorem gone_run {c c' : PipelineConfig} {as : List PipelineStep} {deployed : List RequestContext}
    (hkeyed : WellKeyed c) (h : Gone k deployed c) (has : ∀ x ∈ as, ¬ Reconciles k x)
    (hrun : (pipeline parseUuid).system.run c as = some c') : Gone k deployed c' := by
  have hstep (c : PipelineConfig) (x : PipelineStep) (c' : PipelineConfig) (hc : WellKeyed c ∧ Gone k deployed c)
      (hok : True ∧ ¬ Reconciles k x) (hstep : (pipeline parseUuid).system.step c x = some c') :
      WellKeyed c' ∧ Gone k deployed c' :=
    ⟨wellKeyed_step hc.1 hstep, gone_step hc.1 hc.2 hok.2 hstep⟩
  exact (System.inv_run hstep ⟨hkeyed, h⟩ (System.along_any.and_forall has) hrun).2

theorem wellKeyed_of_run {c : PipelineConfig} {as : List PipelineStep}
    (hrun : (pipeline parseUuid).system.run (pipeline parseUuid).system.init as = some c) : WellKeyed c :=
  System.inv_run (fun _ _ _ hc _ hstep => wellKeyed_step hc hstep) wellKeyed_init System.along_any hrun

/-- The step that takes a gateway out of the store, with nothing of the gateway in flight. -/
theorem gone_of_deleteGateway {c c' : PipelineConfig} {t : Task} {rest : List Action} {w : Choice} (h : Clear k c)
    (hhead : c.program t = .deleteGateway k :: rest)
    (hstep : (pipeline parseUuid).system.step c (.next t w) = some c') :
    Gone k (c.shared.deployedOf k) c' := by
  obtain ⟨a, rest', hp, r, hr, rfl⟩ := step_next.1 hstep
  rw [hhead] at hp
  obtain ⟨rfl, rfl⟩ := List.cons.inj hp
  obtain rfl := Option.some.inj hr
  refine ⟨?_, ⟨{ h.shared with }, fun t' => ?_⟩, rfl⟩
  · simp
  · by_cases ht : t' = t
    · subst ht
      rw [Config.move_program_self]
      exact fun b hb => h.task t' b (by rw [hhead]; exact List.mem_cons_of_mem _ hb)
    · rw [Config.move_program_ne _ _ ht]
      exact h.task t'

/-- An event of a deletion brings nothing of the gateway in flight. -/
theorem clear_of_reconcile {c c' : PipelineConfig} {g : KubeGateway} {type : GatewayImplementationType}
    (h : Clear k c) (hdeletion : g.metadata.IsDeletion)
    (hstep : (pipeline parseUuid).system.step c (.start (.controller k) (.reconcile g type)) = some c') :
    c'.shared = c.shared ∧ Clear k c' ∧ c'.program (.controller k) = [.deleteGateway k, .deleteGatewayType k g] := by
  obtain ⟨-, r, hr, rfl⟩ := step_start.1 hstep
  simp only [pipeline, startTask] at hr
  rw [checkStatus_of_deletion hdeletion] at hr
  split at hr
  · obtain rfl := Option.some.inj hr
    refine ⟨rfl, ⟨h.shared, fun t => ?_⟩, Config.move_program_self _ _⟩
    by_cases ht : t = .controller k
    · subst ht
      rw [Config.move_program_self]
      simp [gatewayHandler, Action.Carries, Action.Spares]
    · rw [Config.move_program_ne _ _ ht]
      exact h.task t
  · cases hr

/-- **A deletion is final if nothing of the gateway is in flight.** When the controller takes a gateway out of
the store while no channel, no polling task and no program of a task holds anything of it, then, however the tasks
go on, until the gateway is reconciled again it is not stored and no deploy request of it is made. -/
theorem deletion_final {c c₁ c' : PipelineConfig} {as bs : List PipelineStep} {t : Task} {rest : List Action}
    {w : Choice} (hrun : (pipeline parseUuid).system.run (pipeline parseUuid).system.init as = some c)
    (hclear : Clear k c) (hhead : c.program t = .deleteGateway k :: rest)
    (hdelete : (pipeline parseUuid).system.step c (.next t w) = some c₁) (hbs : ∀ x ∈ bs, ¬ Reconciles k x)
    (hrun' : (pipeline parseUuid).system.run c₁ bs = some c') :
    c'.shared.state.getGateway k = none ∧ c'.shared.deployedOf k = c.shared.deployedOf k := by
  have hkeyed : WellKeyed c₁ := wellKeyed_step (wellKeyed_of_run hrun) hdelete
  have hgone := gone_run hkeyed (gone_of_deleteGateway hclear hhead hdelete) hbs hrun'
  exact ⟨hgone.absent, hgone.deployed⟩

/-! ## A deployment that has come to its end -/

/-- A run of some tasks that leaves nothing in their programs leaves nothing in any. -/
theorem program_eq_nil_of_run {c : PipelineConfig} {as : List PipelineStep} {tasks : List Task}
    (hrun : (pipeline parseUuid).system.run (pipeline parseUuid).system.init as = some c)
    (htasks : ∀ x ∈ as, x.task ∈ tasks) (hprogram : ∀ t ∈ tasks, c.program t = []) (t : Task) :
    c.program t = [] := by
  by_cases hmem : t ∈ tasks
  · exact hprogram t hmem
  · exact run_program hrun fun x hx => by
      rintro rfl
      exact hmem (htasks x hx)

/-- Nothing is in the channels, and nothing is polled for. -/
structure Pipeline.Empty (s : Pipeline) : Prop where
  validate : s.validateChannel = []
  deploy : s.deployChannel = []
  backend : ∀ type, s.backendChannel type = []
  response : s.responseChannel = []
  polling : s.polling = []

theorem Pipeline.Empty.carries {s : Pipeline} {P : GatewayKey → KubeGateway → Prop} (h : s.Empty) : s.Carries P := by
  constructor
  · simp [h.validate]
  · simp [h.deploy]
  · simp [h.backend]
  · simp [h.response]
  · simp [h.polling]

/-- A gateway is deployed, the backend finds its address at once, and the answer is stored. -/
def deployedRun : List PipelineStep :=
  let controller := Task.controller liveGateway.resourceKey
  [.start controller (.reconcile liveGateway .envoy),
    .next controller {}, .next controller {}, .next controller {}, .next controller {},
    .start .validator (.receive ∅), .next .validator {}, .next .validator {},
    .start .deployer .receiveDeploy, .next .deployer {},
    .start (.backend .envoy) (.receiveBackend (.addressed [.ipAddress "10.0.0.1"])),
    .start .deployer (.receiveResponse true), .next .deployer {}, .next .deployer {}]

/-- The tasks that move in it. -/
def deployedTasks : List Task := [.controller liveGateway.resourceKey, .validator, .deployer, .backend .envoy]

/-- The deletion goes on, and then a reference of the gateway changes. -/
def afterDeletion : List PipelineStep :=
  let controller := Task.controller liveGateway.resourceKey
  [.next controller {}, .next controller {}, .next controller {},
    .start (.backend .envoy) (.receiveBackend .polling), .next controller {},
    .start .other (.notify (.updatedGateways {liveGateway.resourceKey})),
    .start .validator (.receive ∅), .start .validator (.receive ∅), .next .validator {}]

/-- It leaves nothing in flight. -/
theorem deployedRun_settles : ∃ c,
    (pipeline parseSomeUid).system.run (pipeline parseSomeUid).system.init deployedRun = some c ∧
      c.shared.Empty ∧ (∀ t, c.program t = []) ∧
      (c.shared.state.getGateway liveGateway.resourceKey).map (·.spec) = some liveGateway.spec ∧
      (c.shared.deployedOf liveGateway.resourceKey).length = 1 := by
  have h : ((pipeline parseSomeUid).system.run (pipeline parseSomeUid).system.init deployedRun).map
      (fun c => decide ((c.shared.validateChannel.isEmpty ∧ c.shared.deployChannel.isEmpty ∧
        c.shared.responseChannel.isEmpty ∧ c.shared.polling.isEmpty) ∧
        (∀ type ∈ [GatewayImplementationType.envoy, .agentgateway, .orion],
          (c.shared.backendChannel type).isEmpty) ∧
        (∀ t ∈ deployedTasks, (c.program t).isEmpty) ∧
        (c.shared.state.getGateway liveGateway.resourceKey).map (·.spec) = some liveGateway.spec ∧
        (c.shared.deployedOf liveGateway.resourceKey).length = 1)) = some true := by decide
  obtain ⟨c, hrun, h⟩ := Option.map_eq_some_iff.1 h
  obtain ⟨⟨hvalidate, hdeploy, hresponse, hpolling⟩, hbackend, hprogram, hstored, hdeployed⟩ := of_decide_eq_true h
  simp only [List.isEmpty_iff] at hvalidate hdeploy hresponse hpolling hbackend hprogram
  refine ⟨c, hrun, ⟨hvalidate, hdeploy, fun type => ?_, hresponse, hpolling⟩, ?_, hstored, hdeployed⟩
  · exact hbackend type (by cases type <;> decide)
  · exact program_eq_nil_of_run hrun (by decide : ∀ x ∈ deployedRun, x.task ∈ deployedTasks) hprogram

theorem deletion_final_of_deployed : ∃ c, (pipeline parseSomeUid).system.run (pipeline parseSomeUid).system.init
      (deployedRun ++ .start (.controller liveGateway.resourceKey) (.reconcile dyingGateway .envoy) ::
        .next (.controller liveGateway.resourceKey) {} :: afterDeletion) = some c ∧
    c.shared.state.getGateway liveGateway.resourceKey = none ∧
      (c.shared.deployedOf liveGateway.resourceKey).length = 1 := by
  have hall : ((pipeline parseSomeUid).system.run (pipeline parseSomeUid).system.init
      (deployedRun ++ .start (.controller liveGateway.resourceKey) (.reconcile dyingGateway .envoy) ::
        .next (.controller liveGateway.resourceKey) {} :: afterDeletion)).isSome := by decide
  obtain ⟨c, hrun⟩ := Option.isSome_iff_exists.1 hall
  obtain ⟨c₀, hrun₀, hrest⟩ := System.run_append.1 hrun
  obtain ⟨c₁, hreconcile, hrest⟩ := System.run_cons.1 hrest
  obtain ⟨c₂, hdelete, hrest⟩ := System.run_cons.1 hrest
  obtain ⟨c₀', hrun₀', hempty, hprogram, -, hdeployed⟩ := deployedRun_settles
  obtain rfl : c₀ = c₀' := Option.some.inj (hrun₀.symm.trans hrun₀')
  have hclear : Clear liveGateway.resourceKey c₀ := ⟨hempty.carries, fun t => by simp [hprogram t]⟩
  obtain ⟨hshared, hclear, hhead⟩ := clear_of_reconcile hclear (by decide) hreconcile
  have hrun₁ := System.run_append.2 ⟨c₀, hrun₀, System.run_cons.2 ⟨c₁, hreconcile, System.run_nil⟩⟩
  have hafter : ∀ x ∈ afterDeletion, ¬ Reconciles liveGateway.resourceKey x := by
    simp [afterDeletion, Reconciles]
  obtain ⟨habsent, heq⟩ := deletion_final hrun₁ hclear hhead hdelete hafter hrest
  refine ⟨c, hrun, habsent, ?_⟩
  rw [heq, hshared]
  exact hdeployed

end Kubvernor
