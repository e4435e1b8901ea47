import Kubvernor.Control.Moves

/-!
# Gateways in flight

A gateway object travels through the pipeline together with the key it will be stored under: in
requests, in backend events and responses, in polling tasks and in the programs of the tasks.
`Pipeline.Carries P` and `Action.Carries P` say that `P` holds of all of them. `Starts.carries` and
`Executes.carries` show that `P` is kept, if it holds of what a task reads from the store and of what
a reconcile event brings in. `WellKeyed` is the first invariant of this form: every object is under
its own key, and every action in the program of the task it belongs to.
-/

namespace Kubvernor

open Lib

variable {parseUuid : String → Option Uuid} {P Q : GatewayKey → KubeGateway → Prop}

def RequestContext.Carries (P : GatewayKey → KubeGateway → Prop) (ctx : RequestContext) : Prop :=
  P ctx.gateway.resourceKey ctx.kubeGateway

/-- `P` holds of every object in a channel or in the hands of a polling task. -/
structure Pipeline.Carries (P : GatewayKey → KubeGateway → Prop) (s : Pipeline) : Prop where
  validate : ∀ ctx, .addGateway ctx ∈ s.validateChannel → ctx.Carries P
  deploy : ∀ ctx ∈ s.deployChannel, ctx.Carries P
  backend : ∀ t ctx, .changed ctx ∈ s.backendChannel t → ctx.Carries P
  response : ∀ ctx, .processedWithContext ctx ∈ s.responseChannel → ctx.Carries P
  polling : ∀ ctx ∈ s.polling, ctx.Carries P

/-- `P` holds of the object of an action, unless the object has just come in: a reconciled one that
is new or has a new spec, or one the API server has answered with. -/
def Action.Carries (P : GatewayKey → KubeGateway → Prop) : Action → Prop
  | .send (.addGateway ctx) | .process ctx | .sendDeploy ctx | .sendBackend _ (.changed ctx) =>
    ctx.Carries P
  | .saveGateway .specNotChanged key g | .saveGateway .statusChanged key g
  | .saveGateway .processed key g | .maybeSaveGateway key g => P key g
  | .addGatewayForRoute g => P g.resourceKey g
  | .redeployAs g gateway => P gateway.resourceKey g
  | _ => True

/-- `P` is about what a deployment leaves alone, and it holds of the objects that can be read from
the store of `s` and of those that only differ from a stored one outside of the spec. -/
structure Sourced (parseUuid : String → Option Uuid) (P : GatewayKey → KubeGateway → Prop)
    (s : Pipeline) : Prop where
  resolve : ∀ k gw g, P k g → P k (GatewayDeployer.resolveListenersStatuses gw g)
  read : ∀ k g, s.state.getGateway k = some g → P g.resourceKey g
  resave : ∀ g g₀, s.state.getGateway g.resourceKey = some g₀ → g.spec = g₀.spec →
    (parseUuid (g.metadata.uid.getD "")).isSome → P g.resourceKey g

theorem Pipeline.Carries.mono {s : Pipeline} (h : s.Carries P) (hPQ : ∀ k g, P k g → Q k g) :
    s.Carries Q where
  validate ctx hctx := hPQ _ _ (h.validate ctx hctx)
  deploy ctx hctx := hPQ _ _ (h.deploy ctx hctx)
  backend t ctx hctx := hPQ _ _ (h.backend t ctx hctx)
  response ctx hctx := hPQ _ _ (h.response ctx hctx)
  polling ctx hctx := hPQ _ _ (h.polling ctx hctx)

theorem Action.Carries.mono {a : Action} (h : a.Carries P) (hPQ : ∀ k g, P k g → Q k g) :
    a.Carries Q := by
  unfold Action.Carries at h ⊢
  split at h <;> first | exact hPQ _ _ h | trivial

/-! ## What a reconcile event can mean -/

theorem checkStatus_stored {g : KubeGateway} {stored : Option KubeGateway} {r : ResourceState}
    (h : checkStatus KubeGateway.metadata checkSpecChanged checkStatusChanged g stored = r)
    (hnew : r ≠ .new) (hdel : r ≠ .deleted) :
    ∃ g₀, stored = some g₀ ∧ (r ≠ .versionNotChanged → r ≠ .specChanged → g.spec = g₀.spec) := by
  subst h
  unfold checkStatus at hnew hdel ⊢
  split at hdel
  · exact absurd rfl hdel
  · rename_i hfin
    rw [if_neg hfin] at hnew
    rcases stored with _ | g₀
    · exact absurd rfl hnew
    · refine ⟨g₀, rfl, ?_⟩
      intro hversion hspec
      by_cases hv : g₀.metadata.resourceVersion = g.metadata.resourceVersion
      · simp [hfin, hv] at hversion
      · by_cases hs : g.spec = g₀.spec
        · exact hs
        · simp [hfin, hv, hs, checkSpecChanged] at hspec

/-- The actions a reconcile event starts. -/
theorem gatewayHandler_mem {key : GatewayKey} {g : KubeGateway} {t : GatewayImplementationType}
    {r : ResourceState} {a : Action} (h : a ∈ gatewayHandler key g t r) :
    (r = .new ∧ a = .saveGateway .new key g) ∨
    (r ≠ .deleted ∧ a = .newOrChanged g t) ∨
    (r = .specNotChanged ∧ a = .saveGateway .specNotChanged key g) ∨
    (r = .statusChanged ∧ a = .saveGateway .statusChanged key g) ∨
    (r = .statusNotChanged ∧ a = .maybeSaveGateway key g) ∨
    (r = .deleted ∧ (a = .deleteGateway key ∨ a = .deleteGatewayType key g)) := by
  cases r with
  | versionNotChanged => simp [gatewayHandler] at h
  | specNotChanged => simp_all [gatewayHandler]
  | new => simpa [gatewayHandler] using h
  | specChanged => simp_all [gatewayHandler]
  | statusChanged =>
    simp only [gatewayHandler] at h
    split at h
    · simp_all
    · split at h <;> simp_all
  | statusNotChanged => simp_all [gatewayHandler]
  | deleted => simpa [gatewayHandler] using h

/-! ## Channel operations -/

section
variable {s : Pipeline} (h : s.Carries P)
include h

theorem Pipeline.Carries.sendRequest {r : ReferenceValidateRequest}
    (hr : ∀ ctx, r = .addGateway ctx → ctx.Carries P) : (s.sendRequest r).Carries P := by
  refine { h with validate := ?_ }
  intro ctx hctx
  rcases List.mem_append.1 hctx with hctx | hctx
  · exact h.validate ctx hctx
  · exact hr ctx (List.mem_singleton.1 hctx).symm

theorem Pipeline.Carries.sendBackendEvent {t : GatewayImplementationType} {e : BackendGatewayEvent}
    (he : ∀ ctx, e = .changed ctx → ctx.Carries P) : (s.sendBackendEvent t e).Carries P := by
  refine { h with backend := ?_ }
  intro t' ctx hctx
  simp only [Pipeline.sendBackendEvent, Function.update_apply] at hctx
  split at hctx
  · rcases List.mem_append.1 hctx with hctx | hctx
    · exact h.backend t ctx hctx
    · exact he ctx (List.mem_singleton.1 hctx).symm
  · exact h.backend t' ctx hctx

theorem Pipeline.Carries.sendResponse {r : BackendGatewayResponse}
    (hr : ∀ ctx, r = .processedWithContext ctx → ctx.Carries P) : (s.sendResponse r).Carries P := by
  refine { h with response := ?_ }
  intro ctx hctx
  rcases List.mem_append.1 hctx with hctx | hctx
  · exact h.response ctx hctx
  · exact hr ctx (List.mem_singleton.1 hctx).symm

/-- A backend takes the first event of its channel. -/
theorem Pipeline.Carries.receiveBackend {t : GatewayImplementationType} {e : BackendGatewayEvent}
    {rest : List BackendGatewayEvent} (hch : s.backendChannel t = e :: rest) :
    Pipeline.Carries P { s with backendChannel := Function.update s.backendChannel t rest } := by
  refine { h with backend := ?_ }
  intro t' ctx hctx
  simp only [Function.update_apply] at hctx
  split at hctx
  · exact h.backend t ctx (hch ▸ List.mem_cons_of_mem _ hctx)
  · exact h.backend t' ctx hctx

end

/-! ## The step lemmas -/

section
variable {s s' : Pipeline} {t : Task} {a : Action} {rest p : List Action}

/-- An event does not touch the stores and the history. -/
theorem Starts.frame (h : Starts parseUuid s t s' p) :
    s'.state = s.state ∧ s'.history = s.history ∧ s'.aborted = s.aborted := by
  cases h <;> exact ⟨rfl, rfl, rfl⟩

theorem Starts.carries (hr : Starts parseUuid s t s' p) (hsrc : Sourced parseUuid P s)
    (h : s.Carries P) : s'.Carries P ∧ ∀ a ∈ p, a.Carries P := by
  cases hr with
  | reconcile g type huid =>
    refine ⟨h, ?_⟩
    intro a ha
    have hresave : ∀ r, s.resourceState g = r → r ≠ .new → r ≠ .deleted → r ≠ .versionNotChanged →
        r ≠ .specChanged → P g.resourceKey g := by
      intro r hr hnew hdel hversion hspec
      obtain ⟨g₀, hg₀, heq⟩ := checkStatus_stored hr hnew hdel
      exact hsrc.resave g g₀ hg₀ (heq hversion hspec) huid
    rcases gatewayHandler_mem ha with ⟨-, rfl⟩ | ⟨-, rfl⟩ | ⟨hr, rfl⟩ | ⟨hr, rfl⟩ | ⟨hr, rfl⟩ |
      ⟨-, rfl | rfl⟩
    · trivial
    · trivial
    · exact hresave _ hr (by simp) (by simp) (by simp) (by simp)
    · exact hresave _ hr (by simp) (by simp) (by simp) (by simp)
    · exact hresave _ hr (by simp) (by simp) (by simp) (by simp)
    · trivial
    · trivial
  | reconcileRoute key parents =>
    refine ⟨h, ?_⟩
    intro a ha
    obtain ⟨k, -, rfl⟩ := List.mem_map.1 ha
    trivial
  | receiveAdd ctx rest hch =>
    refine ⟨{ h with validate := fun c hc => h.validate c (hch ▸ List.mem_cons_of_mem _ hc) }, ?_⟩
    intro a ha
    obtain rfl := List.mem_singleton.1 ha
    exact h.validate ctx (hch ▸ List.mem_cons_self)
  | receiveOther q rest hch hq keys =>
    refine ⟨{ h with validate := fun c hc => h.validate c (hch ▸ List.mem_cons_of_mem _ hc) }, ?_⟩
    intro a ha
    obtain ⟨k, -, rfl⟩ := List.mem_map.1 ha
    trivial
  | receiveDeploy ctx rest hch =>
    refine ⟨{ h with deploy := fun c hc => h.deploy c (hch ▸ List.mem_cons_of_mem _ hc) }, ?_⟩
    intro a ha
    obtain rfl := List.mem_singleton.1 ha
    exact hsrc.resolve _ _ _ (h.deploy ctx (hch ▸ List.mem_cons_self))
  | receiveProcessed q rest hch =>
    refine ⟨{ h with response := fun c hc => h.response c (hch ▸ List.mem_cons_of_mem _ hc) }, ?_⟩
    simp
  | receiveContext ctx rest hch =>
    refine ⟨{ h with response := fun c hc => h.response c (hch ▸ List.mem_cons_of_mem _ hc) }, ?_⟩
    intro a ha
    rcases List.mem_pair.1 ha with rfl | rfl
    · exact h.response ctx (hch ▸ List.mem_cons_self)
    · trivial
  | backendFailed type ctx rest hch =>
    exact ⟨(h.receiveBackend hch).sendResponse (by simp), by simp⟩
  | backendAddressed type ctx rest hch addresses =>
    refine ⟨(h.receiveBackend hch).sendResponse ?_, by simp⟩
    rintro _ ⟨⟩
    exact h.backend type ctx (hch ▸ List.mem_cons_self)
  | backendPolling type ctx rest hch =>
    refine ⟨{ h.receiveBackend hch with polling := ?_ }, by simp⟩
    intro c hc
    rcases List.mem_append.1 hc with hc | hc
    · exact h.polling c hc
    · obtain rfl := List.mem_singleton.1 hc
      exact h.backend type _ (hch ▸ List.mem_cons_self)
  | backendDeleted type gateway rest hch =>
    exact ⟨{ h.receiveBackend hch with }, by simp⟩
  | pollAnswered i ctx hctx addresses =>
    have hrest : Pipeline.Carries P { s with polling := s.polling.eraseIdx i } :=
      { h with polling := fun c hc => h.polling c (List.mem_of_mem_eraseIdx hc) }
    refine ⟨hrest.sendResponse ?_, by simp⟩
    rintro _ ⟨⟩
    exact h.polling ctx (List.mem_of_getElem? hctx)
  | notify q hq =>
    refine ⟨h.sendRequest ?_, by simp⟩
    rintro ctx rfl
    exact absurd rfl (hq ctx)

/-- A property of everything in flight is kept by an action, if it holds of the reconciled object
once that has converted. -/
theorem Executes.carries (hr : Executes parseUuid s rest a s' p) (hsrc : Sourced parseUuid P s)
    (h : s.Carries P) (hprog : ∀ b ∈ a :: rest, b.Carries P)
    (hnew : ∀ g t, a = .newOrChanged g t → Converts parseUuid g → P g.resourceKey g) :
    s'.Carries P ∧ ∀ b ∈ p, b.Carries P := by
  obtain ⟨ha, hrest⟩ := List.forall_mem_cons.1 hprog
  cases hr with
  | saveGateway reason key g => exact ⟨{ h with }, hrest⟩
  | maybeSaveGateway key g => exact ⟨{ h with }, hrest⟩
  | misconfigured g type => exact ⟨h, by simp⟩
  | accepted g type gateway hgw =>
    refine ⟨{ h with }, ?_⟩
    intro b hb
    rcases List.mem_pair.1 hb with rfl | rfl
    · trivial
    · show P gateway.resourceKey g
      rw [(Gateway.tryFrom_key hgw).1]
      exact hnew g type rfl (converts_of_ok hgw)
  | saveGatewayType key type => exact ⟨{ h with }, hrest⟩
  | deleteGateway key => exact ⟨{ h with }, hrest⟩
  | deleteGatewayType key g => exact ⟨{ h with }, hrest⟩
  | deleteDeployed key g type gateway =>
    refine ⟨{ h with }, ?_⟩
    simp only [List.forall_mem_cons]
    exact ⟨trivial, trivial, trivial, hrest⟩
  | awaitDeleted key => exact ⟨{ h with }, hrest⟩
  | send q =>
    refine ⟨h.sendRequest ?_, hrest⟩
    rintro ctx rfl
    exact ha
  | sendBackend type e =>
    refine ⟨h.sendBackendEvent ?_, hrest⟩
    rintro ctx rfl
    exact ha
  | routeUnmatched key => exact ⟨h, hrest⟩
  | routeMatched key g hg =>
    refine ⟨h, ?_⟩
    intro b hb
    rcases List.mem_append.1 hb with hb | hb
    · exact hrest b hb
    · obtain rfl := List.mem_singleton.1 hb
      exact hsrc.read key g hg
  | routeGivesUp g => exact ⟨h, by simp⟩
  | routeAborts g hconv => exact ⟨{ h with }, by simp⟩
  | routeAdds g gateway type hgw =>
    refine ⟨h, List.forall_mem_cons.2 ⟨?_, hrest⟩⟩
    show P gateway.resourceKey g
    rw [(Gateway.tryFrom_key hgw).1]
    exact ha
  | redeployMissing key => exact ⟨h, hrest⟩
  | redeployAborts key g hg hconv => exact ⟨{ h with }, by simp⟩
  | redeploys key g hg gateway hgw =>
    refine ⟨h, List.forall_mem_cons.2 ⟨?_, hrest⟩⟩
    show P gateway.resourceKey g
    rw [(Gateway.tryFrom_key hgw).1]
    exact hsrc.read key g hg
  | redeployUntyped g gateway htype => exact ⟨h, hrest⟩
  | redeployTyped g gateway type => exact ⟨h, List.forall_mem_cons.2 ⟨ha, hrest⟩⟩
  | process ctx effective hkey =>
    refine ⟨h, List.forall_mem_cons.2 ⟨?_, hrest⟩⟩
    show P effective.resourceKey ctx.kubeGateway
    rw [hkey]
    exact ha
  | sendDeploy ctx =>
    refine ⟨{ h with deploy := ?_ }, hrest⟩
    intro c hc
    rcases List.mem_append.1 hc with hc | hc
    · exact h.deploy c hc
    · obtain rfl := List.mem_singleton.1 hc
      exact ha
  | patchFailed key => exact ⟨h, hrest⟩
  | patched p => exact ⟨h, List.forall_mem_cons.2 ⟨trivial, hrest⟩⟩
  | patchedReady p =>
    exact ⟨h, List.forall_mem_cons.2 ⟨trivial, List.forall_mem_cons.2 ⟨trivial, hrest⟩⟩⟩

end

/-! ## Keys and owners -/

/-- The object has this key. -/
def KeyedBy (key : GatewayKey) (g : KubeGateway) : Prop := g.resourceKey = key

/-- Saves are made under the key of the object. What concerns the type of a gateway, its acceptance
and its deletion is done by its own controller, deployments are asked for by the validator. -/
def Action.Owned (t : Task) : Action → Prop
  | .saveGateway _ key g | .maybeSaveGateway key g => g.resourceKey = key
  | .newOrChanged g _ => t = .controller g.resourceKey
  | .saveGatewayType key _ | .deleteGateway key | .deleteGatewayType key _ => t = .controller key
  | .send (.addGateway ctx) => t = .controller ctx.gateway.resourceKey ∨ ∃ key, t = .route key
  | .getGatewayForRoute _ | .addGatewayForRoute _ => ∃ key, t = .route key
  | .redeploy _ | .redeployAs _ _ | .process _ | .sendDeploy _ => t = .validator
  | .awaitPatch _ => t = .deployer
  | _ => True

/-- The part of the shared state in `WellKeyed`. -/
structure Pipeline.WellKeyed (s : Pipeline) : Prop where
  stored : ∀ k g, s.state.getGateway k = some g → g.resourceKey = k
  carries : s.Carries KeyedBy

/-- Every object is where its key says, and every action is in the program of its owner. -/
abbrev WellKeyed (c : PipelineConfig) : Prop :=
  TaskSystem.LocalInv Pipeline.WellKeyed (fun t _ p => ∀ a ∈ p, a.Carries KeyedBy ∧ a.Owned t) c

theorem sourced_keyedBy (s : Pipeline) : Sourced parseUuid KeyedBy s where
  resolve _ _ _ h := h
  read _ _ _ := rfl
  resave _ _ _ _ _ := rfl

section
variable {s s' : Pipeline} {t : Task} {a : Action} {rest p : List Action}

theorem Starts.owned (hr : Starts parseUuid s t s' p) (h : s.Carries KeyedBy) : ∀ a ∈ p, a.Owned t := by
  cases hr with
  | reconcile g type huid =>
    intro a ha
    rcases gatewayHandler_mem ha with ⟨-, rfl⟩ | ⟨-, rfl⟩ | ⟨-, rfl⟩ | ⟨-, rfl⟩ | ⟨-, rfl⟩ |
      ⟨-, rfl | rfl⟩ <;> exact rfl
  | reconcileRoute key parents =>
    intro a ha
    obtain ⟨k, -, rfl⟩ := List.mem_map.1 ha
    exact ⟨key, rfl⟩
  | receiveAdd ctx rest hch =>
    intro a ha
    obtain rfl := List.mem_singleton.1 ha
    rfl
  | receiveOther q rest hch hq keys =>
    intro a ha
    obtain ⟨k, -, rfl⟩ := List.mem_map.1 ha
    rfl
  | receiveDeploy ctx rest hch =>
    intro a ha
    obtain rfl := List.mem_singleton.1 ha
    trivial
  | receiveContext ctx rest hch =>
    intro a ha
    rcases List.mem_pair.1 ha with rfl | rfl
    · exact h.response ctx (hch ▸ List.mem_cons_self)
    · rfl
  | receiveProcessed | backendFailed | backendAddressed | backendPolling | backendDeleted
  | pollAnswered | notify => simp

theorem Executes.owned (hr : Executes parseUuid s rest a s' p) (hprog : ∀ b ∈ a :: rest, b.Owned t) :
    ∀ b ∈ p, b.Owned t := by
  obtain ⟨ha, hrest⟩ := List.forall_mem_cons.1 hprog
  cases hr with
  | accepted g type gateway hgw =>
    have hkey : t = .controller gateway.resourceKey := by
      rw [(Gateway.tryFrom_key hgw).1]
      exact ha
    intro b hb
    rcases List.mem_pair.1 hb with rfl | rfl
    · exact hkey
    · exact .inl hkey
  | deleteDeployed key g type gateway =>
    simp only [List.forall_mem_cons]
    exact ⟨trivial, trivial, trivial, hrest⟩
  | routeMatched key g hg =>
    intro b hb
    rcases List.mem_append.1 hb with hb | hb
    · exact hrest b hb
    · obtain rfl := List.mem_singleton.1 hb
      exact ha
  | routeAdds g gateway type hgw => exact List.forall_mem_cons.2 ⟨.inr ha, hrest⟩
  | redeploys | redeployTyped | process => exact List.forall_mem_cons.2 ⟨ha, hrest⟩
  | patched p => exact List.forall_mem_cons.2 ⟨rfl, hrest⟩
  | patchedReady p => exact List.forall_mem_cons.2 ⟨rfl, List.forall_mem_cons.2 ⟨rfl, hrest⟩⟩
  | misconfigured | routeGivesUp | routeAborts | redeployAborts => simp
  | saveGateway | maybeSaveGateway | saveGatewayType | deleteGateway | deleteGatewayType | awaitDeleted
  | send | sendBackend | routeUnmatched | redeployMissing | redeployUntyped | sendDeploy
  | patchFailed => exact hrest

/-- A stored object was stored before, or it is the one the action saves. -/
theorem Executes.getGateway_cases (hr : Executes parseUuid s rest a s' p) {k : GatewayKey}
    {g : KubeGateway} (hg : s'.state.getGateway k = some g) :
    s.state.getGateway k = some g ∨ (∃ reason, a = .saveGateway reason k g) ∨
      (a = .maybeSaveGateway k g ∧ ∃ g₀, s.state.getGateway k = some g₀) := by
  cases hr with
  | saveGateway reason key g' =>
    simp only [Pipeline.save, State.getGateway_saveGateway] at hg
    split at hg
    · rename_i hk
      obtain rfl := Option.some.inj hg
      exact .inr (.inl ⟨reason, hk ▸ rfl⟩)
    · exact .inl hg
  | maybeSaveGateway key g' =>
    rcases State.getGateway_maybeSaveGateway_cases hg with hg | ⟨rfl, rfl, hstored⟩
    · exact .inl hg
    · exact .inr (.inr ⟨rfl, hstored⟩)
  | deleteGateway key =>
    simp only [State.getGateway_deleteGateway] at hg
    split at hg
    · cases hg
    · exact .inl hg
  | _ => exact .inl hg

end

theorem wellKeyed_init : WellKeyed (pipeline parseUuid).system.init where
  shared :=
    { stored := fun k g hg => by simp [TaskSystem.system, pipeline, State.getGateway] at hg
      carries := by constructor <;> simp [TaskSystem.system, pipeline] }
  task := fun t a ha => by simp [TaskSystem.system] at ha

theorem wellKeyed_step {c c' : PipelineConfig} {x : PipelineStep} (hc : WellKeyed c)
    (h : (pipeline parseUuid).system.step c x = some c') : WellKeyed c' := by
  refine TaskSystem.LocalInv.step (fun _ _ => True) hc trivial ?_ ?_ h
  · intro c t e r hc _ hidle hr
    have hstart := starts_of_startTask hr
    obtain ⟨hcarries, hprog⟩ := hstart.carries (sourced_keyedBy _) hc.shared.carries
    refine ⟨⟨?_, hcarries⟩, ?_, fun _ _ _ h => h⟩
    · rw [hstart.frame.1]
      exact hc.shared.stored
    · exact fun a ha => ⟨hprog a ha, hstart.owned hc.shared.carries a ha⟩
  · intro c t a rest w r hc _ hp hr
    have hexec := executes_of_execAction hr
    have hprog := hc.task t
    rw [hp] at hprog
    obtain ⟨hcarries, hprog'⟩ := hexec.carries (sourced_keyedBy _) hc.shared.carries
      (fun b hb => (hprog b hb).1) (fun _ _ _ _ => rfl)
    have howned := hexec.owned fun b hb => (hprog b hb).2
    refine ⟨⟨?_, hcarries⟩, fun b hb => ⟨hprog' b hb, howned b hb⟩, fun _ _ _ h => h⟩
    intro k g hg
    have hown := (hprog a List.mem_cons_self).2
    rcases hexec.getGateway_cases hg with hg | ⟨reason, rfl⟩ | ⟨rfl, -⟩
    · exact hc.shared.stored k g hg
    · exact hown
    · exact hown

end Kubvernor
