import Kubvernor.Control.InFlight

/-!
# Which spec is deployed last

An accepted spec travels from the controller of its gateway through the validate channel and the
validator to the deployer, and into the store only with the backend's response. A reference or a
route that changes in between makes the validator read the store, and the spec it finds there may be
older than the one it has deployed already: `staleRun` ends quietly with an old spec deployed.

`carried k c` lists the specs of the gateway `k` in the order they reach the deployer: those deployed
already, the validator's, those in the channel, and the one its controller is about to send. The
invariant `LatestInv` says that the last of them is the accepted one. Every step keeps it that does
not push an older spec behind it, which only a stale read can do (`StaleFree`).
-/

namespace Kubvernor

open Lib TaskSystem

variable {parseUuid : String → Option Uuid} {k : GatewayKey}

/-! ## The specs on their way -/

/-- The spec of a request, if it is for `k`. -/
def RequestContext.specOf (k : GatewayKey) (ctx : RequestContext) : Option GatewaySpec :=
  if ctx.gateway.resourceKey = k then some ctx.kubeGateway.spec else none

def ReferenceValidateRequest.specOf (k : GatewayKey) : ReferenceValidateRequest → Option GatewaySpec
  | .addGateway ctx => ctx.specOf k
  | _ => none

/-- The spec for `k` that an action of the validator or of a sender is about to hand on. -/
def Action.specOf (k : GatewayKey) : Action → Option GatewaySpec
  | .send q => q.specOf k
  | .process ctx | .sendDeploy ctx => ctx.specOf k
  | .redeployAs g gateway => if gateway.resourceKey = k then some g.spec else none
  | _ => none

/-- The specs of `k` that were handed to the deployer. -/
def Pipeline.deployedSpecs (s : Pipeline) (k : GatewayKey) : List GatewaySpec :=
  s.history.deployed.filterMap (RequestContext.specOf k)

/-- The specs of `k` in the validate channel. -/
def Pipeline.requestedSpecs (s : Pipeline) (k : GatewayKey) : List GatewaySpec :=
  s.validateChannel.filterMap (ReferenceValidateRequest.specOf k)

/-- The specs of `k` in a program. -/
def specs (k : GatewayKey) (p : List Action) : List GatewaySpec := p.filterMap (Action.specOf k)

/-- The specs of `k` in the order they reach the deployer. -/
def carried (k : GatewayKey) (c : PipelineConfig) : List GatewaySpec :=
  c.shared.deployedSpecs k ++ specs k (c.program .validator) ++ c.shared.requestedSpecs k ++
    specs k (c.program (.controller k))

/-- Nothing is under way: every channel is empty and every task is idle. -/
structure Quiescent (c : PipelineConfig) : Prop where
  validate : c.shared.validateChannel = []
  deploy : c.shared.deployChannel = []
  backend : ∀ t, c.shared.backendChannel t = []
  response : c.shared.responseChannel = []
  idle : ∀ t, c.program t = []

/-- The last deploy request of every gateway has its accepted spec. -/
def DeploysLatest (s : Pipeline) : Prop :=
  ∀ k spec, s.history.accepted[k]? = some spec → (s.deployedSpecs k).getLast? = some spec

/-- Task `t` of `c` hands on no stale gateway with this action. The validator reads a gateway with
the accepted spec, or a later request for it is in the channel or in its controller; and what another
task than its controller sends has the accepted spec, or the controller's own request will follow. -/
def HandsOnFresh (c : PipelineConfig) (t : Task) : Option Action → Prop
  | some (.redeploy k) => ∀ g ∈ c.shared.state.getGateway k, ∀ spec ∈ c.shared.history.accepted[k]?,
    g.spec = spec ∨ c.shared.requestedSpecs k ++ specs k (c.program (.controller k)) ≠ []
  | some (.send (.addGateway ctx)) => t = .controller ctx.gateway.resourceKey ∨
    ∀ spec ∈ c.shared.history.accepted[ctx.gateway.resourceKey]?, ctx.kubeGateway.spec = spec ∨
      specs ctx.gateway.resourceKey (c.program (.controller ctx.gateway.resourceKey)) ≠ []
  | _ => True

/-- No step of a task hands on a stale gateway. -/
def StaleFree (c : PipelineConfig) : PipelineStep → Prop
  | .start _ _ => True
  | .next t _ => HandsOnFresh c t (c.program t).head?

instance (c : PipelineConfig) (t : Task) : ∀ a, Decidable (HandsOnFresh c t a)
  | none => .isTrue trivial
  | some a => by
    cases a with
    | redeploy k => exact inferInstanceAs (Decidable (∀ g ∈ c.shared.state.getGateway k, _))
    | send q =>
      cases q with
      | addGateway ctx => exact inferInstanceAs (Decidable (t = .controller ctx.gateway.resourceKey ∨ _))
      | _ => exact .isTrue trivial
    | _ => exact .isTrue trivial

instance : ∀ c x, Decidable (StaleFree c x)
  | _, .start _ _ => .isTrue trivial
  | c, .next t _ => inferInstanceAs (Decidable (HandsOnFresh c t (c.program t).head?))

/-! ## The invariant -/

/-- What is known of a task's program. A controller asks for a deployment once the type of its gateway
is stored, and only forgets the type of a gateway that is no longer accepted; the validator handles
one gateway after the other. -/
def LatestProgram : Task → Pipeline → List Action → Prop
  | .controller k, s, p =>
    ((∀ k', specs k' p = []) ∨ (∃ type ctx, p = [.saveGatewayType k type, .send (.addGateway ctx)]) ∨
      ∃ ctx, p = [.send (.addGateway ctx)]) ∧
    (∀ spec, s.history.accepted[k]? = some spec → s.state.getGatewayType k ≠ none ∨
      ∃ type ctx, p = [.saveGatewayType k type, .send (.addGateway ctx)]) ∧
    (∀ g, .deleteGatewayType k g ∈ p → s.history.accepted[k]? = none ∨ p.head? = some (.deleteGateway k))
  | .validator, _, p => ∀ a ∈ p.tail, ∃ k, a = .redeploy k
  | _, _, _ => True

/-- The last spec of a gateway on its way is the accepted one. -/
def CarriesLatest (c : PipelineConfig) : Prop :=
  ∀ k spec, c.shared.history.accepted[k]? = some spec → (carried k c).getLast? = some spec

/-- The invariant behind `DeploysLatest`. -/
structure LatestInv (c : PipelineConfig) : Prop where
  keyed : WellKeyed c
  program : ∀ t, LatestProgram t c.shared (c.program t)
  latest : CarriesLatest c

theorem specs_nil : specs k [] = [] := rfl

theorem specs_append (p q : List Action) : specs k (p ++ q) = specs k p ++ specs k q :=
  List.filterMap_append

theorem specs_eq_nil {p : List Action} (h : ∀ a ∈ p, a.specOf k = none) : specs k p = [] :=
  List.filterMap_eq_nil_iff.2 h

theorem specs_cons_none {a : Action} (p : List Action) (h : a.specOf k = none) :
    specs k (a :: p) = specs k p := List.filterMap_cons_none h

theorem specs_redeploy {p : List Action} (h : ∀ a ∈ p, ∃ k, a = .redeploy k) : specs k p = [] := by
  refine specs_eq_nil ?_
  intro a ha
  obtain ⟨key, rfl⟩ := h a ha
  rfl

theorem specs_handler (key : GatewayKey) (g : KubeGateway) (t : GatewayImplementationType)
    (r : ResourceState) : specs k (gatewayHandler key g t r) = [] := by
  refine specs_eq_nil ?_
  intro a ha
  rcases gatewayHandler_mem ha with ⟨-, rfl⟩ | ⟨-, rfl⟩ | ⟨-, rfl⟩ | ⟨-, rfl⟩ | ⟨-, rfl⟩ |
    ⟨-, rfl | rfl⟩ <;> rfl

theorem specs_tail_nil {a : Action} {rest : List Action} (h : specs k (a :: rest) = []) :
    specs k rest = [] := by
  refine specs_eq_nil ?_
  intro b hb
  exact List.filterMap_eq_nil_iff.1 h b (List.mem_cons_of_mem _ hb)

/-! ## What is known of the programs -/

section
variable {s s' : Pipeline} {t : Task} {a : Action} {rest p : List Action}

/-- Only its own controller changes what is accepted of a gateway and its type. -/
theorem Executes.frame_key (hr : Executes parseUuid s rest a s' p) (ha : a.Owned t)
    (ht : t ≠ .controller k) : s'.history.accepted[k]? = s.history.accepted[k]? ∧
      s'.state.getGatewayType k = s.state.getGatewayType k := by
  cases hr with
  | accepted g type gateway hgw =>
    have hne : ¬ gateway.resourceKey = k := by
      rw [(Gateway.tryFrom_key hgw).1]
      rintro rfl
      exact ht ha
    simp [hne, Std.ExtTreeMap.getElem?_insert]
  | saveGatewayType key type =>
    have hne : ¬ key = k := by
      rintro rfl
      exact ht ha
    simp [hne]
  | deleteGateway key =>
    have hne : ¬ key = k := by
      rintro rfl
      exact ht ha
    simp [hne, Std.ExtTreeMap.getElem?_erase]
  | deleteGatewayType key g =>
    have hne : ¬ key = k := by
      rintro rfl
      exact ht ha
    simp [hne]
  | deleteDeployed key g type gateway =>
    have hne : ¬ key = k := by
      rintro rfl
      exact ht ha
    simp [hne]
  | saveGateway reason key g => exact ⟨rfl, rfl⟩
  | maybeSaveGateway key g => exact ⟨rfl, State.getGatewayType_maybeSaveGateway⟩
  | _ => exact ⟨rfl, rfl⟩

theorem LatestProgram.congr (h : LatestProgram t s p)
    (hs : ∀ k, t = .controller k → s'.history.accepted[k]? = s.history.accepted[k]? ∧
      s'.state.getGatewayType k = s.state.getGatewayType k) : LatestProgram t s' p := by
  cases t with
  | controller k =>
    obtain ⟨haccepted, htype⟩ := hs k rfl
    obtain ⟨hshape, htyped, hdel⟩ := h
    refine ⟨hshape, ?_, ?_⟩
    · rw [haccepted, htype]
      exact htyped
    · rw [haccepted]
      exact hdel
  | validator => exact h
  | _ => trivial

theorem Starts.latestProgram (hr : Starts parseUuid s t s' p) (h : LatestProgram t s []) :
    LatestProgram t s' p := by
  cases hr with
  | reconcile g type huid =>
    obtain ⟨-, htyped, -⟩ := h
    refine ⟨.inl fun k' => specs_handler _ _ _ _, ?_, ?_⟩
    · intro spec hspec
      refine .inl ((htyped spec hspec).resolve_right ?_)
      rintro ⟨_, _, h⟩
      cases h
    · intro g' hg'
      rcases gatewayHandler_mem hg' with ⟨-, h⟩ | ⟨-, h⟩ | ⟨-, h⟩ | ⟨-, h⟩ | ⟨-, h⟩ | ⟨hr, -⟩
      · cases h
      · cases h
      · cases h
      · cases h
      · cases h
      · rw [hr]
        exact .inr rfl
  | receiveAdd ctx rest hch => exact fun a ha => by simp at ha
  | receiveOther q rest hch hq keys =>
    intro a ha
    obtain ⟨key, -, rfl⟩ := List.mem_map.1 (List.mem_of_mem_tail ha)
    exact ⟨key, rfl⟩
  | _ => trivial

/-- A program of a controller without requests for a deployment. -/
theorem latestProgram_of_specs {key : GatewayKey} (hspecs : ∀ k, specs k p = [])
    (htyped : ∀ spec, s.history.accepted[key]? = some spec → s.state.getGatewayType key ≠ none)
    (hdel : ∀ g, .deleteGatewayType key g ∈ p → s.history.accepted[key]? = none) :
    LatestProgram (.controller key) s p :=
  ⟨.inl hspecs, fun spec hspec => .inl (htyped spec hspec), fun g hg => .inl (hdel g hg)⟩

/-- Nothing is asked of such a program once no spec of the gateway is accepted. -/
theorem latestProgram_of_forgotten {key : GatewayKey} (hspecs : ∀ k, specs k p = [])
    (hnone : s.history.accepted[key]? = none) : LatestProgram (.controller key) s p := by
  refine latestProgram_of_specs hspecs ?_ fun _ _ => hnone
  intro spec hspec
  rw [hnone] at hspec
  cases hspec

/-- What a controller does in one action. The shape of its program leaves few cases: most actions
leave a shorter program that still has no request. -/
theorem Executes.latestProgram_controller (hr : Executes parseUuid s rest a s' p)
    (hown : a.Owned (.controller k)) (h : LatestProgram (.controller k) s (a :: rest)) :
    LatestProgram (.controller k) s' p := by
  obtain ⟨hshape, htyped, hdel⟩ := h
  -- whatever comes after the first of two actions has no request of its own
  have hrest : (∀ type, a ≠ .saveGatewayType k type) → ∀ k', specs k' rest = [] := by
    intro ha k'
    rcases hshape with hnil | ⟨type, ctx, hp⟩ | ⟨ctx, hp⟩
    · exact specs_tail_nil (hnil k')
    · obtain ⟨rfl, -⟩ := List.cons.inj hp
      exact absurd rfl (ha type)
    · obtain ⟨-, rfl⟩ := List.cons.inj hp
      rfl
  have htype : (∀ type, a ≠ .saveGatewayType k type) →
      ∀ spec, s.history.accepted[k]? = some spec → s.state.getGatewayType k ≠ none := by
    intro ha spec hspec
    refine (htyped spec hspec).resolve_right ?_
    rintro ⟨type, ctx, hp⟩
    exact ha type (List.cons.inj hp).1
  have hforget : a ≠ .deleteGateway k →
      ∀ g, .deleteGatewayType k g ∈ a :: rest → s.history.accepted[k]? = none := by
    intro ha g hg
    refine (hdel g hg).resolve_right ?_
    intro hhead
    exact ha (Option.some.inj hhead)
  cases hr with
  | saveGateway reason key g =>
    exact latestProgram_of_specs (hrest (by simp)) (htype (by simp))
      fun g hg => hforget (by simp) g (List.mem_cons_of_mem _ hg)
  | maybeSaveGateway key g =>
    refine latestProgram_of_specs (hrest (by simp)) ?_
      fun g hg => hforget (by simp) g (List.mem_cons_of_mem _ hg)
    rw [State.getGatewayType_maybeSaveGateway]
    exact htype (by simp)
  | misconfigured g type =>
    exact latestProgram_of_specs (fun _ => rfl) (htype (by simp)) fun g hg => by simp at hg
  | accepted g type gateway hgw =>
    have hkey : gateway.resourceKey = k := by
      rw [(Gateway.tryFrom_key hgw).1]
      exact (Task.controller.inj hown).symm
    subst hkey
    exact ⟨.inr (.inl ⟨_, _, rfl⟩), fun _ _ => .inr ⟨_, _, rfl⟩, fun g hg => by simp at hg⟩
  | saveGatewayType key type =>
    obtain rfl := Task.controller.inj hown
    refine ⟨?_, fun _ _ => .inl (by simp), fun g hg => .inl ?_⟩
    · rcases hshape with hnil | ⟨type, ctx, hp⟩ | ⟨ctx, hp⟩
      · exact .inl fun k' => specs_tail_nil (hnil k')
      · exact .inr (.inr ⟨ctx, (List.cons.inj hp).2⟩)
      · cases (List.cons.inj hp).1
    · exact hforget (by simp) g (List.mem_cons_of_mem _ hg)
  | deleteGateway key =>
    obtain rfl := Task.controller.inj hown
    exact latestProgram_of_specs (hrest (by simp)) (fun spec hspec => by simp at hspec)
      fun g hg => by simp
  | deleteGatewayType key g =>
    obtain rfl := Task.controller.inj hown
    exact latestProgram_of_forgotten (hrest (by simp)) (hforget (by simp) g List.mem_cons_self)
  | deleteDeployed key g type gateway =>
    obtain rfl := Task.controller.inj hown
    exact latestProgram_of_forgotten (hrest (by simp)) (hforget (by simp) g List.mem_cons_self)
  | awaitDeleted key =>
    exact latestProgram_of_specs (hrest (by simp)) (htype (by simp))
      fun g hg => hforget (by simp) g (List.mem_cons_of_mem _ hg)
  | send q =>
    exact latestProgram_of_specs (hrest (by simp)) (htype (by simp))
      fun g hg => hforget (by simp) g (List.mem_cons_of_mem _ hg)
  | sendBackend type e =>
    exact latestProgram_of_specs (hrest (by simp)) (htype (by simp))
      fun g hg => hforget (by simp) g (List.mem_cons_of_mem _ hg)
  | routeUnmatched | routeMatched | routeGivesUp | routeAborts | routeAdds =>
    obtain ⟨key, hkey⟩ := hown
    cases hkey
  | redeployMissing | redeployAborts | redeploys | redeployUntyped | redeployTyped | process
  | sendDeploy | patchFailed | patched | patchedReady => cases hown

theorem Executes.latestProgram_validator (hr : Executes parseUuid s rest a s' p)
    (hown : a.Owned .validator) (h : LatestProgram .validator s (a :: rest)) :
    LatestProgram .validator s' p := by
  have hrest : ∀ b ∈ rest.tail, ∃ k, b = .redeploy k := fun b hb => h b (List.mem_of_mem_tail hb)
  cases hr with
  | redeploys | redeployTyped | process => exact h
  | misconfigured | accepted | saveGatewayType | deleteGateway | deleteGatewayType | deleteDeployed
  | patchFailed | patched | patchedReady => cases hown
  | routeUnmatched | routeMatched | routeGivesUp | routeAborts | routeAdds =>
    obtain ⟨key, hkey⟩ := hown
    cases hkey
  | redeployAborts => exact fun b hb => by simp at hb
  | saveGateway | maybeSaveGateway | awaitDeleted | send | sendBackend | redeployMissing
  | redeployUntyped | sendDeploy => exact hrest

end

/-! ## What is carried -/

section
variable {c : PipelineConfig} {s s' : Pipeline} {t : Task} {a : Action} {rest p : List Action}
  {spec : GatewaySpec}

/-- A move that keeps the specs of the moving task keeps what is carried. -/
theorem carried_move (hp : specs k p = specs k (c.program t))
    (hdeployed : s'.deployedSpecs k = c.shared.deployedSpecs k)
    (hrequested : s'.requestedSpecs k = c.shared.requestedSpecs k) :
    carried k (c.move t (s', p)) = carried k c := by
  have hprogram : ∀ t', specs k ((c.move t (s', p)).program t') = specs k (c.program t') := by
    intro t'
    by_cases ht : t' = t
    · subst ht
      rw [Config.move_program_self]
      exact hp
    · rw [Config.move_program_ne c (s', p) ht]
  simp only [carried, hprogram, Config.move_shared, hdeployed, hrequested]

/-- What other tasks than the validator and the controller of `k` have to do does not count. -/
theorem carried_move_other (hv : t ≠ .validator) (hc : t ≠ .controller k) :
    carried k (c.move t (s', p)) = s'.deployedSpecs k ++ specs k (c.program .validator) ++
      s'.requestedSpecs k ++ specs k (c.program (.controller k)) := by
  simp only [carried, Config.move_program_ne c (s', p) (Ne.symm hv),
    Config.move_program_ne c (s', p) (Ne.symm hc), Config.move_shared]

/-- What the validator does. -/
theorem carried_move_validator : carried k (c.move .validator (s', p)) = s'.deployedSpecs k ++
    specs k p ++ s'.requestedSpecs k ++ specs k (c.program (.controller k)) := by
  have hne : Task.controller k ≠ .validator := by simp
  simp only [carried, Config.move_program_self, Config.move_program_ne c (s', p) hne, Config.move_shared]

/-- What the controller of `k` does. -/
theorem carried_move_controller : carried k (c.move (.controller k) (s', p)) = s'.deployedSpecs k ++
    specs k (c.program .validator) ++ s'.requestedSpecs k ++ specs k p := by
  have hne : Task.validator ≠ .controller k := by simp
  simp only [carried, Config.move_program_self, Config.move_program_ne c (s', p) hne, Config.move_shared]

theorem requestedSpecs_sendRequest (q : ReferenceValidateRequest) :
    (s.sendRequest q).requestedSpecs k = s.requestedSpecs k ++ (q.specOf k).toList := by
  cases h : q.specOf k <;>
    simp [Pipeline.sendRequest, Pipeline.requestedSpecs, List.filterMap_append, h]

theorem requestedSpecs_receive {q : ReferenceValidateRequest} {qs : List ReferenceValidateRequest}
    (h : s.validateChannel = q :: qs) :
    s.requestedSpecs k = (q.specOf k).toList ++ qs.filterMap (ReferenceValidateRequest.specOf k) := by
  rw [Pipeline.requestedSpecs, h]
  cases hq : q.specOf k <;> simp [hq]

theorem specs_cons (a : Action) (p : List Action) : specs k (a :: p) = (a.specOf k).toList ++ specs k p := by
  cases h : a.specOf k <;> simp [specs, h]

/-- A spec that is followed by others does not change the last one. -/
theorem getLast?_insert {α : Type} {l m n : List α} (h : n ≠ []) :
    (l ++ m ++ n).getLast? = (l ++ n).getLast? := by
  rw [List.getLast?_append_of_ne_nil _ h, List.getLast?_append_of_ne_nil _ h]

theorem Starts.carried_eq (hr : Starts parseUuid c.shared t s' p) (hidle : c.program t = []) :
    carried k (c.move t (s', p)) = carried k c := by
  cases hr with
  | reconcile g type huid =>
    apply carried_move (by rw [hidle, specs_handler, specs_nil]) rfl rfl
  | reconcileRoute key parents =>
    refine carried_move ?_ rfl rfl
    rw [hidle]
    refine specs_eq_nil ?_
    intro a ha
    obtain ⟨k, -, rfl⟩ := List.mem_map.1 ha
    rfl
  | receiveAdd ctx rest hch =>
    rw [carried_move_validator, carried, hidle, requestedSpecs_receive hch, specs_cons, specs_nil]
    simp [Pipeline.requestedSpecs, Pipeline.deployedSpecs, Action.specOf,
      ReferenceValidateRequest.specOf]
  | receiveOther q rest hch hq keys =>
    have hnone : q.specOf k = none := by
      cases q with
      | addGateway ctx => exact absurd rfl (hq ctx)
      | _ => rfl
    have hkeys : specs k (keys.map Action.redeploy) = [] := by
      refine specs_redeploy ?_
      intro a ha
      obtain ⟨key, -, rfl⟩ := List.mem_map.1 ha
      exact ⟨key, rfl⟩
    rw [carried_move_validator, carried, hidle, requestedSpecs_receive hch, hkeys, specs_nil, hnone]
    rfl
  | notify q hq =>
    have hnone : q.specOf k = none := by
      cases q with
      | addGateway ctx => exact absurd rfl (hq ctx)
      | _ => rfl
    refine carried_move (by rw [hidle]) rfl ?_
    rw [requestedSpecs_sendRequest, hnone, Option.toList_none, List.append_nil]
  | receiveDeploy | receiveProcessed | receiveContext | backendFailed | backendAddressed | backendPolling
  | backendDeleted | pollAnswered => exact carried_move (congrArg (specs k) hidle).symm rfl rfl

/-- An action without a spec that hands on none, and accepts none. -/
theorem CarriesLatest.move_same (h : CarriesLatest c) (hprog : c.program t = a :: rest)
    (hp : ∀ k, specs k p = specs k (a :: rest)) (hdeployed : ∀ k, s'.deployedSpecs k = c.shared.deployedSpecs k)
    (hrequested : ∀ k, s'.requestedSpecs k = c.shared.requestedSpecs k)
    (haccepted : ∀ (k : GatewayKey) (spec : GatewaySpec), s'.history.accepted[k]? = some spec →
      c.shared.history.accepted[k]? = some spec) :
    CarriesLatest (c.move t (s', p)) := by
  intro k spec hspec
  rw [Config.move_shared] at hspec
  rw [carried_move (by rw [hp, hprog]) (hdeployed k) (hrequested k)]
  exact h k spec (haccepted k spec hspec)

/-- A route's controller carries nothing. -/
theorem CarriesLatest.move_route (h : CarriesLatest c) {key : RouteKey} (hs : s'.history = c.shared.history)
    (hrequested : s'.validateChannel = c.shared.validateChannel) :
    CarriesLatest (c.move (.route key) (s', p)) := by
  intro k spec hspec
  rw [Config.move_shared, hs] at hspec
  rw [carried_move_other (by simp) (by simp), Pipeline.deployedSpecs, hs, Pipeline.requestedSpecs, hrequested]
  exact h k spec hspec

/-- The controller accepts a gateway, and is about to request it. -/
theorem CarriesLatest.accepted (h : CarriesLatest c) {g : KubeGateway} {type : GatewayImplementationType}
    {gateway : Gateway} (hgw : Gateway.tryFrom parseUuid g type = .ok gateway) :
    CarriesLatest (c.move (.controller g.resourceKey)
      ({ c.shared with history := { c.shared.history with
          accepted := c.shared.history.accepted.insert gateway.resourceKey g.spec } },
        [.saveGatewayType gateway.resourceKey type,
          .send (.addGateway
            { gateway := gateway, kubeGateway := g, gatewayClassName := g.spec.gatewayClassName })])) := by
  have hkey := (Gateway.tryFrom_key hgw).1
  intro k spec hspec
  rw [Config.move_shared] at hspec
  by_cases hk : g.resourceKey = k
  · subst hk
    rw [carried_move_controller]
    rw [hkey, Std.ExtTreeMap.getElem?_insert_self] at hspec
    obtain rfl := Option.some.inj hspec
    have hspecs : specs g.resourceKey [.saveGatewayType gateway.resourceKey type,
        .send (.addGateway { gateway := gateway, kubeGateway := g
                             gatewayClassName := g.spec.gatewayClassName })] = [g.spec] := by
      simp [specs_cons, specs_nil, Action.specOf, ReferenceValidateRequest.specOf, RequestContext.specOf, hkey]
    rw [hspecs, List.getLast?_concat]
  · rw [carried_move_other (by simp) (by simp [hk])]
    refine h k spec ?_
    simpa [Std.ExtTreeMap.getElem?_insert, hkey, hk] using hspec

/-- A request goes to the end of the channel. -/
theorem CarriesLatest.send (h : CarriesLatest c) {q : ReferenceValidateRequest}
    (hprog : c.program t = .send q :: rest) (hown : (Action.send q).Owned t)
    (hfresh : HandsOnFresh c t (some (.send q))) :
    CarriesLatest (c.move t (c.shared.sendRequest q, rest)) := by
  intro k spec hspec
  rw [Config.move_shared] at hspec
  have hsame (hnone : q.specOf k = none) :
      (carried k (c.move t (c.shared.sendRequest q, rest))).getLast? = some spec := by
    have hspecs : specs k rest = specs k (c.program t) := by
      rw [hprog]
      exact (specs_cons_none (a := .send q) rest hnone).symm
    have hrequested : (c.shared.sendRequest q).requestedSpecs k = c.shared.requestedSpecs k := by
      rw [requestedSpecs_sendRequest, hnone]
      exact List.append_nil _
    have hcarried : carried k (c.move t (c.shared.sendRequest q, rest)) = carried k c :=
      carried_move hspecs rfl hrequested
    rw [hcarried]
    exact h k spec hspec
  by_cases hcontroller : t = .controller k
  · -- the controller's own request goes from its program to the end of the channel
    subst hcontroller
    rw [carried_move_controller, requestedSpecs_sendRequest]
    have h := h k spec hspec
    rw [carried, hprog, specs_cons] at h
    simpa [Action.specOf, Pipeline.deployedSpecs, Pipeline.sendRequest] using h
  · cases q with
    | addGateway ctx =>
      by_cases hk : ctx.gateway.resourceKey = k
      · subst hk
        obtain ⟨key, rfl⟩ := hown.resolve_left hcontroller
        rw [carried_move_other (by simp) (by simp), requestedSpecs_sendRequest]
        have h := h _ spec hspec
        rw [carried] at h
        rcases hfresh.resolve_left hcontroller spec hspec with heq | hpending
        · by_cases hpending : specs ctx.gateway.resourceKey
              (c.program (.controller ctx.gateway.resourceKey)) = []
          · rw [hpending]
            simp [ReferenceValidateRequest.specOf, RequestContext.specOf, heq, List.getLast?_append]
          · rw [← List.append_assoc, getLast?_insert hpending]
            exact h
        · rw [← List.append_assoc, getLast?_insert hpending]
          exact h
      · exact hsame (if_neg hk)
    | _ => exact hsame rfl

/-- The validator reads a gateway from the store, for a deployment. -/
theorem CarriesLatest.redeploys (h : CarriesLatest c) {g : KubeGateway} {gateway : Gateway}
    (hprog : c.program .validator = .redeploy gateway.resourceKey :: rest)
    (hrest : ∀ a ∈ rest, ∃ key, a = .redeploy key)
    (hg : c.shared.state.getGateway gateway.resourceKey = some g)
    (hfresh : HandsOnFresh c .validator (some (.redeploy gateway.resourceKey))) :
    CarriesLatest (c.move .validator (c.shared, .redeployAs g gateway :: rest)) := by
  intro k spec hspec
  rw [Config.move_shared] at hspec
  have h := h k spec hspec
  have hrest : specs k rest = [] := specs_redeploy hrest
  rw [carried, hprog, specs_cons_none rest rfl, hrest, List.append_nil] at h
  rw [carried_move_validator, specs_cons, hrest, List.append_nil]
  by_cases hk : gateway.resourceKey = k
  · subst hk
    by_cases hpending : c.shared.requestedSpecs gateway.resourceKey ++
        specs gateway.resourceKey (c.program (.controller gateway.resourceKey)) = []
    · have heq := (hfresh g hg spec hspec).resolve_right fun h => h hpending
      obtain ⟨hrequested, hsend⟩ := List.append_eq_nil_iff.1 hpending
      rw [hrequested, hsend]
      simp [Action.specOf, heq]
    · rw [List.append_assoc, getLast?_insert hpending, ← List.append_assoc]
      exact h
  · simpa [Action.specOf, hk] using h

/-- The validator gives a gateway up whose type is missing: its controller still has to request it. -/
theorem LatestInv.redeployUntyped (hc : LatestInv c) {g : KubeGateway} {gateway : Gateway}
    (hprog : c.program .validator = .redeployAs g gateway :: rest)
    (htype : c.shared.state.getGatewayType gateway.resourceKey = none) :
    CarriesLatest (c.move .validator (c.shared, rest)) := by
  intro k spec hspec
  rw [Config.move_shared] at hspec
  have h := hc.latest k spec hspec
  rw [carried, hprog, specs_cons] at h
  rw [carried_move_validator]
  by_cases hk : gateway.resourceKey = k
  · subst hk
    have hpending : specs gateway.resourceKey (c.program (.controller gateway.resourceKey)) ≠ [] := by
      obtain ⟨type, ctx, hp⟩ := ((hc.program (.controller gateway.resourceKey)).2.1 spec
        hspec).resolve_left fun h => h htype
      have hctx := (hc.keyed.task (.controller gateway.resourceKey) (.send (.addGateway ctx))
        (by rw [hp]; simp)).2
      have hkey : ctx.gateway.resourceKey = gateway.resourceKey := by
        rcases hctx with hctx | ⟨key, hctx⟩
        · exact (Task.controller.inj hctx).symm
        · cases hctx
      rw [hp]
      simp [specs_cons, Action.specOf, ReferenceValidateRequest.specOf, RequestContext.specOf, hkey]
    rw [List.getLast?_append_of_ne_nil _ hpending] at h ⊢
    exact h
  · simpa [Action.specOf, hk] using h

/-- The validator hands a gateway to the deployer. -/
theorem CarriesLatest.sendDeploy (h : CarriesLatest c) {ctx : RequestContext}
    (hprog : c.program .validator = .sendDeploy ctx :: rest) :
    CarriesLatest (c.move .validator
      ({ c.shared with
          deployChannel := c.shared.deployChannel ++ [ctx]
          history := { c.shared.history with deployed := c.shared.history.deployed ++ [ctx] } }, rest)) := by
  intro k spec hspec
  rw [Config.move_shared] at hspec
  have h := h k spec hspec
  rw [carried, hprog, specs_cons] at h
  rw [carried_move_validator]
  have hdeployed : Pipeline.deployedSpecs
      { c.shared with
        deployChannel := c.shared.deployChannel ++ [ctx]
        history := { c.shared.history with deployed := c.shared.history.deployed ++ [ctx] } } k =
      c.shared.deployedSpecs k ++ (ctx.specOf k).toList := by
    cases hctx : ctx.specOf k <;> simp [Pipeline.deployedSpecs, hctx]
  rw [hdeployed, List.append_assoc (c.shared.deployedSpecs k)]
  exact h

/-- An action keeps the last spec on its way the accepted one, unless it hands on a stale gateway. -/
theorem Executes.carriesLatest (hr : Executes parseUuid c.shared rest a s' p) (hc : LatestInv c)
    (hprog : c.program t = a :: rest) (hfresh : HandsOnFresh c t (some a)) :
    CarriesLatest (c.move t (s', p)) := by
  have hown : a.Owned t := (hc.keyed.task t a (by rw [hprog]; exact List.mem_cons_self)).2
  have hlatest : CarriesLatest c := hc.latest
  have hlp := hc.program t
  rw [hprog] at hlp
  cases hr with
  | saveGateway | maybeSaveGateway | saveGatewayType | deleteGatewayType | deleteDeployed | awaitDeleted
  | sendBackend | routeUnmatched | redeployMissing | patchFailed | patched | patchedReady | redeployTyped =>
    exact hlatest.move_same hprog (fun _ => rfl) (fun _ => rfl) (fun _ => rfl) fun _ _ h => h
  | deleteGateway key =>
    refine hlatest.move_same hprog (fun _ => rfl) (fun _ => rfl) (fun _ => rfl) fun k spec hspec => ?_
    by_cases hk : key = k
    · simp [hk] at hspec
    · simpa [hk, Std.ExtTreeMap.getElem?_erase] using hspec
  | process ctx effective hkey =>
    refine hlatest.move_same hprog (fun k => ?_) (fun _ => rfl) (fun _ => rfl) fun _ _ h => h
    simp [specs_cons, Action.specOf, RequestContext.specOf, hkey]
  | routeMatched key g hg =>
    refine hlatest.move_same hprog (fun k => ?_) (fun _ => rfl) (fun _ => rfl) fun _ _ h => h
    rw [specs_append, specs_cons_none rest rfl]
    exact List.append_nil _
  | misconfigured g type =>
    -- nothing comes after a conversion
    obtain rfl : t = .controller g.resourceKey := hown
    refine hlatest.move_same hprog (fun k => ?_) (fun _ => rfl) (fun _ => rfl) fun _ _ h => h
    rcases hlp.1 with hnil | ⟨_, _, hp⟩ | ⟨_, hp⟩
    · rw [hnil, specs_nil]
    · cases (List.cons.inj hp).1
    · cases (List.cons.inj hp).1
  | accepted g type gateway hgw =>
    obtain rfl : t = .controller g.resourceKey := hown
    exact hlatest.accepted hgw
  | send q => exact hlatest.send hprog hown hfresh
  | routeGivesUp | routeAborts | routeAdds =>
    obtain ⟨key, rfl⟩ := hown
    exact hlatest.move_route rfl rfl
  | redeployAborts key g hg hconv =>
    obtain rfl : t = .validator := hown
    refine hlatest.move_same hprog (fun k => ?_) (fun _ => rfl) (fun _ => rfl) fun _ _ h => h
    have hrest : specs k rest = [] := specs_redeploy hlp
    rw [specs_nil, specs_cons_none rest rfl, hrest]
  | redeploys key g hg gateway hgw =>
    obtain rfl : t = .validator := hown
    obtain rfl : gateway.resourceKey = key := by
      rw [(Gateway.tryFrom_key hgw).1]
      exact hc.keyed.shared.stored key g hg
    exact hlatest.redeploys hprog hlp hg hfresh
  | redeployUntyped g gateway htype =>
    obtain rfl : t = .validator := hown
    exact hc.redeployUntyped hprog htype
  | sendDeploy ctx =>
    obtain rfl : t = .validator := hown
    exact hlatest.sendDeploy hprog

end

/-! ## The run -/

theorem latestInv_init : LatestInv (pipeline parseUuid).system.init where
  keyed := wellKeyed_init
  program t := by
    cases t with
    | controller k => exact latestProgram_of_specs (fun _ => rfl) (by simp [system, pipeline]) (by simp [system])
    | validator => exact fun a ha => by simp [system] at ha
    | _ => trivial
  latest k spec h := by simp [system, pipeline] at h

theorem latestInv_step {c c' : PipelineConfig} {x : PipelineStep} (hc : LatestInv c) (hx : StaleFree c x)
    (h : (pipeline parseUuid).system.step c x = some c') : LatestInv c' := by
  refine ⟨wellKeyed_step hc.keyed h, ?_, ?_⟩
  · have hlocal : LocalInv (fun _ => True) LatestProgram c := ⟨trivial, hc.program⟩
    refine (LocalInv.step (fun c _ => WellKeyed c) hlocal hc.keyed ?_ ?_ h).task
    · intro c t e r hc _ hidle hr
      have hstart := starts_of_startTask hr
      obtain ⟨hstate, hhistory, -⟩ := hstart.frame
      have hp := hc.task t
      rw [hidle] at hp
      refine ⟨trivial, hstart.latestProgram hp, fun t' p _ hp => hp.congr fun k _ => ?_⟩
      rw [hstate, hhistory]
      exact ⟨rfl, rfl⟩
    · intro c t a rest w r hc hkeyed hprog hr
      have hexec := executes_of_execAction hr
      have hp := hc.task t
      rw [hprog] at hp
      have hown := (hkeyed.task t a (by rw [hprog]; exact List.mem_cons_self)).2
      refine ⟨trivial, ?_, ?_⟩
      · cases t with
        | controller k => exact hexec.latestProgram_controller hown hp
        | validator => exact hexec.latestProgram_validator hown hp
        | _ => trivial
      · intro t' p hne hp
        refine hp.congr fun k ht' => hexec.frame_key hown ?_
        rw [← ht']
        exact Ne.symm hne
  · cases x with
    | start t e =>
      obtain ⟨hidle, r, hr, rfl⟩ := step_start.1 h
      have hstart := starts_of_startTask hr
      intro k spec hspec
      rw [hstart.carried_eq hidle]
      refine hc.latest k spec ?_
      rw [← hstart.frame.2.1]
      exact hspec
    | next t w =>
      obtain ⟨a, rest, hprog, r, hr, rfl⟩ := step_next.1 h
      refine (executes_of_execAction hr).carriesLatest hc hprog ?_
      have hx' : HandsOnFresh c t (c.program t).head? := hx
      rw [hprog] at hx'
      exact hx'

/-- **Without stale reads the last deploy request of every gateway has its accepted spec**, whenever
nothing is under way. -/
theorem deploys_latest {as : List PipelineStep} {c : PipelineConfig}
    (hfresh : (pipeline parseUuid).system.Along StaleFree (pipeline parseUuid).system.init as)
    (hrun : (pipeline parseUuid).system.run (pipeline parseUuid).system.init as = some c)
    (hquiet : Quiescent c) : DeploysLatest c.shared := by
  have hc : LatestInv c := System.inv_run (fun _ _ _ => latestInv_step) latestInv_init hfresh hrun
  intro k spec hspec
  have h := hc.latest k spec hspec
  rw [carried, hquiet.idle, hquiet.idle, Pipeline.requestedSpecs, hquiet.validate] at h
  simpa [specs] using h

/-! ## A stale read -/

/-- A check for `Quiescent` after a run: the tasks of the run are idle and the channels empty. -/
def isQuiet (as : List PipelineStep) (c : PipelineConfig) : Bool :=
  (as.all fun x => (c.program x.task).isEmpty) && c.shared.validateChannel.isEmpty &&
    c.shared.deployChannel.isEmpty && (c.shared.backendChannel .envoy).isEmpty &&
    (c.shared.backendChannel .agentgateway).isEmpty && (c.shared.backendChannel .orion).isEmpty &&
    c.shared.responseChannel.isEmpty

theorem quiescent_of_isQuiet {as : List PipelineStep} {c : PipelineConfig}
    (hrun : (pipeline parseUuid).system.run (pipeline parseUuid).system.init as = some c)
    (h : isQuiet as c = true) : Quiescent c := by
  simp only [isQuiet, Bool.and_eq_true, List.isEmpty_iff, List.all_eq_true] at h
  obtain ⟨⟨⟨⟨⟨⟨hidle, hvalidate⟩, hdeploy⟩, henvoy⟩, hagentgateway⟩, horion⟩, hresponse⟩ := h
  refine ⟨hvalidate, hdeploy, ?_, hresponse, ?_⟩
  · intro t
    cases t with
    | envoy => exact henvoy
    | agentgateway => exact hagentgateway
    | orion => exact horion
  · intro t
    by_cases ht : ∃ x ∈ as, x.task = t
    · obtain ⟨x, hx, rfl⟩ := ht
      exact hidle x hx
    · -- a task that has not moved is as idle as at the start
      rw [run_program hrun fun x hx hxt => ht ⟨x, hx, hxt⟩]
      rfl

/-- A gateway, and the same gateway with another port. -/
def firstVersion : KubeGateway where
  metadata := { name := some "gateway", ns := some "infra", uid := some someUid, resourceVersion := some "1" }
  spec := { gatewayClassName := "kubvernor", listeners := [{ name := "l", port := 80, protocol := "HTTP" }] }

def secondVersion : KubeGateway where
  metadata := { firstVersion.metadata with resourceVersion := some "2" }
  spec := { gatewayClassName := "kubvernor", listeners := [{ name := "l", port := 8080, protocol := "HTTP" }] }

/-- From the reconcile event of a gateway to the backend that goes polling for its address; `saves`
steps store the gateway before it is converted. -/
def deployRun (g : KubeGateway) (saves : List PipelineStep) : List PipelineStep :=
  let controller := Task.controller g.resourceKey
  [.start controller (.reconcile g .envoy)] ++ saves ++
    [.next controller {}, .next controller {}, .next controller {},
      .start .validator (.receive ∅), .next .validator {}, .next .validator {},
      .start .deployer .receiveDeploy, .next .deployer {},
      .start (.backend .envoy) (.receiveBackend .polling)]

/-- The gateway is deployed in its first version. -/
def firstRun : List PipelineStep := deployRun firstVersion [.next (.controller firstVersion.resourceKey) {}]

/-- A reference changes, and the validator reads the stored gateway again and has it deployed. -/
def referenceRun : List PipelineStep :=
  [.start .other (.notify (.updatedGateways (.ofList [firstVersion.resourceKey]))),
    .start .validator (.receive ∅), .next .validator {}, .next .validator {}, .next .validator {},
    .next .validator {}, .start .deployer .receiveDeploy, .next .deployer {},
    .start (.backend .envoy) (.receiveBackend .polling)]

/-- A reference changes while the stored gateway is the accepted one, and then the spec does. -/
def latestRun : List PipelineStep := firstRun ++ referenceRun ++ deployRun secondVersion []

/-- The spec changes, and while the backend still polls for the address a reference changes. -/
def staleRun : List PipelineStep := firstRun ++ deployRun secondVersion [] ++ referenceRun

theorem latestRun_deploysLatest : ∃ c,
    (pipeline parseSomeUid).system.run (pipeline parseSomeUid).system.init latestRun = some c ∧
      DeploysLatest c.shared ∧
      c.shared.deployedSpecs firstVersion.resourceKey = [firstVersion.spec, firstVersion.spec, secondVersion.spec] := by
  have h : ((pipeline parseSomeUid).system.run (pipeline parseSomeUid).system.init latestRun).map
      (fun c => isQuiet latestRun c && decide (c.shared.deployedSpecs firstVersion.resourceKey =
        [firstVersion.spec, firstVersion.spec, secondVersion.spec])) = some true := by decide
  obtain ⟨c, hc, hquiet⟩ := Option.map_eq_some_iff.1 h
  obtain ⟨hquiet, hdeployed⟩ := Bool.and_eq_true_iff.1 hquiet
  exact ⟨c, hc, deploys_latest (by decide) hc (quiescent_of_isQuiet hc hquiet), of_decide_eq_true hdeployed⟩

theorem staleRun_deploysStale : ∃ c,
    (pipeline parseSomeUid).system.run (pipeline parseSomeUid).system.init staleRun = some c ∧
      Quiescent c ∧ ¬ DeploysLatest c.shared := by
  have h : ((pipeline parseSomeUid).system.run (pipeline parseSomeUid).system.init staleRun).map
      (fun c => isQuiet staleRun c && decide (
        c.shared.history.accepted[firstVersion.resourceKey]? = some secondVersion.spec ∧
        (c.shared.deployedSpecs firstVersion.resourceKey).getLast? = some firstVersion.spec)) =
      some true := by decide
  obtain ⟨c, hc, hquiet⟩ := Option.map_eq_some_iff.1 h
  obtain ⟨hquiet, hstale⟩ := Bool.and_eq_true_iff.1 hquiet
  obtain ⟨haccepted, hdeployed⟩ := of_decide_eq_true hstale
  refine ⟨c, hc, quiescent_of_isQuiet hc hquiet, ?_⟩
  intro hlatest
  have hlast := hlatest _ _ haccepted
  rw [hdeployed] at hlast
  exact absurd hlast (by decide)

end Kubvernor
