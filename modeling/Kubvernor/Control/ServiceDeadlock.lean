import Kubvernor.Control.ServiceChannels

/-!
# The deadlock of the gateway deployer and a backend

The gateway deployer hands a gateway over to its backend in the same loop in which it takes the responses
of the backends. If the backend's channel and that of the responses are both full, the deployer waits for
the backend and the backend for the deployer.

Every message between the two goes back to a deploy request of the validator, the deletion of a gateway or
a failed look-up of an address (`demand`), and it takes 2050 of these: a full channel each way, the gateway
the deployer hands over and the response the backend sends. With fewer there is no deadlock
(`deadlock_iff`), and one that is there stays, and nothing gets through any more (`Deadlocked.run`).
-/

namespace Kubvernor.ServiceChannels

open Lib

variable {configured : GatewayImplementationType → Bool} {c c' : (services configured).State}
  {x : (services configured).Step} {t u : ServiceTask} {k : ServiceChannel} {q : Message}
  {ty : GatewayImplementationType} {n : Nat}

/-! ## What makes messages for the deployer and the backends -/

/-- The messages on their way to a backend or from it, and the tasks that look up an address. -/
def Message.weight : Message → Nat
  | .deploy _ | .changed _ | .deleted _ _ | .processed | .processedWithContext | .poll _ => 1
  | _ => 0

/-- The messages that ask for something to be deployed or deleted. -/
def Message.demand : Message → Nat
  | .deploy _ | .deleted _ _ => 1
  | _ => 0

/-- The tasks that pass them on. -/
def carries : ServiceTask → Bool
  | .gatewayDeployer | .backendDeployer _ | .addressPolling _ => true
  | _ => false

def actionWeight : ServiceAction → Nat
  | .send _ q => q.weight
  | _ => 0

def actionDemand : ServiceAction → Nat
  | .send _ q => q.demand
  | _ => 0

def lookupDemand : Lookup → Nat
  | .failed => 1
  | .address | .noAddress => 0

/-- What a step asks for: a deployment or a deletion, or one more response if an address cannot be looked
up. -/
def demand (c : (services configured).State) : (services configured).Step → Nat
  | .next t _ => (c.program t).head?.elim 0 actionDemand
  | .start _ (.receive (.addressPolling _) e) => lookupDemand e.lookup
  | .start _ _ => 0

/-- The state is reached by a run with so many demands. -/
abbrev ReachedAt (configured : GatewayImplementationType → Bool) (n : Nat) (c : (services configured).State) :
    Prop :=
  Network.Costs System.Any demand (services configured).tasks.system.init c n

def weights : Network.Weights ServiceChannel ServiceTask Message where
  message _ := Message.weight
  action t a := if carries t then actionWeight a else 0

theorem weights_action_of_carries (h : carries t = true) (a : ServiceAction) :
    weights.action t a = actionWeight a := if_pos h

theorem sum_eq_zero_of_not_carries (h : carries t = false) (p : Program) :
    (p.map (weights.action t)).sum = 0 := by
  refine List.sum_eq_zero fun n hn => ?_
  obtain ⟨a, -, rfl⟩ := List.mem_map.1 hn
  exact if_neg (by rw [h]; exact Bool.false_ne_true)

theorem weight_patchStatuses (kind : PatchedKind) (sender : ServiceTask) (n : Nat) :
    ((patchStatuses kind sender n).map actionWeight).sum = 0 := by
  refine List.sum_eq_zero fun m hm => ?_
  obtain ⟨a, ha, rfl⟩ := List.mem_map.1 hm
  obtain ⟨p, hp, hap⟩ := List.mem_flatten.1 ha
  obtain rfl := List.eq_of_mem_replicate hp
  simp only [patchStatus, List.mem_cons, List.not_mem_nil, or_false] at hap
  rcases hap with rfl | rfl
  · rfl
  · rfl

theorem weight_processResponse (e : Circumstances) : ((processResponse e).map actionWeight).sum = 0 := by
  have hready : ((onVersionNotChanged e).map actionWeight).sum = 0 := by
    unfold onVersionNotChanged
    split
    · split
      · rfl
      · rfl
    · rfl
  simp only [processResponse, List.map_append, List.sum_append, weight_patchStatuses, hready, Nat.zero_add,
    Nat.add_zero]
  rfl

/-- What is done for a message weighs no more than the message, unless an address cannot be looked up. -/
theorem weight_handle (hq : Sound k q) (e : Circumstances) :
    ((handle q e).map (weights.action (receiver k))).sum ≤
      q.weight + demand c (.start (receiver k) (.receive k e)) := by
  obtain ⟨rfl, -⟩ := hq
  cases hcarries : carries (receiver q.channel) with
  | false =>
    rw [sum_eq_zero_of_not_carries hcarries]
    exact Nat.zero_le _
  | true =>
    rw [List.map_congr_left fun a _ => weights_action_of_carries hcarries a]
    cases q with
    | deploy t => exact Nat.le_refl 1
    | processed => exact Nat.zero_le _
    | processedWithContext =>
      rw [handle, weight_processResponse]
      exact Nat.zero_le _
    | changed t =>
      simp only [handle, deployGateway, updateAddressWithPolling]
      split
      · split <;> exact Nat.le_refl 1
      · exact Nat.le_refl 1
    | deleted t sender => cases t <;> simp [handle, undeployGateway, actionWeight, send, Message.weight]
    | poll i =>
      cases hlookup : e.lookup <;>
        simp [handle, pollAddress, hlookup, actionWeight, send, Message.weight, Message.channel, receiver, demand,
          lookupDemand]
    | _ => cases hcarries

theorem weight_le_of_sentBy (h : q.sentBy t = true) :
    q.weight ≤ (if carries t then q.weight else 0) + q.demand := by
  unfold Message.sentBy at h
  split at h <;> simp_all [Message.weight, Message.demand, carries]

theorem carries_of_produce {o : Occasion} {p : Program} (h : produce t o = some p) : carries t = false := by
  unfold produce at h
  split at h
  · rfl
  · rfl
  · rfl
  · cases h

theorem paid : Network.Paid (N := services configured) weights demand (Network.Typed Sound Does) where
  receive c k e q rest hc hqueue := weight_handle (hc.message k q (hqueue ▸ List.mem_cons_self)) e
  produce c t e p hc hproduce := by
    rw [sum_eq_zero_of_not_carries (carries_of_produce hproduce)]
    exact Nat.zero_le _
  send c t k q rest hc hprogram := by
    have ha := hc.action t (.send k q) (hprogram ▸ List.mem_cons_self)
    simp only [demand, hprogram, List.head?_cons, Option.elim_some]
    exact weight_le_of_sentBy ha.2

/-! ## What a deadlock takes -/

theorem weight_of_channel (h : q.channel = .backendResponse ∨ ∃ ty, q.channel = .backendDeployer ty) :
    q.weight = 1 := by
  cases q <;> simp_all [Message.channel, Message.weight]

/-- A full channel with messages of weight one. -/
theorem le_sum_weight (hlen : n ≤ (c.shared.queue k).length)
    (hweight : ∀ q ∈ c.shared.queue k, q.weight = 1) :
    n ≤ ((c.shared.queue k).map (weights.message k)).sum := by
  have hones : (c.shared.queue k).map (weights.message k) = (c.shared.queue k).map fun _ => 1 :=
    List.map_congr_left hweight
  rw [hones, List.map_const', List.sum_replicate_nat, Nat.mul_one]
  exact hlen

theorem one_le_sum_program (hcarries : carries t = true) (hhead : (c.program t).head? = some (.send k q))
    (hweight : q.weight = 1) : 1 ≤ ((c.program t).map (weights.action t)).sum := by
  obtain ⟨rest, hrest⟩ := List.head?_eq_some_iff.1 hhead
  rw [hrest, List.map_cons, List.sum_cons, weights_action_of_carries hcarries, actionWeight, hweight]
  exact Nat.le_add_right 1 _

/-- A deadlock takes two full channels and what the two tasks hold. -/
theorem Deadlocked.le_cost (hcosts : ReachedAt configured n c) (h : Deadlocked ty c) : 2050 ≤ n := by
  have htyped := typed_of_reachable (hcosts.reachable System.Reachable.init)
  have hall := hcosts.total_le paid (fun _ => typed_of_reachable) {.gatewayDeployer, .backendDeployer ty}
    {.backendDeployer ty, .backendResponse}
  obtain ⟨⟨⟨q, hhead⟩, hrequests⟩, ⟨r, hhead'⟩, hresponses⟩ := h
  have hone {t : ServiceTask} {k : ServiceChannel} {q : Message} (hhead : (c.program t).head? = some (.send k q))
      (hk : k = .backendResponse ∨ ∃ ty, k = .backendDeployer ty) : q.weight = 1 := by
    refine weight_of_channel ?_
    rwa [(htyped.action t _ (List.mem_of_head? hhead)).1.channel]
  have hqueue {k : ServiceChannel} (hk : k = .backendResponse ∨ ∃ ty, k = .backendDeployer ty) :
      ∀ q ∈ c.shared.queue k, q.weight = 1 := by
    intro q hq
    refine weight_of_channel ?_
    rwa [(htyped.message k q hq).channel]
  have h₁ := one_le_sum_program rfl hhead (hone hhead (.inr ⟨ty, rfl⟩))
  have h₂ := one_le_sum_program rfl hhead' (hone hhead' (.inl rfl))
  have h₃ := le_sum_weight hrequests (hqueue (.inr ⟨ty, rfl⟩))
  have h₄ := le_sum_weight hresponses (hqueue (.inl rfl))
  rw [Network.Weights.total, Finset.sum_pair (by simp), Finset.sum_pair (by simp)] at hall
  omega

/-- A backend that is not configured does nothing. -/
theorem idle_of_not_configured (hty : configured ty = false)
    (hc : (services configured).tasks.system.Reachable System.Any c) : c.program (.backendDeployer ty) = [] := by
  refine hc.inv (fun c => c.program (.backendDeployer ty) = []) rfl fun c x c' hidle _ hstep => ?_
  have hmove := Network.moves_of_step hstep
  rcases hmove.program (.backendDeployer ty) with ⟨p, hp⟩ | ⟨k, e, q, hk, hserves, -, -⟩ | ⟨e, he⟩
  · rw [hidle] at hp
    exact (List.append_eq_nil_iff.1 hp.symm).2
  · cases k <;> simp_all [services, receiver, serves]
  · cases he

/-! ## How it comes about -/

theorem ReachedAt.send {rest : Program} (h : ReachedAt configured n c) (hprogram : c.program t = send q :: rest)
    (hcapacity : capacity q.channel = some 1024) (hroom : (c.shared.queue q.channel).length < 1024) :
    ReachedAt configured (n + q.demand) (c.move t (c.shared.push q.channel q q.asker, rest)) := by
  have hmove := h.moves trivial (.send t q.channel q rest hprogram fun hfull =>
    absurd ((full_iff hcapacity).1 hfull) (Nat.not_le.2 hroom))
  rw [demand, hprogram] at hmove
  exact hmove

theorem ReachedAt.receive (h : ReachedAt configured n c) (k : ServiceChannel) (rest : List Message) (e : Circumstances)
    (hidle : c.program (receiver k) = []) (hserves : serves configured k = true)
    (hqueue : c.shared.queue k = q :: rest) (hdemand : demand c (.start (receiver k) (.receive k e)) = 0) :
    ReachedAt configured n (c.move (receiver k) (c.shared.pop k rest, handle q e)) := by
  have hmove := h.moves trivial (.receive k e q rest hidle hserves hqueue)
  have hprice : demand c (.start ((services configured).receiver k) (.receive k e)) = 0 := hdemand
  rw [hprice] at hmove
  exact hmove

/-- What the deployer and the backend are about to do, and how much there is in the channels between them;
the controller and the validator are idle. -/
structure Stage (ty : GatewayImplementationType) (d b : Program) (responses requests : Nat)
    (c : (services configured).State) : Prop where
  controller : c.program (.controller .gateway {}) = []
  validator : c.program .referenceValidator = []
  deployer : c.program .gatewayDeployer = d
  backend : c.program (.backendDeployer ty) = b
  validates : c.shared.queue .referenceValidate = []
  deploys : c.shared.queue .gatewayDeployer = []
  requests : c.shared.queue (.backendDeployer ty) = List.replicate requests (.changed ty)
  responses : c.shared.queue .backendResponse = List.replicate responses .processed

/-- A stage that is reached with `n` demands. -/
def StageAt (configured : GatewayImplementationType → Bool) (n : Nat) (ty : GatewayImplementationType)
    (d b : Program) (responses requests : Nat) : Prop :=
  ∃ c : (services configured).State, ReachedAt configured n c ∧ Stage ty d b responses requests c

variable {d b : Program} {responses requests : Nat}

/-- A gateway reaches the deployer. -/
theorem StageAt.request (h : StageAt configured n ty [] b responses requests) :
    StageAt configured (n + 1) ty [send (.changed ty)] b responses requests := by
  obtain ⟨c, h, hc⟩ := h
  have h₁ := h.moves trivial
    (.produce (.controller .gateway {}) { occasion := .gatewayChanged ty } [send (.addGateway ty)] hc.controller rfl)
  have h₂ := ReachedAt.send (q := .addGateway ty) h₁ (Config.move_program_self ..) rfl
    (by simp [Message.channel, hc.validates])
  have h₃ := ReachedAt.receive (q := .addGateway ty) h₂ .referenceValidate [] {}
    (by simp [Config.move, receiver, hc.validator]) rfl (by simp [Message.channel, hc.validates]) rfl
  have h₄ := ReachedAt.send (q := .deploy ty) h₃ (Config.move_program_self ..) rfl
    (by simp [Message.channel, hc.deploys])
  have h₅ := ReachedAt.receive (q := .deploy ty) h₄ .gatewayDeployer [] {}
    (by simp [Config.move, receiver, hc.deployer]) rfl (by simp [Message.channel, hc.deploys]) rfl
  refine ⟨_, h₅, ?_⟩
  constructor <;> simp [Config.move, Message.channel, receiver, handle, hc.backend, hc.requests, hc.responses]

/-- The deployer hands it over. -/
theorem StageAt.handOver (h : StageAt configured n ty [send (.changed ty)] b responses requests)
    (hroom : requests < 1024) : StageAt configured n ty [] b responses (requests + 1) := by
  obtain ⟨c, h, hc⟩ := h
  have h₁ := ReachedAt.send (q := .changed ty) h hc.deployer rfl (by simpa [Message.channel, hc.requests])
  refine ⟨_, h₁, ?_⟩
  constructor <;> simp [Config.move, Message.channel, hc.controller, hc.validator, hc.backend, hc.validates,
    hc.deploys, hc.requests, hc.responses, List.replicate_succ']

/-- The backend takes it, and cannot deploy it. -/
theorem StageAt.take (hty : configured ty = true) (h : StageAt configured n ty d [] responses (requests + 1)) :
    StageAt configured n ty d [send .processed] responses requests := by
  obtain ⟨c, h, hc⟩ := h
  have h₁ := ReachedAt.receive (q := .changed ty) h (.backendDeployer ty)
    (List.replicate requests (.changed ty)) { deployed := false } hc.backend hty hc.requests rfl
  refine ⟨_, h₁, ?_⟩
  constructor <;> simp [Config.move, receiver, handle, deployGateway, hc.controller, hc.validator, hc.deployer,
    hc.validates, hc.deploys, hc.responses]

/-- The backend responds. -/
theorem StageAt.respond (h : StageAt configured n ty d [send .processed] responses requests)
    (hroom : responses < 1024) : StageAt configured n ty d [] (responses + 1) requests := by
  obtain ⟨c, h, hc⟩ := h
  have h₁ := ReachedAt.send (q := .processed) h hc.backend rfl (by simpa [Message.channel, hc.responses])
  refine ⟨_, h₁, ?_⟩
  constructor <;> simp [Config.move, Message.channel, hc.controller, hc.validator, hc.deployer, hc.validates,
    hc.deploys, hc.requests, hc.responses, List.replicate_succ']

theorem stageAt_init : StageAt configured 0 ty [] [] 0 0 :=
  ⟨_, .refl, rfl, rfl, rfl, rfl, rfl, rfl, rfl, rfl⟩

/-- The deployer prefers requests, and the responses pile up. -/
theorem stageAt_responses (hty : configured ty = true) (hr : responses ≤ 1024) :
    StageAt configured responses ty [] [] responses 0 := by
  induction responses with
  | zero => exact stageAt_init
  | succ r ih =>
    have hlt : r < 1024 := hr
    exact (((ih hlt.le).request.handOver (by omega)).take hty).respond hlt

/-- The backend waits for the deployer, and the requests pile up. -/
theorem stageAt_requests (hty : configured ty = true) (hr : requests ≤ 1024) :
    StageAt configured (1025 + requests) ty [] [send .processed] 1024 requests := by
  induction requests with
  | zero => exact (((stageAt_responses hty (Nat.le_refl 1024)).request).handOver (by omega)).take hty
  | succ r ih =>
    have hlt : r < 1024 := hr
    exact (ih hlt.le).request.handOver hlt

theorem Stage.deadlocked (hc : Stage ty [send (.changed ty)] [send .processed] 1024 1024 c) : Deadlocked ty c := by
  refine ⟨⟨⟨.changed ty, by rw [hc.deployer]; rfl⟩, ?_⟩, ⟨.processed, by rw [hc.backend]; rfl⟩, ?_⟩
  · rw [hc.requests, List.length_replicate]
  · rw [hc.responses, List.length_replicate]

/-- The deployer waits for the backend too. -/
theorem stageAt_deadlocked (configured : GatewayImplementationType → Bool) (ty : GatewayImplementationType)
    (hty : configured ty = true) :
    StageAt configured 2050 ty [send (.changed ty)] [send .processed] 1024 1024 :=
  (stageAt_requests hty (Nat.le_refl 1024)).request

/-- **The deadlock takes 2050 demands.** The gateway deployer and a backend that is configured can deadlock
in a run with no more than `n` demands exactly if `n` is at least two full channels, the gateway that is
handed over and the response that is sent. -/
theorem deadlock_iff (ty : GatewayImplementationType) (n : Nat) :
    (∃ (m : Nat) (c : (services configured).State), m ≤ n ∧ ReachedAt configured m c ∧ Deadlocked ty c) ↔
      configured ty = true ∧ 2050 ≤ n := by
  constructor
  · rintro ⟨m, c, hm, hreached, hdead⟩
    refine ⟨?_, (hdead.le_cost hreached).trans hm⟩
    by_contra hty
    obtain ⟨-, ⟨q, hhead⟩, -⟩ := hdead
    rw [idle_of_not_configured (Bool.eq_false_iff.2 hty) (hreached.reachable System.Reachable.init)] at hhead
    cases hhead
  · rintro ⟨hty, hn⟩
    obtain ⟨c, h, hc⟩ := stageAt_deadlocked configured ty hty
    exact ⟨2050, c, hn, h, hc.deadlocked⟩

/-! ## What it leads to -/

def Message.isChanged : Message → Bool
  | .changed _ => true
  | _ => false

/-- The gateways that wait in a backend's channel. -/
def changes (ty : GatewayImplementationType) (c : (services configured).State) : List Message :=
  (c.shared.queue (.backendDeployer ty)).filter Message.isChanged

/-- Between the two states the deployer and the backend have not moved: they have taken nothing, deploy
requests have at best been added, and no backend has got a gateway from the deployer. -/
structure Frozen (ty : GatewayImplementationType) (c c' : (services configured).State) : Prop where
  deployer : c'.program .gatewayDeployer = c.program .gatewayDeployer
  backend : c'.program (.backendDeployer ty) = c.program (.backendDeployer ty)
  responses : c'.shared.queue .backendResponse = c.shared.queue .backendResponse
  requests : c'.shared.queue (.backendDeployer ty) = c.shared.queue (.backendDeployer ty)
  deploys : c.shared.queue .gatewayDeployer <+: c'.shared.queue .gatewayDeployer
  changed : ∀ ty', changes ty' c' <:+ changes ty' c

theorem Frozen.refl (ty : GatewayImplementationType) (c : (services configured).State) : Frozen ty c c :=
  ⟨rfl, rfl, rfl, rfl, List.prefix_refl _, fun _ => List.suffix_refl _⟩

theorem Frozen.trans {c₁ c₂ c₃ : (services configured).State} (h : Frozen ty c₁ c₂) (h' : Frozen ty c₂ c₃) :
    Frozen ty c₁ c₃ where
  deployer := h'.deployer.trans h.deployer
  backend := h'.backend.trans h.backend
  responses := h'.responses.trans h.responses
  requests := h'.requests.trans h.requests
  deploys := h.deploys.trans h'.deploys
  changed ty' := (h'.changed ty').trans (h.changed ty')

theorem Frozen.deadlocked (h : Frozen ty c c') (hc : Deadlocked ty c) : Deadlocked ty c' := by
  unfold Deadlocked SendsIntoFull at hc ⊢
  rwa [h.deployer, h.backend, h.requests, h.responses]

theorem SendsIntoFull.task_ne (h : SendsIntoFull c t k) (hk : capacity k = some 1024)
    (hmove : Network.Moves c x c') : x.task ≠ t := by
  obtain ⟨⟨q, hhead⟩, hfull⟩ := h
  exact hmove.task_ne hhead ((full_iff hk).2 hfull)

theorem Frozen.step (hc : Deadlocked ty c) (htyped : Network.Typed Sound Does c) (hmove : Network.Moves c x c') :
    Frozen ty c c' := by
  have hdeployer := hc.1.task_ne rfl hmove
  have hbackend := hc.2.task_ne rfl hmove
  have hkept (r : Channels ServiceChannel ServiceTask Message × Program) (u : ServiceTask) (hu : x.task ≠ u) :
      (c.move x.task r).program u = c.program u :=
    Config.move_program_ne c r hu.symm
  cases hmove with
  | receive k e q rest hidle hserves hqueue =>
    simp only [TaskStep.task] at hdeployer hbackend hkept
    have hk (k' : ServiceChannel) (hk' : receiver k ≠ receiver k') : (c.shared.pop k rest).queue k' =
        c.shared.queue k' := by
      rw [Channels.queue_pop, if_neg]
      rintro rfl
      exact hk' rfl
    refine ⟨hkept _ _ hdeployer, hkept _ _ hbackend, hk .backendResponse hdeployer,
      hk (.backendDeployer ty) hbackend, ?_, ?_⟩
    · rw [Config.move_shared, hk .gatewayDeployer hdeployer]
    · intro ty'
      rw [changes, Config.move_shared, Channels.queue_pop]
      split
      · rename_i heq
        rw [changes, heq, hqueue]
        exact (List.suffix_cons q rest).filter _
      · exact List.suffix_refl _
  | produce t e p hidle hproduce =>
    exact ⟨hkept _ _ hdeployer, hkept _ _ hbackend, rfl, rfl, List.prefix_refl _, fun _ => List.suffix_refl _⟩
  | send t k q rest hprogram hroom =>
    have hk (k' : ServiceChannel) (hk' : capacity k' = some 1024) (hfull : 1024 ≤ (c.shared.queue k').length) :
        (c.shared.push k q ((services configured).asker q)).queue k' = c.shared.queue k' := by
      rw [Channels.queue_push, if_neg]
      rintro rfl
      exact hroom ((full_iff hk').2 hfull)
    refine ⟨hkept _ _ hdeployer, hkept _ _ hbackend, hk _ rfl hc.2.2, hk _ rfl hc.1.2, ?_, ?_⟩
    · rw [Config.move_shared, Channels.queue_push]
      split
      · rename_i heq
        exact heq ▸ List.prefix_append _ _
      · exact List.prefix_refl _
    · intro ty'
      -- the deployer is the only one that sends gateways to the backends
      have hchanged : q.isChanged = false := by
        have hsent := (htyped.action t (.send k q) (hprogram ▸ List.mem_cons_self)).2
        cases q with
        | changed ty'' =>
          cases t with
          | gatewayDeployer => exact absurd rfl hdeployer
          | _ => cases hsent
        | _ => rfl
      rw [changes, Config.move_shared, Channels.queue_push]
      split
      · rename_i heq
        rw [List.filter_append, List.filter_singleton, hchanged, changes, heq]
        simp
      · exact List.suffix_refl _
  | answer t t' rest hprogram =>
    exact ⟨hkept _ _ hdeployer, hkept _ _ hbackend, rfl, rfl, List.prefix_refl _, fun _ => List.suffix_refl _⟩
  | await t rest hprogram hanswered =>
    exact ⟨hkept _ _ hdeployer, hkept _ _ hbackend, rfl, rfl, List.prefix_refl _, fun _ => List.suffix_refl _⟩

/-- The invariant of the runs from a deadlock. -/
def StaysFrozen (ty : GatewayImplementationType) (c c' : (services configured).State) : Prop :=
  Network.Typed Sound Does c' ∧ Deadlocked ty c' ∧ Frozen ty c c'

theorem StaysFrozen.step {c'' : (services configured).State} (h : StaysFrozen ty c c')
    (hstep : (services configured).tasks.system.step c' x = some c'') : StaysFrozen ty c c'' := by
  obtain ⟨htyped, hdead, hfrozen⟩ := h
  have hmove := Network.moves_of_step hstep
  have hfreeze := Frozen.step hdead htyped hmove
  exact ⟨typed_step htyped hmove, hfreeze.deadlocked hdead, hfrozen.trans hfreeze⟩

/-- **A deadlock is for good**: whatever happens after it, the deployer and the backend do not move, deploy
requests and responses stay where they are, and no gateway is handed over to any backend. -/
theorem deadlocked_run {as : List (services configured).Step}
    (hc : (services configured).tasks.system.Reachable System.Any c) (hdead : Deadlocked ty c)
    (hrun : (services configured).tasks.system.run c as = some c') : Deadlocked ty c' ∧ Frozen ty c c' := by
  have hstep : ∀ d x d', StaysFrozen ty c d → System.Any d x → (services configured).tasks.system.step d x = some d' →
      StaysFrozen ty c d' := fun d x d' hd _ => hd.step
  have hinv := System.inv_run hstep ⟨typed_of_reachable hc, hdead, Frozen.refl ty c⟩ System.along_any hrun
  exact hinv.2

/-- In the deadlock of the Envoy backend another gateway is reconciled. -/
theorem deadlocked_run_gatewayChanged : ∃ c c' : (services onlyEnvoy).State, Deadlocked .envoy c ∧
    (services onlyEnvoy).tasks.system.run c
      [.start (.controller .gateway {}) (.produce { occasion := .gatewayChanged .envoy })] = some c' ∧
    Deadlocked .envoy c' ∧ Frozen .envoy c c' := by
  obtain ⟨c, h, hc⟩ := stageAt_deadlocked onlyEnvoy .envoy rfl
  have hmove := Network.step_of_moves (N := services onlyEnvoy) (.produce (.controller .gateway {})
    { occasion := .gatewayChanged .envoy } [send (.addGateway .envoy)] hc.controller rfl)
  have hrun := System.run_cons.2 ⟨_, hmove, System.run_nil⟩
  exact ⟨c, _, hc.deadlocked, hrun, deadlocked_run (h.reachable System.Reachable.init) hc.deadlocked hrun⟩

end Kubvernor.ServiceChannels
