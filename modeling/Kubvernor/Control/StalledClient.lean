import Kubvernor.Control.ServiceChannels

/-!
# A client that does not read

The aggregate server of a backend sends to its clients one after the other, and it waits where a client's
channel is full. If that client does not read, the server takes no update any more, then its channel fills
up, and the backend waits for the server. So one client stops the publication of all gateways of its kind:
`stalled_client` bounds how many more the backend publishes, whatever else happens.
-/

namespace Kubvernor.ServiceChannels

open Lib

variable {configured : GatewayImplementationType → Bool} {c c' c'' : (services configured).State}
  {x : (services configured).Step} {t : ServiceTask} {k : ServiceChannel} {q : Message}
  {ty : GatewayImplementationType} {i n : Nat}

/-- The aggregate server waits for a client. -/
structure Stalled (ty : GatewayImplementationType) (i : Nat) (c : (services configured).State) : Prop where
  server : ∃ q, (c.program (.aggregateServer ty)).head? = some (.send (.discovery i) q)
  client : 128 ≤ (c.shared.queue (.discovery i)).length

/-- The client does not read. -/
def ClientIdle (i : Nat) (_ : (services configured).State) (x : (services configured).Step) : Prop :=
  x.task ≠ .client i

/-- The backend takes a changed gateway, and Kubernetes what is deployed for it: the gateway's resources will
be published. -/
def publishes (ty : GatewayImplementationType) (c : (services configured).State) :
    (services configured).Step → Nat
  | .start t (.receive k e) =>
    if t = .backendDeployer ty ∧ e.deployed = true ∧ (c.shared.queue k).head? = some (.changed ty) then 1 else 0
  | _ => 0

/-- The updates the backend has still to send. -/
def pendingUpdates (ty : GatewayImplementationType) (p : Program) : Nat := p.count (send (.update ty))

/-- The updates for the server, sent or not. -/
def updates (ty : GatewayImplementationType) (c : (services configured).State) : Nat :=
  (c.shared.queue (.streamResource ty)).length + pendingUpdates ty (c.program (.backendDeployer ty))

theorem pendingUpdates_changed {e : Circumstances} (h : e.deployed = true) :
    pendingUpdates ty (handle (.changed ty) e) = 2 := by
  simp only [handle, deployGateway, updateAddressWithPolling, if_pos h, pendingUpdates]
  split <;> simp [send, Message.channel]

/-- A backend never has more than two updates to send. -/
theorem pendingUpdates_handle_le (hq : q.channel = .backendDeployer ty) (e : Circumstances) :
    pendingUpdates ty (handle q e) ≤ 2 := by
  cases q with
  | changed t =>
    cases hdeployed : e.deployed
    · simp [handle, deployGateway, hdeployed, pendingUpdates, send, Message.channel]
    · obtain rfl : t = ty := ServiceChannel.backendDeployer.inj hq
      exact (pendingUpdates_changed hdeployed).le
  | deleted t sender => cases t <;> simp [handle, undeployGateway, pendingUpdates, send, Message.channel]
  | _ => cases hq

theorem pendingUpdates_le (ty : GatewayImplementationType)
    (hc : (services configured).tasks.system.Reachable System.Any c) :
    pendingUpdates ty (c.program (.backendDeployer ty)) ≤ 2 := by
  refine (hc.inv (fun c => Network.Typed Sound Does c ∧ pendingUpdates ty (c.program (.backendDeployer ty)) ≤ 2)
    ⟨typed_of_reachable System.Reachable.init, Nat.zero_le 2⟩ fun c x c' h _ hstep => ?_).2
  have hmove := Network.moves_of_step hstep
  refine ⟨typed_step h.1 hmove, ?_⟩
  rcases hmove.program (.backendDeployer ty) with ⟨p, hp⟩ | ⟨k, e, q, hk, -, hq, hp⟩ | ⟨e, he⟩
  · have hle := h.2
    rw [pendingUpdates, hp, List.count_append] at hle
    exact (Nat.le_add_left _ _).trans hle
  · have hsound := h.1.message k q hq
    have hchannel : k = .backendDeployer ty := by
      cases k <;> simp_all [services, receiver]
    rw [hp]
    exact pendingUpdates_handle_le (hsound.channel.trans hchannel) e
  · cases he

/-! ## The server does not move -/

theorem Stalled.task_ne (h : Stalled ty i c) (hmove : Network.Moves c x c') : x.task ≠ .aggregateServer ty := by
  obtain ⟨⟨q, hhead⟩, hfull⟩ := h
  exact hmove.task_ne hhead ⟨128, rfl, hfull⟩

/-- Only the receiver of a channel takes from it. -/
theorem length_queue_le (hmove : Network.Moves c x c') (hx : x.task ≠ receiver k) :
    (c.shared.queue k).length ≤ (c'.shared.queue k).length := by
  cases hmove with
  | receive k' e q rest hidle hserves hqueue =>
    rw [Config.move_shared, Channels.queue_pop, if_neg]
    rintro rfl
    exact hx rfl
  | produce t e p hidle hproduce => exact Nat.le_refl _
  | send t k' q rest hprogram hroom =>
    rw [Config.move_shared, Channels.queue_push]
    split
    · rename_i heq
      rw [heq, List.length_append]
      exact Nat.le_add_right _ _
    · exact Nat.le_refl _
  | answer t t' rest hprogram => exact Nat.le_refl _
  | await t rest hprogram hanswered => exact Nat.le_refl _

theorem Stalled.step (h : Stalled ty i c) (hidle : ClientIdle i c x) (hmove : Network.Moves c x c') :
    Stalled ty i c' where
  server := by
    obtain ⟨q, hq⟩ := h.server
    refine ⟨q, ?_⟩
    rwa [hmove.program_eq (h.task_ne hmove)]
  client := h.client.trans (length_queue_le hmove hidle)

theorem publishes_of_task_ne (hx : x.task ≠ .backendDeployer ty) : publishes ty c x = 0 := by
  cases x with
  | start t e =>
    cases e with
    | receive k e => exact if_neg fun h => hx h.1
    | produce e => rfl
  | next t w => rfl

/-- Sending, the backend turns a pending update into one that is sent. -/
theorem updates_send {rest : Program} (hprogram : c.program (.backendDeployer ty) = .send k q :: rest)
    (hprogram' : c'.program (.backendDeployer ty) = rest)
    (hqueue : c'.shared.queue (.streamResource ty) =
      if .streamResource ty = k then c.shared.queue k ++ [q] else c.shared.queue (.streamResource ty)) :
    updates ty c ≤ updates ty c' := by
  rw [updates, updates, hprogram', hqueue, pendingUpdates, pendingUpdates, hprogram]
  by_cases hk : .streamResource ty = k
  · have hcount := List.count_le_length (a := send (.update ty)) (l := [ChannelAction.send k q])
    rw [if_pos hk, ← List.singleton_append, List.count_append, List.length_append, List.length_singleton, hk]
    rw [List.length_singleton] at hcount
    omega
  · have hne : ChannelAction.send k q ≠ send (.update ty) := by
      intro h
      exact hk (ChannelAction.send.inj h).1.symm
    rw [if_neg hk, List.count_cons_of_ne hne]

/-- While the server waits, every gateway that is published adds two updates. -/
theorem updates_step (h : Stalled ty i c) (hmove : Network.Moves c x c') :
    updates ty c + 2 * publishes ty c x ≤ updates ty c' := by
  have hstream := length_queue_le (k := .streamResource ty) hmove (h.task_ne hmove)
  by_cases hx : x.task = .backendDeployer ty
  · cases hmove with
    | receive k e q rest hidle hserves hqueue =>
      obtain rfl : k = .backendDeployer ty := by
        cases k <;> simp_all [services, receiver, TaskStep.task]
      have hidle' : c.program (.backendDeployer ty) = [] := hidle
      have hpending : 2 * publishes ty c (.start (.backendDeployer ty) (.receive (.backendDeployer ty) e)) ≤
          pendingUpdates ty (handle q e) := by
        rw [publishes]
        split
        · rename_i hpublished
          rw [hqueue] at hpublished
          obtain ⟨-, hdeployed, hhead⟩ := hpublished
          obtain rfl := Option.some.inj hhead
          rw [pendingUpdates_changed hdeployed]
        · exact Nat.zero_le _
      have hprogram : (c.move ((services configured).receiver (.backendDeployer ty))
          (c.shared.pop (.backendDeployer ty) rest, (services configured).handle (.backendDeployer ty) q e)).program
          (.backendDeployer ty) = handle q e := Config.move_program_self ..
      simp only [updates, hprogram, hidle', pendingUpdates, List.count_nil] at hpending ⊢
      exact Nat.add_le_add hstream hpending
    | produce t e p hidle hproduce =>
      obtain rfl : t = .backendDeployer ty := hx
      cases hproduce
    | send t k q rest hprogram hroom =>
      obtain rfl : t = .backendDeployer ty := hx
      exact updates_send hprogram (Config.move_program_self ..) (Channels.queue_push ..)
    | answer t t' rest hprogram =>
      obtain rfl : t = .backendDeployer ty := hx
      simp only [updates, publishes, Config.move_program_self, Config.move_shared, Channels.queue_answer,
        pendingUpdates, hprogram]
      rw [List.count_cons_of_ne (by simp [send])]
      exact Nat.le_refl _
    | await t rest hprogram hanswered =>
      obtain rfl : t = .backendDeployer ty := hx
      simp only [updates, publishes, Config.move_program_self, Config.move_shared, pendingUpdates, hprogram]
      rw [List.count_cons_of_ne (by simp [send])]
      exact Nat.le_refl _
  · rw [publishes_of_task_ne hx, updates, updates, hmove.program_eq hx]
    omega

theorem Stalled.updates_le (h : Stalled ty i c)
    (hrun : Network.Costs (ClientIdle i) (publishes ty) c c' n) : Stalled ty i c' ∧ 2 * n ≤ updates ty c' := by
  induction hrun with
  | refl => exact ⟨h, Nat.zero_le _⟩
  | step hrun hok hstep ih =>
    obtain ⟨hstalled, hle⟩ := ih
    have hmove := Network.moves_of_step hstep
    have hstep := updates_step hstalled hmove
    exact ⟨hstalled.step hok hmove, by omega⟩

/-- **One client stops the publication of all gateways of its kind.** Where the aggregate server of a backend
waits for a client that does not read, it does not move again, and the backend publishes no more than 513
gateways: two updates for each have to fit into the server's channel and the two the backend holds. -/
theorem stalled_client (hc : (services configured).tasks.system.Reachable System.Any c) (h : Stalled ty i c)
    (hrun : Network.Costs (ClientIdle i) (publishes ty) c c' n) : Stalled ty i c' ∧ n ≤ 513 := by
  obtain ⟨hstalled, hle⟩ := h.updates_le hrun
  have hpending := pendingUpdates_le ty (hrun.reachable hc)
  have hlength : (c'.shared.queue (.streamResource ty)).length ≤ 1024 :=
    Network.length_le_of_reachable (hrun.reachable hc) rfl
  refine ⟨hstalled, ?_⟩
  rw [updates] at hle
  omega

/-- A client asks for more than it reads, and a gateway is published. -/
def overload : List (services onlyEnvoy).Step :=
  .start (.stream 0) (.produce { occasion := .discoveryRequest 128 }) ::
    List.replicate 128 (.next (.stream 0) ()) ++
  [.start (.controller .gateway {}) (.produce { occasion := .gatewayChanged .envoy }),
    .next (.controller .gateway {}) (),
    .start .referenceValidator (.receive .referenceValidate {}), .next .referenceValidator (),
    .start .gatewayDeployer (.receive .gatewayDeployer {}), .next .gatewayDeployer (),
    .start (.backendDeployer .envoy) (.receive (.backendDeployer .envoy) {}), .next (.backendDeployer .envoy) (),
    .start (.aggregateServer .envoy) (.receive (.streamResource .envoy) { streams := [0] })]

set_option maxRecDepth 20000 in
theorem stalled_client_overload : ∃ c c' : (services onlyEnvoy).State,
    (services onlyEnvoy).tasks.system.run (services onlyEnvoy).tasks.system.init overload = some c ∧
      (services onlyEnvoy).tasks.system.step c (.next (.backendDeployer .envoy) ()) = some c' ∧
      Stalled .envoy 0 c' := by
  have hoverload : ∃ c c' : (services onlyEnvoy).State,
      (services onlyEnvoy).tasks.system.run (services onlyEnvoy).tasks.system.init overload = some c ∧
        (services onlyEnvoy).tasks.system.step c (.next (.backendDeployer .envoy) ()) = some c' ∧
        Stalled .envoy 0 c := ⟨_, _, rfl, rfl, ⟨_, rfl⟩, by decide +kernel⟩
  obtain ⟨c, c', hrun, hstep, h⟩ := hoverload
  have hidle : ClientIdle 0 c (.next (.backendDeployer .envoy) ()) := fun h => by cases h
  exact ⟨c, c', hrun, hstep, (stalled_client ⟨overload, System.along_any, hrun⟩ h (.step .refl hidle hstep)).1⟩

end Kubvernor.ServiceChannels
