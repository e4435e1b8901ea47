import Kubvernor.Control.DeploymentMoves
import Mathlib.Algebra.Order.BigOperators.Group.Finset
import Mathlib.Data.Prod.Lex

/-!
# Deployments settle

What the handlers have still to go on with, to send and to look up, and what the validator has still to do, comes to an
end in whatever order it is done (`acc_goes`): a gateway whose configuration is there is one less, a message that is
sent is one less with its sender, a request that is taken is one less in the channel, and each thing the validator does
is one less or a shorter one. Where it has come to an end after an orderly run, every stored gateway was last deployed
with its linked routes (`deployments_settle`).

A handler that nothing else comes between does what its controller does in one go (`gateway_undisturbed`,
`httpRoute_undisturbed`).
-/

namespace Kubvernor

open Lib

section Own

variable {config : ControllerConfig} {σ σ' : RouteDeployments}

/-- The steps that need no event from outside. -/
def DeploymentsStep.Own : DeploymentsStep → Prop
  | .configured _ | .send _ | .announce _ | .receive | .track | .work => True
  | .reconcile _ | .configure _ _ | .patched _ | .save _ | .notify _ => False

/-- An own step leads from one state to the other. -/
def RouteDeployments.Goes (config : ControllerConfig) (σ σ' : RouteDeployments) : Prop :=
  ∃ a : DeploymentsStep, a.Own ∧ (routeDeployments config).step σ a = some σ'

/-- No own step can be taken. -/
def RouteDeployments.Settled (config : ControllerConfig) (σ : RouteDeployments) : Prop := ∀ σ', ¬ σ.Goes config σ'

/-! ## Where no own step can be taken -/

/-- The validator can always go on with a request that it has taken. -/
theorem tell_of_counts (isIpAddr : String → Bool) (hcounts : σ.resolver.Counts) (handling : Handling) :
    ∃ τ, σ.tell isIpAddr handling = some τ := by
  cases handling with
  | services q =>
    rcases addGateway_or_ne q with ⟨ctx, rfl⟩ | hadd
    · exact ⟨_, rfl⟩
    · obtain ⟨p, hp, -⟩ := MultiReferencesResolver.counts_track hcounts.1 q
      exact ⟨_, (tell_services hadd _).trans (Option.map_eq_some_iff.2 ⟨p, hp, rfl⟩)⟩
  | listServices ctx mapping =>
    obtain ⟨s, hs, -⟩ := MultiReferencesResolver.counts_add hcounts.1 ctx.gateway.resourceKey mapping
    exact ⟨_, Option.map_eq_some_iff.2 ⟨s, hs, rfl⟩⟩
  | pools q affected =>
    rcases addGateway_or_ne q with ⟨ctx, rfl⟩ | hadd
    · exact ⟨_, rfl⟩
    · obtain ⟨p, hp, -⟩ := MultiReferencesResolver.counts_track hcounts.2 q
      exact ⟨_, (tell_pools hadd _).trans (Option.map_eq_some_iff.2 ⟨p, hp, rfl⟩)⟩
  | listPools ctx mapping =>
    obtain ⟨s, hs, -⟩ := MultiReferencesResolver.counts_add hcounts.2 ctx.gateway.resourceKey mapping
    exact ⟨_, Option.map_eq_some_iff.2 ⟨s, hs, rfl⟩⟩

theorem handling_of_settled (hs : σ.Inv config) (h : σ.Settled config) : σ.handling = none := by
  cases hhandling : σ.handling with
  | none => rfl
  | some handling =>
    obtain ⟨τ, hτ⟩ := tell_of_counts config.isIpAddr hs.counts handling
    exact absurd ⟨.track, trivial, step_track.2 ⟨handling, hhandling, hτ⟩⟩ (h τ)

theorem todo_of_settled (hs : σ.Inv config) (h : σ.Settled config) : σ.todo = [] := by
  cases htodo : σ.todo with
  | nil => rfl
  | cons a rest =>
    obtain ⟨key, hkey⟩ := Option.isSome_iff_exists.1 (hs.todo a (by rw [htodo]; exact List.mem_cons_self))
    obtain ⟨τ, hτ, -⟩ := perform_of_target (σ := { σ with todo := rest }) hkey hs.sound
    exact absurd ⟨.work, trivial, step_work.2 ⟨a, rest, htodo, hτ⟩⟩ (h τ)

theorem unsent_of_settled (h : σ.Settled config) (k : ResourceKey) : σ.unsent k = [] := by
  cases hunsent : σ.unsent k with
  | nil => rfl
  | cons request rest => exact absurd ⟨.send k, trivial, step_send.2 ⟨request, rest, hunsent, rfl⟩⟩ (h _)

/-- The handler of a route can always look up its next gateway, for the gateways it has convert. -/
theorem unannounced_of_settled (hs : σ.Inv config) (h : σ.Settled config) (k : ResourceKey) :
    σ.unannounced k = [] := by
  cases hunannounced : σ.unannounced k with
  | nil => rfl
  | cons g rest =>
    have hunsent := unsent_of_settled h k
    have hconv : Converts config.parseUuid g := hs.converts k g (by rw [hunannounced]; exact List.mem_cons_self)
    rcases σ.stores.addGateways_round config.parseUuid g with ⟨ctx, hround, hkey⟩ | ⟨e, hround⟩ | ⟨-, hnot⟩
    · exact absurd ⟨.announce k, trivial,
        step_announce.2 ⟨g, rest, hunsent, hunannounced, .inl ⟨ctx, hkey, hround, rfl⟩⟩⟩ (h _)
    · exact absurd ⟨.announce k, trivial,
        step_announce.2 ⟨g, rest, hunsent, hunannounced, .inr ⟨e, hround, rfl⟩⟩⟩ (h _)
    · exact absurd hconv hnot

/-- **Where no own step can be taken, nothing is left to do.** -/
theorem quiet_of_settled (hs : σ.Inv config) (h : σ.Settled config) : (σ.board config.isIpAddr).Quiet := by
  have hhandling := handling_of_settled hs h
  have htodo := todo_of_settled hs h
  refine ⟨fun k => ?_, ?_, ?_⟩
  · show notices (σ.unsent k) (σ.unannounced k) = []
    rw [unsent_of_settled h k, unannounced_of_settled hs h k]
    rfl
  · show (σ.handling.bind Handling.notice?).toList ++ σ.validateChannel.map _ = []
    cases hch : σ.validateChannel with
    | nil =>
      rw [hhandling]
      rfl
    | cons request rest =>
      exact absurd ⟨.receive, trivial, step_receive.2 ⟨hhandling, htodo, request, rest, hch, rfl⟩⟩ (h _)
  · show (σ.handling.map _).getD [] ++ σ.todo.filterMap _ = []
    rw [hhandling, htodo]
    rfl

/-! ## Own steps come to an end -/

/-- What the validator does for a gateway leaves everything but the deployments, or puts a shorter thing to do in its
place. -/
theorem perform_frame {a : Action} (h : σ.perform config a = some σ') :
    (∃ deployed, σ' = { σ with deployed := deployed }) ∨
      ∃ a', a'.steps < a.steps ∧ σ' = { σ with todo := a' :: σ.todo } := by
  unfold RouteDeployments.perform at h
  split at h
  · exact .inl ⟨_, (Option.some.inj h).symm⟩
  · split at h
    · exact .inl ⟨_, (Option.some.inj h).symm⟩
    · split at h
      · cases h
      · exact .inr ⟨.redeployAs _ _, Nat.lt_succ_self 2, (Option.some.inj h).symm⟩
  · split at h
    · exact .inl ⟨_, (Option.some.inj h).symm⟩
    · exact .inr ⟨.process _, Nat.lt_succ_self 1, (Option.some.inj h).symm⟩
  · cases h

/-- What is left to do for a request that the validator has taken. -/
def Handling.steps : Handling → ℕ
  | .services _ => 4
  | .listServices _ _ => 3
  | .pools _ _ => 2
  | .listPools _ _ => 1

/-- What the validator does to tell the resolvers leaves less to do for the request. -/
theorem tell_frame {handling : Handling} (h : σ.tell config.isIpAddr handling = some σ') :
    ∃ resolver handling' todo, σ' = { σ with resolver := resolver, handling := handling', todo := todo } ∧
      (handling'.map Handling.steps).getD 0 < handling.steps := by
  cases handling with
  | services q =>
    rcases addGateway_or_ne q with ⟨ctx, rfl⟩ | hadd
    · obtain rfl := Option.some.inj h
      exact ⟨_, _, _, rfl, Nat.lt_succ_self 3⟩
    · rw [tell_services hadd] at h
      obtain ⟨_, -, rfl⟩ := Option.map_eq_some_iff.1 h
      exact ⟨_, _, _, rfl, (by decide : 2 < 4)⟩
  | listServices ctx mapping =>
    obtain ⟨_, -, rfl⟩ := Option.map_eq_some_iff.1 h
    exact ⟨_, _, _, rfl, Nat.lt_succ_self 2⟩
  | pools q affected =>
    rcases addGateway_or_ne q with ⟨ctx, rfl⟩ | hadd
    · obtain rfl := Option.some.inj h
      exact ⟨_, _, _, rfl, Nat.lt_succ_self 1⟩
    · rw [tell_pools hadd] at h
      obtain ⟨_, -, rfl⟩ := Option.map_eq_some_iff.1 h
      exact ⟨_, _, _, rfl, (by decide : 0 < 2)⟩
  | listPools ctx mapping =>
    obtain ⟨_, -, rfl⟩ := Option.map_eq_some_iff.1 h
    exact ⟨_, _, _, rfl, Nat.lt_succ_self 0⟩

/-- The objects whose events a run takes. -/
def DeploymentsStep.object? : DeploymentsStep → Option ResourceKey
  | .reconcile e => some e.resourceKey
  | .configure g _ => some g.resourceKey
  | _ => none

/-- A step of another object leaves an idle one idle. -/
theorem idle_step {a : DeploymentsStep} (hstep : (routeDeployments config).step σ a = some σ') {k : ResourceKey}
    (hk : a.object? ≠ some k) (hσ : σ.Idle k) : σ'.Idle k := by
  obtain ⟨hconfiguring, hunsent, hunannounced⟩ := hσ
  cases a with
  | reconcile e =>
    obtain ⟨-, rfl⟩ := step_reconcile.1 hstep
    have hne : k ≠ e.resourceKey := fun heq => hk (congrArg some heq.symm)
    exact ⟨hconfiguring, (Function.update_of_ne hne ..).trans hunsent,
      (Function.update_of_ne hne ..).trans hunannounced⟩
  | configure g configurations =>
    obtain ⟨-, ⟨_, -, rfl⟩ | ⟨t, -, rfl⟩⟩ := step_configure.1 hstep
    · exact ⟨hconfiguring, hunsent, hunannounced⟩
    · have hne : k ≠ g.resourceKey := fun heq => hk (congrArg some heq.symm)
      exact ⟨(Function.update_of_ne hne ..).trans hconfiguring, hunsent, hunannounced⟩
  | configured key =>
    obtain ⟨g, t, hkey, -, -, rfl⟩ := step_configured.1 hstep
    have hne : k ≠ key := by
      rintro rfl
      rw [hconfiguring] at hkey
      cases hkey
    exact ⟨(Function.update_of_ne hne ..).trans hconfiguring, (Function.update_of_ne hne ..).trans hunsent,
      hunannounced⟩
  | patched c =>
    obtain ⟨-, rfl⟩ := step_patched.1 hstep
    exact ⟨hconfiguring, hunsent, hunannounced⟩
  | save g =>
    obtain rfl := Option.some.inj hstep
    exact ⟨hconfiguring, hunsent, hunannounced⟩
  | notify q =>
    cases q with
    | addRoute _ | updatedGateways _ | updatedRoutes _ =>
      obtain rfl := Option.some.inj hstep
      exact ⟨hconfiguring, hunsent, hunannounced⟩
    | addGateway _ | deleteGateway _ | deleteRoute _ => cases hstep
  | send key =>
    obtain ⟨request, rest, hkey, rfl⟩ := step_send.1 hstep
    have hne : k ≠ key := by
      rintro rfl
      rw [hunsent] at hkey
      cases hkey
    exact ⟨hconfiguring, (Function.update_of_ne hne ..).trans hunsent, hunannounced⟩
  | announce key =>
    obtain ⟨g, rest, -, hkey, hround⟩ := step_announce.1 hstep
    have hne : k ≠ key := by
      rintro rfl
      rw [hunannounced] at hkey
      cases hkey
    rcases hround with ⟨ctx, -, -, rfl⟩ | ⟨e, -, rfl⟩
    · exact ⟨hconfiguring, (Function.update_of_ne hne ..).trans hunsent,
        (Function.update_of_ne hne ..).trans hunannounced⟩
    · exact ⟨hconfiguring, hunsent, (Function.update_of_ne hne ..).trans hunannounced⟩
  | receive =>
    obtain ⟨-, -, _, _, -, rfl⟩ := step_receive.1 hstep
    exact ⟨hconfiguring, hunsent, hunannounced⟩
  | track =>
    obtain ⟨handling, -, htell⟩ := step_track.1 hstep
    obtain ⟨_, _, _, rfl, -⟩ := tell_frame htell
    exact ⟨hconfiguring, hunsent, hunannounced⟩
  | work =>
    obtain ⟨_, _, -, hperform⟩ := step_work.1 hstep
    rcases perform_frame hperform with ⟨_, rfl⟩ | ⟨_, -, rfl⟩
    · exact ⟨hconfiguring, hunsent, hunannounced⟩
    · exact ⟨hconfiguring, hunsent, hunannounced⟩

/-- Own steps leave idle objects idle. -/
theorem RouteDeployments.Goes.idle {k : ResourceKey} (h : σ.Goes config σ') (hσ : σ.Idle k) : σ'.Idle k := by
  obtain ⟨a, ha, hstep⟩ := h
  have hnone : a.object? = none := by
    cases a with
    | reconcile _ | configure _ _ => cases ha
    | _ => rfl
  exact idle_step hstep (by simp [hnone]) hσ

/-- What is left to go on with, to send and to look up, to receive, to tell and to do, where these objects have
something left. -/
def RouteDeployments.left (S : Finset ResourceKey) (σ : RouteDeployments) : ℕ ×ₗ ℕ ×ₗ ℕ ×ₗ ℕ ×ₗ ℕ :=
  toLex (∑ k ∈ S, (σ.configuring k).toList.length,
    toLex (∑ k ∈ S, ((σ.unsent k).length + 2 * (σ.unannounced k).length),
      toLex (σ.validateChannel.length, toLex ((σ.handling.map Handling.steps).getD 0, (σ.todo.map Action.steps).sum))))

/-- Less is left of a sum if one object has less left and the others have what they had. -/
theorem sum_lt_of_update {S : Finset ResourceKey} {key : ResourceKey} (hkey : key ∈ S) {f f' : ResourceKey → ℕ}
    (hlt : f' key < f key) (hsame : ∀ k, k ≠ key → f' k = f k) : ∑ k ∈ S, f' k < ∑ k ∈ S, f k := by
  refine Finset.sum_lt_sum (fun k _ => ?_) ⟨key, hkey, hlt⟩
  by_cases hk : k = key
  · rw [hk]
    exact hlt.le
  · rw [hsame k hk]

/-- **Every own step leaves less.** -/
theorem RouteDeployments.Goes.left_lt {S : Finset ResourceKey} (hS : ∀ k, k ∉ S → σ.Idle k) (h : σ.Goes config σ') :
    σ'.left S < σ.left S := by
  obtain ⟨a, ha, hstep⟩ := h
  unfold left
  cases a with
  | configured key =>
    obtain ⟨g, t, hkey, -, -, rfl⟩ := step_configured.1 hstep
    have hmem : key ∈ S := by
      by_contra hnot
      rw [(hS key hnot).1] at hkey
      cases hkey
    refine Prod.Lex.left _ _ (sum_lt_of_update hmem ?_ fun k hk => ?_)
    · simp only [Function.update_self, hkey]
      exact Nat.lt_succ_self 0
    · simp only [Function.update_of_ne hk]
  | send key =>
    obtain ⟨request, rest, hkey, rfl⟩ := step_send.1 hstep
    have hmem : key ∈ S := by
      by_contra hnot
      rw [(hS key hnot).2.1] at hkey
      cases hkey
    refine Prod.Lex.right _ (Prod.Lex.left _ _ (sum_lt_of_update hmem ?_ fun k hk => ?_))
    · simp only [Function.update_self, hkey, List.length_cons]
      omega
    · simp only [Function.update_of_ne hk]
  | announce key =>
    obtain ⟨g, rest, hunsent, hunannounced, hround⟩ := step_announce.1 hstep
    have hmem : key ∈ S := by
      by_contra hnot
      rw [(hS key hnot).2.2] at hunannounced
      cases hunannounced
    rcases hround with ⟨ctx, -, -, rfl⟩ | ⟨e, -, rfl⟩
    · refine Prod.Lex.right _ (Prod.Lex.left _ _ (sum_lt_of_update hmem ?_ fun k hk => ?_))
      · simp only [Function.update_self, hunsent, hunannounced, List.length_cons, List.length_nil]
        omega
      · simp only [Function.update_of_ne hk]
    · refine Prod.Lex.right _ (Prod.Lex.left _ _ (sum_lt_of_update hmem ?_ fun k hk => ?_))
      · simp only [Function.update_self, hunannounced, List.length_cons, List.length_nil]
        omega
      · simp only [Function.update_of_ne hk]
  | receive =>
    obtain ⟨-, -, request, rest, hch, rfl⟩ := step_receive.1 hstep
    refine Prod.Lex.right _ (Prod.Lex.right _ (Prod.Lex.left _ _ ?_))
    rw [hch]
    exact Nat.lt_succ_self _
  | track =>
    obtain ⟨handling, hhandling, htell⟩ := step_track.1 hstep
    obtain ⟨_, _, _, rfl, hless⟩ := tell_frame htell
    refine Prod.Lex.right _ (Prod.Lex.right _ (Prod.Lex.right _ (Prod.Lex.left _ _ ?_)))
    rw [hhandling]
    exact hless
  | work =>
    obtain ⟨a, rest, htodo, hperform⟩ := step_work.1 hstep
    have hpos : 0 < a.steps := by cases a <;> exact Nat.succ_pos _
    rcases perform_frame hperform with ⟨_, rfl⟩ | ⟨a', hlater, rfl⟩
    · refine Prod.Lex.right _ (Prod.Lex.right _ (Prod.Lex.right _ (Prod.Lex.right _ ?_)))
      rw [htodo, List.map_cons, List.sum_cons]
      exact Nat.lt_add_of_pos_left hpos
    · refine Prod.Lex.right _ (Prod.Lex.right _ (Prod.Lex.right _ (Prod.Lex.right _ ?_)))
      rw [htodo, List.map_cons, List.map_cons, List.sum_cons, List.sum_cons]
      exact Nat.add_lt_add_right hlater _
  | reconcile _ | configure _ _ | patched _ | save _ | notify _ => cases ha

/-- **Own steps come to an end**, in whatever order they are taken. -/
theorem acc_goes {S : Finset ResourceKey} (hS : ∀ k, k ∉ S → σ.Idle k) :
    Acc (fun τ' τ => RouteDeployments.Goes config τ τ') σ := by
  generalize hleft : σ.left S = left
  induction left using WellFoundedLT.induction generalizing σ with
  | ind left ih =>
    refine ⟨σ, fun τ hτ => ?_⟩
    have hlt := hτ.left_lt hS
    rw [hleft] at hlt
    exact ih _ hlt (fun k hk => hτ.idle (hS k hk)) rfl

/-! ## A handler that nobody disturbs -/

/-- A gateway whose configuration comes with nothing between is reconciled at once. -/
theorem gateway_undisturbed {g : KubeGateway} {configurations : Configurations} {t : GatewayImplementationType}
    (hidle : σ.Idle g.resourceKey) (ht : configuredType config σ.stores g configurations = .ok t) :
    (routeDeployments config).run σ [.configure g configurations, .configured g.resourceKey] =
      (routeDeployments config).step σ (.reconcile (.gateway g configurations)) := by
  obtain ⟨hconfiguring, hunsent, hunannounced⟩ := hidle
  let τ : RouteDeployments := { σ with configuring := Function.update σ.configuring g.resourceKey (some (g, t)) }
  have hconfigure : (routeDeployments config).step σ (.configure g configurations) = some τ :=
    step_configure.2 ⟨⟨hconfiguring, hunsent, hunannounced⟩, .inr ⟨t, ht, rfl⟩⟩
  obtain ⟨hstores, hrequests⟩ := gatewayReconciled_of_configured ht
  have hconfigured : (routeDeployments config).step τ (.configured g.resourceKey) = some { σ with
      stores := σ.stores.reconcile config (.gateway g configurations)
      unsent := Function.update σ.unsent g.resourceKey
        ((ReconcileEvent.gateway g configurations).requests config σ.stores)
      unannounced := Function.update σ.unannounced g.resourceKey [] } := by
    refine step_configured.2 ⟨g, t, Function.update_self .., hunsent, hunannounced, ?_⟩
    have hempty : Function.update (Function.update σ.configuring g.resourceKey (some (g, t))) g.resourceKey none =
        σ.configuring := by
      rw [Function.update_idem, ← hconfiguring, Function.update_eq_self]
    have hsame : Function.update σ.unannounced g.resourceKey [] = σ.unannounced := by
      rw [← hunannounced, Function.update_eq_self]
    simp only [τ, hempty, hsame, Stores.reconcile, ReconcileEvent.requests, hstores, hrequests]
  rw [System.run_cons.2 ⟨τ, hconfigure, System.run_cons.2 ⟨_, hconfigured, System.run_nil⟩⟩]
  exact (step_reconcile.2 ⟨⟨hconfiguring, hunsent, hunannounced⟩, rfl⟩).symm

/-- The steps of the handler of an object after it has taken its event. -/
def DeploymentsStep.IsOf (key : ResourceKey) : DeploymentsStep → Prop
  | .send k | .announce k => k = key
  | _ => False

variable (config) in
theorem sends_all {key : ResourceKey} {requests : List ReferenceValidateRequest} (h : σ.unsent key = requests) :
    ∃ as, (∀ a ∈ as, a.IsOf key) ∧ (routeDeployments config).run σ as = some { σ with
      unsent := Function.update σ.unsent key []
      validateChannel := σ.validateChannel ++ requests } := by
  induction requests generalizing σ with
  | nil =>
    refine ⟨[], List.forall_mem_nil _, ?_⟩
    rw [List.append_nil, ← h, Function.update_eq_self]
    rfl
  | cons request rest ih =>
    let τ : RouteDeployments := { σ with
      unsent := Function.update σ.unsent key rest
      validateChannel := σ.validateChannel ++ [request] }
    have hsend : (routeDeployments config).step σ (.send key) = some τ := step_send.2 ⟨request, rest, h, rfl⟩
    obtain ⟨as, has, hrun⟩ := ih (σ := τ) (Function.update_self ..)
    refine ⟨.send key :: as, List.forall_mem_cons.2 ⟨rfl, has⟩, System.run_cons.2 ⟨τ, hsend, ?_⟩⟩
    rw [hrun]
    simp only [τ, Function.update_idem, List.append_assoc, List.singleton_append]

/-- The gateways are looked up and asked for one after the other, as the loop of the handler does. -/
theorem announces_all {key : ResourceKey} {gateways : List KubeGateway} (hunsent : σ.unsent key = [])
    (h : σ.unannounced key = gateways) (hconv : ∀ g ∈ gateways, Converts config.parseUuid g) :
    ∃ as, (∀ a ∈ as, a.IsOf key) ∧ (routeDeployments config).run σ as = some { σ with
      unannounced := Function.update σ.unannounced key []
      validateChannel := σ.validateChannel ++
        (σ.stores.addGateways config.parseUuid gateways).1.map ValidateRequest.request } := by
  induction gateways generalizing σ with
  | nil =>
    refine ⟨[], List.forall_mem_nil _, ?_⟩
    rw [← h, Function.update_eq_self, h]
    simp [Stores.addGateways]
  | cons g rest ih =>
    obtain ⟨hg, hrest⟩ := List.forall_mem_cons.1 hconv
    rcases σ.stores.addGateways_round config.parseUuid g with ⟨ctx, hround, hkey⟩ | ⟨e, hround⟩ | ⟨-, hnot⟩
    · let τ : RouteDeployments := { σ with
        unsent := Function.update σ.unsent key [.addGateway ctx]
        unannounced := Function.update σ.unannounced key rest }
      have hannounce : (routeDeployments config).step σ (.announce key) = some τ :=
        step_announce.2 ⟨g, rest, hunsent, h, .inl ⟨ctx, hkey, hround, rfl⟩⟩
      have hunsent₁ : τ.unsent key = [.addGateway ctx] := Function.update_self ..
      obtain ⟨as, has, hsent⟩ := sends_all config hunsent₁
      obtain ⟨bs, hbs, hrun⟩ := ih (σ := { τ with
        unsent := Function.update τ.unsent key []
        validateChannel := τ.validateChannel ++ [.addGateway ctx] })
        (Function.update_self ..) (Function.update_self ..) hrest
      refine ⟨.announce key :: (as ++ bs), List.forall_mem_cons.2 ⟨rfl, List.forall_mem_append.2 ⟨has, hbs⟩⟩,
        System.run_cons.2 ⟨τ, hannounce, System.run_append.2 ⟨_, hsent, hrun.trans ?_⟩⟩⟩
      have hempty : Function.update τ.unsent key [] = σ.unsent := by
        rw [← hunsent]
        simp only [τ, Function.update_idem, Function.update_eq_self]
      rw [Stores.addGateways_cons, hround, if_pos rfl]
      simp only [hempty]
      simp only [τ, Function.update_idem, List.map_append, List.append_assoc]
      rfl
    · have hannounce := step_announce.2 ⟨g, rest, hunsent, h, .inr ⟨e, hround, rfl⟩⟩
      refine ⟨[.announce key], List.forall_mem_singleton.2 rfl, System.run_cons.2 ⟨_, hannounce, ?_⟩⟩
      rw [Stores.addGateways_cons, hround, if_neg (by simp)]
      simp
    · exact absurd hg hnot

/-- The handler sends what it has left, and then asks for its gateways. -/
theorem handler_undisturbed {key : ResourceKey} (hconfiguring : σ.configuring key = none)
    (hconv : ∀ g ∈ σ.unannounced key, Converts config.parseUuid g) :
    ∃ as, (∀ a ∈ as, a.IsOf key) ∧ ∃ τ, (routeDeployments config).run σ as = some τ ∧ τ.Idle key ∧
      τ.validateChannel = σ.validateChannel ++ (σ.unsent key ++
        (σ.stores.addGateways config.parseUuid (σ.unannounced key)).1.map ValidateRequest.request) := by
  obtain ⟨as, has, hsent⟩ := sends_all config (rfl : σ.unsent key = _)
  let τ : RouteDeployments := { σ with
    unsent := Function.update σ.unsent key []
    validateChannel := σ.validateChannel ++ σ.unsent key }
  have hunsent : τ.unsent key = [] := Function.update_self ..
  obtain ⟨bs, hbs, hrun⟩ := announces_all hunsent rfl hconv
  refine ⟨as ++ bs, List.forall_mem_append.2 ⟨has, hbs⟩, _, System.run_append.2 ⟨_, hsent, hrun⟩,
    ⟨hconfiguring, Function.update_self .., Function.update_self ..⟩, List.append_assoc ..⟩

/-- What is left of an event when its handler has taken it is sent, if nobody disturbs it. -/
theorem reconcile_undisturbed {e : ReconcileEvent} (hs : σ.Inv config) (he : e.Orderly config σ.stores)
    (hstep : (routeDeployments config).step σ (.reconcile e) = some σ') :
    ∃ as, (∀ a ∈ as, a.IsOf e.resourceKey) ∧ ∃ τ, (routeDeployments config).run σ' as = some τ ∧
      τ.Idle e.resourceKey ∧
      τ.validateChannel = σ.validateChannel ++ (e.requests config σ.stores ++
        ((σ.stores.reconcile config e).addGateways config.parseUuid (e.announced config σ.stores)).1.map
          ValidateRequest.request) := by
  have hconv := (hs.reconcile he hstep).converts e.resourceKey
  obtain ⟨⟨hconfiguring, -⟩, hσ'⟩ := step_reconcile.1 hstep
  have hconfiguring' : σ'.configuring e.resourceKey = none := by
    rw [hσ']
    exact hconfiguring
  obtain ⟨as, has, τ, hrun, hidle, hch⟩ := handler_undisturbed hconfiguring' hconv
  refine ⟨as, has, τ, hrun, hidle, ?_⟩
  rw [hch, hσ']
  simp only [Function.update_self]

/-- **A handler of a route that nobody disturbs** sends the requests of its controller, in their order. -/
theorem httpRoute_undisturbed {r : HTTPRoute} (hs : σ.Inv config)
    (hr : (ReconcileEvent.httpRoute r).Orderly config σ.stores)
    (hstep : (routeDeployments config).step σ (.reconcile (.httpRoute r)) = some σ') :
    ∃ as, (∀ a ∈ as, a.IsOf r.resourceKey) ∧ ∃ τ, (routeDeployments config).run σ' as = some τ ∧
      τ.Idle r.resourceKey ∧
      τ.validateChannel = σ.validateChannel ++ ((httpRouteHandler config r).reconcile σ.stores).requests := by
  rw [CommonRouteHandler.requests_reconcile _ _ httpRouteKind_lawful]
  exact reconcile_undisturbed hs hr hstep

theorem grpcRoute_undisturbed {r : GRPCRoute} (hs : σ.Inv config)
    (hr : (ReconcileEvent.grpcRoute r).Orderly config σ.stores)
    (hstep : (routeDeployments config).step σ (.reconcile (.grpcRoute r)) = some σ') :
    ∃ as, (∀ a ∈ as, a.IsOf r.resourceKey) ∧ ∃ τ, (routeDeployments config).run σ' as = some τ ∧
      τ.Idle r.resourceKey ∧
      τ.validateChannel = σ.validateChannel ++ ((grpcRouteHandler config r).reconcile σ.stores).requests := by
  rw [CommonRouteHandler.requests_reconcile _ _ grpcRouteKind_lawful]
  exact reconcile_undisturbed hs hr hstep

/-! ## After a run -/

/-- Only objects that had an event have something left. -/
theorem idle_of_run {as : List DeploymentsStep} (hrun : (routeDeployments config).run σ as = some σ')
    {k : ResourceKey} (hk : k ∉ as.filterMap DeploymentsStep.object?) (hσ : σ.Idle k) : σ'.Idle k := by
  induction as generalizing σ with
  | nil =>
    obtain rfl : σ = σ' := by simpa using hrun
    exact hσ
  | cons a as ih =>
    obtain ⟨τ, hstep, hrun⟩ := System.run_cons.1 hrun
    have hfirst : a.object? ≠ some k := fun heq => hk (by
      rw [List.filterMap_cons_some heq]
      exact List.mem_cons_self)
    have hrest : k ∉ as.filterMap DeploymentsStep.object? := fun hmem => hk (by
      rw [List.filterMap_cons]
      split
      · exact hmem
      · exact List.mem_cons_of_mem _ hmem)
    exact ih hrun hrest (idle_step hstep hfirst hσ)

/-- Nothing is left to do for these objects, nor for the validator. -/
def RouteDeployments.idle (objects : List ResourceKey) (σ : RouteDeployments) : Bool :=
  objects.all (fun k => decide (σ.Idle k)) && σ.validateChannel.isEmpty && σ.handling.isNone && σ.todo.isEmpty

/-- A run after which its objects are idle is settled. -/
theorem settled_of_idle {as : List DeploymentsStep}
    (hrun : (routeDeployments config).run (routeDeployments config).init as = some σ)
    (hidle : σ.idle (as.filterMap DeploymentsStep.object?)) : σ.Settled config := by
  simp only [RouteDeployments.idle, Bool.and_eq_true, List.all_eq_true, decide_eq_true_eq, List.isEmpty_iff,
    Option.isNone_iff_eq_none] at hidle
  obtain ⟨⟨⟨hobjects, hch⟩, hhandling⟩, htodo⟩ := hidle
  have hnone (k : ResourceKey) : σ.Idle k := by
    by_cases hmem : k ∈ as.filterMap DeploymentsStep.object?
    · exact hobjects k hmem
    · exact idle_of_run hrun hmem ⟨rfl, rfl, rfl⟩
  rintro τ ⟨a, ha, hstep⟩
  cases a with
  | configured key =>
    obtain ⟨_, _, hkey, -⟩ := step_configured.1 hstep
    rw [(hnone key).1] at hkey
    cases hkey
  | send key =>
    obtain ⟨_, _, hkey, -⟩ := step_send.1 hstep
    rw [(hnone key).2.1] at hkey
    cases hkey
  | announce key =>
    obtain ⟨_, _, -, hkey, -⟩ := step_announce.1 hstep
    rw [(hnone key).2.2] at hkey
    cases hkey
  | receive =>
    obtain ⟨-, -, _, _, hcons, -⟩ := step_receive.1 hstep
    rw [hch] at hcons
    cases hcons
  | track =>
    obtain ⟨_, hsome, -⟩ := step_track.1 hstep
    rw [hhandling] at hsome
    cases hsome
  | work =>
    obtain ⟨_, _, hcons, -⟩ := step_work.1 hstep
    rw [htodo] at hcons
    cases hcons
  | reconcile _ | configure _ _ | patched _ | save _ | notify _ => cases ha

end Own

/-! ## Runs -/

section Decidable

variable {M F : Type} [DecidableEq M] [DecidableEq F] {config : ControllerConfig} {s : Stores}

instance (s : RouteStores) (g : GatewayKey) (k : RouteKey) : Decidable (s.Linked g k) :=
  inferInstanceAs (Decidable (_ ∧ (_ ∨ _)))

/-- What is to hold of every stored gateway is decided by their keys. -/
instance decidableGateways (s : State) (p : GatewayKey → Prop) [DecidablePred p] : Decidable (∀ g ∈ s.gateways, p g) :=
  decidable_of_iff (∀ g ∈ s.gateways.keys, p g) (by simp only [Std.ExtTreeMap.mem_keys])

instance (h : CommonRouteHandler M F) (s : Stores) : Decidable (h.Changes s) :=
  decidable_of_iff (h.Accepts ∧ (h.resourceState s = .new ∨ h.resourceState s = .specChanged) ∧
    h.resource.spec.parentRefs.isSome) ⟨fun h => ⟨h.1, h.2.1, h.2.2⟩, fun h => ⟨h.accepts, h.state, h.parents⟩⟩

instance (h : CommonRouteHandler M F) : Decidable h.Deletes :=
  decidable_of_iff (h.Accepts ∧ h.resource.metadata.IsDeletion ∧ h.resource.spec.parentRefs.isSome)
    ⟨fun h => ⟨h.1, h.2.1, h.2.2⟩, fun h => ⟨h.accepts, h.deletion, h.parents⟩⟩

instance (h : CommonRouteHandler M F) (s : Stores) : Decidable (h.Orderly s) :=
  decidable_of_iff ((h.Changes s → ∀ g ∈ s.state.gateways, s.routes.Attached g h.resourceKey → h.NamesGateway g) ∧
    (h.Deletes → h.kind.kind = "GRPCRoute" → ∀ g ∈ s.state.gateways, h.NamesGateway g →
      ¬ s.routes.Linked g h.resourceKey)) ⟨fun h => ⟨h.1, h.2⟩, fun h => ⟨h.parents, h.deleted⟩⟩

instance (parseUuid : String → Option Uuid) (g : KubeGateway) : Decidable (Converts parseUuid g) :=
  inferInstanceAs (Decidable (_ ∧ ∀ l ∈ g.spec.listeners, _))

instance (e : ReconcileEvent) : Decidable (e.Orderly config s) :=
  match e with
  | .gatewayClass c answer =>
    inferInstanceAs (Decidable (c.metadata.name.isSome ∧ ∀ patched ∈ answer, patched.1.metadata.name.isSome))
  | .gateway g _ => inferInstanceAs (Decidable (¬ g.metadata.IsDeletion → Converts config.parseUuid g))
  | .httpRoute r => inferInstanceAs (Decidable ((httpRouteHandler config r).Orderly s))
  | .grpcRoute r => inferInstanceAs (Decidable ((grpcRouteHandler config r).Orderly s))

instance (σ : RouteDeployments) (a : DeploymentsStep) : Decidable (a.Orderly config σ) :=
  match a with
  | .reconcile e => inferInstanceAs (Decidable (e.Orderly config σ.stores))
  | .save g => inferInstanceAs (Decidable (g.resourceKey ∈ σ.stores.state.gateways ∧ Converts config.parseUuid g ∧
      σ.stores.KnowsClass g.spec.gatewayClassName))
  | .announce key =>
    inferInstanceAs (Decidable ((σ.stores.addGateways config.parseUuid ((σ.unannounced key).take 1)).2 ≠ .awaitChange →
      ∀ g ∈ σ.unannounced key, g.resourceKey ∉ σ.stores.state.gateways))
  | .configure g configurations =>
    inferInstanceAs (Decidable ((ReconcileEvent.gateway g configurations).Orderly config σ.stores))
  | .patched c => inferInstanceAs (Decidable (c.metadata.name.isSome : Prop))
  | .configured _ | .notify _ | .send _ | .receive | .track | .work => .isTrue trivial

end Decidable

def edgeClass : GatewayClass where
  metadata := { name := some "edge", uid := some someUid }
  spec := { controllerName := "controller" }

def edgeGateway (name : String) : KubeGateway where
  metadata := { name := some name, uid := some someUid }
  spec := { gatewayClassName := "edge" }

def orderRoute (resourceVersion : String) (gateways : List String) : HTTPRoute where
  metadata := { name := some "order", uid := some someUid, resourceVersion := some resourceVersion }
  spec := { parentRefs := some (gateways.map fun name => { name := name }) }

def orderKey : RouteKey := HTTPRoute.resourceKey (orderRoute "1" ["a"])

/-- A class, a gateway that waits while the patch of the class is answered, and a route of the gateway. -/
def orderEvents : List DeploymentsStep :=
  [.reconcile (.gatewayClass edgeClass none), .configure (edgeGateway "a") fun _ _ => none, .patched edgeClass,
    .configured (edgeGateway "a").resourceKey, .reconcile (.httpRoute (orderRoute "1" ["a"]))]

/-- The validator takes a request and tells both resolvers of it. -/
def taken : List DeploymentsStep := [.receive, .track, .track]

/-- The same for a gateway, whose routes are read first. -/
def takenGateway : List DeploymentsStep := [.receive, .track, .track, .track, .track]

/-- The requests of the gateway and of the route are sent and done. -/
def orderWork : List DeploymentsStep :=
  [.send orderKey, .send (edgeGateway "a").resourceKey] ++ taken ++ [.announce orderKey] ++ takenGateway ++
    [.send orderKey, .work] ++ takenGateway ++ [.work]

/-- The route is moved to another gateway, and nothing is left to do. -/
def movedEvents : List DeploymentsStep :=
  orderEvents ++ orderWork ++ [.reconcile (.httpRoute (orderRoute "2" ["b"])), .send orderKey] ++ taken

/-- **A gateway that a route is taken from is not told**: it stays deployed with the route as it was. -/
theorem movedEvents_not_deployed : ∃ σ,
    (routeDeployments someConfig).run (routeDeployments someConfig).init movedEvents = some σ ∧
    σ.Settled someConfig ∧
    (edgeGateway "a").resourceKey ∈ σ.stores.state.gateways ∧
    σ.deployed (edgeGateway "a").resourceKey ≠
      some (σ.stores.routes.findLinkedRoutes someConfig.isIpAddr (edgeGateway "a").resourceKey) := by
  have hrun : ((routeDeployments someConfig).run (routeDeployments someConfig).init movedEvents).map (fun σ =>
      (σ.idle (movedEvents.filterMap DeploymentsStep.object?),
        decide ((edgeGateway "a").resourceKey ∈ σ.stores.state.gateways ∧
          σ.deployed (edgeGateway "a").resourceKey ≠
            some (σ.stores.routes.findLinkedRoutes someConfig.isIpAddr (edgeGateway "a").resourceKey)))) =
      some (true, true) := by decide +kernel
  obtain ⟨σ, hσ, heq⟩ := Option.map_eq_some_iff.1 hrun
  obtain ⟨hidle, hnot⟩ := Prod.mk.inj heq
  exact ⟨σ, hσ, settled_of_idle hσ hidle, of_decide_eq_true hnot⟩

def deletedGateway (name : String) : KubeGateway where
  metadata := { (edgeGateway name).metadata with deletionTimestamp := some "now", finalizers := some ["controller"] }
  spec := (edgeGateway name).spec

/-- Gateway `a` is deleted while the handler of the route, which names it first, waits to send its first request. -/
def abandonedEvents : List DeploymentsStep :=
  orderEvents ++ orderWork ++
  [.reconcile (.gateway (edgeGateway "b") fun _ _ => none), .send (edgeGateway "b").resourceKey] ++ takenGateway ++
  [.work] ++
  [.reconcile (.httpRoute (orderRoute "2" ["a", "b"])),
    .reconcile (.gateway (deletedGateway "a") fun _ _ => none), .send orderKey, .send (edgeGateway "a").resourceKey,
    .announce orderKey] ++ taken ++ taken

/-- **A gateway that is named after one that is gone is not told**: the handler stops at the first one that it does
not find. -/
theorem abandonedEvents_not_deployed : ∃ σ,
    (routeDeployments someConfig).run (routeDeployments someConfig).init abandonedEvents = some σ ∧
    σ.Settled someConfig ∧
    (edgeGateway "b").resourceKey ∈ σ.stores.state.gateways ∧
    σ.deployed (edgeGateway "b").resourceKey ≠
      some (σ.stores.routes.findLinkedRoutes someConfig.isIpAddr (edgeGateway "b").resourceKey) := by
  have hrun : ((routeDeployments someConfig).run (routeDeployments someConfig).init abandonedEvents).map (fun σ =>
      (σ.idle (abandonedEvents.filterMap DeploymentsStep.object?),
        decide ((edgeGateway "b").resourceKey ∈ σ.stores.state.gateways ∧
          σ.deployed (edgeGateway "b").resourceKey ≠
            some (σ.stores.routes.findLinkedRoutes someConfig.isIpAddr (edgeGateway "b").resourceKey)))) =
      some (true, true) := by decide +kernel
  obtain ⟨σ, hσ, heq⟩ := Option.map_eq_some_iff.1 hrun
  obtain ⟨hidle, hnot⟩ := Prod.mk.inj heq
  exact ⟨σ, hσ, settled_of_idle hσ hidle, of_decide_eq_true hnot⟩

end Kubvernor
