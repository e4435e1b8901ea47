import Kubvernor.Control.InFlight

/-!
# Deleted gateways and late responses

The gateway deployer saves a gateway three times for a response of a backend: the gateway of the
response, the answer to the status patch, and that answer again if it is ready. None of these saves
looks at the store, so that a response that was in a channel, in a polling task or in the deployer
when the gateway was deleted brings it back (`lateResponse_restores`). `deleted_stays_iff` shows that
there is no other way: a deleted gateway stays away all along a run exactly if the deployer only ever
saves gateways that are stored, as `maybe_save_gateway` does.
-/

namespace Kubvernor

open Lib TaskSystem

variable {parseUuid : String → Option Uuid}

/-- No deleted gateway is stored, until a reconcile event stores it again. -/
def DeletedStays (s : Pipeline) : Prop := ∀ k ∈ s.history.deleted, s.state.getGateway k = none

/-- A gateway the deployer saves at a step. -/
def SavesResponse (c : PipelineConfig) : PipelineStep → GatewayKey → Prop
  | .start _ _, _ => False
  | .next t _, k => ∃ reason g, (c.program t).head? = some (.saveGateway reason k g) ∧
      (reason = .processed ∨ reason = .patched ∨ reason = .ready)

/-! ## Known gateways -/

/-- The gateway is stored, or it was and has been deleted. -/
def Pipeline.Known (s : Pipeline) (k : GatewayKey) : Prop :=
  k ∈ s.history.deleted ∨ ∃ g, s.state.getGateway k = some g

/-- The saves and the patches of a program are of known gateways, save for the first one of a new
gateway. -/
def Action.OfKnown (s : Pipeline) : Action → Prop
  | .saveGateway reason key _ => reason = .new ∨ s.Known key
  | .awaitPatch key => s.Known key
  | _ => True

/-- What is known of the gateways of a program: a new gateway is stored before it is converted. -/
structure KnownProgram (s : Pipeline) (p : List Action) : Prop where
  carries : ∀ a ∈ p, a.Carries fun k _ => s.Known k
  ofKnown : ∀ a ∈ p, a.OfKnown s
  newOrChanged : ∀ g t, .newOrChanged g t ∈ p →
    s.Known g.resourceKey ∨ p.head? = some (.saveGateway .new g.resourceKey g)

/-- The invariant behind `DeletedStays`: whatever is in flight is of a known gateway. -/
abbrev KnownInv (c : PipelineConfig) : Prop :=
  LocalInv (fun s => DeletedStays s ∧ s.Carries fun k _ => s.Known k) (fun _ => KnownProgram) c

theorem sourced_known {s : Pipeline} (h : s.WellKeyed) :
    Sourced parseUuid (fun k _ => s.Known k) s where
  resolve _ _ _ hk := hk
  read k g hg := .inr ⟨g, by rw [h.stored k g hg]; exact hg⟩
  resave _ g₀ hg₀ _ _ := .inr ⟨g₀, hg₀⟩

section
variable {s s' : Pipeline} {t : Task} {a : Action} {rest p : List Action}

theorem known_save {reason : SaveReason} {key k : GatewayKey} {g : KubeGateway}
    (h : key = k ∨ s.Known k) : (s.save reason key g).Known k := by
  by_cases hk : key = k
  · exact .inr ⟨g, by simp [Pipeline.save, hk]⟩
  · rcases h.resolve_left hk with h | ⟨g₀, h⟩
    · refine .inl ?_
      cases reason <;> simp [Pipeline.save, hk, h]
    · exact .inr ⟨g₀, by simpa [Pipeline.save, hk] using h⟩

/-- A known gateway stays known. -/
theorem Executes.known (hr : Executes parseUuid s rest a s' p) {k : GatewayKey} (h : s.Known k) :
    s'.Known k := by
  cases hr with
  | saveGateway reason key g => exact known_save (.inr h)
  | maybeSaveGateway key g =>
    rcases h with h | ⟨g₀, h⟩
    · exact .inl h
    · refine .inr ?_
      rw [State.getGateway_maybeSaveGateway]
      split
      · exact ⟨g, rfl⟩
      · exact ⟨g₀, h⟩
  | deleteGateway key =>
    by_cases hk : key = k
    · exact .inl (by simp [hk])
    · rcases h with h | ⟨g₀, h⟩
      · exact .inl (by simp [h])
      · exact .inr ⟨g₀, by simpa [hk] using h⟩
  | _ => exact h

theorem Starts.known (hr : Starts parseUuid s t s' p) (k : GatewayKey) : s'.Known k ↔ s.Known k := by
  obtain ⟨hstate, hhistory, -⟩ := hr.frame
  unfold Pipeline.Known
  rw [hstate, hhistory]

theorem KnownProgram.mono (h : KnownProgram s p) (hs : ∀ k, s.Known k → s'.Known k) :
    KnownProgram s' p where
  carries a ha := (h.carries a ha).mono fun k _ => hs k
  ofKnown a ha := by
    have hk := h.ofKnown a ha
    cases a with
    | saveGateway reason key g => exact hk.imp_right (hs key)
    | awaitPatch key => exact hs key hk
    | _ => trivial
  newOrChanged g t hg := (h.newOrChanged g t hg).imp_left (hs _)

theorem Starts.knownProgram (hr : Starts parseUuid s t s' p) (hkeyed : s.WellKeyed)
    (h : s.Carries fun k _ => s.Known k) : KnownProgram s p := by
  refine ⟨(hr.carries (sourced_known hkeyed) h).2, ?_, ?_⟩
  · intro a ha
    cases hr with
    | reconcile g type huid =>
      have hstored : ∀ r, s.resourceState g = r → r ≠ .new → r ≠ .deleted → s.Known g.resourceKey := by
        intro r hr hnew hdel
        obtain ⟨g₀, hg₀, -⟩ := checkStatus_stored hr hnew hdel
        exact .inr ⟨g₀, hg₀⟩
      rcases gatewayHandler_mem ha with ⟨-, rfl⟩ | ⟨-, rfl⟩ | ⟨hr, rfl⟩ | ⟨hr, rfl⟩ | ⟨hr, rfl⟩ |
        ⟨-, rfl | rfl⟩
      · exact .inl rfl
      · trivial
      · exact .inr (hstored _ hr (by simp) (by simp))
      · exact .inr (hstored _ hr (by simp) (by simp))
      · trivial
      · trivial
      · trivial
    | reconcileRoute key parents =>
      obtain ⟨k, -, rfl⟩ := List.mem_map.1 ha
      trivial
    | receiveOther q rest hch hq keys =>
      obtain ⟨k, -, rfl⟩ := List.mem_map.1 ha
      trivial
    | receiveAdd ctx rest hch =>
      obtain rfl := List.mem_singleton.1 ha
      trivial
    | receiveDeploy ctx rest hch =>
      obtain rfl := List.mem_singleton.1 ha
      trivial
    | receiveContext ctx rest hch =>
      have hk : s.Known ctx.gateway.resourceKey := h.response ctx (hch ▸ List.mem_cons_self)
      rcases List.mem_pair.1 ha with rfl | rfl
      · exact .inr hk
      · exact hk
    | receiveProcessed | backendFailed | backendAddressed | backendPolling | backendDeleted
    | pollAnswered | notify => simp at ha
  · intro g type hg
    cases hr with
    | reconcile g' type' huid =>
      rcases gatewayHandler_mem hg with ⟨-, h⟩ | ⟨hdel, h⟩ | ⟨-, h⟩ | ⟨-, h⟩ | ⟨-, h⟩ | ⟨-, h | h⟩
      · cases h
      · obtain ⟨rfl, rfl⟩ := Action.newOrChanged.inj h
        by_cases hnew : s.resourceState g = .new
        · rw [hnew]
          exact .inr rfl
        · obtain ⟨g₀, hg₀, -⟩ := checkStatus_stored rfl hnew hdel
          exact .inl (.inr ⟨g₀, hg₀⟩)
      · cases h
      · cases h
      · cases h
      · cases h
      · cases h
    | reconcileRoute | receiveOther | receiveAdd | receiveDeploy | receiveContext | receiveProcessed
    | backendFailed | backendAddressed | backendPolling | backendDeleted | pollAnswered | notify =>
      simp at hg

theorem Executes.knownProgram (hr : Executes parseUuid s rest a s' p) (hkeyed : s.WellKeyed)
    (h : s.Carries fun k _ => s.Known k) (hprog : KnownProgram s (a :: rest)) :
    (s'.Carries fun k _ => s'.Known k) ∧ KnownProgram s' p := by
  have hknown : ∀ k, s.Known k → s'.Known k := fun k => hr.known
  obtain ⟨hcarries, hp⟩ := hr.carries (sourced_known hkeyed) h hprog.carries (fun g t ha _ =>
    (hprog.newOrChanged g t (ha ▸ List.mem_cons_self)).resolve_right (by subst ha; simp))
  refine ⟨hcarries.mono fun k _ => hknown k, fun b hb => (hp b hb).mono fun k _ => hknown k, ?_, ?_⟩
  · -- the rest of the program is as known as before, and so is what an action puts before it
    have hrest : ∀ b ∈ rest, b.OfKnown s' :=
      fun b hb => (hprog.mono hknown).ofKnown b (List.mem_cons_of_mem _ hb)
    have ha := (hprog.mono hknown).ofKnown a List.mem_cons_self
    cases hr with
    | accepted | deleteDeployed | routeAdds | redeploys | redeployTyped | process =>
      simp only [List.forall_mem_cons]
      simp_all [Action.OfKnown]
    | routeMatched key g hg =>
      intro b hb
      rcases List.mem_append.1 hb with hb | hb
      · exact hrest b hb
      · obtain rfl := List.mem_singleton.1 hb
        trivial
    | patched p => exact List.forall_mem_cons.2 ⟨.inr ha, hrest⟩
    | patchedReady p =>
      exact List.forall_mem_cons.2 ⟨.inr ha, List.forall_mem_cons.2 ⟨.inr ha, hrest⟩⟩
    | misconfigured | routeGivesUp | routeAborts | redeployAborts => simp
    | saveGateway | maybeSaveGateway | saveGatewayType | deleteGateway | deleteGatewayType
    | awaitDeleted | send | sendBackend | routeUnmatched | redeployMissing | redeployUntyped
    | sendDeploy | patchFailed => exact hrest
  · -- a conversion still to come is of a gateway that is known, or just stored
    have hrest : ∀ g t, .newOrChanged g t ∈ rest → s'.Known g.resourceKey := by
      intro g t hg
      rcases hprog.newOrChanged g t (List.mem_cons_of_mem _ hg) with hk | hhead
      · exact hknown _ hk
      · obtain rfl := Option.some.inj hhead
        cases hr with
        | saveGateway reason key g => exact known_save (.inl rfl)
    intro g t hg
    refine .inl ?_
    cases hr with
    | accepted | misconfigured | routeGivesUp | routeAborts | redeployAborts => simp at hg
    | deleteDeployed | routeAdds | redeploys | redeployTyped | process | patched | patchedReady =>
      simp only [List.mem_cons, reduceCtorEq, false_or] at hg
      exact hrest g t hg
    | routeMatched key g' hg' =>
      simp only [List.mem_append, List.mem_singleton, reduceCtorEq, or_false] at hg
      exact hrest g t hg
    | saveGateway | maybeSaveGateway | saveGatewayType | deleteGateway | deleteGatewayType
    | awaitDeleted | send | sendBackend | routeUnmatched | redeployMissing | redeployUntyped
    | sendDeploy | patchFailed => exact hrest g t hg

/-- A step keeps deleted gateways away, if what the deployer saves is stored. -/
theorem Executes.deletedStays (hr : Executes parseUuid s rest a s' p) (h : DeletedStays s)
    (hsave : ∀ reason k g, a = .saveGateway reason k g →
      reason = .processed ∨ reason = .patched ∨ reason = .ready → ∃ g₀, s.state.getGateway k = some g₀) :
    DeletedStays s' := by
  cases hr with
  | saveGateway reason key g =>
    intro k hk
    have hdel : k ∈ s.history.deleted ∧ key ≠ k := by
      cases reason with
      | new | specNotChanged | statusChanged =>
        obtain ⟨hne, hk⟩ := Std.ExtTreeSet.mem_erase.1 hk
        exact ⟨hk, fun h => hne (Std.LawfulEqOrd.compare_eq_iff_eq.2 h)⟩
      | processed | patched | ready =>
        refine ⟨hk, ?_⟩
        rintro rfl
        obtain ⟨g₀, hg₀⟩ := hsave _ _ _ rfl (by simp)
        simp [h _ hk] at hg₀
    simpa [Pipeline.save, hdel.2] using h k hdel.1
  | maybeSaveGateway key g =>
    intro k hk
    rw [State.getGateway_maybeSaveGateway, if_neg]
    · exact h k hk
    · rintro ⟨rfl, hsome⟩
      simp [h _ hk] at hsome
  | deleteGateway key =>
    intro k hk
    simp only [State.getGateway_deleteGateway]
    split
    · rfl
    · rename_i hne
      simp only [Std.ExtTreeSet.mem_insert, Std.LawfulEqOrd.compare_eq_iff_eq, hne, false_or] at hk
      exact h k hk
  | _ => exact h

end

/-! ## The exact condition -/

theorem knownInv_step {c c' : PipelineConfig} {x : PipelineStep} (hkeyed : WellKeyed c) (hc : KnownInv c)
    (hx : ∀ k, SavesResponse c x k → ∃ g, c.shared.state.getGateway k = some g)
    (h : (pipeline parseUuid).system.step c x = some c') : KnownInv c' := by
  refine LocalInv.step (fun c x => WellKeyed c ∧
    ∀ k, SavesResponse c x k → ∃ g, c.shared.state.getGateway k = some g) hc ⟨hkeyed, hx⟩ ?_ ?_ h
  · intro c t e r hc hok hidle hr
    have hstart := starts_of_startTask hr
    have hknown : ∀ k, c.shared.Known k → r.1.Known k := fun k => (hstart.known k).2
    refine ⟨⟨?_, ?_⟩, ?_, fun _ _ _ h => h.mono hknown⟩
    · obtain ⟨hstate, hhistory, -⟩ := hstart.frame
      unfold DeletedStays
      rw [hstate, hhistory]
      exact hc.shared.1
    · exact (hstart.carries (sourced_known hok.1.shared) hc.shared.2).1.mono fun k _ => hknown k
    · exact (hstart.knownProgram hok.1.shared hc.shared.2).mono hknown
  · intro c t a rest w r hc hok hp hr
    have hexec := executes_of_execAction hr
    have hprog := hc.task t
    rw [hp] at hprog
    obtain ⟨hcarries, hprog'⟩ := hexec.knownProgram hok.1.shared hc.shared.2 hprog
    refine ⟨⟨?_, hcarries⟩, hprog', fun _ _ _ h => h.mono fun k => hexec.known⟩
    apply hexec.deletedStays hc.shared.1
    rintro reason k g rfl hreason
    exact hok.2 k ⟨reason, g, by rw [hp]; rfl, hreason⟩

theorem knownInv_init : KnownInv (pipeline parseUuid).system.init where
  shared := by
    refine ⟨?_, ?_⟩
    · intro k hk
      simp [system, pipeline] at hk
    · constructor <;> simp [system, pipeline]
  task := fun t => by constructor <;> simp [system]

/-- **A deleted gateway stays away all along a run exactly if** the deployer only saves gateways that
are stored. -/
theorem deleted_stays_iff (as : List PipelineStep) :
    (pipeline parseUuid).system.Along
      (fun c x => ∀ c', (pipeline parseUuid).system.step c x = some c' → DeletedStays c'.shared)
      (pipeline parseUuid).system.init as ↔
    (pipeline parseUuid).system.Along
      (fun c x => ∀ k, SavesResponse c x k → ∃ g, c.shared.state.getGateway k = some g)
      (pipeline parseUuid).system.init as := by
  refine System.along_congr (fun c => WellKeyed c ∧ KnownInv c)
    ⟨wellKeyed_init, knownInv_init⟩ ?_
    (fun c x c' hc hx h => ⟨wellKeyed_step hc.1 h, knownInv_step hc.1 hc.2 hx h⟩)
  rintro c x ⟨hkeyed, hc⟩
  constructor
  · intro hstays k hsave
    cases x with
    | start t e => exact hsave.elim
    | next t w =>
      obtain ⟨reason, g, hhead, hreason⟩ := hsave
      obtain ⟨rest, hp⟩ := List.head?_eq_some_iff.1 hhead
      have hstep : (pipeline parseUuid).system.step c (.next t w) =
          some (c.move t (c.shared.save reason k g, rest)) :=
        step_next.2 ⟨_, rest, hp, _, rfl, rfl⟩
      have hnot : k ∉ c.shared.history.deleted := by
        intro hk
        have hnone := hstays _ hstep k (by rcases hreason with rfl | rfl | rfl <;> exact hk)
        simp [Pipeline.save] at hnone
      have hknown := (hc.task t).ofKnown (.saveGateway reason k g) (by rw [hp]; exact List.mem_cons_self)
      rcases hknown with rfl | hknown
      · simp at hreason
      · exact hknown.resolve_left hnot
  · intro hx c' hstep
    exact (knownInv_step hkeyed hc hx hstep).shared.1

/-! ## A late response -/

/-- A gateway with one HTTP listener. -/
def liveGateway : KubeGateway where
  metadata := { name := some "gateway", ns := some "infra", uid := some someUid, resourceVersion := some "1" }
  spec := { gatewayClassName := "kubvernor", listeners := [{ name := "l", port := 80, protocol := "HTTP" }] }

/-- The same gateway once its deletion has been asked for. -/
def dyingGateway : KubeGateway :=
  { liveGateway with metadata := { liveGateway.metadata with
      resourceVersion := some "2", deletionTimestamp := some "now", finalizers := some ["kubvernor"] } }

/-- A gateway is deployed, the backend polls for its address, the gateway is deleted, and then the
poll is answered. -/
def lateResponseRun : List PipelineStep :=
  let controller := Task.controller liveGateway.resourceKey
  [.start controller (.reconcile liveGateway .envoy),
    .next controller {}, .next controller {}, .next controller {}, .next controller {},
    .start .validator (.receive ∅), .next .validator {}, .next .validator {},
    .start .deployer .receiveDeploy, .next .deployer {},
    .start (.backend .envoy) (.receiveBackend .polling),
    .start controller (.reconcile dyingGateway .envoy), .next controller {},
    .start .poll (.pollAnswered 0 [.ipAddress "10.0.0.1"]),
    .start .deployer (.receiveResponse true), .next .deployer {}]

theorem lateResponse_restores :
    ∃ c, (pipeline parseSomeUid).system.run (pipeline parseSomeUid).system.init lateResponseRun =
      some c ∧ ¬ DeletedStays c.shared := by
  have h : ((pipeline parseSomeUid).system.run (pipeline parseSomeUid).system.init
      lateResponseRun).map (fun c => decide (liveGateway.resourceKey ∈ c.shared.history.deleted ∧
        (c.shared.state.getGateway liveGateway.resourceKey).isSome)) = some true := by decide
  obtain ⟨c, hc, hstored⟩ := Option.map_eq_some_iff.1 h
  refine ⟨c, hc, ?_⟩
  intro hstays
  obtain ⟨hdeleted, hsome⟩ := of_decide_eq_true hstored
  rw [hstays _ hdeleted] at hsome
  cases hsome

end Kubvernor
