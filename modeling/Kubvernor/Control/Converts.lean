import Kubvernor.Control.InFlight

/-!
# Stored gateways convert

The reference validator and the route handlers convert a stored gateway and unwrap the result with
`expect`. `stored_converts_iff` says exactly when that is safe: no conversion aborts and everything in
the store converts, all along a run, if and only if every gateway that `on_new` stores and every
object that the API server has answered a status patch with converts. The other writers of the store
are fine: `on_status_changed` and `on_status_not_changed` store an object whose spec equals a stored
one, and a backend's response carries an object that was converted for its deployment.

`on_new` stores before it converts, so that a listener with an unknown protocol gets into the store
(`misconfigured_aborts`).
-/

namespace Kubvernor

open Lib TaskSystem

variable {parseUuid : String → Option Uuid}

/-- Every stored gateway converts, and no unwrapped conversion has aborted. -/
def StoredConverts (parseUuid : String → Option Uuid) (c : PipelineConfig) : Prop :=
  c.shared.aborted = false ∧ ∀ k g, c.shared.state.getGateway k = some g → Converts parseUuid g

/-- An object that comes into the store from outside, at a step that saves it: a new gateway, or the
API server's answer to a patch. -/
def SavesFromOutside (c : PipelineConfig) : PipelineStep → KubeGateway → Prop
  | .start _ _, _ => False
  | .next t _, g => ∃ k reason, (c.program t).head? = some (.saveGateway reason k g) ∧
      (reason = .new ∨ reason = .patched ∨ reason = .ready)

/-- The invariant behind `StoredConverts`: what is in flight converts as well. -/
abbrev ConvertsInv (parseUuid : String → Option Uuid) (c : PipelineConfig) : Prop :=
  LocalInv
    (fun s => (s.aborted = false ∧ ∀ k g, s.state.getGateway k = some g → Converts parseUuid g) ∧
      s.Carries fun _ => Converts parseUuid)
    (fun _ _ p => ∀ a ∈ p, a.Carries fun _ => Converts parseUuid) c

theorem sourced_converts {s : Pipeline}
    (h : ∀ k g, s.state.getGateway k = some g → Converts parseUuid g) :
    Sourced parseUuid (fun _ => Converts parseUuid) s where
  resolve _ _ _ hg := hg
  read k g hg := h k g hg
  resave _ _ hg₀ hspec huid := (h _ _ hg₀).of_spec_eq hspec huid

/-- An action on a converting object of a store of converting objects does not abort. -/
theorem Executes.aborted {s s' : Pipeline} {a : Action} {rest p : List Action}
    (hr : Executes parseUuid s rest a s' p)
    (h : ∀ k g, s.state.getGateway k = some g → Converts parseUuid g)
    (ha : a.Carries fun _ => Converts parseUuid) : s'.aborted = s.aborted := by
  cases hr with
  | routeAborts g hg => exact absurd ha hg
  | redeployAborts key g hg hconv => exact absurd (h key g hg) hconv
  | _ => rfl

theorem convertsInv_step {c c' : PipelineConfig} {x : PipelineStep} (hc : ConvertsInv parseUuid c)
    (hx : ∀ g, SavesFromOutside c x g → Converts parseUuid g)
    (h : (pipeline parseUuid).system.step c x = some c') : ConvertsInv parseUuid c' := by
  refine LocalInv.step (fun c x => ∀ g, SavesFromOutside c x g → Converts parseUuid g)
    hc hx ?_ ?_ h
  · intro c t e r hc _ hidle hr
    have hstart := starts_of_startTask hr
    obtain ⟨hcarries, hprog⟩ := hstart.carries (sourced_converts hc.shared.1.2) hc.shared.2
    obtain ⟨hstate, -, haborted⟩ := hstart.frame
    refine ⟨⟨?_, hcarries⟩, hprog, fun _ _ _ h => h⟩
    rw [hstate, haborted]
    exact hc.shared.1
  · intro c t a rest w r hc hx hp hr
    have hexec := executes_of_execAction hr
    have hprog := hc.task t
    rw [hp] at hprog
    have ha := hprog a List.mem_cons_self
    obtain ⟨hcarries, hprog'⟩ := hexec.carries (sourced_converts hc.shared.1.2) hc.shared.2 hprog
      (fun _ _ _ hconv => hconv)
    refine ⟨⟨⟨?_, ?_⟩, hcarries⟩, hprog', fun _ _ _ h => h⟩
    · rw [hexec.aborted hc.shared.1.2 ha]
      exact hc.shared.1.1
    · intro k g hg
      rcases hexec.getGateway_cases hg with hg | ⟨reason, rfl⟩ | ⟨rfl, -⟩
      · exact hc.shared.1.2 k g hg
      · cases reason with
        | new => exact hx g ⟨k, _, by rw [hp]; rfl, .inl rfl⟩
        | patched => exact hx g ⟨k, _, by rw [hp]; rfl, .inr (.inl rfl)⟩
        | ready => exact hx g ⟨k, _, by rw [hp]; rfl, .inr (.inr rfl)⟩
        | specNotChanged => exact ha
        | statusChanged => exact ha
        | processed => exact ha
      · exact ha

theorem convertsInv_init : ConvertsInv parseUuid (pipeline parseUuid).system.init where
  shared := by
    refine ⟨⟨rfl, ?_⟩, ?_⟩
    · intro k g hg
      simp [system, pipeline, State.getGateway] at hg
    · constructor <;> simp [system, pipeline]
  task := fun t a ha => by simp [system] at ha

/-- **Everything stored converts, and no conversion aborts, all along a run exactly if** everything
that comes into the store from outside, from `on_new` or as the answer to a patch, converts. -/
theorem stored_converts_iff (as : List PipelineStep) :
    (pipeline parseUuid).system.Along
      (fun c x => ∀ c', (pipeline parseUuid).system.step c x = some c' → StoredConverts parseUuid c')
      (pipeline parseUuid).system.init as ↔
    (pipeline parseUuid).system.Along
      (fun c x => ∀ g, SavesFromOutside c x g → Converts parseUuid g)
      (pipeline parseUuid).system.init as := by
  refine System.along_congr _ convertsInv_init ?_ (fun c x c' => convertsInv_step)
  intro c x hc
  constructor
  · intro hgood g hsave
    cases x with
    | start t e => exact hsave.elim
    | next t w =>
      obtain ⟨k, reason, hhead, -⟩ := hsave
      obtain ⟨rest, hp⟩ := List.head?_eq_some_iff.1 hhead
      -- the save itself always goes through
      have hstep : (pipeline parseUuid).system.step c (.next t w) =
          some (c.move t (c.shared.save reason k g, rest)) :=
        step_next.2 ⟨_, rest, hp, _, rfl, rfl⟩
      apply (hgood _ hstep).2 k g
      simp [Pipeline.save]
  · intro hx c' hstep
    exact (convertsInv_step hc hx hstep).shared.1

/-! ## A misconfigured gateway gets in -/

/-- A gateway with a listener of a protocol that no listener has. -/
def misconfigured : KubeGateway where
  metadata := { name := some "gateway", ns := some "infra", uid := some someUid, resourceVersion := some "1" }
  spec := { gatewayClassName := "kubvernor", listeners := [{ name := "l", port := 80, protocol := "foo" }] }

/-- The misconfigured gateway is reconciled, and then a route that names it: the handler of the route finds the
gateway, and its class is known. -/
def misconfiguredRun : List PipelineStep :=
  let route : RouteKey := { ns := "infra", name := "route", kind := "HTTPRoute" }
  [.start (.controller misconfigured.resourceKey) (.reconcile misconfigured .envoy),
    .next (.controller misconfigured.resourceKey) {},
    .next (.controller misconfigured.resourceKey) {},
    .start (.route route) (.reconcileRoute [misconfigured.resourceKey]),
    .next (.route route) { flag := true },
    .next (.route route) { flag := true }]

theorem misconfigured_aborts :
    ∃ c, (pipeline parseSomeUid).system.run (pipeline parseSomeUid).system.init misconfiguredRun = some c ∧
      ¬ StoredConverts parseSomeUid c := by
  have h : ((pipeline parseSomeUid).system.run (pipeline parseSomeUid).system.init misconfiguredRun).map
      (fun c => c.shared.aborted) = some true := by decide
  obtain ⟨c, hc, haborted⟩ := Option.map_eq_some_iff.1 h
  refine ⟨c, hc, ?_⟩
  rintro ⟨hnot, -⟩
  rw [haborted] at hnot
  cases hnot

end Kubvernor
