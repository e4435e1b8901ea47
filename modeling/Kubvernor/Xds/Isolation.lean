import Kubvernor.Xds.Delivery

/-!
# Envoys hold what was published for their gateway

The resources of a gateway travel as whole lists: from the deployer through the queue and the tables of the
server into responses and to the Envoys. `OwnResources` says of every place on that way that what is there is of
the gateway it is kept for, with `P t g l` for the lists `l` of type `t` that have been published for the gateway
`g`. On a stream it is the gateway of the Envoy; the service finds that stream through a copy of a client's
entry, which the registry ties to it.
-/

namespace Kubvernor.Xds

variable {ρ : Type}

section
variable (P : TypeUrl → String → List ρ → Prop)

/-- What an update carries is of its gateway. -/
def ServerAction.Own (e : ServerAction ρ) : Prop := P e.type e.gatewayId e.resources

/-- The resources a handler has read for its response. -/
def Handler.Own (g : String) : Handler ρ → Prop
  | .restore r _ resources | .respond r _ resources => P r.type g resources
  | .idle | .lookup _ | .assign .. | .read .. | .ended => True

/-- What is on a stream: with the handler and in flight. -/
structure Stream.Own (g : String) (st : Stream ρ) : Prop where
  handler : st.handler.Own P g
  responses : ∀ r ∈ st.responses, P r.type g r.resources

structure OwnResources (gatewayOf : EnvoyId → String) (σ : State ρ) : Prop where
  deployer : ∀ e, σ.deployer = some e → e.Own P
  events : ∀ e ∈ σ.events, e.Own P
  service : ∀ e, σ.service.action? = some e → e.Own P
  stored : ∀ t g u, σ.adsChannels t g = some u → P t g u.resources
  streams : ∀ s st, σ.streams s = some st → st.Own P (gatewayOf st.envoy)
  envoys : ∀ c t l, (σ.envoys c).resources t = some l → P t (gatewayOf c) l

/-- What is published counts as published. -/
def Publishes : Step ρ → Prop
  | .changed g clusters listeners true => P .cluster g clusters ∧ P .listener g listeners
  | _ => True

end

variable {P : TypeUrl → String → List ρ → Prop} {gatewayOf : EnvoyId → String} {σ σ' : State ρ} {a : Step ρ}
  {s : StreamId} {st : Stream ρ} {g : String}

/-! ## Streams -/

theorem own_setStream (h : ∀ s st, σ.streams s = some st → st.Own P (gatewayOf st.envoy))
    (hst : st.Own P (gatewayOf st.envoy)) :
    ∀ s' st', (σ.setStream s st).streams s' = some st' → st'.Own P (gatewayOf st'.envoy) := by
  intro s' st' hst'
  by_cases hs : s' = s
  · subst hs
    obtain rfl : st = st' := by simpa [State.setStream] using hst'
    exact hst
  · exact h s' st' (by simpa [State.setStream, hs] using hst')

theorem Stream.envoy_push (st : Stream ρ) (r : DiscoveryResponse ρ) : (st.push r).envoy = st.envoy :=
  congrArg Line.envoy (st.line_push r)

theorem Stream.Own.push {r : DiscoveryResponse ρ} (h : st.Own P g) (hr : P r.type g r.resources) :
    (st.push r).Own P g := by
  unfold Stream.push
  split
  · refine ⟨h.handler, fun r' hr' => ?_⟩
    rcases List.mem_append.1 hr' with hr' | hr'
    · exact h.responses r' hr'
    · exact List.mem_singleton.1 hr' ▸ hr
  · exact h

theorem own_push {r : DiscoveryResponse ρ} (h : ∀ s st, σ.streams s = some st → st.Own P (gatewayOf st.envoy))
    (hr : ∀ st, σ.streams s = some st → P r.type (gatewayOf st.envoy) r.resources) :
    ∀ s' st', (σ.push s r).streams s' = some st' → st'.Own P (gatewayOf st'.envoy) := by
  intro s' st' hst'
  by_cases hs : s' = s
  · subst hs
    simp only [State.push, Function.update_self, Option.map_eq_some_iff] at hst'
    obtain ⟨st, hst, rfl⟩ := hst'
    rw [Stream.envoy_push]
    exact (h s' st hst).push (hr st hst)
  · exact h s' st' (by simpa [State.push, hs] using hst')

/-! ## The moves -/

theorem OwnResources.init : OwnResources P gatewayOf ({} : State ρ) where
  deployer _ h := by cases h
  events _ h := absurd h List.not_mem_nil
  service _ h := by cases h
  stored _ _ _ h := by cases h
  streams _ _ h := by cases h
  envoys _ _ _ h := by cases h

/-- A handler goes on with its own stream. -/
theorem OwnResources.setStream (h : OwnResources P gatewayOf σ) (hst : st.Own P (gatewayOf st.envoy)) :
    OwnResources P gatewayOf (σ.setStream s st) where
  deployer := h.deployer
  events := h.events
  service := h.service
  stored := h.stored
  streams := own_setStream h.streams hst
  envoys := h.envoys

/-- The table of clients holds no resources. -/
theorem OwnResources.setClients (h : OwnResources P gatewayOf σ) (adsClients : AdsClients) :
    OwnResources P gatewayOf { σ with adsClients := adsClients } :=
  ⟨h.deployer, h.events, h.service, h.stored, h.streams, h.envoys⟩

theorem OwnResources.change (h : OwnResources P gatewayOf σ) (clusters listeners : List ρ) {deployed : Bool}
    (hok : Publishes P (.changed g clusters listeners deployed)) :
    OwnResources P gatewayOf (σ.change g clusters listeners deployed) := by
  cases deployed with
  | false => exact { h with }
  | true =>
    obtain ⟨hclusters, hlisteners⟩ := hok
    refine ⟨fun e he => ?_, fun e he => ?_, h.service, h.stored, h.streams, h.envoys⟩
    · obtain rfl := Option.some.inj he
      exact hlisteners
    · rcases List.mem_append.1 he with he | he
      · exact h.events e he
      · obtain rfl := List.mem_singleton.1 he
        exact hclusters

theorem OwnResources.insert {e : ServerAction ρ} (h : OwnResources P gatewayOf σ) (he : e.Own P) :
    ∀ t g u, (σ.insert e).adsChannels t g = some u → P t g u.resources := by
  intro t g u hu
  simp only [State.insert] at hu
  split at hu
  · rename_i heq
    obtain rfl := Option.some.inj hu
    rw [heq.1, heq.2]
    exact he
  · exact h.stored t g u hu

theorem Service.action?_next {e e' : ServerAction ρ} {todo : List AdsClient}
    (h : (Service.next e todo).action? = some e') : e = e' := by
  cases todo with
  | nil => cases h
  | cons k todo => exact Option.some.inj h

/-- **Every list of resources stays with its gateway.** -/
theorem Move.own (hmove : Move gatewayOf σ a σ') (h : OwnResources P gatewayOf σ) (hserved : Served gatewayOf σ)
    (hok : Publishes P a) : OwnResources P gatewayOf σ' := by
  cases hmove with
  | changed g clusters listeners deployed => exact h.change clusters listeners hok
  | deleted g => exact { h with }
  | queue e hdeployer =>
    refine ⟨fun _ he => (by cases he), fun e' he' => ?_, h.service, h.stored, h.streams, h.envoys⟩
    rcases List.mem_append.1 he' with he' | he'
    · exact h.events e' he'
    · exact List.mem_singleton.1 he' ▸ h.deployer e hdeployer
  | recv e rest hservice hevents =>
    refine ⟨h.deployer, fun e' he' => ?_, fun e' he' => ?_, h.stored, h.streams, h.envoys⟩
    · exact h.events e' (hevents ▸ List.mem_cons_of_mem e he')
    · obtain rfl : e = e' := Option.some.inj he'
      exact h.events e (hevents ▸ List.mem_cons_self)
  | insert e hservice =>
    have he : e.Own P := h.service e (by rw [hservice]; rfl)
    refine ⟨h.deployer, h.events, fun e' he' => ?_, h.insert he, h.streams, h.envoys⟩
    exact Option.some.inj he' ▸ he
  | enlist e hservice =>
    refine ⟨h.deployer, h.events, fun e' he' => ?_, h.stored, h.streams, h.envoys⟩
    rw [← Service.action?_next he']
    exact h.service e (by rw [hservice]; rfl)
  | send e k todo hservice =>
    have he : e.Own P := h.service e (by rw [hservice]; rfl)
    have hk : k ∈ σ.service.clients := by simp [hservice, Service.clients]
    refine ⟨h.deployer, h.events, fun e' he' => Option.some.inj he' ▸ he, h.stored, ?_, h.envoys⟩
    refine own_push h.streams fun st hst => ?_
    -- the stream of a client of the service is of the gateway of the update
    obtain ⟨l, hl, -, hgateway⟩ := hserved.client k hk
    rw [State.lines_of_stream hst] at hl
    obtain rfl : st.line = l := Option.some.inj hl
    rw [hserved.gateway e (by rw [hservice]; rfl) k hk] at hgateway
    have hg : e.gatewayId = gatewayOf st.envoy := Option.some.inj hgateway
    exact hg ▸ he
  | save e k todo hservice =>
    refine ⟨h.deployer, h.events, fun e' he' => ?_, h.stored, h.streams, h.envoys⟩
    rw [← Service.action?_next he']
    exact h.service e (by rw [hservice]; rfl)
  | take s st hst | unknown s st hst | lookup s st hst | absent s st hst =>
    exact h.setStream ⟨trivial, (h.streams s st hst).responses⟩
  | withhold s st hst | accept s st hst | close s st hst =>
    refine OwnResources.setClients ?_ _
    exact h.setStream ⟨trivial, (h.streams s st hst).responses⟩
  | found s st hst r k hread u hu handler hhandler =>
    have hown : P r.type (gatewayOf st.envoy) u.resources := h.stored _ _ u hu
    refine h.setStream ⟨?_, (h.streams s st hst).responses⟩
    rcases hhandler with rfl | rfl <;> exact hown
  | restore s st hst r k resources hrestore =>
    have hst' := h.streams s st hst
    have hown : P r.type (gatewayOf st.envoy) resources := by
      have := hst'.handler
      rwa [hrestore] at this
    refine OwnResources.setClients ?_ _
    exact h.setStream ⟨hown, hst'.responses⟩
  | respond s st hst r k resources hrespond =>
    have hst' := h.streams s st hst
    have hown : P r.type (gatewayOf st.envoy) resources := by
      have := hst'.handler
      rwa [hrespond] at this
    refine h.setStream ?_
    rw [Stream.envoy_push]
    exact Stream.Own.push ⟨trivial, hst'.responses⟩ hown
  | connect c addr hc =>
    refine ⟨h.deployer, h.events, h.service, h.stored, own_setStream h.streams ⟨trivial, ?_⟩, ?_⟩
    · exact fun r hr => absurd hr List.not_mem_nil
    · intro c' t l hl
      by_cases hc' : c' = c
      · subst hc'
        exact h.envoys c' t l (by simpa [State.connect] using hl)
      · exact h.envoys c' t l (by simpa [State.connect, State.setStream, hc'] using hl)
  | disconnect c s hc st hst =>
    have hst' := h.streams s st hst
    refine ⟨h.deployer, h.events, h.service, h.stored,
      own_setStream h.streams ⟨hst'.handler, hst'.responses⟩, ?_⟩
    intro c' t l hl
    by_cases hc' : c' = c
    · subst hc'
      exact h.envoys c' t l (by simpa using hl)
    · exact h.envoys c' t l (by simpa [State.setStream, hc'] using hl)
  | request c t s hc st hst =>
    have hst' := h.streams s st hst
    exact h.setStream ⟨hst'.handler, hst'.responses⟩
  | receive c s hc st hst r rest hresponses =>
    have hst' := h.streams s st hst
    refine ⟨h.deployer, h.events, h.service, h.stored, own_setStream h.streams ⟨hst'.handler, ?_⟩, ?_⟩
    · exact fun r' hr' => hst'.responses r' (hresponses ▸ List.mem_cons_of_mem r hr')
    · intro c' t l hl
      by_cases hc' : c' = st.envoy
      · subst hc'
        by_cases ht : t = r.type
        · subst ht
          obtain rfl : r.resources = l := by simpa [State.receive] using hl
          exact hst'.responses r (hresponses ▸ List.mem_cons_self)
        · exact h.envoys st.envoy t l (by simpa [State.receive, ht] using hl)
      · exact h.envoys c' t l (by simpa [State.receive, State.setStream, hc'] using hl)

/-! ## Runs -/

/-- The registry and the resources, along a run. -/
theorem ownResources_of_run {as : List (Step ρ)}
    (hok : (server gatewayOf).Along (fun σ a => NewAddress σ a ∧ Publishes P a) (server gatewayOf).init as)
    (hrun : (server gatewayOf).run (server gatewayOf).init as = some σ) : OwnResources P gatewayOf σ := by
  have hstep : ∀ (σ : State ρ) a σ',
      (Registry gatewayOf σ ∧ Copies gatewayOf σ ∧ Served gatewayOf σ) ∧ OwnResources P gatewayOf σ →
        NewAddress σ a ∧ Publishes P a → (server gatewayOf).step σ a = some σ' →
          (Registry gatewayOf σ' ∧ Copies gatewayOf σ' ∧ Served gatewayOf σ') ∧ OwnResources P gatewayOf σ' := by
    intro σ a σ' h hok hstep
    obtain ⟨⟨hregistry, hcopies, hserved⟩, hown⟩ := h
    have hmove : Move gatewayOf σ a σ' := move_of_step hstep
    refine ⟨⟨?_, ?_, ?_⟩, hmove.own hown hserved hok.2⟩
    · exact hmove.registry hregistry hcopies hserved hok.1
    · exact hmove.copies hcopies
    · exact hmove.served hserved hregistry hok.1
  have hinit : Invariant gatewayOf ({} : State ρ) := .init
  exact (Lib.System.inv_run hstep ⟨⟨hinit.registry, hinit.copies, hinit.served⟩, .init⟩ hok hrun).2

/-- The list was published for the gateway in the run: a change that was deployed brought it. -/
def Published (as : List (Step ρ)) (t : TypeUrl) (g : String) (l : List ρ) : Prop :=
  ∃ clusters listeners, Step.changed g clusters listeners true ∈ as ∧
    (t = .cluster ∧ l = clusters ∨ t = .listener ∧ l = listeners)

theorem publishes_published {as : List (Step ρ)} : ∀ a ∈ as, Publishes (Published as) a := by
  intro a ha
  cases a with
  | changed g clusters listeners deployed =>
    cases deployed with
    | false => trivial
    | true => exact ⟨⟨clusters, listeners, ha, .inl ⟨rfl, rfl⟩⟩, clusters, listeners, ha, .inr ⟨rfl, rfl⟩⟩
  | _ => trivial

/-- **An Envoy holds what was published for its gateway.** Whatever an Envoy has installed of a type, and
whatever is on its way to it, is a whole list of resources that a deployed change of its gateway brought as its
clusters or as its listeners, however the steps interleave; provided that no stream comes from an address that
another one still has. -/
theorem envoys_isolated {as : List (Step ρ)}
    (hok : (server gatewayOf).Along NewAddress (server gatewayOf).init as)
    (hrun : (server gatewayOf).run (server gatewayOf).init as = some σ) (c : EnvoyId) :
    (∀ t l, (σ.envoys c).resources t = some l → Published as t (gatewayOf c) l) ∧
      ∀ s st, σ.streams s = some st → st.envoy = c → ∀ r ∈ st.responses,
        Published as r.type (gatewayOf c) r.resources := by
  have hown := ownResources_of_run (hok.and_forall publishes_published) hrun
  refine ⟨hown.envoys c, ?_⟩
  rintro s st hst rfl
  exact (hown.streams s st hst).responses

/-- Two gateways have clusters, and the Envoy of the first one asks for its own. -/
def twoGatewaysRun : List (Step String) :=
  changeSteps ["a"] 0 ++ .changed "edge.gateway" ["c"] ["listener"] true :: .deployer :: List.replicate 6 .service ++
    connectSteps 1 ++ List.replicate 6 (.handler 0) ++ [.receive 0]

theorem envoys_isolated_twoGateways : ∃ σ, (server fun _ => "infra.gateway").run
      (server fun _ => "infra.gateway").init twoGatewaysRun = some σ ∧
    (σ.envoys 0).resources .cluster = some ["a"] ∧
      Published twoGatewaysRun .cluster "infra.gateway" ["a"] := by
  have h : ((server fun _ => "infra.gateway").run (server fun _ => "infra.gateway").init
      twoGatewaysRun).map (fun σ => (σ.envoys 0).resources .cluster) = some (some ["a"]) := by decide +kernel
  obtain ⟨σ, hrun, hheld⟩ := Option.map_eq_some_iff.1 h
  exact ⟨σ, hrun, hheld, (envoys_isolated (by decide +kernel) hrun 0).1 .cluster ["a"] hheld⟩

end Kubvernor.Xds
