import Kubvernor.Xds.AggregateServer

/-!
# The moves of the server and its clients

`Move` lists what can happen, one constructor for each way a step can go, and `move_of_step` inverts
the step function into it. Every invariant of the server is a case analysis over these constructors.
-/

namespace Kubvernor.Xds

variable {ρ : Type}

section
variable (gatewayOf : EnvoyId → String) (σ : State ρ)

/-- What a step does, and the state after it. -/
inductive Move : Step ρ → State ρ → Prop
  | changed (g : String) (clusters listeners : List ρ) (deployed : Bool) (hidle : σ.deployer = none) :
      Move (.changed g clusters listeners deployed) (σ.change g clusters listeners deployed)
  | deleted (g : String) :
      Move (.deleted g) { σ with ackVersions := Function.update σ.ackVersions g none }
  | queue (e : ServerAction ρ) (hdeployer : σ.deployer = some e) :
      Move .deployer { σ with events := σ.events ++ [e], deployer := none }
  | recv (e : ServerAction ρ) (rest : List (ServerAction ρ)) (hservice : σ.service = .idle)
      (hevents : σ.events = e :: rest) :
      Move .service { σ with events := rest, service := .received e }
  | insert (e : ServerAction ρ) (hservice : σ.service = .received e) :
      Move .service { σ.insert e with service := .inserted e }
  | enlist (e : ServerAction ρ) (hservice : σ.service = .inserted e) :
      Move .service { σ with
        service := .next e (AdsClients.getClientsByGatewayId σ.adsClients e.gatewayId) }
  | send (e : ServerAction ρ) (k : AdsClient) (todo : List AdsClient)
      (hservice : σ.service = .sending e k todo) :
      Move .service { σ.push k.sender ⟨e.type, e.resources, e.ackVersion⟩ with
        service := .storing e k todo }
  | save (e : ServerAction ρ) (k : AdsClient) (todo : List AdsClient)
      (hservice : σ.service = .storing e k todo) :
      Move .service { σ with
        adsClients := AdsClients.updateClient σ.adsClients
          { k with ackVersions := k.ackVersions.set e.type e.ackVersion }
        service := .next e todo }
  | take (s : StreamId) (st : Stream ρ) (hst : σ.streams s = some st) (r : DiscoveryRequest)
      (rest : List DiscoveryRequest) (hidle : st.handler = .idle) (hrequests : st.requests = r :: rest) :
      Move (.handler s) (σ.setStream s { st with requests := rest, handler := .lookup r })
  | unknown (s : StreamId) (st : Stream ρ) (hst : σ.streams s = some st) (r : DiscoveryRequest)
      (hlookup : st.handler = .lookup r)
      (hnone : AdsClients.getClientByClientId σ.adsClients st.clientIp = none) :
      Move (.handler s) (σ.setStream s { st with handler := .idle })
  | lookup (s : StreamId) (st : Stream ρ) (hst : σ.streams s = some st) (r : DiscoveryRequest)
      (hlookup : st.handler = .lookup r) (k : AdsClient)
      (hk : AdsClients.getClientByClientId σ.adsClients st.clientIp = some k) :
      Move (.handler s) (σ.setStream s
        { st with handler := .assign r { k with gatewayId := some (gatewayOf st.envoy) } })
  | withhold (s : StreamId) (st : Stream ρ) (hst : σ.streams s = some st) (r : DiscoveryRequest)
      (k : AdsClient) (hassign : st.handler = .assign r k)
      (heq : r.versionInfo = some (k.ackVersions.get r.type)) :
      Move (.handler s) { σ.setStream s { st with handler := .idle } with
        adsClients := AdsClients.updateClient σ.adsClients k }
  | accept (s : StreamId) (st : Stream ρ) (hst : σ.streams s = some st) (r : DiscoveryRequest)
      (k : AdsClient) (hassign : st.handler = .assign r k)
      (hne : r.versionInfo ≠ some (k.ackVersions.get r.type)) :
      Move (.handler s) { σ.setStream s { st with handler := .read r k } with
        adsClients := AdsClients.updateClient σ.adsClients k }
  | absent (s : StreamId) (st : Stream ρ) (hst : σ.streams s = some st) (r : DiscoveryRequest)
      (k : AdsClient) (hread : st.handler = .read r k)
      (hnone : σ.adsChannels r.type (gatewayOf st.envoy) = none) :
      Move (.handler s) (σ.setStream s { st with handler := .idle })
  | found (s : StreamId) (st : Stream ρ) (hst : σ.streams s = some st) (r : DiscoveryRequest)
      (k : AdsClient) (hread : st.handler = .read r k) (u : Update ρ)
      (hu : σ.adsChannels r.type (gatewayOf st.envoy) = some u) (h : Handler ρ)
      (hh : h = .restore r k u.resources ∨ h = .respond r k u.resources) :
      Move (.handler s) (σ.setStream s { st with handler := h })
  | restore (s : StreamId) (st : Stream ρ) (hst : σ.streams s = some st) (r : DiscoveryRequest)
      (k : AdsClient) (resources : List ρ) (hrestore : st.handler = .restore r k resources) :
      Move (.handler s) { σ.setStream s { st with handler := .respond r k resources } with
        adsClients := AdsClients.updateClient σ.adsClients k }
  | respond (s : StreamId) (st : Stream ρ) (hst : σ.streams s = some st) (r : DiscoveryRequest)
      (k : AdsClient) (resources : List ρ) (hrespond : st.handler = .respond r k resources) :
      Move (.handler s) (σ.setStream s
        ({ st with handler := .idle }.push ⟨r.type, resources, k.ackVersions.get r.type⟩))
  | close (s : StreamId) (st : Stream ρ) (hst : σ.streams s = some st) (hclosed : st.isOpen = false)
      (hidle : st.handler = .idle) :
      Move (.close s) { σ.setStream s { st with handler := .ended } with
        adsClients := AdsClients.removeClient σ.adsClients st.clientIp }
  | connect (c : EnvoyId) (addr : SocketAddr) (hc : (σ.envoys c).stream = none) :
      Move (.connect c addr) (σ.connect c addr)
  | disconnect (c : EnvoyId) (s : StreamId) (hc : (σ.envoys c).stream = some s) (st : Stream ρ)
      (hst : σ.streams s = some st) :
      Move (.disconnect c) { σ.setStream s { st with isOpen := false } with
        envoys := Function.update σ.envoys c { σ.envoys c with stream := none } }
  | request (c : EnvoyId) (t : TypeUrl) (s : StreamId) (hc : (σ.envoys c).stream = some s)
      (st : Stream ρ) (hst : σ.streams s = some st) :
      Move (.request c t) (σ.request s st t)
  | receive (c : EnvoyId) (s : StreamId) (hc : (σ.envoys c).stream = some s) (st : Stream ρ)
      (hst : σ.streams s = some st) (r : DiscoveryResponse ρ) (rest : List (DiscoveryResponse ρ))
      (hresponses : st.responses = r :: rest) :
      Move (.receive c) (σ.receive s st r rest)

end

variable {gatewayOf : EnvoyId → String} {σ σ' : State ρ} {a : Step ρ}

theorem move_of_serviceStep (h : σ.serviceStep = some σ') : Move gatewayOf σ .service σ' := by
  unfold State.serviceStep at h
  cases hservice : σ.service with
  | idle =>
    cases hevents : σ.events with
    | nil => simp [hservice, hevents] at h
    | cons e rest =>
      simp only [hservice, hevents, Option.some.injEq] at h
      exact h ▸ .recv e rest hservice hevents
  | received e =>
    simp only [hservice, Option.some.injEq] at h
    exact h ▸ .insert e hservice
  | inserted e =>
    simp only [hservice, Option.some.injEq] at h
    exact h ▸ .enlist e hservice
  | sending e k todo =>
    simp only [hservice, Option.some.injEq] at h
    exact h ▸ .send e k todo hservice
  | storing e k todo =>
    simp only [hservice, Option.some.injEq] at h
    exact h ▸ .save e k todo hservice

theorem move_of_handlerStep {s : StreamId} {st : Stream ρ} (hst : σ.streams s = some st)
    (h : σ.handlerStep gatewayOf s st = some σ') : Move gatewayOf σ (.handler s) σ' := by
  unfold State.handlerStep at h
  cases hhandler : st.handler with
  | idle =>
    cases hrequests : st.requests with
    | nil => simp [hhandler, hrequests] at h
    | cons r rest =>
      simp only [hhandler, hrequests, Option.some.injEq] at h
      exact h ▸ .take s st hst r rest hhandler hrequests
  | lookup r =>
    cases hk : AdsClients.getClientByClientId σ.adsClients st.clientIp with
    | none =>
      simp only [hhandler, hk, Option.some.injEq] at h
      exact h ▸ .unknown s st hst r hhandler hk
    | some k =>
      simp only [hhandler, hk, Option.some.injEq] at h
      exact h ▸ .lookup s st hst r hhandler k hk
  | assign r k =>
    by_cases heq : r.versionInfo = some (k.ackVersions.get r.type)
    · simp only [hhandler, heq, if_true, Option.some.injEq] at h
      exact h ▸ .withhold s st hst r k hhandler heq
    · simp only [hhandler, heq, if_false, Option.some.injEq] at h
      exact h ▸ .accept s st hst r k hhandler heq
  | read r k =>
    cases hu : σ.adsChannels r.type (gatewayOf st.envoy) with
    | none =>
      simp only [hhandler, hu, Option.some.injEq] at h
      exact h ▸ .absent s st hst r k hhandler hu
    | some u =>
      simp only [hhandler, hu, Option.some.injEq] at h
      refine h ▸ .found s st hst r k hhandler u hu _ ?_
      split
      · next hnil => exact .inr (by rw [hnil])
      · exact .inl rfl
  | restore r k resources =>
    simp only [hhandler, Option.some.injEq] at h
    exact h ▸ .restore s st hst r k resources hhandler
  | respond r k resources =>
    simp only [hhandler, Option.some.injEq] at h
    exact h ▸ .respond s st hst r k resources hhandler
  | ended => simp [hhandler] at h

theorem currentStream_eq_some {c : EnvoyId} {p : StreamId × Stream ρ} :
    σ.currentStream c = some p ↔ (σ.envoys c).stream = some p.1 ∧ σ.streams p.1 = some p.2 := by
  simp only [State.currentStream, Option.bind_eq_some_iff, Option.map_eq_some_iff]
  constructor
  · rintro ⟨s, hs, st, hst, rfl⟩
    exact ⟨hs, hst⟩
  · rintro ⟨hs, hst⟩
    exact ⟨p.1, hs, p.2, hst, rfl⟩

/-- **Every step is one of the moves.** -/
theorem move_of_step (h : σ.step gatewayOf a = some σ') : Move gatewayOf σ a σ' := by
  cases a with
  | changed g clusters listeners deployed =>
    simp only [State.step, Option.isNone_iff_eq_none, Option.ite_none_right_eq_some,
      Option.some.injEq] at h
    exact h.2 ▸ .changed g clusters listeners deployed h.1
  | deleted g =>
    simp only [State.step, Option.ite_none_right_eq_some, Option.some.injEq] at h
    exact h.2 ▸ .deleted g
  | deployer =>
    simp only [State.step, Option.map_eq_some_iff] at h
    obtain ⟨e, he, rfl⟩ := h
    exact .queue e he
  | service => exact move_of_serviceStep h
  | handler s =>
    simp only [State.step, Option.bind_eq_some_iff] at h
    obtain ⟨st, hst, h⟩ := h
    exact move_of_handlerStep hst h
  | close s =>
    simp only [State.step, Option.bind_eq_some_iff, Option.ite_none_right_eq_some,
      Option.some.injEq] at h
    obtain ⟨st, hst, ⟨hclosed, hidle⟩, rfl⟩ := h
    refine .close s st hst hclosed ?_
    cases hhandler : st.handler with
    | idle => rfl
    | _ => simp [hhandler] at hidle
  | connect c addr =>
    simp only [State.step, Option.ite_none_right_eq_some, Option.some.injEq] at h
    exact h.2 ▸ .connect c addr h.1
  | disconnect c =>
    simp only [State.step, Option.map_eq_some_iff] at h
    obtain ⟨⟨s, st⟩, hc, rfl⟩ := h
    obtain ⟨hs, hst⟩ := currentStream_eq_some.1 hc
    exact .disconnect c s hs st hst
  | request c t =>
    simp only [State.step, Option.map_eq_some_iff] at h
    obtain ⟨⟨s, st⟩, hc, rfl⟩ := h
    obtain ⟨hs, hst⟩ := currentStream_eq_some.1 hc
    exact .request c t s hs st hst
  | receive c =>
    simp only [State.step, Option.bind_eq_some_iff] at h
    obtain ⟨⟨s, st⟩, hc, h⟩ := h
    obtain ⟨hs, hst⟩ := currentStream_eq_some.1 hc
    cases hresponses : st.responses with
    | nil => simp [hresponses] at h
    | cons r rest =>
      simp only [hresponses, Option.some.injEq] at h
      exact h ▸ .receive c s hs st hst r rest hresponses

end Kubvernor.Xds
