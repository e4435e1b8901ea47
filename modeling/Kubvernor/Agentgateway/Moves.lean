import Kubvernor.Agentgateway.AggregateServer

/-!
# The moves of the delta server and its clients

`Move` lists what can happen, one constructor for each way a step can go, and `move_of_step` inverts
the step function into it. Every invariant of the server is a case analysis over these constructors.
-/

namespace Kubvernor.Agentgateway

variable {β : Type} [DecidableEq β]

/-- What a step does, and the state after it. -/
inductive Move (σ : State β) : Step β → State β → Prop
  | changed (e : ServerAction β) : Move σ (.changed e) (σ.change e)
  | recv (e : ServerAction β) (rest : List (ServerAction β)) (hservice : σ.service = .idle)
      (hevents : σ.events = e :: rest) :
      Move σ .service { σ with events := rest, service := .received e }
  | list (e : ServerAction β) (hservice : σ.service = .received e) :
      Move σ .service { σ with
        service := .listed e (AdsClients.getClientsByGatewayId σ.adsClients e.gatewayId) }
  | manage (e : ServerAction β) (clients : List (AdsClient β)) (hservice : σ.service = .listed e clients) :
      Move σ .service { σ.updateManaged e.gatewayId e.type e.items with service := .next e clients }
  | remove (e : ServerAction β) (k : AdsClient β) (todo : List (AdsClient β))
      (hservice : σ.service = .removing e k todo) :
      Move σ .service
        { σ.push k.sender ⟨some e.type, [], (Delta.between (k.items e.type) e.items).removed e.type⟩ with
          service := .afterRemoving e k todo }
  | store (e : ServerAction β) (k : AdsClient β) (todo : List (AdsClient β))
      (hservice : σ.service = .updating e k todo) :
      Move σ .service { σ.updateClientAndItems (k.setItems e.type e.items) e.type e.items with
        service := .afterUpdating e k todo }
  | add (e : ServerAction β) (k : AdsClient β) (todo : List (AdsClient β))
      (hservice : σ.service = .adding e k todo) :
      Move σ .service
        { σ.push k.sender ⟨some e.type, (Delta.between (k.items e.type) e.items).toAdd, []⟩ with
          service := .afterAdding e k todo }
  | takeAck (s : StreamId) (st : Stream β) (hst : σ.streams s = some st)
      (rest : List DeltaDiscoveryRequest) (hidle : st.handler = .idle)
      (hrequests : st.requests = .ack :: rest) :
      Move σ (.handler s) (σ.setStream s { st with requests := rest, handler := .idle })
  | take (s : StreamId) (st : Stream β) (hst : σ.streams s = some st) (t : Option TypeUrl)
      (rest : List DeltaDiscoveryRequest) (hidle : st.handler = .idle)
      (hrequests : st.requests = .subscribe t :: rest) :
      Move σ (.handler s) (σ.setStream s { st with requests := rest, handler := .lookup t })
  | unknown (s : StreamId) (st : Stream β) (hst : σ.streams s = some st) (t : Option TypeUrl)
      (hlookup : st.handler = .lookup t)
      (hnone : AdsClients.getClientByClientId σ.adsClients st.clientIp = none) :
      Move σ (.handler s) (σ.setStream s { st with handler := .idle })
  | lookup (s : StreamId) (st : Stream β) (hst : σ.streams s = some st) (t : Option TypeUrl)
      (hlookup : st.handler = .lookup t) (k : AdsClient β)
      (hk : AdsClients.getClientByClientId σ.adsClients st.clientIp = some k) :
      Move σ (.handler s) (σ.setStream s { st with handler := .await t k })
  | attach (s : StreamId) (st : Stream β) (hst : σ.streams s = some st) (t : Option TypeUrl) (k : AdsClient β)
      (hawait : st.handler = .await t k) :
      Move σ (.handler s)
        (σ.setStream s { st with handler := .update t (k.attach σ.managed st.gateway) })
  | update (s : StreamId) (st : Stream β) (hst : σ.streams s = some st) (t : Option TypeUrl) (k : AdsClient β)
      (hupdate : st.handler = .update t k) :
      Move σ (.handler s) { σ.setStream s { st with handler := .respond t k } with
        adsClients := AdsClients.updateClient σ.adsClients k }
  | respond (s : StreamId) (st : Stream β) (hst : σ.streams s = some st) (t : Option TypeUrl) (k : AdsClient β)
      (hrespond : st.handler = .respond t k) :
      Move σ (.handler s) (σ.setStream s ({ st with handler := .idle }.push ⟨t, k.itemsOf t, []⟩))
  | lookupFails (s : StreamId) (st : Stream β) (hst : σ.streams s = some st) (t : Option TypeUrl)
      (k : AdsClient β) (hawait : st.handler = .await t k) :
      Move σ (.lookupFails s) (σ.setStream s { st with handler := .idle })
  | close (s : StreamId) (st : Stream β) (hst : σ.streams s = some st) (hidle : st.handler = .idle) :
      Move σ (.close s) { σ.setStream s { st with handler := .ended } with
        adsClients := AdsClients.removeClient σ.adsClients st.clientIp }
  | connect (addr : SocketAddr) (g : String) : Move σ (.connect addr g) (σ.connect addr g)
  | request (s : StreamId) (st : Stream β) (hst : σ.streams s = some st) (r : DeltaDiscoveryRequest) :
      Move σ (.request s r) (σ.request s st r)
  | receive (s : StreamId) (st : Stream β) (hst : σ.streams s = some st) (r : DeltaDiscoveryResponse β)
      (rest : List (DeltaDiscoveryResponse β)) (hresponses : st.responses = r :: rest) :
      Move σ (.receive s) (σ.receive s st r rest)

variable {σ σ' : State β} {a : Step β}

theorem move_of_serviceStep (h : σ.serviceStep = some σ') : Move σ .service σ' := by
  unfold State.serviceStep at h
  cases hservice : σ.service with
  | idle =>
    cases hevents : σ.events with
    | nil => simp [hservice, hevents] at h
    | cons e rest =>
      simp only [hservice, hevents, Option.some.injEq] at h
      exact h ▸ .recv e rest hservice hevents
  | received e =>
    simp only [hservice, Option.some.injEq] at h
    exact h ▸ .list e hservice
  | listed e clients =>
    simp only [hservice, Option.some.injEq] at h
    exact h ▸ .manage e clients hservice
  | removing e k todo =>
    simp only [hservice, Option.some.injEq] at h
    exact h ▸ .remove e k todo hservice
  | updating e k todo =>
    simp only [hservice, Option.some.injEq] at h
    exact h ▸ .store e k todo hservice
  | adding e k todo =>
    simp only [hservice, Option.some.injEq] at h
    exact h ▸ .add e k todo hservice

theorem move_of_handlerStep {s : StreamId} {st : Stream β} (hst : σ.streams s = some st)
    (h : σ.handlerStep s st = some σ') : Move σ (.handler s) σ' := by
  unfold State.handlerStep at h
  cases hhandler : st.handler with
  | idle =>
    cases hrequests : st.requests with
    | nil => simp [hhandler, hrequests] at h
    | cons r rest =>
      cases r with
      | ack =>
        simp only [hhandler, hrequests, Option.some.injEq] at h
        exact h ▸ .takeAck s st hst rest hhandler hrequests
      | subscribe t =>
        simp only [hhandler, hrequests, Option.some.injEq] at h
        exact h ▸ .take s st hst t rest hhandler hrequests
  | lookup t =>
    cases hk : AdsClients.getClientByClientId σ.adsClients st.clientIp with
    | none =>
      simp only [hhandler, hk, Option.some.injEq] at h
      exact h ▸ .unknown s st hst t hhandler hk
    | some k =>
      simp only [hhandler, hk, Option.some.injEq] at h
      exact h ▸ .lookup s st hst t hhandler k hk
  | await t k =>
    simp only [hhandler, Option.some.injEq] at h
    exact h ▸ .attach s st hst t k hhandler
  | update t k =>
    simp only [hhandler, Option.some.injEq] at h
    exact h ▸ .update s st hst t k hhandler
  | respond t k =>
    simp only [hhandler, Option.some.injEq] at h
    exact h ▸ .respond s st hst t k hhandler
  | ended => simp [hhandler] at h

/-- **Every step is one of the moves.** -/
theorem move_of_step (h : σ.step a = some σ') : Move σ a σ' := by
  cases a with
  | changed e =>
    obtain rfl := Option.some.inj h
    exact .changed e
  | service => exact move_of_serviceStep h
  | handler s =>
    simp only [State.step, Option.bind_eq_some_iff] at h
    obtain ⟨st, hst, h⟩ := h
    exact move_of_handlerStep hst h
  | lookupFails s =>
    simp only [State.step, Option.bind_eq_some_iff, Option.ite_none_right_eq_some,
      Option.some.injEq] at h
    obtain ⟨st, hst, hawait, rfl⟩ := h
    cases hhandler : st.handler with
    | await t k => exact .lookupFails s st hst t k hhandler
    | _ => simp [hhandler] at hawait
  | close s =>
    simp only [State.step, Option.bind_eq_some_iff, Option.ite_none_right_eq_some,
      Option.some.injEq] at h
    obtain ⟨st, hst, hidle, rfl⟩ := h
    refine .close s st hst ?_
    cases hhandler : st.handler with
    | idle => rfl
    | _ => simp [hhandler] at hidle
  | connect addr g =>
    obtain rfl := Option.some.inj h
    exact .connect addr g
  | request s r =>
    simp only [State.step, Option.map_eq_some_iff] at h
    obtain ⟨st, hst, rfl⟩ := h
    exact .request s st hst r
  | receive s =>
    simp only [State.step, Option.bind_eq_some_iff] at h
    obtain ⟨st, hst, h⟩ := h
    cases hresponses : st.responses with
    | nil => simp [hresponses] at h
    | cons r rest =>
      simp only [hresponses, Option.some.injEq] at h
      exact h ▸ .receive s st hst r rest hresponses

end Kubvernor.Agentgateway
