import Kubvernor.Agentgateway.Delivery

/-!
# Gateways do not see each other's resources

Whatever is stored, cached, in flight or held for a gateway was published for it: `OwnItems` says so for
every place an item can be in, with `P t g i` for the items `i` of type `t` that have been published for the
gateway `g`. The tables of the server are kept apart by the gateway ids of their entries; what links an entry
to the stream of its client is the registry.
-/

namespace Kubvernor.Agentgateway

open Lib

variable {β : Type}

section
variable (P : TypeUrl → String → Item β → Prop)

/-- The cached items of an entry are of its gateway; without a gateway there are none. -/
def AdsClient.Own (k : AdsClient β) : Prop := ∀ t, ∀ i ∈ k.items t, ∃ g, k.gatewayId = some g ∧ P t g i

/-- The items of a response on a stream of a gateway. -/
def DeltaDiscoveryResponse.Own (g : String) (r : DeltaDiscoveryResponse β) : Prop :=
  ∀ i ∈ r.resources, ∃ t, r.type = some t ∧ P t g i

/-- The items on a stream: in the handler's copy, in flight and with the client. -/
structure Stream.Own (st : Stream β) : Prop where
  copy : ∀ k, st.handler.copy? = some k → k.Own P
  responses : ∀ r ∈ st.responses, r.Own P st.gateway
  held : ∀ t, ∀ i ∈ st.held t, P t st.gateway i

structure OwnItems (σ : State β) : Prop where
  stored : ∀ g t, ∀ i ∈ σ.stored g t, P t g i
  entries : ∀ k ∈ σ.adsClients ++ σ.service.clients, k.Own P
  updates : ∀ e, e ∈ σ.events ∨ σ.service.action? = some e → ∀ i ∈ e.items, P e.type e.gatewayId i
  streams : ∀ s st, σ.streams s = some st → st.Own P

/-- What is published counts as published. -/
def Publishes : Step β → Prop
  | .changed e => ∀ i ∈ e.items, P e.type e.gatewayId i
  | _ => True

end

variable {P : TypeUrl → String → Item β → Prop} {σ σ' : State β} {a : Step β} {s : StreamId} {st : Stream β}
  {k : AdsClient β} {g : String} {t : TypeUrl}

/-! ## Entries -/

theorem AdsClient.own_new (s : StreamId) (addr : SocketAddr) :
    AdsClient.Own P ({ sender := s, clientId := addr } : AdsClient β) := by
  intro t i hi
  cases t <;> exact absurd hi List.not_mem_nil

theorem AdsClient.Own.setItems {l : List (Item β)} (h : k.Own P) (hg : k.gatewayId = some g)
    (hl : ∀ i ∈ l, P t g i) : (k.setItems t l).Own P := by
  intro t' i hi
  rw [AdsClient.items_setItems] at hi
  rw [AdsClient.gatewayId_setItems]
  split at hi
  · rename_i heq
    exact ⟨g, hg, heq ▸ hl i hi⟩
  · exact h t' i hi

theorem AdsClient.Own.attach (h : k.Own P) (hstored : ∀ g t, ∀ i ∈ σ.stored g t, P t g i) (g : String) :
    (k.attach σ.managed g).Own P := by
  unfold AdsClient.attach
  cases hk : k.gatewayId with
  | some g' => exact h
  | none =>
    -- an entry without a gateway has no items
    have hnone (t : TypeUrl) (i : Item β) : i ∉ k.items t := by
      intro hi
      obtain ⟨g', hg', -⟩ := h t i hi
      cases hk.symm.trans hg'
    cases hm : σ.managed g with
    | none =>
      intro t i hi
      refine absurd ?_ (hnone t i)
      cases t <;> exact hi
    | some m =>
      intro t i hi
      refine ⟨g, rfl, hstored g t i ?_⟩
      rw [State.stored, hm]
      cases t <;> exact hi

theorem own_updateClient {cs : AdsClients β} (hk : k.Own P) (h : ∀ c ∈ cs, c.Own P) :
    ∀ c ∈ AdsClients.updateClient cs k, c.Own P := by
  intro c hc
  rcases Table.mem_modify hc with hc | ⟨c', -, -, rfl⟩
  · exact h c hc
  · intro t i hi
    rw [AdsClient.items_updateFrom] at hi
    exact hk t i hi

/-! ## Streams -/

theorem own_setStream (h : ∀ s st, σ.streams s = some st → st.Own P) (hst : st.Own P) :
    ∀ s' st', (σ.setStream s st).streams s' = some st' → st'.Own P := by
  intro s' st' hst'
  by_cases hs : s' = s
  · subst hs
    obtain rfl : st = st' := by simpa [State.setStream] using hst'
    exact hst
  · exact h s' st' (by simpa [State.setStream, hs] using hst')

theorem Stream.Own.push {r : DeltaDiscoveryResponse β} (h : st.Own P) (hr : r.Own P st.gateway) :
    (st.push r).Own P where
  copy := h.copy
  responses r' hr' := by
    rcases List.mem_append.1 hr' with hr' | hr'
    · exact h.responses r' hr'
    · exact List.mem_singleton.1 hr' ▸ hr
  held := h.held

theorem own_push {r : DeltaDiscoveryResponse β} (h : ∀ s st, σ.streams s = some st → st.Own P)
    (hr : ∀ st, σ.streams s = some st → r.Own P st.gateway) :
    ∀ s' st', (σ.push s r).streams s' = some st' → st'.Own P := by
  intro s' st' hst'
  by_cases hs : s' = s
  · subst hs
    simp only [State.push, Function.update_self, Option.map_eq_some_iff] at hst'
    obtain ⟨st, hst, rfl⟩ := hst'
    exact (h s' st hst).push (hr st hst)
  · exact h s' st' (by simpa [State.push, hs] using hst')

/-- The handler is somewhere else with its stream; nothing has been sent. -/
theorem Stream.Own.goOn (h : st.Own P) (handler : Handler β) (requests : List DeltaDiscoveryRequest)
    (hcopy : ∀ k, handler.copy? = some k → k.Own P) :
    ({ st with handler := handler, requests := requests } : Stream β).Own P where
  copy := hcopy
  responses := h.responses
  held := h.held

theorem Stream.Own.receive {r : DeltaDiscoveryResponse β} {rest : List (DeltaDiscoveryResponse β)} (h : st.Own P)
    (hresponses : st.responses = r :: rest) :
    ({ st with responses := rest, held := fun t => r.apply t (st.held t) } : Stream β).Own P where
  copy := h.copy
  responses r' hr' := h.responses r' (hresponses ▸ List.mem_cons_of_mem r hr')
  held t i hi := by
    have hr := h.responses r (hresponses ▸ List.mem_cons_self)
    simp only [DeltaDiscoveryResponse.apply] at hi
    split at hi
    · rename_i htype
      rcases mem_holdAll hi with hi | hi
      · exact h.held t i (List.mem_filter.1 hi).1
      · obtain ⟨t', ht', hP⟩ := hr i hi
        obtain rfl : t = t' := Option.some.inj (htype.symm.trans ht')
        exact hP
    · exact h.held t i hi

/-! ## The moves -/

theorem OwnItems.entry (h : OwnItems P σ) : ∀ k ∈ σ.adsClients, k.Own P :=
  fun k hk => h.entries k (List.mem_append_left _ hk)

theorem OwnItems.client (h : OwnItems P σ) : ∀ k ∈ σ.service.clients, k.Own P :=
  fun k hk => h.entries k (List.mem_append_right _ hk)

theorem OwnItems.init : OwnItems P ({} : State β) where
  stored _ t := by cases t <;> exact fun _ h => absurd h List.not_mem_nil
  entries _ h := absurd h List.not_mem_nil
  updates _ h := by rcases h with h | h <;> cases h
  streams _ _ h := by cases h

/-- A handler goes on with its own stream. -/
theorem OwnItems.setStream (h : OwnItems P σ) (hst : st.Own P) : OwnItems P (σ.setStream s st) where
  stored := h.stored
  entries := h.entries
  updates := h.updates
  streams := own_setStream h.streams hst

/-- The service goes on with the clients it has, and with its update. -/
theorem OwnItems.service (h : OwnItems P σ) (hstored : ∀ g t, ∀ i ∈ σ'.stored g t, P t g i)
    (hentries : ∀ k ∈ σ'.adsClients, k.Own P) (hstreams : ∀ s st, σ'.streams s = some st → st.Own P)
    (hclients : σ'.service.clients.Sublist σ.service.clients) (hevents : σ'.events = σ.events)
    (haction : ∀ e, σ'.service.action? = some e → σ.service.action? = some e) : OwnItems P σ' where
  stored := hstored
  entries k hk := by
    rcases List.mem_append.1 hk with hk | hk
    · exact hentries k hk
    · exact h.client k (hclients.subset hk)
  updates e he := by
    refine h.updates e ?_
    rw [hevents] at he
    exact he.imp id (haction e)
  streams := hstreams

theorem OwnItems.stored_updateManaged (h : OwnItems P σ) {e : ServerAction β}
    (he : ∀ i ∈ e.items, P e.type e.gatewayId i) :
    ∀ g t, ∀ i ∈ (σ.updateManaged e.gatewayId e.type e.items).stored g t, P t g i := by
  intro g t i hi
  rw [State.stored_updateManaged] at hi
  split at hi
  · rename_i heq
    rw [heq.1, heq.2]
    exact he i hi
  · exact h.stored g t i hi

theorem mem_toAdd [DecidableEq β] {cached new : List (Item β)} {i : Item β}
    (h : i ∈ (Delta.between cached new).toAdd) : i ∈ new := (List.mem_filter.1 h).1

section
variable [DecidableEq β]

/-- **Every item stays with its gateway.** -/
theorem Move.own (hmove : Move σ a σ') (h : OwnItems P σ) (hlisting : Listing σ) (hregistry : Registry σ)
    (hok : Publishes P a) : OwnItems P σ' := by
  cases hmove with
  | changed e =>
    refine ⟨h.stored, h.entries, fun e' he' => ?_, h.streams⟩
    rcases he' with he' | he'
    · rcases List.mem_append.1 he' with he' | he'
      · exact h.updates e' (.inl he')
      · exact List.mem_singleton.1 he' ▸ hok
    · exact h.updates e' (.inr he')
  | recv e rest hservice hevents =>
    refine ⟨h.stored, fun k hk => h.entry k (by simpa [Service.clients] using hk), fun e' he' => ?_, h.streams⟩
    refine h.updates e' (.inl ?_)
    rw [hevents]
    rcases he' with he' | he'
    · exact List.mem_cons_of_mem _ he'
    · obtain rfl : e = e' := by simpa [Service.action?] using he'
      exact List.mem_cons_self
  | list e hservice =>
    refine ⟨h.stored, fun k hk => ?_, fun e' he' => h.updates e' ?_, h.streams⟩
    · rcases List.mem_append.1 hk with hk | hk
      · exact h.entry k hk
      · exact h.entry k (List.mem_filter.1 hk).1
    · rw [hservice]
      exact he'
  | manage e clients hservice =>
    have he := h.updates e (.inr (by rw [hservice]; rfl))
    refine h.service (h.stored_updateManaged he) h.entry h.streams ?_ rfl fun e' he' => ?_
    · show (Service.next e clients).clients.Sublist _
      rw [hservice, Service.clients_next]
      exact List.Sublist.refl _
    · rw [Service.action?_next e clients he', hservice]
      rfl
  | remove e k todo hservice =>
    have hnothing (st : Stream β) : DeltaDiscoveryResponse.Own P st.gateway
        ⟨some e.type, [], (Delta.between (k.items e.type) e.items).removed e.type⟩ :=
      fun i hi => absurd hi List.not_mem_nil
    refine h.service h.stored h.entry (own_push h.streams fun st _ => hnothing st) ?_ rfl fun e' he' => ?_
    · show (Service.afterRemoving e k todo).clients.Sublist _
      rw [hservice, Service.clients_afterRemoving]
      exact List.Sublist.refl _
    · obtain rfl : e = e' := Option.some.inj ((Service.action?_afterRemoving e k todo).symm.trans he')
      rw [hservice]
      rfl
  | store e k todo hservice =>
    have he := h.updates e (.inr (by rw [hservice]; rfl))
    have hk : k ∈ σ.service.clients := by simp [hservice, Service.clients]
    have hg : k.gatewayId = some e.gatewayId := hlisting.gatewayId e (by rw [hservice]; rfl) k hk
    have hown : (k.setItems e.type e.items).Own P := (h.client k hk).setItems hg he
    rw [State.updateClientAndItems_of_gateway ((AdsClient.gatewayId_setItems _ _ _).trans hg)]
    refine h.service (h.stored_updateManaged he) (own_updateClient hown h.entry) h.streams ?_ rfl
      fun e' he' => ?_
    · rw [hservice]
      exact Service.clients_afterUpdating e k todo
    · rw [Service.action?_afterUpdating e k todo he', hservice]
      rfl
  | add e k todo hservice =>
    have he := h.updates e (.inr (by rw [hservice]; rfl))
    have hk : k ∈ σ.service.clients := by simp [hservice, Service.clients]
    -- the stream of a client of the service is of the gateway of the update
    have hgateway := hlisting.gateway e (by rw [hservice]; rfl) k hk
    have hresponse (st : Stream β) (hst : σ.streams k.sender = some st) : DeltaDiscoveryResponse.Own P st.gateway
        ⟨some e.type, (Delta.between (k.items e.type) e.items).toAdd, []⟩ := by
      obtain heq : st.gateway = e.gatewayId :=
        Option.some.inj ((State.gateway_of_stream hst).symm.trans hgateway)
      exact fun i hi => ⟨e.type, rfl, heq ▸ he i (mem_toAdd hi)⟩
    refine h.service h.stored h.entry (own_push h.streams hresponse) ?_ rfl fun e' he' => ?_
    · rw [hservice]
      exact Service.clients_afterAdding e k todo
    · rw [Service.action?_afterAdding e k todo he', hservice]
      rfl
  | takeAck s st hst | take s st hst | unknown s st hst | lookupFails s st hst =>
    exact h.setStream ((h.streams s st hst).goOn _ _ (by simp [Handler.copy?]))
  | lookup s st hst t hlookup k hk =>
    refine h.setStream ((h.streams s st hst).goOn _ _ fun k' hk' => ?_)
    obtain rfl : k = k' := by simpa [Handler.copy?] using hk'
    exact h.entry k (Table.mem_of_find hk).1
  | attach s st hst t k hawait =>
    refine h.setStream ((h.streams s st hst).goOn _ _ fun k' hk' => ?_)
    obtain rfl : k.attach σ.managed st.gateway = k' := by simpa [Handler.copy?] using hk'
    exact ((h.streams s st hst).copy k (by rw [hawait]; rfl)).attach h.stored st.gateway
  | update s st hst t k hupdate =>
    have hst' := h.streams s st hst
    have hk : k.Own P := hst'.copy k (by rw [hupdate]; rfl)
    have hgo := hst'.goOn (.respond t k) st.requests fun k' hk' => by
      obtain rfl : k = k' := by simpa [Handler.copy?] using hk'
      exact hk
    refine ⟨h.stored, fun k' hk' => ?_, h.updates, own_setStream h.streams hgo⟩
    rcases List.mem_append.1 hk' with hk' | hk'
    · exact own_updateClient hk h.entry k' hk'
    · exact h.client k' hk'
  | respond s st hst t k hrespond =>
    have hst' := h.streams s st hst
    have hcopy := hregistry.copies s st hst
    rw [Stream.CopyFits, hrespond] at hcopy
    refine h.setStream ((hst'.goOn .idle st.requests (by simp [Handler.copy?])).push fun i hi => ?_)
    cases t with
    | none => exact absurd hi List.not_mem_nil
    | some t =>
      obtain ⟨g, hg, hP⟩ := hst'.copy k (by rw [hrespond]; rfl) t i hi
      obtain rfl : st.gateway = g := Option.some.inj (hcopy.2.symm.trans hg)
      exact ⟨t, rfl, hP⟩
  | close s st hst hidle =>
    have hgo := (h.streams s st hst).goOn .ended st.requests (by simp [Handler.copy?])
    refine ⟨h.stored, fun k hk => ?_, h.updates, own_setStream h.streams hgo⟩
    rcases List.mem_append.1 hk with hk | hk
    · exact h.entry k (Table.mem_remove.1 hk).1
    · exact h.client k hk
  | connect addr g =>
    refine ⟨h.stored, fun k hk => ?_, h.updates, own_setStream h.streams ?_⟩
    · rcases List.mem_append.1 hk with hk | hk
      · rcases Table.mem_modifyOrAdd hk with hk | rfl | ⟨-, -, rfl⟩
        · exact h.entry k hk
        · exact AdsClient.own_new _ _
        · exact AdsClient.own_new _ _
      · exact h.client k hk
    · constructor
      · exact fun k hk => by cases hk
      · exact fun r hr => absurd hr List.not_mem_nil
      · exact fun t i hi => absurd hi List.not_mem_nil
  | request s st hst r =>
    have hst' := h.streams s st hst
    exact h.setStream ⟨hst'.copy, hst'.responses, hst'.held⟩
  | receive s st hst r rest hresponses => exact h.setStream ((h.streams s st hst).receive hresponses)

/-- The registry, the listing and the items, along a run. -/
theorem ownItems_of_run {as : List (Step β)}
    (hok : server.Along (fun σ a => NewAddress σ a ∧ Publishes P a) server.init as)
    (hrun : server.run server.init as = some σ) : OwnItems P σ := by
  have hstep : ∀ (σ : State β) a σ', Registry σ ∧ Listing σ ∧ OwnItems P σ → NewAddress σ a ∧ Publishes P a →
      server.step σ a = some σ' → Registry σ' ∧ Listing σ' ∧ OwnItems P σ' := by
    intro σ a σ' h hok hstep
    obtain ⟨hregistry, hlisting, hown⟩ := h
    have hmove := move_of_step hstep
    exact ⟨hmove.registry hregistry hlisting hok.1, hmove.listing hlisting hregistry hok.1,
      hmove.own hown hlisting hregistry hok.2⟩
  exact (System.inv_run hstep ⟨Invariant.init.registry, Invariant.init.listing, OwnItems.init⟩ hok hrun).2.2

/-- The item was published for the gateway in the run. -/
def Published (as : List (Step β)) (t : TypeUrl) (g : String) (i : Item β) : Prop :=
  ∃ e, Step.changed e ∈ as ∧ e.type = t ∧ e.gatewayId = g ∧ i ∈ e.items

omit [DecidableEq β] in
theorem publishes_published {as : List (Step β)} : ∀ a ∈ as, Publishes (Published as) a := by
  intro a ha
  cases a with
  | changed e => exact fun i hi => ⟨e, ha, rfl, rfl, hi⟩
  | _ => trivial

/-- **Gateways do not see each other's resources.** Whatever a client of a gateway holds as an item of a
type, and whatever is on its way to it, has been published for that gateway as an item of that type, however
the steps interleave; provided that no stream comes from an address that another one still has. -/
theorem gateways_isolated {as : List (Step β)} (hok : server.Along NewAddress server.init as)
    (hrun : server.run server.init as = some σ) (hst : σ.streams s = some st) :
    (∀ t, ∀ i ∈ st.held t, Published as t st.gateway i) ∧
      ∀ r ∈ st.responses, ∀ i ∈ r.resources, ∃ t, r.type = some t ∧ Published as t st.gateway i := by
  have hown := ownItems_of_run (hok.and_forall publishes_published) hrun
  exact ⟨(hown.streams s st hst).held, (hown.streams s st hst).responses⟩

end

section
variable (σ : State β)

instance (a : Step β) : Decidable (NewAddress σ a) :=
  match a with
  | .connect addr _ =>
    inferInstanceAs (Decidable (∀ k ∈ σ.adsClients ++ σ.service.clients, k.clientId ≠ addr))
  | .changed _ | .lookupFails _ | .handler _ | .service | .close _ | .request .. | .receive _ => .isTrue trivial

end

/-- Two gateways have a route of the same name each, and the second one's client asks for its resources. -/
def twoGatewaysRun : List (Step String) :=
  .changed ⟨.resource, "gateway.edge", [route "c"]⟩ :: List.replicate 3 .service ++
    .changed ⟨.resource, "gateway.infra", [route "d"]⟩ :: List.replicate 3 .service ++ askSteps 5 ++
      [.receive 0]

theorem twoGatewaysRun_isolated : ∃ σ st, server.run server.init twoGatewaysRun = some σ ∧
    σ.streams 0 = some st ∧ st.gateway = "gateway.infra" ∧ st.held .resource = [route "d"] ∧
      Published twoGatewaysRun .resource "gateway.infra" (route "d") := by
  have h : (server.run server.init twoGatewaysRun).map (fun σ =>
      (σ.streams 0).map (fun st => (st.gateway, st.held .resource))) =
        some (some ("gateway.infra", [route "d"])) := by decide +kernel
  obtain ⟨σ, hrun, h⟩ := Option.map_eq_some_iff.1 h
  obtain ⟨st, hst, h⟩ := Option.map_eq_some_iff.1 h
  obtain ⟨hgateway, hheld⟩ := Prod.mk.inj h
  have hown := (gateways_isolated (by decide +kernel) hrun hst).1 .resource (route "d")
    (hheld ▸ List.mem_singleton_self _)
  exact ⟨σ, st, hrun, hst, hgateway, hheld, hgateway ▸ hown⟩

end Kubvernor.Agentgateway
