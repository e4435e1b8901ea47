import Kubvernor.Agentgateway.View

/-!
# The moves of a subscription

Every move of the delta server changes the subscription of a live stream by steps of a `Subscription`, as
long as it is orderly: a handler writes back what its client's entry has anyway, and sends nothing that is
gone for good.
-/

namespace Kubvernor.Agentgateway

open Lib

variable {β : Type}

/-! ## Orderly steps -/

/-- Two lists of the same items. -/
def SameItems (l l' : List (Item β)) : Prop := (∀ i ∈ l, i ∈ l') ∧ ∀ i ∈ l', i ∈ l

section
variable [DecidableEq β] (σ : State β)

/-- A handler writes its client back with what is in the entry, or for a client without a gateway with
what its gateway has. -/
def WritesCurrent (st : Stream β) (k : AdsClient β) : Prop :=
  ∀ c ∈ AdsClients.getClientByClientId σ.adsClients st.clientIp, ∀ t ∈ [TypeUrl.resource, .address],
    SameItems (k.items t) (if c.gatewayId.isSome then c.items t else σ.upcoming t st.gateway)

/-- A handler sends what the gateway has, and else what the service is still to remove or replace. -/
def SendsCurrent (s : StreamId) (st : Stream β) (t : TypeUrl) (k : AdsClient β) : Prop :=
  ∀ i ∈ k.items t, i ∈ σ.upcoming t st.gateway ∨ i.name ∈ σ.service.owed s t

/-- A handler is up to date in what it writes and in what it sends. -/
def UpToDate (s : StreamId) (st : Stream β) : Handler β → Prop
  | .update _ k => WritesCurrent σ st k
  | .respond (some t) k => SendsCurrent σ s st t k
  | _ => True

/-- A new stream has an address of its own, an update names its items, no lookup of a Pod fails, and the
handlers are up to date. -/
def Orderly : Step β → Prop
  | .connect addr g => NewAddress σ (.connect addr g)
  | .changed e => Named e.items
  | .lookupFails _ => False
  | .handler s => ∀ st ∈ σ.streams s, UpToDate σ s st st.handler
  | _ => True

end

variable {σ σ' : State β} {a : Step β} {s : StreamId} {st : Stream β} {t : TypeUrl}

theorem sameItems_iff {l l' : List (Item β)} : SameItems l l' ↔ elems l = elems l' := by
  constructor
  · rintro ⟨h, h'⟩
    exact Set.Subset.antisymm h h'
  · intro h
    exact ⟨fun i hi => h.subset hi, fun i hi => h.superset hi⟩

/-- A subscription that comes from one of before by its steps, or is sound as it is. -/
def Follows (σ : State β) (s : StreamId) (t : TypeUrl) (v : Subscription (Item β)) : Prop :=
  v.Sound Item.name ∨ ∃ st, σ.streams s = some st ∧ st.handler ≠ .ended ∧
    Relation.ReflTransGen (Subscription.Step Item.name) (σ.subscription s st t) v

theorem Follows.same (hst : σ.streams s = some st) (hlive : st.handler ≠ .ended)
    {v : Subscription (Item β)} (h : v = σ.subscription s st t) : Follows σ s t v :=
  .inr ⟨st, hst, hlive, h ▸ .refl⟩

theorem Follows.step (hst : σ.streams s = some st) (hlive : st.handler ≠ .ended)
    {v v' : Subscription (Item β)} (h : (σ.subscription s st t).Step Item.name v') (hv : v = v') :
    Follows σ s t v :=
  .inr ⟨st, hst, hlive, hv ▸ .single h⟩

theorem streams_setStream_of_ne {s' : StreamId} {st' : Stream β} (hs : s ≠ s') :
    (σ.setStream s' st').streams s = σ.streams s := by
  simp [State.setStream, hs]

theorem eq_of_streams_setStream {st' : Stream β} (h : (σ.setStream s st').streams s = some st) :
    st = st' := by
  simpa [State.setStream] using h.symm

/-! ## The handler's moves -/

theorem same_take (st : Stream β) {t' : Option TypeUrl} {rest : List DeltaDiscoveryRequest}
    (hidle : st.handler = .idle) (hrequests : st.requests = .subscribe t' :: rest) :
    σ.subscription s { st with requests := rest, handler := .lookup t' } t = σ.subscription s st t := by
  have hwaiting : (decide (DeltaDiscoveryRequest.subscribe (some t) ∈ rest) || decide (t' = some t)) =
      decide (DeltaDiscoveryRequest.subscribe (some t) ∈ DeltaDiscoveryRequest.subscribe t' :: rest) := by
    rw [← Bool.decide_or, decide_eq_decide, List.mem_cons, DeltaDiscoveryRequest.subscribe.injEq, or_comm,
      eq_comm (a := t')]
  simp [State.subscription, hidle, hrequests, Handler.waiting, Handler.ready, hwaiting]

theorem same_takeAck (st : Stream β) {rest : List DeltaDiscoveryRequest} (hidle : st.handler = .idle)
    (hrequests : st.requests = .ack :: rest) :
    σ.subscription s { st with requests := rest, handler := .idle } t = σ.subscription s st t := by
  simp [State.subscription, hidle, hrequests]

/-- What the handler writes back is what the entry has, or what the gateway has. -/
theorem follows_update (h : Registry σ) (hlisting : Listing σ) (hst : σ.streams s = some st)
    {t' : Option TypeUrl} {k : AdsClient β} (hupdate : st.handler = .update t' k)
    (hok : WritesCurrent σ st k) :
    Follows σ s t (State.subscription { σ with adsClients := AdsClients.updateClient σ.adsClients k } s
      { st with handler := .respond t' k } t) := by
  have hlive : st.handler ≠ .ended := by simp [hupdate]
  obtain ⟨c, -, hc, -⟩ := h.exists_client hst hlive
  have hcopy := h.copies s st hst
  rw [Stream.CopyFits, hupdate] at hcopy
  have hsame := sameItems_iff.1 (hok c (by simp [hc]) t (by cases t <;> simp))
  rw [subscription_updateClient h hst hlive hcopy.1 hcopy.2 { st with handler := .respond t' k } rfl]
  -- the client is registered with what it has, or with what its gateway has
  have hregistered : Relation.ReflTransGen (Subscription.Step Item.name) (σ.subscription s st t)
      { σ.subscription s st t with registered := true, cached := elems (k.items t) } := by
    cases hg : c.gatewayId with
    | some g =>
      have heq : { σ.subscription s st t with registered := true, cached := elems (k.items t) } =
          σ.subscription s st t := by
        simp only [hg, Option.isSome_some, if_true] at hsame
        simp [State.subscription, hc, hg, hsame]
      rw [heq]
    | none =>
      simp only [hg, Option.isSome_none, Bool.false_eq_true, if_false] at hsame
      rw [hsame, ← goal_subscription hlisting hst]
      exact .single (.register (by simp [State.subscription, hc, hg]))
  refine .inr ⟨st, hst, hlive, ?_⟩
  by_cases ht : t' = some t
  · refine hregistered.tail ?_
    have hprepare : Subscription.Step Item.name
        { σ.subscription s st t with registered := true, cached := elems (k.items t) } _ :=
      .prepare rfl (decide (DeltaDiscoveryRequest.subscribe (some t) ∈ st.requests))
    convert hprepare using 1
    simp [State.subscription, Handler.ready, Handler.waiting, ht]
  · convert hregistered using 1
    simp [State.subscription, hupdate, Handler.ready, Handler.waiting, ht]

section
variable [DecidableEq β]

theorem follows_respond (hlisting : Listing σ) (hstored : Stored σ) (hnamed : AllNamed σ)
    (hst : σ.streams s = some st) {t' : Option TypeUrl} {k : AdsClient β}
    (hrespond : st.handler = .respond t' k) (hok : UpToDate σ s st (.respond t' k)) :
    Follows σ s t (σ.subscription s
      { st with handler := .idle, responses := st.responses ++ [⟨t', k.itemsOf t', []⟩] } t) := by
  have hlive : st.handler ≠ .ended := by simp [hrespond]
  have hk : k.Named := hnamed.copies s st k hst (by rw [hrespond]; rfl)
  by_cases ht : t' = some t
  · subst ht
    refine .step hst hlive (.snapshot (elems (k.items t)) ?_ fun i hi => ?_) ?_
    · simp [State.subscription, hrespond, Handler.ready]
    · rw [goal_subscription hlisting hst]
      exact (hok i hi).imp id fun h => mem_owed hlisting hstored hnamed hst h
    · simp [State.subscription, Handler.ready, Handler.waiting, hrespond, delivered_append,
        AdsClient.itemsOf, elems_apply_added _ (hk t).injOn]
  · refine .same hst hlive ?_
    simp [State.subscription, Handler.ready, Handler.waiting, hrespond, delivered_append,
      apply_of_ne, ht]

end

theorem same_handler (st : Stream β) {handler : Handler β} (hwaiting : handler.waiting t = st.handler.waiting t)
    (hready : handler.ready t = st.handler.ready t) :
    σ.subscription s { st with handler := handler } t = σ.subscription s st t := by
  simp only [State.subscription, hwaiting, hready]

section
variable [DecidableEq β]

theorem Move.follows_handler {s' : StreamId} (hmove : Move σ (.handler s') σ') (h : Registry σ)
    (hlisting : Listing σ) (hstored : Stored σ) (hnamed : AllNamed σ) (hok : Orderly σ (.handler s'))
    (hst : σ'.streams s = some st) (hlive : st.handler ≠ .ended) :
    Follows σ s t (σ'.subscription s st t) := by
  by_cases hs : s = s'
  · subst hs
    cases hmove with
    | takeAck _ st' hst' rest hidle hrequests =>
      obtain rfl := eq_of_streams_setStream hst
      exact .same hst' (by simp [hidle]) (same_takeAck st' hidle hrequests)
    | take _ st' hst' t' rest hidle hrequests =>
      obtain rfl := eq_of_streams_setStream hst
      exact .same hst' (by simp [hidle]) (same_take st' hidle hrequests)
    | unknown _ st' hst' t' hlookup hnone =>
      obtain ⟨k, -, hk, -⟩ := h.exists_client hst' (by simp [hlookup])
      rw [hnone] at hk
      simp at hk
    | lookup _ st' hst' t' hlookup k hk =>
      obtain rfl := eq_of_streams_setStream hst
      exact .same hst' (by simp [hlookup]) (same_handler st' (by rw [hlookup]; rfl) (by rw [hlookup]; rfl))
    | attach _ st' hst' t' k hawait =>
      obtain rfl := eq_of_streams_setStream hst
      exact .same hst' (by simp [hawait]) (same_handler st' (by rw [hawait]; rfl) (by rw [hawait]; rfl))
    | update _ st' hst' t' k hupdate =>
      obtain rfl := eq_of_streams_setStream hst
      have hcurrent := hok st' hst'
      rw [hupdate] at hcurrent
      exact follows_update h hlisting hst' hupdate hcurrent
    | respond _ st' hst' t' k hrespond =>
      obtain rfl := eq_of_streams_setStream hst
      have hcurrent := hok st' hst'
      rw [hrespond] at hcurrent
      exact follows_respond hlisting hstored hnamed hst' hrespond hcurrent
  · cases hmove with
    | takeAck _ st' hst' | take _ st' hst' | unknown _ st' hst' | lookup _ st' hst' | attach _ st' hst'
    | respond _ st' hst' =>
      rw [streams_setStream_of_ne hs] at hst
      exact .same hst hlive rfl
    | update _ st' hst' t' k hupdate =>
      have hst : σ.streams s = some st := (streams_setStream_of_ne hs).symm.trans hst
      refine .same hst hlive (subscription_congr rfl rfl ?_)
      exact getClientByClientId_update_of_ne h hst hlive hst' hupdate hs

end

/-! ## The service's moves -/

theorem follows_list (h : Registry σ) (hnamed : AllNamed σ) (hst : σ.streams s = some st)
    (hlive : st.handler ≠ .ended) {e : ServerAction β} (hservice : σ.service = .received e) :
    Follows σ s t (State.subscription
      { σ with service := .listed e (AdsClients.getClientsByGatewayId σ.adsClients e.gatewayId) } s st t) := by
  obtain ⟨c, hmem, hc, hsender, hgateway⟩ := h.exists_client hst hlive
  have hclient := h.clientOf_gateway hmem hsender e.gatewayId
  have he : Named e.items := hnamed.updates e (.inr (by rw [hservice]; rfl))
  have hidle : (σ.subscription s st t).work = .idle := by simp [State.subscription, hservice, Service.work]
  by_cases hg : c.gatewayId = some e.gatewayId
  · rw [if_pos hg] at hclient
    have hregistered : (σ.subscription s st t).registered = true := by simp [State.subscription, hc, hg]
    have hcached : (σ.subscription s st t).cached = elems (c.items t) := by simp [State.subscription, hc]
    by_cases ht : e.type = t
    · refine .step hst hlive (.list hidle (elems e.items) he.injOn (some (elems (c.items t))) ?_)
        (subscription_eq rfl ?_ rfl)
      · rw [hregistered, hcached, if_pos rfl]
      · simp [Service.work, hclient, ht]
    · refine .step hst hlive (.stepAside hidle hregistered) (subscription_eq rfl ?_ rfl)
      simp [Service.work, hclient, ht, hcached]
  · rw [if_neg hg] at hclient
    by_cases hkey : e.type = t ∧ e.gatewayId = st.gateway
    · have hnone : c.gatewayId = none := by
        cases hcg : c.gatewayId with
        | none => rfl
        | some g => exact absurd (by rw [hcg, hgateway g hcg, hkey.2]) hg
      refine .step hst hlive (.list hidle (elems e.items) he.injOn none ?_) (subscription_eq rfl ?_ rfl)
      · simp [State.subscription, hc, hnone]
      · simp only [Service.work, hclient, if_pos hkey]
    · refine .same hst hlive (subscription_congr rfl ?_ rfl)
      simp [Service.work, hclient, hkey, hservice]

theorem follows_manage (hlisting : Listing σ) (hst : σ.streams s = some st) (hlive : st.handler ≠ .ended)
    {e : ServerAction β} {clients : List (AdsClient β)} (hservice : σ.service = .listed e clients) :
    Follows σ s t (State.subscription
      { σ.updateManaged e.gatewayId e.type e.items with service := .next e clients } s st t) := by
  have hstored : State.stored { σ.updateManaged e.gatewayId e.type e.items with
      service := .next e clients } st.gateway t =
      if st.gateway = e.gatewayId ∧ t = e.type then e.items else σ.stored st.gateway t :=
    State.stored_updateManaged e.gatewayId st.gateway e.type t e.items
  have hwork := Service.work_next (s := s) (t := t) e clients st.gateway
  cases hk : clientOf clients s with
  | none =>
    rw [hk] at hwork
    by_cases hkey : e.type = t ∧ e.gatewayId = st.gateway
    · refine .step hst hlive (.manage (elems e.items) none ?_) (subscription_eq ?_ hwork rfl)
      · simp [State.subscription, hservice, Service.work, hk, hkey]
      · rw [hstored, if_pos ⟨hkey.2.symm, hkey.1.symm⟩]
    · have hne : ¬ (st.gateway = e.gatewayId ∧ t = e.type) := fun h => hkey ⟨h.2.symm, h.1.symm⟩
      refine .same hst hlive (subscription_congr (by rw [hstored, if_neg hne]) (hwork.trans ?_) rfl)
      simp [hservice, Service.work, hk, hkey]
  | some k =>
    rw [hk] at hwork
    have hg := hlisting.gateway_eq hst (by rw [hservice]; rfl) (by rw [hservice]; exact hk)
    by_cases ht : e.type = t
    · refine .step hst hlive (.manage (elems e.items) (some (elems (k.items t))) ?_)
        (subscription_eq ?_ (hwork.trans ?_) rfl)
      · simp [State.subscription, hservice, Service.work, hk, ht]
      · rw [hstored, if_pos ⟨hg, ht.symm⟩]
      · simp [ServerAction.work, ht]
    · have hne : ¬ (st.gateway = e.gatewayId ∧ t = e.type) := fun h => ht h.2.symm
      refine .same hst hlive (subscription_congr (by rw [hstored, if_neg hne]) (hwork.trans ?_) rfl)
      simp [hservice, Service.work, hk, ht, ServerAction.work]

section
variable {e : ServerAction β} {k : AdsClient β} {todo : List (AdsClient β)}

theorem follows_remove [DecidableEq β] (hlisting : Listing σ) (hstored : Stored σ) (hnamed : AllNamed σ)
    (hst : σ.streams k.sender = some st) (hlive : st.handler ≠ .ended)
    (hservice : σ.service = .removing e k todo) :
    Follows σ k.sender t (State.subscription { σ with service := .afterRemoving e k todo } k.sender
      { st with responses := st.responses ++
          [⟨some e.type, [], (Delta.between (k.items e.type) e.items).removed e.type⟩] } t) := by
  have hk : clientOf σ.service.clients k.sender = some k := by
    rw [hservice]
    exact clientOf_self k todo
  have hknamed : k.Named := hnamed.entries k (List.mem_append_right _ (List.mem_of_find?_eq_some hk))
  have henamed : Named e.items := hnamed.updates e (.inr (by rw [hservice]; rfl))
  have hbefore : (σ.subscription k.sender st t).work = e.work t k := by
    rw [State.subscription, hservice]
    exact Service.work_removing e k st.gateway
  have hafter : (Service.afterRemoving e k todo).work k.sender t st.gateway = _ :=
    Service.work_afterRemoving e k st.gateway
  rw [subscription_push]
  by_cases ht : e.type = t
  · subst ht
    obtain ⟨M, hM, hremoved⟩ := mem_removed (hknamed e.type) henamed e.type
    have htarget := target_of_clientOf hlisting hstored hst (by rw [hservice]; rfl) hk
    rw [if_pos rfl] at hafter
    rw [subscription_eq rfl hafter rfl, elems_apply_removed, hremoved, ← htarget]
    rw [← htarget] at hM
    rw [ServerAction.work, if_pos rfl] at hbefore
    exact .step hst hlive (.remove (elems (k.items e.type)) hbefore M hM) rfl
  · have hne : some e.type ≠ some t := fun h => ht (Option.some.inj h)
    rw [if_neg ht] at hafter
    rw [ServerAction.work, if_neg ht] at hbefore
    rw [apply_of_ne hne, subscription_eq rfl hafter rfl, ← hbefore]
    exact .same hst hlive rfl

theorem follows_store (h : Registry σ) (hlisting : Listing σ) (hstored : Stored σ)
    (hsound : (σ.subscription k.sender st t).Sound Item.name) (hst : σ.streams k.sender = some st)
    (hlive : st.handler ≠ .ended) (hservice : σ.service = .updating e k todo) :
    Follows σ k.sender t (State.subscription
      { σ.updateClientAndItems (k.setItems e.type e.items) e.type e.items with
        service := .afterUpdating e k todo } k.sender st t) := by
  have hclients : σ.service.clients = k :: todo := by rw [hservice]; rfl
  have hmem : k ∈ σ.service.clients := by simp [hclients]
  have hg : (k.setItems e.type e.items).gatewayId = some e.gatewayId :=
    (AdsClient.gatewayId_setItems _ _ _).trans (hlisting.gatewayId e (by rw [hservice]; rfl) k hmem)
  have hip := hlisting.served.session k hmem
  rw [State.address, State.lines_of_stream hst] at hip
  have hip : st.clientIp = k.clientId := Option.some.inj hip
  have hbefore : (σ.subscription k.sender st t).work = e.workUpdating t k := by
    simp [State.subscription, hservice, Service.work]
  have hafter := Service.work_afterUpdating (t := t) e k st.gateway (hlisting.clientOf_todo hclients)
  -- the client is registered, since the service is at work for it
  have hregistered : (σ.subscription k.sender st t).registered = true := by
    obtain ⟨hidle, hplanned⟩ := ServerAction.workUpdating_ne (e := e) k t
    exact hsound.registered_of_work (by rw [hbefore]; exact hidle) fun new => by rw [hbefore]; exact hplanned new
  have hwrite : State.subscription { σ.updateClientAndItems (k.setItems e.type e.items) e.type e.items with
      service := .afterUpdating e k todo } k.sender st t = { σ.subscription k.sender st t with
        work := if e.type = .resource then e.workAdding t k else .idle, registered := true,
        cached := elems ((k.setItems e.type e.items).items t) } := by
    refine subscription_write h hst hlive (by rw [AdsClient.clientId_setItems, hip]) hg
      (hstored.updateClientAndItems hlisting hservice) hafter ?_
    show (σ.updateClientAndItems (k.setItems e.type e.items) e.type e.items).adsClients = _
    rw [State.updateClientAndItems_of_gateway hg]
    rfl
  rw [hwrite, ← hregistered, AdsClient.items_setItems]
  by_cases ht : e.type = t
  · subst ht
    have htarget := target_of_clientOf hlisting hstored hst (by rw [hservice]; rfl)
      (show clientOf σ.service.clients k.sender = some k by rw [hclients]; exact clientOf_self k todo)
    rw [if_pos rfl, ← htarget]
    cases hty : e.type with
    | resource =>
      simp only [hty, ServerAction.workUpdating, ServerAction.workAdding] at hbefore ⊢
      exact .step hst hlive (.store (elems (k.items .resource)) hbefore) rfl
    | address =>
      simp only [hty, ServerAction.workUpdating] at hbefore ⊢
      exact .step hst hlive (.storeLast (elems (k.items .address)) hbefore) rfl
  · obtain ⟨haside, hidle, -⟩ := ServerAction.work_of_ne k ht
    rw [haside] at hbefore
    rw [hidle, if_neg fun h => ht h.symm]
    exact .step hst hlive (.restore (elems (k.items t)) hbefore) rfl

theorem follows_add [DecidableEq β] (hlisting : Listing σ) (hstored : Stored σ) (hnamed : AllNamed σ)
    (hst : σ.streams k.sender = some st) (hlive : st.handler ≠ .ended)
    (hservice : σ.service = .adding e k todo) :
    Follows σ k.sender t (State.subscription { σ with service := .afterAdding e k todo } k.sender
      { st with responses := st.responses ++
          [⟨some e.type, (Delta.between (k.items e.type) e.items).toAdd, []⟩] } t) := by
  have hclients : σ.service.clients = k :: todo := by rw [hservice]; rfl
  have henamed : Named e.items := hnamed.updates e (.inr (by rw [hservice]; rfl))
  have hbefore : (σ.subscription k.sender st t).work = e.workAdding t k := by
    simp [State.subscription, hservice, Service.work]
  have hafter := Service.work_afterAdding (t := t) e k st.gateway (hlisting.clientOf_todo hclients)
  rw [subscription_push, subscription_eq rfl hafter rfl]
  by_cases ht : e.type = t
  · subst ht
    have htarget := target_of_clientOf hlisting hstored hst (by rw [hservice]; rfl)
      (show clientOf σ.service.clients k.sender = some k by rw [hclients]; exact clientOf_self k todo)
    have hinj : Set.InjOn Item.name (elems (Delta.between (k.items e.type) e.items).toAdd) := by
      rw [elems_toAdd]
      exact henamed.injOn.mono Set.sdiff_subset
    rw [elems_apply_added _ hinj, elems_toAdd, ← htarget]
    cases hty : e.type with
    | resource =>
      simp only [hty, ServerAction.workAdding] at hbefore ⊢
      exact .step hst hlive (.addLast (elems (k.items .resource)) hbefore) rfl
    | address =>
      simp only [hty, ServerAction.workAdding, ServerAction.workUpdating] at hbefore ⊢
      exact .step hst hlive (.add (elems (k.items .address)) hbefore) rfl
  · have hne : some e.type ≠ some t := fun h => ht (Option.some.inj h)
    obtain ⟨-, -, hsame⟩ := ServerAction.work_of_ne k ht
    rw [apply_of_ne hne, hsame, ← hbefore]
    exact .same hst hlive rfl

end

section
variable [DecidableEq β]

theorem Move.follows_service (hmove : Move σ .service σ') (h : Registry σ) (hlisting : Listing σ)
    (hstored : Stored σ) (hnamed : AllNamed σ)
    (hsound : ∀ s st, σ.streams s = some st → st.handler ≠ .ended → (σ.subscription s st t).Sound Item.name)
    (hst : σ'.streams s = some st) (hlive : st.handler ≠ .ended) :
    Follows σ s t (σ'.subscription s st t) := by
  cases hmove with
  | recv e rest hservice hevents =>
    have hst : σ.streams s = some st := hst
    refine .same hst hlive (subscription_congr rfl ?_ rfl)
    simp [hservice, Service.work]
  | list e hservice => exact follows_list h hnamed hst hlive hservice
  | manage e clients hservice => exact follows_manage hlisting hst hlive hservice
  | remove e k todo hservice =>
    by_cases hk : k.sender = s
    · subst hk
      simp only [State.push, Function.update_self, Option.map_eq_some_iff] at hst
      obtain ⟨st, hst, rfl⟩ := hst
      exact follows_remove hlisting hstored hnamed hst hlive hservice
    · have hs : s ≠ k.sender := fun h => hk h.symm
      have hst : σ.streams s = some st := by simpa [State.push, hs] using hst
      refine .same hst hlive (subscription_congr rfl ?_ rfl)
      rw [hservice]
      exact (Service.work_after_of_ne e todo st.gateway hk).1.trans
        (Service.work_of_ne e todo st.gateway hk).1.symm
  | store e k todo hservice =>
    have hclients : σ.service.clients = k :: todo := by rw [hservice]; rfl
    have hg : (k.setItems e.type e.items).gatewayId = some e.gatewayId :=
      (AdsClient.gatewayId_setItems _ _ _).trans
        (hlisting.gatewayId e (by rw [hservice]; rfl) k (by simp [hclients]))
    have hst : σ.streams s = some st := by
      have hstreams : (σ.updateClientAndItems (k.setItems e.type e.items) e.type e.items).streams =
          σ.streams := by
        rw [State.updateClientAndItems_of_gateway hg]
        rfl
      exact (congrFun hstreams s).symm.trans hst
    by_cases hk : k.sender = s
    · subst hk
      exact follows_store h hlisting hstored (hsound _ st hst hlive) hst hlive hservice
    · refine .same hst hlive (subscription_congr ?_ ?_ ?_)
      · exact congrFun (congrFun (hstored.updateClientAndItems hlisting hservice) st.gateway) t
      · rw [hservice]
        exact (Service.work_after_of_ne e todo st.gateway hk).2.1.trans
          (Service.work_of_ne e todo st.gateway hk).2.1.symm
      · -- the client of another stream has another address
        obtain ⟨c, hc, hfind, hsender, -⟩ := h.exists_client hst hlive
        have hip : st.clientIp ≠ (k.setItems e.type e.items).clientId := by
          rw [AdsClient.clientId_setItems]
          intro heq
          refine hk (Eq.trans ?_ hsender)
          exact (hlisting.served.entry k (by simp [hclients]) c hc ((Table.mem_of_find hfind).2.trans heq)).symm
        rw [State.updateClientAndItems_of_gateway hg]
        exact (getClientByClientId_updateClient _ _ _).trans (if_neg hip)
  | add e k todo hservice =>
    by_cases hk : k.sender = s
    · subst hk
      simp only [State.push, Function.update_self, Option.map_eq_some_iff] at hst
      obtain ⟨st, hst, rfl⟩ := hst
      exact follows_add hlisting hstored hnamed hst hlive hservice
    · have hs : s ≠ k.sender := fun h => hk h.symm
      have hst : σ.streams s = some st := by simpa [State.push, hs] using hst
      refine .same hst hlive (subscription_congr rfl ?_ rfl)
      rw [hservice]
      exact (Service.work_after_of_ne e todo st.gateway hk).2.2.trans
        (Service.work_of_ne e todo st.gateway hk).2.2.symm

end

/-! ## The clients' moves -/

theorem follows_request (hst : σ.streams s = some st) (hlive : st.handler ≠ .ended)
    (r : DeltaDiscoveryRequest) :
    Follows σ s t (σ.subscription s
      { st with
        requests := st.requests ++ [r]
        asked :=
          match r with
          | .subscribe (some t) => Function.update st.asked t true
          | .subscribe none | .ack => st.asked } t) := by
  by_cases hr : r = .subscribe (some t)
  · subst hr
    refine .step hst hlive .request ?_
    simp [State.subscription]
  · refine .same hst hlive ?_
    have hrequests : decide (DeltaDiscoveryRequest.subscribe (some t) ∈ st.requests ++ [r]) =
        decide (DeltaDiscoveryRequest.subscribe (some t) ∈ st.requests) := by
      rw [decide_eq_decide, List.mem_append, List.mem_singleton, or_iff_left fun h => hr h.symm]
    simp only [State.subscription, hrequests]
    split
    · next t' =>
      have hne : t ≠ t' := fun h => hr (by rw [h])
      rw [Function.update_of_ne hne]
    · rfl
    · rfl

theorem same_receive {r : DeltaDiscoveryResponse β} {rest : List (DeltaDiscoveryResponse β)}
    (hresponses : st.responses = r :: rest) :
    σ.subscription s { st with responses := rest, held := fun t => r.apply t (st.held t) } t =
      σ.subscription s st t := by
  simp [State.subscription, hresponses, delivered]

/-- A new client is added to the table. -/
theorem getClientByClientId_connect {addr : SocketAddr} {g : String}
    (hnew : NewAddress σ (.connect addr g)) (ip : SocketAddr) :
    AdsClients.getClientByClientId (σ.connect addr g).adsClients ip =
      (AdsClients.getClientByClientId σ.adsClients ip).or
        (if addr = ip then some { sender := σ.nextStream, clientId := addr } else none) := by
  have hclients : (σ.connect addr g).adsClients =
      σ.adsClients ++ [{ sender := σ.nextStream, clientId := addr }] :=
    Table.modifyOrAdd_of_new fun k hk => hnew k (by simp [hk])
  rw [hclients]
  exact Table.find_append

/-- The service has nothing to do for a stream that none of its clients has. -/
theorem Service.work_of_forall_ne {service : Service β} (h : ∀ k ∈ service.clients, k.sender ≠ s)
    (g : String) : service.work s t g = .idle ∨
      ∃ e, service.action? = some e ∧ service.work s t g = .planned (elems e.items) none := by
  have hnone : clientOf service.clients s = none := by
    rw [clientOf, List.find?_eq_none]
    intro k hk
    simpa using h k hk
  cases service with
  | idle | received e => exact .inl rfl
  | listed e clients =>
    rw [Service.clients] at hnone
    by_cases hkey : e.type = t ∧ e.gatewayId = g
    · exact .inr ⟨e, rfl, by simp [Service.work, hnone, hkey]⟩
    · exact .inl (by simp [Service.work, hnone, hkey])
  | removing e k todo =>
    rw [Service.clients] at hnone
    exact .inl (by simp [Service.work, hnone])
  | updating e k todo | adding e k todo =>
    have hk : k.sender ≠ s := h k (by simp [Service.clients])
    rw [Service.clients, clientOf_cons, if_neg hk] at hnone
    exact .inl (by simp [Service.work, hnone, hk])

theorem sound_connect {addr : SocketAddr} {g : String} (h : Registry σ) (hlisting : Listing σ)
    (hnamed : AllNamed σ) (hnew : NewAddress σ (.connect addr g)) :
    ((σ.connect addr g).subscription σ.nextStream { clientIp := addr, gateway := g } t).Sound Item.name := by
  have hne : ∀ k ∈ σ.service.clients, k.sender ≠ σ.nextStream :=
    fun k hk => Nat.ne_of_lt (State.lt_of_address h.numbered (hlisting.served.session k hk))
  have hwork := Service.work_of_forall_ne (t := t) hne g
  have hnone : AdsClients.getClientByClientId σ.adsClients addr = none := by
    refine List.find?_eq_none.2 fun k hk => ?_
    simpa using hnew k (by simp [hk])
  have htarget : Set.InjOn Item.name (elems (σ.stored g t)) := (hnamed.stored g t).injOn
  refine .new ⟨htarget, ?_⟩ ?_ rfl elems_nil rfl ?_
  · rcases hwork with hwork | ⟨e, he, hwork⟩
    · have hgoal : ((σ.connect addr g).subscription σ.nextStream { clientIp := addr, gateway := g } t).goal =
          elems (σ.stored g t) := by
        simp only [Subscription.goal, State.subscription, State.connect, State.setStream, hwork]
        rfl
      exact hgoal ▸ htarget
    · have hgoal : ((σ.connect addr g).subscription σ.nextStream { clientIp := addr, gateway := g } t).goal =
          elems e.items := by
        simp only [Subscription.goal, State.subscription, State.connect, State.setStream, hwork]
      exact hgoal ▸ (hnamed.updates e (.inr he)).injOn
  · simp [State.subscription, getClientByClientId_connect hnew, hnone]
  · rcases hwork with hwork | ⟨e, -, hwork⟩
    · exact .inl hwork
    · exact .inr ⟨elems e.items, hwork⟩

theorem follows_connect {addr : SocketAddr} {g : String} (h : Registry σ) (hlisting : Listing σ)
    (hnamed : AllNamed σ) (hnew : NewAddress σ (.connect addr g))
    (hst : (σ.connect addr g).streams s = some st) (hlive : st.handler ≠ .ended) :
    Follows σ s t ((σ.connect addr g).subscription s st t) := by
  by_cases hs : s = σ.nextStream
  · subst hs
    obtain rfl := eq_of_streams_setStream hst
    exact .inl (sound_connect h hlisting hnamed hnew)
  · have hst : σ.streams s = some st := (streams_setStream_of_ne hs).symm.trans hst
    obtain ⟨k, -, hk, -⟩ := h.exists_client hst hlive
    refine .same hst hlive (subscription_congr rfl rfl ?_)
    rw [getClientByClientId_connect hnew, hk, Option.some_or]

/-! ## All moves -/

section
variable [DecidableEq β]

theorem Move.follows (hmove : Move σ a σ') (h : Registry σ) (hlisting : Listing σ) (hstored : Stored σ)
    (hnamed : AllNamed σ) (hok : Orderly σ a)
    (hsound : ∀ s st t, σ.streams s = some st → st.handler ≠ .ended →
      (σ.subscription s st t).Sound Item.name)
    (hst : σ'.streams s = some st) (hlive : st.handler ≠ .ended) :
    Follows σ s t (σ'.subscription s st t) := by
  cases a with
  | service =>
    exact hmove.follows_service h hlisting hstored hnamed (fun s st => hsound s st t) hst hlive
  | handler s' => exact hmove.follows_handler h hlisting hstored hnamed hok hst hlive
  | lookupFails s' => exact absurd hok not_false
  | changed e =>
    cases hmove with
    | changed =>
      have hst : σ.streams s = some st := hst
      exact .same hst hlive rfl
  | close s' =>
    cases hmove with
    | close _ st' hst' hidle =>
      by_cases hs : s = s'
      · subst hs
        obtain rfl := eq_of_streams_setStream hst
        simp at hlive
      · have hst : σ.streams s = some st := (streams_setStream_of_ne hs).symm.trans hst
        refine .same hst hlive (subscription_congr rfl rfl ?_)
        exact Table.find_remove (h.clientIp_ne hst hlive hst' (by simp [hidle]) hs)
  | connect addr g =>
    cases hmove with
    | connect => exact follows_connect h hlisting hnamed hok hst hlive
  | request s' r =>
    cases hmove with
    | request _ st' hst' =>
      by_cases hs : s = s'
      · subst hs
        obtain rfl := eq_of_streams_setStream hst
        exact follows_request hst' hlive r
      · have hst : σ.streams s = some st := (streams_setStream_of_ne hs).symm.trans hst
        exact .same hst hlive rfl
  | receive s' =>
    cases hmove with
    | receive _ st' hst' r rest hresponses =>
      by_cases hs : s = s'
      · subst hs
        obtain rfl := eq_of_streams_setStream hst
        exact .same hst' hlive (same_receive hresponses)
      · have hst : σ.streams s = some st := (streams_setStream_of_ne hs).symm.trans hst
        exact .same hst hlive rfl

end

end Kubvernor.Agentgateway
