import Kubvernor.Agentgateway.Stored
import Kubvernor.Agentgateway.Subscription

/-!
# The subscription of a stream

What the tables and the tasks of the delta server know of one type of items of one stream, as a
`Subscription`: where the service is with the stream's client, which names it is still to send, and what
the client holds once it has received what is in flight. The lemmas here say what becomes of it when
a part of the state changes.
-/

namespace Kubvernor.Agentgateway

open Lib

variable {β : Type}

/-! ## Subscriptions -/

/-- Among some clients, the one of the stream. -/
def clientOf (ks : List (AdsClient β)) (s : StreamId) : Option (AdsClient β) := ks.find? (·.sender = s)

/-- What the service is to do for a client it comes to later. -/
def ServerAction.work (e : ServerAction β) (t : TypeUrl) (k : AdsClient β) : Work (Item β) :=
  if e.type = t then .owed (elems (k.items t)) else .aside (elems (k.items t))

/-- What the service is to do for the client it is at, when it writes the client next. -/
def ServerAction.workUpdating (e : ServerAction β) (t : TypeUrl) (k : AdsClient β) : Work (Item β) :=
  if e.type ≠ t then .aside (elems (k.items t))
  else
    match t with
    | .resource => .half (elems (k.items .resource))
    | .address => .kept (elems (k.items .address))

/-- And when it sends the new items next. -/
def ServerAction.workAdding (e : ServerAction β) (t : TypeUrl) (k : AdsClient β) : Work (Item β) :=
  match e.type, t with
  | .resource, .resource => .tail (elems (k.items .resource))
  | .resource, .address => .idle
  | .address, .resource => .aside (elems (k.items .resource))
  | .address, .address => .half (elems (k.items .address))

/-- Where the service is, for the client of a stream of the gateway `g` and a type. -/
def Service.work (s : StreamId) (t : TypeUrl) (g : String) : Service β → Work (Item β)
  | .idle | .received _ => .idle
  | .listed e clients =>
    match clientOf clients s with
    | some k =>
      if e.type = t then .planned (elems e.items) (some (elems (k.items t))) else .aside (elems (k.items t))
    | none => if e.type = t ∧ e.gatewayId = g then .planned (elems e.items) none else .idle
  | .removing e k todo => (clientOf (k :: todo) s).elim .idle (e.work t)
  | .updating e k todo =>
    if k.sender = s then e.workUpdating t k else (clientOf todo s).elim .idle (e.work t)
  | .adding e k todo =>
    if k.sender = s then e.workAdding t k else (clientOf todo s).elim .idle (e.work t)

/-- The names in the messages the service is still to send on a stream. -/
def Service.owed [DecidableEq β] (s : StreamId) (t : TypeUrl) : Service β → List String
  | .idle | .received _ => []
  | .listed e clients => if e.type = t then (clientOf clients s).elim [] (both e) else []
  | .removing e k todo => if e.type = t then (clientOf (k :: todo) s).elim [] (both e) else []
  | .updating e k todo =>
    if e.type ≠ t then []
    else if k.sender ≠ s then (clientOf todo s).elim [] (both e)
    else
      match t with
      | .resource => added e k
      | .address => []
  | .adding e k todo =>
    if e.type ≠ t then [] else if k.sender ≠ s then (clientOf todo s).elim [] (both e) else added e k
where
  added (e : ServerAction β) (k : AdsClient β) : List String :=
    (Delta.between (k.items e.type) e.items).toAdd.map Item.name
  both (e : ServerAction β) (k : AdsClient β) : List String :=
    (Delta.between (k.items e.type) e.items).toRemove ++ added e k

/-- A request for the type is being answered. -/
def Handler.waiting (t : TypeUrl) : Handler β → Bool
  | .lookup t' | .await t' _ | .update t' _ => t' = some t
  | .idle | .respond .. | .ended => false

/-- The snapshot the handler sends next. -/
def Handler.ready (t : TypeUrl) : Handler β → Option (Set (Item β))
  | .respond t' k => if t' = some t then some (elems (k.items t)) else none
  | .idle | .lookup _ | .await .. | .update .. | .ended => none

/-- What a client holds once it has received the responses. -/
def delivered (t : TypeUrl) (responses : List (DeltaDiscoveryResponse β)) (held : List (Item β)) :
    List (Item β) :=
  responses.foldl (fun l r => r.apply t l) held

namespace State

variable (σ : State β)

/-- The items of a type that a gateway has once the service has stored what it is about to. -/
def upcoming (t : TypeUrl) (g : String) : List (Item β) :=
  match σ.service with
  | .listed e _ => if e.type = t ∧ e.gatewayId = g then e.items else σ.stored g t
  | _ => σ.stored g t

def subscription (s : StreamId) (st : Stream β) (t : TypeUrl) : Subscription (Item β) :=
  let client := AdsClients.getClientByClientId σ.adsClients st.clientIp
  { target := elems (σ.stored st.gateway t)
    work := σ.service.work s t st.gateway
    registered := client.any (·.gatewayId.isSome)
    cached := client.elim ∅ fun k => elems (k.items t)
    ready := st.handler.ready t
    final := elems (delivered t st.responses (st.held t))
    waiting := decide (.subscribe (some t) ∈ st.requests) || st.handler.waiting t
    asked := st.asked t }

end State

variable {σ σ' : State β} {s : StreamId} {st : Stream β} {t : TypeUrl}

/-! ## Deltas and messages -/

section
variable [DecidableEq β] {cached new : List (Item β)}

theorem elems_toAdd : elems (Delta.between cached new).toAdd = elems new \ elems cached := by
  ext i
  simp only [elems, Delta.between, difference, Set.mem_ofPred_eq, List.mem_filter, Set.mem_sdiff,
    decide_eq_true_eq]

theorem mem_toRemove (hcached : Named cached) (hnew : Named new) {n : String} :
    n ∈ (Delta.between cached new).toRemove ↔ n ∈ gone Item.name (elems cached) (elems new) := by
  simp only [Delta.between, difference, List.mem_filter, decide_eq_true_eq, hcached.mem_names,
    hnew.mem_names]
  rfl

/-- The names of the first message are those that are gone, and some of what is added. -/
theorem mem_removed (hcached : Named cached) (hnew : Named new) (t : TypeUrl) :
    ∃ M ⊆ Item.name '' (elems new \ elems cached),
      {n | n ∈ (Delta.between cached new).removed t} = gone Item.name (elems cached) (elems new) ∪ M := by
  cases t with
  | resource =>
    have hadd : Named (Delta.between cached new).toAdd :=
      ⟨fun i hi => hnew.named i (List.mem_filter.1 hi).1,
        fun i hi j hj => hnew.inj i (List.mem_filter.1 hi).1 j (List.mem_filter.1 hj).1⟩
    refine ⟨{n | n ∈ (Delta.between cached new).toAdd.filterMap Item.name?}, fun n hn => ?_, ?_⟩
    · rw [← elems_toAdd]
      exact hadd.mem_names.1 hn
    · ext n
      simp only [Delta.removed, List.mem_append, Set.mem_ofPred_eq, Set.mem_union,
        mem_toRemove hcached hnew]
  | address =>
    refine ⟨∅, Set.empty_subset _, ?_⟩
    ext n
    simp only [Delta.removed, Set.mem_ofPred_eq, Set.union_empty, mem_toRemove hcached hnew]

end

theorem delivered_append (responses : List (DeltaDiscoveryResponse β)) (r : DeltaDiscoveryResponse β)
    (held : List (Item β)) :
    delivered t (responses ++ [r]) held = r.apply t (delivered t responses held) := by
  rw [delivered, List.foldl_append]
  rfl

theorem apply_of_ne {r : DeltaDiscoveryResponse β} (h : r.type ≠ some t) (held : List (Item β)) :
    r.apply t held = held := if_neg h

theorem elems_apply_removed (held : List (Item β)) (names : List String) :
    elems ((⟨some t, [], names⟩ : DeltaDiscoveryResponse β).apply t held) =
      drop Item.name {n | n ∈ names} (elems held) := by
  rw [DeltaDiscoveryResponse.apply, if_pos rfl]
  exact elems_giveUp

theorem elems_apply_added (held : List (Item β)) {items : List (Item β)}
    (h : Set.InjOn Item.name (elems items)) :
    elems ((⟨some t, items, []⟩ : DeltaDiscoveryResponse β).apply t held) =
      put Item.name (elems items) (elems held) := by
  rw [DeltaDiscoveryResponse.apply, if_pos rfl, elems_holdAll h, elems_giveUp]
  congr 1
  ext i
  simp [drop]

/-! ## Where the service is -/

theorem clientOf_cons (k : AdsClient β) (ks : List (AdsClient β)) (s : StreamId) :
    clientOf (k :: ks) s = if k.sender = s then some k else clientOf ks s := by
  simp only [clientOf, List.find?_cons]
  split <;> simp_all

theorem clientOf_self (k : AdsClient β) (todo : List (AdsClient β)) :
    clientOf (k :: todo) k.sender = some k := by
  rw [clientOf_cons, if_pos rfl]

section
variable (e : ServerAction β) {k : AdsClient β} (todo : List (AdsClient β)) (g : String)

theorem Service.work_next :
    (Service.next e todo).work s t g = (clientOf todo s).elim .idle (e.work t) := by
  cases todo <;> rfl

/-- The service is at a client of another stream. -/
theorem Service.work_of_ne (hk : k.sender ≠ s) :
    (Service.removing e k todo).work s t g = (clientOf todo s).elim .idle (e.work t) ∧
      (Service.updating e k todo).work s t g = (clientOf todo s).elim .idle (e.work t) ∧
      (Service.adding e k todo).work s t g = (clientOf todo s).elim .idle (e.work t) := by
  simp [Service.work, clientOf_cons, hk]

theorem Service.work_after_of_ne (hk : k.sender ≠ s) :
    (Service.afterRemoving e k todo).work s t g = (clientOf todo s).elim .idle (e.work t) ∧
      (Service.afterUpdating e k todo).work s t g = (clientOf todo s).elim .idle (e.work t) ∧
      (Service.afterAdding e k todo).work s t g = (clientOf todo s).elim .idle (e.work t) := by
  obtain ⟨-, hupdating, hadding⟩ := Service.work_of_ne (t := t) e todo g hk
  refine ⟨?_, ?_, ?_⟩
  · unfold Service.afterRemoving
    split
    · exact hupdating
    · exact hadding
  · unfold Service.afterUpdating
    split
    · exact hadding
    · exact Service.work_next e todo g
  · unfold Service.afterAdding
    split
    · exact Service.work_next e todo g
    · exact hupdating

end

/-- Among the clients of a gateway, the one of the stream. -/
theorem Registry.clientOf_gateway (h : Registry σ) {c : AdsClient β} (hc : c ∈ σ.adsClients)
    (hsender : c.sender = s) (g : String) :
    clientOf (AdsClients.getClientsByGatewayId σ.adsClients g) s =
      if c.gatewayId = some g then some c else none := by
  have hmem : ∀ k, k ∈ AdsClients.getClientsByGatewayId σ.adsClients g ↔
      k ∈ σ.adsClients ∧ k.gatewayId = some g := by
    simp [AdsClients.getClientsByGatewayId]
  cases hfind : clientOf (AdsClients.getClientsByGatewayId σ.adsClients g) s with
  | none =>
    rw [if_neg]
    intro hg
    have := List.find?_eq_none.1 hfind c ((hmem c).2 ⟨hc, hg⟩)
    simp [hsender] at this
  | some k =>
    obtain ⟨hk, hg⟩ := (hmem k).1 (List.mem_of_find?_eq_some hfind)
    have hks : k.sender = s := by simpa using List.find?_some hfind
    obtain rfl := h.sessions.eq_of_sender hk hc (hks.trans hsender.symm)
    rw [if_pos hg]

/-- A client of the service for a stream is of the gateway of the stream. -/
theorem Listing.gateway_eq (h : Listing σ) (hst : σ.streams s = some st) {e : ServerAction β}
    (haction : σ.service.action? = some e) {k : AdsClient β} (hk : clientOf σ.service.clients s = some k) :
    st.gateway = e.gatewayId := by
  have hks : k.sender = s := by simpa using List.find?_some hk
  have hgateway := h.gateway e haction k (List.mem_of_find?_eq_some hk)
  rw [hks, State.gateway_of_stream hst] at hgateway
  exact Option.some.inj hgateway

/-- The service has one client for a stream. -/
theorem Listing.clientOf_todo (h : Listing σ) {k : AdsClient β} {todo : List (AdsClient β)}
    (hclients : σ.service.clients = k :: todo) : clientOf todo k.sender = none := by
  have hserved := h.served
  rw [hclients] at hserved
  rw [clientOf, List.find?_eq_none]
  intro k' hk' heq
  exact hserved.sender_ne hk' (of_decide_eq_true heq)

theorem ServerAction.work_ne_planned (e : ServerAction β) (client : Option (AdsClient β))
    (new : Set (Item β)) (base : Option (Set (Item β))) : client.elim .idle (e.work t) ≠ .planned new base := by
  cases client with
  | none => simp
  | some k =>
    simp only [Option.elim_some, ServerAction.work]
    split <;> simp

/-- Once the update is stored nothing is planned. -/
theorem Service.work_ne_planned {service : Service β} (h : service.stored?.isSome) (g : String)
    (new : Set (Item β)) (base : Option (Set (Item β))) : service.work s t g ≠ .planned new base := by
  cases service with
  | idle | received e | listed e clients => simp [Service.stored?] at h
  | removing e k todo => exact e.work_ne_planned _ new base
  | updating e k todo =>
    simp only [Service.work, ServerAction.workUpdating]
    split
    · split
      · simp
      · split <;> simp
    · exact e.work_ne_planned _ new base
  | adding e k todo =>
    simp only [Service.work, ServerAction.workAdding]
    split
    · split <;> simp
    · exact e.work_ne_planned _ new base

/-- The goal of a subscription is what the gateway has once the service has stored its update. -/
theorem goal_subscription (hlisting : Listing σ) (hst : σ.streams s = some st) :
    (σ.subscription s st t).goal = elems (σ.upcoming t st.gateway) := by
  cases hservice : σ.service with
  | idle | received e => simp [Subscription.goal, State.subscription, State.upcoming, hservice, Service.work]
  | listed e clients =>
    cases hk : clientOf clients s with
    | none =>
      by_cases hkey : e.type = t ∧ e.gatewayId = st.gateway
      · simp [Subscription.goal, State.subscription, State.upcoming, hservice, Service.work, hk, hkey]
      · simp [Subscription.goal, State.subscription, State.upcoming, hservice, Service.work, hk, hkey]
    | some k =>
      have hg := hlisting.gateway_eq hst (by rw [hservice]; rfl) (by rw [hservice]; exact hk)
      by_cases ht : e.type = t
      · simp [Subscription.goal, State.subscription, State.upcoming, hservice, Service.work, hk, ht, hg]
      · simp [Subscription.goal, State.subscription, State.upcoming, hservice, Service.work, hk, ht]
  | removing e k todo | updating e k todo | adding e k todo =>
    have hplanned : ∀ new base, σ.service.work s t st.gateway ≠ .planned new base :=
      Service.work_ne_planned (by rw [hservice]; rfl) st.gateway
    have hupcoming : σ.upcoming t st.gateway = σ.stored st.gateway t := by rw [State.upcoming, hservice]
    rw [hupcoming]
    unfold Subscription.goal
    split
    · next new base hwork => exact absurd hwork (hplanned new base)
    · rfl

/-! ## The client the service is at -/

section
variable (e : ServerAction β) (k : AdsClient β) {todo : List (AdsClient β)} (g : String)

theorem Service.work_removing : (Service.removing e k todo).work k.sender t g = e.work t k := by
  simp [Service.work, clientOf_cons]

theorem Service.work_afterRemoving : (Service.afterRemoving e k todo).work k.sender t g =
    if e.type = t then .half (elems (k.items t)) else .aside (elems (k.items t)) := by
  cases ht : e.type <;> cases t <;>
    simp [Service.afterRemoving, Service.work, ServerAction.workUpdating, ServerAction.workAdding, ht]

theorem Service.work_afterUpdating (htodo : clientOf todo k.sender = none) :
    (Service.afterUpdating e k todo).work k.sender t g =
      if e.type = .resource then e.workAdding t k else .idle := by
  unfold Service.afterUpdating
  cases ht : e.type with
  | resource => simp [Service.work]
  | address =>
    rw [Service.work_next, htodo]
    rfl

theorem Service.work_afterAdding (htodo : clientOf todo k.sender = none) :
    (Service.afterAdding e k todo).work k.sender t g =
      if e.type = .resource then .idle else e.workUpdating t k := by
  unfold Service.afterAdding
  cases ht : e.type with
  | resource =>
    rw [Service.work_next, htodo]
    rfl
  | address => simp [Service.work]

variable {e}

theorem ServerAction.workUpdating_ne (t : TypeUrl) :
    e.workUpdating t k ≠ .idle ∧ ∀ new, e.workUpdating t k ≠ .planned new none := by
  unfold ServerAction.workUpdating
  split
  · simp
  · split <;> simp

/-- An update of the other type is aside until the client is written. -/
theorem ServerAction.work_of_ne (ht : e.type ≠ t) :
    e.workUpdating t k = .aside (elems (k.items t)) ∧
      (if e.type = .resource then e.workAdding t k else .idle) = .idle ∧
      (if e.type = .resource then .idle else e.workUpdating t k) = e.workAdding t k := by
  cases hty : e.type <;> cases t <;> simp_all [ServerAction.workUpdating, ServerAction.workAdding]

end

/-! ## The names to come -/

section
variable [DecidableEq β]

theorem mem_added {e : ServerAction β} {k : AdsClient β} {n : String} (hn : n ∈ Service.owed.added e k) :
    n ∈ Item.name '' (elems e.items \ elems (k.items e.type)) := by
  obtain ⟨i, hi, rfl⟩ := List.mem_map.1 hn
  exact ⟨i, elems_toAdd.subset hi, rfl⟩

theorem mem_both {e : ServerAction β} {k : AdsClient β} (hk : k.Named) (he : Named e.items) {n : String}
    (hn : n ∈ Service.owed.both e k) :
    n ∈ gone Item.name (elems (k.items e.type)) (elems e.items) ∨
      n ∈ Item.name '' (elems e.items \ elems (k.items e.type)) :=
  (List.mem_append.1 hn).imp (mem_toRemove (hk e.type) he).1 mem_added

end

section
variable (hlisting : Listing σ) (hstored : Stored σ) (hst : σ.streams s = some st) {e : ServerAction β}
  {k : AdsClient β} (he : σ.service.stored? = some e) (hk : clientOf σ.service.clients s = some k)

include hlisting hstored hst he hk

/-- While the service sends the messages for a client, what it sends is stored for the client's gateway. -/
theorem target_of_clientOf : (σ.subscription s st e.type).target = elems e.items := by
  have haction : σ.service.action? = some e := by
    cases hservice : σ.service <;> simp_all [Service.stored?, Service.action?]
  have hg := hlisting.gateway_eq hst haction hk
  simp only [State.subscription, hg, hstored.stored e he]

variable [DecidableEq β]

theorem mem_both_of_owed (hknamed : k.Named) (henamed : Named e.items)
    (hwork : (σ.subscription s st e.type).work = .owed (elems (k.items e.type))) {n : String}
    (hn : n ∈ Service.owed.both e k) :
    n ∈ (σ.subscription s st e.type).toDrop Item.name ∨
      n ∈ Item.name '' (σ.subscription s st e.type).toAdd := by
  simp only [Subscription.toDrop, Subscription.toAdd, hwork,
    target_of_clientOf hlisting hstored hst he hk]
  exact mem_both hknamed henamed hn

theorem mem_added_of_half
    (hwork : (σ.subscription s st e.type).work = .half (elems (k.items e.type)) ∨
      (σ.subscription s st e.type).work = .tail (elems (k.items e.type))) {n : String}
    (hn : n ∈ Service.owed.added e k) : n ∈ Item.name '' (σ.subscription s st e.type).toAdd := by
  rcases hwork with hwork | hwork
  all_goals
    simp only [Subscription.toAdd, hwork, target_of_clientOf hlisting hstored hst he hk]
    exact mem_added hn

end

section
variable [DecidableEq β]

/-- The names the service is still to send are those a subscription is still to drop or to put in. -/
theorem mem_owed (hlisting : Listing σ) (hstored : Stored σ) (hnamed : AllNamed σ)
    (hst : σ.streams s = some st) {n : String} (hn : n ∈ σ.service.owed s t) :
    n ∈ (σ.subscription s st t).toDrop Item.name ∨ n ∈ Item.name '' (σ.subscription s st t).toAdd := by
  have hclient : ∀ {k}, clientOf σ.service.clients s = some k → k.Named := fun hk =>
    hnamed.entries _ (List.mem_append_right _ (List.mem_of_find?_eq_some hk))
  have hupdate : ∀ {e}, σ.service.action? = some e → Named e.items := fun he => hnamed.updates _ (.inr he)
  -- the service is at a client of another stream
  have htodo : ∀ {e k todo}, σ.service = .updating e k todo ∨ σ.service = .adding e k todo →
      k.sender ≠ s → n ∈ (clientOf todo s).elim [] (Service.owed.both e) →
      n ∈ (σ.subscription s st e.type).toDrop Item.name ∨
        n ∈ Item.name '' (σ.subscription s st e.type).toAdd := by
    intro e k todo hservice hks hn
    cases hk : clientOf todo s with
    | none => simp [hk] at hn
    | some k' =>
      rw [hk] at hn
      have hclients : σ.service.clients = k :: todo := by rcases hservice with h | h <;> rw [h] <;> rfl
      have hstored? : σ.service.stored? = some e := by rcases hservice with h | h <;> rw [h] <;> rfl
      have haction : σ.service.action? = some e := by rcases hservice with h | h <;> rw [h] <;> rfl
      have hk' : clientOf σ.service.clients s = some k' := by rw [hclients, clientOf_cons, if_neg hks, hk]
      refine mem_both_of_owed hlisting hstored hst hstored? hk' (hclient hk') (hupdate haction) ?_ hn
      rcases hservice with hservice | hservice <;>
        simp [State.subscription, hservice, Service.work, hk, hks, ServerAction.work]
  cases hservice : σ.service with
  | idle | received e => simp [hservice, Service.owed] at hn
  | listed e clients =>
    simp only [hservice, Service.owed] at hn
    split at hn
    case isFalse => simp at hn
    case isTrue ht =>
      subst ht
      cases hk : clientOf clients s with
      | none => simp [hk] at hn
      | some k =>
        rw [hk] at hn
        have hboth := mem_both (hclient (by rw [hservice]; exact hk)) (hupdate (by rw [hservice]; rfl)) hn
        simpa [Subscription.toDrop, Subscription.toAdd, State.subscription, hservice, Service.work, hk]
          using hboth
  | removing e k todo =>
    simp only [hservice, Service.owed] at hn
    split at hn
    case isFalse => simp at hn
    case isTrue ht =>
      subst ht
      cases hk : clientOf (k :: todo) s with
      | none => simp [hk] at hn
      | some k' =>
        rw [hk] at hn
        have hk' : clientOf σ.service.clients s = some k' := by rw [hservice]; exact hk
        refine mem_both_of_owed hlisting hstored hst (by rw [hservice]; rfl) hk' (hclient hk')
          (hupdate (by rw [hservice]; rfl)) ?_ hn
        simp [State.subscription, hservice, Service.work, hk, ServerAction.work]
  | updating e k todo =>
    simp only [hservice, Service.owed] at hn
    split at hn
    case isTrue => simp at hn
    case isFalse ht =>
      obtain rfl : e.type = t := not_not.1 ht
      split at hn
      case isTrue hks => exact htodo (.inl hservice) hks hn
      case isFalse hks =>
        have hks : k.sender = s := not_not.1 hks
        have hk : clientOf σ.service.clients s = some k := by
          rw [hservice, Service.clients, clientOf_cons, if_pos hks]
        cases ht : e.type with
        | address => simp [ht] at hn
        | resource =>
          rw [ht] at hn
          have hadded := mem_added_of_half hlisting hstored hst (e := e) (by rw [hservice]; rfl) hk
            (.inl (by simp [State.subscription, hservice, Service.work, ServerAction.workUpdating, hks, ht])) hn
          exact .inr (ht ▸ hadded)
  | adding e k todo =>
    simp only [hservice, Service.owed] at hn
    split at hn
    case isTrue => simp at hn
    case isFalse ht =>
      obtain rfl : e.type = t := not_not.1 ht
      split at hn
      case isTrue hks => exact htodo (.inr hservice) hks hn
      case isFalse hks =>
        have hks : k.sender = s := not_not.1 hks
        have hk : clientOf σ.service.clients s = some k := by
          rw [hservice, Service.clients, clientOf_cons, if_pos hks]
        refine .inr (mem_added_of_half hlisting hstored hst (by rw [hservice]; rfl) hk ?_ hn)
        cases ht : e.type <;>
          simp [State.subscription, hservice, Service.work, ServerAction.workAdding, hks, ht]

end

/-! ## What becomes of a subscription -/

/-- Nothing, when the stored set, the work of the service and the entry stay. -/
theorem subscription_congr (hstored : σ'.stored st.gateway t = σ.stored st.gateway t)
    (hwork : σ'.service.work s t st.gateway = σ.service.work s t st.gateway)
    (hclient : AdsClients.getClientByClientId σ'.adsClients st.clientIp =
      AdsClients.getClientByClientId σ.adsClients st.clientIp) :
    σ'.subscription s st t = σ.subscription s st t := by
  simp only [State.subscription, hstored, hwork, hclient]

theorem getClientByClientId_updateClient (cs : AdsClients β) (k : AdsClient β) (addr : SocketAddr) :
    AdsClients.getClientByClientId (AdsClients.updateClient cs k) addr =
      if addr = k.clientId then (AdsClients.getClientByClientId cs addr).map (·.updateFrom k)
      else AdsClients.getClientByClientId cs addr :=
  Table.find_modify (f := fun c : AdsClient β => c.updateFrom k) fun _ => rfl

/-- The handler of another stream writes to another entry. -/
theorem getClientByClientId_update_of_ne (h : Registry σ) (hst : σ.streams s = some st)
    (hlive : st.handler ≠ .ended) {s' : StreamId} {st' : Stream β} (hst' : σ.streams s' = some st')
    {t' : Option TypeUrl} {k : AdsClient β} (hupdate : st'.handler = .update t' k) (hne : s ≠ s') :
    AdsClients.getClientByClientId (AdsClients.updateClient σ.adsClients k) st.clientIp =
      AdsClients.getClientByClientId σ.adsClients st.clientIp := by
  have hcopy := h.copies s' st' hst'
  rw [Stream.CopyFits, hupdate] at hcopy
  have hip := h.clientIp_ne hst hlive hst' (by simp [hupdate]) hne
  rw [← hcopy.1] at hip
  rw [getClientByClientId_updateClient, if_neg hip]

/-- A client is written to the entry of a stream. -/
theorem subscription_updateClient (h : Registry σ) (hst : σ.streams s = some st)
    (hlive : st.handler ≠ .ended) {k : AdsClient β} (hip : k.clientId = st.clientIp) {g : String}
    (hg : k.gatewayId = some g) (st' : Stream β) (hip' : st'.clientIp = st.clientIp) :
    State.subscription { σ with adsClients := AdsClients.updateClient σ.adsClients k } s st' t =
      { σ.subscription s st' t with registered := true, cached := elems (k.items t) } := by
  obtain ⟨c, -, hc, -⟩ := h.exists_client hst hlive
  have hc : AdsClients.getClientByClientId σ.adsClients st'.clientIp = some c := hip' ▸ hc
  have hupdate : AdsClients.getClientByClientId (AdsClients.updateClient σ.adsClients k) st'.clientIp =
      some (c.updateFrom k) := by
    rw [getClientByClientId_updateClient, if_pos (hip'.trans hip.symm), hc]
    rfl
  have hstored : State.stored { σ with adsClients := AdsClients.updateClient σ.adsClients k } = σ.stored := rfl
  simp only [State.subscription, hupdate, hstored, Option.any_some, Option.elim_some,
    AdsClient.items_updateFrom]
  simp [AdsClient.updateFrom, hg]

/-- What becomes of a subscription when the service stores a set or goes on. -/
theorem subscription_eq {l : List (Item β)} {work : Work (Item β)} (hstored : σ'.stored st.gateway t = l)
    (hwork : σ'.service.work s t st.gateway = work)
    (hclient : AdsClients.getClientByClientId σ'.adsClients st.clientIp =
      AdsClients.getClientByClientId σ.adsClients st.clientIp) :
    σ'.subscription s st t = { σ.subscription s st t with target := elems l, work := work } := by
  simp only [State.subscription, hstored, hwork, hclient]

/-- What becomes of a subscription when a response is sent. -/
theorem subscription_push (st : Stream β) (r : DeltaDiscoveryResponse β) :
    σ.subscription s { st with responses := st.responses ++ [r] } t =
      { σ.subscription s st t with final := elems (r.apply t (delivered t st.responses (st.held t))) } := by
  simp only [State.subscription, delivered_append]

/-- What becomes of a subscription when the service writes its client. -/
theorem subscription_write (h : Registry σ) (hst : σ.streams s = some st) (hlive : st.handler ≠ .ended)
    {k : AdsClient β} (hip : k.clientId = st.clientIp) {g : String} (hg : k.gatewayId = some g)
    {work : Work (Item β)} (hstored : σ'.stored = σ.stored)
    (hwork : σ'.service.work s t st.gateway = work)
    (hclients : σ'.adsClients = AdsClients.updateClient σ.adsClients k) :
    σ'.subscription s st t =
      { σ.subscription s st t with work := work, registered := true, cached := elems (k.items t) } := by
  have hupdate := subscription_updateClient (t := t) h hst hlive hip hg st rfl
  have heq : σ'.subscription s st t =
      { State.subscription { σ with adsClients := AdsClients.updateClient σ.adsClients k } s st t with
        target := elems (σ.stored st.gateway t), work := work } :=
    subscription_eq (congrFun (congrFun hstored st.gateway) t) hwork (by rw [hclients])
  rw [heq, hupdate]
  rfl

end Kubvernor.Agentgateway
