import Kubvernor.Agentgateway.Registry

/-!
# What is stored for a gateway

The items that are stored for a gateway, with the updates still to come, are what was last produced for
it. And if every update names its items, one item to a name, then so does every list of items in the
tables and in the hands of the tasks.
-/

namespace Kubvernor.Agentgateway

open Lib

variable {β : Type}

/-- The update that is not stored yet, and the one that is and whose messages are being sent. -/
def Service.unstored? : Service β → Option (ServerAction β)
  | .received e | .listed e _ => some e
  | .idle | .removing .. | .updating .. | .adding .. => none

def Service.stored? : Service β → Option (ServerAction β)
  | .removing e _ _ | .updating e _ _ | .adding e _ _ => some e
  | .idle | .received _ | .listed .. => none

section
variable (e : ServerAction β) (k : AdsClient β) (todo : List (AdsClient β))

theorem Service.unstored?_next : (Service.next e todo).unstored? = none := by
  cases todo <;> rfl

theorem Service.stored?_next {e' : ServerAction β} (h : (Service.next e todo).stored? = some e') :
    e' = e := by
  cases todo with
  | nil => simp [Service.next, Service.stored?] at h
  | cons => simpa [Service.next, Service.stored?] using h.symm

/-- After a message or a write for a client the update is still the stored one. -/
theorem Service.stored?_after {service : Service β}
    (h : service = .afterRemoving e k todo ∨ service = .afterUpdating e k todo ∨
      service = .afterAdding e k todo) :
    service.unstored? = none ∧ ∀ e', service.stored? = some e' → e' = e := by
  have hself : ∀ {e' : ServerAction β}, some e = some e' → e' = e := fun h => (Option.some.inj h).symm
  have hnext : (Service.next e todo).unstored? = none ∧ ∀ e', (Service.next e todo).stored? = some e' → e' = e :=
    ⟨Service.unstored?_next e todo, fun e' he' => Service.stored?_next e todo he'⟩
  rcases h with rfl | rfl | rfl
  · unfold Service.afterRemoving
    split <;> exact ⟨rfl, fun e' he' => hself he'⟩
  · unfold Service.afterUpdating
    split
    · exact ⟨rfl, fun e' he' => hself he'⟩
    · exact hnext
  · unfold Service.afterAdding
    split
    · exact hnext
    · exact ⟨rfl, fun e' he' => hself he'⟩

end

/-- What the updates `es` leave as the items of a gateway. -/
def lastProduced (t : TypeUrl) (g : String) (items : List (Item β)) (es : List (ServerAction β)) :
    List (Item β) :=
  es.foldl (fun l e => if t = e.type ∧ g = e.gatewayId then e.items else l) items

namespace State

variable (σ : State β)

/-- The items of a type that are stored for a gateway. -/
def stored (g : String) (t : TypeUrl) : List (Item β) := ((σ.managed g).getD {}).items t

/-- The updates that are not stored yet, in order. -/
def pending : List (ServerAction β) := σ.service.unstored?.toList ++ σ.events

variable {σ}

theorem stored_updateManaged (g g' : String) (t t' : TypeUrl) (l : List (Item β)) :
    (σ.updateManaged g t l).stored g' t' = if g' = g ∧ t' = t then l else σ.stored g' t' := by
  by_cases hg : g' = g
  · subst hg
    simp [stored, updateManaged, ManagedResources.items_setItems]
  · simp [stored, updateManaged, hg]

theorem updateClientAndItems_of_gateway {k : AdsClient β} {g : String} (hg : k.gatewayId = some g)
    (t : TypeUrl) (l : List (Item β)) :
    σ.updateClientAndItems k t l =
      State.updateManaged { σ with adsClients := AdsClients.updateClient σ.adsClients k } g t l := by
  simp [updateClientAndItems, hg]

end State

/-! ## The updates -/

structure Stored (σ : State β) : Prop where
  stored : ∀ e, σ.service.stored? = some e → σ.stored e.gatewayId e.type = e.items
  produced : ∀ t g, lastProduced t g (σ.stored g t) σ.pending = σ.produced t g

variable {σ σ' : State β} {a : Step β}

/-- Moves that neither queue nor store an update. -/
theorem Stored.congr (h : Stored σ) (hstored : σ'.stored = σ.stored) (hpending : σ'.pending = σ.pending)
    (hproduced : σ'.produced = σ.produced)
    (hservice : ∀ e, σ'.service.stored? = some e → σ.service.stored? = some e) : Stored σ' := by
  constructor
  · rw [hstored]
    exact fun e he => h.stored e (hservice e he)
  · rw [hstored, hpending, hproduced]
    exact h.produced

/-- The write for a client stores what is stored already. -/
theorem Stored.updateClientAndItems (h : Stored σ) (hlisting : Listing σ) {e : ServerAction β}
    {k : AdsClient β} {todo : List (AdsClient β)} (hservice : σ.service = .updating e k todo) :
    (σ.updateClientAndItems (k.setItems e.type e.items) e.type e.items).stored = σ.stored := by
  have hk : k ∈ σ.service.clients := by simp [hservice, Service.clients]
  have hg : k.gatewayId = some e.gatewayId := hlisting.gatewayId e (by rw [hservice]; rfl) k hk
  have hstored := h.stored e (by rw [hservice]; rfl)
  rw [State.updateClientAndItems_of_gateway ((AdsClient.gatewayId_setItems _ _ _).trans hg)]
  funext g t
  rw [State.stored_updateManaged]
  split
  · next heq => rw [heq.1, heq.2, hstored]
  · rfl

section
variable [DecidableEq β]

/-- **What is stored is what was produced**, but for the updates under way. -/
theorem Move.stored (hmove : Move σ a σ') (h : Stored σ) (hlisting : Listing σ) : Stored σ' := by
  cases hmove with
  | changed e =>
    refine ⟨h.stored, fun t g => ?_⟩
    have happend : (σ.change e).pending = σ.pending ++ [e] := by
      simp [State.pending, State.change]
    rw [happend, lastProduced, List.foldl_append]
    have hproduced : lastProduced t g ((σ.change e).stored g t) σ.pending = σ.produced t g := h.produced t g
    rw [lastProduced] at hproduced
    rw [hproduced]
    rfl
  | recv e rest hservice hevents =>
    refine h.congr rfl ?_ rfl (by simp [Service.stored?])
    simp [State.pending, hservice, hevents, Service.unstored?]
  | list e hservice =>
    refine h.congr rfl ?_ rfl (by simp [Service.stored?])
    simp [State.pending, hservice, Service.unstored?]
  | manage e clients hservice =>
    constructor
    · intro e' he'
      rw [Service.stored?_next e clients he']
      exact (State.stored_updateManaged e.gatewayId e.gatewayId e.type e.type e.items).trans (by simp)
    · intro t g
      have hproduced := h.produced t g
      have hpending : σ.pending = e :: σ.events := by simp [State.pending, hservice, Service.unstored?]
      rw [hpending, lastProduced, List.foldl_cons] at hproduced
      refine Eq.trans ?_ hproduced
      have hpending' : State.pending
          { σ.updateManaged e.gatewayId e.type e.items with service := .next e clients } = σ.events := by
        rw [State.pending, Service.unstored?_next]
        rfl
      have hstored : State.stored
          { σ.updateManaged e.gatewayId e.type e.items with service := .next e clients } g t =
          if t = e.type ∧ g = e.gatewayId then e.items else σ.stored g t := by
        refine (State.stored_updateManaged e.gatewayId g e.type t e.items).trans ?_
        simp only [and_comm]
      rw [hpending', hstored, lastProduced]
  | remove e k todo hservice =>
    obtain ⟨hnone, hself⟩ := Service.stored?_after e k todo (.inl rfl)
    refine h.congr rfl ?_ rfl fun e' he' => ?_
    · simp only [State.pending, hnone, hservice]
      rfl
    · rw [hself e' he', hservice]
      rfl
  | store e k todo hservice =>
    obtain ⟨hnone, hself⟩ := Service.stored?_after e k todo (.inr (.inl rfl))
    have hkept : ∀ {σ'' : State β}, σ'' = σ.updateClientAndItems (k.setItems e.type e.items) e.type e.items →
        σ''.events = σ.events ∧ σ''.produced = σ.produced := by
      rintro _ rfl
      unfold State.updateClientAndItems
      split <;> exact ⟨rfl, rfl⟩
    refine h.congr (h.updateClientAndItems hlisting hservice) ?_ (hkept rfl).2 fun e' he' => ?_
    · simp only [State.pending, hnone, hservice, (hkept rfl).1]
      rfl
    · rw [hself e' he', hservice]
      rfl
  | add e k todo hservice =>
    obtain ⟨hnone, hself⟩ := Service.stored?_after e k todo (.inr (.inr rfl))
    refine h.congr rfl ?_ rfl fun e' he' => ?_
    · simp only [State.pending, hnone, hservice]
      rfl
    · rw [hself e' he', hservice]
      rfl
  | takeAck | take | unknown | lookup | attach | update | respond | lookupFails | close | connect | request
  | receive => exact h.congr rfl rfl rfl fun e he => he

end

/-! ## The names -/

/-- Every item of a list has a name, and its name to itself. -/
structure Named (l : List (Item β)) : Prop where
  named : ∀ i ∈ l, i.name?.isSome
  inj : ∀ i ∈ l, ∀ j ∈ l, i.name = j.name → i = j

theorem Named.injOn {l : List (Item β)} (h : Named l) : Set.InjOn Item.name (elems l) :=
  fun i hi j hj => h.inj i hi j hj

theorem Named.nil : Named ([] : List (Item β)) := ⟨by simp, by simp⟩

theorem Named.mem_names {l : List (Item β)} (h : Named l) {n : String} :
    n ∈ l.filterMap Item.name? ↔ ∃ i ∈ l, i.name = n := by
  rw [List.mem_filterMap]
  constructor
  · rintro ⟨i, hi, hn⟩
    exact ⟨i, hi, by simp [Item.name, hn]⟩
  · rintro ⟨i, hi, rfl⟩
    obtain ⟨n, hn⟩ := Option.isSome_iff_exists.1 (h.named i hi)
    exact ⟨i, hi, by simp [Item.name, hn]⟩

/-- Both lists of an entry are named. -/
def AdsClient.Named (k : AdsClient β) : Prop := ∀ t, Agentgateway.Named (k.items t)

/-- The handler's copy of its client's entry. -/
def Handler.copy? : Handler β → Option (AdsClient β)
  | .await _ k | .update _ k | .respond _ k => some k
  | .idle | .lookup _ | .ended => none

structure AllNamed (σ : State β) : Prop where
  stored : ∀ g t, Named (σ.stored g t)
  entries : ∀ k ∈ σ.adsClients ++ σ.service.clients, k.Named
  copies : ∀ s st k, σ.streams s = some st → st.handler.copy? = some k → k.Named
  updates : ∀ e, e ∈ σ.events ∨ σ.service.action? = some e → Named e.items

/-- An update names its items. -/
def NamesItems : Step β → Prop
  | .changed e => Named e.items
  | _ => True

theorem AdsClient.Named.setItems {k : AdsClient β} (h : k.Named) {t : TypeUrl} {l : List (Item β)}
    (hl : Agentgateway.Named l) : (k.setItems t l).Named := by
  intro t'
  rw [AdsClient.items_setItems]
  split
  · exact hl
  · exact h t'

theorem AdsClient.Named.attach {k : AdsClient β} (h : k.Named) (hstored : ∀ g t, Agentgateway.Named (σ.stored g t))
    (g : String) : (k.attach σ.managed g).Named := by
  unfold AdsClient.attach
  cases k.gatewayId with
  | some g' => exact h
  | none =>
    cases hm : σ.managed g with
    | none =>
      intro t
      cases t with
      | resource => exact h .resource
      | address => exact h .address
    | some m =>
      intro t
      have := hstored g t
      simp only [State.stored, hm, Option.getD_some] at this
      cases t <;> exact this

theorem named_updateClient {cs : AdsClients β} {k : AdsClient β} (hk : k.Named) (h : ∀ c ∈ cs, c.Named) :
    ∀ c ∈ AdsClients.updateClient cs k, c.Named := by
  intro c hc
  rcases Table.mem_modify hc with hc | ⟨c', -, -, rfl⟩
  · exact h c hc
  · intro t
    rw [AdsClient.items_updateFrom]
    exact hk t

theorem named_setStream {s : StreamId} {st : Stream β}
    (h : ∀ s st k, σ.streams s = some st → st.handler.copy? = some k → k.Named)
    (hst : ∀ k, st.handler.copy? = some k → k.Named) :
    ∀ s' st' k, (σ.setStream s st).streams s' = some st' → st'.handler.copy? = some k → k.Named := by
  intro s' st' k hst' hk
  by_cases hs : s' = s
  · subst hs
    obtain rfl : st = st' := by simpa [State.setStream] using hst'
    exact hst k hk
  · exact h s' st' k (by simpa [State.setStream, hs] using hst') hk

theorem named_push {s : StreamId} {r : DeltaDiscoveryResponse β}
    (h : ∀ s st k, σ.streams s = some st → st.handler.copy? = some k → k.Named) :
    ∀ s' st' k, (σ.push s r).streams s' = some st' → st'.handler.copy? = some k → k.Named := by
  intro s' st' k hst' hk
  by_cases hs : s' = s
  · subst hs
    simp only [State.push, Function.update_self, Option.map_eq_some_iff] at hst'
    obtain ⟨st, hst, rfl⟩ := hst'
    exact h s' st k hst hk
  · exact h s' st' k (by simpa [State.push, hs] using hst') hk

/-- A handler goes on with its own stream. -/
theorem AllNamed.setStream (h : AllNamed σ) {s : StreamId} {st : Stream β}
    (hst : ∀ k, st.handler.copy? = some k → k.Named) : AllNamed (σ.setStream s st) where
  stored := h.stored
  entries := h.entries
  copies := named_setStream h.copies hst
  updates := h.updates

/-- The service goes on with the clients it has, and with its update. -/
theorem AllNamed.service (h : AllNamed σ) (hstored : ∀ g t, Named (σ'.stored g t))
    (hentries : ∀ k ∈ σ'.adsClients, k.Named)
    (hcopies : ∀ s st k, σ'.streams s = some st → st.handler.copy? = some k → k.Named)
    (hclients : σ'.service.clients.Sublist σ.service.clients) (hevents : σ'.events = σ.events)
    (haction : ∀ e, σ'.service.action? = some e → σ.service.action? = some e) : AllNamed σ' where
  stored := hstored
  entries k hk := by
    rcases List.mem_append.1 hk with hk | hk
    · exact hentries k hk
    · exact h.entries k (List.mem_append_right _ (hclients.subset hk))
  copies := hcopies
  updates e he := by
    refine h.updates e ?_
    rw [hevents] at he
    exact he.imp id (haction e)

theorem AllNamed.entry (h : AllNamed σ) : ∀ k ∈ σ.adsClients, k.Named :=
  fun k hk => h.entries k (List.mem_append_left _ hk)

theorem AllNamed.update (h : AllNamed σ) {s : StreamId} {st : Stream β} {k : AdsClient β} (hk : k.Named)
    (hst : ∀ k, st.handler.copy? = some k → k.Named) :
    AllNamed { σ.setStream s st with adsClients := AdsClients.updateClient σ.adsClients k } where
  stored := h.stored
  entries k' hk' := by
    rcases List.mem_append.1 hk' with hk' | hk'
    · exact named_updateClient hk h.entry k' hk'
    · exact h.entries k' (List.mem_append_right _ hk')
  copies := named_setStream h.copies hst
  updates := h.updates

section
variable [DecidableEq β]

/-- **Every list is named**, if the updates are. -/
theorem Move.named (hmove : Move σ a σ') (h : AllNamed σ) (hlisting : Listing σ) (hok : NamesItems a) :
    AllNamed σ' := by
  cases hmove with
  | changed e =>
    refine ⟨h.stored, h.entries, h.copies, fun e' he' => ?_⟩
    rcases he' with he' | he'
    · rcases List.mem_append.1 he' with he' | he'
      · exact h.updates e' (.inl he')
      · exact List.mem_singleton.1 he' ▸ hok
    · exact h.updates e' (.inr he')
  | recv e rest hservice hevents =>
    refine ⟨h.stored, fun k hk => h.entry k (by simpa [Service.clients] using hk), h.copies, fun e' he' => ?_⟩
    refine h.updates e' (.inl ?_)
    rw [hevents]
    rcases he' with he' | he'
    · exact List.mem_cons_of_mem _ he'
    · obtain rfl : e = e' := by simpa [Service.action?] using he'
      exact List.mem_cons_self
  | list e hservice =>
    refine ⟨h.stored, fun k hk => ?_, h.copies, fun e' he' => h.updates e' ?_⟩
    · rcases List.mem_append.1 hk with hk | hk
      · exact h.entry k hk
      · exact h.entry k (List.mem_filter.1 hk).1
    · rw [hservice]
      exact he'
  | manage e clients hservice =>
    have he : Named e.items := h.updates e (.inr (by rw [hservice]; rfl))
    refine h.service (fun g t => ?_) h.entry h.copies ?_ rfl fun e' he' => ?_
    · refine (State.stored_updateManaged e.gatewayId g e.type t e.items).symm ▸ ?_
      split
      · exact he
      · exact h.stored g t
    · show (Service.next e clients).clients.Sublist _
      rw [hservice, Service.clients_next]
      exact List.Sublist.refl _
    · rw [Service.action?_next e clients he', hservice]
      rfl
  | remove e k todo hservice =>
    refine h.service h.stored h.entry (named_push h.copies) ?_ rfl fun e' he' => ?_
    · show (Service.afterRemoving e k todo).clients.Sublist _
      rw [hservice, Service.clients_afterRemoving]
      exact List.Sublist.refl _
    · obtain rfl : e = e' := Option.some.inj ((Service.action?_afterRemoving e k todo).symm.trans he')
      rw [hservice]
      rfl
  | store e k todo hservice =>
    have he : Named e.items := h.updates e (.inr (by rw [hservice]; rfl))
    have hk : k ∈ σ.service.clients := by simp [hservice, Service.clients]
    have hg : k.gatewayId = some e.gatewayId := hlisting.gatewayId e (by rw [hservice]; rfl) k hk
    have hnamed : (k.setItems e.type e.items).Named := (h.entries k (List.mem_append_right _ hk)).setItems he
    rw [State.updateClientAndItems_of_gateway ((AdsClient.gatewayId_setItems _ _ _).trans hg)]
    refine h.service (fun g t => ?_) (named_updateClient hnamed h.entry) h.copies ?_ rfl fun e' he' => ?_
    · refine (State.stored_updateManaged e.gatewayId g e.type t e.items).symm ▸ ?_
      split
      · exact he
      · exact h.stored g t
    · rw [hservice]
      exact Service.clients_afterUpdating e k todo
    · rw [Service.action?_afterUpdating e k todo he', hservice]
      rfl
  | add e k todo hservice =>
    refine h.service h.stored h.entry (named_push h.copies) ?_ rfl fun e' he' => ?_
    · rw [hservice]
      exact Service.clients_afterAdding e k todo
    · rw [Service.action?_afterAdding e k todo he', hservice]
      rfl
  | takeAck | take | unknown | respond | lookupFails => exact h.setStream (by simp [Handler.copy?, Stream.push])
  | lookup s st hst t hlookup k hk =>
    refine h.setStream fun k' hk' => ?_
    obtain rfl : k = k' := by simpa [Handler.copy?] using hk'
    exact h.entry k (Table.mem_of_find hk).1
  | attach s st hst t k hawait =>
    refine h.setStream fun k' hk' => ?_
    obtain rfl : k.attach σ.managed st.gateway = k' := by simpa [Handler.copy?] using hk'
    exact (h.copies s st k hst (by rw [hawait]; rfl)).attach h.stored st.gateway
  | update s st hst t k hupdate =>
    have hk : k.Named := h.copies s st k hst (by rw [hupdate]; rfl)
    refine h.update hk fun k' hk' => ?_
    obtain rfl : k = k' := by simpa [Handler.copy?] using hk'
    exact hk
  | close s st hst hidle =>
    refine ⟨h.stored, fun k hk => ?_, named_setStream h.copies (by simp [Handler.copy?]), h.updates⟩
    rcases List.mem_append.1 hk with hk | hk
    · exact h.entry k (Table.mem_remove.1 hk).1
    · exact h.entries k (List.mem_append_right _ hk)
  | connect addr g =>
    refine ⟨h.stored, fun k hk => ?_, named_setStream h.copies (by simp [Handler.copy?]), h.updates⟩
    rcases List.mem_append.1 hk with hk | hk
    · rcases Table.mem_modifyOrAdd hk with hk | rfl | ⟨-, -, rfl⟩
      · exact h.entry k hk
      · exact fun t => by cases t <;> exact Named.nil
      · exact fun t => by cases t <;> exact Named.nil
    · exact h.entries k (List.mem_append_right _ hk)
  | request s st hst | receive s st hst => exact h.setStream fun k hk => h.copies s st k hst hk

end

end Kubvernor.Agentgateway
