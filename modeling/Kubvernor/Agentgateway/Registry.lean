import Kubvernor.Agentgateway.Moves

/-!
# Who is registered with a gateway

Every stream whose handler has not ended has one entry in the table of clients, under its address; the
entry, once it has a gateway, has that of the stream, and so have the copies of the handlers and of the
service. This holds as long as no stream comes from an address that an entry or a client of the service
still has.
-/

namespace Kubvernor.Agentgateway

open Lib

variable {β : Type}

/-! ## Streams and copies -/

/-- Who is behind a stream, whatever the messages on it. -/
structure Line where
  clientIp : SocketAddr
  gateway : String
  ended : Bool

def Line.live? (l : Line) : Option SocketAddr := if l.ended then none else some l.clientIp

def Stream.line (st : Stream β) : Line where
  clientIp := st.clientIp
  gateway := st.gateway
  ended := st.handler matches .ended

@[simp] theorem Stream.line_push (st : Stream β) (r : DeltaDiscoveryResponse β) :
    (st.push r).line = st.line := rfl

/-- The handler's copy is of its own client's entry, and has the gateway of the stream once it has
passed the first section of `update_client`. -/
def Stream.CopyFits (st : Stream β) : Prop :=
  match st.handler with
  | .await _ k => k.clientId = st.clientIp ∧ ∀ g, k.gatewayId = some g → g = st.gateway
  | .update _ k | .respond _ k => k.clientId = st.clientIp ∧ k.gatewayId = some st.gateway
  | .idle | .lookup _ | .ended => True

/-- The update the service is at work on, and the clients it has read for it and not done with. -/
def Service.action? : Service β → Option (ServerAction β)
  | .idle => none
  | .received e | .listed e _ | .removing e _ _ | .updating e _ _ | .adding e _ _ => some e

def Service.clients : Service β → List (AdsClient β)
  | .idle | .received _ => []
  | .listed _ clients => clients
  | .removing _ k todo | .updating _ k todo | .adding _ k todo => k :: todo

section
variable (e : ServerAction β) (k : AdsClient β) (todo : List (AdsClient β))

@[simp] theorem Service.clients_next : (Service.next e todo).clients = todo := by
  cases todo <;> rfl

theorem Service.action?_next {e' : ServerAction β} (h : (Service.next e todo).action? = some e') :
    e' = e := by
  cases todo with
  | nil => simp [Service.next, Service.action?] at h
  | cons => simpa [Service.next, Service.action?] using h.symm

theorem Service.clients_afterRemoving : (Service.afterRemoving e k todo).clients = k :: todo := by
  unfold Service.afterRemoving
  split <;> rfl

theorem Service.action?_afterRemoving : (Service.afterRemoving e k todo).action? = some e := by
  unfold Service.afterRemoving
  split <;> rfl

theorem Service.clients_afterUpdating : (Service.afterUpdating e k todo).clients.Sublist (k :: todo) := by
  unfold Service.afterUpdating
  split
  · exact List.Sublist.refl _
  · rw [Service.clients_next]
    exact List.sublist_cons_self k todo

theorem Service.action?_afterUpdating {e' : ServerAction β}
    (h : (Service.afterUpdating e k todo).action? = some e') : e' = e := by
  unfold Service.afterUpdating at h
  split at h
  · simpa [Service.action?] using h.symm
  · exact Service.action?_next e todo h

theorem Service.clients_afterAdding : (Service.afterAdding e k todo).clients.Sublist (k :: todo) := by
  unfold Service.afterAdding
  split
  · rw [Service.clients_next]
    exact List.sublist_cons_self k todo
  · exact List.Sublist.refl _

theorem Service.action?_afterAdding {e' : ServerAction β}
    (h : (Service.afterAdding e k todo).action? = some e') : e' = e := by
  unfold Service.afterAdding at h
  split at h
  · exact Service.action?_next e todo h
  · simpa [Service.action?] using h.symm

end

namespace State

variable (σ : State β)

def lines (s : StreamId) : Option Line := (σ.streams s).map Stream.line

/-- The address of a stream whose handler has not ended, and that of any stream. -/
def live (s : StreamId) : Option SocketAddr := (σ.lines s).bind Line.live?

def address (s : StreamId) : Option SocketAddr := (σ.lines s).map Line.clientIp

def gateway (s : StreamId) : Option String := (σ.lines s).map Line.gateway

variable {σ} {s : StreamId} {st st' : Stream β}

theorem lines_of_stream (hst : σ.streams s = some st) : σ.lines s = some st.line := by
  simp [lines, hst]

theorem lines_setStream : (σ.setStream s st').lines = Function.update σ.lines s (some st'.line) := by
  funext s'
  by_cases h : s' = s
  · subst h
    simp [lines, setStream]
  · simp [lines, setStream, h]

theorem lines_setStream_of_line (hst : σ.streams s = some st) (h : st'.line = st.line) :
    (σ.setStream s st').lines = σ.lines := by
  rw [lines_setStream, h, ← lines_of_stream hst, Function.update_eq_self]

theorem lines_push (r : DeltaDiscoveryResponse β) : (σ.push s r).lines = σ.lines := by
  funext s'
  by_cases h : s' = s
  · subst h
    simp [lines, push, Function.comp_def]
  · simp [lines, push, h]

theorem live_congr {σ' : State β} (h : σ'.lines = σ.lines) : σ'.live = σ.live := by
  unfold live
  rw [h]

theorem gateway_congr {σ' : State β} (h : σ'.lines = σ.lines) : σ'.gateway = σ.gateway := by
  unfold gateway
  rw [h]

theorem gateway_of_stream (hst : σ.streams s = some st) : σ.gateway s = some st.gateway := by
  rw [gateway, lines_of_stream hst]
  rfl

theorem address_of_live {a : SocketAddr} (h : σ.live s = some a) : σ.address s = some a := by
  simp only [live, Option.bind_eq_some_iff, Line.live?, Option.ite_none_left_eq_some,
    Option.some.injEq] at h
  obtain ⟨l, hl, -, rfl⟩ := h
  simp [address, hl]

theorem live_of_stream (hst : σ.streams s = some st) (h : st.handler ≠ .ended) :
    σ.live s = some st.clientIp := by
  have hended : st.line.ended = false := by
    cases hhandler : st.handler with
    | ended => exact absurd hhandler h
    | _ => simp [Stream.line, hhandler]
  simp only [live, lines_of_stream hst, Option.bind_some, Line.live?, hended]
  rfl

theorem lt_of_address {a : SocketAddr} (hnumbered : ∀ s l, σ.lines s = some l → s < σ.nextStream)
    (h : σ.address s = some a) : s < σ.nextStream := by
  simp only [address, Option.map_eq_some_iff] at h
  obtain ⟨l, hl, -⟩ := h
  exact hnumbered s l hl

end State

/-! ## The invariant -/

section
variable (σ : State β)

/-- The table of clients fits the streams. -/
structure Registry : Prop where
  numbered : ∀ s l, σ.lines s = some l → s < σ.nextStream
  sessions : Sessions AdsClient.clientId AdsClient.sender σ.live σ.adsClients
  gateway : ∀ k ∈ σ.adsClients, ∀ g, k.gatewayId = some g → σ.gateway k.sender = some g
  copies : ∀ s st, σ.streams s = some st → st.CopyFits

/-- The clients of the service are of the gateway of its update. -/
structure Listing : Prop where
  served : Served AdsClient.clientId AdsClient.sender σ.address σ.adsClients σ.service.clients
  gatewayId : ∀ e, σ.service.action? = some e → ∀ k ∈ σ.service.clients, k.gatewayId = some e.gatewayId
  gateway : ∀ e, σ.service.action? = some e → ∀ k ∈ σ.service.clients, σ.gateway k.sender = some e.gatewayId

/-- A new stream comes from an address that no entry and no client of the service has. -/
def NewAddress : Step β → Prop
  | .connect addr _ => ∀ k ∈ σ.adsClients ++ σ.service.clients, k.clientId ≠ addr
  | _ => True

end

variable {σ σ' : State β} {a : Step β} {s : StreamId} {st st' : Stream β} {k : AdsClient β}

/-- The entry of a stream whose handler has not ended. -/
theorem Registry.exists_client (h : Registry σ) (hst : σ.streams s = some st) (hlive : st.handler ≠ .ended) :
    ∃ k ∈ σ.adsClients, AdsClients.getClientByClientId σ.adsClients st.clientIp = some k ∧ k.sender = s ∧
      ∀ g, k.gatewayId = some g → g = st.gateway := by
  obtain ⟨k, hk, hfind, hsender⟩ := h.sessions.exists_find (State.live_of_stream hst hlive)
  refine ⟨k, hk, hfind, hsender, fun g hg => ?_⟩
  have hgateway := h.gateway k hk g hg
  rw [hsender, State.gateway_of_stream hst] at hgateway
  exact (Option.some.inj hgateway).symm

/-- Another stream whose handler has not ended has another address. -/
theorem Registry.clientIp_ne (h : Registry σ) (hst : σ.streams s = some st) (hlive : st.handler ≠ .ended)
    {s' : StreamId} (hst' : σ.streams s' = some st') (hlive' : st'.handler ≠ .ended) (hne : s ≠ s') :
    st.clientIp ≠ st'.clientIp :=
  h.sessions.address_ne (State.live_of_stream hst hlive) (State.live_of_stream hst' hlive') hne

/-! ## The table is kept -/

/-- Moves that leave the table and what is behind the streams. -/
theorem Registry.congr (h : Registry σ) (hnext : σ'.nextStream = σ.nextStream) (hlines : σ'.lines = σ.lines)
    (hclients : σ'.adsClients = σ.adsClients) (hcopies : ∀ s st, σ'.streams s = some st → st.CopyFits) :
    Registry σ' := by
  constructor
  · rw [hlines, hnext]
    exact h.numbered
  · rw [State.live_congr hlines, hclients]
    exact h.sessions
  · rw [State.gateway_congr hlines, hclients]
    exact h.gateway
  · exact hcopies

/-- An entry is updated with a client of its own gateway. -/
theorem Registry.updateClient (h : Registry σ)
    (hk : ∀ k' ∈ σ.adsClients, k'.clientId = k.clientId → ∀ g, k.gatewayId = some g →
      σ.gateway k'.sender = some g)
    (hnext : σ'.nextStream = σ.nextStream) (hlines : σ'.lines = σ.lines)
    (hclients : σ'.adsClients = AdsClients.updateClient σ.adsClients k)
    (hcopies : ∀ s st, σ'.streams s = some st → st.CopyFits) : Registry σ' := by
  constructor
  · rw [hlines, hnext]
    exact h.numbered
  · rw [State.live_congr hlines, hclients]
    exact h.sessions.modify (fun _ => rfl) fun _ => rfl
  · rw [State.gateway_congr hlines, hclients]
    intro k' hk' g hg
    rcases Table.mem_modify hk' with hk' | ⟨c, hc, heq, rfl⟩
    · exact h.gateway k' hk' g hg
    · exact hk c hc heq g hg
  · exact hcopies

theorem copies_setStream (h : ∀ s st, σ.streams s = some st → st.CopyFits) (hst : st.CopyFits) :
    ∀ s' st', (σ.setStream s st).streams s' = some st' → st'.CopyFits := by
  intro s' st' hst'
  by_cases hs : s' = s
  · subst hs
    obtain rfl : st = st' := by simpa [State.setStream] using hst'
    exact hst
  · exact h s' st' (by simpa [State.setStream, hs] using hst')

theorem copies_push {r : DeltaDiscoveryResponse β} (h : ∀ s st, σ.streams s = some st → st.CopyFits) :
    ∀ s' st', (σ.push s r).streams s' = some st' → st'.CopyFits := by
  intro s' st' hst'
  by_cases hs : s' = s
  · subst hs
    simp only [State.push, Function.update_self, Option.map_eq_some_iff] at hst'
    obtain ⟨st, hst, rfl⟩ := hst'
    exact h s' st hst
  · exact h s' st' (by simpa [State.push, hs] using hst')

/-- A handler goes on with its own stream. -/
theorem Registry.setStream (h : Registry σ) (hst : σ.streams s = some st) (hline : st'.line = st.line)
    (hcopy : st'.CopyFits) : Registry (σ.setStream s st') :=
  h.congr rfl (State.lines_setStream_of_line hst hline) rfl (copies_setStream h.copies hcopy)

theorem CopyFits.attach (managed : String → Option (ManagedResources β)) {k : AdsClient β}
    (hip : k.clientId = st.clientIp) (hg : ∀ g, k.gatewayId = some g → g = st.gateway) :
    (k.attach managed st.gateway).clientId = st.clientIp ∧
      (k.attach managed st.gateway).gatewayId = some st.gateway := by
  unfold AdsClient.attach
  cases hk : k.gatewayId with
  | some g => exact ⟨hip, by rw [hk, hg g hk]⟩
  | none => cases managed st.gateway <;> exact ⟨hip, rfl⟩

theorem Registry.close (h : Registry σ) (hst : σ.streams s = some st) (hidle : st.handler = .idle) :
    Registry { σ.setStream s { st with handler := .ended } with
      adsClients := AdsClients.removeClient σ.adsClients st.clientIp } := by
  have hlines : (σ.setStream s { st with handler := .ended }).lines = _ := State.lines_setStream
  have hl := State.lines_of_stream hst
  have hlive := State.live_of_stream hst (by simp [hidle])
  constructor
  · intro s' l' hl'
    by_cases hs : s' = s
    · exact hs ▸ h.numbered s _ hl
    · refine h.numbered s' l' ?_
      have hl' : (σ.setStream s { st with handler := .ended }).lines s' = some l' := hl'
      simpa [hlines, hs] using hl'
  · have hlive' : (σ.setStream s { st with handler := .ended }).live = Function.update σ.live s none := by
      funext s'
      by_cases hs : s' = s
      · subst hs
        simp [State.live, hlines, Line.live?, Stream.line]
      · simp [State.live, hlines, hs]
    exact hlive' ▸ h.sessions.remove hlive
  · intro k hk g hg
    obtain ⟨hk, hne⟩ := Table.mem_remove.1 hk
    have hgateway := h.gateway k hk g hg
    refine Eq.trans ?_ hgateway
    show (σ.setStream s { st with handler := .ended }).gateway k.sender = σ.gateway k.sender
    by_cases hs : k.sender = s
    · simp [State.gateway, hlines, hs, hl, Stream.line]
    · simp [State.gateway, hlines, hs]
  · exact copies_setStream h.copies trivial

theorem Registry.connect (h : Registry σ) {addr : SocketAddr} {g : String}
    (hnew : ∀ k ∈ σ.adsClients, k.clientId ≠ addr) : Registry (σ.connect addr g) := by
  have hlines : (σ.connect addr g).lines =
      Function.update σ.lines σ.nextStream (some ⟨addr, g, false⟩) := State.lines_setStream
  have hclients : (σ.connect addr g).adsClients =
      σ.adsClients ++ [{ sender := σ.nextStream, clientId := addr }] := Table.modifyOrAdd_of_new hnew
  have hfresh : σ.lines σ.nextStream = none := by
    cases hl : σ.lines σ.nextStream with
    | none => rfl
    | some l => exact absurd (h.numbered _ l hl) (Nat.lt_irrefl _)
  constructor
  · intro s l hl
    rw [hlines] at hl
    show s < σ.nextStream + 1
    by_cases hs : s = σ.nextStream
    · exact hs ▸ Nat.lt_succ_self _
    · exact Nat.lt_succ_of_lt (h.numbered s l (by simpa [hs] using hl))
  · have hlive : (σ.connect addr g).live = Function.update σ.live σ.nextStream (some addr) := by
      funext s
      by_cases hs : s = σ.nextStream
      · subst hs
        simp [State.live, hlines, Line.live?]
      · simp [State.live, hlines, hs]
    rw [hlive, hclients]
    refine h.sessions.append (e := { sender := σ.nextStream, clientId := addr }) ?_ hnew
    simp [State.live, hfresh]
  · rw [hclients]
    intro k hk g' hg'
    cases List.mem_append.1 hk with
    | inl hk =>
      have hgateway := h.gateway k hk g' hg'
      have hs : k.sender ≠ σ.nextStream := by
        intro hs
        simp [State.gateway, hs, hfresh] at hgateway
      simpa [State.gateway, hlines, hs] using hgateway
    | inr hk =>
      obtain rfl := List.mem_singleton.1 hk
      simp at hg'
  · exact copies_setStream h.copies trivial

/-! ## The clients of the service are kept -/

/-- Moves that leave the service's clients, and the entries with their addresses. -/
theorem Listing.mono (h : Listing σ)
    (hlines : ∀ s l, σ.lines s = some l →
      ∃ l', σ'.lines s = some l' ∧ l'.clientIp = l.clientIp ∧ l'.gateway = l.gateway)
    (hentry : ∀ k ∈ σ'.service.clients, ∀ k' ∈ σ'.adsClients, k'.clientId = k.clientId →
      ∃ c ∈ σ.adsClients, c.sender = k'.sender ∧ c.clientId = k'.clientId)
    (hclients : σ'.service.clients.Sublist σ.service.clients)
    (haction : ∀ e, σ'.service.action? = some e → σ.service.action? = some e ∨ σ'.service.clients = []) :
    Listing σ' := by
  constructor
  · refine h.served.mono (fun s a ha => ?_) hclients hentry
    simp only [State.address, Option.map_eq_some_iff] at ha ⊢
    obtain ⟨l, hl, rfl⟩ := ha
    obtain ⟨l', hl', hip, -⟩ := hlines s l hl
    exact ⟨l', hl', hip⟩
  · intro e he k hk
    rcases haction e he with he | hnil
    · exact h.gatewayId e he k (hclients.subset hk)
    · simp [hnil] at hk
  · intro e he k hk
    rcases haction e he with he | hnil
    · have hgateway := h.gateway e he k (hclients.subset hk)
      simp only [State.gateway, Option.map_eq_some_iff] at hgateway ⊢
      obtain ⟨l, hl, hg⟩ := hgateway
      obtain ⟨l', hl', -, hg'⟩ := hlines _ l hl
      exact ⟨l', hl', hg'.trans hg⟩
    · simp [hnil] at hk

/-- The service reads the clients of the gateway of its update. -/
theorem Registry.listing (h : Registry σ) {e : ServerAction β} :
    Listing { σ with
      service := .listed e (AdsClients.getClientsByGatewayId σ.adsClients e.gatewayId) } := by
  have hmem : ∀ k ∈ AdsClients.getClientsByGatewayId σ.adsClients e.gatewayId,
      k ∈ σ.adsClients ∧ k.gatewayId = some e.gatewayId := fun k hk => by
    simpa [AdsClients.getClientsByGatewayId] using hk
  constructor
  · exact Served.filter h.sessions (fun s a ha => State.address_of_live ha) _
  · intro e' he' k hk
    obtain rfl : e = e' := by simpa [Service.action?] using he'
    exact (hmem k hk).2
  · intro e' he' k hk
    obtain rfl : e = e' := by simpa [Service.action?] using he'
    obtain ⟨hk, hg⟩ := hmem k hk
    exact h.gateway k hk _ hg

theorem mem_updateClient_kept {cs : AdsClients β} {k k' : AdsClient β}
    (h : k' ∈ AdsClients.updateClient cs k) : ∃ c ∈ cs, c.sender = k'.sender ∧ c.clientId = k'.clientId := by
  rcases Table.mem_modify h with h | ⟨c, hc, -, rfl⟩
  · exact ⟨k', h, rfl, rfl⟩
  · exact ⟨c, hc, rfl, rfl⟩

/-- A stream keeps its address and its gateway, and the entries keep theirs. -/
theorem Listing.setStream (h : Listing σ) (hst : σ.streams s = some st)
    (hstreams : σ'.streams = Function.update σ.streams s (some st')) (hip : st'.clientIp = st.clientIp)
    (hgateway : st'.gateway = st.gateway) (hservice : σ'.service = σ.service)
    (hclients : ∀ k' ∈ σ'.adsClients, ∃ c ∈ σ.adsClients, c.sender = k'.sender ∧ c.clientId = k'.clientId) :
    Listing σ' := by
  refine h.mono (fun s' l hl => ?_) (fun k _ k' hk' _ => hclients k' hk') ?_ fun e he => ?_
  · by_cases hs : s' = s
    · subst hs
      rw [State.lines_of_stream hst] at hl
      obtain rfl := Option.some.inj hl
      exact ⟨st'.line, by simp [State.lines, hstreams], hip, hgateway⟩
    · refine ⟨l, ?_, rfl, rfl⟩
      simpa [State.lines, hstreams, hs] using hl
  · rw [hservice]
  · exact .inl (hservice ▸ he)

section
variable [DecidableEq β]

/-- **The clients of the service stay of its gateway.** -/
theorem Move.listing (hmove : Move σ a σ') (h : Listing σ) (hregistry : Registry σ) (hok : NewAddress σ a) :
    Listing σ' := by
  have hsame : ∀ s l, σ.lines s = some l →
      ∃ l', σ.lines s = some l' ∧ l'.clientIp = l.clientIp ∧ l'.gateway = l.gateway :=
    fun s l hl => ⟨l, hl, rfl, rfl⟩
  have hpush : ∀ {s : StreamId} (r : DeltaDiscoveryResponse β) (s' : StreamId) (l : Line),
      σ.lines s' = some l →
      ∃ l', (σ.push s r).lines s' = some l' ∧ l'.clientIp = l.clientIp ∧ l'.gateway = l.gateway :=
    fun r s' l hl => ⟨l, (congrFun (State.lines_push r) s').trans hl, rfl, rfl⟩
  have hmem : ∀ k' ∈ σ.adsClients, ∃ c ∈ σ.adsClients, c.sender = k'.sender ∧ c.clientId = k'.clientId :=
    fun k' hk' => ⟨k', hk', rfl, rfl⟩
  cases hmove with
  | changed e =>
    exact h.mono hsame (fun k _ k' hk' _ => hmem k' hk') (List.Sublist.refl _) fun e he => .inl he
  | recv e rest hservice hevents =>
    exact h.mono hsame (fun k _ k' hk' _ => hmem k' hk') (List.nil_sublist _) fun e he => .inr rfl
  | list e hservice => exact hregistry.listing
  | manage e clients hservice =>
    refine h.mono hsame (fun k _ k' hk' _ => hmem k' hk') ?_ fun e' he' => .inl ?_
    · show (Service.next e clients).clients.Sublist _
      rw [hservice, Service.clients_next]
      exact List.Sublist.refl _
    · rw [Service.action?_next e clients he', hservice]
      rfl
  | remove e k todo hservice =>
    refine h.mono (hpush _) (fun k _ k' hk' _ => hmem k' hk') ?_ fun e' he' => .inl ?_
    · show (Service.afterRemoving e k todo).clients.Sublist _
      rw [hservice, Service.clients_afterRemoving]
      exact List.Sublist.refl _
    · obtain rfl : e = e' := Option.some.inj ((Service.action?_afterRemoving e k todo).symm.trans he')
      rw [hservice]
      rfl
  | store e k todo hservice =>
    have hclients : (σ.updateClientAndItems (k.setItems e.type e.items) e.type e.items).adsClients =
        AdsClients.updateClient σ.adsClients (k.setItems e.type e.items) := by
      unfold State.updateClientAndItems
      split <;> rfl
    refine h.mono ?_ (fun k _ k' hk' _ => ?_) ?_ fun e' he' => .inl ?_
    · have hlines : (σ.updateClientAndItems (k.setItems e.type e.items) e.type e.items).lines = σ.lines := by
        unfold State.updateClientAndItems
        split <;> rfl
      exact fun s l hl => ⟨l, (congrFun hlines s).trans hl, rfl, rfl⟩
    · exact mem_updateClient_kept (hclients ▸ hk')
    · rw [hservice]
      exact Service.clients_afterUpdating e k todo
    · rw [Service.action?_afterUpdating e k todo he', hservice]
      rfl
  | add e k todo hservice =>
    refine h.mono (hpush _) (fun k _ k' hk' _ => hmem k' hk') ?_ fun e' he' => .inl ?_
    · rw [hservice]
      exact Service.clients_afterAdding e k todo
    · rw [Service.action?_afterAdding e k todo he', hservice]
      rfl
  | takeAck s st hst | take s st hst | unknown s st hst | lookup s st hst | attach s st hst
  | respond s st hst | lookupFails s st hst | request s st hst | receive s st hst =>
    exact h.setStream hst rfl rfl rfl rfl hmem
  | update s st hst => exact h.setStream hst rfl rfl rfl rfl fun k' hk' => mem_updateClient_kept hk'
  | close s st hst =>
    exact h.setStream hst rfl rfl rfl rfl fun k' hk' => hmem k' (Table.mem_remove.1 hk').1
  | connect addr g =>
    have hclients : (σ.connect addr g).adsClients =
        σ.adsClients ++ [{ sender := σ.nextStream, clientId := addr }] :=
      Table.modifyOrAdd_of_new fun k hk => hok k (by simp [hk])
    refine h.mono (fun s l hl => ⟨l, ?_, rfl, rfl⟩) (fun k hk k' hk' heq => ?_) (List.Sublist.refl _)
      fun e he => .inl he
    · have hs : s ≠ σ.nextStream := Nat.ne_of_lt (hregistry.numbered s l hl)
      refine Eq.trans (congrFun State.lines_setStream s) ?_
      simpa [hs] using hl
    · rw [hclients] at hk'
      cases List.mem_append.1 hk' with
      | inl hk' => exact hmem k' hk'
      | inr hk' =>
        obtain rfl := List.mem_singleton.1 hk'
        exact absurd heq.symm (hok k (List.mem_append_right _ hk))

/-- **The table stays fit for the streams.** -/
theorem Move.registry (hmove : Move σ a σ') (h : Registry σ) (hlisting : Listing σ) (hok : NewAddress σ a) :
    Registry σ' := by
  cases hmove with
  | changed | recv | list | manage => exact h.congr rfl rfl rfl h.copies
  | remove | add => exact h.congr rfl (State.lines_push _) rfl (copies_push h.copies)
  | store e k todo hservice =>
    have hk : k ∈ σ.service.clients := by simp [hservice, Service.clients]
    have haction : σ.service.action? = some e := by rw [hservice]; rfl
    refine h.updateClient (k := k.setItems e.type e.items) (fun k' hk' heq g hg => ?_) ?_ ?_ ?_ ?_
    · rw [AdsClient.gatewayId_setItems] at hg
      rw [AdsClient.clientId_setItems] at heq
      rw [hlisting.served.entry k hk k' hk' heq, hlisting.gateway e haction k hk,
        ← hlisting.gatewayId e haction k hk, hg]
    · unfold State.updateClientAndItems
      split <;> rfl
    · unfold State.updateClientAndItems
      split <;> rfl
    · unfold State.updateClientAndItems
      split <;> rfl
    · intro s st hst
      refine h.copies s st ?_
      unfold State.updateClientAndItems at hst
      split at hst <;> exact hst
  | takeAck s st hst rest hidle | take s st hst t rest hidle | unknown s st hst t hidle
  | lookupFails s st hst t k hidle =>
    exact h.setStream hst (by simp [Stream.line, hidle]) trivial
  | lookup s st hst t hlookup k hk =>
    obtain ⟨hmem, hip⟩ := Table.mem_of_find hk
    refine h.setStream hst (by simp [Stream.line, hlookup]) ⟨hip, fun g hg => ?_⟩
    obtain ⟨c, -, hc, -, hgateway⟩ := h.exists_client hst (by simp [hlookup])
    obtain rfl : c = k := Option.some.inj (hc.symm.trans hk)
    exact hgateway g hg
  | attach s st hst t k hawait =>
    have hcopy := h.copies s st hst
    rw [Stream.CopyFits, hawait] at hcopy
    exact h.setStream hst (by simp [Stream.line, hawait]) (CopyFits.attach σ.managed hcopy.1 hcopy.2)
  | update s st hst t k hupdate =>
    have hcopy := h.copies s st hst
    rw [Stream.CopyFits, hupdate] at hcopy
    refine h.updateClient (fun k' hk' heq g hg => ?_) rfl
      (State.lines_setStream_of_line hst (by simp [Stream.line, hupdate])) rfl
      (copies_setStream h.copies hcopy)
    have hlive := State.live_of_stream hst (by simp [hupdate])
    rw [h.sessions.sender_eq hlive hk' (heq.trans hcopy.1), State.gateway_of_stream hst, ← hcopy.2, hg]
  | respond s st hst t k hrespond =>
    exact h.setStream hst (by simp [Stream.line, hrespond, Stream.push]) trivial
  | close s st hst hidle => exact h.close hst hidle
  | connect addr g => exact h.connect fun k hk => hok k (by simp [hk])
  | request s st hst r => exact h.setStream hst rfl (h.copies s st hst)
  | receive s st hst r rest => exact h.setStream hst rfl (h.copies s st hst)

end

end Kubvernor.Agentgateway
