import Kubvernor.Lib.Sessions
import Kubvernor.Xds.Moves

/-!
# Who is registered

The table of clients has one entry for every stream whose handler has not ended, under the address
of the stream, and the service and the handlers hold copies of entries of that table. This holds as
long as no stream comes from an address that an entry or a client of the service still has.
-/

namespace Kubvernor.Xds

variable {ρ : Type}

/-! ## The table of clients -/

namespace AdsClients

variable {cs : AdsClients} {k k' : AdsClient} {addr : SocketAddr} {g : String}

/-- The table is searched and changed by the address. -/
theorem updateClient_eq :
    updateClient cs k = Lib.Table.modify AdsClient.clientId k.clientId (fun c => c.updateFrom k) cs := by
  induction cs with
  | nil => rfl
  | cons c cs ih =>
    unfold updateClient Lib.Table.modify
    rw [ih]

theorem addOrReplaceClient_eq : addOrReplaceClient cs k =
    Lib.Table.modifyOrAdd AdsClient.clientId k (fun c => { k with ackVersions := c.ackVersions }) cs := by
  induction cs with
  | nil => rfl
  | cons c cs ih =>
    unfold addOrReplaceClient Lib.Table.modifyOrAdd
    rw [ih]

theorem mem_of_getClientByClientId (h : getClientByClientId cs addr = some k) : k ∈ cs ∧ k.clientId = addr :=
  Lib.Table.mem_of_find h

theorem mem_getClientsByGatewayId :
    k ∈ getClientsByGatewayId cs g ↔ k ∈ cs ∧ k.gatewayId = some g := by
  simp [getClientsByGatewayId]

theorem mem_removeClient : k ∈ removeClient cs addr ↔ k ∈ cs ∧ k.clientId ≠ addr :=
  Lib.Table.mem_remove

theorem mem_updateClient (h : k' ∈ updateClient cs k) :
    k' ∈ cs ∨ ∃ c ∈ cs, c.clientId = k.clientId ∧ k' = c.updateFrom k := by
  rw [updateClient_eq] at h
  exact Lib.Table.mem_modify h

theorem getClientByClientId_updateClient :
    getClientByClientId (updateClient cs k) addr =
      if addr = k.clientId then (getClientByClientId cs addr).map (·.updateFrom k)
      else getClientByClientId cs addr := by
  rw [updateClient_eq]
  exact Lib.Table.find_modify fun _ => rfl

theorem getClientByClientId_removeClient {addr' : SocketAddr} (h : addr ≠ addr') :
    getClientByClientId (removeClient cs addr') addr = getClientByClientId cs addr :=
  Lib.Table.find_remove h

theorem getClientByClientId_append :
    getClientByClientId (cs ++ [k]) addr =
      (getClientByClientId cs addr).or (if k.clientId = addr then some k else none) :=
  Lib.Table.find_append

/-- A client with a new address is added at the end. -/
theorem addOrReplaceClient_of_new (h : ∀ c ∈ cs, c.clientId ≠ k.clientId) :
    addOrReplaceClient cs k = cs ++ [k] := by
  rw [addOrReplaceClient_eq]
  exact Lib.Table.modifyOrAdd_of_new h

end AdsClients

/-! ## Streams and their clients -/

/-- Who is behind a stream, whatever the messages on it. -/
structure Line where
  envoy : EnvoyId
  clientIp : SocketAddr
  isOpen : Bool
  ended : Bool

def Stream.line (st : Stream ρ) : Line where
  envoy := st.envoy
  clientIp := st.clientIp
  isOpen := st.isOpen
  ended := st.handler matches .ended

theorem Stream.line_push (st : Stream ρ) (r : DiscoveryResponse ρ) : (st.push r).line = st.line := by
  unfold Stream.push
  split <;> rfl

/-- The handler's copy of its client's entry. -/
def Handler.copy? : Handler ρ → Option AdsClient
  | .assign _ k | .read _ k | .restore _ k _ | .respond _ k _ => some k
  | .idle | .lookup _ | .ended => none

/-- The update the service is at work on, and the clients it has looked up for it and not done
with. -/
def Service.action? : Service ρ → Option (ServerAction ρ)
  | .idle => none
  | .received e | .inserted e | .sending e _ _ | .storing e _ _ => some e

def Service.clients : Service ρ → List AdsClient
  | .sending _ k todo | .storing _ k todo => k :: todo
  | _ => []

@[simp] theorem Service.clients_next (e : ServerAction ρ) (todo : List AdsClient) :
    (Service.next e todo).clients = todo := by
  cases todo <;> rfl

namespace State

def lines (σ : State ρ) (s : StreamId) : Option Line := (σ.streams s).map Stream.line

/-- The address of a stream whose handler has not ended. -/
def live (σ : State ρ) (s : StreamId) : Option SocketAddr :=
  (σ.lines s).bind fun l => if l.ended then none else some l.clientIp

/-- The current stream of an Envoy, by its number. -/
def current (σ : State ρ) (c : EnvoyId) : Option StreamId := (σ.envoys c).stream

variable {σ : State ρ} {s : StreamId} {st st' : Stream ρ}

theorem lines_of_stream (hst : σ.streams s = some st) : σ.lines s = some st.line := by
  simp [lines, hst]

theorem lines_setStream : (σ.setStream s st').lines = Function.update σ.lines s (some st'.line) := by
  funext s'
  by_cases h : s' = s
  · subst h
    simp [lines, setStream]
  · simp [lines, setStream, h]

theorem lines_setStream_of_line (hst : σ.streams s = some st) (h : st'.line = st.line) :
    (σ.setStream s st').lines = σ.lines := by
  rw [lines_setStream, h, ← lines_of_stream hst, Function.update_eq_self]

theorem lines_push (r : DiscoveryResponse ρ) : (σ.push s r).lines = σ.lines := by
  funext s'
  by_cases h : s' = s
  · subst h
    simp [lines, push, Function.comp_def, Stream.line_push]
  · simp [lines, push, h]

theorem live_congr {σ' : State ρ} (h : σ'.lines = σ.lines) : σ'.live = σ.live := by
  unfold live
  rw [h]

theorem live_eq_some {a : SocketAddr} :
    σ.live s = some a ↔ ∃ l, σ.lines s = some l ∧ l.ended = false ∧ l.clientIp = a := by
  simp [live, Option.bind_eq_some_iff]

end State

section
variable (gatewayOf : EnvoyId → String) (σ : State ρ)

/-- The table of clients fits the streams, and the streams the Envoys. -/
structure Registry : Prop where
  numbered : ∀ s l, σ.lines s = some l → s < σ.nextStream
  nodup : (σ.adsClients.map (·.clientId)).Nodup
  entry : ∀ k ∈ σ.adsClients, ∃ l, σ.lines k.sender = some l ∧ l.clientIp = k.clientId ∧
    l.ended = false ∧ ∀ g, k.gatewayId = some g → g = gatewayOf l.envoy
  listed : ∀ s l, σ.lines s = some l → l.ended = false → ∃ k ∈ σ.adsClients, k.sender = s
  current : ∀ s l, σ.lines s = some l → l.isOpen = true → σ.current l.envoy = some s ∧ l.ended = false
  opened : ∀ c s, σ.current c = some s → ∃ l, σ.lines s = some l ∧ l.envoy = c ∧ l.isOpen = true

/-- A handler's copy is of its own client's entry. -/
def Copies : Prop := ∀ s st k, σ.streams s = some st → st.handler.copy? = some k →
  k.clientId = st.clientIp ∧ k.gatewayId = some (gatewayOf st.envoy)

/-- The clients of the service are of the gateway of its update, and no other stream has the address
of one. -/
structure Served : Prop where
  client : ∀ k ∈ σ.service.clients, ∃ l, σ.lines k.sender = some l ∧ l.clientIp = k.clientId ∧
    k.gatewayId = some (gatewayOf l.envoy)
  entry : ∀ k ∈ σ.service.clients, ∀ k' ∈ σ.adsClients, k'.clientId = k.clientId → k'.sender = k.sender
  nodup : (σ.service.clients.map (·.clientId)).Nodup
  gateway : ∀ e, σ.service.action? = some e → ∀ k ∈ σ.service.clients, k.gatewayId = some e.gatewayId

/-- A new stream comes from an address that no entry and no client of the service has. -/
def NewAddress : Step ρ → Prop
  | .connect _ addr => ∀ k ∈ σ.adsClients ++ σ.service.clients, k.clientId ≠ addr
  | _ => True

end

variable {gatewayOf : EnvoyId → String} {σ σ' : State ρ} {a : Step ρ}

/-! ## The table is kept -/

/-- The table has one entry for each stream whose handler has not ended. -/
theorem Registry.sessions (h : Registry gatewayOf σ) :
    Lib.Sessions AdsClient.clientId AdsClient.sender σ.live σ.adsClients where
  nodup := h.nodup
  entry k hk := by
    obtain ⟨l, hl, hip, hended, -⟩ := h.entry k hk
    exact State.live_eq_some.2 ⟨l, hl, hended, hip⟩
  listed s a hs := by
    obtain ⟨l, hl, hended, -⟩ := State.live_eq_some.1 hs
    exact h.listed s l hl hended

theorem Registry.of_sessions (hnumbered : ∀ s l, σ.lines s = some l → s < σ.nextStream)
    (hsessions : Lib.Sessions AdsClient.clientId AdsClient.sender σ.live σ.adsClients)
    (hgateway : ∀ k ∈ σ.adsClients, ∀ l, σ.lines k.sender = some l → ∀ g, k.gatewayId = some g → g = gatewayOf l.envoy)
    (hcurrent : ∀ s l, σ.lines s = some l → l.isOpen = true → σ.current l.envoy = some s ∧ l.ended = false)
    (hopened : ∀ c s, σ.current c = some s → ∃ l, σ.lines s = some l ∧ l.envoy = c ∧ l.isOpen = true) :
    Registry gatewayOf σ where
  numbered := hnumbered
  nodup := hsessions.nodup
  entry k hk := by
    obtain ⟨l, hl, hended, hip⟩ := State.live_eq_some.1 (hsessions.entry k hk)
    exact ⟨l, hl, hip, hended, hgateway k hk l hl⟩
  listed s l hl hended := hsessions.listed s l.clientIp (State.live_eq_some.2 ⟨l, hl, hended, rfl⟩)
  current := hcurrent
  opened := hopened

/-- An entry has the gateway of its stream. -/
theorem Registry.gateway (h : Registry gatewayOf σ) {k : AdsClient} (hk : k ∈ σ.adsClients) {l : Line}
    (hl : σ.lines k.sender = some l) {g : String} (hg : k.gatewayId = some g) : g = gatewayOf l.envoy := by
  obtain ⟨l', hl', -, -, hgateway⟩ := h.entry k hk
  rw [hl] at hl'
  obtain rfl := Option.some.inj hl'
  exact hgateway g hg

theorem Registry.congr (h : Registry gatewayOf σ) (hnext : σ'.nextStream = σ.nextStream)
    (hlines : σ'.lines = σ.lines) (hcurrent : σ'.current = σ.current)
    (hclients : σ'.adsClients = σ.adsClients) : Registry gatewayOf σ' := by
  constructor
  · rw [hlines, hnext]
    exact h.numbered
  · rw [hclients]
    exact h.nodup
  · rw [hclients, hlines]
    exact h.entry
  · rw [hclients, hlines]
    exact h.listed
  · rw [hcurrent, hlines]
    exact h.current
  · rw [hcurrent, hlines]
    exact h.opened

/-- An entry is updated with a client of its own gateway. -/
theorem Registry.updateClient (h : Registry gatewayOf σ) {k : AdsClient}
    (hk : ∀ k' ∈ σ.adsClients, k'.clientId = k.clientId → ∀ l, σ.lines k'.sender = some l →
      ∀ g, k.gatewayId = some g → g = gatewayOf l.envoy) (hnext : σ'.nextStream = σ.nextStream)
    (hlines : σ'.lines = σ.lines) (hcurrent : σ'.current = σ.current)
    (hclients : σ'.adsClients = AdsClients.updateClient σ.adsClients k) : Registry gatewayOf σ' := by
  refine .of_sessions ?_ ?_ ?_ ?_ ?_
  · rw [hlines, hnext]
    exact h.numbered
  · rw [State.live_congr hlines, hclients, AdsClients.updateClient_eq]
    exact h.sessions.modify (fun _ => rfl) fun _ => rfl
  · rw [hclients, hlines]
    intro k' hk' l hl g hg
    rcases AdsClients.mem_updateClient hk' with hk' | ⟨c, hc, heq, rfl⟩
    · exact h.gateway hk' hl hg
    · exact hk c hc heq l hl g hg
  · rw [hcurrent, hlines]
    exact h.current
  · rw [hcurrent, hlines]
    exact h.opened

/-- A stream whose handler has not ended has its address to itself. -/
theorem Registry.sender_eq (h : Registry gatewayOf σ) {s : StreamId} {l : Line} (hl : σ.lines s = some l)
    (hended : l.ended = false) {k : AdsClient} (hk : k ∈ σ.adsClients) (hip : k.clientId = l.clientIp) :
    k.sender = s :=
  h.sessions.sender_eq (State.live_eq_some.2 ⟨l, hl, hended, rfl⟩) hk hip

/-- The entry of a stream whose handler has not ended. -/
theorem Registry.exists_client (h : Registry gatewayOf σ) {s : StreamId} {l : Line}
    (hl : σ.lines s = some l) (hended : l.ended = false) :
    ∃ k, AdsClients.getClientByClientId σ.adsClients l.clientIp = some k ∧ k ∈ σ.adsClients ∧
      k.sender = s ∧ ∀ g, k.gatewayId = some g → g = gatewayOf l.envoy := by
  obtain ⟨k, hk, hfind, rfl⟩ := h.sessions.exists_find (State.live_eq_some.2 ⟨l, hl, hended, rfl⟩)
  obtain ⟨l', hl', -, -, hg⟩ := h.entry k hk
  rw [hl] at hl'
  obtain rfl := Option.some.inj hl'
  exact ⟨k, hfind, hk, rfl, hg⟩

/-- A handler writes its copy back to its own entry. -/
theorem Registry.updateClient_of_copy (h : Registry gatewayOf σ) (hcopies : Copies gatewayOf σ)
    {s : StreamId} {st : Stream ρ} (hst : σ.streams s = some st) {k : AdsClient}
    (hcopy : st.handler.copy? = some k) (hnext : σ'.nextStream = σ.nextStream)
    (hlines : σ'.lines = σ.lines) (hcurrent : σ'.current = σ.current)
    (hclients : σ'.adsClients = AdsClients.updateClient σ.adsClients k) : Registry gatewayOf σ' := by
  refine h.updateClient (fun k' hk' heq l hl g hg => ?_) hnext hlines hcurrent hclients
  obtain ⟨hip, hgateway⟩ := hcopies s st k hst hcopy
  have hended : st.line.ended = false := by
    cases hhandler : st.handler with
    | ended => simp [hhandler, Handler.copy?] at hcopy
    | _ => simp [Stream.line, hhandler]
  have hsender := h.sender_eq (State.lines_of_stream hst) hended hk' (heq.trans hip)
  rw [hsender, State.lines_of_stream hst] at hl
  obtain rfl : st.line = l := Option.some.inj hl
  exact (Option.some.inj (hgateway.symm.trans hg)).symm

theorem Registry.close (h : Registry gatewayOf σ) {s : StreamId} {st : Stream ρ}
    (hst : σ.streams s = some st) (hclosed : st.isOpen = false) (hidle : st.handler = .idle) :
    Registry gatewayOf { σ.setStream s { st with handler := .ended } with
      adsClients := AdsClients.removeClient σ.adsClients st.clientIp } := by
  have hl := State.lines_of_stream hst
  have hlines : State.lines { σ.setStream s { st with handler := .ended } with
      adsClients := AdsClients.removeClient σ.adsClients st.clientIp } =
      Function.update σ.lines s (some { st.line with ended := true }) := State.lines_setStream
  have hlive : State.live { σ.setStream s { st with handler := .ended } with
      adsClients := AdsClients.removeClient σ.adsClients st.clientIp } = Function.update σ.live s none := by
    funext s'
    rw [State.live, hlines]
    by_cases hs : s' = s
    · subst hs
      simp
    · simp [State.live, hs]
  refine .of_sessions ?_ ?_ ?_ ?_ ?_
  · intro s' l' hl'
    rw [hlines] at hl'
    by_cases hs : s' = s
    · exact hs ▸ h.numbered s _ hl
    · exact h.numbered s' l' (by simpa [hs] using hl')
  · rw [hlive]
    exact h.sessions.remove (State.live_eq_some.2 ⟨_, hl, by simp [Stream.line, hidle], rfl⟩)
  · intro k hk l' hl' g hg
    rw [hlines] at hl'
    have hk := (AdsClients.mem_removeClient.1 hk).1
    by_cases hs : k.sender = s
    · rw [hs, Function.update_self] at hl'
      obtain rfl := Option.some.inj hl'
      have hgateway : g = gatewayOf st.line.envoy := h.gateway hk (hs ▸ hl) hg
      exact hgateway
    · rw [Function.update_of_ne hs] at hl'
      exact h.gateway hk hl' hg
  · intro s' l' hl' hopen
    rw [hlines] at hl'
    by_cases hs : s' = s
    · subst hs
      simp only [Function.update_self, Option.some.injEq] at hl'
      simp [← hl', Stream.line, hclosed] at hopen
    · exact h.current s' l' (by simpa [hs] using hl') hopen
  · intro c s' hc
    obtain ⟨l', hl', henvoy, hopen⟩ := h.opened c s' hc
    have hs : s' ≠ s := by
      rintro rfl
      rw [hl] at hl'
      simp [← Option.some.inj hl', Stream.line, hclosed] at hopen
    refine ⟨l', ?_, henvoy, hopen⟩
    rw [hlines]
    simpa [hs] using hl'

theorem Registry.disconnect (h : Registry gatewayOf σ) {c : EnvoyId} {s : StreamId}
    (hc : (σ.envoys c).stream = some s) {st : Stream ρ} (hst : σ.streams s = some st) :
    Registry gatewayOf { σ.setStream s { st with isOpen := false } with
      envoys := Function.update σ.envoys c { σ.envoys c with stream := none } } := by
  have hl := State.lines_of_stream hst
  have hlines : State.lines { σ.setStream s { st with isOpen := false } with
      envoys := Function.update σ.envoys c { σ.envoys c with stream := none } } =
      Function.update σ.lines s (some { st.line with isOpen := false }) := State.lines_setStream
  have hcurrent : State.current { σ.setStream s { st with isOpen := false } with
      envoys := Function.update σ.envoys c { σ.envoys c with stream := none } } =
      Function.update σ.current c none := by
    funext c'
    by_cases hc' : c' = c
    · subst hc'
      simp [State.current]
    · simp [State.current, hc']
  have henvoy : st.line.envoy = c := by
    obtain ⟨l', hl', henvoy, -⟩ := h.opened c s hc
    rw [hl] at hl'
    exact Option.some.inj hl' ▸ henvoy
  have hlive : State.live { σ.setStream s { st with isOpen := false } with
      envoys := Function.update σ.envoys c { σ.envoys c with stream := none } } = σ.live := by
    funext s'
    rw [State.live, hlines]
    by_cases hs : s' = s
    · subst hs
      simp [State.live, hl]
    · simp [State.live, hs]
  refine .of_sessions ?_ ?_ ?_ ?_ ?_
  · intro s' l' hl'
    rw [hlines] at hl'
    by_cases hs : s' = s
    · exact hs ▸ h.numbered s _ hl
    · exact h.numbered s' l' (by simpa [hs] using hl')
  · rw [hlive]
    exact h.sessions
  · intro k hk l' hl' g hg
    rw [hlines] at hl'
    by_cases hs : k.sender = s
    · rw [hs, Function.update_self] at hl'
      obtain rfl := Option.some.inj hl'
      have hgateway : g = gatewayOf st.line.envoy := h.gateway hk (hs ▸ hl) hg
      exact hgateway
    · rw [Function.update_of_ne hs] at hl'
      exact h.gateway hk hl' hg
  · intro s' l' hl' hopen
    rw [hlines] at hl'
    by_cases hs : s' = s
    · subst hs
      simp only [Function.update_self, Option.some.injEq] at hl'
      simp [← hl'] at hopen
    · rw [Function.update_of_ne hs] at hl'
      obtain ⟨hcur, hended⟩ := h.current s' l' hl' hopen
      have hne : l'.envoy ≠ c := by
        intro heq
        rw [heq] at hcur
        exact hs (Option.some.inj (hcur.symm.trans hc))
      rw [hcurrent, Function.update_of_ne hne]
      exact ⟨hcur, hended⟩
  · intro c' s' hc'
    rw [hcurrent] at hc'
    by_cases hne : c' = c
    · simp [hne] at hc'
    · rw [Function.update_of_ne hne] at hc'
      obtain ⟨l', hl', henvoy', hopen⟩ := h.opened c' s' hc'
      have hs : s' ≠ s := by
        rintro rfl
        rw [hl] at hl'
        exact hne (henvoy'.symm.trans ((congrArg Line.envoy (Option.some.inj hl').symm).trans henvoy))
      refine ⟨l', ?_, henvoy', hopen⟩
      rw [hlines]
      simpa [hs] using hl'

theorem Registry.connect (h : Registry gatewayOf σ) {c : EnvoyId} {addr : SocketAddr}
    (hc : (σ.envoys c).stream = none) (hnew : ∀ k ∈ σ.adsClients, k.clientId ≠ addr) :
    Registry gatewayOf (σ.connect c addr) := by
  have hlines : (σ.connect c addr).lines =
      Function.update σ.lines σ.nextStream (some ⟨c, addr, true, false⟩) := State.lines_setStream
  have hcurrent : (σ.connect c addr).current = Function.update σ.current c (some σ.nextStream) := by
    funext c'
    by_cases hc' : c' = c
    · subst hc'
      simp [State.current, State.connect]
    · simp [State.current, State.connect, hc']
  have hclients : (σ.connect c addr).adsClients =
      σ.adsClients ++ [{ sender := σ.nextStream, clientId := addr }] :=
    AdsClients.addOrReplaceClient_of_new hnew
  have hfresh : ∀ s l, σ.lines s = some l → s ≠ σ.nextStream :=
    fun s l hl => Nat.ne_of_lt (h.numbered s l hl)
  have hnone : σ.lines σ.nextStream = none := by
    cases hl : σ.lines σ.nextStream with
    | none => rfl
    | some l => exact absurd rfl (hfresh _ l hl)
  have hlive : (σ.connect c addr).live = Function.update σ.live σ.nextStream (some addr) := by
    funext s
    rw [State.live, hlines]
    by_cases hs : s = σ.nextStream
    · subst hs
      simp
    · simp [State.live, hs]
  refine .of_sessions ?_ ?_ ?_ ?_ ?_
  · intro s l hl
    rw [hlines] at hl
    show s < σ.nextStream + 1
    by_cases hs : s = σ.nextStream
    · exact hs ▸ Nat.lt_succ_self _
    · exact Nat.lt_succ_of_lt (h.numbered s l (by simpa [hs] using hl))
  · rw [hclients, hlive]
    refine h.sessions.append (e := { sender := σ.nextStream, clientId := addr }) ?_ hnew
    show (σ.lines σ.nextStream).bind _ = none
    rw [hnone]
    rfl
  · rw [hclients, hlines]
    intro k hk l hl g hg
    cases List.mem_append.1 hk with
    | inl hk =>
      obtain ⟨l', hl', -⟩ := h.entry k hk
      rw [Function.update_of_ne (hfresh _ l' hl')] at hl
      exact h.gateway hk hl hg
    | inr hk =>
      obtain rfl := List.mem_singleton.1 hk
      cases hg
  · intro s l hl hopen
    rw [hlines] at hl
    rw [hcurrent]
    by_cases hs : s = σ.nextStream
    · subst hs
      simp only [Function.update_self, Option.some.injEq] at hl
      simp [← hl]
    · rw [Function.update_of_ne hs] at hl
      obtain ⟨hcur, hended⟩ := h.current s l hl hopen
      have hne : l.envoy ≠ c := by
        intro heq
        rw [heq, State.current, hc] at hcur
        simp at hcur
      rw [Function.update_of_ne hne]
      exact ⟨hcur, hended⟩
  · rw [hcurrent, hlines]
    intro c' s hc'
    by_cases hne : c' = c
    · subst hne
      simp only [Function.update_self, Option.some.injEq] at hc'
      exact ⟨⟨c', addr, true, false⟩, by simp [← hc'], rfl, rfl⟩
    · rw [Function.update_of_ne hne] at hc'
      obtain ⟨l, hl, henvoy, hopen⟩ := h.opened c' s hc'
      exact ⟨l, by simpa [hfresh s l hl] using hl, henvoy, hopen⟩

/-! ## The copies are kept -/

theorem Copies.setStream (h : Copies gatewayOf σ) {s : StreamId} {st : Stream ρ}
    (hcopy : ∀ k, st.handler.copy? = some k →
      k.clientId = st.clientIp ∧ k.gatewayId = some (gatewayOf st.envoy)) :
    Copies gatewayOf (σ.setStream s st) := by
  intro s' st' k hst' hk
  by_cases hs : s' = s
  · subst hs
    obtain rfl : st = st' := by simpa [State.setStream] using hst'
    exact hcopy k hk
  · exact h s' st' k (by simpa [State.setStream, hs] using hst') hk

theorem Copies.push (h : Copies gatewayOf σ) {s : StreamId} (r : DiscoveryResponse ρ) :
    Copies gatewayOf (σ.push s r) := by
  intro s' st' k hst' hk
  by_cases hs : s' = s
  · subst hs
    simp only [State.push, Function.update_self, Option.map_eq_some_iff] at hst'
    obtain ⟨st, hst, rfl⟩ := hst'
    unfold Stream.push at hk ⊢
    split at hk
    · next hopen =>
      rw [if_pos hopen]
      exact h s' st k hst hk
    · next hopen =>
      rw [if_neg hopen]
      exact h s' st k hst hk
  · exact h s' st' k (by simpa [State.push, hs] using hst') hk

theorem Move.copies (hmove : Move gatewayOf σ a σ') (h : Copies gatewayOf σ) : Copies gatewayOf σ' := by
  cases hmove with
  | changed g clusters listeners deployed =>
    unfold State.change
    split
    · exact h
    · exact h
  | deleted | queue | recv | insert | enlist | save => exact h
  | send e k todo => exact h.push _
  | take | unknown | absent | withhold | close | connect => exact h.setStream (by simp [Handler.copy?])
  | lookup s st hst r hlookup k hk =>
    refine h.setStream fun k' hk' => ?_
    obtain rfl : { k with gatewayId := some (gatewayOf st.envoy) } = k' := Option.some.inj hk'
    exact ⟨(AdsClients.mem_of_getClientByClientId hk).2, rfl⟩
  | accept s st hst r k hassign =>
    exact h.setStream fun k' hk' => h s st k' hst (by rw [hassign]; exact hk')
  | found s st hst r k hread u hu handler hh =>
    refine h.setStream fun k' hk' => h s st k' hst ?_
    rw [hread]
    rcases hh with rfl | rfl <;> exact hk'
  | restore s st hst r k resources hrestore =>
    exact h.setStream fun k' hk' => h s st k' hst (by rw [hrestore]; exact hk')
  | respond s st =>
    refine h.setStream fun k' hk' => ?_
    unfold Stream.push at hk'
    split at hk' <;> simp [Handler.copy?] at hk'
  | disconnect c s hc st hst => exact h.setStream fun k' hk' => h s st k' hst hk'
  | request c t s hc st hst => exact h.setStream fun k' hk' => h s st k' hst hk'
  | receive c s hc st hst => exact h.setStream fun k' hk' => h s st k' hst hk'

/-! ## The clients of the service are kept -/

theorem Served.mono (h : Served gatewayOf σ)
    (hlines : ∀ s l, σ.lines s = some l →
      ∃ l', σ'.lines s = some l' ∧ l'.clientIp = l.clientIp ∧ l'.envoy = l.envoy)
    (hentry : ∀ k ∈ σ'.service.clients, ∀ k' ∈ σ'.adsClients, k'.clientId = k.clientId →
      ∃ c ∈ σ.adsClients, c.sender = k'.sender ∧ c.clientId = k'.clientId)
    (hclients : σ'.service.clients.Sublist σ.service.clients)
    (haction : σ'.service.clients = [] ∨ σ'.service.action? = σ.service.action?) :
    Served gatewayOf σ' := by
  constructor
  · intro k hk
    obtain ⟨l, hl, hip, hg⟩ := h.client k (hclients.subset hk)
    obtain ⟨l', hl', hip', henvoy⟩ := hlines _ l hl
    exact ⟨l', hl', hip'.trans hip, henvoy ▸ hg⟩
  · intro k hk k' hk' heq
    obtain ⟨c, hc, hsender, hid⟩ := hentry k hk k' hk' heq
    exact hsender ▸ h.entry k (hclients.subset hk) c hc (hid.trans heq)
  · exact h.nodup.sublist (hclients.map _)
  · intro e he k hk
    cases haction with
    | inl hnil => simp [hnil] at hk
    | inr haction => exact h.gateway e (haction ▸ he) k (hclients.subset hk)

/-- The service looks up the clients of the gateway of its update. -/
theorem Registry.served (h : Registry gatewayOf σ) {e : ServerAction ρ} :
    Served gatewayOf { σ with
      service := .next e (AdsClients.getClientsByGatewayId σ.adsClients e.gatewayId) } := by
  constructor
  · intro k hk
    rw [Service.clients_next, AdsClients.mem_getClientsByGatewayId] at hk
    obtain ⟨l, hl, hip, -, hg⟩ := h.entry k hk.1
    exact ⟨l, hl, hip, by rw [hk.2, hg _ hk.2]⟩
  · intro k hk k' hk' heq
    rw [Service.clients_next, AdsClients.mem_getClientsByGatewayId] at hk
    rw [List.inj_on_of_nodup_map h.nodup hk' hk.1 heq]
  · rw [Service.clients_next]
    exact h.nodup.sublist (List.filter_sublist.map _)
  · intro e' he' k hk
    rw [Service.clients_next, AdsClients.mem_getClientsByGatewayId] at hk
    have : e' = e := by
      cases hclients : AdsClients.getClientsByGatewayId σ.adsClients e.gatewayId with
      | nil => simp [hclients, Service.next, Service.action?] at he'
      | cons => simpa [hclients, Service.next, Service.action?] using he'.symm
    rw [this]
    exact hk.2

/-- A stream keeps its envoy and its address, and the entries keep theirs. -/
theorem Served.setStream (h : Served gatewayOf σ) {s : StreamId} {st st' : Stream ρ}
    (hst : σ.streams s = some st) (hstreams : σ'.streams = Function.update σ.streams s (some st'))
    (henvoy : st'.envoy = st.envoy) (hip : st'.clientIp = st.clientIp) (hservice : σ'.service = σ.service)
    (hclients : ∀ k' ∈ σ'.adsClients, ∃ c ∈ σ.adsClients, c.sender = k'.sender ∧ c.clientId = k'.clientId) :
    Served gatewayOf σ' := by
  refine h.mono (fun s' l hl => ?_) (fun k _ k' hk' _ => hclients k' hk') ?_ (.inr ?_)
  · by_cases hs : s' = s
    · subst hs
      rw [State.lines_of_stream hst] at hl
      obtain rfl := Option.some.inj hl
      exact ⟨st'.line, by simp [State.lines, hstreams], hip, henvoy⟩
    · refine ⟨l, ?_, rfl, rfl⟩
      simpa [State.lines, hstreams, hs] using hl
  · rw [hservice]
  · rw [hservice]

theorem AdsClients.mem_updateClient_kept {cs : AdsClients} {k k' : AdsClient}
    (h : k' ∈ AdsClients.updateClient cs k) : ∃ c ∈ cs, c.sender = k'.sender ∧ c.clientId = k'.clientId := by
  rcases AdsClients.mem_updateClient h with h | ⟨c, hc, -, rfl⟩
  · exact ⟨k', h, rfl, rfl⟩
  · exact ⟨c, hc, rfl, rfl⟩

theorem Move.served (hmove : Move gatewayOf σ a σ') (h : Served gatewayOf σ)
    (hregistry : Registry gatewayOf σ) (hok : NewAddress σ a) : Served gatewayOf σ' := by
  have hsame : ∀ s l, σ.lines s = some l →
      ∃ l', σ.lines s = some l' ∧ l'.clientIp = l.clientIp ∧ l'.envoy = l.envoy :=
    fun s l hl => ⟨l, hl, rfl, rfl⟩
  have hmem : ∀ k' ∈ σ.adsClients, ∃ c ∈ σ.adsClients, c.sender = k'.sender ∧ c.clientId = k'.clientId :=
    fun k' hk' => ⟨k', hk', rfl, rfl⟩
  cases hmove with
  | changed g clusters listeners deployed =>
    unfold State.change
    split <;>
      exact h.mono hsame (fun k _ k' hk' _ => hmem k' hk') (List.Sublist.refl _) (.inr rfl)
  | deleted | queue =>
    exact h.mono hsame (fun k _ k' hk' _ => hmem k' hk') (List.Sublist.refl _) (.inr rfl)
  | recv | insert => exact h.mono hsame (fun k _ k' hk' _ => hmem k' hk') (List.nil_sublist _) (.inl rfl)
  | enlist e hservice => exact hregistry.served
  | send e k todo hservice =>
    refine h.mono (fun s l hl => ⟨l, ?_, rfl, rfl⟩) (fun k _ k' hk' _ => hmem k' hk') ?_ (.inr ?_)
    · exact (congrFun (State.lines_push _) s).trans hl
    · rw [hservice]
      exact List.Sublist.refl _
    · rw [hservice]
      rfl
  | save e k todo hservice =>
    refine h.mono hsame (fun k _ k' hk' _ => AdsClients.mem_updateClient_kept hk') ?_ ?_
    · show (Service.next e todo).clients.Sublist _
      rw [hservice, Service.clients_next]
      exact List.sublist_cons_self k todo
    · cases todo with
      | nil => exact .inl rfl
      | cons k' todo =>
        rw [hservice]
        exact .inr rfl
  | take s st hst | unknown s st hst | lookup s st hst | absent s st hst | found s st hst
  | request c t s hc st hst | receive c s hc st hst | disconnect c s hc st hst =>
    exact h.setStream hst rfl rfl rfl rfl hmem
  | respond s st hst =>
    refine h.setStream hst rfl ?_ ?_ rfl hmem
    · exact congrArg Line.envoy (Stream.line_push _ _)
    · exact congrArg Line.clientIp (Stream.line_push _ _)
  | withhold s st hst | accept s st hst | restore s st hst =>
    exact h.setStream hst rfl rfl rfl rfl fun k' hk' => AdsClients.mem_updateClient_kept hk'
  | close s st hst =>
    exact h.setStream hst rfl rfl rfl rfl fun k' hk' => hmem k' (AdsClients.mem_removeClient.1 hk').1
  | connect c addr =>
    have hclients : (σ.connect c addr).adsClients =
        σ.adsClients ++ [{ sender := σ.nextStream, clientId := addr }] :=
      AdsClients.addOrReplaceClient_of_new fun k hk => hok k (by simp [hk])
    refine h.mono (fun s l hl => ⟨l, ?_, rfl, rfl⟩) (fun k hk k' hk' heq => ?_) (List.Sublist.refl _)
      (.inr rfl)
    · have hs : s ≠ σ.nextStream := Nat.ne_of_lt (hregistry.numbered s l hl)
      refine Eq.trans (congrFun State.lines_setStream s) ?_
      simpa [hs] using hl
    · rw [hclients] at hk'
      cases List.mem_append.1 hk' with
      | inl hk' => exact hmem k' hk'
      | inr hk' =>
        obtain rfl := List.mem_singleton.1 hk'
        exact absurd heq.symm (hok k (List.mem_append_right _ hk))

/-! ## The table is kept by every move -/

theorem Move.registry (hmove : Move gatewayOf σ a σ') (h : Registry gatewayOf σ)
    (hcopies : Copies gatewayOf σ) (hserved : Served gatewayOf σ) (hok : NewAddress σ a) :
    Registry gatewayOf σ' := by
  cases hmove with
  | changed g clusters listeners deployed =>
    unfold State.change
    split <;> exact h.congr rfl rfl rfl rfl
  | deleted | queue | recv | insert | enlist => exact h.congr rfl rfl rfl rfl
  | send e k todo => exact h.congr rfl (State.lines_push _) rfl rfl
  | save e k todo hservice =>
    refine h.updateClient (fun k' hk' heq l hl g hg => ?_) rfl rfl rfl rfl
    have hk : k ∈ σ.service.clients := by simp [hservice, Service.clients]
    obtain ⟨l', hl', -, hgateway⟩ := hserved.client k hk
    rw [hserved.entry k hk k' hk' heq, hl'] at hl
    obtain rfl := Option.some.inj hl
    exact (Option.some.inj (hgateway.symm.trans hg)).symm
  | take s st hst r rest hidle | unknown s st hst r hidle | lookup s st hst r hidle
  | absent s st hst r k hidle =>
    exact h.congr rfl (State.lines_setStream_of_line hst (by simp [Stream.line, hidle])) rfl rfl
  | found s st hst r k hread u hu handler hh =>
    refine h.congr rfl (State.lines_setStream_of_line hst ?_) rfl rfl
    rcases hh with rfl | rfl <;> simp [Stream.line, hread]
  | respond s st hst r k resources hrespond =>
    refine h.congr rfl (State.lines_setStream_of_line hst ?_) rfl rfl
    rw [Stream.line_push]
    simp [Stream.line, hrespond]
  | withhold s st hst r k hhandler | accept s st hst r k hhandler | restore s st hst r k _ hhandler =>
    refine h.updateClient_of_copy hcopies hst (by rw [hhandler]; rfl) rfl ?_ rfl rfl
    exact State.lines_setStream_of_line hst (by simp [Stream.line, hhandler])
  | close s st hst hclosed hidle => exact h.close hst hclosed hidle
  | connect c addr hc => exact h.connect hc fun k hk => hok k (by simp [hk])
  | disconnect c s hc st hst => exact h.disconnect hc hst
  | request c t s hc st hst =>
    exact h.congr rfl (State.lines_setStream_of_line hst rfl) rfl rfl
  | receive c s hc st hst =>
    refine h.congr rfl (State.lines_setStream_of_line hst rfl) ?_ rfl
    funext c'
    by_cases hc' : c' = st.envoy
    · subst hc'
      simp [State.current, State.receive]
    · simp [State.current, State.receive, hc']

end Kubvernor.Xds
