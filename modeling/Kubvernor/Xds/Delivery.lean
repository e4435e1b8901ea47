import Kubvernor.Xds.Subscription
import Kubvernor.Xds.Versions

/-!
# The server converges

Every move of the server changes the subscription of an open stream by steps of a subscription, as
long as no request is left unanswered that a reason of `Subscription.Step.withhold` does not cover.
So a subscription is sound in every state reached by such steps, and once nothing is in flight every
Envoy holds what it asked for. Left to itself the server does leave such requests: an Envoy that
reconnects with version `0` of an earlier update is not sent the next one.
-/

namespace Kubvernor.Xds

variable {ρ : Type}

/-! ## The subscription of a stream -/

/-- Among some clients, the one of the stream. -/
def clientOf (ks : List AdsClient) (s : StreamId) : Option AdsClient := ks.find? (·.sender = s)

/-- The service is to send an update of the type on the stream of a client of the gateway. -/
def Service.owes (s : StreamId) (t : TypeUrl) (g : String) : Service ρ → Bool
  | .inserted e => e.type = t ∧ e.gatewayId = g
  | .sending e k todo => e.type = t ∧ (clientOf (k :: todo) s).isSome
  | .storing e _ todo => e.type = t ∧ (clientOf todo s).isSome
  | .idle | .received _ => false

/-- The version the service is to write to the entry of the stream's client. -/
def Service.store (s : StreamId) (t : TypeUrl) : Service ρ → Option Nat
  | .sending e k todo | .storing e k todo =>
    (clientOf (k :: todo) s).map fun k => (k.ackVersions.set e.type e.ackVersion).get t
  | .idle | .received _ | .inserted _ => none

theorem clientOf_cons (k : AdsClient) (ks : List AdsClient) (s : StreamId) :
    clientOf (k :: ks) s = if k.sender = s then some k else clientOf ks s := by
  simp only [clientOf, List.find?_cons]
  split <;> simp_all

theorem Service.owes_next (e : ServerAction ρ) (todo : List AdsClient) (s : StreamId) (t : TypeUrl)
    (g : String) :
    (Service.next e todo).owes s t g = decide (e.type = t ∧ (clientOf todo s).isSome) := by
  cases todo with
  | nil => simp [Service.next, Service.owes, clientOf]
  | cons => rfl

theorem Service.store_next (e : ServerAction ρ) (todo : List AdsClient) (s : StreamId) (t : TypeUrl) :
    (Service.next e todo).store s t = (clientOf todo s).map fun k =>
      (k.ackVersions.set e.type e.ackVersion).get t := by
  cases todo <;> rfl

/-- What the handler does about the type `t`. -/
def Handler.answering (t : TypeUrl) : Handler ρ → Answering ρ
  | .idle | .ended => .idle
  | .lookup r => if r.type = t then .lookup r.versionInfo else .idle
  | .assign r k =>
    if r.type = t then .assign r.versionInfo (k.ackVersions.get t) else .aside (k.ackVersions.get t)
  | .read r k => if r.type = t then .read (k.ackVersions.get t) else .aside (k.ackVersions.get t)
  | .restore r k resources | .respond r k resources =>
    if r.type = t then .inHand resources (k.ackVersions.get t) else .aside (k.ackVersions.get t)

/-- The requests for the type `t`, and the responses with it. -/
def requestsOf (t : TypeUrl) (requests : List DiscoveryRequest) : List (Option Nat) :=
  (requests.filter (·.type = t)).map (·.versionInfo)

def responsesOf (t : TypeUrl) (responses : List (DiscoveryResponse ρ)) : List (Update ρ) :=
  (responses.filter (·.type = t)).map fun r => ⟨r.resources, r.version⟩

section
variable (gatewayOf : EnvoyId → String) (σ : State ρ)

def State.subscription (s : StreamId) (st : Stream ρ) (t : TypeUrl) : Subscription ρ :=
  let client := AdsClients.getClientByClientId σ.adsClients st.clientIp
  { channel := σ.adsChannels t (gatewayOf st.envoy)
    owed := σ.service.owes s t (gatewayOf st.envoy)
    store := σ.service.store s t
    subscribed := client.any (·.gatewayId.isSome)
    version := (client.map (·.ackVersions.get t)).getD 0
    handler := st.handler.answering t
    requests := requestsOf t st.requests
    responses := responsesOf t st.responses
    held := (σ.envoys st.envoy).resources t
    heldVersion := (σ.envoys st.envoy).version t
    asked := st.asked t
    answered := st.answered t }

/-- A handler leaves a request unanswered, though nothing was sent on the stream, the Envoy does not
hold what is stored, and the service is not about to send it. -/
def WithholdsStale : Step ρ → Prop
  | .handler s =>
    match σ.streams s with
    | none => False
    | some st =>
      match st.handler with
      | .assign r k =>
        st.isOpen = true ∧ r.versionInfo = some (k.ackVersions.get r.type) ∧
          st.answered r.type = false ∧ σ.service.owes s r.type (gatewayOf st.envoy) = false ∧
          ∃ u ∈ σ.adsChannels r.type (gatewayOf st.envoy),
            (σ.envoys st.envoy).resources r.type ≠ some u.resources
      | _ => False
  | _ => False

/-- A new stream has an address of its own, a change a new version, and no request is left unanswered
that must be answered. -/
def Orderly (a : Step ρ) : Prop :=
  NewAddress σ a ∧ NewVersion σ a ∧ ¬ WithholdsStale gatewayOf σ a

/-- Nothing is under way: no update, and no request and no response on an open stream. -/
def Quiet : Prop :=
  σ.deployer = none ∧ σ.events = [] ∧ σ.service = .idle ∧
    ∀ s < σ.nextStream, ∀ st ∈ σ.streams s, st.isOpen = true →
      st.requests = [] ∧ st.responses = [] ∧ st.handler = .idle

/-- Every connected client holds the latest resources of the types it asked for on its stream. -/
def Converged : Prop :=
  ∀ c s st t resources, (σ.envoys c).stream = some s → σ.streams s = some st → st.asked t = true →
    σ.produced t (gatewayOf c) = some resources → (σ.envoys c).resources t = some resources

end

variable {gatewayOf : EnvoyId → String} {σ σ' : State ρ} {a : Step ρ} {s : StreamId} {st : Stream ρ}
  {t : TypeUrl}

/-! ## Moves elsewhere -/

theorem subscription_congr
    (hchannel : σ'.adsChannels t (gatewayOf st.envoy) = σ.adsChannels t (gatewayOf st.envoy))
    (howed : σ'.service.owes s t (gatewayOf st.envoy) = σ.service.owes s t (gatewayOf st.envoy))
    (hstore : σ'.service.store s t = σ.service.store s t)
    (hclient : AdsClients.getClientByClientId σ'.adsClients st.clientIp =
      AdsClients.getClientByClientId σ.adsClients st.clientIp)
    (henvoy : σ'.envoys st.envoy = σ.envoys st.envoy) :
    σ'.subscription gatewayOf s st t = σ.subscription gatewayOf s st t := by
  simp only [State.subscription, hchannel, howed, hstore, hclient, henvoy]

/-- Another stream whose handler has not ended has another address. -/
theorem Registry.clientIp_ne (h : Registry gatewayOf σ) {s s' : StreamId} {l l' : Line}
    (hl : σ.lines s = some l) (hended : l.ended = false) (hl' : σ.lines s' = some l')
    (hended' : l'.ended = false) (hne : s ≠ s') : l.clientIp ≠ l'.clientIp :=
  h.sessions.address_ne (State.live_eq_some.2 ⟨l, hl, hended, rfl⟩)
    (State.live_eq_some.2 ⟨l', hl', hended', rfl⟩) hne

/-- The handler of another stream writes to another entry. -/
theorem getClientByClientId_updateClient_of_ne (h : Registry gatewayOf σ) (hcopies : Copies gatewayOf σ)
    (hst : σ.streams s = some st) (hopen : st.isOpen = true) {s' : StreamId} {st' : Stream ρ}
    (hst' : σ.streams s' = some st') {k : AdsClient} (hcopy : st'.handler.copy? = some k) (hne : s ≠ s') :
    AdsClients.getClientByClientId (AdsClients.updateClient σ.adsClients k) st.clientIp =
      AdsClients.getClientByClientId σ.adsClients st.clientIp := by
  have hended' : st'.line.ended = false := by
    cases hhandler : st'.handler with
    | ended => simp [hhandler, Handler.copy?] at hcopy
    | _ => simp [Stream.line, hhandler]
  have hl := State.lines_of_stream hst
  have hip := h.clientIp_ne hl (h.current s _ hl hopen).2 (State.lines_of_stream hst') hended' hne
  rw [AdsClients.getClientByClientId_updateClient, if_neg]
  rw [(hcopies s' st' k hst' hcopy).1]
  exact hip

/-- The handler of a stream writes to its client's entry. -/
theorem subscription_updateClient (h : Registry gatewayOf σ) (hst : σ.streams s = some st)
    (hopen : st.isOpen = true) {k : AdsClient} (hip : k.clientId = st.clientIp) {g : String}
    (hg : k.gatewayId = some g) (st' : Stream ρ) (hip' : st'.clientIp = st.clientIp) :
    State.subscription gatewayOf { σ with adsClients := AdsClients.updateClient σ.adsClients k } s st' t =
      { σ.subscription gatewayOf s st' t with subscribed := true, version := k.ackVersions.get t } := by
  have hl := State.lines_of_stream hst
  obtain ⟨c, hc, -⟩ := h.exists_client hl (h.current s _ hl hopen).2
  have hc : AdsClients.getClientByClientId σ.adsClients st'.clientIp = some c := by
    rw [hip']
    exact hc
  have hupdate : AdsClients.getClientByClientId (AdsClients.updateClient σ.adsClients k) st'.clientIp =
      some (c.updateFrom k) := by
    rw [AdsClients.getClientByClientId_updateClient, if_pos (hip'.trans hip.symm), hc]
    rfl
  simp [State.subscription, hupdate, AdsClient.updateFrom, hg]

/-- A subscription that comes from one of before by its steps, or is sound as it is. -/
def Follows (gatewayOf : EnvoyId → String) (σ : State ρ) (s : StreamId) (t : TypeUrl)
    (v : Subscription ρ) : Prop :=
  v.Sound ∨ ∃ st, σ.streams s = some st ∧ st.isOpen = true ∧
    Relation.ReflTransGen Subscription.Step (σ.subscription gatewayOf s st t) v

theorem Follows.same (hst : σ.streams s = some st) (hopen : st.isOpen = true)
    {v : Subscription ρ} (h : v = σ.subscription gatewayOf s st t) : Follows gatewayOf σ s t v :=
  .inr ⟨st, hst, hopen, h ▸ .refl⟩

theorem Follows.step (hst : σ.streams s = some st) (hopen : st.isOpen = true) {v v' : Subscription ρ}
    (h : (σ.subscription gatewayOf s st t).Step v') (hv : v = v') : Follows gatewayOf σ s t v :=
  .inr ⟨st, hst, hopen, hv ▸ .single h⟩

/-! ## The handler's moves -/

theorem streams_setStream_of_ne {s' : StreamId} {st' : Stream ρ} (hs : s ≠ s') :
    (σ.setStream s' st').streams s = σ.streams s := by
  simp [State.setStream, hs]

theorem eq_of_streams_setStream {st' : Stream ρ} (h : (σ.setStream s st').streams s = some st) :
    st = st' := by
  simpa [State.setStream] using h.symm

theorem follows_take (hst : σ.streams s = some st) (hopen : st.isOpen = true) {r : DiscoveryRequest}
    {rest : List DiscoveryRequest} (hidle : st.handler = .idle) (hrequests : st.requests = r :: rest) :
    Follows gatewayOf σ s t
      (σ.subscription gatewayOf s { st with requests := rest, handler := .lookup r } t) := by
  by_cases ht : r.type = t
  · refine .step hst hopen (.take r.versionInfo (requestsOf t rest) ?_ ?_) ?_
    · simp [State.subscription, hidle, Handler.answering]
    · simp [State.subscription, requestsOf, hrequests, ht]
    · simp [State.subscription, Handler.answering, ht]
  · refine .same hst hopen ?_
    simp [State.subscription, Handler.answering, ht, requestsOf, hidle, hrequests]

theorem follows_lookup (hst : σ.streams s = some st) (hopen : st.isOpen = true) {r : DiscoveryRequest}
    (hlookup : st.handler = .lookup r) {k : AdsClient}
    (hk : AdsClients.getClientByClientId σ.adsClients st.clientIp = some k) :
    Follows gatewayOf σ s t (σ.subscription gatewayOf s
      { st with handler := .assign r { k with gatewayId := some (gatewayOf st.envoy) } } t) := by
  by_cases ht : r.type = t
  · refine .step hst hopen (.clone r.versionInfo ?_) ?_
    · simp [State.subscription, hlookup, Handler.answering, ht]
    · simp [State.subscription, Handler.answering, ht, hk]
  · refine .step hst hopen (.stepAside ?_) ?_
    · simp [State.subscription, hlookup, Handler.answering, ht]
    · simp [State.subscription, Handler.answering, ht, hk]

theorem follows_withhold (h : Registry gatewayOf σ) (hcopies : Copies gatewayOf σ)
    (hst : σ.streams s = some st) (hopen : st.isOpen = true) {r : DiscoveryRequest} {k : AdsClient}
    (hassign : st.handler = .assign r k) (heq : r.versionInfo = some (k.ackVersions.get r.type))
    (hok : ¬ WithholdsStale gatewayOf σ (.handler s)) :
    Follows gatewayOf σ s t (State.subscription gatewayOf
      { σ with adsClients := AdsClients.updateClient σ.adsClients k } s { st with handler := .idle } t) := by
  obtain ⟨hip, hg⟩ := hcopies s st k hst (by rw [hassign]; rfl)
  rw [subscription_updateClient h hst hopen hip hg { st with handler := .idle } rfl]
  by_cases ht : r.type = t
  · subst ht
    refine .step hst hopen (.withhold (k.ackVersions.get r.type) ?_ ?_) ?_
    · simp [State.subscription, hassign, Handler.answering, heq]
    · simp only [WithholdsStale, hst, hassign, hopen, heq, true_and] at hok
      simp only [State.subscription]
      cases hans : st.answered r.type with
      | true => exact .inl rfl
      | false =>
        cases howes : σ.service.owes s r.type (gatewayOf st.envoy) with
        | true => exact .inr (.inl rfl)
        | false =>
          refine .inr (.inr fun u hu => ?_)
          by_contra hheld
          exact hok ⟨hans, howes, u, hu, hheld⟩
    · simp [State.subscription, Handler.answering]
  · refine .inr ⟨st, hst, hopen, ?_⟩
    have haside : (σ.subscription gatewayOf s st t).handler = .aside (k.ackVersions.get t) := by
      simp [State.subscription, hassign, Handler.answering, ht]
    exact .tail (.single (.overwrite (k.ackVersions.get t) (by rw [haside]; rfl)))
      (.stepBack (k.ackVersions.get t) haside)

theorem follows_accept (h : Registry gatewayOf σ) (hcopies : Copies gatewayOf σ)
    (hst : σ.streams s = some st) (hopen : st.isOpen = true) {r : DiscoveryRequest} {k : AdsClient}
    (hassign : st.handler = .assign r k) (hne : r.versionInfo ≠ some (k.ackVersions.get r.type)) :
    Follows gatewayOf σ s t (State.subscription gatewayOf
      { σ with adsClients := AdsClients.updateClient σ.adsClients k } s
      { st with handler := .read r k } t) := by
  obtain ⟨hip, hg⟩ := hcopies s st k hst (by rw [hassign]; rfl)
  rw [subscription_updateClient h hst hopen hip hg { st with handler := .read r k } rfl]
  by_cases ht : r.type = t
  · subst ht
    refine .step hst hopen (.accept r.versionInfo (k.ackVersions.get r.type) ?_ hne) ?_
    · simp [State.subscription, hassign, Handler.answering]
    · simp [State.subscription, Handler.answering]
  · refine .step hst hopen (.overwrite (k.ackVersions.get t) ?_) ?_
    · simp [State.subscription, hassign, Handler.answering, ht, Answering.version?]
    · simp [State.subscription, hassign, Handler.answering, ht]

theorem follows_absent (hst : σ.streams s = some st) (hopen : st.isOpen = true) {r : DiscoveryRequest}
    {k : AdsClient} (hread : st.handler = .read r k)
    (hnone : σ.adsChannels r.type (gatewayOf st.envoy) = none) :
    Follows gatewayOf σ s t (σ.subscription gatewayOf s { st with handler := .idle } t) := by
  by_cases ht : r.type = t
  · subst ht
    refine .step hst hopen (.absent (k.ackVersions.get r.type) ?_ hnone) rfl
    simp [State.subscription, hread, Handler.answering]
  · refine .step hst hopen (.stepBack (k.ackVersions.get t) ?_) rfl
    simp [State.subscription, hread, Handler.answering, ht]

theorem follows_found (hst : σ.streams s = some st) (hopen : st.isOpen = true) {r : DiscoveryRequest}
    {k : AdsClient} (hread : st.handler = .read r k) {u : Update ρ}
    (hu : σ.adsChannels r.type (gatewayOf st.envoy) = some u) {h : Handler ρ}
    (hh : h = .restore r k u.resources ∨ h = .respond r k u.resources) :
    Follows gatewayOf σ s t (σ.subscription gatewayOf s { st with handler := h } t) := by
  have hanswering : h.answering t =
      if r.type = t then .inHand u.resources (k.ackVersions.get t) else .aside (k.ackVersions.get t) := by
    rcases hh with rfl | rfl <;> rfl
  by_cases ht : r.type = t
  · subst ht
    refine .step hst hopen (.found (k.ackVersions.get r.type) ?_ u hu) ?_
    · simp [State.subscription, hread, Handler.answering]
    · simp [State.subscription, hanswering]
  · refine .same hst hopen ?_
    simp only [State.subscription, hanswering, hread, ht, if_false]
    simp [Handler.answering, ht]

theorem follows_restore (h : Registry gatewayOf σ) (hcopies : Copies gatewayOf σ)
    (hst : σ.streams s = some st) (hopen : st.isOpen = true) {r : DiscoveryRequest} {k : AdsClient}
    {resources : List ρ} (hrestore : st.handler = .restore r k resources) :
    Follows gatewayOf σ s t (State.subscription gatewayOf
      { σ with adsClients := AdsClients.updateClient σ.adsClients k } s
      { st with handler := .respond r k resources } t) := by
  obtain ⟨hip, hg⟩ := hcopies s st k hst (by rw [hrestore]; rfl)
  rw [subscription_updateClient h hst hopen hip hg { st with handler := .respond r k resources } rfl]
  refine .step hst hopen (.overwrite (k.ackVersions.get t) ?_) ?_
  · by_cases ht : r.type = t <;>
      simp [State.subscription, hrestore, Handler.answering, ht, Answering.version?]
  · simp [State.subscription, hrestore, Handler.answering]

theorem follows_respond (hst : σ.streams s = some st) (hopen : st.isOpen = true) {r : DiscoveryRequest}
    {k : AdsClient} {resources : List ρ} (hrespond : st.handler = .respond r k resources) :
    Follows gatewayOf σ s t (σ.subscription gatewayOf s
      ({ st with handler := .idle }.push ⟨r.type, resources, k.ackVersions.get r.type⟩) t) := by
  by_cases ht : r.type = t
  · subst ht
    refine .step hst hopen (.respond resources (k.ackVersions.get r.type) ?_) ?_
    · simp [State.subscription, hrespond, Handler.answering]
    · simp [State.subscription, Stream.push, hopen, Handler.answering, responsesOf]
  · refine .step hst hopen (.stepBack (k.ackVersions.get t) ?_) ?_
    · simp [State.subscription, hrespond, Handler.answering, ht]
    · have hne : t ≠ r.type := fun h => ht h.symm
      simp [State.subscription, Stream.push, hopen, Handler.answering, responsesOf, ht, hne]

theorem Move.follows_handler {s' : StreamId} (hmove : Move gatewayOf σ (.handler s') σ')
    (h : Registry gatewayOf σ) (hcopies : Copies gatewayOf σ)
    (hok : ¬ WithholdsStale gatewayOf σ (.handler s')) (hst : σ'.streams s = some st)
    (hopen : st.isOpen = true) : Follows gatewayOf σ s t (σ'.subscription gatewayOf s st t) := by
  by_cases hs : s = s'
  · subst hs
    cases hmove with
    | take _ st' hst' r rest hidle hrequests =>
      obtain rfl := eq_of_streams_setStream hst
      exact follows_take hst' hopen hidle hrequests
    | unknown _ st' hst' r hlookup hnone =>
      obtain rfl := eq_of_streams_setStream hst
      have hl := State.lines_of_stream hst'
      obtain ⟨k, hk, -⟩ := h.exists_client hl (h.current s _ hl hopen).2
      rw [show st'.line.clientIp = st'.clientIp from rfl, hnone] at hk
      simp at hk
    | lookup _ st' hst' r hlookup k hk =>
      obtain rfl := eq_of_streams_setStream hst
      exact follows_lookup hst' hopen hlookup hk
    | withhold _ st' hst' r k hassign heq =>
      obtain rfl := eq_of_streams_setStream hst
      exact follows_withhold h hcopies hst' hopen hassign heq hok
    | accept _ st' hst' r k hassign hne =>
      obtain rfl := eq_of_streams_setStream hst
      exact follows_accept h hcopies hst' hopen hassign hne
    | absent _ st' hst' r k hread hnone =>
      obtain rfl := eq_of_streams_setStream hst
      exact follows_absent hst' hopen hread hnone
    | found _ st' hst' r k hread u hu handler hh =>
      obtain rfl := eq_of_streams_setStream hst
      exact follows_found hst' hopen hread hu hh
    | restore _ st' hst' r k resources hrestore =>
      obtain rfl := eq_of_streams_setStream hst
      exact follows_restore h hcopies hst' hopen hrestore
    | respond _ st' hst' r k resources hrespond =>
      obtain rfl := eq_of_streams_setStream hst
      refine follows_respond hst' ?_ hrespond
      exact (congrArg Line.isOpen (Stream.line_push { st' with handler := .idle } _)).symm.trans hopen
  · cases hmove with
    | take _ st' hst' | unknown _ st' hst' | lookup _ st' hst' | absent _ st' hst' | found _ st' hst'
    | respond _ st' hst' =>
      rw [streams_setStream_of_ne hs] at hst
      exact .same hst hopen rfl
    | withhold _ st' hst' r k hhandler | accept _ st' hst' r k hhandler
    | restore _ st' hst' r k _ hhandler =>
      have hst : σ.streams s = some st := (streams_setStream_of_ne hs).symm.trans hst
      refine .same hst hopen (subscription_congr rfl rfl rfl ?_ rfl)
      exact getClientByClientId_updateClient_of_ne h hcopies hst hopen hst' (by rw [hhandler]; rfl) hs

/-! ## The service's moves -/

theorem follows_insert (hn : Numbered σ) (hst : σ.streams s = some st) (hopen : st.isOpen = true)
    {e : ServerAction ρ} (hservice : σ.service = .received e) :
    Follows gatewayOf σ s t
      (State.subscription gatewayOf { σ.insert e with service := .inserted e } s st t) := by
  by_cases hkey : t = e.type ∧ gatewayOf st.envoy = e.gatewayId
  · refine .step hst hopen (.publish ⟨e.resources, e.ackVersion⟩ fun w hw => ?_) ?_
    · refine hn.ahead e ?_ w ?_
      · simp [State.pending, hservice, Service.received?]
      · rw [← hkey.1, ← hkey.2]
        exact hw
    · simp [State.subscription, State.insert, hservice, Service.owes, Service.store, hkey]
  · refine .same hst hopen (subscription_congr ?_ ?_ ?_ rfl rfl)
    · simp [State.insert, hkey]
    · have hne : ¬ (e.type = t ∧ e.gatewayId = gatewayOf st.envoy) :=
        fun h => hkey ⟨h.1.symm, h.2.symm⟩
      simp [hservice, Service.owes, hne]
    · simp [hservice, Service.store]

/-- Among the clients of a gateway, the one of the stream. -/
theorem Registry.clientOf_gateway (h : Registry gatewayOf σ) {c : AdsClient} (hc : c ∈ σ.adsClients)
    (hsender : c.sender = s) (g : String) :
    clientOf (AdsClients.getClientsByGatewayId σ.adsClients g) s =
      if c.gatewayId = some g then some c else none := by
  have heq : ∀ k ∈ σ.adsClients, k.sender = s → k = c := fun k hk hks =>
    h.sessions.eq_of_sender hk hc (hks.trans hsender.symm)
  cases hfind : clientOf (AdsClients.getClientsByGatewayId σ.adsClients g) s with
  | none =>
    rw [if_neg]
    intro hg
    have := List.find?_eq_none.1 hfind c (AdsClients.mem_getClientsByGatewayId.2 ⟨hc, hg⟩)
    simp [hsender] at this
  | some k =>
    obtain ⟨hk, hg⟩ := AdsClients.mem_getClientsByGatewayId.1 (List.mem_of_find?_eq_some hfind)
    obtain rfl := heq k hk (by simpa using List.find?_some hfind)
    rw [if_pos hg]

theorem follows_enlist (h : Registry gatewayOf σ) (hn : Numbered σ) (hst : σ.streams s = some st)
    (hopen : st.isOpen = true) {e : ServerAction ρ} (hservice : σ.service = .inserted e) :
    Follows gatewayOf σ s t (State.subscription gatewayOf
      { σ with service := .next e (AdsClients.getClientsByGatewayId σ.adsClients e.gatewayId) } s st t) := by
  have hl := State.lines_of_stream hst
  obtain ⟨c, hc, hmem, hsender, hgateway⟩ := h.exists_client hl (h.current s _ hl hopen).2
  have hc : AdsClients.getClientByClientId σ.adsClients st.clientIp = some c := hc
  have hgateway : ∀ g, c.gatewayId = some g → g = gatewayOf st.envoy := hgateway
  have hclient := h.clientOf_gateway hmem hsender e.gatewayId
  by_cases hg : c.gatewayId = some e.gatewayId
  · rw [if_pos hg] at hclient
    have hgw : e.gatewayId = gatewayOf st.envoy := hgateway _ hg
    by_cases ht : e.type = t
    · subst ht
      refine .step hst hopen (.enlist ⟨e.resources, e.ackVersion⟩ ?_ ?_) ?_
      · have hchannel := hn.inserted e (by rw [hservice]; rfl)
        rw [hgw] at hchannel
        exact hchannel
      · simp [State.subscription, hc, hg]
      · simp only [State.subscription, Service.owes_next, Service.store_next, hclient, hservice]
        simp [Service.owes, hgw, AckVersions.get_set]
    · refine .step hst hopen (.visit ?_) ?_
      · simp [State.subscription, hc, hg]
      · have hne : ¬ t = e.type := fun h => ht h.symm
        simp only [State.subscription, Service.owes_next, Service.store_next, hclient, hservice]
        simp [Service.owes, ht, hne, AckVersions.get_set, hc]
  · rw [if_neg hg] at hclient
    by_cases hkey : e.type = t ∧ e.gatewayId = gatewayOf st.envoy
    · refine .step hst hopen (.pass ?_) ?_
      · cases hnone : c.gatewayId with
        | none => simp [State.subscription, hc, hnone]
        | some g => exact absurd (by rw [hnone, hgateway g hnone, hkey.2]) hg
      · simp only [State.subscription, Service.owes_next, Service.store_next, hclient, hservice]
        simp [Service.store]
    · refine .same hst hopen (subscription_congr rfl ?_ ?_ rfl rfl)
      · simp only [Service.owes_next, hclient, hservice]
        simp [Service.owes, hkey]
      · simp only [Service.store_next, hclient, hservice]
        simp [Service.store]

/-- The service has one client for a stream. -/
theorem Served.clientOf_todo (h : Served gatewayOf σ) {k : AdsClient} {todo : List AdsClient}
    (hclients : σ.service.clients = k :: todo) : clientOf todo k.sender = none := by
  rw [clientOf, List.find?_eq_none]
  intro k' hk' heq
  obtain ⟨l, hl, hip, -⟩ := h.client k (by simp [hclients])
  obtain ⟨l', hl', hip', -⟩ := h.client k' (by simp [hclients, hk'])
  rw [of_decide_eq_true heq, hl] at hl'
  obtain rfl := Option.some.inj hl'
  have hnodup := h.nodup
  rw [hclients, List.map_cons, List.nodup_cons] at hnodup
  exact hnodup.1 (hip.symm.trans hip' ▸ List.mem_map_of_mem hk')

theorem follows_send (hs : Served gatewayOf σ) (hn : Numbered σ) (hopen : st.isOpen = true)
    {e : ServerAction ρ} {k : AdsClient} {todo : List AdsClient}
    (hservice : σ.service = .sending e k todo) (hst : σ.streams k.sender = some st) :
    Follows gatewayOf σ k.sender t (State.subscription gatewayOf { σ with service := .storing e k todo }
      k.sender (st.push ⟨e.type, e.resources, e.ackVersion⟩) t) := by
  have hclients : σ.service.clients = k :: todo := by rw [hservice]; rfl
  have htodo := hs.clientOf_todo hclients
  by_cases ht : e.type = t
  · subst ht
    refine .step hst hopen (.send ⟨e.resources, e.ackVersion⟩ ?_ ?_) ?_
    · obtain ⟨l, hl, -, hg⟩ := hs.client k (by simp [hclients])
      have hg' := hs.gateway e (by rw [hservice]; rfl) k (by simp [hclients])
      rw [State.lines_of_stream hst] at hl
      obtain rfl := Option.some.inj hl
      have hgw : gatewayOf st.envoy = e.gatewayId := Option.some.inj (hg.symm.trans hg')
      have hchannel := hn.inserted e (by rw [hservice]; rfl)
      rw [← hgw] at hchannel
      exact hchannel
    · simp [State.subscription, hservice, Service.store, clientOf_cons]
    · simp [State.subscription, Stream.push, hopen, Service.owes, htodo, hservice, Service.store,
        responsesOf]
  · have hne : ¬ t = e.type := fun h => ht h.symm
    refine .same hst hopen ?_
    simp [State.subscription, Stream.push, hopen, Service.owes, hservice, Service.store, responsesOf,
      ht, hne]

theorem follows_save (h : Registry gatewayOf σ) (hs : Served gatewayOf σ) (hopen : st.isOpen = true)
    {e : ServerAction ρ} {k : AdsClient} {todo : List AdsClient}
    (hservice : σ.service = .storing e k todo) (hst : σ.streams k.sender = some st) :
    Follows gatewayOf σ k.sender t (State.subscription gatewayOf
      { σ with
        adsClients := AdsClients.updateClient σ.adsClients
          { k with ackVersions := k.ackVersions.set e.type e.ackVersion }
        service := .next e todo } k.sender st t) := by
  have htodo := hs.clientOf_todo (show σ.service.clients = k :: todo by rw [hservice]; rfl)
  obtain ⟨l, hl, hip, hg⟩ := hs.client k (by simp [hservice, Service.clients])
  rw [State.lines_of_stream hst] at hl
  obtain rfl := Option.some.inj hl
  have hupdate := subscription_updateClient (t := t) h hst hopen
    (k := { k with ackVersions := k.ackVersions.set e.type e.ackVersion }) hip.symm hg st rfl
  refine .step hst hopen (.save ((k.ackVersions.set e.type e.ackVersion).get t) ?_) ?_
  · simp [State.subscription, hservice, Service.store, clientOf_cons]
  · refine Eq.trans ?_ (congrArg (fun v : Subscription ρ => { v with store := none }) hupdate)
    simp only [State.subscription, Service.owes_next, Service.store_next, htodo, hservice]
    simp [Service.owes, htodo]

theorem Move.follows_service (hmove : Move gatewayOf σ .service σ') (h : Registry gatewayOf σ)
    (hs : Served gatewayOf σ) (hn : Numbered σ) (hst : σ'.streams s = some st) (hopen : st.isOpen = true) :
    Follows gatewayOf σ s t (σ'.subscription gatewayOf s st t) := by
  cases hmove with
  | recv e rest hservice hevents =>
    have hst : σ.streams s = some st := hst
    refine .same hst hopen (subscription_congr rfl ?_ ?_ rfl rfl)
    · simp [hservice, Service.owes]
    · simp [hservice, Service.store]
  | insert e hservice => exact follows_insert hn hst hopen hservice
  | enlist e hservice => exact follows_enlist h hn hst hopen hservice
  | send e k todo hservice =>
    by_cases hk : k.sender = s
    · subst hk
      simp only [State.push, Function.update_self, Option.map_eq_some_iff] at hst
      obtain ⟨st, hst, rfl⟩ := hst
      refine follows_send hs hn ?_ hservice hst
      exact (congrArg Line.isOpen (Stream.line_push st _)).symm.trans hopen
    · have hs' : s ≠ k.sender := fun h => hk h.symm
      have hst : σ.streams s = some st := by simpa [State.push, hs'] using hst
      refine .same hst hopen (subscription_congr rfl ?_ ?_ rfl rfl)
      · simp [hservice, Service.owes, clientOf_cons, hk]
      · simp [hservice, Service.store]
  | save e k todo hservice =>
    by_cases hk : k.sender = s
    · subst hk
      exact follows_save h hs hopen hservice hst
    · have hst : σ.streams s = some st := hst
      refine .same hst hopen (subscription_congr rfl ?_ ?_ ?_ rfl)
      · rw [Service.owes_next, hservice]
        rfl
      · rw [Service.store_next, hservice]
        simp [Service.store, clientOf_cons, hk]
      · show AdsClients.getClientByClientId (AdsClients.updateClient σ.adsClients _) st.clientIp = _
        rw [AdsClients.getClientByClientId_updateClient, if_neg]
        intro heq
        have hl := State.lines_of_stream hst
        obtain ⟨c, hc, hmem, hsender, -⟩ := h.exists_client hl (h.current s _ hl hopen).2
        have hip := (AdsClients.mem_of_getClientByClientId hc).2
        refine hk (Eq.trans ?_ hsender)
        exact (hs.entry k (by simp [hservice, Service.clients]) c hmem (hip.trans heq)).symm

/-! ## The Envoys' moves -/

/-- The stream of an Envoy is open, and no other of its streams is. -/
theorem Registry.envoy_ne (h : Registry gatewayOf σ) {s' : StreamId} {st' : Stream ρ} {c : EnvoyId}
    (hc : (σ.envoys c).stream = some s') (hst' : σ.streams s' = some st')
    (hst : σ.streams s = some st) (hopen : st.isOpen = true) (hne : s ≠ s') :
    st'.envoy = c ∧ st.envoy ≠ c := by
  obtain ⟨l, hl, henvoy, -⟩ := h.opened c s' hc
  rw [State.lines_of_stream hst'] at hl
  obtain rfl := Option.some.inj hl
  refine ⟨henvoy, fun heq => hne ?_⟩
  have hcurrent : σ.current st.envoy = some s := (h.current s _ (State.lines_of_stream hst) hopen).1
  rw [heq] at hcurrent
  exact Option.some.inj (hcurrent.symm.trans hc)

theorem follows_request (hst : σ.streams s = some st) (hopen : st.isOpen = true) (t' : TypeUrl) :
    Follows gatewayOf σ s t (σ.subscription gatewayOf s
      { st with
        requests := st.requests ++ [⟨t', (σ.envoys st.envoy).version t'⟩]
        asked := Function.update st.asked t' true } t) := by
  by_cases ht : t' = t
  · subst ht
    refine .step hst hopen .request ?_
    simp [State.subscription, requestsOf]
  · have hne : t ≠ t' := fun h => ht h.symm
    refine .same hst hopen ?_
    simp [State.subscription, requestsOf, ht, hne]

theorem follows_receive (hst : σ.streams s = some st) (hopen : st.isOpen = true)
    {r : DiscoveryResponse ρ} {rest : List (DiscoveryResponse ρ)} (hresponses : st.responses = r :: rest) :
    Follows gatewayOf σ s t ((σ.receive s st r rest).subscription gatewayOf s
      { st with
        responses := rest
        requests := st.requests ++ [⟨r.type, some r.version⟩]
        asked := Function.update st.asked r.type true } t) := by
  by_cases ht : r.type = t
  · subst ht
    refine .step hst hopen
      (.receive ⟨r.resources, r.version⟩ (responsesOf r.type rest) ?_) ?_
    · simp [State.subscription, responsesOf, hresponses]
    · simp [State.subscription, State.receive, State.setStream, requestsOf]
  · have hne : t ≠ r.type := fun h => ht h.symm
    refine .same hst hopen ?_
    simp [State.subscription, State.receive, State.setStream, requestsOf, responsesOf, hresponses, ht, hne]

/-- A new client is added to the table. -/
theorem getClientByClientId_connect {c : EnvoyId} {addr : SocketAddr} (hnew : NewAddress σ (.connect c addr))
    (ip : SocketAddr) :
    AdsClients.getClientByClientId (σ.connect c addr).adsClients ip =
      (AdsClients.getClientByClientId σ.adsClients ip).or
        (if addr = ip then some { sender := σ.nextStream, clientId := addr } else none) := by
  have hclients : (σ.connect c addr).adsClients =
      σ.adsClients ++ [{ sender := σ.nextStream, clientId := addr }] :=
    AdsClients.addOrReplaceClient_of_new fun k hk => hnew k (by simp [hk])
  rw [hclients, AdsClients.getClientByClientId_append]

theorem Service.store_eq_none {sv : Service ρ} (h : ∀ k ∈ sv.clients, k.sender ≠ s) :
    sv.store s t = none := by
  have hnone : clientOf sv.clients s = none := by
    rw [clientOf, List.find?_eq_none]
    intro k hk
    simpa using h k hk
  cases sv with
  | sending e k todo | storing e k todo =>
    rw [Service.clients] at hnone
    simp [Service.store, hnone]
  | _ => rfl

theorem sound_connect {c : EnvoyId} {addr : SocketAddr} (h : Registry gatewayOf σ)
    (hs : Served gatewayOf σ) (hnew : NewAddress σ (.connect c addr)) :
    ((σ.connect c addr).subscription gatewayOf σ.nextStream { envoy := c, clientIp := addr } t).Sound := by
  refine .new ?_ ?_ rfl rfl rfl rfl rfl
  · refine Service.store_eq_none fun k hk => ?_
    obtain ⟨l, hl, -⟩ := hs.client k hk
    exact Nat.ne_of_lt (h.numbered _ l hl)
  · have hnone : AdsClients.getClientByClientId σ.adsClients addr = none := by
      rw [AdsClients.getClientByClientId, List.find?_eq_none]
      intro k hk
      simpa using hnew k (by simp [hk])
    simp [State.subscription, getClientByClientId_connect hnew, hnone]

theorem follows_connect {c : EnvoyId} {addr : SocketAddr} (h : Registry gatewayOf σ)
    (hs : Served gatewayOf σ) (hnew : NewAddress σ (.connect c addr)) (hc : (σ.envoys c).stream = none)
    (hst : (σ.connect c addr).streams s = some st) (hopen : st.isOpen = true) :
    Follows gatewayOf σ s t ((σ.connect c addr).subscription gatewayOf s st t) := by
  by_cases hs' : s = σ.nextStream
  · subst hs'
    obtain rfl := eq_of_streams_setStream hst
    exact .inl (sound_connect h hs hnew)
  · have hst : σ.streams s = some st := (streams_setStream_of_ne hs').symm.trans hst
    have hl := State.lines_of_stream hst
    obtain ⟨hcurrent, hended⟩ := h.current s _ hl hopen
    obtain ⟨k, hk, -⟩ := h.exists_client hl hended
    have hk : AdsClients.getClientByClientId σ.adsClients st.clientIp = some k := hk
    refine .same hst hopen (subscription_congr rfl rfl rfl ?_ ?_)
    · rw [getClientByClientId_connect hnew, hk, Option.some_or]
    · have hne : st.envoy ≠ c := by
        intro heq
        rw [State.current, show st.line.envoy = c from heq, hc] at hcurrent
        simp at hcurrent
      simp [State.connect, hne]

/-! ## All moves -/

theorem Move.follows (hmove : Move gatewayOf σ a σ') (h : Registry gatewayOf σ)
    (hcopies : Copies gatewayOf σ) (hs : Served gatewayOf σ) (hn : Numbered σ)
    (hok : Orderly gatewayOf σ a) (hst : σ'.streams s = some st) (hopen : st.isOpen = true) :
    Follows gatewayOf σ s t (σ'.subscription gatewayOf s st t) := by
  cases a with
  | service => exact hmove.follows_service h hs hn hst hopen
  | handler s' => exact hmove.follows_handler h hcopies hok.2.2 hst hopen
  | changed g clusters listeners deployed =>
    cases hmove with
    | changed =>
      unfold State.change at hst ⊢
      split at hst
      · next hdeployed =>
        rw [if_pos hdeployed]
        exact .same hst hopen rfl
      · next hdeployed =>
        rw [if_neg hdeployed]
        exact .same hst hopen rfl
  | deleted g =>
    cases hmove with
    | deleted =>
      have hst : σ.streams s = some st := hst
      exact .same hst hopen rfl
  | deployer =>
    cases hmove with
    | queue e hdeployer =>
      have hst : σ.streams s = some st := hst
      exact .same hst hopen rfl
  | close s' =>
    cases hmove with
    | close _ st' hst' hclosed hidle =>
      by_cases hs' : s = s'
      · subst hs'
        obtain rfl := eq_of_streams_setStream hst
        simp [hclosed] at hopen
      · have hst : σ.streams s = some st := (streams_setStream_of_ne hs').symm.trans hst
        have hl := State.lines_of_stream hst
        have hended : st'.line.ended = false := by simp [Stream.line, hidle]
        refine .same hst hopen (subscription_congr rfl rfl rfl ?_ rfl)
        exact AdsClients.getClientByClientId_removeClient
          (h.clientIp_ne hl (h.current s _ hl hopen).2 (State.lines_of_stream hst') hended hs')
  | connect c addr =>
    cases hmove with
    | connect _ _ hc => exact follows_connect h hs hok.1 hc hst hopen
  | disconnect c =>
    cases hmove with
    | disconnect _ s' hc st' hst' =>
      by_cases hs' : s = s'
      · subst hs'
        obtain rfl := eq_of_streams_setStream hst
        simp at hopen
      · have hst : σ.streams s = some st := (streams_setStream_of_ne hs').symm.trans hst
        obtain ⟨-, hne⟩ := h.envoy_ne hc hst' hst hopen hs'
        refine .same hst hopen (subscription_congr rfl rfl rfl rfl ?_)
        simp [hne]
  | request c t' =>
    cases hmove with
    | request _ _ s' hc st' hst' =>
      by_cases hs' : s = s'
      · subst hs'
        obtain rfl := eq_of_streams_setStream hst
        exact follows_request hst' hopen t'
      · have hst : σ.streams s = some st := (streams_setStream_of_ne hs').symm.trans hst
        exact .same hst hopen rfl
  | receive c =>
    cases hmove with
    | receive _ s' hc st' hst' r rest hresponses =>
      by_cases hs' : s = s'
      · subst hs'
        obtain rfl := eq_of_streams_setStream hst
        exact follows_receive hst' hopen hresponses
      · have hst : σ.streams s = some st := (streams_setStream_of_ne hs').symm.trans hst
        obtain ⟨henvoy, hne⟩ := h.envoy_ne hc hst' hst hopen hs'
        refine .same hst hopen (subscription_congr rfl rfl rfl rfl ?_)
        rw [← henvoy] at hne
        simp [State.receive, hne]

/-! ## Runs -/

/-- What holds in every state of an orderly run. -/
structure Invariant (gatewayOf : EnvoyId → String) (σ : State ρ) : Prop where
  registry : Registry gatewayOf σ
  copies : Copies gatewayOf σ
  served : Served gatewayOf σ
  numbered : Numbered σ
  sound : ∀ s st t, σ.streams s = some st → st.isOpen = true → (σ.subscription gatewayOf s st t).Sound

theorem Invariant.init : Invariant gatewayOf ({} : State ρ) where
  registry := by constructor <;> simp [State.lines, State.current]
  copies := fun s st k h => by simp at h
  served := by constructor <;> simp [Service.clients]
  numbered := by
    constructor <;> simp [State.pending, Service.received?, Service.inserted?, lastProduced]
  sound := fun s st t h => by simp at h

theorem Invariant.step (h : Invariant gatewayOf σ) (hok : Orderly gatewayOf σ a)
    (hstep : (server gatewayOf).step σ a = some σ') : Invariant gatewayOf σ' := by
  have hmove : Move gatewayOf σ a σ' := move_of_step hstep
  constructor
  · exact hmove.registry h.registry h.copies h.served hok.1
  · exact hmove.copies h.copies
  · exact hmove.served h.served h.registry hok.1
  · exact hmove.numbered h.numbered hok.2.1
  · intro s st t hst hopen
    rcases hmove.follows h.registry h.copies h.served h.numbered hok hst hopen with hsound | hfollows
    · exact hsound
    · obtain ⟨st', hst', hopen', hsteps⟩ := hfollows
      exact (h.sound s st' t hst' hopen').steps hsteps

/-- Once nothing is under way, what is stored was produced last and every Envoy holds it. -/
theorem Invariant.converged (h : Invariant gatewayOf σ) (hquiet : Quiet σ) : Converged gatewayOf σ := by
  obtain ⟨hdeployer, hevents, hservice, hstreams⟩ := hquiet
  intro c s st t resources hc hst hasked hproduced
  obtain ⟨l, hl, henvoy, hopen⟩ := h.registry.opened c s hc
  rw [State.lines_of_stream hst] at hl
  obtain rfl := Option.some.inj hl
  have henvoy : st.envoy = c := henvoy
  obtain ⟨hrequests, hresponses, hhandler⟩ :=
    hstreams s (h.registry.numbered s _ (State.lines_of_stream hst)) st hst hopen
  rw [← h.numbered.produced] at hproduced
  simp only [State.pending, hdeployer, hevents, hservice, Service.received?, lastProduced,
    Option.toList_none, List.append_nil, List.foldl_nil, Option.map_eq_some_iff] at hproduced
  obtain ⟨u, hu, rfl⟩ := hproduced
  have hheld : (σ.envoys st.envoy).resources t = some u.resources := by
    refine (h.sound s st t hst hopen).held hasked ?_ ?_ ?_ ?_ ?_
    · simpa [State.subscription, henvoy] using hu
    · simp [State.subscription, hservice, Service.owes]
    · simp [State.subscription, hhandler, Handler.answering]
    · simp [State.subscription, hrequests, requestsOf]
    · simp [State.subscription, hresponses, responsesOf]
  rwa [henvoy] at hheld

/-- **The server converges** in every run in which new streams have addresses of their own, the numbers
of a gateway go up, and no request is left unanswered that must be answered. -/
theorem server_converges {as : List (Step ρ)}
    (hok : (server gatewayOf).Along (Orderly gatewayOf) (server gatewayOf).init as)
    (hrun : (server gatewayOf).run (server gatewayOf).init as = some σ) (hquiet : Quiet σ) :
    Converged gatewayOf σ := by
  have hinv : Invariant gatewayOf σ := Lib.System.inv_run
    (fun _ _ _ h hok hstep => h.step hok hstep) Invariant.init hok hrun
  exact hinv.converged hquiet

/-! ## A client that comes back -/

instance (σ : State ρ) (a : Step ρ) : Decidable (NewAddress σ a) :=
  match a with
  | .connect _ addr =>
    inferInstanceAs (Decidable (∀ k ∈ σ.adsClients ++ σ.service.clients, k.clientId ≠ addr))
  | .changed .. | .deleted .. | .deployer | .service | .handler .. | .close .. | .disconnect ..
  | .request .. | .receive .. => .isTrue trivial

instance (σ : State ρ) (a : Step ρ) : Decidable (NewVersion σ a) :=
  match a with
  | .changed g _ _ _ =>
    match h : σ.ackVersions g with
    | some v =>
      decidable_of_iff (v.cluster + 1 < UInt32.size ∧ v.listener + 1 < UInt32.size) (by simp [NewVersion, h])
    | none =>
      decidable_of_iff (σ.adsChannels .cluster g = none ∧ σ.adsChannels .listener g = none ∧
        ∀ e ∈ σ.pending, e.gatewayId ≠ g) (by simp [NewVersion, h])
  | .connect .. | .deleted .. | .deployer | .service | .handler .. | .close .. | .disconnect ..
  | .request .. | .receive .. => .isTrue trivial

instance [DecidableEq ρ] (σ : State ρ) (a : Step ρ) : Decidable (WithholdsStale gatewayOf σ a) :=
  match a with
  | .handler s =>
    match hst : σ.streams s with
    | none => .isFalse (by simp [WithholdsStale, hst])
    | some st =>
      match hhandler : st.handler with
      | .assign r k =>
        decidable_of_iff (st.isOpen = true ∧ r.versionInfo = some (k.ackVersions.get r.type) ∧
          st.answered r.type = false ∧ σ.service.owes s r.type (gatewayOf st.envoy) = false ∧
          ∃ u ∈ σ.adsChannels r.type (gatewayOf st.envoy),
            (σ.envoys st.envoy).resources r.type ≠ some u.resources)
          (by simp only [WithholdsStale, hst, hhandler])
      | .idle | .lookup _ | .read .. | .restore .. | .respond .. | .ended =>
        .isFalse (by simp [WithholdsStale, hst, hhandler])
  | .changed .. | .connect .. | .deleted .. | .deployer | .service | .close .. | .disconnect ..
  | .request .. | .receive .. => .isFalse id

instance [DecidableEq ρ] (σ : State ρ) (a : Step ρ) : Decidable (Orderly gatewayOf σ a) :=
  inferInstanceAs (Decidable (_ ∧ _ ∧ _))

instance [DecidableEq ρ] (σ : State ρ) : Decidable (Quiet σ) :=
  inferInstanceAs (Decidable (_ ∧ _ ∧ _ ∧ _))

/-- A gateway changes, and the update of its clusters and that of its listeners are stored and sent to
`n` clients. -/
def changeSteps (clusters : List String) (n : Nat) : List (Step String) :=
  let update := [.service, .service, .service] ++ (List.replicate n [.service, .service]).flatten
  .changed "infra.gateway" clusters ["listener"] true :: .deployer :: (update ++ update)

/-- An Envoy connects and asks for its clusters. -/
def connectSteps (addr : SocketAddr) : List (Step String) := [.connect 0 addr, .request 0 .cluster]

/-- A client that stays connected gets the second version of the clusters. -/
def connectedRun : List (Step String) :=
  changeSteps ["a"] 0 ++ connectSteps 1 ++ List.replicate 6 (.handler 0) ++
    [.receive 0, .handler 0, .handler 0, .handler 0] ++ changeSteps ["b"] 1 ++
    [.receive 0, .handler 0, .handler 0, .handler 0, .receive 0, .handler 0, .handler 0, .handler 0]

theorem connectedRun_converges : ∃ σ, (server fun _ => "infra.gateway").run
      (server fun _ => "infra.gateway").init connectedRun = some σ ∧
    (σ.envoys 0).resources .cluster = some ["b"] ∧ Converged (fun _ => "infra.gateway") σ := by
  have h : ((server fun _ => "infra.gateway").run (server fun _ => "infra.gateway").init
      connectedRun).map (fun σ => decide (Quiet σ ∧ (σ.envoys 0).resources .cluster = some ["b"])) =
      some true := by decide +kernel
  obtain ⟨σ, hrun, h⟩ := Option.map_eq_some_iff.1 h
  obtain ⟨hquiet, hheld⟩ := of_decide_eq_true h
  exact ⟨σ, hrun, hheld, server_converges (by decide +kernel) hrun hquiet⟩

/-- A client installs version `0` of the clusters and leaves; they change; it comes back, and its
request with version `0` matches its new entry. -/
def returningRun : List (Step String) :=
  changeSteps ["a"] 0 ++ connectSteps 1 ++ List.replicate 6 (.handler 0) ++
    [.receive 0, .handler 0, .handler 0, .handler 0, .disconnect 0, .close 0] ++
    changeSteps ["b"] 0 ++ connectSteps 2 ++ List.replicate 3 (.handler 1)

theorem returningRun_not_converged : ∃ σ, (server fun _ => "infra.gateway").run
      (server fun _ => "infra.gateway").init returningRun = some σ ∧
    Quiet σ ∧ ¬ Converged (fun _ => "infra.gateway") σ := by
  have h : ((server fun _ => "infra.gateway").run (server fun _ => "infra.gateway").init
      returningRun).map (fun σ => decide (Quiet σ ∧
        ((σ.envoys 0).stream = some 1 ∧ (σ.streams 1).any (·.asked .cluster)) ∧
        σ.produced .cluster "infra.gateway" = some ["b"] ∧
        (σ.envoys 0).resources .cluster = some ["a"])) = some true := by decide +kernel
  obtain ⟨σ, hrun, h⟩ := Option.map_eq_some_iff.1 h
  obtain ⟨hquiet, ⟨hstream, hasked⟩, hproduced, hheld⟩ := of_decide_eq_true h
  refine ⟨σ, hrun, hquiet, fun hconverged => ?_⟩
  obtain ⟨st, hst, hasked⟩ := (Option.any_eq_true _ _).1 hasked
  have := hconverged 0 1 st .cluster ["b"] hstream hst hasked hproduced
  rw [hheld] at this
  exact absurd this (by decide)

/-- A client comes back from the address of a stream that has not been removed: the end of that stream
removes the client. -/
def sameAddressRun : List (Step String) :=
  changeSteps ["a"] 0 ++ [.connect 0 1, .disconnect 0] ++ connectSteps 1 ++
    [.close 0, .handler 1, .handler 1]

theorem sameAddressRun_not_converged : ∃ σ, (server fun _ => "infra.gateway").run
      (server fun _ => "infra.gateway").init sameAddressRun = some σ ∧
    Quiet σ ∧ ¬ Converged (fun _ => "infra.gateway") σ := by
  have h : ((server fun _ => "infra.gateway").run (server fun _ => "infra.gateway").init
      sameAddressRun).map (fun σ => decide (Quiet σ ∧
        ((σ.envoys 0).stream = some 1 ∧ (σ.streams 1).any (·.asked .cluster)) ∧
        σ.produced .cluster "infra.gateway" = some ["a"] ∧
        (σ.envoys 0).resources .cluster = none)) = some true := by decide +kernel
  obtain ⟨σ, hrun, h⟩ := Option.map_eq_some_iff.1 h
  obtain ⟨hquiet, ⟨hstream, hasked⟩, hproduced, hheld⟩ := of_decide_eq_true h
  refine ⟨σ, hrun, hquiet, fun hconverged => ?_⟩
  obtain ⟨st, hst, hasked⟩ := (Option.any_eq_true _ _).1 hasked
  have := hconverged 0 1 st .cluster ["a"] hstream hst hasked hproduced
  rw [hheld] at this
  exact absurd this (by decide)

end Kubvernor.Xds
