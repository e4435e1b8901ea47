import Kubvernor.Agentgateway.Simulation

/-!
# The delta server delivers

A subscription stays sound in every state reached by orderly steps, so once nothing is under way a client
holds what was last produced for its gateway, and the server has that cached for it. Left to itself a
handler is late: it sends a snapshot the service has replaced in the meantime, or writes back an old copy
of its client.
-/

namespace Kubvernor.Agentgateway

open Lib

variable {β : Type}

/-! ## The property -/

section
variable (σ : State β)

/-- Nothing is under way: no update, and no request and no response on a live stream. -/
def Quiet : Prop :=
  σ.events = [] ∧ σ.service = .idle ∧
    ∀ s < σ.nextStream, ∀ st ∈ σ.streams s, st.handler ≠ .ended →
      st.requests = [] ∧ st.responses = [] ∧ st.handler = .idle

/-- Every client that is registered with a gateway holds, of the types it asked for, what was last
produced for the gateway, and the server has that cached for it. -/
def Converged : Prop :=
  ∀ k ∈ σ.adsClients, ∀ g, k.gatewayId = some g → ∃ st, σ.streams k.sender = some st ∧
    ∀ t, st.asked t = true →
      SameItems (st.held t) (σ.produced t g) ∧ SameItems (k.items t) (st.held t)

end

variable {σ σ' : State β} {a : Step β}

/-! ## Runs -/

/-- What holds in every state of an orderly run. -/
structure Invariant (σ : State β) : Prop where
  registry : Registry σ
  listing : Listing σ
  stored : Stored σ
  named : AllNamed σ
  sound : ∀ s st t, σ.streams s = some st → st.handler ≠ .ended → (σ.subscription s st t).Sound Item.name

theorem Invariant.init : Invariant ({} : State β) where
  registry := by
    constructor
    · simp [State.lines]
    · constructor <;> simp [State.live, State.lines]
    · simp
    · simp
  listing := by
    constructor
    · constructor <;> simp [Service.clients]
    · simp [Service.clients]
    · simp [Service.clients]
  stored := by
    constructor
    · simp [Service.stored?]
    · intro t g
      cases t <;> rfl
  named := by
    constructor
    · exact fun g t => by cases t <;> exact Named.nil
    · simp [Service.clients]
    · simp
    · simp [Service.action?]
  sound := fun s st t h => by simp at h

/-- Once nothing is under way, what is stored was produced last, and every registered client holds it. -/
theorem Invariant.converged (h : Invariant σ) (hquiet : Quiet σ) : Converged σ := by
  obtain ⟨hevents, hservice, hstreams⟩ := hquiet
  intro k hk g hg
  have hgateway := h.registry.gateway k hk g hg
  simp only [State.gateway, State.lines, Option.map_map, Option.map_eq_some_iff] at hgateway
  obtain ⟨st, hst, hgateway⟩ := hgateway
  have hgateway : st.gateway = g := hgateway
  have hentry := h.registry.sessions.entry k hk
  simp only [State.live, State.lines_of_stream hst, Option.bind_some, Line.live?] at hentry
  have hlive : st.handler ≠ .ended := by
    intro hended
    simp [Stream.line, hended] at hentry
  have hip : st.clientIp = k.clientId :=
    Option.some.inj ((State.live_of_stream hst hlive).symm.trans (h.registry.sessions.entry k hk))
  have hfind : AdsClients.getClientByClientId σ.adsClients st.clientIp = some k :=
    hip ▸ Table.find_of_mem h.registry.sessions.nodup hk
  obtain ⟨hrequests, hresponses, hhandler⟩ :=
    hstreams k.sender (h.registry.numbered _ _ (State.lines_of_stream hst)) st hst hlive
  refine ⟨st, hst, fun t hasked => ?_⟩
  have hproduced : σ.stored g t = σ.produced t g := by
    rw [← h.stored.produced t g, State.pending, hevents, hservice]
    rfl
  obtain ⟨hfinal, hcached⟩ : elems (delivered t st.responses (st.held t)) = elems (σ.stored st.gateway t) ∧
      (AdsClients.getClientByClientId σ.adsClients st.clientIp).elim ∅ (fun k => elems (k.items t)) =
        elems (σ.stored st.gateway t) := by
    refine (h.sound k.sender st t hst hlive).held hasked ?_ ?_ ?_ ?_
    · simp [State.subscription, hfind, hg]
    · simp [State.subscription, hservice, Service.work]
    · simp [State.subscription, hhandler, Handler.ready]
    · simp [State.subscription, hrequests, hhandler, Handler.waiting]
  rw [hresponses, hgateway, hproduced] at hfinal
  rw [hfind, hgateway, hproduced] at hcached
  exact ⟨sameItems_iff.2 hfinal, sameItems_iff.2 (hcached.trans hfinal.symm)⟩

section
variable [DecidableEq β]

theorem Invariant.step (h : Invariant σ) (hok : Orderly σ a) (hstep : server.step σ a = some σ') :
    Invariant σ' := by
  have hmove : Move σ a σ' := move_of_step hstep
  have hnew : NewAddress σ a := by
    cases a with
    | connect addr g => exact hok
    | _ => trivial
  have hnames : NamesItems a := by
    cases a with
    | changed e => exact hok
    | _ => trivial
  constructor
  · exact hmove.registry h.registry h.listing hnew
  · exact hmove.listing h.listing h.registry hnew
  · exact hmove.stored h.stored h.listing
  · exact hmove.named h.named h.listing hnames
  · intro s st t hst hlive
    rcases hmove.follows h.registry h.listing h.stored h.named hok h.sound hst hlive with hsound | hfollows
    · exact hsound
    · obtain ⟨st', hst', hlive', hsteps⟩ := hfollows
      exact (h.sound s st' t hst' hlive').steps hsteps

/-- **The server delivers** in every run in which new streams have addresses of their own, updates name
their items, Pods are found, and the handlers write and send what is current. -/
theorem server_delivers {as : List (Step β)} (hok : server.Along Orderly server.init as)
    (hrun : server.run server.init as = some σ) (hquiet : Quiet σ) : Converged σ := by
  have hinv : Invariant σ :=
    Lib.System.inv_run (fun _ _ _ h hok hstep => h.step hok hstep) Invariant.init hok hrun
  exact hinv.converged hquiet

end

/-! ## A handler that is late -/

section
variable [DecidableEq β] (σ : State β)

instance (l l' : List (Item β)) : Decidable (SameItems l l') := inferInstanceAs (Decidable (_ ∧ _))

instance (l : List (Item β)) : Decidable (Named l) :=
  decidable_of_iff ((∀ i ∈ l, i.name?.isSome) ∧ ∀ i ∈ l, ∀ j ∈ l, i.name = j.name → i = j)
    ⟨fun h => ⟨h.1, h.2⟩, fun h => ⟨h.named, h.inj⟩⟩

instance (st : Stream β) (k : AdsClient β) : Decidable (WritesCurrent σ st k) :=
  inferInstanceAs (Decidable (∀ c ∈ AdsClients.getClientByClientId σ.adsClients st.clientIp,
    ∀ t ∈ [TypeUrl.resource, .address], _))

instance (s : StreamId) (st : Stream β) (t : TypeUrl) (k : AdsClient β) : Decidable (SendsCurrent σ s st t k) :=
  inferInstanceAs (Decidable (∀ i ∈ k.items t, _ ∨ _))

instance (s : StreamId) (st : Stream β) (handler : Handler β) : Decidable (UpToDate σ s st handler) :=
  match handler with
  | .update _ k => inferInstanceAs (Decidable (WritesCurrent σ st k))
  | .respond (some t) k => inferInstanceAs (Decidable (SendsCurrent σ s st t k))
  | .respond none _ | .idle | .lookup _ | .await .. | .ended => .isTrue trivial

instance (a : Step β) : Decidable (Orderly σ a) :=
  match a with
  | .connect addr _ =>
    inferInstanceAs (Decidable (∀ k ∈ σ.adsClients ++ σ.service.clients, k.clientId ≠ addr))
  | .changed e => inferInstanceAs (Decidable (Named e.items))
  | .lookupFails _ => .isFalse not_false
  | .handler s => inferInstanceAs (Decidable (∀ st ∈ σ.streams s, UpToDate σ s st st.handler))
  | .service | .close _ | .request .. | .receive _ => .isTrue trivial

instance : Decidable (Quiet σ) := inferInstanceAs (Decidable (_ ∧ _ ∧ _))

end

/-- A route of a gateway, in one of its versions. -/
def route (spec : String) : Item String := .resource (some (.route "route" spec))

/-- The route of a gateway changes. -/
def changeRoute (spec : String) : Step String := .changed ⟨.resource, "gateway.infra", [route spec]⟩

/-- A client connects and asks for its resources, and the handler does `n` steps. -/
def askSteps (n : Nat) : List (Step String) :=
  [.connect 1 "gateway.infra", .request 0 (.subscribe (some .resource))] ++ List.replicate n (.handler 0)

/-- A client is sent the route, and then its second version. -/
def currentRun : List (Step String) :=
  changeRoute "a" :: List.replicate 3 .service ++ askSteps 5 ++ [.receive 0] ++
    changeRoute "b" :: List.replicate 6 .service ++ [.receive 0, .receive 0]

theorem currentRun_delivers : ∃ σ, server.run server.init currentRun = some σ ∧
    (σ.streams 0).map (·.held .resource) = some [route "b"] ∧ Converged σ := by
  have h : (server.run server.init currentRun).map (fun σ => decide (Quiet σ ∧
      (σ.streams 0).map (·.held .resource) = some [route "b"])) = some true := by decide +kernel
  obtain ⟨σ, hrun, h⟩ := Option.map_eq_some_iff.1 h
  obtain ⟨hquiet, hheld⟩ := of_decide_eq_true h
  exact ⟨σ, hrun, hheld, server_delivers (by decide +kernel) hrun hquiet⟩

/-- The route changes, and the service sends the second version, before the handler sends its snapshot
of the first. -/
def lateSnapshotRun : List (Step String) :=
  changeRoute "a" :: List.replicate 3 .service ++ askSteps 4 ++
    changeRoute "b" :: List.replicate 6 .service ++ [.handler 0, .receive 0, .receive 0, .receive 0]

theorem lateSnapshotRun_not_converged : ∃ σ, server.run server.init lateSnapshotRun = some σ ∧
    Quiet σ ∧ ¬ Converged σ := by
  have h : (server.run server.init lateSnapshotRun).map (fun σ => decide (Quiet σ ∧
      (∃ k ∈ σ.adsClients, k.sender = 0 ∧ k.gatewayId = some "gateway.infra") ∧
      σ.produced .resource "gateway.infra" = [route "b"] ∧
      (σ.streams 0).map (fun st => (st.asked .resource, st.held .resource)) = some (true, [route "a"]))) =
      some true := by decide +kernel
  obtain ⟨σ, hrun, h⟩ := Option.map_eq_some_iff.1 h
  obtain ⟨hquiet, ⟨k, hk, hsender, hg⟩, hproduced, hheld⟩ := of_decide_eq_true h
  refine ⟨σ, hrun, hquiet, fun hconverged => ?_⟩
  obtain ⟨st, hst, h⟩ := hconverged k hk _ hg
  rw [hsender] at hst
  rw [hst, Option.map_some, Option.some.injEq, Prod.mk.injEq] at hheld
  obtain ⟨hsame, -⟩ := h .resource hheld.1
  rw [hheld.2, hproduced] at hsame
  exact absurd hsame (by decide)

/-- The route changes, and the service caches the second version, while the handler looks up the Pod for
another request: it writes its old copy back. -/
def lateCopyRun : List (Step String) :=
  changeRoute "a" :: List.replicate 3 .service ++ askSteps 5 ++
    [.receive 0, .request 0 (.subscribe (some .address)), .handler 0, .handler 0] ++
    changeRoute "b" :: List.replicate 6 .service ++ List.replicate 3 (.handler 0) ++
    List.replicate 3 (.receive 0)

theorem lateCopyRun_not_converged : ∃ σ, server.run server.init lateCopyRun = some σ ∧
    Quiet σ ∧ ¬ Converged σ := by
  have h : (server.run server.init lateCopyRun).map (fun σ => decide (Quiet σ ∧
      (∃ k ∈ σ.adsClients, k.sender = 0 ∧ k.gatewayId = some "gateway.infra" ∧ k.resources = [route "a"]) ∧
      (σ.streams 0).map (fun st => (st.asked .resource, st.held .resource)) = some (true, [route "b"]))) =
      some true := by decide +kernel
  obtain ⟨σ, hrun, h⟩ := Option.map_eq_some_iff.1 h
  obtain ⟨hquiet, ⟨k, hk, hsender, hg, hcached⟩, hheld⟩ := of_decide_eq_true h
  refine ⟨σ, hrun, hquiet, fun hconverged => ?_⟩
  obtain ⟨st, hst, h⟩ := hconverged k hk _ hg
  rw [hsender] at hst
  rw [hst, Option.map_some, Option.some.injEq, Prod.mk.injEq] at hheld
  obtain ⟨-, hsame⟩ := h .resource hheld.1
  rw [hheld.2, show k.items .resource = k.resources from rfl, hcached] at hsame
  exact absurd hsame (by decide)

end Kubvernor.Agentgateway
