import Kubvernor.Agentgateway.View

/-!
# The names on the wire

A response carries every item in a `Resource` of the discovery protocol, under a name of its own; a
client stores what it receives under those names, and gives up the names a response removes. Here are
the responses with these names, of the service's deltas (`delta_reconstructs`) and of the snapshot a
handler sends first, and what a client stores that receives a snapshot and then deltas, one after the
other (`snapshot_and_deltas_agree_iff`): the snapshot sends all items under one name, the type's url.
-/

namespace Kubvernor.Agentgateway

open Lib

variable {β : Type}

/-! ## Responses with names -/

def TypeUrl.url : TypeUrl → String
  | .resource => "type.googleapis.com/agentgateway.dev.resource.Resource"
  | .address => "type.googleapis.com/istio.workload.Address"

namespace Discovery

/-- `Resource` of the discovery protocol. -/
structure Resource (β : Type) where
  name : String
  resource : Item β
deriving DecidableEq, Repr

/-- `DeltaDiscoveryResponse`, with the resources as they are named. -/
structure Response (β : Type) where
  typeUrl : TypeUrl
  resources : List (Resource β) := []
  removedResources : List String := []
deriving DecidableEq

/-- A client gives up the removed names and stores each resource of the type under its name. -/
def Response.apply (r : Response β) (t : TypeUrl) (held : List (Resource β)) : List (Resource β) :=
  if r.typeUrl = t then holdAll Resource.name (giveUp Resource.name held r.removedResources) r.resources
  else held

/-- The response without the names of its resources. -/
def Response.unnamed (r : Response β) : DeltaDiscoveryResponse β :=
  ⟨some r.typeUrl, r.resources.map (·.resource), r.removedResources⟩

end Discovery

open Discovery

/-- An item as a delta sends it. -/
def Item.toResource (i : Item β) : Discovery.Resource β := ⟨i.name, i⟩

/-- The first response of an update. -/
def Delta.removals (delta : Delta β) (t : TypeUrl) : Response β := ⟨t, [], delta.removed t⟩

/-- The second one. -/
def Delta.additions (delta : Delta β) (t : TypeUrl) : Response β := ⟨t, delta.toAdd.map Item.toResource, []⟩

namespace AdsClient

/-- `cache_resources_and_calculate_delta` and `cache_workloads_and_calculate_delta`, by the type. -/
def cacheAndCalculateDelta [DecidableEq β] (c : AdsClient β) (t : TypeUrl) (new : List (Item β)) :
    AdsClient β × Delta β :=
  (c.setItems t new, Delta.between (c.items t) new)

def cacheResourcesAndCalculateDelta [DecidableEq β] (c : AdsClient β) (newResources : List (Item β)) :
    AdsClient β × Delta β :=
  c.cacheAndCalculateDelta .resource newResources

def cacheWorkloadsAndCalculateDelta [DecidableEq β] (c : AdsClient β) (newWorkloads : List (Item β)) :
    AdsClient β × Delta β :=
  c.cacheAndCalculateDelta .address newWorkloads

/-- The response to the first request for a type. -/
def snapshot (c : AdsClient β) (t : TypeUrl) : Response β := ⟨t, (c.items t).map fun i => ⟨t.url, i⟩, []⟩

end AdsClient

/-! ### The same messages -/

/-- With the names left out these are the messages of the service and of a handler. -/
theorem unnamed_removals (delta : Delta β) (t : TypeUrl) :
    (delta.removals t).unnamed = ⟨some t, [], delta.removed t⟩ := rfl

theorem unnamed_additions (delta : Delta β) (t : TypeUrl) :
    (delta.additions t).unnamed = ⟨some t, delta.toAdd, []⟩ := by
  simp [Delta.additions, Response.unnamed, Item.toResource, Function.comp_def]

theorem unnamed_snapshot (c : AdsClient β) (t : TypeUrl) :
    (c.snapshot t).unnamed = ⟨some t, c.itemsOf (some t), []⟩ := by
  simp [AdsClient.snapshot, Response.unnamed, AdsClient.itemsOf, Function.comp_def]

/-! ## What a client stores -/

theorem elems_map {α γ : Type} (f : α → γ) (l : List α) : elems (l.map f) = f '' elems l := by
  ext x
  simp [elems]

theorem injOn_toResource {G : Set (Item β)} (hG : Set.InjOn Item.name G) :
    Set.InjOn Discovery.Resource.name (Item.toResource '' G) := by
  rintro _ ⟨i, hi, rfl⟩ _ ⟨j, hj, rfl⟩ hname
  rw [hG hi hj hname]

section
variable [DecidableEq β] {cached new : List (Item β)} {t : TypeUrl}

/-- The two responses of an update, one after the other. -/
theorem elems_apply_delta (hcached : Named cached) (hnew : Named new) (held : List (Discovery.Resource β)) :
    let delta := Delta.between cached new
    elems ((delta.additions t).apply t ((delta.removals t).apply t held)) =
      settle Discovery.Resource.name (gone Item.name (elems cached) (elems new))
        (Item.toResource '' (elems new \ elems cached)) (elems held) := by
  intro delta
  have hadd : elems (delta.toAdd.map Item.toResource) = Item.toResource '' (elems new \ elems cached) := by
    rw [elems_map, elems_toAdd]
  have hinj : Set.InjOn Discovery.Resource.name (elems (delta.toAdd.map Item.toResource)) := by
    rw [hadd]
    exact injOn_toResource (hnew.injOn.mono Set.sdiff_subset)
  have hremovals : (delta.removals t).apply t held = giveUp Discovery.Resource.name held (delta.removed t) :=
    if_pos rfl
  have hadditions : ∀ held', (delta.additions t).apply t held' =
      holdAll Discovery.Resource.name held' (delta.toAdd.map Item.toResource) := by
    intro held'
    refine (if_pos rfl).trans ?_
    simp [Delta.additions, giveUp]
  obtain ⟨M, hM, hremoved⟩ := mem_removed hcached hnew t
  have hM' : M ⊆ Discovery.Resource.name '' (Item.toResource '' (elems new \ elems cached)) := by
    rw [Set.image_image]
    exact hM
  rw [hremovals, hadditions, elems_holdAll_giveUp hinj, hremoved, hadd]
  exact put_drop_union hM'

/-- **An update takes the cached items to the new ones** in a client's store, and in the cache; and
nothing is sent if nothing has changed. -/
theorem delta_reconstructs (c : AdsClient β) (t : TypeUrl) (new : List (Item β))
    (hcached : Named (c.items t)) (hnew : Named new) :
    let (client, delta) := c.cacheAndCalculateDelta t new
    (∀ held, elems held = elems ((c.items t).map Item.toResource) →
      elems ((delta.additions t).apply t ((delta.removals t).apply t held)) = elems (new.map Item.toResource)) ∧
    client.items t = new ∧
    (c.items t = new → delta.toAdd = [] ∧ delta.toRemove = []) := by
  refine ⟨fun held hheld => ?_, ?_, fun h => ?_⟩
  · rw [elems_apply_delta hcached hnew, hheld, elems_map, elems_map]
    exact (settle_image fun _ => rfl).trans (congrArg _ (settle_gone hcached.injOn hnew.injOn))
  · exact (AdsClient.items_setItems c t t new).trans (if_pos rfl)
  · subst h
    simp [Delta.between, difference]

/-- A route that changed, one that is gone and a new one. -/
theorem delta_reconstructs_routes :
    let client : AdsClient Nat :=
      { sender := 0, clientId := 0, resources := [.resource (some (.route "a" 0)), .resource (some (.route "b" 0))] }
    let new := [.resource (some (.route "a" 1)), .resource (some (.route "c" 0))]
    let delta := (client.cacheResourcesAndCalculateDelta new).2
    delta.toRemove = ["route/b"] ∧
    elems ((delta.additions .resource).apply .resource ((delta.removals .resource).apply .resource
      (client.resources.map Item.toResource))) = elems (new.map Item.toResource) := by
  intro client new delta
  have hcached : Named client.resources := ⟨by decide, by decide⟩
  have hnew : Named new := ⟨by decide, by decide⟩
  exact ⟨by decide, (delta_reconstructs client .resource new hcached hnew).1 _ rfl⟩

end

/-! ## A client that is served one message after another -/

/-- A client's entry at the server, and what the client stores of each type. -/
structure Session (β : Type) where
  client : AdsClient β
  held : TypeUrl → List (Discovery.Resource β) := fun _ => []

namespace Session

/-- A client connects, asks for both types and receives their snapshots. -/
def start (managed : String → Option (ManagedResources β)) (s : StreamId) (addr : SocketAddr)
    (gatewayId : String) : Session β :=
  let client := AdsClient.attach { sender := s, clientId := addr } managed gatewayId
  { client := client, held := fun t => (client.snapshot t).apply t [] }

/-- The service sends the client an update, if it is one of the client's gateway. -/
def update [DecidableEq β] (σ : Session β) (e : ServerAction β) : Session β :=
  if σ.client.gatewayId = some e.gatewayId then
    let (client, delta) := σ.client.cacheAndCalculateDelta e.type e.items
    { client := client
      held := fun t => (delta.additions e.type).apply t ((delta.removals e.type).apply t (σ.held t)) }
  else σ

def run [DecidableEq β] (σ : Session β) (es : List (ServerAction β)) : Session β := es.foldl update σ

/-- The items a client stores, whatever their names. -/
def stored (σ : Session β) (t : TypeUrl) : Set (Item β) := elems ((σ.held t).map (·.resource))

end Session

/-- The updates of a type and a gateway. -/
def ServerAction.IsFor (e : ServerAction β) (t : TypeUrl) (g : String) : Prop := t = e.type ∧ g = e.gatewayId

/-- The items of the snapshot that every update since has had. -/
def Stayed (t : TypeUrl) (g : String) (snapshot : List (Item β)) (es : List (ServerAction β)) : Set (Item β) :=
  {i | i ∈ snapshot ∧ ∀ e ∈ es, e.IsFor t g → i ∈ e.items}

/-- What the snapshot leaves in a client's store: its last item, under the url of the type. -/
def leftover (t : TypeUrl) (snapshot : List (Item β)) : Set (Discovery.Resource β) :=
  {r | ∃ i, snapshot.getLast? = some i ∧ r = ⟨t.url, i⟩}

/-- The last item of the snapshot is still there, and no other item has been there ever since. -/
def SnapshotAgrees (t : TypeUrl) (g : String) (snapshot : List (Item β)) (es : List (ServerAction β)) : Prop :=
  ∀ i, snapshot.getLast? = some i →
    i ∈ lastProduced t g snapshot es ∧ ∀ j ∈ Stayed t g snapshot es, j = i

/-- The names of items are not urls. -/
theorem Item.name_ne_url {i : Item β} (h : i.name?.isSome) (t : TypeUrl) : i.name ≠ t.url := by
  intro hurl
  have hlist := congrArg String.toList hurl
  cases i with
  | resource kind =>
    obtain ⟨k, rfl⟩ := Option.isSome_iff_exists.1 (by simpa [name?] using h)
    cases k <;> cases t <;> simp [name, name?, getResourceName, TypeUrl.url, String.toList_append] at hlist
  | address type =>
    obtain ⟨a, rfl⟩ := Option.isSome_iff_exists.1 (by simpa [name?] using h)
    cases a <;> cases t <;> simp [name, name?, getWorkloadName, TypeUrl.url, String.toList_append] at hlist

section
variable {t : TypeUrl} {g : String} {snapshot : List (Item β)} {es : List (ServerAction β)} {e : ServerAction β}

theorem lastProduced_snoc (h : e.IsFor t g) : lastProduced t g snapshot (es ++ [e]) = e.items := by
  rw [lastProduced, List.foldl_append]
  exact if_pos h

theorem lastProduced_snoc_of_not (h : ¬ e.IsFor t g) :
    lastProduced t g snapshot (es ++ [e]) = lastProduced t g snapshot es := by
  rw [lastProduced, List.foldl_append]
  exact if_neg h

theorem mem_stayed_snoc {i : Item β} : i ∈ Stayed t g snapshot (es ++ [e]) ↔
    i ∈ Stayed t g snapshot es ∧ (e.IsFor t g → i ∈ e.items) := by
  simp only [Stayed, Set.mem_ofPred_eq, List.forall_mem_append, List.forall_mem_singleton, and_assoc]

theorem stayed_subset : Stayed t g snapshot es ⊆ elems (lastProduced t g snapshot es) := by
  induction es using List.reverseRecOn with
  | nil => exact fun i hi => hi.1
  | append_singleton es e ih =>
    intro i hi
    rw [mem_stayed_snoc] at hi
    by_cases hfor : e.IsFor t g
    · rw [lastProduced_snoc hfor]
      exact hi.2 hfor
    · rw [lastProduced_snoc_of_not hfor]
      exact ih hi.1

theorem stayed_snoc_of_not (h : ¬ e.IsFor t g) :
    Stayed t g snapshot (es ++ [e]) = Stayed t g snapshot es := by
  ext i
  rw [mem_stayed_snoc, and_iff_left fun hfor => absurd hfor h]

/-- Of the items of the snapshot those stay that an update has. -/
theorem sdiff_stayed_snoc :
    elems e.items \ Stayed t g snapshot (es ++ [e]) = elems e.items \ Stayed t g snapshot es := by
  ext i
  simp only [Set.mem_sdiff, mem_stayed_snoc]
  refine and_congr_right fun hi => not_congr (and_iff_left fun _ => hi)

/-- No update names what the snapshot has left. -/
theorem leftover_fresh {old new : List (Item β)} (hold : Named old) (hnew : Named new) :
    ∀ r ∈ leftover t snapshot, r.name ∉ gone Item.name (elems old) (elems new) ∧
      r.name ∉ Discovery.Resource.name '' (Item.toResource '' (elems new \ elems old)) := by
  rintro _ ⟨i, -, rfl⟩
  constructor
  · rintro ⟨⟨j, hj, hname⟩, -⟩
    exact Item.name_ne_url (hold.named j hj) t hname
  · rintro ⟨_, ⟨j, hj, rfl⟩, hname⟩
    exact Item.name_ne_url (hnew.named j hj.1) t hname

theorem named_lastProduced (hsnapshot : Named snapshot) (hes : ∀ e ∈ es, Named e.items) :
    Named (lastProduced t g snapshot es) := by
  induction es using List.reverseRecOn with
  | nil => exact hsnapshot
  | append_singleton es e ih =>
    rw [List.forall_mem_append, List.forall_mem_singleton] at hes
    by_cases hfor : e.IsFor t g
    · exact lastProduced_snoc hfor ▸ hes.2
    · rw [lastProduced_snoc_of_not hfor]
      exact ih hes.1

end

/-- Where a session is after the updates `es`: the client stores the leftover of the snapshot, and under
their names the cached items that have been away since. -/
structure Session.Follows (σ : Session β) (g : String) (snapshot : TypeUrl → List (Item β))
    (es : List (ServerAction β)) : Prop where
  gateway : σ.client.gatewayId = some g
  cached : ∀ t, σ.client.items t = lastProduced t g (snapshot t) es
  held : ∀ t, elems (σ.held t) = leftover t (snapshot t) ∪
    Item.toResource '' (elems (lastProduced t g (snapshot t) es) \ Stayed t g (snapshot t) es)

/-- A client keeps the last item of a snapshot. -/
theorem elems_apply_snapshot (c : AdsClient β) (t : TypeUrl) :
    elems ((c.snapshot t).apply t []) = leftover t (c.items t) := by
  have happly : (c.snapshot t).apply t [] =
      holdAll Discovery.Resource.name [] ((c.items t).map fun i => ⟨t.url, i⟩) := if_pos rfl
  have hname : ∀ r ∈ (c.items t).map fun i => (⟨t.url, i⟩ : Discovery.Resource β), r.name = t.url := by
    simp
  rw [happly, holdAll_of_name_eq hname]
  ext r
  simp [elems, leftover, List.getLast?_map, eq_comm]

theorem Session.follows_start (managed : String → Option (ManagedResources β)) (s : StreamId)
    (addr : SocketAddr) (g : String) :
    (start managed s addr g).Follows g (fun t => ((managed g).getD {}).items t) [] := by
  have hitems : ∀ t, (start managed s addr g).client.items t = ((managed g).getD {}).items t := by
    intro t
    cases hm : managed g <;> cases t <;> simp [start, AdsClient.attach, AdsClient.items, ManagedResources.items, hm]
  have hstayed : ∀ (t : TypeUrl) (l : List (Item β)), elems l \ Stayed t g l [] = ∅ := by
    intro t l
    ext i
    simp [elems, Stayed]
  refine ⟨?_, hitems, fun t => ?_⟩
  · cases hm : managed g <;> simp [start, AdsClient.attach, hm]
  · rw [lastProduced, List.foldl_nil, hstayed, Set.image_empty, Set.union_empty, ← hitems t]
    exact elems_apply_snapshot _ t

section
variable [DecidableEq β] {σ : Session β} {g : String} {snapshot : TypeUrl → List (Item β)}
  {es : List (ServerAction β)} {e : ServerAction β}

theorem Session.Follows.update (h : σ.Follows g snapshot es) (hsnapshot : ∀ t, Named (snapshot t))
    (hes : ∀ e' ∈ es, Named e'.items) (he : Named e.items) : (σ.update e).Follows g snapshot (es ++ [e]) := by
  by_cases hg : g = e.gatewayId
  · have hgateway : σ.client.gatewayId = some e.gatewayId := hg ▸ h.gateway
    have hupdate : σ.update e =
        { client := σ.client.setItems e.type e.items
          held := fun t => ((Delta.between (σ.client.items e.type) e.items).additions e.type).apply t
            (((Delta.between (σ.client.items e.type) e.items).removals e.type).apply t (σ.held t)) } :=
      if_pos hgateway
    rw [hupdate]
    refine ⟨(AdsClient.gatewayId_setItems _ _ _).trans h.gateway, fun t => ?_, fun t => ?_⟩
    · refine (AdsClient.items_setItems _ _ _ _).trans ?_
      split
      · next ht => rw [lastProduced_snoc ⟨ht, hg⟩]
      · next ht =>
        rw [lastProduced_snoc_of_not fun hfor => ht hfor.1]
        exact h.cached t
    · by_cases ht : t = e.type
      · have hfor : e.IsFor t g := ⟨ht, hg⟩
        have hnamed : Named (σ.client.items t) := by
          rw [h.cached t]
          exact named_lastProduced (hsnapshot t) hes
        rw [lastProduced_snoc hfor, sdiff_stayed_snoc]
        subst ht
        refine (elems_apply_delta hnamed he (σ.held e.type)).trans ?_
        rw [h.held e.type, settle_union (leftover_fresh hnamed he), ← h.cached e.type]
        refine congrArg _ ((settle_image fun _ => rfl).trans (congrArg _ ?_))
        refine settle_gone_sdiff hnamed.injOn he.injOn ?_
        rw [h.cached e.type]
        exact stayed_subset
      · have hfor : ¬ e.IsFor t g := fun hfor => ht hfor.1
        have hskip : ∀ (r : Response β) held, r.typeUrl = e.type → r.apply t held = held := by
          rintro r held hr
          exact if_neg fun h => ht (h.symm.trans hr)
        rw [lastProduced_snoc_of_not hfor, stayed_snoc_of_not hfor, ← h.held t]
        exact congrArg elems ((hskip _ _ rfl).trans (hskip _ _ rfl))
  · have hfor : ∀ t, ¬ e.IsFor t g := fun t hfor => hg hfor.2
    have hskip : σ.update e = σ := if_neg fun hk => hg (Option.some.inj (h.gateway.symm.trans hk))
    rw [hskip]
    refine ⟨h.gateway, fun t => ?_, fun t => ?_⟩
    · rw [lastProduced_snoc_of_not (hfor t)]
      exact h.cached t
    · rw [lastProduced_snoc_of_not (hfor t), stayed_snoc_of_not (hfor t)]
      exact h.held t

/-- Whatever updates there are, a session follows them. -/
theorem Session.Follows.run (h : σ.Follows g snapshot []) (hsnapshot : ∀ t, Named (snapshot t))
    (hes : ∀ e ∈ es, Named e.items) : (σ.run es).Follows g snapshot es := by
  induction es using List.reverseRecOn with
  | nil => exact h
  | append_singleton es e ih =>
    rw [List.forall_mem_append, List.forall_mem_singleton] at hes
    have hrun : σ.run (es ++ [e]) = (σ.run es).update e := List.foldl_append
    rw [hrun]
    exact (ih hes.1).update hsnapshot hes.1 hes.2

omit [DecidableEq β] in
/-- What a client stores in the end is what there is, exactly if the snapshot agrees. -/
theorem Session.Follows.stored_eq_iff (h : σ.Follows g snapshot es) (t : TypeUrl) :
    σ.stored t = elems (lastProduced t g (snapshot t) es) ↔ SnapshotAgrees t g (snapshot t) es := by
  have hstored : σ.stored t = {i | (snapshot t).getLast? = some i} ∪
      (elems (lastProduced t g (snapshot t) es) \ Stayed t g (snapshot t) es) := by
    rw [Session.stored, elems_map, h.held t, Set.image_union, Set.image_image]
    congr 1
    · ext i
      simp [leftover]
    · exact Set.image_id _
  rw [hstored]
  constructor
  · intro heq i hlast
    refine ⟨heq.subset (Set.mem_union_left _ hlast), fun j hj => ?_⟩
    -- what has stayed is only stored if it is the leftover
    rcases heq.symm.subset (stayed_subset hj) with hj' | hj'
    · exact Option.some.inj (hj'.symm.trans hlast)
    · exact absurd hj hj'.2
  · intro hagrees
    ext i
    constructor
    · rintro (hlast | hi)
      · exact (hagrees i hlast).1
      · exact hi.1
    · intro hi
      by_cases hstayed : i ∈ Stayed t g (snapshot t) es
      · obtain ⟨j, hj⟩ := Option.isSome_iff_exists.1 (List.getLast?_isSome.2 (List.ne_nil_of_mem hstayed.1))
        exact .inl ((hagrees j hj).2 i hstayed ▸ hj)
      · exact .inr ⟨hi, hstayed⟩

end

/-- **The snapshot and the deltas agree on the items** exactly if the snapshots do: a client then stores
what its gateway has. -/
theorem snapshot_and_deltas_agree_iff [DecidableEq β] (managed : String → Option (ManagedResources β))
    (s : StreamId) (addr : SocketAddr) (g : String) (es : List (ServerAction β))
    (hmanaged : ∀ t, Named (((managed g).getD {}).items t)) (hes : ∀ e ∈ es, Named e.items) :
    (∀ t, ((Session.start managed s addr g).run es).stored t =
      elems (lastProduced t g (((managed g).getD {}).items t) es)) ↔
    ∀ t, SnapshotAgrees t g (((managed g).getD {}).items t) es := by
  have h := (Session.follows_start managed s addr g).run hmanaged hes
  exact forall_congr' fun t => h.stored_eq_iff t

/-- The client of a gateway with one route, which then gets a second one. -/
theorem snapshot_of_one_route_agrees :
    let managed : String → Option (ManagedResources Nat) := fun _ =>
      some { allResources := [.resource (some (.route "a" 0))] }
    let new := [.resource (some (.route "a" 0)), .resource (some (.route "b" 0))]
    ((Session.start managed 0 0 "gw.ns").run [⟨.resource, "gw.ns", new⟩]).stored .resource = elems new := by
  intro managed new
  have hmanaged : ∀ t, Named (((managed "gw.ns").getD {}).items t) := by
    intro t
    cases t
    · exact ⟨by decide, by decide⟩
    · exact ⟨by decide, by decide⟩
  have hnew : ∀ e ∈ [(⟨.resource, "gw.ns", new⟩ : ServerAction Nat)], Named e.items := by
    intro e he
    obtain rfl := List.mem_singleton.1 he
    exact ⟨by decide, by decide⟩
  refine (snapshot_and_deltas_agree_iff managed 0 0 "gw.ns" _ hmanaged hnew).2 (fun t => ?_) .resource
  cases t with
  | resource =>
    rintro i hi
    obtain rfl := Option.some.inj hi
    exact ⟨by decide, fun j hj => List.mem_singleton.1 hj.1⟩
  | address =>
    rintro i hi
    cases hi

/-- **A client of a gateway with two routes**, both of which are then gone: it keeps the second one. -/
theorem twoRoutes_left_over :
    let managed : String → Option (ManagedResources Nat) := fun _ =>
      some { allResources := [.resource (some (.route "a" 0)), .resource (some (.route "b" 0))] }
    let es : List (ServerAction Nat) := [⟨.resource, "gw.ns", []⟩]
    ¬ ∀ t, ((Session.start managed 0 0 "gw.ns").run es).stored t =
      elems (lastProduced t "gw.ns" (((managed "gw.ns").getD {}).items t) es) := by
  intro managed es h
  have hstored : .resource (some (.route "b" 0)) ∈ ((Session.start managed 0 0 "gw.ns").run es).stored .resource := by
    unfold Session.stored
    decide
  have hproduced : .resource (some (.route "b" 0)) ∉
      elems (lastProduced .resource "gw.ns" (((managed "gw.ns").getD {}).items .resource) es) := by decide
  exact hproduced ((h .resource).subset hstored)

end Kubvernor.Agentgateway
