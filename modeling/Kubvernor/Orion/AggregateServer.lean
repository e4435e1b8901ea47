import Kubvernor.Lib.NamedSet
import Mathlib.Data.List.Nodup

/-!
# The deltas of the Orion server

The server that sends Orion proxies their listeners and clusters caches for every client what it has
sent, and sends for an update one response with what is new and with the names of what is gone. What is
gone is found by name among the listeners (`cacheListenersAndCalculateDelta`), but by the whole resource
among the clusters (`cacheClustersAndCalculateDelta`): a cluster that has changed is both sent and
removed (`deltas_wellFormed_iff`).
-/

namespace Kubvernor.Orion

open Lib

/-- `Resource` of the discovery protocol. -/
structure Resource (β : Type) where
  name : String
  resource : β
deriving DecidableEq, Repr

/-- `difference`: the values that are in `this` but not in `other`. -/
def difference {α : Type} [DecidableEq α] (this other : List α) : List α := this.filter (· ∉ other)

structure Delta (β : Type) where
  toAdd : List (Resource β)
  toRemove : List String

/-- `AdsClient`, with the gateway and the resources it is cached for. -/
structure AdsClient (β : Type) where
  clientId : Nat
  gatewayId : Option String := none
  listeners : List (Resource β) := []
  clusters : List (Resource β) := []
deriving DecidableEq

inductive TypeUrl
  | listener
  | cluster
deriving DecidableEq, Repr

structure DeltaDiscoveryResponse (β : Type) where
  typeUrl : TypeUrl
  resources : List (Resource β)
  removedResources : List String
deriving DecidableEq

variable {β : Type}

namespace AdsClient

variable [DecidableEq β] (c : AdsClient β)

def cacheListenersAndCalculateDelta (newListeners : List (Resource β)) : AdsClient β × Delta β :=
  ({ c with listeners := newListeners },
    { toAdd := difference newListeners c.listeners
      toRemove := difference (c.listeners.map (·.name)) (newListeners.map (·.name)) })

def cacheClustersAndCalculateDelta (newClusters : List (Resource β)) : AdsClient β × Delta β :=
  ({ c with clusters := newClusters },
    { toAdd := difference newClusters c.clusters
      toRemove := (difference c.clusters newClusters).map (·.name) })

end AdsClient

/-- The response to an update, of `AggregateServerService::start`. -/
def Delta.response (delta : Delta β) (t : TypeUrl) : DeltaDiscoveryResponse β :=
  ⟨t, delta.toAdd, delta.toRemove⟩

namespace DeltaDiscoveryResponse

variable (r : DeltaDiscoveryResponse β)

/-- A client that gives up the removed names before it stores the resources. -/
def apply (held : List (Resource β)) : List (Resource β) :=
  holdAll Resource.name (giveUp Resource.name held r.removedResources) r.resources

/-- A client that stores the resources first. -/
def applyAddingFirst (held : List (Resource β)) : List (Resource β) :=
  giveUp Resource.name (holdAll Resource.name held r.resources) r.removedResources

/-- The response names nothing twice, and takes a client from the cached resources to the new ones,
whichever part of it the client does first. -/
structure WellFormed (cached new : List (Resource β)) : Prop where
  disjoint : ∀ x ∈ r.resources, x.name ∉ r.removedResources
  applied : ∀ held, elems held = elems cached → elems (r.apply held) = elems new
  appliedAddingFirst : ∀ held, elems held = elems cached → elems (r.applyAddingFirst held) = elems new

end DeltaDiscoveryResponse

/-! ## When a response is well formed -/

theorem injOn_of_nodup {l : List (Resource β)} (h : (l.map (·.name)).Nodup) : Set.InjOn Resource.name (elems l) :=
  fun _ hx _ hy hname => List.inj_on_of_nodup_map h hx hy hname

section
variable [DecidableEq β] {cached new : List (Resource β)} {delta : Delta β} {t : TypeUrl}

theorem elems_difference : elems (difference new cached) = elems new \ elems cached := by
  ext x
  simp only [elems, difference, Set.mem_ofPred_eq, List.mem_filter, Set.mem_sdiff, decide_eq_true_eq]

/-- A delta that adds what is new and removes the names that are gone. -/
theorem wellFormed_of_gone (hcached : (cached.map (·.name)).Nodup) (hnew : (new.map (·.name)).Nodup)
    (hadd : delta.toAdd = difference new cached)
    (hremove : {n | n ∈ delta.toRemove} = gone Resource.name (elems cached) (elems new)) :
    (delta.response t).WellFormed cached new := by
  have hold := injOn_of_nodup hcached
  have hnew := injOn_of_nodup hnew
  have hadded : elems delta.toAdd = elems new \ elems cached := by rw [hadd, elems_difference]
  have hinj : Set.InjOn Resource.name (elems delta.toAdd) := by
    rw [hadded]
    exact hnew.mono Set.sdiff_subset
  have hdisjoint : ∀ x ∈ delta.toAdd, x.name ∉ delta.toRemove := by
    intro x hx hname
    have hxnew : x ∈ elems new := (hadded.subset hx).1
    exact not_mem_gone hxnew (hremove.subset hname)
  have hsettle : ∀ held, elems held = elems cached →
      settle Resource.name {n | n ∈ delta.toRemove} (elems delta.toAdd) (elems held) = elems new := by
    intro held hheld
    rw [hheld, hremove, hadded, settle_gone hold hnew]
  refine ⟨hdisjoint, fun held hheld => ?_, fun held hheld => ?_⟩
  · exact (elems_holdAll_giveUp hinj).trans (hsettle held hheld)
  · exact (elems_giveUp_holdAll hinj hdisjoint).trans (hsettle held hheld)

/-- **The responses for listeners are well formed.** -/
theorem listeners_wellFormed (c : AdsClient β) (hcached : (c.listeners.map (·.name)).Nodup)
    (hnew : (new.map (·.name)).Nodup) :
    ((c.cacheListenersAndCalculateDelta new).2.response t).WellFormed c.listeners new := by
  refine wellFormed_of_gone hcached hnew rfl ?_
  ext n
  simp [AdsClient.cacheListenersAndCalculateDelta, difference, gone, elems]

/-- Those for clusters are if no cluster has changed. -/
theorem clusters_wellFormed_iff (c : AdsClient β) (hcached : (c.clusters.map (·.name)).Nodup)
    (hnew : (new.map (·.name)).Nodup) :
    ((c.cacheClustersAndCalculateDelta new).2.response t).WellFormed c.clusters new ↔
      ∀ x ∈ new, ∀ y ∈ c.clusters, x.name = y.name → x = y := by
  constructor
  · intro h x hx y hy hname
    by_contra hne
    -- neither of the two is in the other list, so the name is both sent and removed
    have hxold : x ∉ c.clusters := fun hx' => hne (injOn_of_nodup hcached hx' hy hname)
    have hynew : y ∉ new := fun hy' => hne (injOn_of_nodup hnew hx hy' hname)
    have hadd : x ∈ difference new c.clusters := by simp [difference, hx, hxold]
    have hremove : x.name ∈ (difference c.clusters new).map (·.name) :=
      List.mem_map.2 ⟨y, by simp [difference, hy, hynew], hname.symm⟩
    exact h.disjoint x hadd hremove
  · intro h
    refine wellFormed_of_gone hcached hnew rfl ?_
    ext n
    have hremove : n ∈ (c.cacheClustersAndCalculateDelta new).2.toRemove ↔
        ∃ y, (y ∈ c.clusters ∧ y ∉ new) ∧ y.name = n := by
      simp [AdsClient.cacheClustersAndCalculateDelta, difference]
    rw [Set.mem_ofPred_eq, hremove]
    constructor
    · rintro ⟨y, ⟨hy, hynew⟩, rfl⟩
      refine ⟨⟨y, hy, rfl⟩, ?_⟩
      rintro ⟨x, hx, hname⟩
      exact hynew (h x hx y hy hname ▸ hx)
    · rintro ⟨⟨y, hy, rfl⟩, hgone⟩
      exact ⟨y, ⟨hy, fun hynew => hgone ⟨y, hynew, rfl⟩⟩, rfl⟩

/-- **The responses for listeners and clusters are well formed exactly if no cluster changes** that stays. -/
theorem deltas_wellFormed_iff (c : AdsClient β) (newListeners newClusters : List (Resource β))
    (hlisteners : (c.listeners.map (·.name)).Nodup) (hclusters : (c.clusters.map (·.name)).Nodup)
    (hnewListeners : (newListeners.map (·.name)).Nodup) (hnewClusters : (newClusters.map (·.name)).Nodup) :
    (((c.cacheListenersAndCalculateDelta newListeners).2.response .listener).WellFormed c.listeners
        newListeners ∧
      ((c.cacheClustersAndCalculateDelta newClusters).2.response .cluster).WellFormed c.clusters
        newClusters) ↔
    ∀ x ∈ newClusters, ∀ y ∈ c.clusters, x.name = y.name → x = y := by
  rw [and_iff_right (listeners_wellFormed c hlisteners hnewListeners)]
  exact clusters_wellFormed_iff c hclusters hnewClusters

/-- A listener that changes, and a cluster that takes the place of another. -/
theorem replaced_wellFormed :
    let c : AdsClient Nat := { clientId := 0, listeners := [⟨"http", 0⟩], clusters := [⟨"a.ns", 0⟩, ⟨"b.ns", 0⟩] }
    ((c.cacheListenersAndCalculateDelta [⟨"http", 1⟩]).2.response .listener).WellFormed c.listeners
      [⟨"http", 1⟩] ∧
    ((c.cacheClustersAndCalculateDelta [⟨"a.ns", 0⟩, ⟨"c.ns", 0⟩]).2.response .cluster).WellFormed c.clusters
      [⟨"a.ns", 0⟩, ⟨"c.ns", 0⟩] := by
  intro c
  exact (deltas_wellFormed_iff c [⟨"http", 1⟩] [⟨"a.ns", 0⟩, ⟨"c.ns", 0⟩] (by decide) (by decide) (by decide)
    (by decide)).2 (by decide)

/-- **A cluster that changes is removed with the response that sends it.** -/
theorem changedCluster_removed :
    let c : AdsClient Nat := { clientId := 0, clusters := [⟨"a.ns", 0⟩] }
    let r := (c.cacheClustersAndCalculateDelta [⟨"a.ns", 1⟩]).2.response .cluster
    ¬ r.WellFormed c.clusters [⟨"a.ns", 1⟩] ∧ r.applyAddingFirst c.clusters = [] := by
  intro c r
  refine ⟨fun h => ?_, by decide⟩
  exact h.disjoint ⟨"a.ns", 1⟩ (by decide) (by decide)

end

end Kubvernor.Orion
