import Kubvernor.Controllers.ListenerHealth
import Kubvernor.Lib.KeyRenaming

/-!
# The condition of a listener and the names of its routes

A listener that is given its routes puts a condition on record if one of them was refused a backend. It
looks at the first unresolved route only, and which one comes first is a matter of the keys. So what is
recorded changes when routes are renamed, unless all unresolved routes were refused, or none was, or the
condition is on record already (`nameFree_iff`).
-/

namespace Kubvernor

open Lib

/-! ## Renamed routes -/

def Route.rename (π : ResourceKey → ResourceKey) (r : Route) : Route := { r with resourceKey := π r.resourceKey }

/-- The routes under other keys, and nothing else of them changed. -/
def RouteSet.rename (π : ResourceKey → ResourceKey) (s : RouteSet) : RouteSet := mapKeys π (Route.rename π) s

theorem size_rename {π : ResourceKey → ResourceKey} (hπ : Function.Injective π) (s : RouteSet) :
    (s.rename π).size = s.size := size_mapKeys hπ _

variable {l : Listener} {resolvedRoutes unresolvedRoutes : RouteSet}

/-! ## What is published -/

/-- The status of a listener once its conditions are adjusted. -/
def Listener.published (generation : Option Int) (l : Listener) : ListenerStatus :=
  GatewayDeployer.listenerStatus generation { l with data := { l.data with
    conditions := GatewayDeployer.adjustConditions l.data.resolvedRoutes.size l.data.conditions } }

/-- The statuses of a deployed gateway are those of its listeners. -/
theorem published_listeners (g : Gateway) (kube : KubeGateway) :
    ((GatewayDeployer.resolveListenersStatuses (GatewayDeployer.adjustStatuses g) kube).status.bind (·.listeners)) =
      some (g.listenerValues.map (Listener.published kube.metadata.generation)) := by
  simp only [GatewayDeployer.resolveListenersStatuses, GatewayDeployer.adjustStatuses, Option.bind_some,
    Std.ExtTreeMap.toList_map, List.map_map, Gateway.listenerValues]
  rfl

/-- The status tells the routes of a listener by their numbers only. -/
theorem published_congr {l l' : Listener} (hname : l.name = l'.name) (hconditions : l.data.conditions = l'.data.conditions)
    (hresolved : l.data.resolvedRoutes.size = l'.data.resolvedRoutes.size)
    (hattached : l.data.attachedRoutes = l'.data.attachedRoutes) (generation : Option Int) :
    l.published generation = l'.published generation := by
  unfold Listener.published GatewayDeployer.listenerStatus
  simp only [hconditions, hresolved, hattached]
  unfold Listener.name at hname ⊢
  simp only [hname]

/-! ## Names do not matter -/

/-- What a listener records does not depend on the names of its routes, says so if one was refused, and
neither does what is published of it. -/
structure NameFree (l : Listener) (resolvedRoutes unresolvedRoutes : RouteSet) : Prop where
  recorded : ∀ π : ResourceKey → ResourceKey, Function.Injective π →
    (l.updateRoutes (resolvedRoutes.rename π) (unresolvedRoutes.rename π)).data.conditions =
      (l.updateRoutes resolvedRoutes unresolvedRoutes).data.conditions
  refused : (∃ (k : ResourceKey) (r : Route), unresolvedRoutes[k]? = some r ∧ r.Refused) →
    ∃ routes, (l.updateRoutes resolvedRoutes unresolvedRoutes).data.conditions.resolvedRefs? =
      some (.resolvedRefs (.invalidBackend routes))
  published : ∀ (π : ResourceKey → ResourceKey) (generation : Option Int), Function.Injective π →
    (l.updateRoutes (resolvedRoutes.rename π) (unresolvedRoutes.rename π)).published generation =
      (l.updateRoutes resolvedRoutes unresolvedRoutes).published generation

/-- What is recorded settles what is published. -/
theorem nameFree_of_recorded
    (recorded : ∀ π : ResourceKey → ResourceKey, Function.Injective π →
      (l.updateRoutes (resolvedRoutes.rename π) (unresolvedRoutes.rename π)).data.conditions =
        (l.updateRoutes resolvedRoutes unresolvedRoutes).data.conditions)
    (refused : (∃ (k : ResourceKey) (r : Route), unresolvedRoutes[k]? = some r ∧ r.Refused) →
      ∃ routes, (l.updateRoutes resolvedRoutes unresolvedRoutes).data.conditions.resolvedRefs? =
        some (.resolvedRefs (.invalidBackend routes))) : NameFree l resolvedRoutes unresolvedRoutes := by
  refine ⟨recorded, refused, fun π generation hπ => ?_⟩
  refine published_congr ?_ (recorded π hπ) ?_ ?_ generation
  · rfl
  · exact size_rename hπ resolvedRoutes
  · simp only [Listener.updateRoutes, size_rename hπ]

/-- The condition is on record. -/
def Listener.HasRefusal (l : Listener) : Prop :=
  l.data.conditions.resolvedRefs? = some (.resolvedRefs (.invalidBackend APPROVED_ROUTES))

theorem resolvedRefs?_recordsRefusal (conditions : ListenerConditions) :
    (recordsRefusal conditions).resolvedRefs? = some (.resolvedRefs (.invalidBackend APPROVED_ROUTES)) :=
  Std.ExtTreeMap.getElem?_insert_self

theorem recordsRefusal_of_hasRefusal (h : l.HasRefusal) : recordsRefusal l.data.conditions = l.data.conditions :=
  insert_of_getElem? h

/-- The same is recorded if the first routes are alike, or it is on record already. -/
theorem recorded_of_first {resolvedRoutes' unresolvedRoutes' : RouteSet}
    (h : (unresolvedRoutes'.FirstRefused ↔ unresolvedRoutes.FirstRefused) ∨ l.HasRefusal) :
    (l.updateRoutes resolvedRoutes' unresolvedRoutes').data.conditions =
      (l.updateRoutes resolvedRoutes unresolvedRoutes).data.conditions := by
  have hsame (hl : l.HasRefusal) (resolved unresolved : RouteSet) :
      (l.updateRoutes resolved unresolved).data.conditions = l.data.conditions := by
    by_cases hfirst : unresolved.FirstRefused
    · rw [conditions_of_firstRefused hfirst, recordsRefusal_of_hasRefusal hl]
    · exact conditions_of_not_firstRefused hfirst
  rcases h with h | h
  · by_cases hfirst : unresolvedRoutes.FirstRefused
    · rw [conditions_of_firstRefused hfirst, conditions_of_firstRefused (h.2 hfirst)]
    · rw [conditions_of_not_firstRefused hfirst, conditions_of_not_firstRefused (mt h.1 hfirst)]
  · rw [hsame h, hsame h]

/-- The first route of a set is one of the set. -/
theorem exists_of_head? {s : RouteSet} {r : Route} (h : s.routes.head? = some r) :
    ∃ k : ResourceKey, s[k]? = some r :=
  let ⟨k, hk, _⟩ := head?_values_eq_some.1 h
  ⟨k, hk⟩

/-- The first of some routes that were all refused. -/
theorem firstRefused_of_all {s : RouteSet} {k : ResourceKey} {r : Route} (hk : s[k]? = some r)
    (h : ∀ (k : ResourceKey) (r : Route), s[k]? = some r → r.Refused) : s.FirstRefused := by
  obtain ⟨r', hr'⟩ := exists_head?_values hk
  obtain ⟨k', hk'⟩ := exists_of_head? hr'
  exact ⟨r', hr', h k' r' hk'⟩

theorem not_firstRefused_of_none {s : RouteSet} (h : ∀ (k : ResourceKey) (r : Route), s[k]? = some r → ¬ r.Refused) :
    ¬ s.FirstRefused := by
  rintro ⟨r, hr, hrefused⟩
  obtain ⟨k, hk⟩ := exists_of_head? hr
  exact h k r hk hrefused

/-- What holds of all statuses of some routes holds of them when they are renamed. -/
theorem forall_rename {π : ResourceKey → ResourceKey} (hπ : Function.Injective π) {s : RouteSet} {P : Route → Prop}
    (hP : ∀ r : Route, P (r.rename π) ↔ P r) (h : ∀ (k : ResourceKey) (r : Route), s[k]? = some r → P r) :
    ∀ (k : ResourceKey) (r : Route), (s.rename π)[k]? = some r → P r := by
  intro k r hk
  obtain ⟨k', r', hk', -, rfl⟩ := (getElem?_mapKeys_eq_some hπ _).1 hk
  exact (hP r').2 (h k' r' hk')

theorem nameFree_of_all (h : ∀ (k : ResourceKey) (r : Route), unresolvedRoutes[k]? = some r → r.Refused) :
    NameFree l resolvedRoutes unresolvedRoutes := by
  refine nameFree_of_recorded (fun π hπ => recorded_of_first (.inl ⟨?_, ?_⟩)) ?_
  · rintro ⟨r, hr, -⟩
    obtain ⟨k, hk⟩ := exists_of_head? hr
    obtain ⟨k', r', hk', -⟩ := (getElem?_mapKeys_eq_some hπ _).1 hk
    exact firstRefused_of_all hk' h
  · rintro ⟨r, hr, -⟩
    obtain ⟨k, hk⟩ := exists_of_head? hr
    have hk' : (unresolvedRoutes.rename π)[π k]? = some (r.rename π) :=
      (getElem?_mapKeys_eq_some hπ _).2 ⟨k, r, hk, rfl, rfl⟩
    exact firstRefused_of_all hk' (forall_rename hπ (fun _ => Iff.rfl) h)
  · rintro ⟨k, r, hk, -⟩
    refine ⟨APPROVED_ROUTES, ?_⟩
    rw [conditions_of_firstRefused (firstRefused_of_all hk h), resolvedRefs?_recordsRefusal]

theorem nameFree_of_none (h : ∀ (k : ResourceKey) (r : Route), unresolvedRoutes[k]? = some r → ¬ r.Refused) :
    NameFree l resolvedRoutes unresolvedRoutes := by
  refine nameFree_of_recorded (fun π hπ => recorded_of_first (.inl (iff_of_false ?_ ?_))) ?_
  · exact not_firstRefused_of_none (forall_rename hπ (fun _ => Iff.rfl) h)
  · exact not_firstRefused_of_none h
  · rintro ⟨k, r, hk, hrefused⟩
    exact absurd hrefused (h k r hk)

theorem nameFree_of_hasRefusal (h : l.HasRefusal) : NameFree l resolvedRoutes unresolvedRoutes := by
  refine nameFree_of_recorded (fun π hπ => recorded_of_first (.inr h)) fun _ => ⟨APPROVED_ROUTES, ?_⟩
  by_cases hfirst : unresolvedRoutes.FirstRefused
  · rw [conditions_of_firstRefused hfirst, resolvedRefs?_recordsRefusal]
  · rw [conditions_of_not_firstRefused hfirst, h]

/-- With routes of both kinds, one renaming brings a refused one to the front and another one does not. -/
theorem hasRefusal_of_mixed (h : NameFree l resolvedRoutes unresolvedRoutes) {k₁ k₂ : ResourceKey} {r₁ r₂ : Route}
    (hk₁ : unresolvedRoutes[k₁]? = some r₁) (hr₁ : ¬ r₁.Refused) (hk₂ : unresolvedRoutes[k₂]? = some r₂)
    (hr₂ : r₂.Refused) : l.HasRefusal := by
  obtain ⟨π₁, hπ₁, hfirst₁⟩ := exists_first_mapKeys hk₁
  obtain ⟨π₂, hπ₂, hfirst₂⟩ := exists_first_mapKeys hk₂
  have hkept : ¬ (unresolvedRoutes.rename π₁).FirstRefused := by
    rintro ⟨r, hr, hrefused⟩
    obtain rfl := Option.some.inj ((hfirst₁ (Route.rename π₁)).symm.trans hr)
    exact hr₁ hrefused
  have hrefused : (unresolvedRoutes.rename π₂).FirstRefused := ⟨r₂.rename π₂, hfirst₂ (Route.rename π₂), hr₂⟩
  have hconditions := calc
    l.data.conditions = (l.updateRoutes (resolvedRoutes.rename π₁) (unresolvedRoutes.rename π₁)).data.conditions :=
      (conditions_of_not_firstRefused hkept).symm
    _ = (l.updateRoutes resolvedRoutes unresolvedRoutes).data.conditions := h.recorded π₁ hπ₁
    _ = (l.updateRoutes (resolvedRoutes.rename π₂) (unresolvedRoutes.rename π₂)).data.conditions :=
      (h.recorded π₂ hπ₂).symm
    _ = recordsRefusal l.data.conditions := conditions_of_firstRefused hrefused
  rw [Listener.HasRefusal, hconditions, resolvedRefs?_recordsRefusal]

/-- What a listener records is free of its routes' names exactly if all unresolved routes were refused, or
none was, or the condition is on record already. -/
theorem nameFree_iff (l : Listener) (resolvedRoutes unresolvedRoutes : RouteSet) :
    NameFree l resolvedRoutes unresolvedRoutes ↔
      (∀ (k : ResourceKey) (r : Route), unresolvedRoutes[k]? = some r → r.Refused) ∨
        (∀ (k : ResourceKey) (r : Route), unresolvedRoutes[k]? = some r → ¬ r.Refused) ∨ l.HasRefusal := by
  constructor
  · intro h
    by_contra hmixed
    simp only [not_or, not_forall, not_not] at hmixed
    obtain ⟨⟨k₁, r₁, hk₁, hr₁⟩, ⟨k₂, r₂, hk₂, hr₂⟩, hl⟩ := hmixed
    exact hl (hasRefusal_of_mixed h hk₁ hr₁ hk₂ hr₂)
  · rintro (h | h | h)
    · exact nameFree_of_all h
    · exact nameFree_of_none h
    · exact nameFree_of_hasRefusal h

/-- A route without a backend and a route that was refused one. -/
def mixedRoutes : RouteSet := .ofRoutes
  [{ resourceKey := { ns := "shop", name := "a", kind := "HTTPRoute" }, routeType := .http []
     resolutionStatus := .notResolved .backendNotFound },
    { resourceKey := { ns := "shop", name := "b", kind := "HTTPRoute" }, routeType := .http []
      resolutionStatus := .notResolved .refNotPermitted }]

/-- The refused route is the second one, so the listener stays as it was converted. -/
theorem mixedRoutes_not_nameFree : ¬ NameFree
    { protocol := .http, data := { config := { name := "web", port := 80 }, conditions := .ofRefs (.resolved ["HTTPRoute"]) } }
    ∅ mixedRoutes := by
  intro h
  have hhead : mixedRoutes.routes.head?.map (·.resolutionStatus) = some (.notResolved .backendNotFound) := by
    decide +kernel
  have hfirst : ¬ mixedRoutes.FirstRefused := by
    rintro ⟨r, hr, hrefused⟩
    rw [hr, Option.map_some, hrefused] at hhead
    cases hhead
  have hmem : (mixedRoutes[({ ns := "shop", name := "b", kind := "HTTPRoute" } : ResourceKey)]?).map
      (·.resolutionStatus) = some (.notResolved .refNotPermitted) := by decide +kernel
  obtain ⟨r, hr, hrefused⟩ := Option.map_eq_some_iff.1 hmem
  obtain ⟨routes, hroutes⟩ := h.refused ⟨_, r, hr, hrefused⟩
  rw [conditions_of_not_firstRefused hfirst, ListenerConditions.resolvedRefs?_ofRefs] at hroutes
  cases hroutes

end Kubvernor
