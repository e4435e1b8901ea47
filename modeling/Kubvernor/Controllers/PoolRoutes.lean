import Kubvernor.Control.RouteHandlers

/-!
# The routes of an inference pool

The pools of a route are found in two ways. A reconciled route is converted, and the keys of its pools
are stored with it; a reference without a namespace is to a pool of the route's namespace. The
controller of pools looks through the route objects instead (`hasInferencePool`), where a reference
without a namespace is taken for one to every namespace. So the two agree on a key of another namespace
only if no such reference has its name, or one with the namespace has it too (`poolLookupsAgree_iff`).
-/

namespace Kubvernor

/-- `has_inference_pool`. -/
def hasInferencePool (route : HTTPRoute) (inferencePoolKey : ResourceKey) : Bool :=
  (route.spec.rules.getD []).any fun rr =>
    (rr.backendRefs.getD []).any fun br =>
      match br.kind with
      | some kind =>
        if kind = "InferencePool" then
          br.name = inferencePoolKey.name && (if br.ns.isSome then br.ns = some inferencePoolKey.ns else true)
        else false
      | none => false

/-- The references of a route to inference pools, of all rules. -/
def HTTPRoute.poolReferences (route : HTTPRoute) : List BackendReference :=
  (route.spec.rules.getD []).flatMap fun rr =>
    (rr.backendRefs.getD []).filter fun br => br.kind = some "InferencePool"

/-- The lookups agree: a route is found for a pool exactly if its conversion has a pool of that name and
namespace. -/
def PoolLookupsAgree (isIpAddr : String → Bool) (route : HTTPRoute) (inferencePoolKey : ResourceKey) : Prop :=
  hasInferencePool route inferencePoolKey = true ↔
    ∃ key ∈ (Route.ofHTTPRoute isIpAddr route).inferencePools,
      key.name = inferencePoolKey.name ∧ key.ns = inferencePoolKey.ns

variable {isIpAddr : String → Bool} {route : HTTPRoute} {k key : ResourceKey}

theorem hasInferencePool_iff : hasInferencePool route k = true ↔
    ∃ br ∈ HTTPRoute.poolReferences route, br.name = k.name ∧ (br.ns = none ∨ br.ns = some k.ns) := by
  have hentry (br : BackendReference) :
      (match br.kind with
        | some kind =>
          if kind = "InferencePool" then br.name = k.name && (if br.ns.isSome then br.ns = some k.ns else true)
          else false
        | none => false) = true ↔
      br.kind = some "InferencePool" ∧ br.name = k.name ∧ (br.ns = none ∨ br.ns = some k.ns) := by
    cases hkind : br.kind with
    | none => simp
    | some kind =>
      by_cases hpool : kind = "InferencePool"
      · cases hns : br.ns <;> simp [hpool]
      · simp [hpool]
  simp only [hasInferencePool, List.any_eq_true, hentry, HTTPRoute.poolReferences, List.mem_flatMap, List.mem_filter,
    decide_eq_true_eq]
  constructor
  · rintro ⟨rr, hrr, br, hbr, hkind, h⟩
    exact ⟨br, ⟨rr, hrr, hbr, hkind⟩, h⟩
  · rintro ⟨br, ⟨rr, hrr, hbr, hkind⟩, h⟩
    exact ⟨rr, hrr, br, hbr, hkind, h⟩

theorem Route.mem_inferencePools {r : Route} : key ∈ r.inferencePools ↔
    ∃ b ∈ r.backends, ∃ config, b.backendType = .inferencePool config ∧ config.resourceKey = key := by
  simp only [inferencePools, List.mem_filterMap]
  refine exists_congr fun b => and_congr_right fun _ => ?_
  cases b.backendType <;> simp

theorem backendType_ofHttpReference_iff {ns : String} {br : BackendReference} {config : InferencePoolTypeConfig} :
    (Backend.ofHttpReference ns br).backendType = .inferencePool config ↔
      br.kind = some "InferencePool" ∧ InferencePoolTypeConfig.ofBackendReference br ns = config := by
  unfold Backend.ofHttpReference
  by_cases hservice : IsServiceKind br.kind
  · have hpool : br.kind ≠ some "InferencePool" := by
      intro h
      rw [h] at hservice
      exact absurd hservice (by decide)
    simp [hservice, hpool, Backend.backendType]
  · rw [if_neg hservice]
    by_cases hpool : br.kind = some "InferencePool"
    · rw [if_pos hpool]
      simp [hpool, Backend.backendType]
    · rw [if_neg hpool]
      simp [hpool, Backend.backendType]

/-- The pools of the converted route are those its references name, in its own namespace if they name none. -/
theorem mem_inferencePools_iff : key ∈ (Route.ofHTTPRoute isIpAddr route).inferencePools ↔
    ∃ br ∈ HTTPRoute.poolReferences route,
      (InferencePoolTypeConfig.ofBackendReference br (HTTPRoute.resourceKey route).ns).resourceKey = key := by
  simp only [Route.mem_inferencePools, Route.backends_ofHTTPRoute, List.mem_flatMap, List.mem_map,
    HTTPRoute.poolReferences, List.mem_filter, decide_eq_true_eq]
  constructor
  · rintro ⟨b, ⟨rr, hrr, br, hbr, rfl⟩, config, hconfig, hkey⟩
    obtain ⟨hkind, rfl⟩ := backendType_ofHttpReference_iff.1 hconfig
    exact ⟨br, ⟨rr, hrr, hbr, hkind⟩, hkey⟩
  · rintro ⟨br, ⟨rr, hrr, hbr, hkind⟩, hkey⟩
    exact ⟨_, ⟨rr, hrr, br, hbr, rfl⟩, _, backendType_ofHttpReference_iff.2 ⟨hkind, rfl⟩, hkey⟩

/-- The two lookups agree on a key exactly if it is of the route's namespace, or no reference without a
namespace has its name, or one has its name and its namespace. -/
theorem poolLookupsAgree_iff (isIpAddr : String → Bool) (route : HTTPRoute) (k : ResourceKey) :
    PoolLookupsAgree isIpAddr route k ↔
      k.ns = (HTTPRoute.resourceKey route).ns ∨
        (∀ br ∈ HTTPRoute.poolReferences route, br.name = k.name → br.ns ≠ none) ∨
        ∃ br ∈ HTTPRoute.poolReferences route, br.name = k.name ∧ br.ns = some k.ns := by
  have hrecorded : (∃ key ∈ (Route.ofHTTPRoute isIpAddr route).inferencePools, key.name = k.name ∧ key.ns = k.ns) ↔
      ∃ br ∈ HTTPRoute.poolReferences route, br.name = k.name ∧ br.ns.getD (HTTPRoute.resourceKey route).ns = k.ns := by
    constructor
    · rintro ⟨key, hkey, hname, hns⟩
      obtain ⟨br, hbr, rfl⟩ := mem_inferencePools_iff.1 hkey
      exact ⟨br, hbr, hname, hns⟩
    · rintro ⟨br, hbr, hname, hns⟩
      exact ⟨_, mem_inferencePools_iff.2 ⟨br, hbr, rfl⟩, hname, hns⟩
  unfold PoolLookupsAgree
  rw [hrecorded, hasInferencePool_iff]
  constructor
  · intro h
    by_contra hnot
    simp only [not_or, not_forall, not_exists, not_and] at hnot
    obtain ⟨hns, ⟨br, hbr, hname, hnone⟩, hnamed⟩ := hnot
    -- the reference without a namespace is found, so one of the key's own namespace was recorded
    obtain ⟨br', hbr', hname', hns'⟩ := h.1 ⟨br, hbr, hname, .inl (not_not.1 hnone)⟩
    cases hns'' : br'.ns with
    | none =>
      rw [hns'', Option.getD_none] at hns'
      exact hns hns'.symm
    | some ns =>
      rw [hns'', Option.getD_some] at hns'
      exact hnamed br' hbr' hname' (by rw [hns'', hns'])
  · intro h
    constructor
    · rintro ⟨br, hbr, hname, hnone | hsome⟩
      · rcases h with hns | h | ⟨br', hbr', hname', hns'⟩
        · exact ⟨br, hbr, hname, by rw [hnone, hns, Option.getD_none]⟩
        · exact absurd hnone (h br hbr hname)
        · exact ⟨br', hbr', hname', by rw [hns', Option.getD_some]⟩
      · exact ⟨br, hbr, hname, by rw [hsome, Option.getD_some]⟩
    · rintro ⟨br, hbr, hname, hns⟩
      refine ⟨br, hbr, hname, ?_⟩
      cases hbrns : br.ns with
      | none => exact .inl rfl
      | some ns =>
        rw [hbrns, Option.getD_some] at hns
        exact .inr (by rw [hns])

/-- A route of the namespace `shop` with a pool that it names without a namespace. -/
def chatRoute : HTTPRoute where
  metadata := { name := some "chat", ns := some "shop" }
  spec := { rules := some [{ backendRefs := some [{ kind := some "InferencePool", name := "llm" }] }] }

/-- The route is found for the pool of the same name in another namespace. -/
theorem chatRoute_lookups_differ :
    ¬ PoolLookupsAgree (fun _ => false) chatRoute { ns := "lab", name := "llm", kind := "InferencePool" } := by
  unfold PoolLookupsAgree
  decide

end Kubvernor
