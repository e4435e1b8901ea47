import Kubvernor.Common.KubeRoutes
import Kubvernor.Controllers.RouteResolver

/-!
# What the status of a resolved route says

A route is resolved if all its backends are, the ones its rules forward to and the ones their mirror
filters copy to. For HTTP routes the status says exactly this. For GRPC routes conversion collects the
mirror backends too, and `resolve` passes over them: they stay as they were, and the status is that of the
other backends. So it is exact only where no rule has a mirror, or another backend does not resolve
(`resolve_exact_iff`). The backends themselves are kept for both kinds of route, with their keys, ports and
weights.
-/

namespace Kubvernor

/-! ## What stays of a backend -/

/-- What a backend is known by, whatever becomes of it. -/
structure BackendIdentity where
  resourceKey : ResourceKey
  port : Int
  weight : Int

def BackendType.identity : BackendType → BackendIdentity
  | .service c | .invalid c => ⟨c.resourceKey, c.port, c.weight⟩
  | .inferencePool c => ⟨c.resourceKey, c.port, c.weight⟩

def Backend.identity (b : Backend) : BackendIdentity := b.backendType.identity

/-- The backends of one list are those of the other, up to their order and to what became of them. -/
def SameBackends (l l' : List Backend) : Prop := (l'.map Backend.identity).Perm (l.map Backend.identity)

/-- The second rule is the first one with the same backends. -/
structure HTTPRoutingRule.Keeps (rule rule' : HTTPRoutingRule) : Prop where
  name : rule'.name = rule.name
  matchingRules : rule'.matchingRules = rule.matchingRules
  filters : rule'.filters = rule.filters
  backends : SameBackends rule.backends rule'.backends
  filterBackends : SameBackends rule.filterBackends rule'.filterBackends

structure GRPCRoutingRule.Keeps (rule rule' : GRPCRoutingRule) : Prop where
  name : rule'.name = rule.name
  matchingRules : rule'.matchingRules = rule.matchingRules
  filters : rule'.filters = rule.filters
  backends : SameBackends rule.backends rule'.backends
  filterBackends : SameBackends rule.filterBackends rule'.filterBackends

namespace Route

/-- The second route has the rules of the first, one by one. -/
def Keeps (r r' : Route) : Prop :=
  match r.routeType, r'.routeType with
  | .http rules, .http rules' => List.Forall₂ HTTPRoutingRule.Keeps rules rules'
  | .grpc rules, .grpc rules' => List.Forall₂ GRPCRoutingRule.Keeps rules rules'
  | .http _, .grpc _ | .grpc _, .http _ => False

/-- The route is resolved if all its backends are, and only then. -/
def Exact (r : Route) : Prop :=
  r.resolutionStatus = .resolved ↔ ∀ b ∈ r.backends ++ r.filterBackends, b.IsResolved

end Route

namespace RouteResolver

variable (self : RouteResolver) (routeKey : RouteKey)

/-! ## One backend -/

/-- The result of processing a backend is that backend, and the status says whether it is resolved. -/
structure Processed (b : Backend) (result : Backend × ResolutionStatus) : Prop where
  identity : result.1.identity = b.identity
  status : result.2 = .resolved ↔ result.1.IsResolved

theorem Processed.resolved {b b' : Backend} (hid : b'.identity = b.identity) (hb : b'.IsResolved) :
    Processed b (b', .resolved) := ⟨hid, iff_of_true rfl hb⟩

theorem Processed.notResolved {b b' : Backend} {reason : NotResolvedReason} (hid : b'.identity = b.identity)
    (hb : ¬ b'.IsResolved) : Processed b (b', .notResolved reason) := ⟨hid, iff_of_false (by simp) hb⟩

theorem processServiceBackend_processed (b : Backend) : Processed b (self.processServiceBackend routeKey b) := by
  cases b with
  | maybe t =>
    cases t with
    | service c | invalid c =>
      simp only [processServiceBackend]
      split
      · split
        · exact .resolved rfl trivial
        · exact .notResolved rfl id
      · exact .notResolved rfl id
    | inferencePool c => exact .notResolved rfl id
  | resolved t => exact .resolved rfl trivial
  | unresolved t | notAllowed t | invalid t => exact .notResolved rfl id

theorem processInferencePoolBackend_processed (state : State) (b : Backend) :
    Processed b (self.processInferencePoolBackend state routeKey b).1 := by
  cases b with
  | maybe t =>
    cases t with
    | inferencePool c =>
      simp only [processInferencePoolBackend]
      split
      · split
        · split
          · split
            · exact .resolved rfl trivial
            · exact .notResolved rfl id
          · exact .notResolved rfl id
        · exact .notResolved rfl id
      · exact .notResolved rfl id
    | service c | invalid c => exact .notResolved rfl id
  | resolved t => exact .resolved rfl trivial
  | unresolved t | notAllowed t | invalid t => exact .notResolved rfl id

theorem processBackend_processed (state : State) (b : Backend) :
    Processed b (self.processBackend state routeKey b).1 := by
  unfold processBackend
  split
  · exact self.processServiceBackend_processed routeKey b
  · exact self.processServiceBackend_processed routeKey b
  · exact self.processInferencePoolBackend_processed routeKey state b

/-! ## Some backends -/

theorem mergeStatus_eq_resolved {status new : ResolutionStatus} :
    mergeStatus status new = .resolved ↔ status = .resolved ∧ new = .resolved := by
  unfold mergeStatus
  split <;> simp_all

theorem processEach_identity (backends : List Backend) (state : State) :
    (self.processEach routeKey backends state).1.1.map Backend.identity = backends.map Backend.identity := by
  induction backends generalizing state with
  | nil => rfl
  | cons b bs ih =>
    rw [processEach, List.map_cons, List.map_cons, ih, (self.processBackend_processed routeKey state b).identity]

theorem processEach_status (backends : List Backend) (state : State) :
    (self.processEach routeKey backends state).1.2 = .resolved ↔
      ∀ b ∈ (self.processEach routeKey backends state).1.1, b.IsResolved := by
  induction backends generalizing state with
  | nil => exact iff_of_true rfl (List.forall_mem_nil _)
  | cons b bs ih =>
    rw [processEach, List.forall_mem_cons, ← (self.processBackend_processed routeKey state b).status, ← ih]
    exact mergeStatus_eq_resolved

theorem processBackends_same (backends : List Backend) (state : State) :
    SameBackends backends (self.processBackends routeKey backends state).1.1 := by
  unfold SameBackends
  rw [processBackends, processEach_identity]
  refine List.Perm.map _ ?_
  refine List.perm_append_comm.trans ?_
  exact List.filter_append_perm _ _

theorem processBackends_status (backends : List Backend) (state : State) :
    (self.processBackends routeKey backends state).1.2 = .resolved ↔
      ∀ b ∈ (self.processBackends routeKey backends state).1.1, b.IsResolved :=
  self.processEach_status routeKey _ state

/-! ## The rules of an HTTP route -/

theorem resolveHttpRules_keeps (rules : List HTTPRoutingRule) (status : ResolutionStatus) (state : State) :
    List.Forall₂ HTTPRoutingRule.Keeps rules (self.resolveHttpRules routeKey rules status state).1.1 := by
  induction rules generalizing status state with
  | nil => exact .nil
  | cons rule rules ih =>
    rw [resolveHttpRules]
    refine .cons ⟨rfl, rfl, rfl, ?_, ?_⟩ (ih _ _)
    · exact self.processBackends_same routeKey rule.backends _
    · exact self.processBackends_same routeKey rule.filterBackends _

theorem resolveHttpRules_status (rules : List HTTPRoutingRule) (status : ResolutionStatus) (state : State) :
    (self.resolveHttpRules routeKey rules status state).1.2 = .resolved ↔
      status = .resolved ∧ ∀ rule ∈ (self.resolveHttpRules routeKey rules status state).1.1,
        (∀ b ∈ rule.backends, b.IsResolved) ∧ ∀ b ∈ rule.filterBackends, b.IsResolved := by
  induction rules generalizing status state with
  | nil => exact ⟨fun h => ⟨h, List.forall_mem_nil _⟩, And.left⟩
  | cons rule rules ih =>
    rw [resolveHttpRules, ih, List.forall_mem_cons, mergeStatus_eq_resolved, mergeStatus_eq_resolved,
      processBackends_status, processBackends_status]
    simp only [and_assoc]

theorem resolve_http (route : Route) (rules : List HTTPRoutingRule) (hroute : route.routeType = .http rules)
    (state : State) :
    (self.resolve route state).1.Exact ∧ route.Keeps (self.resolve route state).1 := by
  have hstatus := self.resolveHttpRules_status route.resourceKey rules .resolved state
  have hkeeps := self.resolveHttpRules_keeps route.resourceKey rules .resolved state
  constructor
  · simp only [resolve, hroute, Route.Exact, Route.backends, Route.filterBackends, List.forall_mem_append,
      List.forall_mem_flatMap]
    rw [hstatus, and_iff_right rfl]
    exact ⟨fun h => ⟨fun rule hrule => (h rule hrule).1, fun rule hrule => (h rule hrule).2⟩,
      fun h rule hrule => ⟨h.1 rule hrule, h.2 rule hrule⟩⟩
  · simp only [resolve, hroute, Route.Keeps]
    exact hkeeps

/-! ## The rules of a GRPC route -/

theorem resolveGrpcRules_keeps (rules : List GRPCRoutingRule) (status : ResolutionStatus) (state : State) :
    List.Forall₂ GRPCRoutingRule.Keeps rules (self.resolveGrpcRules routeKey rules status state).1.1 := by
  induction rules generalizing status state with
  | nil => exact .nil
  | cons rule rules ih =>
    rw [resolveGrpcRules]
    refine .cons ⟨rfl, rfl, rfl, ?_, ?_⟩ (ih _ _)
    · exact self.processBackends_same routeKey rule.backends _
    · exact List.Perm.refl _

theorem resolveGrpcRules_status (rules : List GRPCRoutingRule) (status : ResolutionStatus) (state : State) :
    (self.resolveGrpcRules routeKey rules status state).1.2 = .resolved ↔
      status = .resolved ∧ ∀ rule ∈ (self.resolveGrpcRules routeKey rules status state).1.1,
        ∀ b ∈ rule.backends, b.IsResolved := by
  induction rules generalizing status state with
  | nil => exact ⟨fun h => ⟨h, List.forall_mem_nil _⟩, And.left⟩
  | cons rule rules ih =>
    rw [resolveGrpcRules, ih, List.forall_mem_cons, mergeStatus_eq_resolved, processBackends_status, and_assoc]

theorem resolveGrpcRules_filterBackends (rules : List GRPCRoutingRule) (status : ResolutionStatus)
    (state : State) :
    (self.resolveGrpcRules routeKey rules status state).1.1.flatMap (·.filterBackends) =
      rules.flatMap (·.filterBackends) := by
  induction rules generalizing status state with
  | nil => rfl
  | cons rule rules ih => rw [resolveGrpcRules, List.flatMap_cons, List.flatMap_cons, ih]

/-! ## Which backends of a GRPC route resolve -/

/-- The reference is to a Service that is there, and that the route may reach. -/
def Resolvable (br : BackendReference) : Prop :=
  IsServiceKind br.kind ∧ self.Permitted routeKey (.service (.ofBackendReference br routeKey.ns)) ∧
    (self.services.getReference (br.resourceKey routeKey.ns)).isSome

theorem processServiceBackend_maybe (c : ServiceTypeConfig) :
    (self.processServiceBackend routeKey (.maybe (.service c))).2 = .resolved ↔
      self.Permitted routeKey (.service c) ∧ (self.services.getReference c.resourceKey).isSome := by
  have hperm : self.Permitted routeKey (.service c) ↔
      (self.referenceGrantsResolver.isAllowed routeKey c.resourceKey self.gatewayResourceKey ||
        isPermitted self.gatewayResourceKey.ns routeKey.ns c.resourceKey.ns) = true := by
    simp only [Permitted, BackendType.resourceKey, Bool.or_eq_true, or_comm]
  rw [hperm, processServiceBackend]
  split
  · next hallowed =>
    split
    · next hservice => exact iff_of_true rfl ⟨hallowed, hservice ▸ rfl⟩
    · next hservice => exact iff_of_false (by simp) fun h => by simp [hservice] at h
  · next hallowed => exact iff_of_false (by simp) fun h => hallowed h.1

theorem processBackend_ofGrpcReference (state : State) (br : BackendReference) :
    (self.processBackend state routeKey (.ofGrpcReference routeKey.ns br)).1.2 = .resolved ↔
      self.Resolvable routeKey br := by
  unfold Backend.ofGrpcReference Resolvable
  split
  · next hkind =>
    rw [and_iff_right hkind]
    exact self.processServiceBackend_maybe routeKey _
  · next hkind => exact iff_of_false (show ResolutionStatus.notResolved _ ≠ .resolved by simp) fun h => hkind h.1

theorem processEach_ofGrpcReference (refs : List BackendReference) (state : State) :
    (self.processEach routeKey (refs.map (Backend.ofGrpcReference routeKey.ns)) state).1.2 = .resolved ↔
      ∀ br ∈ refs, self.Resolvable routeKey br := by
  induction refs generalizing state with
  | nil => exact iff_of_true rfl (List.forall_mem_nil _)
  | cons br refs ih =>
    rw [List.map_cons, processEach, List.forall_mem_cons, ← self.processBackend_ofGrpcReference routeKey state br,
      ← ih]
    exact mergeStatus_eq_resolved

/-- A GRPC route has no pools, so its backends are processed in their order. -/
theorem processBackends_ofGrpcReference (refs : List BackendReference) (state : State) :
    (self.processBackends routeKey (refs.map (Backend.ofGrpcReference routeKey.ns)) state).1.2 = .resolved ↔
      ∀ br ∈ refs, self.Resolvable routeKey br := by
  have htype : ∀ b ∈ refs.map (Backend.ofGrpcReference routeKey.ns), ∃ c,
      b.backendType = .service c ∨ b.backendType = .invalid c := by
    intro b hb
    obtain ⟨br, -, rfl⟩ := List.mem_map.1 hb
    unfold Backend.ofGrpcReference
    split
    · exact ⟨_, .inl rfl⟩
    · exact ⟨_, .inr rfl⟩
  rw [← self.processEach_ofGrpcReference routeKey refs state, processBackends, List.filter_eq_self.2,
    List.filter_eq_nil_iff.2, List.append_nil]
  all_goals
    intro b hb
    obtain ⟨c, hc | hc⟩ := htype b hb <;> simp [hc]

/-- The loop over the rules of an object, whatever numbers they are given. -/
theorem resolveGrpcRules_mapIdx (f : Nat → KubeRouteRule GrpcRouteMatch GrpcRouteFilter → GRPCRoutingRule)
    (hf : ∀ i rr, (f i rr).backends = (rr.backendRefs.getD []).map (Backend.ofGrpcReference routeKey.ns))
    (rules : List (KubeRouteRule GrpcRouteMatch GrpcRouteFilter)) (status : ResolutionStatus) (state : State) :
    (self.resolveGrpcRules routeKey (rules.mapIdx f) status state).1.2 = .resolved ↔
      status = .resolved ∧ ∀ rr ∈ rules, ∀ br ∈ rr.backendRefs.getD [], self.Resolvable routeKey br := by
  induction rules generalizing f status state with
  | nil => exact ⟨fun h => ⟨h, List.forall_mem_nil _⟩, And.left⟩
  | cons rr rules ih =>
    rw [List.mapIdx_cons, resolveGrpcRules, ih _ fun i => hf (i + 1), List.forall_mem_cons, mergeStatus_eq_resolved,
      hf, processBackends_ofGrpcReference, and_assoc]

/-! ## When the status is exact -/

/-- No filter of any rule is a mirror. -/
def NoMirror (r : GRPCRoute) : Prop :=
  ∀ rr ∈ r.spec.rules.getD [], ∀ filter ∈ rr.filters.getD [], filter.requestMirror = none

/-- A mirror backend is not resolved when a route is made, and `resolve` does not touch it. -/
theorem filterBackends_ofGRPCRoute (isIpAddr : String → Bool) (r : GRPCRoute) :
    (∀ b ∈ (Route.ofGRPCRoute isIpAddr r).filterBackends, b.IsResolved) ↔ NoMirror r := by
  simp only [Route.ofGRPCRoute, Route.filterBackends, List.forall_mem_flatMap, NoMirror]
  constructor
  · intro h rr hrr filter hfilter
    obtain ⟨i, hi, rfl⟩ := List.mem_iff_getElem.1 hrr
    by_contra hmirror
    obtain ⟨mirror, hmirror⟩ := Option.ne_none_iff_exists'.1 hmirror
    have hresolved := h _ (List.mem_mapIdx.2 ⟨i, hi, rfl⟩) _
      (List.mem_filterMap.2 ⟨filter, hfilter, by rw [hmirror]; rfl⟩)
    unfold Backend.ofMirror at hresolved
    split at hresolved <;> exact hresolved
  · intro h rule hrule b hb
    obtain ⟨i, hi, rfl⟩ := List.mem_mapIdx.1 hrule
    obtain ⟨filter, hfilter, heq⟩ := List.mem_filterMap.1 hb
    rw [h _ (List.getElem_mem hi) filter hfilter] at heq
    cases heq

/-- The status is that of the other backends, so with all of them resolved a mirror is what it misses. -/
theorem exact_ofGRPCRoute_iff (isIpAddr : String → Bool) (r : GRPCRoute) (state : State) :
    (self.resolve (.ofGRPCRoute isIpAddr r) state).1.Exact ↔
      NoMirror r ∨
        ∃ rr ∈ r.spec.rules.getD [], ∃ br ∈ rr.backendRefs.getD [], ¬ self.Resolvable r.resourceKey br := by
  let route := (self.resolve (.ofGRPCRoute isIpAddr r) state).1
  have hstatus : route.resolutionStatus = .resolved ↔ ∀ b ∈ route.backends, b.IsResolved := by
    have h := self.resolveGrpcRules_status r.resourceKey
      ((r.spec.rules.getD []).mapIdx (GRPCRoutingRule.ofKube r)) .resolved state
    rw [and_iff_right rfl] at h
    simp only [route, resolve, Route.ofGRPCRoute, Route.backends, List.forall_mem_flatMap]
    exact h
  have hrules : route.resolutionStatus = .resolved ↔
      ∀ rr ∈ r.spec.rules.getD [], ∀ br ∈ rr.backendRefs.getD [], self.Resolvable r.resourceKey br :=
    (self.resolveGrpcRules_mapIdx r.resourceKey (GRPCRoutingRule.ofKube r) (fun _ _ => rfl)
      (r.spec.rules.getD []) .resolved state).trans (and_iff_right rfl)
  have hfilter : (∀ b ∈ route.filterBackends, b.IsResolved) ↔ NoMirror r := by
    rw [← filterBackends_ofGRPCRoute isIpAddr r]
    simp only [route, resolve, Route.ofGRPCRoute, Route.filterBackends, resolveGrpcRules_filterBackends]
  have hexact : route.Exact ↔ (route.resolutionStatus = .resolved → NoMirror r) := by
    rw [Route.Exact, List.forall_mem_append, ← hstatus, hfilter, iff_self_and]
  rw [hexact, hrules, imp_iff_or_not]
  simp only [not_forall, exists_prop]

theorem keeps_ofGRPCRoute (isIpAddr : String → Bool) (r : GRPCRoute) (state : State) :
    (Route.ofGRPCRoute isIpAddr r).Keeps (self.resolve (.ofGRPCRoute isIpAddr r) state).1 :=
  self.resolveGrpcRules_keeps r.resourceKey _ .resolved state

/-- **When the status of a resolved route is exact.** Always for an HTTP route; for a GRPC route if it has no
mirror, or some backend does not resolve. The backends of both are kept. -/
theorem resolve_exact_iff (isIpAddr : String → Bool) (state : State) :
    (∀ r : HTTPRoute, (self.resolve (.ofHTTPRoute isIpAddr r) state).1.Exact ∧
      (Route.ofHTTPRoute isIpAddr r).Keeps (self.resolve (.ofHTTPRoute isIpAddr r) state).1) ∧
    ∀ r : GRPCRoute, (self.resolve (.ofGRPCRoute isIpAddr r) state).1.Exact ∧
      (Route.ofGRPCRoute isIpAddr r).Keeps (self.resolve (.ofGRPCRoute isIpAddr r) state).1 ↔
        NoMirror r ∨
          ∃ rr ∈ r.spec.rules.getD [], ∃ br ∈ rr.backendRefs.getD [], ¬ self.Resolvable r.resourceKey br := by
  refine ⟨fun r => self.resolve_http _ _ rfl state, fun r => ?_⟩
  rw [← self.exact_ofGRPCRoute_iff isIpAddr r state]
  exact and_iff_left (self.keeps_ofGRPCRoute isIpAddr r state)

end RouteResolver

/-! ## A GRPC route with a mirror -/

/-- A GRPC route without backends that copies its requests to a Service. -/
def mirroredRoute : GRPCRoute where
  metadata := { name := some "orders" }
  spec := { rules := some [{ filters := some [
    { type := .requestMirror, requestMirror := some { backendRef := { name := "audit" } } }] }] }

/-- A gateway that knows of no Service. -/
def emptyResolver : RouteResolver where
  api := { getService := fun _ _ => false, listPodIPs := fun _ _ => [], patchStatus := fun _ _ => false }
  gatewayResourceKey := { name := "edge" }

/-- The route is resolved, and its mirror is not. -/
theorem mirroredRoute_not_exact :
    ¬ (emptyResolver.resolve (.ofGRPCRoute (fun _ => false) mirroredRoute) {}).1.Exact := by
  rw [emptyResolver.exact_ofGRPCRoute_iff]
  rintro (hmirror | ⟨rr, hrr, br, hbr, -⟩)
  · exact Option.some_ne_none _ (hmirror _ (List.mem_singleton_self _) _ (List.mem_singleton_self _))
  · obtain rfl := List.mem_singleton.1 hrr
    cases hbr

end Kubvernor
