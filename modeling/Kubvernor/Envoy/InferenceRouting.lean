import Kubvernor.Envoy.MatchTranslation
import Kubvernor.Envoy.ResourceGenerator
import Kubvernor.Lib.Shares

/-!
# Which endpoint picker a request meets

A rule with inference pools becomes one route for each pool. The routes have the same match and the
same weighted clusters, and differ in the endpoint picker that their filter asks only. Envoy uses the
first of them (`HTTPEffectiveRoutingRule.usedRoute_iff`), so the picker of the first pool is asked
about the requests of all pools; the share of requests that the source computes for each route is
left unused.

**`HTTPEffectiveRoutingRule.poolsServed_iff`**: each pool is served by its own picker, in proportion
to its weight, exactly if the rule forwards nothing, or all pools of positive weight have the picker
of the first one and clusters of their own.
-/

namespace Kubvernor

/-! ## What Envoy does with the routes of a rule -/

section Used

variable (regexMatch : String → String → Bool)

/-- The route of a request is the first one that accepts it. -/
def UsedRoute (routes : List EnvoyRoute) (request : Request) (r : EnvoyRoute) : Prop :=
  ∃ before after, routes = before ++ r :: after ∧ r.routeMatch.Accepts regexMatch request ∧
    ∀ r' ∈ before, ¬ r'.routeMatch.Accepts regexMatch request

end Used

/-- The share of its requests that a route sends to the cluster of this name. -/
def EnvoyRoute.clusterShare (r : EnvoyRoute) (name : String) : ℚ :=
  Lib.share ClusterWeight.weight (fun c => c.name = name) r.weightedClusters

def Backend.clusterWeight (b : Backend) : ServiceClusterWeight := .ofBackend b

/-- The backend is a reference to the pool with this key. -/
def Backend.isPoolRef (key : ResourceKey) (b : Backend) : Bool :=
  match b.backendType with
  | .inferencePool pool => pool.resourceKey = key
  | .service _ | .invalid _ => false

namespace HTTPEffectiveRoutingRule

def pools (rule : HTTPEffectiveRoutingRule) : List InferencePoolTypeConfig :=
  getInferenceExtensionConfigurations rule.backends

/-- The share of the weights of the rule that its references to a pool have. -/
def poolShare (rule : HTTPEffectiveRoutingRule) (key : ResourceKey) : ℚ :=
  Lib.share (fun b : Backend => b.clusterWeight.weight.toNat) (Backend.isPoolRef key) rule.backends

/-- A route that sends requests to the cluster of a pool has them processed by the picker of the
pool, and sends as many as the pool's weight asks for. -/
structure PoolServed (rule : HTTPEffectiveRoutingRule) (type : GatewayImplementationType) (r : EnvoyRoute)
    (pool : InferencePoolTypeConfig) : Prop where
  picker : ∃ filter : ExtProcPerRoute, (INFERENCE_EXT_PROC_FILTER_NAME, filter) ∈ r.typedPerFilterConfig ∧
    ∃ info ∈ getInferencePoolConfigurations rule, info.config = pool ∧
      ∃ cluster ∈ generateExtServiceCluster type info, filter.clusterName = cluster.name
  share : r.clusterShare pool.clusterName = rule.poolShare pool.resourceKey

/-- Whichever request comes and whichever pool it can be sent to, the pool is served. -/
def PoolsServed (rule : HTTPEffectiveRoutingRule) (regexMatch : String → String → Bool)
    (type : GatewayImplementationType) : Prop :=
  ∀ request r, UsedRoute regexMatch rule.envoyRoutes request r → ∀ pool ∈ rule.pools, 0 < pool.weight →
    pool.clusterName ∈ r.weightedClusters.map (·.name) → rule.PoolServed type r pool

/-- The pools of positive weight have endpoint pickers, all called as that of the first pool, which
has one too. -/
def OnePicker (rule : HTTPEffectiveRoutingRule) : Prop :=
  ∀ pool ∈ rule.pools, 0 < pool.weight → pool.inferenceConfig.isSome ∧ ∀ first ∈ rule.pools.head?,
    first.inferenceConfig.isSome ∧
      ResourceKey.createId first.resourceKey.name first.resourceKey.ns =
        ResourceKey.createId pool.resourceKey.name pool.resourceKey.ns

/-- No other backend with a weight has the cluster of a pool. -/
def OwnClusters (rule : HTTPEffectiveRoutingRule) : Prop :=
  ∀ pool ∈ rule.pools, 0 < pool.weight → ∀ b ∈ rule.backends, b.clusterWeight.name = pool.clusterName →
    0 < b.clusterWeight.weight → b.isPoolRef pool.resourceKey = true

end HTTPEffectiveRoutingRule

/-- Envoy accepts no path: the value to compare with is not absolute, or the pattern matches
nothing absolute. -/
def PathMatch.Unmatchable (regexMatch : String → String → Bool) (p : PathMatch) : Prop :=
  match p.type with
  | none => False
  | some .exact => (trimPath p.value).toList.head? ≠ some '/'
  | some .pathPrefix => trimPath p.value ≠ "" ∧ (trimPath p.value).toList.head? ≠ some '/'
  | some .regularExpression => ∀ path : RequestPath, regexMatch (trimPath p.value) path = false

/-- Envoy accepts no request: no path, or two values are asked for in one header. -/
def RouteMatch.NeverUsed (regexMatch : String → String → Bool) (m : RouteMatch) : Prop :=
  (∃ p ∈ m.path, p.Unmatchable regexMatch) ∨ ∃ h ∈ m.headerMatches, ∃ h' ∈ m.headerMatches,
    h.name.toLower = h'.name.toLower ∧ h.value ≠ h'.value

/-! ## Matches that accept nothing -/

section Vacant

variable {regexMatch : String → String → Bool} {value : String}

theorem forall_path_ne_iff : (∀ path : RequestPath, ¬ path.1 = value) ↔ value.toList.head? ≠ some '/' := by
  constructor
  · intro h habsolute
    exact h ⟨value, habsolute⟩ rfl
  · rintro hvalue ⟨path, hpath⟩ rfl
    exact hvalue hpath

/-- What stands in front of an absolute path is absolute, if it is anything. -/
theorem absolute_of_prefix (path : RequestPath) (hfront : value.toList <+: path.1.toList) :
    value = "" ∨ value.toList.head? = some '/' := by
  obtain ⟨rest, hrest⟩ := hfront
  have hpath := path.2
  cases hv : value.toList with
  | nil =>
    refine .inl (String.toList_inj.1 ?_)
    rw [hv]
    rfl
  | cons c cs =>
    rw [← hrest, hv] at hpath
    exact .inr hpath

theorem exists_path_pathPrefix_iff :
    (∃ path : RequestPath, (PathSpecifier.pathPrefix value).Accepts regexMatch path) ↔
      value = "" ∨ value.toList.head? = some '/' := by
  constructor
  · rintro ⟨path, hfront⟩
    exact absolute_of_prefix path hfront
  · rintro (rfl | hvalue)
    · exact ⟨⟨"/", rfl⟩, List.nil_prefix⟩
    · exact ⟨⟨value, hvalue⟩, List.prefix_rfl⟩

theorem exists_path_pathSeparatedPrefix_iff :
    (∃ path : RequestPath, (PathSpecifier.pathSeparatedPrefix value).Accepts regexMatch path) ↔
      value = "" ∨ value.toList.head? = some '/' := by
  constructor
  · rintro ⟨path, heq | hfront⟩
    · rw [← heq]
      exact .inr path.2
    · exact absolute_of_prefix path ((List.prefix_append value.toList ['/']).trans hfront)
  · rintro (rfl | hvalue)
    · exact ⟨⟨"/", rfl⟩, .inr List.prefix_rfl⟩
    · exact ⟨⟨value, hvalue⟩, .inl rfl⟩

theorem pathSpecifier_vacant_iff {m : RouteMatch} :
    (∀ path : RequestPath, ¬ ∀ specifier ∈ (httpPathSpecifier m.path).or (some (.path "/")),
      specifier.Accepts regexMatch path) ↔ ∃ p ∈ m.path, p.Unmatchable regexMatch := by
  cases hp : m.path with
  | none => simp [httpPathSpecifier, PathSpecifier.Accepts]
  | some p =>
    simp only [Option.mem_some_iff, exists_eq_left', PathMatch.Unmatchable]
    cases ht : p.type with
    | none => simp [httpPathSpecifier, PathSpecifier.Accepts, ht]
    | some type =>
      simp only [httpPathSpecifier, Option.bind_some, ht, Option.map_some, Option.some_or,
        Option.mem_some_iff, forall_eq']
      cases type with
      | exact => exact forall_path_ne_iff
      | pathPrefix =>
        simp only
        rw [← not_exists, ← not_or, not_iff_not]
        split
        · split
          · exact exists_path_pathPrefix_iff
          · exact exists_path_pathSeparatedPrefix_iff
        · exact exists_path_pathPrefix_iff
      | regularExpression => exact forall_congr' fun path => Bool.eq_false_iff.symm

/-- Some request is accepted unless the path or a header forbids all of them. -/
theorem HTTPEffectiveRoutingRule.exists_accepted_iff {rule : HTTPEffectiveRoutingRule} :
    (∃ request, rule.envoyRoute.routeMatch.Accepts regexMatch request) ↔
      ¬ rule.routeMatcher.NeverUsed regexMatch := by
  have hparts : (∃ request, rule.envoyRoute.routeMatch.Accepts regexMatch request) ↔
      ∃ (path : RequestPath) (headers : String → Option String),
        (∀ specifier ∈ (httpPathSpecifier rule.routeMatcher.path).or (some (.path "/")),
          specifier.Accepts regexMatch path) ∧
        ∀ name, rule.routeMatcher.HeaderAcceptsByEnvoy name (headers name) := by
    constructor
    · rintro ⟨⟨path, headers⟩, hpath, hheaders⟩
      exact ⟨path, headers, hpath, RouteMatch.headerMatchers_iff_parts.1 hheaders⟩
    · rintro ⟨path, headers, hpath, hheaders⟩
      exact ⟨⟨path, headers⟩, hpath, RouteMatch.headerMatchers_iff_parts.2 hheaders⟩
  rw [hparts, ← Lib.not_vacant_iff, not_iff_not, Lib.Vacant, pathSpecifier_vacant_iff,
    RouteMatch.envoyHeader_vacant_iff, RouteMatch.NeverUsed]

end Vacant

/-! ## The route that is used -/

namespace HTTPEffectiveRoutingRule

variable {rule : HTTPEffectiveRoutingRule} {regexMatch : String → String → Bool} {r : EnvoyRoute}
variable {pool : InferencePoolTypeConfig} {type : GatewayImplementationType}

/-- The routes have one match, so the first of them is used or none. -/
theorem usedRoute_iff {request : Request} : UsedRoute regexMatch rule.envoyRoutes request r ↔
    rule.envoyRoutes.head? = some r ∧ rule.envoyRoute.routeMatch.Accepts regexMatch request := by
  constructor
  · rintro ⟨before, after, heq, haccepts, hbefore⟩
    have hr : r ∈ rule.envoyRoutes := by
      rw [heq]
      exact List.mem_append_right _ List.mem_cons_self
    rw [routeMatch_of_mem hr] at haccepts
    cases before with
    | nil =>
      rw [heq]
      exact ⟨rfl, haccepts⟩
    | cons r' before =>
      have hr' : r' ∈ rule.envoyRoutes := by
        rw [heq]
        exact List.mem_cons_self
      refine absurd ?_ (hbefore r' List.mem_cons_self)
      rw [routeMatch_of_mem hr']
      exact haccepts
  · rintro ⟨hhead, haccepts⟩
    obtain ⟨after, heq⟩ := List.head?_eq_some_iff.1 hhead
    refine ⟨[], after, heq, ?_, fun r' hr' => nomatch hr'⟩
    rw [routeMatch_of_mem (List.mem_of_mem_head? hhead)]
    exact haccepts

theorem mem_pools : pool ∈ rule.pools ↔ ∃ b ∈ rule.backends, b.backendType = .inferencePool pool := by
  unfold pools getInferenceExtensionConfigurations
  rw [List.mem_filterMap]
  refine exists_congr fun b => and_congr_right fun _ => ?_
  cases b.backendType <;> simp

/-- The first route asks the picker of the first pool. -/
theorem head?_envoyRoutes {first : InferencePoolTypeConfig} (hfirst : rule.pools.head? = some first) :
    rule.envoyRoutes.head? = some (rule.envoyRoute.addInferenceFilters first) := by
  obtain ⟨rest, hrest⟩ := List.head?_eq_some_iff.1 hfirst
  unfold pools at hrest
  simp only [envoyRoutes, hrest, List.isEmpty_cons, Bool.false_eq_true, if_false, List.map_cons, List.head?_cons]

/-- The endpoint picker of a pool has the name that the cluster of the pool has for this rule. -/
theorem exists_info_iff (hpool : pool ∈ rule.pools) {P : InferenceClusterInfo → Prop} :
    (∃ info ∈ getInferencePoolConfigurations rule, info.config = pool ∧ P info) ↔
      P ⟨makeInferenceClusterName rule.envoyRouteName pool.resourceKey, pool⟩ := by
  constructor
  · rintro ⟨info, hinfo, hconfig, hP⟩
    obtain ⟨conf, -, rfl⟩ := List.mem_map.1 hinfo
    obtain rfl : conf = pool := hconfig
    exact hP
  · intro hP
    exact ⟨_, List.mem_map_of_mem hpool, rfl, hP⟩

/-- The picker of the first pool is the picker of `pool` if both have one, and they have one name. -/
theorem picker_iff (type : GatewayImplementationType) (hpool : pool ∈ rule.pools)
    {first : InferencePoolTypeConfig} :
    (∃ filter : ExtProcPerRoute,
      (INFERENCE_EXT_PROC_FILTER_NAME, filter) ∈ (rule.envoyRoute.addInferenceFilters first).typedPerFilterConfig ∧
      ∃ info ∈ getInferencePoolConfigurations rule, info.config = pool ∧
        ∃ cluster ∈ generateExtServiceCluster type info, filter.clusterName = cluster.name) ↔
      pool.inferenceConfig.isSome ∧ first.inferenceConfig.isSome ∧
        ResourceKey.createId first.resourceKey.name first.resourceKey.ns =
          ResourceKey.createId pool.resourceKey.name pool.resourceKey.ns := by
  have hname : makeInferenceClusterName rule.envoyRouteName first.resourceKey =
      makeInferenceClusterName rule.envoyRouteName pool.resourceKey ↔
        ResourceKey.createId first.resourceKey.name first.resourceKey.ns =
          ResourceKey.createId pool.resourceKey.name pool.resourceKey.ns :=
    String.append_right_inj (rule.envoyRouteName ++ "-extsvc-")
  simp only [← hname, exists_info_iff hpool]
  constructor
  · rintro ⟨filter, hfilter, cluster, hcluster, heq⟩
    obtain ⟨entry, hentry, hpair⟩ := Option.map_eq_some_iff.1 (Option.mem_toList.1 hfilter)
    obtain ⟨conf, hconf, rfl⟩ := Option.map_eq_some_iff.1 hcluster
    rw [← (Prod.mk.inj hpair).2] at heq
    exact ⟨Option.isSome_of_mem hconf, Option.isSome_of_mem hentry, heq⟩
  · rintro ⟨hconfig, hfirst, heq⟩
    obtain ⟨conf, hconf⟩ := Option.isSome_iff_exists.1 hconfig
    obtain ⟨entry, hentry⟩ := Option.isSome_iff_exists.1 hfirst
    exact ⟨_, Option.mem_toList.2 (Option.map_eq_some_iff.2 ⟨entry, hentry, rfl⟩), _,
      Option.map_eq_some_iff.2 ⟨conf, hconf, rfl⟩, heq⟩

/-! ## Shares -/

/-- The clusters of a route stand for the backends of its rule, those without weight left out. -/
theorem weightIn_weightedClusters (hredirect : rule.redirectFilter = none) (p : String → Bool) :
    Lib.weightIn ClusterWeight.weight (fun c => p c.name) rule.envoyRoute.weightedClusters =
      Lib.weightIn (fun b : Backend => b.clusterWeight.weight.toNat) (fun b => p b.clusterWeight.name)
        rule.backends := by
  have hclusters : rule.envoyRoute.weightedClusters =
      createClusterWeights (rule.backends.map Backend.clusterWeight) := by
    simp only [EnvoyRoute.weightedClusters, envoyRoute, hredirect]
    rfl
  have hzero : ∀ b ∈ rule.backends.map Backend.clusterWeight, decide (0 < b.weight) = false →
      b.weight.toNat = 0 := by
    intro b _ hb
    have := of_decide_eq_false hb
    omega
  rw [hclusters, createClusterWeights, Lib.weightIn_map]
  exact (Lib.weightIn_filter hzero).trans (Lib.weightIn_map _ _)

theorem clusterShare_envoyRoute (hredirect : rule.redirectFilter = none) (name : String) :
    rule.envoyRoute.clusterShare name = Lib.share (fun b : Backend => b.clusterWeight.weight.toNat)
      (fun b => b.clusterWeight.name = name) rule.backends := by
  unfold EnvoyRoute.clusterShare Lib.share
  rw [weightIn_weightedClusters hredirect fun n => n = name, weightIn_weightedClusters hredirect fun _ => true]

theorem clusterName_of_isPoolRef {b : Backend} (hb : b.isPoolRef pool.resourceKey = true) :
    b.clusterWeight.name = pool.clusterName := by
  unfold Backend.isPoolRef at hb
  unfold Backend.clusterWeight ServiceClusterWeight.ofBackend
  split at hb
  · rename_i config hconfig
    rw [hconfig]
    exact congrArg ResourceKey.clusterName (of_decide_eq_true hb)
  · cases hb
  · cases hb

theorem share_iff (hredirect : rule.redirectFilter = none) (hpool : pool ∈ rule.pools)
    (hweight : 0 < pool.weight) :
    rule.envoyRoute.clusterShare pool.clusterName = rule.poolShare pool.resourceKey ↔
      ∀ b ∈ rule.backends, b.clusterWeight.name = pool.clusterName → 0 < b.clusterWeight.weight →
        b.isPoolRef pool.resourceKey = true := by
  obtain ⟨b, hb, hconfig⟩ := mem_pools.1 hpool
  have hpos : 0 < b.clusterWeight.weight.toNat := by
    simp only [Backend.clusterWeight, ServiceClusterWeight.ofBackend, hconfig]
    omega
  rw [clusterShare_envoyRoute hredirect, poolShare, Lib.share_eq_share_iff
    (fun b hb => decide_eq_true (clusterName_of_isPoolRef hb)) ⟨b, hb, hpos⟩]
  simp only [decide_eq_true_eq, Int.lt_toNat, Nat.cast_zero]

/-! ## Pools that are served -/

theorem exists_first (hpool : pool ∈ rule.pools) : ∃ first, rule.pools.head? = some first :=
  Option.isSome_iff_exists.1 (List.isSome_head?.2 (List.ne_nil_of_mem hpool))

theorem mem_weightedClusters_of_pool (hredirect : rule.redirectFilter = none) (hpool : pool ∈ rule.pools)
    (hweight : 0 < pool.weight) : pool.clusterName ∈ rule.envoyRoute.weightedClusters.map (·.name) := by
  obtain ⟨b, hb, hconfig⟩ := mem_pools.1 hpool
  refine List.mem_map.2 ⟨⟨pool.clusterName, pool.weight.toNat⟩, mem_weightedClusters.2 ⟨hredirect, b, hb, ?_⟩, rfl⟩
  refine mem_createClusterWeights.2 ⟨_, List.mem_singleton_self _, ?_⟩
  simp only [ServiceClusterWeight.ofBackend, hconfig, hweight, and_self]

theorem poolServed_iff {first : InferencePoolTypeConfig} (hredirect : rule.redirectFilter = none)
    (hpool : pool ∈ rule.pools) (hweight : 0 < pool.weight) :
    rule.PoolServed type (rule.envoyRoute.addInferenceFilters first) pool ↔
      (pool.inferenceConfig.isSome ∧ first.inferenceConfig.isSome ∧
        ResourceKey.createId first.resourceKey.name first.resourceKey.ns =
          ResourceKey.createId pool.resourceKey.name pool.resourceKey.ns) ∧
      ∀ b ∈ rule.backends, b.clusterWeight.name = pool.clusterName → 0 < b.clusterWeight.weight →
        b.isPoolRef pool.resourceKey = true := by
  rw [← share_iff hredirect hpool hweight, ← picker_iff type hpool]
  constructor
  · rintro ⟨hpicker, hshare⟩
    exact ⟨hpicker, hshare⟩
  · rintro ⟨hpicker, hshare⟩
    exact ⟨hpicker, hshare⟩

/-- Each inference pool of a rule is processed by its own endpoint picker and receives its share of
the requests exactly if the rule redirects, or its match accepts nothing, or all pools of positive
weight share the picker of the first pool and no other backend shares their clusters. -/
theorem poolsServed_iff (rule : HTTPEffectiveRoutingRule) (regexMatch : String → String → Bool)
    (type : GatewayImplementationType) : rule.PoolsServed regexMatch type ↔
      rule.redirectFilter.isSome ∨ rule.routeMatcher.NeverUsed regexMatch ∨
        rule.OnePicker ∧ rule.OwnClusters := by
  cases hredirect : rule.redirectFilter with
  | some f =>
    refine iff_of_true ?_ (.inl rfl)
    intro request r hr pool _ _ hcluster
    rw [weightedClusters_of_mem (List.mem_of_mem_head? (usedRoute_iff.1 hr).1)] at hcluster
    simp only [EnvoyRoute.weightedClusters, envoyRoute, hredirect, List.map_nil, List.not_mem_nil] at hcluster
  | none =>
    rw [Option.isSome_none, Bool.false_eq_true, false_or]
    by_cases hnever : rule.routeMatcher.NeverUsed regexMatch
    · refine iff_of_true ?_ (.inl hnever)
      intro request r hr
      exact absurd hnever (exists_accepted_iff.1 ⟨request, (usedRoute_iff.1 hr).2⟩)
    · rw [or_iff_right hnever]
      obtain ⟨request, haccepts⟩ := exists_accepted_iff.2 hnever
      constructor
      · intro hserved
        have hpool : ∀ pool ∈ rule.pools, 0 < pool.weight → ∀ first ∈ rule.pools.head?,
            rule.PoolServed type (rule.envoyRoute.addInferenceFilters first) pool := by
          intro pool hpool hweight first hfirst
          exact hserved request _ (usedRoute_iff.2 ⟨head?_envoyRoutes hfirst, haccepts⟩) pool hpool hweight
            (mem_weightedClusters_of_pool hredirect hpool hweight)
        refine ⟨fun pool hmem hweight => ?_, fun pool hmem hweight => ?_⟩
        · obtain ⟨first, hfirst⟩ := exists_first hmem
          refine ⟨((poolServed_iff hredirect hmem hweight).1 (hpool pool hmem hweight first hfirst)).1.1, ?_⟩
          intro first' hfirst'
          exact ((poolServed_iff hredirect hmem hweight).1 (hpool pool hmem hweight first' hfirst')).1.2
        · obtain ⟨first, hfirst⟩ := exists_first hmem
          exact ((poolServed_iff hredirect hmem hweight).1 (hpool pool hmem hweight first hfirst)).2
      · rintro ⟨hpicker, hown⟩ request r hr pool hmem hweight -
        obtain ⟨first, hfirst⟩ := exists_first hmem
        obtain ⟨hpool, hfirsts⟩ := hpicker pool hmem hweight
        have hhead := (usedRoute_iff.1 hr).1
        rw [head?_envoyRoutes hfirst, Option.some_inj] at hhead
        rw [← hhead]
        exact (poolServed_iff hredirect hmem hweight).2 ⟨⟨hpool, hfirsts first hfirst⟩, hown pool hmem hweight⟩

end HTTPEffectiveRoutingRule

/-- A pool of weight one with its endpoint picker. -/
def pickedPool (name picker : String) : InferencePoolTypeConfig where
  resourceKey := { group := DEFAULT_INFERENCE_GROUP_NAME, ns := "models", name := name, kind := "InferencePool" }
  inferenceConfig := some { endpointPickerRef := { name := picker } }

/-- A rule that shares its requests between two pools. -/
def twoPoolsRule : HTTPEffectiveRoutingRule where
  __ := ruleMatching { path := some { type := some .pathPrefix, value := some "/" } }
  backends := [.resolved (.inferencePool (pickedPool "llama" "llama-picker")),
    .resolved (.inferencePool (pickedPool "mistral" "mistral-picker"))]

/-- The requests that go to the second pool are processed by the picker of the first. -/
theorem twoPoolsRule_not_poolsServed : ¬ twoPoolsRule.PoolsServed literalRegexMatch .envoy := by
  intro hserved
  have haccepts : twoPoolsRule.envoyRoute.routeMatch.Accepts literalRegexMatch ⟨⟨"/", rfl⟩, fun _ => none⟩ := by
    refine ⟨?_, fun h hmem => nomatch hmem⟩
    rintro specifier ⟨⟩
    exact List.prefix_rfl
  have hpool : pickedPool "mistral" "mistral-picker" ∈ twoPoolsRule.pools := List.mem_cons_of_mem _ List.mem_cons_self
  have hpicker := (hserved _ _ (HTTPEffectiveRoutingRule.usedRoute_iff.2
    ⟨HTTPEffectiveRoutingRule.head?_envoyRoutes rfl, haccepts⟩) _ hpool (by decide) (by decide)).picker
  exact absurd ((HTTPEffectiveRoutingRule.picker_iff .envoy hpool).1 hpicker).2.2 (by decide)

end Kubvernor
