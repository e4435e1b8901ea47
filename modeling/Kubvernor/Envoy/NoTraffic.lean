import Kubvernor.Envoy.ResourceGenerator

/-!
# No traffic to unpermitted backends

The route side of the Envoy configuration names a weighted cluster after every backend of a rule,
in whatever state; that a backend which is not resolved gets no traffic rests on no cluster having
that name. The clusters are those of the resolved backends of the whole gateway (`hasCluster_iff`),
so a backend that one route may not reach is reached all the same once another route, which may,
resolves a backend of the same name and namespace.

**`noUnpermittedTraffic_iff`**: no traffic leaks exactly if no name that a rule forwards to for the
sake of an unresolved backend is the name of a cluster (`Gateway.HasCluster`).
-/

namespace Kubvernor

/-! ## What a backend contributes -/

/-- The weighted clusters that come from this backend in the routes of a rule. -/
def HTTPEffectiveRoutingRule.entriesFrom (rule : HTTPEffectiveRoutingRule) (b : Backend) :
    List ClusterWeight :=
  ({ rule with backends := [b] } : HTTPEffectiveRoutingRule).envoyRoute.weightedClusters

def GRPCEffectiveRoutingRule.entriesFrom (rule : GRPCEffectiveRoutingRule) (b : Backend) :
    List ClusterWeight :=
  ({ rule with backends := [b] } : GRPCEffectiveRoutingRule).envoyRoute.weightedClusters

section Entries

variable {b : Backend} {w : ClusterWeight}

theorem HTTPEffectiveRoutingRule.mem_entriesFrom {rule : HTTPEffectiveRoutingRule} :
    w ∈ rule.entriesFrom b ↔ rule.redirectFilter = none ∧
      w ∈ createClusterWeights [ServiceClusterWeight.ofBackend b] := by
  simp [entriesFrom, HTTPEffectiveRoutingRule.mem_weightedClusters]

theorem GRPCEffectiveRoutingRule.mem_entriesFrom {rule : GRPCEffectiveRoutingRule} :
    w ∈ rule.entriesFrom b ↔ ∃ c, b.backendType = .service c ∧
      w ∈ createClusterWeights [⟨c.clusterName, c.weight⟩] := by
  simp [entriesFrom, GRPCEffectiveRoutingRule.mem_weightedClusters]

/-- Every weighted cluster of a route comes from a backend of its rule. -/
theorem HTTPEffectiveRoutingRule.mem_weightedClusters_iff_entriesFrom {rule : HTTPEffectiveRoutingRule} :
    w ∈ rule.envoyRoute.weightedClusters ↔ ∃ b ∈ rule.backends, w ∈ rule.entriesFrom b := by
  simp only [HTTPEffectiveRoutingRule.mem_weightedClusters, mem_entriesFrom]
  constructor
  · rintro ⟨hr, b, hb, hw⟩
    exact ⟨b, hb, hr, hw⟩
  · rintro ⟨b, hb, hr, hw⟩
    exact ⟨hr, b, hb, hw⟩

theorem GRPCEffectiveRoutingRule.mem_weightedClusters_iff_entriesFrom {rule : GRPCEffectiveRoutingRule} :
    w ∈ rule.envoyRoute.weightedClusters ↔ ∃ b ∈ rule.backends, w ∈ rule.entriesFrom b := by
  simp only [GRPCEffectiveRoutingRule.mem_weightedClusters, mem_entriesFrom]

end Entries

/-! ## The property and its condition -/

variable (domainPattern : String → Option (String → Bool))

/-- The clusters of the whole gateway. -/
def Gateway.envoyClusters (gw : Gateway) (t : GatewayImplementationType) (calculator : String → List String) :
    List Cluster :=
  ((ResourceGenerator.new gw t calculator).generateEnvoyListeners domainPattern).generateEnvoyClusters

/-- No Envoy route generated for a rule sends requests to a cluster on behalf of a backend that is
not resolved: the names it gives such backends are the names of no cluster. -/
def Gateway.NoUnpermittedTraffic (gw : Gateway) (t : GatewayImplementationType)
    (calculator : String → List String) : Prop :=
  ∀ l ∈ gw.listenerValues, l.IsHttp → ∀ h ∈ l.potentialHostnames,
    (∀ em ∈ l.httpRulesFor domainPattern h, ∀ b ∈ em.backends, ¬ b.IsResolved →
      ∀ r ∈ em.envoyRoutes, ∀ w ∈ r.weightedClusters, w ∈ em.entriesFrom b →
        ∀ c ∈ gw.envoyClusters domainPattern t calculator, c.name ≠ w.name) ∧
    (∀ em ∈ l.grpcRulesFor domainPattern h, ∀ b ∈ em.backends, ¬ b.IsResolved →
      ∀ w ∈ em.envoyRoute.weightedClusters, w ∈ em.entriesFrom b →
        ∀ c ∈ gw.envoyClusters domainPattern t calculator, c.name ≠ w.name)

/-- A rule of the route forwards to this backend, under this name. -/
inductive Route.Forwards (r : Route) (b : Backend) : String → Prop
  | http {rules : List HTTPRoutingRule} {rule : HTTPRoutingRule} :
    r.routeType = .http rules → rule ∈ rules → rule.redirectFilter = none → b ∈ rule.backends →
    0 < (ServiceClusterWeight.ofBackend b).weight → Forwards r b (ServiceClusterWeight.ofBackend b).name
  | grpc {rules : List GRPCRoutingRule} {rule : GRPCRoutingRule} {c : ServiceTypeConfig} :
    r.routeType = .grpc rules → rule ∈ rules → b ∈ rule.backends → b.backendType = .service c →
    0 < c.weight → Forwards r b c.clusterName

/-- The route has a resolved backend of this name, or a resolved filter backend other than a pool. -/
def Route.Needs (r : Route) (name : String) : Prop :=
  (∃ b ∈ r.backends, b.IsResolved ∧ 0 < (ServiceClusterWeight.ofBackend b).weight ∧
    (ServiceClusterWeight.ofBackend b).name = name) ∨
  ∃ b ∈ r.filterBackends, b.IsResolved ∧ (∀ c, b.backendType ≠ .inferencePool c) ∧
    0 < (ServiceClusterWeight.ofBackend b).weight ∧ (ServiceClusterWeight.ofBackend b).name = name

/-- The listener admits the route at one of the hostnames it may serve. -/
def Listener.Admits (l : Listener) (r : Route) : Prop :=
  ∃ h ∈ l.potentialHostnames, HostnameMatchFilter.filter domainPattern ⟨h, r.hostnames⟩ = true

/-- A pool of the route has an endpoint picker, whose cluster has this name. -/
def Route.AsksPicker (r : Route) (name : String) : Prop :=
  ∃ rules, r.routeType = .http rules ∧ ∃ rule ∈ rules, ∃ b ∈ rule.backends, ∃ c,
    b.backendType = .inferencePool c ∧ c.inferenceConfig.isSome ∧
    makeInferenceClusterName (rule.name ++ "_route") c.resourceKey = name

/-- The gateway has a cluster of this name: a route of a listener needs it, some virtual host of
which no later listener of its port replaces, or the endpoint picker of a pool is behind it. -/
def Gateway.HasCluster (gw : Gateway) (name : String) : Prop :=
  (∃ l later, (l :: later) <:+ gw.listenerValues ∧ l.IsHttp ∧
    (∃ h ∈ l.potentialHostnames, ∀ l' ∈ later, l'.IsHttp → l'.port = l.port →
      ∀ h' ∈ l'.potentialHostnames, l'.virtualHostName h' ≠ l.virtualHostName h) ∧
    ∃ r ∈ l.attached, r.Needs name) ∨
  ∃ l ∈ gw.listenerValues, l.IsHttp ∧ ∃ r ∈ l.attached, l.Admits domainPattern r ∧ r.AsksPicker name

/-! ## The clusters of a gateway -/

variable {domainPattern} {gw : Gateway} {t : GatewayImplementationType} {calculator : String → List String}
variable {l : Listener} {name h : String}

theorem exists_mem_resolvedServices {backends : List Backend} :
    (∃ c ∈ resolvedServices backends, c.clusterName = name) ↔
      ∃ b ∈ backends, b.IsResolved ∧ (∀ c, b.backendType ≠ .inferencePool c) ∧
        0 < (ServiceClusterWeight.ofBackend b).weight ∧ (ServiceClusterWeight.ofBackend b).name = name := by
  simp only [resolvedServices, List.mem_filter, List.mem_filterMap, decide_eq_true_eq]
  constructor
  · rintro ⟨c, ⟨⟨b, hb, hc⟩, hw⟩, rfl⟩
    refine ⟨b, hb, ?_⟩
    split at hc
    all_goals simp_all [Backend.IsResolved, Backend.backendType, ServiceClusterWeight.ofBackend]
  · rintro ⟨b, hb, hres, hpool, hw, rfl⟩
    rcases b with (c | c | c) | _ | _ | _ | _
    · exact ⟨c, ⟨⟨_, hb, rfl⟩, hw⟩, rfl⟩
    · exact absurd rfl (hpool c)
    · exact ⟨c, ⟨⟨_, hb, rfl⟩, hw⟩, rfl⟩
    all_goals exact absurd hres id

theorem exists_mem_resolvedPools {backends : List Backend} :
    (∃ c ∈ resolvedPools backends, c.clusterName = name) ↔
      ∃ b ∈ backends, b.IsResolved ∧ (∃ c, b.backendType = .inferencePool c) ∧
        0 < (ServiceClusterWeight.ofBackend b).weight ∧ (ServiceClusterWeight.ofBackend b).name = name := by
  simp only [resolvedPools, List.mem_filter, List.mem_filterMap, decide_eq_true_eq]
  constructor
  · rintro ⟨c, ⟨⟨b, hb, hc⟩, hw⟩, rfl⟩
    refine ⟨b, hb, ?_⟩
    split at hc
    all_goals simp_all [Backend.IsResolved, Backend.backendType, ServiceClusterWeight.ofBackend]
  · rintro ⟨b, hb, hres, ⟨c, hc⟩, hw, rfl⟩
    rcases b with (c | c | c) | _ | _ | _ | _
    · cases hc
    · exact ⟨c, ⟨⟨_, hb, rfl⟩, hw⟩, rfl⟩
    · cases hc
    all_goals exact absurd hres id

/-- The clusters of one route are named after its resolved backends. -/
theorem Route.exists_mem_clusters {r : Route} : (∃ c ∈ r.clusters, c.name = name) ↔ r.Needs name := by
  have hmap {α : Type} (f : α → Cluster) (as : List α) :
      (∃ c ∈ as.map f, c.name = name) ↔ ∃ a ∈ as, (f a).name = name := by simp
  have hsplit : (∃ c ∈ r.clusters, c.name = name) ↔
      ((∃ c ∈ resolvedServices r.backends, c.clusterName = name) ∨
        ∃ c ∈ resolvedPools r.backends, c.clusterName = name) ∨
      ∃ c ∈ resolvedServices r.filterBackends, c.clusterName = name := by
    simp only [clusters, List.mem_append, or_and_right, exists_or, hmap]
    rfl
  rw [hsplit, exists_mem_resolvedServices, exists_mem_resolvedPools, exists_mem_resolvedServices]
  refine or_congr_left ?_
  constructor
  · rintro (⟨b, hb, hres, -, h⟩ | ⟨b, hb, hres, -, h⟩)
    · exact ⟨b, hb, hres, h⟩
    · exact ⟨b, hb, hres, h⟩
  · rintro ⟨b, hb, hres, h⟩
    by_cases hpool : ∃ c, b.backendType = .inferencePool c
    · exact .inr ⟨b, hb, hres, hpool, h⟩
    · exact .inl ⟨b, hb, hres, fun c hc => hpool ⟨c, hc⟩, h⟩

/-- The pools of one effective rule that have an endpoint picker, by the names of their clusters. -/
theorem exists_mem_getInferencePoolConfigurations {em : HTTPEffectiveRoutingRule} :
    (∃ info ∈ getInferencePoolConfigurations em, info.config.inferenceConfig.isSome ∧ info.clusterName = name) ↔
      ∃ b ∈ em.backends, ∃ c, b.backendType = .inferencePool c ∧ c.inferenceConfig.isSome ∧
        makeInferenceClusterName em.envoyRouteName c.resourceKey = name := by
  simp only [getInferencePoolConfigurations, getInferenceExtensionConfigurations, List.mem_map, List.mem_filterMap]
  constructor
  · rintro ⟨_, ⟨c, ⟨b, hb, hc⟩, rfl⟩, hconf, hname⟩
    refine ⟨b, hb, c, ?_, hconf, hname⟩
    split at hc
    all_goals simp_all
  · rintro ⟨b, hb, c, hc, hconf, hname⟩
    exact ⟨_, ⟨c, ⟨b, hb, by rw [hc]⟩, rfl⟩, hconf, hname⟩

/-- The endpoint pickers behind a listener are those of the pools its admitted routes send to. -/
theorem exists_mem_inferencePools (hl : l.IsHttp) :
    (∃ info ∈ l.inferencePools domainPattern, info.config.inferenceConfig.isSome ∧ info.clusterName = name) ↔
      ∃ r ∈ l.attached, l.Admits domainPattern r ∧ r.AsksPicker name := by
  simp only [Listener.inferencePools, if_pos hl, List.mem_flatMap]
  constructor
  · rintro ⟨info, ⟨h, hh, em, hem, hinfo⟩, hconf⟩
    obtain ⟨r, hr, hf, rules, hrules, rule, hrule, matcher, -, rfl⟩ := mem_httpRulesFor.1 hem
    obtain ⟨b, hb, c, hc⟩ := exists_mem_getInferencePoolConfigurations.1 ⟨info, hinfo, hconf⟩
    exact ⟨r, hr, ⟨h, hh, hf⟩, rules, hrules, rule, hrule, b, hb, c, hc⟩
  · rintro ⟨r, hr, ⟨h, hh, hf⟩, rules, hrules, rule, hrule, b, hb, c, hc⟩
    obtain ⟨matcher, hm⟩ := List.exists_mem_of_ne_nil _ rule.matchers_ne_nil
    have hem := mem_httpRulesFor.2 ⟨r, hr, hf, rules, hrules, rule, hrule, matcher, hm, rfl⟩
    have hinfos : ∃ info ∈ getInferencePoolConfigurations (l.httpEffectiveRule r.hostnames rule matcher),
        info.config.inferenceConfig.isSome ∧ info.clusterName = name :=
      exists_mem_getInferencePoolConfigurations.2 ⟨b, hb, c, hc⟩
    obtain ⟨info, hinfo, hconf⟩ := hinfos
    exact ⟨info, ⟨h, hh, _, hem, hinfo⟩, hconf⟩

/-- The names of the clusters of a gateway, read off its listeners and routes. -/
theorem hasCluster_iff :
    (∃ c ∈ gw.envoyClusters domainPattern t calculator, c.name = name) ↔ gw.HasCluster domainPattern name := by
  unfold Gateway.envoyClusters Gateway.HasCluster
  rw [ResourceGenerator.exists_mem_generateEnvoyClusters]
  refine or_congr ?_ ?_
  · simp only [ResourceGenerator.virtualHost?_generateEnvoyListeners, Listener.offer_eq_some,
      Listener.offer_eq_none, Route.exists_mem_clusters]
    constructor
    · rintro ⟨port, key, vh, ⟨l, later, hsuffix, ⟨hl, rfl, h, hh, rfl, rfl⟩, hlater⟩, r, hr, hneeds⟩
      exact ⟨l, later, hsuffix, hl, ⟨h, hh, hlater⟩, r, hr, hneeds⟩
    · rintro ⟨l, later, hsuffix, hl, ⟨h, hh, hlater⟩, r, hr, hneeds⟩
      exact ⟨l.port, l.virtualHostName h, _, ⟨l, later, hsuffix, ⟨hl, rfl, h, hh, rfl, rfl⟩, hlater⟩, r, hr, hneeds⟩
  · rw [ResourceGenerator.inferenceClusters_generateEnvoyListeners]
    simp only [ResourceGenerator.new, List.nil_append, List.mem_flatMap]
    constructor
    · rintro ⟨info, ⟨l, hl, hinfo⟩, hconf⟩
      by_cases hhttp : l.IsHttp
      · exact ⟨l, hl, hhttp, (exists_mem_inferencePools hhttp).1 ⟨info, hinfo, hconf⟩⟩
      · rw [Listener.inferencePools, if_neg hhttp] at hinfo
        cases hinfo
    · rintro ⟨l, hl, hhttp, hpicker⟩
      obtain ⟨info, hinfo, hconf⟩ := (exists_mem_inferencePools hhttp).2 hpicker
      exact ⟨info, ⟨l, hl, hinfo⟩, hconf⟩

/-! ## The property holds exactly under its condition -/

/-- What an HTTP route forwards to for the sake of a backend is an entry of one of its Envoy routes. -/
theorem Route.Forwards.exists_entry {r : Route} {b : Backend} (hf : r.Forwards b name) (hr : r ∈ l.attached)
    (hadm : HostnameMatchFilter.filter domainPattern ⟨h, r.hostnames⟩ = true) :
    (∃ em ∈ l.httpRulesFor domainPattern h, b ∈ em.backends ∧ ∃ w ∈ em.entriesFrom b, w.name = name) ∨
    (∃ em ∈ l.grpcRulesFor domainPattern h, b ∈ em.backends ∧ ∃ w ∈ em.entriesFrom b, w.name = name) := by
  cases hf with
  | http hrules hrule hredirect hb hw =>
    rename_i rule
    obtain ⟨matcher, hm⟩ := List.exists_mem_of_ne_nil _ rule.matchers_ne_nil
    refine .inl ⟨_, mem_httpRulesFor.2 ⟨r, hr, hadm, _, hrules, rule, hrule, matcher, hm, rfl⟩, hb, ?_⟩
    exact ⟨_, HTTPEffectiveRoutingRule.mem_entriesFrom.2 ⟨hredirect,
      mem_createClusterWeights.2 ⟨_, List.mem_singleton_self _, hw, rfl⟩⟩, rfl⟩
  | grpc hrules hrule hb hc hw =>
    rename_i rule c
    obtain ⟨matcher, hm⟩ := List.exists_mem_of_ne_nil _ rule.matchers_ne_nil
    refine .inr ⟨_, mem_grpcRulesFor.2 ⟨r, hr, hadm, _, hrules, rule, hrule, matcher, hm, rfl⟩, hb, ?_⟩
    exact ⟨_, GRPCEffectiveRoutingRule.mem_entriesFrom.2 ⟨c, hc,
      mem_createClusterWeights.2 ⟨_, List.mem_singleton_self _, hw, rfl⟩⟩, rfl⟩

/-- An entry that comes from a backend is forwarded to by the route its rule belongs to. -/
theorem Route.forwards_of_http {em : HTTPEffectiveRoutingRule} {b : Backend} {w : ClusterWeight}
    (hem : em ∈ l.httpRulesFor domainPattern h) (hb : b ∈ em.backends) (hw : w ∈ em.entriesFrom b) :
    ∃ r ∈ l.attached, HostnameMatchFilter.filter domainPattern ⟨h, r.hostnames⟩ = true ∧ r.Forwards b w.name := by
  obtain ⟨r, hr, hf, rules, hrules, rule, hrule, matcher, -, rfl⟩ := mem_httpRulesFor.1 hem
  obtain ⟨hredirect, hw⟩ := HTTPEffectiveRoutingRule.mem_entriesFrom.1 hw
  obtain ⟨_, hmem, hpos, rfl⟩ := mem_createClusterWeights.1 hw
  obtain rfl := List.mem_singleton.1 hmem
  exact ⟨r, hr, hf, .http hrules hrule hredirect hb hpos⟩

theorem Route.forwards_of_grpc {em : GRPCEffectiveRoutingRule} {b : Backend} {w : ClusterWeight}
    (hem : em ∈ l.grpcRulesFor domainPattern h) (hb : b ∈ em.backends) (hw : w ∈ em.entriesFrom b) :
    ∃ r ∈ l.attached, HostnameMatchFilter.filter domainPattern ⟨h, r.hostnames⟩ = true ∧ r.Forwards b w.name := by
  obtain ⟨r, hr, hf, rules, hrules, rule, hrule, matcher, -, rfl⟩ := mem_grpcRulesFor.1 hem
  obtain ⟨c, hc, hw⟩ := GRPCEffectiveRoutingRule.mem_entriesFrom.1 hw
  obtain ⟨_, hmem, hpos, rfl⟩ := mem_createClusterWeights.1 hw
  obtain rfl := List.mem_singleton.1 hmem
  exact ⟨r, hr, hf, .grpc hrules hrule hb hc hpos⟩

/-- Where no traffic leaks, a name forwarded to for an unresolved backend names no cluster. -/
theorem Gateway.NoUnpermittedTraffic.not_hasCluster (hno : gw.NoUnpermittedTraffic domainPattern t calculator)
    (hl : l ∈ gw.listenerValues) (hhttp : l.IsHttp) {r : Route} (hr : r ∈ l.attached)
    (hadm : l.Admits domainPattern r) {b : Backend} (hf : r.Forwards b name) (hb : ¬ b.IsResolved) :
    ¬ gw.HasCluster domainPattern name := by
  intro hcluster
  have hclusters : ∃ c ∈ gw.envoyClusters domainPattern t calculator, c.name = name := hasCluster_iff.2 hcluster
  obtain ⟨c, hc, hname⟩ := hclusters
  obtain ⟨h, hh, hfilter⟩ := hadm
  obtain ⟨hhttpRules, hgrpcRules⟩ := hno l hl hhttp h hh
  rcases hf.exists_entry hr hfilter with ⟨em, hem, hmem, w, hw, rfl⟩ | ⟨em, hem, hmem, w, hw, rfl⟩
  · -- the rule has at least one Envoy route, and all its routes have the entry
    obtain ⟨r', hr'⟩ := List.exists_mem_of_ne_nil _ em.envoyRoutes_ne_nil
    refine hhttpRules em hem b hmem hb r' hr' w ?_ hw c hc hname
    rw [HTTPEffectiveRoutingRule.weightedClusters_of_mem hr']
    exact HTTPEffectiveRoutingRule.mem_weightedClusters_iff_entriesFrom.2 ⟨b, hmem, hw⟩
  · exact hgrpcRules em hem b hmem hb w
      (GRPCEffectiveRoutingRule.mem_weightedClusters_iff_entriesFrom.2 ⟨b, hmem, hw⟩) hw c hc hname

/-- **No traffic leaks exactly if no name forwarded to for an unresolved backend names a cluster.** -/
theorem noUnpermittedTraffic_iff : gw.NoUnpermittedTraffic domainPattern t calculator ↔
    ∀ l ∈ gw.listenerValues, l.IsHttp → ∀ r ∈ l.attached, l.Admits domainPattern r →
      ∀ b name, r.Forwards b name → ¬ b.IsResolved → ¬ gw.HasCluster domainPattern name := by
  constructor
  · intro hno l hl hhttp r hr hadm b name hf hb
    exact hno.not_hasCluster hl hhttp hr hadm hf hb
  · intro hcond l hl hhttp h hh
    constructor
    · intro em hem b hb hres _ _ w _ hw c hc hname
      obtain ⟨r, hr, hfilter, hf⟩ := Route.forwards_of_http hem hb hw
      exact hcond l hl hhttp r hr ⟨h, hh, hfilter⟩ b w.name hf hres (hasCluster_iff.1 ⟨c, hc, hname⟩)
    · intro em hem b hb hres w _ hw c hc hname
      obtain ⟨r, hr, hfilter, hf⟩ := Route.forwards_of_grpc hem hb hw
      exact hcond l hl hhttp r hr ⟨h, hh, hfilter⟩ b w.name hf hres (hasCluster_iff.1 ⟨c, hc, hname⟩)

/-! ## A backend that two routes share -/

/-- The Service of the namespace `green`. -/
def sharedService : ServiceTypeConfig where
  resourceKey := { ns := "green", name := "svc", kind := "Service" }
  endpoint := "svc.green"
  port := 80
  effectivePort := 80

/-- A route of the namespace `blue`, which has no grant to use the service. -/
def trespassingRoute : Route where
  resourceKey := { ns := "blue", name := "trespassing", kind := "HTTPRoute" }
  resolutionStatus := .notResolved .refNotPermitted
  routeType := .http [{ name := "trespassing-0", backends := [.notAllowed (.service sharedService)] }]

/-- A route of the service's own namespace. -/
def permittedRoute : Route where
  resourceKey := { ns := "green", name := "permitted", kind := "HTTPRoute" }
  resolutionStatus := .resolved
  routeType := .http [{ name := "permitted-0", backends := [.resolved (.service sharedService)] }]

def sharedListener : Listener where
  protocol := .http
  data :=
    { config := { name := "http", port := 80 }
      resolvedRoutes := .ofRoutes [permittedRoute]
      unresolvedRoutes := .ofRoutes [trespassingRoute] }

def sharedGateway : Gateway where
  id := 1
  resourceKey := { name := "gw" }
  listeners := .ofList [("http", sharedListener)]

/-- The service gets the traffic of a route that may not use it, once another route may. -/
theorem sharedGateway_leaks :
    ¬ sharedGateway.NoUnpermittedTraffic (fun pattern => some (· = pattern)) .envoy calculateEffectiveHostnames := by
  intro hno
  have hvalues : sharedGateway.listenerValues = [sharedListener] := rfl
  have hattached : sharedListener.attached = [permittedRoute, trespassingRoute] := rfl
  have hhostnames : sharedListener.potentialHostnames = ["*"] := rfl
  have hcluster : sharedGateway.HasCluster (fun pattern => some (· = pattern)) "svc.green" := by
    refine .inl ⟨sharedListener, [], ⟨[], hvalues.symm⟩, .inl rfl, ⟨"*", ?_, by simp⟩, permittedRoute, ?_, ?_⟩
    · rw [hhostnames]
      exact List.mem_singleton_self _
    · rw [hattached]
      exact List.mem_cons_self
    · exact .inl ⟨.resolved (.service sharedService), List.mem_singleton_self _, trivial, by decide, by decide⟩
  refine hno.not_hasCluster (l := sharedListener) (r := trespassingRoute) (b := .notAllowed (.service sharedService))
    ?_ (.inl rfl) ?_ ?_ ?_ id hcluster
  · rw [hvalues]
    exact List.mem_singleton_self _
  · rw [hattached]
    exact List.mem_cons_of_mem _ (List.mem_singleton_self _)
  · exact ⟨"*", by rw [hhostnames]; exact List.mem_singleton_self _, rfl⟩
  · exact .http rfl (List.mem_singleton_self _) rfl (List.mem_singleton_self _) (by decide)

end Kubvernor
