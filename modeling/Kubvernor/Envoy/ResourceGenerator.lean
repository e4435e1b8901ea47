import Kubvernor.Common.Gateway
import Kubvernor.Envoy.Routes
import Kubvernor.Lib.Dedup
import Mathlib.Data.Finset.Insert

/-!
# Generating the Envoy configuration of a gateway

The listeners of a gateway are merged by port. Each HTTP(S) listener gives one virtual host for
each hostname it may serve; the virtual hosts of a port are a set under their names, in which a
later listener replaces what an earlier one put there. The clusters are those of the backends of all
routes the virtual hosts were made from, and of the endpoint pickers of the pools.
-/

namespace Kubvernor

/-! ## Virtual hosts and listeners -/

structure EnvoyVirtualHost where
  name : String
  effectiveHostnames : List String
  resolvedRoutes : List Route
  unresolvedRoutes : List Route
  httpRoutes : List EnvoyRoute
  grpcRoutes : List EnvoyRoute
deriving DecidableEq, Repr

/-- A set of virtual hosts, which compare by their names. -/
abbrev VirtualHosts := Std.ExtTreeMap String EnvoyVirtualHost

structure EnvoyListener where
  name : String
  port : Int
  httpListenerMap : VirtualHosts := ∅
  tcpListenerMap : Finset (String × Option String) := ∅
  tlsType : Option TlsType := none
  enableExtProc : Bool := false

structure InferenceClusterInfo where
  clusterName : String
  config : InferencePoolTypeConfig
deriving DecidableEq, Repr

/-- `get_inference_pool_configurations`. -/
def getInferencePoolConfigurations (rule : HTTPEffectiveRoutingRule) : List InferenceClusterInfo :=
  (getInferenceExtensionConfigurations rule.backends).map fun conf =>
    { clusterName := makeInferenceClusterName rule.envoyRouteName conf.resourceKey, config := conf }

/-- `enable_ect_proc_filter`. -/
def enableExtProcFilter (rule : HTTPEffectiveRoutingRule) : Bool :=
  rule.backends.any fun b =>
    match b.backendType with
    | .inferencePool _ => true
    | .service _ | .invalid _ => false

/-- `calculate_hostnames_common`: the hostname of the listener; without one, those of the routes. -/
def calculateHostnamesCommon (routes : List Route) (listenerHostname : Option String)
    (createHostnames : String → List String) : List String :=
  let routesHostnames : Std.ExtTreeSet String := .ofList (routes.flatMap (·.hostnames))
  match listenerHostname, routesHostnames.isEmpty with
  | none, false => routesHostnames.toList
  | some hostname, _ =>
    if hostname ≠ "" ∧ hostname ≠ DEFAULT_ROUTE_HOSTNAME then createHostnames hostname
    else [DEFAULT_ROUTE_HOSTNAME]
  | none, true => [DEFAULT_ROUTE_HOSTNAME]

/-! ## Clusters -/

structure LbEndpoint where
  address : String
  port : Int
  weight : Nat
deriving DecidableEq, Repr

inductive DiscoveryType
  | static | strictDns | logicalDns | eds | originalDst
deriving DecidableEq, Repr

/-- The options of an HTTP/2 upstream. -/
structure HttpProtocolOptions where
  maxConcurrentStreams : Nat := 10
  idleTimeoutSeconds : Option Nat := none
  autoSni : Bool := false
deriving DecidableEq, Repr

/-- The policy that lets a header of the request choose the endpoint. -/
structure OverrideHost where
  header : String := "x-gateway-destination-endpoint"
  fallbackPolicy : String := "envoy.load_balancing_policies.round_robing"
deriving DecidableEq, Repr

/-- The TLS 1.3 socket towards an upstream. -/
structure TransportSocket where
  name : String
  alpnProtocols : List String := ["h2"]
deriving DecidableEq, Repr

structure Cluster where
  name : String
  clusterDiscoveryType : Option DiscoveryType := none
  loadBalancingPolicy : Option OverrideHost := none
  connectTimeoutMillis : Nat := 250
  endpoints : List LbEndpoint
  transportSocket : Option TransportSocket := none
  typedExtensionProtocolOptions : List (String × HttpProtocolOptions) := []
deriving DecidableEq, Repr

def HTTP_PROTOCOL_OPTIONS_NAME : String := "envoy.extensions.upstreams.http.v3.HttpProtocolOptions"

/-- `create_service_cluster`. -/
def createServiceCluster (routeType : RouteType) (config : ServiceTypeConfig) : Cluster where
  name := config.clusterName
  clusterDiscoveryType := some .strictDns
  endpoints :=
    [{ address := config.endpoint, port := config.effectivePort, weight := config.weight.toNat }]
  typedExtensionProtocolOptions := match routeType with
    | .http _ => []
    | .grpc _ => [(HTTP_PROTOCOL_OPTIONS_NAME, {})]

/-- `create_inference_cluster`; a pool has at least one target port. -/
def createInferenceCluster (config : InferencePoolTypeConfig) : Cluster where
  name := config.clusterName
  loadBalancingPolicy := some {}
  endpoints := (config.endpoints.getD []).map fun e =>
    { address := e, port := config.targetPorts.headD 0, weight := 1 }

/-- The resolved services among some backends, the ones with a weight. -/
def resolvedServices (backends : List Backend) : List ServiceTypeConfig :=
  (backends.filterMap fun b =>
    match b with
    | .resolved (.service c) | .resolved (.invalid c) => some c
    | _ => none).filter fun c => 0 < c.weight

/-- The resolved pools among some backends, the ones with a weight. -/
def resolvedPools (backends : List Backend) : List InferencePoolTypeConfig :=
  (backends.filterMap fun b =>
    match b with
    | .resolved (.inferencePool c) => some c
    | _ => none).filter fun c => 0 < c.weight

/-- The clusters one route needs. -/
def Route.clusters (r : Route) : List Cluster :=
  (resolvedServices r.backends).map (createServiceCluster r.routeType) ++
    (resolvedPools r.backends).map createInferenceCluster ++
    (resolvedServices r.filterBackends).map (createServiceCluster r.routeType)

/-! ## The generator -/

structure ResourceGenerator where
  effectiveGateway : Gateway
  resources : Std.ExtTreeMap Int EnvoyListener := ∅
  inferenceClusters : List InferenceClusterInfo := []
  gatewayImplementationType : GatewayImplementationType
  effectiveHostnameCalculator : String → List String

/-- `calculate_effective_hostnames` of the Envoy deployer: the host with and without a port. -/
def calculateEffectiveHostnames (hostname : String) : List String := [hostname, hostname ++ ":*"]

/-- `ResourceGenerator::new`. -/
def ResourceGenerator.new (effectiveGateway : Gateway) (gatewayImplementationType : GatewayImplementationType)
    (effectiveHostnameCalculator : String → List String) : ResourceGenerator where
  effectiveGateway := effectiveGateway
  gatewayImplementationType := gatewayImplementationType
  effectiveHostnameCalculator := effectiveHostnameCalculator

/-- `ResourceGenerator::generate_ext_service_cluster`. -/
def generateExtServiceCluster (gatewayImplementationType : GatewayImplementationType)
    (info : InferenceClusterInfo) : Option Cluster :=
  info.config.inferenceConfig.map fun conf =>
    { name := info.clusterName
      clusterDiscoveryType := match gatewayImplementationType with
        | .envoy => some .logicalDns
        | .agentgateway => none
        | .orion => some .strictDns
      endpoints :=
        [{ address := conf.endpointPickerRef.name ++ "." ++ info.config.resourceKey.ns
           port := conf.endpointPickerRef.port.getD 9002
           weight := 1 }]
      transportSocket := some { name := info.clusterName ++ "_tls" }
      typedExtensionProtocolOptions :=
        [(HTTP_PROTOCOL_OPTIONS_NAME, { idleTimeoutSeconds := some 1, autoSni := true })] }

namespace Listener

/-- `calculate_potential_hostnames`. -/
def potentialHostnames (l : Listener) : List String :=
  calculateHostnamesCommon l.routes.1 l.hostname fun h => [h]

def virtualHostName (l : Listener) (h : String) : String := l.name ++ "-" ++ h

/-- The listeners virtual hosts are generated for. -/
def IsHttp (l : Listener) : Prop := l.protocol = .http ∨ l.protocol = .https

instance (l : Listener) : Decidable l.IsHttp := inferInstanceAs (Decidable (_ ∨ _))

variable (domainPattern : String → Option (String → Bool)) (effectiveHostnameCalculator : String → List String)

/-- The HTTP rules of the virtual host of a hostname. -/
def httpRulesFor (l : Listener) (h : String) : List HTTPEffectiveRoutingRule :=
  l.httpMatchingRules.filter fun em => HostnameMatchFilter.filter domainPattern ⟨h, em.hostnames⟩

/-- The GRPC rules of the virtual host of a hostname. -/
def grpcRulesFor (l : Listener) (h : String) : List GRPCEffectiveRoutingRule :=
  l.grpcMatchingRules.filter fun em => HostnameMatchFilter.filter domainPattern ⟨h, em.hostnames⟩

/-- The virtual host of one potential hostname. -/
def virtualHost (l : Listener) (h : String) : EnvoyVirtualHost where
  name := l.virtualHostName h
  effectiveHostnames := calculateHostnamesCommon l.routes.1 (some h) effectiveHostnameCalculator
  resolvedRoutes := l.routes.1
  unresolvedRoutes := l.routes.2
  httpRoutes := (l.httpRulesFor domainPattern h).flatMap (·.envoyRoutes)
  grpcRoutes := (l.grpcRulesFor domainPattern h).map (·.envoyRoute)

/-- `ResourceGenerator::generate_envoy_listener`, with the pools known after the loop over the
potential hostnames. -/
def generateEnvoyListener (l : Listener) (gatewayName : String)
    (inferenceClusters : List InferenceClusterInfo) : EnvoyListener × List InferenceClusterInfo :=
  let hostnames := l.potentialHostnames
  let listener : EnvoyListener :=
    { name := gatewayName
      port := l.port
      tlsType := l.data.config.tlsType
      httpListenerMap := hostnames.foldl (fun m h =>
        m.insertIfNew (l.virtualHostName h) (l.virtualHost domainPattern effectiveHostnameCalculator h)) ∅
      enableExtProc := hostnames.any fun h => (l.httpRulesFor domainPattern h).any enableExtProcFilter }
  (listener, hostnames.foldl (fun infos h =>
    infos ++ (l.httpRulesFor domainPattern h).flatMap getInferencePoolConfigurations) inferenceClusters)

end Listener

namespace ResourceGenerator

variable (domainPattern : String → Option (String → Bool))

/-- An HTTP(S) listener joins those of its port: its virtual hosts go into the set that is there. -/
def joinHttp (g : ResourceGenerator) (l : Listener) : ResourceGenerator :=
  let (newListener, infos) := l.generateEnvoyListener domainPattern g.effectiveHostnameCalculator
    g.effectiveGateway.resourceKey.name g.inferenceClusters
  let merged := match g.resources[l.port]? with
    | some envoyListener =>
      { envoyListener with
        httpListenerMap := Lib.mapAppend envoyListener.httpListenerMap newListener.httpListenerMap }
    | none => newListener
  { g with resources := g.resources.insert l.port merged, inferenceClusters := infos }

/-- A TCP listener joins those of its port. -/
def joinTcp (g : ResourceGenerator) (l : Listener) : ResourceGenerator :=
  let merged := match g.resources[l.port]? with
    | some envoyListener =>
      { envoyListener with tcpListenerMap := insert (l.name, l.hostname) envoyListener.tcpListenerMap }
    | none =>
      { name := g.effectiveGateway.resourceKey.name
        port := l.port
        tcpListenerMap := {(l.name, l.hostname)} }
  { g with resources := g.resources.insert l.port merged }

/-- One round of `generate_envoy_listener_mapping`. -/
def addListener (g : ResourceGenerator) (l : Listener) : ResourceGenerator :=
  match l.protocol with
  | .http | .https => g.joinHttp domainPattern l
  | .tcp => g.joinTcp l
  | .tls | .udp => g

/-- `ResourceGenerator::generate_envoy_listeners`. -/
def generateEnvoyListeners (g : ResourceGenerator) : ResourceGenerator :=
  g.effectiveGateway.listenerValues.foldl (addListener domainPattern) { g with resources := ∅ }

/-- `ResourceGenerator::generate_envoy_clusters`. -/
def generateEnvoyClusters (g : ResourceGenerator) : List Cluster :=
  let listeners := g.resources.toList.map (·.2)
  let clusters : Std.ExtTreeMap String Cluster := .ofList <|
    (listeners.flatMap fun el => (el.httpListenerMap.toList.map (·.2)).flatMap fun vh =>
      (vh.resolvedRoutes ++ vh.unresolvedRoutes).flatMap Route.clusters).map fun c => (c.name, c)
  let extServiceClusters :=
    g.inferenceClusters.filterMap (generateExtServiceCluster g.gatewayImplementationType)
  ((clusters.toList.map (·.2) ++ extServiceClusters).mergeSort
    fun this other => (compare this.name other.name).isLE).destutter fun this other => this.name ≠ other.name

end ResourceGenerator

/-! ## What is generated -/

section Generated

variable {domainPattern : String → Option (String → Bool)} {g : ResourceGenerator} {l : Listener}
variable {port : Int} {name h : String}

/-- The rules in a virtual host are those of the routes its hostname admits. -/
theorem mem_httpRulesFor {em : HTTPEffectiveRoutingRule} :
    em ∈ l.httpRulesFor domainPattern h ↔
      ∃ r ∈ l.attached, HostnameMatchFilter.filter domainPattern ⟨h, r.hostnames⟩ = true ∧
        ∃ rules, r.routeType = .http rules ∧ ∃ rule ∈ rules, ∃ matcher ∈ rule.matchers,
          em = l.httpEffectiveRule r.hostnames rule matcher := by
  rw [Listener.httpRulesFor, List.mem_filter, mem_httpMatchingRules]
  constructor
  · rintro ⟨⟨r, hr, rules, hrules, rule, hrule, matcher, hm, rfl⟩, hf⟩
    exact ⟨r, hr, hf, rules, hrules, rule, hrule, matcher, hm, rfl⟩
  · rintro ⟨r, hr, hf, rules, hrules, rule, hrule, matcher, hm, rfl⟩
    exact ⟨⟨r, hr, rules, hrules, rule, hrule, matcher, hm, rfl⟩, hf⟩

theorem mem_grpcRulesFor {em : GRPCEffectiveRoutingRule} :
    em ∈ l.grpcRulesFor domainPattern h ↔
      ∃ r ∈ l.attached, HostnameMatchFilter.filter domainPattern ⟨h, r.hostnames⟩ = true ∧
        ∃ rules, r.routeType = .grpc rules ∧ ∃ rule ∈ rules, ∃ matcher ∈ rule.matchers,
          em = rule.effectiveRule r.hostnames matcher := by
  rw [Listener.grpcRulesFor, List.mem_filter, mem_grpcMatchingRules]
  constructor
  · rintro ⟨⟨r, hr, rules, hrules, rule, hrule, matcher, hm, rfl⟩, hf⟩
    exact ⟨r, hr, hf, rules, hrules, rule, hrule, matcher, hm, rfl⟩
  · rintro ⟨r, hr, hf, rules, hrules, rule, hrule, matcher, hm, rfl⟩
    exact ⟨⟨r, hr, rules, hrules, rule, hrule, matcher, hm, rfl⟩, hf⟩

theorem Listener.virtualHostName_inj {h h' : String} :
    l.virtualHostName h = l.virtualHostName h' ↔ h = h' :=
  String.append_right_inj (l.name ++ "-")

/-- What a listener offers as the virtual host of this port and name. -/
def Listener.offer (domainPattern : String → Option (String → Bool)) (calculator : String → List String)
    (port : Int) (name : String) (l : Listener) : Option EnvoyVirtualHost :=
  if l.IsHttp ∧ l.port = port then
    l.potentialHostnames.findSome? fun h =>
      if l.virtualHostName h = name then some (l.virtualHost domainPattern calculator h) else none
  else none

theorem Listener.offer_eq_some {calculator : String → List String} {vh : EnvoyVirtualHost} :
    l.offer domainPattern calculator port name = some vh ↔ l.IsHttp ∧ l.port = port ∧
      ∃ h ∈ l.potentialHostnames, l.virtualHostName h = name ∧ vh = l.virtualHost domainPattern calculator h := by
  simp only [offer, Option.ite_none_right_eq_some, and_assoc]
  refine and_congr_right fun _ => and_congr_right fun _ => ?_
  constructor
  · intro hfind
    obtain ⟨h, hmem, hv⟩ := List.exists_of_findSome?_eq_some hfind
    simp only [Option.ite_none_right_eq_some, Option.some.injEq] at hv
    exact ⟨h, hmem, hv.1, hv.2.symm⟩
  · rintro ⟨h, hmem, rfl, rfl⟩
    -- the names tell the hostnames apart, so no other hostname gives this virtual host
    simp only [virtualHostName_inj]
    generalize l.potentialHostnames = hostnames at hmem
    induction hostnames with
    | nil => cases hmem
    | cons h' hostnames ih =>
      rw [List.findSome?_cons]
      by_cases hh : h' = h
      · rw [hh, if_pos rfl]
      · rw [if_neg hh]
        exact ih ((List.mem_cons.1 hmem).resolve_left (Ne.symm hh))

theorem Listener.offer_eq_none {calculator : String → List String} :
    l.offer domainPattern calculator port name = none ↔
      (l.IsHttp → l.port = port → ∀ h ∈ l.potentialHostnames, l.virtualHostName h ≠ name) := by
  simp only [offer, ite_eq_right_iff, List.findSome?_eq_none_iff, reduceCtorEq, imp_false, and_imp, ne_eq]

/-- The virtual hosts of a listener are found under the names of its hostnames. -/
theorem Listener.getElem?_generateEnvoyListener {calculator : String → List String} {gatewayName : String}
    {infos : List InferenceClusterInfo} (hl : l.IsHttp) :
    (l.generateEnvoyListener domainPattern calculator gatewayName infos).1.httpListenerMap[name]? =
      l.offer domainPattern calculator l.port name := by
  simp only [generateEnvoyListener, Lib.getElem?_foldl_insertIfNew, Std.ExtTreeMap.getElem?_empty,
    Option.none_or, Std.LawfulEqCmp.compare_eq_iff_eq, offer, hl, and_self, ↓reduceIte]

/-- The pools whose endpoint pickers the rules of a listener ask. -/
def Listener.inferencePools (domainPattern : String → Option (String → Bool)) (l : Listener) :
    List InferenceClusterInfo :=
  if l.IsHttp then l.potentialHostnames.flatMap fun h =>
    (l.httpRulesFor domainPattern h).flatMap getInferencePoolConfigurations
  else []

theorem Listener.generateEnvoyListener_infos (calculator : String → List String) (gatewayName : String)
    (infos : List InferenceClusterInfo) (hl : l.IsHttp) :
    (l.generateEnvoyListener domainPattern calculator gatewayName infos).2 =
      infos ++ l.inferencePools domainPattern := by
  simp only [generateEnvoyListener, List.foldl_append_eq_append, inferencePools, hl, ↓reduceIte,
    List.flatMap]

namespace ResourceGenerator

/-- The virtual host of this name on a port. -/
def virtualHost? (g : ResourceGenerator) (port : Int) (name : String) : Option EnvoyVirtualHost :=
  g.resources[port]?.bind fun el => el.httpListenerMap[name]?

/-- What one listener does to the generator: it offers its virtual hosts, which replace those of the
same port and name, and adds its pools. -/
theorem addListener_spec (domainPattern : String → Option (String → Bool)) (g : ResourceGenerator)
    (l : Listener) (port : Int) (name : String) :
    ((g.addListener domainPattern l).virtualHost? port name =
      (l.offer domainPattern g.effectiveHostnameCalculator port name).or (g.virtualHost? port name)) ∧
    (g.addListener domainPattern l).inferenceClusters = g.inferenceClusters ++ l.inferencePools domainPattern ∧
    (g.addListener domainPattern l).effectiveHostnameCalculator = g.effectiveHostnameCalculator ∧
    (g.addListener domainPattern l).gatewayImplementationType = g.gatewayImplementationType := by
  by_cases hl : l.IsHttp
  · have hadd : g.addListener domainPattern l = g.joinHttp domainPattern l := by
      unfold addListener
      rcases hl with hp | hp <;> rw [hp]
    rw [hadd]
    refine ⟨?_, Listener.generateEnvoyListener_infos g.effectiveHostnameCalculator
      g.effectiveGateway.resourceKey.name g.inferenceClusters hl, rfl, rfl⟩
    simp only [joinHttp, virtualHost?, Std.ExtTreeMap.getElem?_insert, Std.LawfulEqCmp.compare_eq_iff_eq]
    by_cases hport : l.port = port
    · subst hport
      rcases g.resources[l.port]? with _ | el
      · simp [Listener.getElem?_generateEnvoyListener hl]
      · simp [Lib.getElem?_mapAppend, Listener.getElem?_generateEnvoyListener hl]
    · simp [hport, Listener.offer]
  · have hoffer : l.offer domainPattern g.effectiveHostnameCalculator port name = none :=
      if_neg fun h => hl h.1
    have hpools : l.inferencePools domainPattern = [] := if_neg hl
    rw [hoffer, hpools, List.append_nil, Option.none_or]
    unfold addListener
    rcases hp : l.protocol with _ | _ | _ | _ | _
    · exact absurd (.inl hp) hl
    · exact absurd (.inr hp) hl
    · exact ⟨rfl, rfl, rfl, rfl⟩
    · -- a TCP listener leaves the virtual hosts of its port alone
      refine ⟨?_, rfl, rfl, rfl⟩
      simp only [joinTcp, virtualHost?, Std.ExtTreeMap.getElem?_insert, Std.LawfulEqCmp.compare_eq_iff_eq]
      by_cases hport : l.port = port
      · subst hport
        rcases g.resources[l.port]? with _ | el <;> simp
      · simp [hport]
    · exact ⟨rfl, rfl, rfl, rfl⟩

theorem foldl_addListener (port : Int) (name : String) (ls : List Listener) (g : ResourceGenerator) :
    ((ls.foldl (addListener domainPattern) g).virtualHost? port name =
      (ls.reverse.findSome? (Listener.offer domainPattern g.effectiveHostnameCalculator port name)).or
        (g.virtualHost? port name)) ∧
    (ls.foldl (addListener domainPattern) g).inferenceClusters =
      g.inferenceClusters ++ ls.flatMap (Listener.inferencePools domainPattern) ∧
    (ls.foldl (addListener domainPattern) g).gatewayImplementationType = g.gatewayImplementationType := by
  induction ls generalizing g with
  | nil => simp
  | cons l ls ih =>
    obtain ⟨hvh, hinfos, hcalc, htype⟩ := g.addListener_spec domainPattern l port name
    obtain ⟨ihvh, ihinfos, ihtype⟩ := ih (g.addListener domainPattern l)
    rw [List.foldl_cons]
    refine ⟨?_, ?_, ihtype.trans htype⟩
    · rw [ihvh, hvh, hcalc, List.reverse_cons, List.findSome?_append, Option.or_assoc, List.findSome?_singleton]
    · rw [ihinfos, hinfos, List.flatMap_cons, List.append_assoc]

/-- The virtual host under a name is the one of the last listener of the port that has the name. -/
theorem virtualHost?_generateEnvoyListeners {vh : EnvoyVirtualHost} :
    (g.generateEnvoyListeners domainPattern).virtualHost? port name = some vh ↔
      ∃ l later, (l :: later) <:+ g.effectiveGateway.listenerValues ∧
        l.offer domainPattern g.effectiveHostnameCalculator port name = some vh ∧
        ∀ l' ∈ later, l'.offer domainPattern g.effectiveHostnameCalculator port name = none := by
  have hempty : ({ g with resources := ∅ } : ResourceGenerator).virtualHost? port name = none := by
    simp [virtualHost?]
  rw [generateEnvoyListeners, (foldl_addListener _ _ _ _).1, hempty, Option.or_none, List.findSome?_eq_some_iff]
  constructor
  · rintro ⟨later, l, before, hsplit, hvh, hlater⟩
    refine ⟨l, later.reverse, ⟨before.reverse, ?_⟩, hvh, fun l' hl' => hlater l' (List.mem_reverse.1 hl')⟩
    have h := congrArg List.reverse hsplit
    rw [List.reverse_reverse] at h
    rw [h]
    simp
  · rintro ⟨l, later, ⟨before, hsplit⟩, hvh, hlater⟩
    refine ⟨later.reverse, l, before.reverse, ?_, hvh, fun l' hl' => hlater l' (List.mem_reverse.1 hl')⟩
    rw [← hsplit]
    simp

theorem inferenceClusters_generateEnvoyListeners :
    (g.generateEnvoyListeners domainPattern).inferenceClusters = g.inferenceClusters ++
      g.effectiveGateway.listenerValues.flatMap (Listener.inferencePools domainPattern) :=
  (foldl_addListener 0 "" _ { g with resources := ∅ }).2.1

/-- The cluster names: those of the routes behind the virtual hosts, and those of the pools' pickers. -/
theorem exists_mem_generateEnvoyClusters :
    (∃ c ∈ g.generateEnvoyClusters, c.name = name) ↔
      (∃ port key vh, g.virtualHost? port key = some vh ∧
        ∃ r ∈ vh.resolvedRoutes ++ vh.unresolvedRoutes, ∃ c ∈ r.clusters, c.name = name) ∨
      ∃ info ∈ g.inferenceClusters, info.config.inferenceConfig.isSome ∧ info.clusterName = name := by
  have hsplit (cs cs' : List Cluster) : (∃ c ∈ cs ++ cs', c.name = name) ↔
      (∃ c ∈ cs, c.name = name) ∨ ∃ c ∈ cs', c.name = name := by
    simp only [List.mem_append, or_and_right, exists_or]
  unfold generateEnvoyClusters
  simp only [Lib.exists_mem_destutter, List.mem_mergeSort, hsplit, Lib.exists_mem_collect]
  refine or_congr ?_ ?_
  · simp only [List.mem_flatMap, List.mem_map, Prod.exists, exists_eq_right, virtualHost?,
      Std.ExtTreeMap.mem_toList_iff_getElem?_eq_some, Option.bind_eq_some_iff]
    constructor
    · rintro ⟨c, ⟨el, ⟨port, hel⟩, vh, ⟨key, hvh⟩, r, hr, hc⟩, hname⟩
      exact ⟨port, key, vh, ⟨el, hel, hvh⟩, r, hr, c, hc, hname⟩
    · rintro ⟨port, key, vh, ⟨el, hel, hvh⟩, r, hr, c, hc, hname⟩
      exact ⟨c, ⟨el, ⟨port, hel⟩, vh, ⟨key, hvh⟩, r, hr, hc⟩, hname⟩
  · simp only [List.mem_filterMap, generateExtServiceCluster, Option.map_eq_some_iff]
    constructor
    · rintro ⟨c, ⟨info, hinfo, conf, hconf, rfl⟩, hname⟩
      exact ⟨info, hinfo, Option.isSome_iff_exists.2 ⟨conf, hconf⟩, hname⟩
    · rintro ⟨info, hinfo, hconf, hname⟩
      obtain ⟨conf, hconf⟩ := Option.isSome_iff_exists.1 hconf
      exact ⟨_, ⟨info, hinfo, conf, hconf, rfl⟩, hname⟩

end ResourceGenerator

end Generated

end Kubvernor
