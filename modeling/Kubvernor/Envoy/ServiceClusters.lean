import Kubvernor.Envoy.NoTraffic
import Kubvernor.Envoy.PortMerge
import Kubvernor.Lib.Dedup

/-!
# The clusters that backends are served by

Clusters are kept under their names, and a cluster is named after the key of its backend alone: the
port and the protocol of the backend are not part of the name. Of all uses a gateway makes of one
name, the last one among its routes decides what the cluster is; an endpoint picker's cluster is
taken only where no route uses the name (`ResourceGenerator.filter_generateEnvoyClusters`).

**`backendFidelity_iff`**: every resolved service backend gets its own endpoint and protocol exactly
if the deciding use of its name agrees with it.
-/

namespace Kubvernor

/-! ## Uses of a cluster name -/

def Route.isGrpc (r : Route) : Bool :=
  match r.routeType with
  | .http _ => false
  | .grpc _ => true

/-- What a gateway asks for a cluster: a service for an HTTP or a GRPC route, a pool, or the
endpoint picker of a pool. -/
inductive ClusterUse
  | service (grpc : Bool) (config : ServiceTypeConfig)
  | pool (config : InferencePoolTypeConfig)
  | picker (info : InferenceClusterInfo)
deriving DecidableEq, Repr

namespace ClusterUse

/-- The name of the cluster that is asked for. -/
def name : ClusterUse → String
  | .service _ c => c.clusterName
  | .pool c => c.clusterName
  | .picker info => info.clusterName

/-- The cluster made for a use. -/
def cluster (t : GatewayImplementationType) : ClusterUse → Option Cluster
  | .service grpc c => some (createServiceCluster (if grpc then .grpc [] else .http []) c)
  | .pool c => some (createInferenceCluster c)
  | .picker info => generateExtServiceCluster t info

/-- The use asks for the endpoint and the port of this backend, with HTTP/2 as a GRPC rule needs it. -/
def Agrees (u : ClusterUse) (c : ServiceTypeConfig) (grpc : Bool) : Prop :=
  match u with
  | .service grpc' c' => c'.endpoint = c.endpoint ∧ c'.effectivePort = c.effectivePort ∧ grpc' = grpc
  | .pool p => p.endpoints.getD [] = [c.endpoint] ∧ p.targetPorts.headD 0 = c.effectivePort ∧ grpc = false
  | .picker info => ∃ conf, info.config.inferenceConfig = some conf ∧
      conf.endpointPickerRef.name ++ "." ++ info.config.resourceKey.ns = c.endpoint ∧
      conf.endpointPickerRef.port.getD 9002 = c.effectivePort ∧ grpc = true

end ClusterUse

/-- What one route asks for: its services, its pools, then the services its filters send to. -/
def Route.uses (r : Route) : List ClusterUse :=
  (resolvedServices r.backends).map (.service r.isGrpc) ++ (resolvedPools r.backends).map .pool ++
    (resolvedServices r.filterBackends).map (.service r.isGrpc)

namespace ResourceGenerator

/-- What the routes behind the virtual hosts ask for: port after port, on each port virtual host
after virtual host by name, the resolved routes before the unresolved ones. -/
def uses (g : ResourceGenerator) : List ClusterUse :=
  (g.resources.toList.map (·.2)).flatMap fun el => (el.httpListenerMap.toList.map (·.2)).flatMap fun vh =>
    (vh.resolvedRoutes ++ vh.unresolvedRoutes).flatMap Route.uses

/-- The endpoint pickers of the pools that have one. -/
def pickers (g : ResourceGenerator) : List ClusterUse :=
  (g.inferenceClusters.filter fun info => info.config.inferenceConfig.isSome).map .picker

/-- The use that decides what the cluster of a name is: the last one of a route, or else the first
endpoint picker. -/
def decidingUse (g : ResourceGenerator) (name : String) : Option ClusterUse :=
  (g.uses.reverse.find? fun u => u.name = name).or (g.pickers.find? fun u => u.name = name)

end ResourceGenerator

/-! ## The property -/

def Cluster.HasHttp2 (cl : Cluster) : Prop :=
  HTTP_PROTOCOL_OPTIONS_NAME ∈ cl.typedExtensionProtocolOptions.map (·.1)

/-- The cluster has the backend's endpoint and port and nothing else, and HTTP/2 for GRPC alone. -/
def Cluster.Serves (cl : Cluster) (c : ServiceTypeConfig) (grpc : Bool) : Prop :=
  cl.endpoints.map (fun e => (e.address, e.port)) = [(c.endpoint, c.effectivePort)] ∧
    (cl.HasHttp2 ↔ grpc = true)

section Property

variable (domainPattern : String → Option (String → Bool))

/-- One cluster of the gateway has this name, and it is the backend's. -/
def Gateway.ServedAt (gw : Gateway) (t : GatewayImplementationType) (calculator : String → List String)
    (name : String) (c : ServiceTypeConfig) (grpc : Bool) : Prop :=
  ∃ cl, (gw.envoyClusters domainPattern t calculator).filter (fun cl => cl.name = name) = [cl] ∧
    cl.Serves c grpc

/-- Every weighted-cluster entry that a rule of an attached route has for a resolved service
backend of positive weight names the one cluster that is the backend's own. -/
def Gateway.BackendFidelity (gw : Gateway) (t : GatewayImplementationType)
    (calculator : String → List String) : Prop :=
  ∀ l ∈ gw.listenerValues, l.IsHttp → ∀ r ∈ l.attached, ∀ c : ServiceTypeConfig, 0 < c.weight →
    (∀ rules, r.routeType = .http rules → ∀ rule ∈ rules, .resolved (.service c) ∈ rule.backends →
      ∀ matcher ∈ rule.matchers,
        ∀ w ∈ (l.httpEffectiveRule r.hostnames rule matcher).entriesFrom (.resolved (.service c)),
          gw.ServedAt domainPattern t calculator w.name c false) ∧
    (∀ rules, r.routeType = .grpc rules → ∀ rule ∈ rules, .resolved (.service c) ∈ rule.backends →
      ∀ matcher ∈ rule.matchers,
        ∀ w ∈ (rule.effectiveRule r.hostnames matcher).entriesFrom (.resolved (.service c)),
          gw.ServedAt domainPattern t calculator w.name c true)

end Property

/-! ## The deciding use -/

variable {domainPattern : String → Option (String → Bool)} {g : ResourceGenerator} {gw : Gateway}
variable {t : GatewayImplementationType} {calculator : String → List String} {name : String}

theorem ClusterUse.name_of_cluster {u : ClusterUse} {cl : Cluster} (h : u.cluster t = some cl) :
    cl.name = u.name := by
  cases u with
  | service grpc c =>
    obtain rfl := Option.some.inj h
    rfl
  | pool c =>
    obtain rfl := Option.some.inj h
    rfl
  | picker info =>
    obtain ⟨conf, -, rfl⟩ := Option.map_eq_some_iff.1 h
    rfl

/-- What the made cluster serves is what the use asked for. -/
theorem ClusterUse.serves_iff {u : ClusterUse} {cl : Cluster} {c : ServiceTypeConfig} {grpc : Bool}
    (h : u.cluster t = some cl) : cl.Serves c grpc ↔ u.Agrees c grpc := by
  cases u with
  | service grpc' c' =>
    obtain rfl := Option.some.inj h
    cases grpc' <;> cases grpc <;> simp [Cluster.Serves, Cluster.HasHttp2, createServiceCluster, Agrees]
  | pool p =>
    obtain rfl := Option.some.inj h
    have hendpoints : (createInferenceCluster p).endpoints.map (fun e => (e.address, e.port)) =
        (p.endpoints.getD []).map fun e => (e, p.targetPorts.headD 0) := by
      simp [createInferenceCluster]
    rw [Cluster.Serves, hendpoints, Agrees]
    rcases p.endpoints.getD [] with _ | ⟨e, es⟩
    · simp
    · cases grpc <;> simp [Cluster.HasHttp2, createInferenceCluster, and_right_comm]
  | picker info =>
    obtain ⟨conf, hconf, rfl⟩ := Option.map_eq_some_iff.1 h
    cases grpc <;> simp [Cluster.Serves, Cluster.HasHttp2, Agrees, hconf]

/-- The clusters of a route are made for its uses. -/
theorem Route.clusters_eq (r : Route) : r.clusters = r.uses.filterMap (ClusterUse.cluster t) := by
  have hservice (cs : List ServiceTypeConfig) : cs.map (createServiceCluster r.routeType) =
      (cs.map (ClusterUse.service r.isGrpc)).filterMap (ClusterUse.cluster t) := by
    rw [List.filterMap_map, ← List.filterMap_eq_map]
    refine List.filterMap_congr fun c _ => ?_
    unfold Route.isGrpc
    cases r.routeType <;> rfl
  have hpool (cs : List InferencePoolTypeConfig) : cs.map createInferenceCluster =
      (cs.map ClusterUse.pool).filterMap (ClusterUse.cluster t) := by
    rw [List.filterMap_map, ← List.filterMap_eq_map]
    rfl
  simp only [clusters, uses, List.filterMap_append, hservice, hpool]

/-- Every use behind the virtual hosts gets a cluster. -/
theorem Route.exists_cluster {r : Route} {u : ClusterUse} (hu : u ∈ r.uses) : ∃ cl, u.cluster t = some cl := by
  simp only [uses, List.mem_append, List.mem_map] at hu
  rcases hu with (⟨c, -, rfl⟩ | ⟨c, -, rfl⟩) | ⟨c, -, rfl⟩
  · exact ⟨_, rfl⟩
  · exact ⟨_, rfl⟩
  · exact ⟨_, rfl⟩

/-- Where every use gets a cluster, the first cluster of a name is made for the first use of it. -/
theorem find?_filterMap_cluster {us : List ClusterUse} (hus : ∀ u ∈ us, ∃ cl, u.cluster t = some cl) :
    (us.filterMap (ClusterUse.cluster t)).find? (fun cl => cl.name = name) =
      (us.find? fun u => u.name = name).bind (ClusterUse.cluster t) := by
  induction us with
  | nil => rfl
  | cons u us ih =>
    obtain ⟨cl, hcl⟩ := hus u List.mem_cons_self
    have hname := ClusterUse.name_of_cluster hcl
    rw [List.filterMap_cons_some hcl, List.find?_cons, List.find?_cons, hname,
      ih fun u' hu' => hus u' (List.mem_cons_of_mem _ hu')]
    cases decide (u.name = name) with
    | false => rfl
    | true => exact hcl.symm

namespace ResourceGenerator

theorem uses_cluster {u : ClusterUse} (hu : u ∈ g.uses) : ∃ cl, u.cluster t = some cl := by
  simp only [uses, List.mem_flatMap] at hu
  obtain ⟨el, -, vh, -, r, -, hu⟩ := hu
  exact Route.exists_cluster hu

theorem pickers_cluster {u : ClusterUse} (hu : u ∈ g.pickers) : ∃ cl, u.cluster t = some cl := by
  obtain ⟨info, hinfo, rfl⟩ := List.mem_map.1 hu
  obtain ⟨conf, hconf⟩ := Option.isSome_iff_exists.1 (List.mem_filter.1 hinfo).2
  exact ⟨_, Option.map_eq_some_iff.2 ⟨conf, hconf, rfl⟩⟩

/-- The clusters, as the ones made for the uses, sorted and deduplicated. -/
theorem generateEnvoyClusters_eq : g.generateEnvoyClusters = Lib.sortDedup Cluster.name
    ((Std.ExtTreeMap.ofList ((g.uses.filterMap (ClusterUse.cluster g.gatewayImplementationType)).map
        fun c => (c.name, c))).toList.map (·.2) ++
      g.pickers.filterMap (ClusterUse.cluster g.gatewayImplementationType)) := by
  have huses : g.uses.filterMap (ClusterUse.cluster g.gatewayImplementationType) =
      (g.resources.toList.map (·.2)).flatMap fun el => (el.httpListenerMap.toList.map (·.2)).flatMap fun vh =>
        (vh.resolvedRoutes ++ vh.unresolvedRoutes).flatMap Route.clusters := by
    simp only [uses, List.filterMap_flatMap]
    refine List.flatMap_congr fun el _ => List.flatMap_congr fun vh _ => List.flatMap_congr fun r _ => ?_
    exact (Route.clusters_eq r).symm
  have hpickers : g.pickers.filterMap (ClusterUse.cluster g.gatewayImplementationType) =
      g.inferenceClusters.filterMap (generateExtServiceCluster g.gatewayImplementationType) := by
    rw [pickers, List.filterMap_map, List.filterMap_filter]
    refine List.filterMap_congr fun info _ => ?_
    by_cases hinfo : info.config.inferenceConfig.isSome
    · rw [if_pos hinfo]
      rfl
    · have hnone : info.config.inferenceConfig = none := Option.not_isSome_iff_eq_none.1 hinfo
      rw [if_neg hinfo]
      unfold generateExtServiceCluster
      rw [hnone, Option.map_none]
  rw [huses, hpickers]
  rfl

/-- **What is called by a name among the clusters is made for the deciding use of the name.** -/
theorem filter_generateEnvoyClusters :
    g.generateEnvoyClusters.filter (fun cl => cl.name = name) =
      ((g.decidingUse name).bind (ClusterUse.cluster g.gatewayImplementationType)).toList := by
  have hreverse : ∀ u ∈ g.uses.reverse, ∃ cl, u.cluster g.gatewayImplementationType = some cl :=
    fun u hu => uses_cluster (List.mem_reverse.1 hu)
  have hpickers : ∀ u ∈ g.pickers, ∃ cl, u.cluster g.gatewayImplementationType = some cl :=
    fun u hu => pickers_cluster hu
  rw [generateEnvoyClusters_eq, Lib.filter_sortDedup, List.find?_append, Lib.find?_collect, ← List.filterMap_reverse,
    find?_filterMap_cluster hreverse, find?_filterMap_cluster hpickers, decidingUse]
  cases hu : g.uses.reverse.find? fun u => u.name = name with
  | none => rfl
  | some u =>
    -- a use of a route is served whatever the pickers are
    obtain ⟨cl, hcl⟩ := hreverse u (List.mem_of_find?_eq_some hu)
    simp only [Option.bind_some, hcl, Option.some_or]

/-- The deciding use of a name gets a cluster. -/
theorem decidingUse_cluster {u : ClusterUse} (hu : g.decidingUse name = some u) :
    ∃ cl, u.cluster g.gatewayImplementationType = some cl := by
  rcases Option.or_eq_some_iff.1 hu with hu | ⟨-, hu⟩
  · exact uses_cluster (List.mem_reverse.1 (List.mem_of_find?_eq_some hu))
  · exact pickers_cluster (List.mem_of_find?_eq_some hu)

end ResourceGenerator

/-! ## The property holds exactly if the deciding uses agree -/

/-- A backend is served under a name if the deciding use of the name agrees with it. -/
theorem servedAt_iff {c : ServiceTypeConfig} {grpc : Bool} :
    gw.ServedAt domainPattern t calculator name c grpc ↔
      ∃ u, (gw.generator domainPattern t calculator).decidingUse name = some u ∧ u.Agrees c grpc := by
  unfold Gateway.ServedAt
  have hclusters : gw.envoyClusters domainPattern t calculator =
      (gw.generator domainPattern t calculator).generateEnvoyClusters := rfl
  rw [hclusters, ResourceGenerator.filter_generateEnvoyClusters]
  constructor
  · rintro ⟨cl, hcl, hserves⟩
    rw [Option.toList_eq_singleton_iff, Option.bind_eq_some_iff] at hcl
    obtain ⟨u, hu, hcl⟩ := hcl
    exact ⟨u, hu, (ClusterUse.serves_iff hcl).1 hserves⟩
  · rintro ⟨u, hu, hagrees⟩
    obtain ⟨cl, hcl⟩ := ResourceGenerator.decidingUse_cluster hu
    refine ⟨cl, ?_, (ClusterUse.serves_iff hcl).2 hagrees⟩
    rw [hu, Option.bind_some, hcl, Option.toList_some]

/-- **Backends get their own clusters exactly if, for every resolved service backend a rule forwards
to, the deciding use of its name agrees with it.** -/
theorem backendFidelity_iff : gw.BackendFidelity domainPattern t calculator ↔
    ∀ l ∈ gw.listenerValues, l.IsHttp → ∀ r ∈ l.attached, ∀ c : ServiceTypeConfig,
      r.Forwards (.resolved (.service c)) c.clusterName →
        ∃ u, (gw.generator domainPattern t calculator).decidingUse c.clusterName = some u ∧ u.Agrees c r.isGrpc := by
  constructor
  · intro hfid l hl hhttp r hr c hf
    rw [← servedAt_iff]
    generalize hname : c.clusterName = name at hf
    generalize hb : Backend.resolved (.service c) = b at hf
    cases hf with
    | http hrules hrule hredirect hmem hw =>
      rename_i rules rule
      subst hb
      have hgrpc : r.isGrpc = false := by rw [Route.isGrpc, hrules]
      obtain ⟨matcher, hm⟩ := List.exists_mem_of_ne_nil _ rule.matchers_ne_nil
      rw [hgrpc]
      exact (hfid l hl hhttp r hr c hw).1 rules hrules rule hrule hmem matcher hm _
        (HTTPEffectiveRoutingRule.mem_entriesFrom.2
          ⟨hredirect, mem_createClusterWeights.2 ⟨_, List.mem_singleton_self _, hw, rfl⟩⟩)
    | grpc hrules hrule hmem hc hw =>
      rename_i rules rule c'
      subst hb
      obtain rfl := BackendType.service.inj hc
      have hgrpc : r.isGrpc = true := by rw [Route.isGrpc, hrules]
      obtain ⟨matcher, hm⟩ := List.exists_mem_of_ne_nil _ rule.matchers_ne_nil
      rw [hgrpc]
      exact (hfid l hl hhttp r hr c hw).2 rules hrules rule hrule hmem matcher hm _
        (GRPCEffectiveRoutingRule.mem_entriesFrom.2
          ⟨c, rfl, mem_createClusterWeights.2 ⟨_, List.mem_singleton_self _, hw, rfl⟩⟩)
  · intro hcond l hl hhttp r hr c hw
    constructor
    · intro rules hrules rule hrule hmem matcher _ w hentry
      obtain ⟨hredirect, hentry⟩ := HTTPEffectiveRoutingRule.mem_entriesFrom.1 hentry
      obtain ⟨_, hsingle, -, rfl⟩ := mem_createClusterWeights.1 hentry
      obtain rfl := List.mem_singleton.1 hsingle
      have hgrpc : r.isGrpc = false := by rw [Route.isGrpc, hrules]
      have hserved := hcond l hl hhttp r hr c (.http hrules hrule hredirect hmem hw)
      rw [hgrpc] at hserved
      exact servedAt_iff.2 hserved
    · intro rules hrules rule hrule hmem matcher _ w hentry
      obtain ⟨c', hc, hentry⟩ := GRPCEffectiveRoutingRule.mem_entriesFrom.1 hentry
      obtain rfl := BackendType.service.inj hc
      obtain ⟨_, hsingle, -, rfl⟩ := mem_createClusterWeights.1 hentry
      obtain rfl := List.mem_singleton.1 hsingle
      have hgrpc : r.isGrpc = true := by rw [Route.isGrpc, hrules]
      have hserved := hcond l hl hhttp r hr c (.grpc hrules hrule hmem hc hw)
      rw [hgrpc] at hserved
      exact servedAt_iff.2 hserved

/-! ## Two ports of one service -/

/-- A rule that splits its requests between two ports of one service. -/
def twoPortsRoute : Route where
  resourceKey := { ns := "green", name := "two-ports", kind := "HTTPRoute" }
  resolutionStatus := .resolved
  routeType := .http
    [{ name := "two-ports-0"
       backends := [.resolved (.service sharedService),
         .resolved (.service { sharedService with port := 81, effectivePort := 81 })] }]

def twoPortsListener : Listener where
  protocol := .http
  data := { config := { name := "http", port := 80 }, resolvedRoutes := .ofRoutes [twoPortsRoute] }

def twoPortsGateway : Gateway where
  id := 1
  resourceKey := { name := "gw" }
  listeners := .ofList [("http", twoPortsListener)]

/-- All requests for the first port go to the second one. -/
theorem twoPortsGateway_collapses :
    ¬ twoPortsGateway.BackendFidelity (fun pattern => some (· = pattern)) .envoy calculateEffectiveHostnames := by
  intro hfid
  have hvalues : twoPortsGateway.listenerValues = [twoPortsListener] := rfl
  have hattached : twoPortsListener.attached = [twoPortsRoute] := rfl
  have hserved := hfid twoPortsListener (by rw [hvalues]; exact List.mem_singleton_self _) (.inl rfl)
    twoPortsRoute (by rw [hattached]; exact List.mem_singleton_self _) sharedService (by decide)
  have hentry := hserved.1 _ rfl _ (List.mem_singleton_self _) List.mem_cons_self getHttpDefaultRulesMatches
    (List.mem_singleton_self _) ⟨"svc.green", 1⟩ (by decide)
  obtain ⟨u, hu, hagrees⟩ := servedAt_iff.1 hentry
  have hdeciding : (twoPortsGateway.generator (fun pattern => some (· = pattern)) .envoy
      calculateEffectiveHostnames).decidingUse "svc.green" =
        some (.service false { sharedService with port := 81, effectivePort := 81 }) := by
    decide
  rw [hdeciding] at hu
  obtain rfl := Option.some.inj hu
  exact absurd hagrees.2.1 (by decide)

end Kubvernor
