import Kubvernor.Controllers.TlsConfigValidator
import Kubvernor.Envoy.ServiceClusters

/-!
# The resources of a gateway

What the Envoy and the Orion deployer make of the generated listeners and clusters: one listener
resource for each port, one cluster resource for each cluster, and the keys of the secrets the
listeners refer to. The two deployers differ in the domains of virtual hosts, in the discovery of
endpoint pickers and in one flag of their filter.

A listener resource is named after the gateway, on every port (`name_of_mem_listeners`).

**`resourceNamesDistinct_iff`**: the resource names are distinct exactly if all listeners of the
gateway share one port; the cluster names always are.
-/

namespace Kubvernor

/-! ## Filters -/

/-- The filter that asks endpoint pickers; what it sends is decided route by route. -/
structure ExternalProcessor where
  processingMode : ProcessingMode :=
    { requestHeaderMode := .skip, requestBodyMode := .none, responseHeaderMode := .skip
      requestTrailerMode := .default, responseTrailerMode := .default }
  targetUri : String := "127.0.0.1:1000"
  statPrefix : String
  sendBodyWithoutWaitingForHeaderResponse : Bool
  messageTimeoutSeconds : Nat := 2
  failureModeAllow : Bool := true
  allowModeOverride : Bool := true
deriving DecidableEq, Repr

inductive HttpFilterConfig
  | externalProcessor (processor : ExternalProcessor)
  | router
deriving DecidableEq, Repr

structure HttpFilter where
  name : String
  config : HttpFilterConfig
deriving DecidableEq, Repr

/-! ## Route configurations -/

structure VirtualHost where
  name : String
  domains : List String
  routes : List EnvoyRoute
deriving DecidableEq, Repr

structure RouteConfiguration where
  name : String
  virtualHosts : List VirtualHost
  validateClusters : Bool := false
deriving DecidableEq, Repr

structure HttpConnectionManager where
  statPrefix : String
  httpFilters : List HttpFilter
  routeConfig : RouteConfiguration
deriving DecidableEq, Repr

/-- `generate_virtual_hosts_from_xds`. -/
def generateVirtualHostsFromXds (virtualHosts : VirtualHosts) : List VirtualHost :=
  (virtualHosts.toList.map (·.2)).map fun vh =>
    { name := vh.name, domains := vh.effectiveHostnames, routes := vh.httpRoutes ++ vh.grpcRoutes }

/-! ## Listeners -/

/-- The TLS context of a listener; the certificates are given by the names of their secrets. -/
structure DownstreamTlsContext where
  requireClientCertificate : Bool := false
  fullScanCertsOnSniMismatch : Bool := true
  tlsCertificateSdsSecretConfigs : List String
deriving DecidableEq, Repr

structure DownstreamTransportSocket where
  name : String
  context : DownstreamTlsContext
deriving DecidableEq, Repr

structure FilterChain where
  transportSocket : Option DownstreamTransportSocket
  filterName : String
  httpConnectionManager : HttpConnectionManager
deriving DecidableEq, Repr

/-- The listener message of Envoy. -/
structure XdsListener where
  name : String
  address : String := "0.0.0.0"
  port : Int
  listenerFilter : String
  filterChain : FilterChain
deriving DecidableEq, Repr

/-- A resource of the discovery service. -/
structure EnvoyDiscoveryResource (α : Type) where
  name : String
  resource : α
deriving DecidableEq, Repr

def createClusterResource (cluster : Cluster) : EnvoyDiscoveryResource Cluster :=
  { name := cluster.name, resource := cluster }

def createListenerResource (listener : XdsListener) : EnvoyDiscoveryResource XdsListener :=
  { name := listener.name, resource := listener }

def createSecretName (k : ResourceKey) : String := k.name ++ "_" ++ k.ns

/-- The secrets of a listener: those of its certificates resolved in the gateway's namespace. -/
def EnvoyListener.secrets (listener : EnvoyListener) : List ResourceKey :=
  match listener.tlsType with
  | some (.terminate certificates) => certificates.filterMap fun
    | .resolvedSameSpace k _ => some k
    | .notResolved _ | .invalid _ | .resolvedCrossSpace _ _ => none
  | some .passthrough | none => []

/-- The TLS part of a listener. -/
def EnvoyListener.transportSocket (listener : EnvoyListener) : Option DownstreamTransportSocket :=
  match listener.tlsType with
  | some (.terminate _) => some
    { name := listener.name ++ "-downstream-tls-context"
      context := { tlsCertificateSdsSecretConfigs := listener.secrets.map createSecretName } }
  | some .passthrough | none => none

namespace XdsBackend

def externalProcessor (backend : XdsBackend) (listenerName : String) : ExternalProcessor where
  statPrefix := listenerName ++ "ext_filter_stats"
  sendBodyWithoutWaitingForHeaderResponse := match backend with
    | .envoy => false
    | .orion => true

def httpFilters (backend : XdsBackend) (listener : EnvoyListener) : List HttpFilter :=
  let routerFilter : HttpFilter :=
    { name := listener.name ++ "-http-connection-manager-route-filter", config := .router }
  if listener.enableExtProc then
    [{ name := INFERENCE_EXT_PROC_FILTER_NAME, config := .externalProcessor (backend.externalProcessor listener.name) },
      routerFilter]
  else [routerFilter]

def routeConfig (listener : EnvoyListener) : RouteConfiguration where
  name := listener.name ++ "-route"
  virtualHosts := generateVirtualHostsFromXds listener.httpListenerMap

/-- One round of the loop over the listeners in `create_resources`. -/
def xdsListener (backend : XdsBackend) (listener : EnvoyListener) : XdsListener where
  name := listener.name
  port := listener.port
  listenerFilter := listener.name ++ "-tls-inspector"
  filterChain :=
    { transportSocket := listener.transportSocket
      filterName := listener.name ++ "-http-connection-manager"
      httpConnectionManager :=
        { statPrefix := listener.name
          httpFilters := backend.httpFilters listener
          routeConfig := routeConfig listener } }

end XdsBackend

/-! ## The resources -/

structure Resources where
  listeners : List (EnvoyDiscoveryResource XdsListener)
  clusters : List (EnvoyDiscoveryResource Cluster)
  secrets : List ResourceKey

variable (domainPattern : String → Option (String → Bool))

/-- The Envoy listeners of a gateway, port after port. -/
def XdsBackend.envoyListeners (backend : XdsBackend) (gw : Gateway) : List EnvoyListener :=
  (gw.generator domainPattern backend.implementationType backend.calculateEffectiveHostnames).resources.toList.map
    (·.2)

/-- `create_resources`; of neighbouring secrets with one name only the first is kept. -/
def XdsBackend.createResources (backend : XdsBackend) (gw : Gateway) : Resources where
  listeners := (backend.envoyListeners domainPattern gw).map fun el => createListenerResource (backend.xdsListener el)
  clusters := (gw.envoyClusters domainPattern backend.implementationType backend.calculateEffectiveHostnames).map
    createClusterResource
  secrets := ((backend.envoyListeners domainPattern gw).flatMap EnvoyListener.secrets).destutter
    fun k k' => k.name ≠ k'.name

/-! ## Resource names -/

/-- A client that keeps resources by their names keeps all of them. -/
def XdsBackend.ResourceNamesDistinct (backend : XdsBackend) (gw : Gateway) : Prop :=
  ((backend.createResources domainPattern gw).listeners.map (·.name)).Nodup ∧
    ((backend.createResources domainPattern gw).clusters.map (·.name)).Nodup

variable {domainPattern} {backend : XdsBackend} {gw : Gateway} {el : EnvoyListener} {port : Int}

theorem XdsBackend.mem_envoyListeners : el ∈ backend.envoyListeners domainPattern gw ↔
    ∃ port : Int, (gw.generator domainPattern backend.implementationType
      backend.calculateEffectiveHostnames).resources[port]? = some el := by
  simp only [envoyListeners, List.mem_map, Prod.exists, exists_eq_right,
    Std.ExtTreeMap.mem_toList_iff_getElem?_eq_some]

/-- **A listener resource is named after the gateway.** -/
theorem name_of_mem_listeners :
    (backend.createResources domainPattern gw).listeners.map (·.name) =
      List.replicate (backend.envoyListeners domainPattern gw).length gw.resourceKey.name := by
  rw [List.eq_replicate_iff]
  refine ⟨by simp [XdsBackend.createResources], ?_⟩
  intro name hname
  simp only [XdsBackend.createResources, List.map_map, List.mem_map, Function.comp_apply] at hname
  obtain ⟨el, hel, rfl⟩ := hname
  obtain ⟨port, hel⟩ := XdsBackend.mem_envoyListeners.1 hel
  obtain ⟨first, -, hhead⟩ := exists_firstOn hel
  exact congrArg EnvoyListenerHead.name hhead

/-- There is one Envoy listener at most if all listeners share one port. -/
theorem length_envoyListeners_le_one : (backend.envoyListeners domainPattern gw).length ≤ 1 ↔
    ∀ l ∈ gw.listenerValues, ∀ l' ∈ gw.listenerValues, l.Binds → l'.Binds → l.port = l'.port := by
  rw [XdsBackend.envoyListeners, List.length_map, Lib.length_toList_le_one]
  constructor
  · intro hkeys l hl l' hl' hbinds hbinds'
    obtain ⟨el, hel⟩ := exists_resource hl hbinds
    obtain ⟨el', hel'⟩ := exists_resource hl' hbinds'
    exact hkeys l.port el l'.port el' hel hel'
  · intro hports port el port' el' hel hel'
    obtain ⟨first, hfirst, -⟩ := exists_firstOn hel
    obtain ⟨first', hfirst', -⟩ := exists_firstOn hel'
    obtain ⟨hmem, hbinds, rfl⟩ := Gateway.mem_of_firstOn hfirst
    obtain ⟨hmem', hbinds', rfl⟩ := Gateway.mem_of_firstOn hfirst'
    exact hports first hmem first' hmem' hbinds hbinds'

/-- The cluster names are distinct, whatever the gateway. -/
theorem clusterNames_nodup : ((backend.createResources domainPattern gw).clusters.map (·.name)).Nodup := by
  have hnames : (backend.createResources domainPattern gw).clusters.map (·.name) =
      (gw.generator domainPattern backend.implementationType
        backend.calculateEffectiveHostnames).generateEnvoyClusters.map Cluster.name := by
    simp only [XdsBackend.createResources, List.map_map]
    rfl
  rw [hnames, ResourceGenerator.generateEnvoyClusters_eq]
  exact Lib.nodup_map_sortDedup

/-- **The resource names are distinct exactly if all listeners share one port.** -/
theorem resourceNamesDistinct_iff : backend.ResourceNamesDistinct domainPattern gw ↔
    ∀ l ∈ gw.listenerValues, ∀ l' ∈ gw.listenerValues, l.Binds → l'.Binds → l.port = l'.port := by
  rw [XdsBackend.ResourceNamesDistinct, name_of_mem_listeners, List.nodup_replicate, length_envoyListeners_le_one]
  exact and_iff_left clusterNames_nodup

/-! ## A gateway with two ports -/

def bareListener (name : String) (port : Int) : Listener where
  protocol := .http
  data := { config := { name := name, port := port } }

def twoListenersGateway : Gateway where
  id := 1
  resourceKey := { name := "gw" }
  listeners := .ofList [("alt", bareListener "alt" 8080), ("http", bareListener "http" 80)]

/-- Both backends give the listeners of its two ports one name. -/
theorem twoListenersGateway_names :
    ¬ XdsBackend.envoy.ResourceNamesDistinct (fun pattern => some (· = pattern)) twoListenersGateway ∧
    ¬ XdsBackend.orion.ResourceNamesDistinct (fun pattern => some (· = pattern)) twoListenersGateway := by
  have hvalues : twoListenersGateway.listenerValues = [bareListener "alt" 8080, bareListener "http" 80] := rfl
  have hnames (backend : XdsBackend) :
      ¬ backend.ResourceNamesDistinct (fun pattern => some (· = pattern)) twoListenersGateway := by
    intro hdistinct
    have hnodup := hdistinct.1
    rw [name_of_mem_listeners, List.nodup_replicate, length_envoyListeners_le_one, hvalues] at hnodup
    have hports := hnodup _ List.mem_cons_self _ (List.mem_cons_of_mem _ List.mem_cons_self) (.inl rfl) (.inl rfl)
    exact absurd hports (by decide)
  exact ⟨hnames .envoy, hnames .orion⟩

end Kubvernor
