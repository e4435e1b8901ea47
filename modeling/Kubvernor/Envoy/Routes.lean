import Kubvernor.Controllers.HostnameMatchFilter
import Kubvernor.Envoy.EffectiveRules

/-!
# Envoy routes

What an effective rule becomes in the configuration of Envoy: the match, the headers, and the
action, which is a redirect or a choice between weighted clusters. A rule with inference pools
becomes one route for each pool, alike but for the filter that asks the pool's endpoint picker.

The weighted clusters of a forwarding route are named after all backends of positive weight of its
rule, in whatever state the resolver left them (`HTTPEffectiveRoutingRule.mem_weightedClusters`,
`GRPCEffectiveRoutingRule.mem_weightedClusters`).
-/

namespace Kubvernor

def INFERENCE_EXT_PROC_FILTER_NAME : String := "inference.filters.http.ext_proc"

/-! ## The messages of Envoy -/

inductive PathSpecifier
  | path (value : String)
  | pathPrefix (value : String)
  | pathSeparatedPrefix (value : String)
  | safeRegex (regex : String)
deriving DecidableEq, Repr

/-- A header matcher; the string must match exactly. -/
structure HeaderMatcher where
  name : String
  exact : String
deriving DecidableEq, Repr

structure EnvoyRouteMatch where
  pathSpecifier : Option PathSpecifier
  headers : List HeaderMatcher
deriving DecidableEq, Repr

inductive HeaderAppendAction
  | appendIfExistsOrAdd
  | overwriteIfExistsOrAdd
deriving DecidableEq, Repr

structure HeaderValueOption where
  key : String
  value : String
  appendAction : HeaderAppendAction
deriving DecidableEq, Repr

structure ClusterWeight where
  name : String
  weight : Nat
deriving DecidableEq, Repr

/-- A mirror policy; the fraction is in hundredths. -/
structure RequestMirrorPolicy where
  cluster : String
  runtimeFraction : Nat
deriving DecidableEq, Repr

inductive ClusterNotFoundResponseCode
  | serviceUnavailable
  | notFound
  | internalServerError
deriving DecidableEq, Repr

structure RouteAction where
  clusterNotFoundResponseCode : ClusterNotFoundResponseCode := .internalServerError
  weightedClusters : List ClusterWeight
  hostRewriteLiteral : Option String := none
  requestMirrorPolicies : List RequestMirrorPolicy := []
deriving DecidableEq, Repr

inductive SchemeRewriteSpecifier
  | schemeRedirect (scheme : String)
  | httpsRedirect (enabled : Bool)
deriving DecidableEq, Repr

inductive PathRewriteSpecifier
  | pathRedirect (path : String)
  | prefixRewrite (path : String)
deriving DecidableEq, Repr

inductive RedirectResponseCode
  | movedPermanently | found | seeOther | temporaryRedirect | permanentRedirect
deriving DecidableEq, Repr

structure RedirectAction where
  hostRedirect : String
  schemeRewriteSpecifier : Option SchemeRewriteSpecifier
  pathRewriteSpecifier : Option PathRewriteSpecifier
  portRedirect : Nat
  responseCode : RedirectResponseCode
deriving DecidableEq, Repr

inductive EnvoyAction
  | route (action : RouteAction)
  | redirect (action : RedirectAction)
deriving DecidableEq, Repr

inductive HeaderSendMode
  | default | send | skip
deriving DecidableEq, Repr

inductive BodySendMode
  | none | streamed | buffered | bufferedPartial | fullDuplexStreamed
deriving DecidableEq, Repr

structure ProcessingMode where
  requestHeaderMode : HeaderSendMode := .send
  requestBodyMode : BodySendMode := .fullDuplexStreamed
  responseHeaderMode : HeaderSendMode := .skip
  responseBodyMode : BodySendMode := .none
  requestTrailerMode : HeaderSendMode := .skip
  responseTrailerMode : HeaderSendMode := .skip
deriving DecidableEq, Repr

/-- `ExtProcPerRoute`; `clusterName` is the cluster of its GRPC service. -/
structure ExtProcPerRoute where
  processingMode : ProcessingMode := {}
  clusterName : String
  failureModeAllow : Bool
deriving DecidableEq, Repr

structure EnvoyRoute where
  name : String
  routeMatch : EnvoyRouteMatch
  requestHeadersToAdd : List HeaderValueOption
  requestHeadersToRemove : List String
  responseHeadersToAdd : List HeaderValueOption := []
  responseHeadersToRemove : List String := []
  action : EnvoyAction
  typedPerFilterConfig : List (String × ExtProcPerRoute) := []
deriving DecidableEq, Repr

/-- The clusters a route may send requests to; a redirect sends none. -/
def EnvoyRoute.weightedClusters (r : EnvoyRoute) : List ClusterWeight :=
  match r.action with
  | .route action => action.weightedClusters
  | .redirect _ => []

/-! ## Conversion -/

def createHeaderMatchers (headers : Option (List HeaderMatch)) : List HeaderMatcher :=
  (headers.getD []).map fun header => { name := header.name, exact := header.value }

def headersToAdd (toAdd toSet : List HTTPHeader) : List HeaderValueOption :=
  (toAdd.map fun h => { key := h.name, value := h.value, appendAction := .appendIfExistsOrAdd }) ++
    toSet.map fun h => { key := h.name, value := h.value, appendAction := .overwriteIfExistsOrAdd }

structure ServiceClusterWeight where
  name : String
  weight : Int
deriving DecidableEq, Repr

def ServiceClusterWeight.ofBackend (b : Backend) : ServiceClusterWeight :=
  match b.backendType with
  | .service c | .invalid c => { name := c.clusterName, weight := c.weight }
  | .inferencePool c => { name := c.clusterName, weight := c.weight }

def createClusterWeights (backends : List ServiceClusterWeight) : List ClusterWeight :=
  (backends.filter fun b => 0 < b.weight).map fun b => { name := b.name, weight := b.weight.toNat }

/-- A path value without its trailing slashes, unless it is a single character. -/
def trimPath (value : Option String) : String :=
  match value with
  | none => "/"
  | some v => if 1 < v.utf8ByteSize then trimEndMatches v '/' else v

/-- The path specifier of an HTTP match, if the match has a path with a type. -/
def httpPathSpecifier (path : Option PathMatch) : Option PathSpecifier :=
  path.bind fun matcher =>
    matcher.type.map fun
      | .exact => .path (trimPath matcher.value)
      | .pathPrefix =>
        match matcher.value with
        | some val =>
          if val = "/" then .pathPrefix (trimPath matcher.value)
          else .pathSeparatedPrefix (trimPath matcher.value)
        | none => .pathPrefix (trimPath matcher.value)
      | .regularExpression => .safeRegex (trimPath matcher.value)

/-- The path specifier of a GRPC match, if the match has a method match with a type. -/
def grpcPathSpecifier (method : Option GrpcMethodMatch) : Option PathSpecifier :=
  method.bind fun matcher =>
    let service := trimPath matcher.service
    let path := match matcher.method with
      | some method => "/" ++ service ++ "/" ++ method
      | none => "/" ++ service
    matcher.type.map fun
      | .exact => .path path
      | .regularExpression => .safeRegex path

/-- `derive_port`. -/
def derivePort (port : Option Int) (scheme : Option RequestRedirectScheme) (listenerPort : Int) : Nat :=
  match port with
  | some port => (port % 2 ^ 32).toNat
  | none =>
    match scheme with
    | some .https => 443
    | some .http => 80
    | none => (listenerPort % 2 ^ 32).toNat

def RedirectAction.ofFilter (f : FilterRequestRedirect) (listenerPort : Int) : RedirectAction where
  hostRedirect := f.hostname.getD ""
  schemeRewriteSpecifier := f.scheme.map fun
    | .http => .schemeRedirect "http"
    | .https => .httpsRedirect true
  pathRewriteSpecifier := f.path.map fun p =>
    match p.type with
    | .replaceFullPath => .pathRedirect (p.replaceFullPath.getD "")
    | .replacePrefixMatch => .prefixRewrite (p.replacePrefixMatch.getD "")
  portRedirect := derivePort f.port f.scheme listenerPort
  responseCode := match f.statusCode with
    | some 302 => .found
    | some 303 => .seeOther
    | some 307 => .temporaryRedirect
    | some 308 => .permanentRedirect
    | _ => .movedPermanently

/-- The share of requests a mirror filter copies, in hundredths. -/
def RequestMirror.runtimeFraction (mirror : RequestMirror) : Nat :=
  match mirror.percent, mirror.fraction with
  | none, none => 100
  | none, some fraction =>
    (Float.ofInt fraction.numerator / Float.ofInt (fraction.denominator.getD 100) * 100).toUInt32.toNat
  | some percent, none => (percent % 2 ^ 32).toNat
  | some _, some _ => 100

namespace HTTPEffectiveRoutingRule

/-- The clusters of the filter backends that the mirror filter refers to. The namespace a reference
leaves out is the default one here. -/
def mirrorBackends (rule : HTTPEffectiveRoutingRule) (mirror : RequestMirror) : List String :=
  let configs := rule.filterBackends.filterMap fun b =>
    match b.backendType with
    | .service c | .invalid c => some c
    | .inferencePool _ => none
  (configs.filter fun c => c.resourceKey = mirror.backendRef.resourceKey DEFAULT_NAMESPACE_NAME).map
    (·.clusterName)

def mirrorPolicies (rule : HTTPEffectiveRoutingRule) : List RequestMirrorPolicy :=
  match rule.mirrorFilter with
  | none => []
  | some mirror => (rule.mirrorBackends mirror).map fun cluster =>
      { cluster := cluster, runtimeFraction := mirror.runtimeFraction }

/-- The action that forwards to the backends of the rule. -/
def clusterAction (rule : HTTPEffectiveRoutingRule) : RouteAction where
  weightedClusters := createClusterWeights (rule.backends.map ServiceClusterWeight.ofBackend)
  hostRewriteLiteral := rule.rewriteUrlFilter.bind (·.hostname)
  requestMirrorPolicies := rule.mirrorPolicies

/-- `envoy_route_name`. -/
def envoyRouteName (rule : HTTPEffectiveRoutingRule) : String := rule.name ++ "_route"

/-- `EnvoyRoute::from(HTTPEffectiveRoutingRule)`. -/
def envoyRoute (rule : HTTPEffectiveRoutingRule) : EnvoyRoute where
  name := rule.envoyRouteName
  routeMatch :=
    { pathSpecifier := (httpPathSpecifier rule.routeMatcher.path).or (some (.path "/"))
      headers := createHeaderMatchers rule.routeMatcher.headers }
  requestHeadersToAdd := headersToAdd rule.requestHeaders.add rule.requestHeaders.set
  requestHeadersToRemove := rule.requestHeaders.remove
  responseHeadersToAdd := headersToAdd rule.responseHeaders.add rule.responseHeaders.set
  responseHeadersToRemove := rule.responseHeaders.remove
  action := match rule.redirectFilter with
    | some f => .redirect (.ofFilter f rule.listenerPort)
    | none => .route rule.clusterAction

end HTTPEffectiveRoutingRule

/-- `get_inference_extension_configurations`. -/
def getInferenceExtensionConfigurations (backends : List Backend) : List InferencePoolTypeConfig :=
  backends.filterMap fun b =>
    match b.backendType with
    | .inferencePool c => some c
    | .service _ | .invalid _ => none

/-- `make_inference_cluster_name`. -/
def makeInferenceClusterName (name : String) (k : ResourceKey) : String :=
  name ++ "-extsvc-" ++ ResourceKey.createId k.name k.ns

/-- `HTTPEffectiveRoutingRule::add_inference_filters`, without the percentage it does not use. -/
def EnvoyRoute.addInferenceFilters (r : EnvoyRoute) (pool : InferencePoolTypeConfig) : EnvoyRoute :=
  let perRouteFilters := pool.inferenceConfig.map fun conf =>
    (INFERENCE_EXT_PROC_FILTER_NAME,
      ({ clusterName := makeInferenceClusterName r.name pool.resourceKey
         failureModeAllow := conf.endpointPickerRef.failureMode = some .failOpen } : ExtProcPerRoute))
  { r with typedPerFilterConfig := perRouteFilters.toList }

/-- `Vec::<EnvoyRoute>::from(HTTPEffectiveRoutingRule)`. -/
def HTTPEffectiveRoutingRule.envoyRoutes (rule : HTTPEffectiveRoutingRule) : List EnvoyRoute :=
  let pools := getInferenceExtensionConfigurations rule.backends
  if pools.isEmpty then [rule.envoyRoute]
  else pools.map fun pool => rule.envoyRoute.addInferenceFilters pool

namespace GRPCEffectiveRoutingRule

/-- The clusters of the service backends, the ones with a weight. -/
def clusterNames (rule : GRPCEffectiveRoutingRule) : List ClusterWeight :=
  let configs := rule.backends.filterMap fun b =>
    match b.backendType with
    | .service c => some c
    | _ => none
  (configs.filter fun c => 0 < c.weight).map fun c => { name := c.clusterName, weight := c.weight.toNat }

/-- `EnvoyRoute::from(GRPCEffectiveRoutingRule)`. -/
def envoyRoute (rule : GRPCEffectiveRoutingRule) : EnvoyRoute where
  name := rule.name ++ "-grpc-route"
  routeMatch :=
    { pathSpecifier := (grpcPathSpecifier rule.routeMatcher.method).or (some (.pathPrefix "/"))
      headers := createHeaderMatchers rule.routeMatcher.headers }
  requestHeadersToAdd := headersToAdd rule.requestHeaders.add rule.requestHeaders.set
  requestHeadersToRemove := rule.requestHeaders.remove
  action := .route { weightedClusters := rule.clusterNames }

end GRPCEffectiveRoutingRule

/-! ## The weighted clusters of the routes -/

variable {w : ClusterWeight}

theorem mem_createClusterWeights {backends : List ServiceClusterWeight} :
    w ∈ createClusterWeights backends ↔
      ∃ b ∈ backends, 0 < b.weight ∧ w = ⟨b.name, b.weight.toNat⟩ := by
  simp only [createClusterWeights, List.mem_map, List.mem_filter, decide_eq_true_eq, and_assoc]
  exact exists_congr fun b => and_congr_right fun _ => and_congr_right fun _ => eq_comm

@[simp] theorem EnvoyRoute.weightedClusters_addInferenceFilters {r : EnvoyRoute}
    {pool : InferencePoolTypeConfig} :
    (r.addInferenceFilters pool).weightedClusters = r.weightedClusters := rfl

/-- The routes of one rule all have the same weighted clusters. -/
theorem HTTPEffectiveRoutingRule.weightedClusters_of_mem {rule : HTTPEffectiveRoutingRule}
    {r : EnvoyRoute} (hr : r ∈ rule.envoyRoutes) :
    r.weightedClusters = rule.envoyRoute.weightedClusters := by
  unfold envoyRoutes at hr
  simp only at hr
  split at hr
  · rw [List.mem_singleton.1 hr]
  · obtain ⟨pool, -, rfl⟩ := List.mem_map.1 hr
    exact EnvoyRoute.weightedClusters_addInferenceFilters

theorem HTTPEffectiveRoutingRule.envoyRoutes_ne_nil (rule : HTTPEffectiveRoutingRule) :
    rule.envoyRoutes ≠ [] := by
  unfold envoyRoutes
  simp only
  split
  · exact List.cons_ne_nil _ _
  · rename_i h
    rw [Ne, List.map_eq_nil_iff]
    exact fun h' => h (List.isEmpty_iff.2 h')

/-- An HTTP rule sends requests to all its backends of positive weight, unless it redirects. -/
theorem HTTPEffectiveRoutingRule.mem_weightedClusters {rule : HTTPEffectiveRoutingRule} :
    w ∈ rule.envoyRoute.weightedClusters ↔ rule.redirectFilter = none ∧ ∃ b ∈ rule.backends,
      w ∈ createClusterWeights [ServiceClusterWeight.ofBackend b] := by
  unfold envoyRoute EnvoyRoute.weightedClusters
  cases rule.redirectFilter with
  | some f => simp
  | none =>
    simp only [clusterAction, mem_createClusterWeights, List.mem_map, exists_exists_and_eq_and,
      List.mem_singleton, exists_eq_left, true_and]

theorem GRPCEffectiveRoutingRule.mem_weightedClusters {rule : GRPCEffectiveRoutingRule} :
    w ∈ rule.envoyRoute.weightedClusters ↔ ∃ b ∈ rule.backends, ∃ c, b.backendType = .service c ∧
      w ∈ createClusterWeights [⟨c.clusterName, c.weight⟩] := by
  simp only [envoyRoute, EnvoyRoute.weightedClusters, clusterNames, List.mem_map, List.mem_filter,
    List.mem_filterMap, decide_eq_true_eq, mem_createClusterWeights, List.mem_singleton, exists_eq_left]
  constructor
  · rintro ⟨c, ⟨⟨b, hb, hc⟩, hw⟩, rfl⟩
    refine ⟨b, hb, c, ?_, hw, rfl⟩
    cases hbt : b.backendType <;> simp_all
  · rintro ⟨b, hb, c, hc, hw, rfl⟩
    exact ⟨c, ⟨⟨b, hb, by rw [hc]⟩, hw⟩, rfl⟩

end Kubvernor
