import Kubvernor.Agentgateway.AggregateServer
import Kubvernor.Agentgateway.Resources
import Mathlib.Logic.Embedding.Basic

/-!
# Generating the resources of an agentgateway

The resources of a gateway: a bind for each port and protocol with the listeners on it, a route for
each rule of an HTTP route and each listener it is attached to, and the backends and policies of the
rules, each kept once under its key.
-/

namespace Kubvernor

namespace ProtocolType

/-- `i32::from(ProtocolType)`. -/
def toInt : ProtocolType → Int
  | .http => 1
  | .https => 2
  | .tls => 3
  | .tcp => 4
  | .udp => 6

/-- The protocol of the bind of a listener. -/
def bindProtocol : ProtocolType → Agentgateway.Api.BindProtocol
  | .http | .udp => .http
  | .https | .tls => .tls
  | .tcp => .tcp

end ProtocolType

/-- The name of a method, which it is serialized under. -/
def HTTPMethod.name : HTTPMethod → String
  | .get => "GET"
  | .head => "HEAD"
  | .post => "POST"
  | .put => "PUT"
  | .delete => "DELETE"
  | .connect => "CONNECT"
  | .options => "OPTIONS"
  | .trace => "TRACE"
  | .patch => "PATCH"

namespace Agentgateway

/-- A conversion `as u32`. -/
def asU32 (i : Int) : Nat := (i % 4294967296).toNat

/-- `TlsConfig::from(KeyData)`. -/
def tlsConfigOfKeyData (data : KeyData) : Api.TlsConfig := ⟨data.cert, data.privateKey, data.root⟩

/-! ## Binds and listeners -/

/-- `create_bind_name`. -/
def createBindName (port protocol : Int) : String :=
  "bind-port-" ++ toString port ++ "-protocol-" ++ toString protocol

section
variable (protocolNumber : Api.BindProtocol ↪ Int)

/-- The bind of a listener; `protocolNumber` gives the numbers of the protocols. -/
def createBind (l : Listener) : Api.Bind where
  key := createBindName l.port (protocolNumber l.protocol.bindProtocol)
  port := asU32 l.port
  protocol := l.protocol.bindProtocol
  tunnelProtocol := .direct

/-- The certificate of a listener: the first one that is resolved in the gateway's own namespace. -/
def tlsConfig (l : Listener) : Option Api.TlsConfig :=
  match l.protocol with
  | .https | .tls =>
    match l.data.config.tlsType with
    | some (.terminate certificates) =>
      (certificates.filterMap fun c => match c with
        | .resolvedSameSpace _ data => some (tlsConfigOfKeyData data)
        | .resolvedCrossSpace _ _ | .notResolved _ | .invalid _ => none).head?
    | some .passthrough | none => none
  | .http | .tcp | .udp => none

def createListener (gateway : Gateway) (l : Listener) : Api.Listener where
  key := l.name
  name :=
    { gatewayName := gateway.resourceKey.name
      gatewayNamespace := gateway.resourceKey.ns
      listenerName := l.name }
  bindKey := createBindName l.port (protocolNumber l.protocol.bindProtocol)
  hostname := l.hostname.getD "*"
  protocol := l.protocol.toInt
  tls := tlsConfig l

/-- One round of the fold over the listeners. -/
def addListener (gateway : Gateway) (acc : Std.ExtTreeMap Api.Bind (List Api.Listener)) (l : Listener) :
    Std.ExtTreeMap Api.Bind (List Api.Listener) :=
  let bind := createBind protocolNumber l
  let listener := createListener protocolNumber gateway l
  match acc[bind]? with
  | some listeners => acc.insert bind (listeners ++ [listener])
  | none => acc.insert bind [listener]

/-- `generate_bindings_and_listeners`. -/
def generateBindingsAndListeners (gateway : Gateway) : Std.ExtTreeMap Api.Bind (List Api.Listener) :=
  gateway.listenerValues.foldl (addListener protocolNumber gateway) ∅

end

/-! ## Matches -/

def convertPathMatch (pathMatch : Option PathMatch) : Option Api.PathMatch :=
  match pathMatch with
  | some pathMatch =>
    let matchValue := pathMatch.value.getD ""
    match pathMatch.type with
    | some .exact => some (.exact matchValue)
    | some .pathPrefix => some (.pathPrefix matchValue)
    | some .regularExpression => some (.regex matchValue)
    | none => none
  | none => none

/-- `convert_headers` and `convert_query_params`. -/
def convertHeaders (headerMatch : Option (List HeaderMatch)) : List Api.HeaderMatch :=
  (headerMatch.getD []).map fun hm =>
    { name := hm.name
      value := hm.type.map fun type => match type with
        | .exact => .exact hm.value
        | .regularExpression => .regex hm.value }

/-- A method as a JSON string. -/
def quotedMethod (method : HTTPMethod) : Option String := some ("\"" ++ method.name ++ "\"")

/-- `convert_method_match`; `methodJson` is `serde_json::to_string`, which may fail. -/
def convertMethodMatch (methodJson : HTTPMethod → Option String) (methodMatch : Option HTTPMethod) :
    Option Api.MethodMatch :=
  methodMatch.map fun mm => ⟨(methodJson mm).getD ""⟩

def convertRouteMatch (methodJson : HTTPMethod → Option String) (routeMatch : RouteMatch) : Api.RouteMatch where
  path := convertPathMatch routeMatch.path
  headers := convertHeaders routeMatch.headers
  method := convertMethodMatch methodJson routeMatch.method
  queryParams := convertHeaders routeMatch.queryParams

/-! ## Filters -/

def mapHeaders (headers : List HTTPHeader) : List Api.Header :=
  headers.map fun header => ⟨header.name, header.value⟩

def mapReplacePath (path : RequestRedirectPath) : Api.ReplacePath :=
  match path.type with
  | .replaceFullPath => .full (path.replaceFullPath.getD "")
  | .replacePrefixMatch => .pathPrefix (path.replacePrefixMatch.getD "")

def mapHeaderModifier (modifier : HeaderModifier) : Api.HeaderModifier where
  add := mapHeaders (modifier.add.getD [])
  set := mapHeaders (modifier.set.getD [])
  remove := modifier.remove.getD []

def mapRedirectFilter (filter : HttpRouteFilter) (listenerPort : Nat) : Option Api.TrafficPolicySpec :=
  filter.requestRedirect.map fun redirect => .requestRedirect
    { scheme := match redirect.scheme with
        | some .http => "HTTP"
        | some .https => "HTTPS"
        | none => ""
      host := redirect.hostname.getD ""
      port := match redirect.port, redirect.scheme with
        | some port, _ => asU32 port
        | none, some .http => 80
        | none, some .https => 443
        | none, none => listenerPort
      status := asU32 (redirect.statusCode.getD 302)
      path := redirect.path.map mapReplacePath }

def mapRequestHeaderModifierFilter (filter : HttpRouteFilter) : Option Api.TrafficPolicySpec :=
  filter.requestHeaderModifier.map fun modifier => .requestHeaderModifier (mapHeaderModifier modifier)

def mapResponseHeaderModifierFilter (filter : HttpRouteFilter) : Option Api.TrafficPolicySpec :=
  filter.responseHeaderModifier.map fun modifier => .responseHeaderModifier (mapHeaderModifier modifier)

def mapUrlRewriteFilter (filter : HttpRouteFilter) : Option Api.TrafficPolicySpec :=
  filter.urlRewrite.map fun rewrite => .urlRewrite
    { host := rewrite.hostname.getD "", path := rewrite.path.map mapReplacePath }

def mapFilters (filter : HttpRouteFilter) (listenerPort : Nat) : List Api.TrafficPolicySpec :=
  [mapRedirectFilter filter listenerPort, mapRequestHeaderModifierFilter filter,
    mapResponseHeaderModifierFilter filter, mapUrlRewriteFilter filter].filterMap id

/-- The key a backend is known by. -/
def backendKey (k : ResourceKey) : String := k.ns ++ "/" ++ k.name

/-- The percentage of a mirror filter; one with both a percentage and a fraction mirrors everything. -/
def mirrorPercentage (mirror : RequestMirror) : Api.Percentage :=
  match mirror.percent, mirror.fraction with
  | none, none => .whole 100
  | none, some fraction => .quotient fraction.numerator (fraction.denominator.getD 100)
  | some percent, none => .whole percent
  | some _, some _ => .whole 100

/-- The backend of a mirror filter: the first filter backend of the key of its reference, which is looked
up in the default namespace if it has none. -/
def mirrorBackend (routingRule : HTTPRoutingRule) (mirror : RequestMirror) : Option Api.BackendReference :=
  (routingRule.filterBackends.filterMap fun b => match b.backendType with
    | .service config | .invalid config =>
      if config.resourceKey = mirror.backendRef.resourceKey DEFAULT_NAMESPACE_NAME then
        some { port := asU32 config.effectivePort, kind := .backend (backendKey config.resourceKey) }
      else none
    | .inferencePool _ => none).head?

def createRequestMirrorTrafficPolicy (routingRule : HTTPRoutingRule) : Option Api.TrafficPolicySpec :=
  let mirrors := (routingRule.filters.filterMap fun f =>
    if f.type = .requestMirror then f.requestMirror else none).map fun mirror =>
      { backend := mirrorBackend routingRule mirror, percentage := mirrorPercentage mirror : Api.Mirror }
  if mirrors.isEmpty then none else some (.requestMirror mirrors)

/-! ## Backends -/

def createRouteBackend (backend : Backend) : Option Api.RouteBackend :=
  match backend with
  | .resolved (.service config) | .invalid (.service config) | .notAllowed (.service config)
  | .unresolved (.service config) =>
    some
      { backend := { port := asU32 config.effectivePort, kind := .backend (backendKey config.resourceKey) }
        weight := config.weight }
  | .resolved (.inferencePool config) =>
    some
      { backend :=
          { port := asU32 (config.targetPorts.head?.getD config.port)
            kind := .service config.resourceKey.ns config.endpoint }
        weight := config.weight }
  | _ => none

def createBackends (backend : Backend) : List (String × Api.Backend) :=
  match backend with
  | .resolved (.service config) =>
    let name := backendKey config.resourceKey
    [(name,
      { key := name
        name := { name := config.resourceKey.name, ns := config.resourceKey.ns }
        kind := { host := config.endpoint, port := config.effectivePort }
        inlinePolicies := [] })]
  | _ => []

/-- `create_backend_services`; `parseIpAddr` gives the bytes of an IP address. -/
def createBackendServices (parseIpAddr : String → Option (List UInt8)) (backend : Backend) :
    Option (String × Api.Service) :=
  match backend with
  | .resolved (.inferencePool config) =>
    some (config.resourceKey.ns ++ "/" ++ config.endpoint,
      { name := config.resourceKey.name
        ns := config.resourceKey.ns
        hostname := config.endpoint
        ports := config.targetPorts.map fun p => ⟨asU32 p, asU32 p⟩
        addresses := (config.endpoints.getD []).filterMap parseIpAddr
        loadBalancing := some ⟨1⟩ })
  | .invalid (.service config) =>
    some (config.resourceKey.ns ++ "/" ++ config.endpoint,
      { name := config.resourceKey.name, ns := config.resourceKey.ns, hostname := config.endpoint })
  | _ => none

/-- The port of an endpoint picker. -/
def EPP_DEFAULT_PORT : Int := 9002

/-- `create_inference_policies`: the policy of a pool, and the backend of its endpoint picker, if the pool
has been found. -/
def createInferencePolicies (policyName : String) (backend : ResourceKey) (conf : InferencePoolTypeConfig) :
    Api.Policy × Option (String × Api.Backend) :=
  let eppBackendName := "epp-backend-" ++ policyName
  let port (spec : InferencePoolSpec) : Int := spec.endpointPickerRef.port.getD EPP_DEFAULT_PORT
  let endpointPicker : Option Api.BackendReference := conf.inferenceConfig.map fun spec =>
    { port := asU32 (port spec), kind := .backend eppBackendName }
  let failureMode : Api.FailureMode :=
    match conf.inferenceConfig.bind (·.endpointPickerRef.failureMode) with
    | some .failOpen => .failOpen
    | some .failClose => .failClosed
    | none => .unknown
  ({ key := policyName
     name := { name := backend.name, ns := backend.ns, kind := backend.kind }
     kind := .inferenceRouting endpointPicker failureMode
     target := { ns := backend.ns, hostname := conf.endpoint } },
    conf.inferenceConfig.map fun spec =>
      (eppBackendName,
        { key := eppBackendName
          name := { name := backend.name, ns := backend.ns }
          kind := { host := spec.endpointPickerRef.name ++ "." ++ conf.resourceKey.ns, port := port spec }
          inlinePolicies := [.backendTlsInsecureAll, .backendHttp2] }))

/-! ## Routes -/

/-- One round of the loops: a rule of an HTTP route that is attached to a listener. -/
structure AttachedRule where
  listener : Listener
  route : Route
  routingRules : List HTTPRoutingRule
  routingRule : HTTPRoutingRule

/-- The rounds, in their order; GRPC routes are left out. -/
def attachedRules (gateway : Gateway) : List AttachedRule :=
  gateway.listenerValues.flatMap fun l =>
    (l.routes.1 ++ l.routes.2).flatMap fun route =>
      match route.routeType with
      | .http rules => rules.map fun rule => ⟨l, route, rules, rule⟩
      | .grpc _ => []

namespace AttachedRule

variable (r : AttachedRule)

/-- `inference_extension_configurations`: those of all the rules of the route, under the name of this one. -/
def inferenceExtensionConfigurations : List (String × ResourceKey × InferencePoolTypeConfig) :=
  r.routingRules.flatMap fun rule => rule.backends.filterMap fun b => match b.backendType with
    | .inferencePool config =>
      some ("Policy-" ++ r.routingRule.name ++ "-" ++ ResourceKey.createId b.resourceKey.name b.resourceKey.ns,
        b.resourceKey, config)
    | .service _ | .invalid _ => none

def policies : List (String × Api.Policy) :=
  r.inferenceExtensionConfigurations.map fun p => (p.1, (createInferencePolicies p.1 p.2.1 p.2.2).1)

def eppBackends : List (String × Api.Backend) :=
  r.inferenceExtensionConfigurations.filterMap fun p => (createInferencePolicies p.1 p.2.1 p.2.2).2

/-- The backends of a rule: those of its Services, then those of the endpoint pickers. -/
def backends : List (String × Api.Backend) :=
  (r.routingRule.backends ++ r.routingRule.filterBackends).flatMap createBackends ++ r.eppBackends

def backendServices (parseIpAddr : String → Option (List UInt8)) : List (String × Api.Service) :=
  r.routingRule.backends.filterMap (createBackendServices parseIpAddr)

def trafficPolicies : List Api.TrafficPolicySpec :=
  r.routingRule.filters.flatMap (fun f => mapFilters f (asU32 r.listener.port)) ++ [.hostRewriteNone] ++
    (createRequestMirrorTrafficPolicy r.routingRule).toList

/-- The key of the route, which has neither the namespace nor the listener. -/
def routeKey : String := r.route.resourceKey.name ++ "-" ++ r.routingRule.name

def toRoute (methodJson : HTTPMethod → Option String) : Api.Route where
  key := r.routeKey
  name :=
    { kind := "HTTP"
      name := r.routingRule.name
      ns := r.route.resourceKey.ns
      ruleName := some r.routingRule.name }
  listenerKey := r.listener.name
  hostnames := r.route.hostnames.filter (· ≠ "*")
  routeMatches := r.routingRule.matchingRules.map (convertRouteMatch methodJson)
  backends := r.routingRule.backends.filterMap createRouteBackend
  trafficPolicies := r.trafficPolicies

end AttachedRule

/-- `generate_routes_and_backends_and_policies`: of two backends, policies or services with one key the
later one is kept. -/
def generateRoutesAndBackendsAndPolicies (methodJson : HTTPMethod → Option String)
    (parseIpAddr : String → Option (List UInt8)) (gateway : Gateway) :
    List Api.Route × List Api.Backend × List Api.Policy × List Api.Service :=
  let rounds := attachedRules gateway
  let backends : Std.ExtTreeMap String Api.Backend := .ofList (rounds.flatMap (·.backends))
  let backendPolicies : Std.ExtTreeMap String Api.Policy := .ofList (rounds.flatMap (·.policies))
  let backendServices : Std.ExtTreeMap String Api.Service := .ofList (rounds.flatMap (·.backendServices parseIpAddr))
  (rounds.map (·.toRoute methodJson), backends.toList.map (·.2), backendPolicies.toList.map (·.2),
    backendServices.toList.map (·.2))

/-! ## The update -/

/-- What a resource carries. -/
inductive Spec
  | bind (bind : Api.Bind)
  | listener (listener : Api.Listener)
  | route (route : Api.Route)
  | backend (backend : Api.Backend)
  | policy (policy : Api.Policy)
deriving DecidableEq

/-- The resources of `UpdateResources` that the deployer sends when a gateway has changed. -/
def updateResources (protocolNumber : Api.BindProtocol ↪ Int) (methodJson : HTTPMethod → Option String)
    (parseIpAddr : String → Option (List UInt8)) (gateway : Gateway) : List (Kind Spec) :=
  let bindingsAndListeners := generateBindingsAndListeners protocolNumber gateway
  let (routes, backends, policies, _) := generateRoutesAndBackendsAndPolicies methodJson parseIpAddr gateway
  bindingsAndListeners.toList.map (fun p => .bind p.1.key (.bind p.1)) ++
    (bindingsAndListeners.toList.flatMap (·.2)).map (fun l => .listener l.key (.listener l)) ++
    routes.map (fun r => .route r.key (.route r)) ++
    backends.map (fun b => .backend b.key (.backend b)) ++
    policies.map (fun p => .policy p.key (.policy p))

end Agentgateway

end Kubvernor
