import Kubvernor.Common.Backend

/-!
# Routes

HTTP and GRPC routes as the controller keeps them: the matches and filters of the Gateway API, the
rules with their backends, and `Route`, which is identified and ordered by its key alone
(`RouteSet`).
-/

namespace Kubvernor

def DEFAULT_ROUTE_HOSTNAME : String := "*"

/-! ## Matches -/

inductive HttpRouteRulesMatchesPathType
  | exact
  | pathPrefix
  | regularExpression
deriving DecidableEq, Repr

structure PathMatch where
  type : Option HttpRouteRulesMatchesPathType := none
  value : Option String := none
deriving DecidableEq, Repr

inductive HeaderMatchType
  | exact
  | regularExpression
deriving DecidableEq, Repr

structure HeaderMatch where
  name : String
  value : String
  type : Option HeaderMatchType := none
deriving DecidableEq, Repr

inductive HTTPMethod
  | get | head | post | put | delete | connect | options | trace | patch
deriving DecidableEq, Repr

structure RouteMatch where
  headers : Option (List HeaderMatch) := none
  method : Option HTTPMethod := none
  path : Option PathMatch := none
  queryParams : Option (List HeaderMatch) := none
deriving DecidableEq, Repr

structure GrpcMethodMatch where
  method : Option String := none
  service : Option String := none
  type : Option HeaderMatchType := none
deriving DecidableEq, Repr

structure GrpcRouteMatch where
  headers : Option (List HeaderMatch) := none
  method : Option GrpcMethodMatch := none
deriving DecidableEq, Repr

/-! ## Filters -/

structure HTTPHeader where
  name : String
  value : String
deriving DecidableEq, Repr

structure HeaderModifier where
  add : Option (List HTTPHeader) := none
  remove : Option (List String) := none
  set : Option (List HTTPHeader) := none
deriving DecidableEq, Repr

structure BackendObjectReference where
  group : Option String := none
  kind : Option String := none
  name : String
  ns : Option String := none
  port : Option Int := none
deriving DecidableEq, Repr

/-- `ResourceKey::from((&BackendObjectReference, String))`. -/
def BackendObjectReference.resourceKey (r : BackendObjectReference) (localNamespace : String) : ResourceKey :=
  { group := DEFAULT_GROUP_NAME, ns := r.ns.getD localNamespace, name := r.name, kind := r.kind.getD "" }

structure Fraction where
  numerator : Int
  denominator : Option Int := none
deriving DecidableEq, Repr

structure RequestMirror where
  backendRef : BackendObjectReference
  percent : Option Int := none
  fraction : Option Fraction := none
deriving DecidableEq, Repr

inductive RequestOperationType
  | replaceFullPath
  | replacePrefixMatch
deriving DecidableEq, Repr

structure RequestRedirectPath where
  type : RequestOperationType
  replaceFullPath : Option String := none
  replacePrefixMatch : Option String := none
deriving DecidableEq, Repr

inductive RequestRedirectScheme
  | http
  | https
deriving DecidableEq, Repr

structure FilterRequestRedirect where
  hostname : Option String := none
  path : Option RequestRedirectPath := none
  port : Option Int := none
  scheme : Option RequestRedirectScheme := none
  statusCode : Option Int := none
deriving DecidableEq, Repr

structure HttpRouteUrlRewrite where
  hostname : Option String := none
  path : Option RequestRedirectPath := none
deriving DecidableEq, Repr

inductive HTTPFilterType
  | requestHeaderModifier | responseHeaderModifier | requestMirror | requestRedirect | urlRewrite
  | extensionRef
deriving DecidableEq, Repr

structure HttpRouteFilter where
  type : HTTPFilterType
  requestHeaderModifier : Option HeaderModifier := none
  responseHeaderModifier : Option HeaderModifier := none
  requestMirror : Option RequestMirror := none
  requestRedirect : Option FilterRequestRedirect := none
  urlRewrite : Option HttpRouteUrlRewrite := none
deriving DecidableEq, Repr

inductive GRPCFilterType
  | requestHeaderModifier | responseHeaderModifier | requestMirror | extensionRef
deriving DecidableEq, Repr

structure GrpcRouteFilter where
  type : GRPCFilterType
  requestHeaderModifier : Option HeaderModifier := none
  responseHeaderModifier : Option HeaderModifier := none
  requestMirror : Option RequestMirror := none
deriving DecidableEq, Repr

/-- What the header modifiers of a rule add, remove and set, together. -/
structure FilterHeaders where
  add : List HTTPHeader := []
  remove : List String := []
  set : List HTTPHeader := []
deriving DecidableEq, Repr

/-- The header lists of some modifiers, each in the order of the filters. -/
def FilterHeaders.ofModifiers (modifiers : List HeaderModifier) : FilterHeaders where
  add := modifiers.flatMap fun m => m.add.getD []
  remove := modifiers.flatMap fun m => m.remove.getD []
  set := modifiers.flatMap fun m => m.set.getD []

/-! ## Rules and routes -/

structure HTTPRoutingRule where
  name : String
  backends : List Backend := []
  matchingRules : List RouteMatch := []
  filters : List HttpRouteFilter := []
  filterBackends : List Backend := []
deriving DecidableEq, Repr

/-- `HTTPRoutingRule::filter_headers`; only the two header modifier types have headers. -/
def HTTPRoutingRule.filterHeaders (rule : HTTPRoutingRule) (filterType : HTTPFilterType) : FilterHeaders :=
  .ofModifiers <| (rule.filters.filter fun f => f.type = filterType).filterMap fun f =>
    match filterType with
    | .requestHeaderModifier => f.requestHeaderModifier
    | .responseHeaderModifier => f.responseHeaderModifier
    | _ => none

structure GRPCRoutingRule where
  name : String
  backends : List Backend := []
  matchingRules : List GrpcRouteMatch := []
  filters : List GrpcRouteFilter := []
  filterBackends : List Backend := []
deriving DecidableEq, Repr

/-- `GRPCRoutingRule::filter_headers`. -/
def GRPCRoutingRule.filterHeaders (rule : GRPCRoutingRule) : FilterHeaders :=
  .ofModifiers <| (rule.filters.filter fun f => f.type = .requestHeaderModifier).filterMap
    fun f => f.requestHeaderModifier

inductive RouteType
  | http (routingRules : List HTTPRoutingRule)
  | grpc (routingRules : List GRPCRoutingRule)
deriving DecidableEq, Repr

structure ParentReference where
  group : Option String := none
  kind : Option String := none
  name : String
  ns : Option String := none
  port : Option Int := none
  sectionName : Option String := none
deriving DecidableEq, Repr

/-- `Route`, with the fields of its configuration. -/
structure Route where
  resourceKey : ResourceKey
  parents : Option (List ParentReference) := none
  hostnames : List String := []
  resolutionStatus : ResolutionStatus := .notResolved .unknown
  routeType : RouteType
deriving DecidableEq, Repr

namespace Route

/-- `RouteConfig::backends`. -/
def backends (r : Route) : List Backend :=
  match r.routeType with
  | .http rules => rules.flatMap (·.backends)
  | .grpc rules => rules.flatMap (·.backends)

/-- `RouteConfig::filter_backends`. -/
def filterBackends (r : Route) : List Backend :=
  match r.routeType with
  | .http rules => rules.flatMap (·.filterBackends)
  | .grpc rules => rules.flatMap (·.filterBackends)

end Route

/-- A set of routes: `Route` compares by its key, so a set holds one route for each key. -/
abbrev RouteSet := Std.ExtTreeMap ResourceKey Route

/-- The routes of a set, in the order of their keys. -/
def RouteSet.routes (s : RouteSet) : List Route := s.toList.map (·.2)

/-- The set of some routes; of two routes with one key the later one is kept. -/
def RouteSet.ofRoutes (routes : List Route) : RouteSet := .ofList (routes.map fun r => (r.resourceKey, r))

end Kubvernor
