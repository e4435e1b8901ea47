import Kubvernor.Common.Listener

/-!
# Effective routing rules

A rule of a route is taken apart into one effective rule for each of its matches, and the effective
rules of all routes of a listener are sorted by how specific their matches are. Sorting moves them
and nothing else: the effective rules of a listener are those of the routes attached to it
(`mem_httpMatchingRules`, `mem_grpcMatchingRules`), resolved or not, and each has the backends of
the rule it comes from.
-/

namespace Kubvernor

/-! ## Effective rules -/

structure HTTPEffectiveRoutingRule where
  listenerPort : Int
  routeMatcher : RouteMatch
  backends : List Backend
  filterBackends : List Backend
  name : String
  hostnames : List String
  requestHeaders : FilterHeaders
  responseHeaders : FilterHeaders
  redirectFilter : Option FilterRequestRedirect
  mirrorFilter : Option RequestMirror
  rewriteUrlFilter : Option HttpRouteUrlRewrite
deriving DecidableEq, Repr

structure GRPCEffectiveRoutingRule where
  routeMatcher : GrpcRouteMatch
  backends : List Backend
  name : String
  hostnames : List String
  requestHeaders : FilterHeaders
  responseHeaders : FilterHeaders
deriving DecidableEq, Repr

def getHttpDefaultRulesMatches : RouteMatch where
  headers := some []
  path := some { type := some .pathPrefix, value := some "/" }

def getGrpcDefaultRulesMatches : GrpcRouteMatch where
  headers := some []

/-- The payload of the first filter of this type that has one. -/
def HTTPRoutingRule.findFilter {α : Type} (rule : HTTPRoutingRule) (filterType : HTTPFilterType)
    (payload : HttpRouteFilter → Option α) : Option α :=
  rule.filters.findSome? fun f => if f.type = filterType then payload f else none

/-- The redirect a rule asks for. -/
def HTTPRoutingRule.redirectFilter (rule : HTTPRoutingRule) : Option FilterRequestRedirect :=
  rule.findFilter .requestRedirect (·.requestRedirect)

/-- The matches of a rule, or the default one. -/
def HTTPRoutingRule.matchers (rule : HTTPRoutingRule) : List RouteMatch :=
  if rule.matchingRules.isEmpty then [getHttpDefaultRulesMatches] else rule.matchingRules

def GRPCRoutingRule.matchers (rule : GRPCRoutingRule) : List GrpcRouteMatch :=
  if rule.matchingRules.isEmpty then [getGrpcDefaultRulesMatches] else rule.matchingRules

/-- The effective rule of one match of a rule. -/
def Listener.httpEffectiveRule (l : Listener) (hostnames : List String) (rule : HTTPRoutingRule)
    (matcher : RouteMatch) : HTTPEffectiveRoutingRule where
  listenerPort := l.port
  routeMatcher := matcher
  backends := rule.backends
  filterBackends := rule.filterBackends
  name := rule.name
  hostnames := hostnames
  requestHeaders := rule.filterHeaders .requestHeaderModifier
  responseHeaders := rule.filterHeaders .responseHeaderModifier
  rewriteUrlFilter := rule.findFilter .urlRewrite (·.urlRewrite)
  redirectFilter := rule.redirectFilter
  mirrorFilter := rule.findFilter .requestMirror (·.requestMirror)

/-- `Listener::create_http_effective_route`. -/
def Listener.createHttpEffectiveRoute (l : Listener) (hostnames : List String)
    (routingRules : List HTTPRoutingRule) : List HTTPEffectiveRoutingRule :=
  routingRules.flatMap fun rule => rule.matchers.map (l.httpEffectiveRule hostnames rule)

def GRPCRoutingRule.effectiveRule (hostnames : List String) (rule : GRPCRoutingRule)
    (matcher : GrpcRouteMatch) : GRPCEffectiveRoutingRule where
  routeMatcher := matcher
  backends := rule.backends
  name := rule.name
  hostnames := hostnames
  requestHeaders := rule.filterHeaders
  responseHeaders := {}

/-- `Listener::create_grpc_effective_route`. -/
def createGrpcEffectiveRoute (hostnames : List String) (routingRules : List GRPCRoutingRule) :
    List GRPCEffectiveRoutingRule :=
  routingRules.flatMap fun rule => rule.matchers.map (rule.effectiveRule hostnames)

/-! ## Comparing matches

`lt` comes first. -/

/-- `Comparator::compare`: more conditions first, none at all last. -/
def Comparator.compare {α : Type} (this other : Option (List α)) : Ordering :=
  match this, other with
  | none, none => .eq
  | none, some _ => .gt
  | some _, none => .lt
  | some this, some other => Ord.compare other.length this.length

def HTTPMethod.discriminant : HTTPMethod → Nat
  | .get => 0
  | .head => 1
  | .post => 2
  | .put => 3
  | .delete => 4
  | .connect => 5
  | .options => 6
  | .trace => 7
  | .patch => 8

def HttpRouteRulesMatchesPathType.discriminant : HttpRouteRulesMatchesPathType → Nat
  | .exact => 0
  | .pathPrefix => 1
  | .regularExpression => 2

namespace HTTPEffectiveRoutingRule

def headerMatching (this other : RouteMatch) : Ordering :=
  Comparator.compare this.headers other.headers

/-- `query_matching`, which looks at the headers too. -/
def queryMatching (this other : RouteMatch) : Ordering :=
  Comparator.compare this.headers other.headers

def methodMatching (this other : RouteMatch) : Ordering :=
  match this.method, other.method with
  | none, none => .eq
  | none, some _ => .gt
  | some _, none => .lt
  | some thisMethod, some otherMethod => compare thisMethod.discriminant otherMethod.discriminant

def pathMatching (this other : RouteMatch) : Ordering :=
  match this.path, other.path with
  | none, none => .eq
  | none, some _ => .gt
  | some _, none => .lt
  | some thisPath, some otherPath =>
    match thisPath.type, otherPath.type with
    | none, none => compare thisPath.value otherPath.value
    | none, some _ => .lt
    | some _, none => .gt
    | some thisType, some otherType =>
      match compare thisType.discriminant otherType.discriminant with
      | .eq =>
        match thisPath.value, otherPath.value with
        | none, none => .eq
        | none, some _ => .gt
        | some _, none => .lt
        | some thisValue, some otherValue => compare otherValue.utf8ByteSize thisValue.utf8ByteSize
      | result => result

/-- `HTTPEffectiveRoutingRule::compare_matching`. -/
def compareMatching (this other : RouteMatch) : Ordering :=
  match queryMatching this other with
  | .eq =>
    match headerMatching this other with
    | .eq =>
      match pathMatching this other with
      | .eq => methodMatching this other
      | result => result
    | result => result
  | result => result

end HTTPEffectiveRoutingRule

namespace GRPCEffectiveRoutingRule

def headerMatching (this other : GrpcRouteMatch) : Ordering :=
  Comparator.compare this.headers other.headers

def methodMatching (this other : GrpcRouteMatch) : Ordering :=
  match this.method, other.method with
  | none, none => .eq
  | none, some _ => .gt
  | some _, none => .lt
  | some thisMethod, some otherMethod =>
    match compare thisMethod.method otherMethod.method with
    | .eq => compare thisMethod.service otherMethod.service
    | result => result

/-- `GRPCEffectiveRoutingRule::compare_matching`. -/
def compareMatching (this other : GrpcRouteMatch) : Ordering :=
  match headerMatching this other with
  | .eq => methodMatching this other
  | result => result

end GRPCEffectiveRoutingRule

/-! ## The rules of a listener -/

namespace Listener

/-- The routes attached to a listener, the resolved ones first. -/
def attached (l : Listener) : List Route := l.routes.1 ++ l.routes.2

/-- `Listener::http_matching_rules`. -/
def httpMatchingRules (l : Listener) : List HTTPEffectiveRoutingRule :=
  let matchingRules := l.attached.flatMap fun r =>
    match r.routeType with
    | .http routingRules => l.createHttpEffectiveRoute r.hostnames routingRules
    | .grpc _ => []
  matchingRules.mergeSort fun this other =>
    (HTTPEffectiveRoutingRule.compareMatching this.routeMatcher other.routeMatcher).isLE

/-- `Listener::grpc_matching_rules`. -/
def grpcMatchingRules (l : Listener) : List GRPCEffectiveRoutingRule :=
  let matchingRules := l.attached.flatMap fun r =>
    match r.routeType with
    | .http _ => []
    | .grpc routingRules => createGrpcEffectiveRoute r.hostnames routingRules
  matchingRules.mergeSort fun this other =>
    (GRPCEffectiveRoutingRule.compareMatching this.routeMatcher other.routeMatcher).isLE

end Listener

variable {l : Listener}

theorem HTTPRoutingRule.matchers_ne_nil (rule : HTTPRoutingRule) : rule.matchers ≠ [] := by
  unfold matchers
  split
  · exact List.cons_ne_nil _ _
  · rename_i h
    exact fun h' => h (List.isEmpty_iff.2 h')

theorem GRPCRoutingRule.matchers_ne_nil (rule : GRPCRoutingRule) : rule.matchers ≠ [] := by
  unfold matchers
  split
  · exact List.cons_ne_nil _ _
  · rename_i h
    exact fun h' => h (List.isEmpty_iff.2 h')

/-- The effective rules of a listener are those of its HTTP routes, one for each match. -/
theorem mem_httpMatchingRules {em : HTTPEffectiveRoutingRule} :
    em ∈ l.httpMatchingRules ↔ ∃ r ∈ l.attached, ∃ routingRules, r.routeType = .http routingRules ∧
      ∃ rule ∈ routingRules, ∃ matcher ∈ rule.matchers, em = l.httpEffectiveRule r.hostnames rule matcher := by
  simp only [Listener.httpMatchingRules, List.mem_mergeSort, List.mem_flatMap]
  refine exists_congr fun r => and_congr_right fun _ => ?_
  cases r.routeType with
  | http routingRules =>
    simp only [Listener.createHttpEffectiveRoute, List.mem_flatMap, List.mem_map,
      RouteType.http.injEq, exists_eq_left', eq_comm]
  | grpc routingRules => simp

theorem mem_grpcMatchingRules {em : GRPCEffectiveRoutingRule} :
    em ∈ l.grpcMatchingRules ↔ ∃ r ∈ l.attached, ∃ routingRules, r.routeType = .grpc routingRules ∧
      ∃ rule ∈ routingRules, ∃ matcher ∈ rule.matchers, em = rule.effectiveRule r.hostnames matcher := by
  simp only [Listener.grpcMatchingRules, List.mem_mergeSort, List.mem_flatMap]
  refine exists_congr fun r => and_congr_right fun _ => ?_
  cases r.routeType with
  | http routingRules => simp
  | grpc routingRules =>
    simp only [createGrpcEffectiveRoute, List.mem_flatMap, List.mem_map, RouteType.grpc.injEq,
      exists_eq_left', eq_comm]

end Kubvernor
