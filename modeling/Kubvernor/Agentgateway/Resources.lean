import Kubvernor.Common.Gateway

/-!
# The resources of an agentgateway

The messages an agentgateway is configured with, as far as the controller fills them in: fields that
always have their default are left out.
-/

namespace Kubvernor.Agentgateway.Api

/-! ## Binds and listeners -/

/-- `bind::Protocol`. -/
inductive BindProtocol
  | http
  | tls
  | tcp
deriving DecidableEq, Repr

inductive TunnelProtocol
  | direct
deriving DecidableEq, Repr

structure Bind where
  key : String
  port : Nat
  protocol : BindProtocol
  tunnelProtocol : TunnelProtocol
deriving DecidableEq, Repr

namespace Bind

/-- The fields in the order the derived comparison looks at them. -/
def sortKey (b : Bind) : String ×ₗ Nat ×ₗ Nat ×ₗ Nat :=
  toLex (b.key, toLex (b.port, toLex (b.protocol.ctorIdx, b.tunnelProtocol.ctorIdx)))

theorem sortKey_injective : Function.Injective sortKey := by
  rintro ⟨k, n, p, t⟩ ⟨k', n', p', t'⟩ h
  simp only [sortKey, EmbeddingLike.apply_eq_iff_eq, Prod.mk.injEq] at h
  obtain ⟨rfl, rfl, hp, -⟩ := h
  cases p <;> cases p' <;> first | rfl | cases hp

instance : LinearOrder Bind := LinearOrder.lift' sortKey sortKey_injective

instance : Std.LawfulEqOrd Bind := ⟨compare_eq_iff_eq.1⟩

instance : Std.TransOrd Bind := inferInstance

end Bind

structure TlsConfig where
  cert : List UInt8
  privateKey : List UInt8
  root : Option (List UInt8) := none
deriving DecidableEq, Repr

structure ListenerName where
  gatewayName : String
  gatewayNamespace : String
  listenerName : String
deriving DecidableEq, Repr

structure Listener where
  key : String
  name : ListenerName
  bindKey : String
  hostname : String
  protocol : Int
  tls : Option TlsConfig
deriving DecidableEq, Repr

/-! ## Matches -/

inductive PathMatch
  | exact (value : String)
  | pathPrefix (value : String)
  | regex (value : String)
deriving DecidableEq, Repr

/-- `header_match::Value` and `query_match::Value`. -/
inductive MatchValue
  | exact (value : String)
  | regex (value : String)
deriving DecidableEq, Repr

/-- `HeaderMatch` and `QueryMatch`. -/
structure HeaderMatch where
  name : String
  value : Option MatchValue
deriving DecidableEq, Repr

structure MethodMatch where
  exact : String
deriving DecidableEq, Repr

structure RouteMatch where
  path : Option PathMatch
  headers : List HeaderMatch
  method : Option MethodMatch
  queryParams : List HeaderMatch
deriving DecidableEq, Repr

/-! ## Backends and policies of routes -/

/-- `backend_reference::Kind`. -/
inductive BackendReferenceKind
  | backend (key : String)
  | service (ns hostname : String)
deriving DecidableEq, Repr

structure BackendReference where
  port : Nat
  kind : BackendReferenceKind
deriving DecidableEq, Repr

structure RouteBackend where
  backend : BackendReference
  weight : Int
deriving DecidableEq, Repr

structure Header where
  name : String
  value : String
deriving DecidableEq, Repr

structure HeaderModifier where
  add : List Header
  set : List Header
  remove : List String
deriving DecidableEq, Repr

/-- `request_redirect::Path` and `url_rewrite::Path`. -/
inductive ReplacePath
  | full (path : String)
  | pathPrefix (path : String)
deriving DecidableEq, Repr

structure UrlRewrite where
  host : String
  path : Option ReplacePath
deriving DecidableEq, Repr

structure RequestRedirect where
  scheme : String
  host : String
  port : Nat
  status : Nat
  path : Option ReplacePath
deriving DecidableEq, Repr

/-- The floating point numbers a percentage may be: a whole number, or a hundred times a quotient. -/
inductive Percentage
  | whole (percent : Int)
  | quotient (numerator denominator : Int)
deriving DecidableEq, Repr

structure Mirror where
  backend : Option BackendReference
  percentage : Percentage
deriving DecidableEq, Repr

/-- The kinds of a `TrafficPolicySpec`; hosts are not rewritten in the one mode that is used. -/
inductive TrafficPolicySpec
  | urlRewrite (urlRewrite : UrlRewrite)
  | requestRedirect (redirect : RequestRedirect)
  | requestHeaderModifier (modifier : HeaderModifier)
  | responseHeaderModifier (modifier : HeaderModifier)
  | requestMirror (mirrors : List Mirror)
  | hostRewriteNone
deriving DecidableEq, Repr

structure RouteName where
  kind : String
  name : String
  ns : String
  ruleName : Option String
deriving DecidableEq, Repr

structure Route where
  key : String
  name : RouteName
  listenerKey : String
  hostnames : List String
  routeMatches : List RouteMatch
  backends : List RouteBackend
  trafficPolicies : List TrafficPolicySpec
deriving DecidableEq, Repr

/-! ## Backends, policies and services -/

structure ResourceName where
  name : String
  ns : String
deriving DecidableEq, Repr

structure StaticBackend where
  host : String
  port : Int
deriving DecidableEq, Repr

inductive FailureMode
  | unknown
  | failOpen
  | failClosed
deriving DecidableEq, Repr

/-- The kinds of a `BackendPolicySpec`, with the one TLS mode and the one HTTP version that are used. -/
inductive BackendPolicySpec
  | inferenceRouting (endpointPicker : Option BackendReference) (failureMode : FailureMode)
  | backendTlsInsecureAll
  | backendHttp2
deriving DecidableEq, Repr

structure Backend where
  key : String
  name : ResourceName
  kind : StaticBackend
  inlinePolicies : List BackendPolicySpec
deriving DecidableEq, Repr

structure TypedResourceName where
  name : String
  ns : String
  kind : String
deriving DecidableEq, Repr

structure ServiceTarget where
  ns : String
  hostname : String
deriving DecidableEq, Repr

structure Policy where
  key : String
  name : TypedResourceName
  kind : BackendPolicySpec
  target : ServiceTarget
deriving DecidableEq, Repr

structure Port where
  servicePort : Nat
  targetPort : Nat
deriving DecidableEq, Repr

/-- `LoadBalancing`, with the number of its health policy. -/
structure LoadBalancing where
  healthPolicy : Nat
deriving DecidableEq, Repr

/-- `workload::Service`; an address is given by its bytes. -/
structure Service where
  name : String
  ns : String
  hostname : String
  ports : List Port := []
  addresses : List (List UInt8) := []
  loadBalancing : Option LoadBalancing := none
deriving DecidableEq, Repr

end Kubvernor.Agentgateway.Api
