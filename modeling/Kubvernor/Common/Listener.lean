import Kubvernor.Common.Route

/-!
# Listeners

A listener of a Gateway object as Kubernetes admits it (`KubeListener`: any protocol string, any or
no TLS mode) and the controller's own `Listener`, into which `Listener.tryFrom` converts it.
-/

namespace Kubvernor

/-! ## Listeners of the Gateway API -/

inductive TlsMode
  | passthrough
  | terminate
deriving DecidableEq, Repr

/-- A certificate reference of a listener. -/
structure CertificateRef where
  group : Option String := none
  kind : Option String := none
  name : String
  ns : Option String := none
deriving DecidableEq, Repr

structure KubeListenerTls where
  mode : Option TlsMode := none
  certificateRefs : Option (List CertificateRef) := none
deriving DecidableEq, Repr

inductive AllowedRoutesNamespacesFrom
  | all
  | selector
  | same
deriving DecidableEq, Repr

structure LabelSelector where
  matchLabels : Option (List (String × String)) := none
deriving DecidableEq, Repr

/-- The namespaces routes may come from; `selectorType` is the source's field `from`. -/
structure AllowedRoutesNamespaces where
  selectorType : Option AllowedRoutesNamespacesFrom := none
  selector : Option LabelSelector := none
deriving DecidableEq, Repr

/-- `Listeners` of the Gateway API; `allowedKinds` and `allowedNamespaces` are what its allowed
routes list, if anything. -/
structure KubeListener where
  name : String
  port : Int
  protocol : String
  hostname : Option String := none
  tls : Option KubeListenerTls := none
  allowedKinds : Option (List String) := none
  allowedNamespaces : Option AllowedRoutesNamespaces := none
deriving DecidableEq, Repr

/-! ## The controller's listeners -/

structure KeyData where
  cert : List UInt8
  privateKey : List UInt8
  root : Option (List UInt8) := none
deriving DecidableEq, Repr

inductive Certificate
  | resolvedSameSpace (key : ResourceKey) (data : KeyData)
  | resolvedCrossSpace (key : ResourceKey) (data : KeyData)
  | notResolved (key : ResourceKey)
  | invalid (key : ResourceKey)
deriving DecidableEq, Repr

inductive TlsType
  | terminate (certificates : List Certificate)
  | passthrough
deriving DecidableEq, Repr

inductive ResolvedRefs
  | resolved (routes : List String)
  | resolvedWithNotAllowedRoutes (routes : List String)
  | invalidAllowedRoutes
  | invalidCertificates (routes : List String)
  | invalidBackend (routes : List String)
  | refNotPermitted (routes : List String)
deriving DecidableEq, Repr

inductive ListenerCondition
  | resolvedRefs (refs : ResolvedRefs)
  | unresolvedRouteRefs
  | accepted
  | notAccepted
  | programmed
  | notProgrammed
deriving DecidableEq, Repr

/-- The discriminant that conditions are ordered by: a set holds one condition for each. -/
def ListenerCondition.discriminant : ListenerCondition → Nat
  | .resolvedRefs _ => 0
  | .accepted | .notAccepted => 1
  | .programmed | .notProgrammed => 2
  | .unresolvedRouteRefs => 3

/-- `BTreeSet<ListenerCondition>`. -/
abbrev ListenerConditions := Std.ExtTreeMap Nat ListenerCondition

/-- `BTreeSet::replace`. -/
def ListenerConditions.replace (s : ListenerConditions) (c : ListenerCondition) : ListenerConditions :=
  s.insert c.discriminant c

structure ListenerConfig where
  name : String
  port : Int
  hostname : Option String := none
  tlsType : Option TlsType := none
deriving DecidableEq, Repr

structure ListenerData where
  config : ListenerConfig
  conditions : ListenerConditions := ∅
  resolvedRoutes : RouteSet := ∅
  unresolvedRoutes : RouteSet := ∅
  attachedRoutes : Nat := 0

inductive ProtocolType
  | http | https | tls | tcp | udp
deriving DecidableEq, Repr

/-- `Listener`: its data under the protocol it speaks. -/
structure Listener where
  protocol : ProtocolType
  data : ListenerData

namespace Listener

def name (l : Listener) : String := l.data.config.name
def port (l : Listener) : Int := l.data.config.port
def hostname (l : Listener) : Option String := l.data.config.hostname

/-- `Listener::routes`: the resolved and the unresolved routes. -/
def routes (l : Listener) : List Route × List Route :=
  (l.data.resolvedRoutes.routes, l.data.unresolvedRoutes.routes)

end Listener

/-! ## Conversion -/

def APPROVED_ROUTES : List String := ["GRPCRoute", "HTTPRoute", "TCPRoute"]

/-- `validate_allowed_routes`. -/
def validateAllowedRoutes (l : KubeListener) : ListenerCondition :=
  match l.allowedKinds with
  | some kinds =>
    let supported := kinds.filter (· ∈ APPROVED_ROUTES)
    let invalid := kinds.filter (· ∉ APPROVED_ROUTES)
    match supported.isEmpty, invalid.isEmpty with
    | _, true => .resolvedRefs (.resolved supported)
    | true, false => .resolvedRefs .invalidAllowedRoutes
    | false, false => .resolvedRefs (.resolvedWithNotAllowedRoutes supported)
  | none =>
    if l.protocol = "HTTP" ∨ l.protocol = "HTTPS" then .resolvedRefs (.resolved ["HTTPRoute", "GRPCRoute"])
    else .resolvedRefs (.resolved [])

inductive ListenerError
  | unknownProtocol (protocol : String)
  | unknownTlsMode
deriving DecidableEq, Repr

/-- The key of a certificate reference. -/
def CertificateRef.resourceKey (r : CertificateRef) : ResourceKey where
  group := r.group.getD DEFAULT_GROUP_NAME
  ns := r.ns.getD DEFAULT_NAMESPACE_NAME
  name := r.name
  kind := r.kind.getD DEFAULT_KIND_NAME

/-- The TLS part of `Listener::try_from`. -/
def TlsType.tryFrom (tls : KubeListenerTls) : Except ListenerError TlsType :=
  match tls.mode with
  | some .passthrough => .ok .passthrough
  | some .terminate => .ok (.terminate ((tls.certificateRefs.getD []).map fun r => .notResolved r.resourceKey))
  | none => .error .unknownTlsMode

/-- The protocols `Listener::try_from` knows, spelled exactly so. -/
def ProtocolType.tryFrom (protocol : String) : Except ListenerError ProtocolType :=
  match protocol with
  | "HTTP" => .ok .http
  | "HTTPS" => .ok .https
  | "TCP" => .ok .tcp
  | "TLS" => .ok .tls
  | "UDP" => .ok .udp
  | protocol => .error (.unknownProtocol protocol)

/-- `Listener::try_from`. -/
def Listener.tryFrom (l : KubeListener) : Except ListenerError Listener := do
  let tlsType ← l.tls.mapM TlsType.tryFrom
  let data : ListenerData :=
    { config := { name := l.name, port := l.port, hostname := l.hostname, tlsType := tlsType }
      conditions := ListenerConditions.replace ∅ (validateAllowedRoutes l) }
  let protocol ← ProtocolType.tryFrom l.protocol
  return { protocol := protocol, data := data }

/-- A listener is converted if its protocol and its TLS part are. -/
theorem Listener.exists_of_tryFrom {kl : KubeListener} {l : Listener} (h : Listener.tryFrom kl = .ok l) :
    ∃ tlsType protocol, kl.tls.mapM TlsType.tryFrom = .ok tlsType ∧ ProtocolType.tryFrom kl.protocol = .ok protocol ∧
      l = { protocol := protocol
            data :=
              { config := { name := kl.name, port := kl.port, hostname := kl.hostname, tlsType := tlsType }
                conditions := ListenerConditions.replace ∅ (validateAllowedRoutes kl) } } := by
  unfold tryFrom at h
  cases htls : kl.tls.mapM TlsType.tryFrom with
  | error e =>
    rw [htls] at h
    cases h
  | ok tlsType =>
    rw [htls] at h
    cases hp : ProtocolType.tryFrom kl.protocol with
    | error e =>
      rw [hp] at h
      cases h
    | ok protocol =>
      rw [hp] at h
      exact ⟨tlsType, protocol, rfl, rfl, (Except.ok.inj h).symm⟩

/-- What a listener is converted into: one condition, and no routes yet. -/
theorem Listener.eq_of_tryFrom {kl : KubeListener} {l : Listener} (h : Listener.tryFrom kl = .ok l) :
    ∃ tlsType, kl.tls.mapM TlsType.tryFrom = .ok tlsType ∧
      l.data = { config := { name := kl.name, port := kl.port, hostname := kl.hostname, tlsType := tlsType }
                 conditions := ListenerConditions.replace ∅ (validateAllowedRoutes kl) } := by
  obtain ⟨tlsType, protocol, htls, -, rfl⟩ := exists_of_tryFrom h
  exact ⟨tlsType, htls, rfl⟩

theorem Listener.protocol_of_tryFrom {kl : KubeListener} {l : Listener} (h : Listener.tryFrom kl = .ok l) :
    ProtocolType.tryFrom kl.protocol = .ok l.protocol := by
  obtain ⟨tlsType, protocol, -, hprotocol, rfl⟩ := exists_of_tryFrom h
  exact hprotocol

end Kubvernor
