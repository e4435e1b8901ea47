import Kubvernor.Controllers.CertificateRefs
import Kubvernor.Controllers.SettledSecrets

/-!
# Certificate references and their defaults

What a certificate reference leaves out is filled in without the gateway at hand: the namespace is the default
one, the kind is Gateway. So a reference without a namespace only finds its secret if the gateway is in the
default namespace, and one without a kind is not granted what a grant for secrets allows
(`certificates_default_iff`). A group that is left out does no harm: the grants resolver takes the empty group
for the default one.
-/

namespace Kubvernor

open Lib

/-! ## What becomes of the certificates -/

/-- A certificate, but the group and the kind of its key. -/
def Certificate.withoutKind : Certificate → Certificate
  | .resolvedSameSpace k data => .resolvedSameSpace (.namespaced k.name k.ns) data
  | .resolvedCrossSpace k data => .resolvedCrossSpace (.namespaced k.name k.ns) data
  | .notResolved k => .notResolved (.namespaced k.name k.ns)
  | .invalid k => .invalid (.namespaced k.name k.ns)

def TlsType.withoutKinds : TlsType → TlsType
  | .terminate certificates => .terminate (certificates.map Certificate.withoutKind)
  | .passthrough => .passthrough

def Listener.withoutKinds (l : Listener) : Listener :=
  { l with data := { l.data with
      config := { l.data.config with tlsType := l.data.config.tlsType.map TlsType.withoutKinds } } }

/-- A gateway, but the groups and kinds in the keys of its certificates. -/
def Gateway.withoutKinds (g : Gateway) : Gateway :=
  { g with listeners := g.listeners.map fun _ l => l.withoutKinds }

/-- The gateway has the secret of this namespace and name polled. -/
def Gateway.PollsSecret (gw : Gateway) (ns name : String) : Prop := ∃ k ∈ gw.secretReferences, k.ns = ns ∧ k.name = name

/-- Two gateways are treated alike, whatever the cluster has: the same secrets are polled, and the same becomes
of the certificates and of what the listeners say about them. -/
structure Gateway.CertificatesAlike (isIpAddr : String → Bool) (routes : RouteStores) (gw gw' : Gateway) : Prop where
  polled : ∀ ns name, gw'.PollsSecret ns name ↔ gw.PollsSecret ns name
  validated : ∀ cluster : SecretCluster,
    ((ListenerTlsConfigValidator.settled cluster isIpAddr routes gw').validate gw').withoutKinds =
      ((ListenerTlsConfigValidator.settled cluster isIpAddr routes gw).validate gw).withoutKinds

theorem TlsType.map_withoutKinds {Q : CertificateRef → Prop} {tlsType tlsType' : Option TlsType}
    (h : Option.Rel (TlsType.Spells Q) tlsType tlsType') :
    tlsType'.map TlsType.withoutKinds = tlsType.map TlsType.withoutKinds := by
  cases h with
  | none => rfl
  | some hspells =>
    cases hspells with
    | passthrough => rfl
    | terminate hrefs =>
      simp only [Option.map_some, TlsType.withoutKinds, List.map_map]
      rw [map_eq_of_forall₂ (fun r r' hr => ?_) hrefs]
      obtain ⟨hns, hname⟩ := hr.2.address
      simp only [Function.comp_apply, Certificate.withoutKind, hns, hname]

/-! ## Validating them -/

namespace ListenerTlsConfigValidator

variable {v : ListenerTlsConfigValidator} {gatewayKey : GatewayKey}

/-- The key matters for what is found under it, and for whether it is allowed outside of the gateway's namespace. -/
theorem validateCertificate_withoutKind {k k' : ResourceKey} (hns : k'.ns = k.ns) (hname : k'.name = k.name)
    (href : v.getReference k' = v.getReference k)
    (hallowed : gatewayKey.ns = k.ns ∨ v.isAllowed gatewayKey k' gatewayKey = v.isAllowed gatewayKey k gatewayKey)
    (supportedRoutes : List String) :
    ((v.validateCertificate gatewayKey supportedRoutes (.notResolved k')).1.withoutKind,
        (v.validateCertificate gatewayKey supportedRoutes (.notResolved k')).2) =
      ((v.validateCertificate gatewayKey supportedRoutes (.notResolved k)).1.withoutKind,
        (v.validateCertificate gatewayKey supportedRoutes (.notResolved k)).2) := by
  have hpermitted : (v.isAllowed gatewayKey k' gatewayKey || decide (gatewayKey.ns = k.ns)) =
      (v.isAllowed gatewayKey k gatewayKey || decide (gatewayKey.ns = k.ns)) := by
    rcases hallowed with hsame | hallowed
    · rw [decide_eq_true hsame, Bool.or_true, Bool.or_true]
    · rw [hallowed]
  have hkey : ResourceKey.namespaced k'.name k'.ns = .namespaced k.name k.ns := by rw [hns, hname]
  unfold validateCertificate
  dsimp +instances only [Certificate.resourceKey]
  simp only [href, hns, hpermitted]
  cases v.getReference k with
  | none => simp only [Certificate.withoutKind, hkey]
  | some secret =>
    by_cases hallow : (v.isAllowed gatewayKey k gatewayKey || decide (gatewayKey.ns = k.ns)) = true
    · by_cases htype : secret.type = some TLS_SECRET_TYPE
      · simp only [hallow, htype, if_true]
        cases secret.data with
        | none => simp only [Certificate.withoutKind, hkey]
        | some data =>
          simp only
          cases data["tls.key"]? with
          | none => simp only [Certificate.withoutKind, hkey]
          | some key =>
            cases data["tls.crt"]? with
            | none => simp only [Certificate.withoutKind, hkey]
            | some cert =>
              simp only
              cases v.certificateFromPem cert <;> cases v.privateKeyFromPem key <;>
                simp only [Certificate.withoutKind, hkey]
              by_cases hspace : gatewayKey.ns = k.ns
              · simp only [if_pos hspace, Certificate.resolve, Certificate.resourceKey, hkey]
              · simp only [if_neg hspace, Certificate.resolveCrossSpace, Certificate.resourceKey, hkey]
      · simp only [hallow, if_true, if_neg htype, Certificate.withoutKind, hkey]
    · by_cases hspace : decide (gatewayKey.ns = k.ns) = true
      · exact absurd (by rw [hspace, Bool.or_true]) hallow
      · simp only [if_neg hallow, if_neg hspace, Certificate.withoutKind, hkey]

/-- Lists of certificates of which the same becomes one by one. -/
theorem validateCertificates_withoutKind {supportedRoutes : List String} {rs rs' : List CertificateRef}
    (h : List.Forall₂ (fun r r' =>
      ((v.validateCertificate gatewayKey supportedRoutes (.notResolved r'.resourceKey)).1.withoutKind,
          (v.validateCertificate gatewayKey supportedRoutes (.notResolved r'.resourceKey)).2) =
        ((v.validateCertificate gatewayKey supportedRoutes (.notResolved r.resourceKey)).1.withoutKind,
          (v.validateCertificate gatewayKey supportedRoutes (.notResolved r.resourceKey)).2)) rs rs')
    (conditions : ListenerConditions) :
    let certificates (rs : List CertificateRef) := rs.map fun r => Certificate.notResolved r.resourceKey
    (v.validateCertificates gatewayKey supportedRoutes (certificates rs') conditions).1.map Certificate.withoutKind =
        (v.validateCertificates gatewayKey supportedRoutes (certificates rs) conditions).1.map Certificate.withoutKind ∧
      (v.validateCertificates gatewayKey supportedRoutes (certificates rs') conditions).2 =
        (v.validateCertificates gatewayKey supportedRoutes (certificates rs) conditions).2 := by
  induction h generalizing conditions with
  | nil => exact ⟨rfl, rfl⟩
  | cons hr _ ih =>
    obtain ⟨hcertificate, hrefs⟩ := Prod.mk.inj hr
    simp only [List.map_cons, validateCertificates, hcertificate, hrefs]
    exact ⟨congrArg _ (ih _).1, (ih _).2⟩

/-- What is left of the kinds of a reference: the grants for it are the same, or it is to a secret of the
gateway's own namespace. -/
theorem validateCertificate_spells (cluster : SecretCluster) {r r' : CertificateRef} (hs : r.Spells r')
    (hkind : r.kind = none → r.resourceKey.ns = gatewayKey.ns) (supportedRoutes : List String) :
    (((direct cluster).validateCertificate gatewayKey supportedRoutes (.notResolved r'.resourceKey)).1.withoutKind,
        ((direct cluster).validateCertificate gatewayKey supportedRoutes (.notResolved r'.resourceKey)).2) =
      (((direct cluster).validateCertificate gatewayKey supportedRoutes (.notResolved r.resourceKey)).1.withoutKind,
        ((direct cluster).validateCertificate gatewayKey supportedRoutes (.notResolved r.resourceKey)).2) := by
  obtain ⟨hns, hname⟩ := hs.address
  refine validateCertificate_withoutKind hns hname (by simp only [direct, hns, hname]) ?_ supportedRoutes
  obtain ⟨group, kind, hgroup, hspelled, rfl⟩ := hs
  rcases hspelled with rfl | ⟨hnone, -⟩
  · refine .inr ?_
    have htarget : ToResourceKey.ofKey { r with group := group }.resourceKey = .ofKey r.resourceKey := by
      rcases hgroup with rfl | ⟨hnone, rfl⟩
      · rfl
      · simp only [CertificateRef.resourceKey, hnone, ToResourceKey.ofKey, Option.getD_some, Option.getD_none]
        rfl
    have hgrants : ReferenceGrantsResolver.GrantsFor cluster.grants gatewayKey { r with group := group }.resourceKey =
        ReferenceGrantsResolver.GrantsFor cluster.grants gatewayKey r.resourceKey := by
      unfold ReferenceGrantsResolver.GrantsFor
      rw [htarget]
      rfl
    exact congrArg (fun p => @decide p (Classical.propDecidable p)) hgrants
  · exact .inl (hkind hnone).symm

/-- A listener and one with references written out. -/
theorem validateListener_spells (cluster : SecretCluster) {l : Listener} {tlsType' : Option TlsType}
    {Q : CertificateRef → Prop} (h : Option.Rel (TlsType.Spells Q) l.data.config.tlsType tlsType')
    (hQ : l.IsTls → ∀ r, Q r → r.kind = none → r.resourceKey.ns = gatewayKey.ns) :
    ((direct cluster).validateListener gatewayKey (l.withTlsType tlsType')).withoutKinds =
      ((direct cluster).validateListener gatewayKey l).withoutKinds := by
  unfold validateListener
  by_cases htls : l.IsTls
  · have htls' : (l.withTlsType tlsType').IsTls := htls
    rw [if_pos htls, if_pos htls']
    simp only [Listener.withTlsType]
    cases htype : l.data.config.tlsType with
    | none =>
      rw [htype] at h
      cases h
      rw [Listener.withoutKinds, Listener.withoutKinds, htype]
    | some t =>
      rw [htype] at h
      cases h with
      | some hspells =>
        cases hspells with
        | passthrough => rw [Listener.withoutKinds, Listener.withoutKinds, htype]
        | terminate hrefs =>
          obtain ⟨hcertificates, hconditions⟩ := validateCertificates_withoutKind (hrefs.imp fun r r' hr =>
            validateCertificate_spells cluster hr.2 (hQ htls r hr.1) _) l.data.conditions
          simp only [Listener.withoutKinds, Option.map_some, TlsType.withoutKinds]
          rw [hcertificates, hconditions]
  · have htls' : ¬ (l.withTlsType tlsType').IsTls := htls
    rw [if_neg htls, if_neg htls']
    simp only [Listener.withTlsType, Listener.withoutKinds, TlsType.map_withoutKinds h]

end ListenerTlsConfigValidator

section

variable {parseUuid : String → Option Uuid} {g g' : KubeGateway} {t : GatewayImplementationType} {gw gw' : Gateway}
variable {isIpAddr : String → Bool} {routes : RouteStores}

open ListenerTlsConfigValidator

theorem KubeGateway.Spells.exists_tryFrom (hs : g.Spells g') (h : Gateway.tryFrom parseUuid g t = .ok gw) :
    ∃ gw', Gateway.tryFrom parseUuid g' t = .ok gw' := by
  obtain ⟨listeners, hlisteners, rfl⟩ := hs
  obtain ⟨huid, hall⟩ := Gateway.tryFrom_isOk.1 (by rw [h]; rfl : (Gateway.tryFrom parseUuid g t).isOk)
  have hok : (Gateway.tryFrom parseUuid { g with spec := { g.spec with listeners := listeners } } t).isOk := by
    refine Gateway.tryFrom_isOk.2 ⟨huid, fun kl' hkl' => ?_⟩
    obtain ⟨kl, hkl, hspells⟩ := exists_of_forall₂_right hlisteners hkl'
    cases hconv : Listener.tryFrom kl with
    | error e =>
      have hkl := hall kl hkl
      rw [hconv] at hkl
      cases hkl
    | ok l =>
      obtain ⟨tlsType', hok, -⟩ := Listener.tryFrom_spells hspells hconv
      rw [hok]
      rfl
  cases hconv : Gateway.tryFrom parseUuid { g with spec := { g.spec with listeners := listeners } } t with
  | error e =>
    rw [hconv] at hok
    cases hok
  | ok gw' => exact ⟨gw', rfl⟩

theorem KubeGateway.Spells.certificateRefs (hs : g.Spells g') (address : String × String) :
    (∃ r ∈ g'.certificateRefs, (r.resourceKey.ns, r.resourceKey.name) = address) ↔
      ∃ r ∈ g.certificateRefs, (r.resourceKey.ns, r.resourceKey.name) = address := by
  obtain ⟨listeners, hlisteners, rfl⟩ := hs
  have hkl (kl kl' : KubeListener) (hkl : kl.Spells kl') :
      kl'.certificateRefs.map (fun r => (r.resourceKey.ns, r.resourceKey.name)) =
        kl.certificateRefs.map fun r => (r.resourceKey.ns, r.resourceKey.name) := by
    obtain ⟨tls, hrel, rfl⟩ := hkl
    unfold KubeListener.certificateRefs
    by_cases hprotocol : kl.protocol = "HTTPS" ∨ kl.protocol = "TLS"
    · rw [if_pos hprotocol, if_pos hprotocol]
      cases hkl : kl.tls with
      | none =>
        rw [hkl] at hrel
        cases hrel
        rfl
      | some tls₀ =>
        rw [hkl] at hrel
        cases hrel with
        | some hspells =>
          obtain ⟨refs, hrefs, rfl⟩ := hspells
          simp only
          split
          · refine map_eq_of_forall₂ (fun r r' hr => ?_) (forall₂_getD hrefs)
            rw [hr.address.1, hr.address.2]
          · rfl
    · rw [if_neg hprotocol, if_neg hprotocol]
  have hlists : listeners.map (fun kl => kl.certificateRefs.map fun r => (r.resourceKey.ns, r.resourceKey.name)) =
      g.spec.listeners.map fun kl => kl.certificateRefs.map fun r => (r.resourceKey.ns, r.resourceKey.name) :=
    map_eq_of_forall₂ hkl hlisteners
  simp only [KubeGateway.certificateRefs, ← List.mem_map, List.map_flatMap]
  rw [List.flatMap_def, List.flatMap_def, hlists]

/-- Without a kind only secrets of the gateway's own namespace are referred to. -/
def KubeGateway.KindsFit (g : KubeGateway) : Prop :=
  ∀ r ∈ g.certificateRefs, r.kind = none → r.resourceKey.ns = g.resourceKey.ns

/-- Then it makes no difference to write out what is left out. -/
theorem KubeGateway.KindsFit.alike (hkinds : g.KindsFit) (h : Gateway.tryFrom parseUuid g t = .ok gw)
    (hnames : (g.spec.listeners.map (·.name)).Nodup) (hs : g.Spells g')
    (h' : Gateway.tryFrom parseUuid g' t = .ok gw') : gw.CertificatesAlike isIpAddr routes gw' where
  polled ns name := by
    have hpolls {g : KubeGateway} {gw : Gateway} (h : Gateway.tryFrom parseUuid g t = .ok gw)
        (hnames : (g.spec.listeners.map (·.name)).Nodup) : gw.PollsSecret ns name ↔
        ∃ r ∈ g.certificateRefs, (r.resourceKey.ns, r.resourceKey.name) = (ns, name) := by
      unfold Gateway.PollsSecret
      simp only [(Gateway.oneKey h hnames).polled, List.mem_map, Prod.mk.injEq]
      constructor
      · rintro ⟨k, ⟨r, hr, rfl⟩, haddress⟩
        exact ⟨r, hr, haddress⟩
      · rintro ⟨r, hr, haddress⟩
        exact ⟨_, ⟨r, hr, rfl⟩, haddress⟩
    rw [hpolls h hnames, hpolls h' (by rwa [hs.names]), hs.certificateRefs]
  validated cluster := by
    rw [validate_settled, validate_settled]
    have hgw := Gateway.eq_of_spells hs h h'
    have hkey := (Gateway.tryFrom_key h).1
    have hlisteners : (gw'.listeners.map fun _ l => ((direct cluster).validateListener gw.resourceKey l).withoutKinds) =
        gw.listeners.map fun _ l => ((direct cluster).validateListener gw.resourceKey l).withoutKinds := by
      apply Std.ExtTreeMap.ext_getElem?
      intro name
      rw [Std.ExtTreeMap.getElem?_map, Std.ExtTreeMap.getElem?_map]
      have hrel := Gateway.rel_listeners hs h h' hnames name
      generalize gw.listeners[name]? = l at hrel
      generalize gw'.listeners[name]? = l' at hrel
      cases hrel with
      | none => rfl
      | some hl =>
        obtain ⟨kl, hkl, -, tlsType', rfl, htypes⟩ := hl
        refine congrArg some (validateListener_spells cluster htypes fun htls r hr hnone => ?_)
        rw [hkey]
        exact hkinds r (List.mem_flatMap.2 ⟨kl, hkl, hr htls⟩) hnone
    simp only [Gateway.withoutKinds, validate, Std.ExtTreeMap.map_map]
    rw [hgw]
    simp only [hlisteners]

/-- Every reference finds the secret of its name, in the gateway's namespace if it has none itself. -/
def KubeGateway.SecretsDenoted (g : KubeGateway) (isIpAddr : String → Bool) (routes : RouteStores) (gw : Gateway) : Prop :=
  ∀ r ∈ g.certificateRefs, ∀ cluster : SecretCluster,
    (settled cluster isIpAddr routes gw).getReference r.resourceKey =
      cluster.secret (r.ns.getD g.resourceKey.ns) r.name

/-- A cluster with these secrets, and with grants in every namespace for the gateway and the secrets of a group;
everything parses. -/
def grantingCluster (gatewayKey : GatewayKey) (group : String) (secret : String → String → Option Secret) :
    SecretCluster where
  toKubeCluster :=
    { openCluster gatewayKey "Secret" with
      grants :=
        { list := fun ns => .ok
            [{ metadata := { ns := some ns }
               senders := [{ group := gatewayKey.group, ns := gatewayKey.ns, kind := gatewayKey.kind }]
               targets := [{ group := group, kind := "Secret" }] }]
          ns_eq := by
            intro ns grants hgrants grant hgrant
            obtain rfl := Except.ok.inj hgrants
            rw [List.mem_singleton.1 hgrant]
            rfl } }
  secret := secret
  certificateFromPem _ := true
  privateKeyFromPem _ := true

theorem kind_of_grantsFor {gatewayKey : GatewayKey} {group : String} {secret : String → String → Option Secret}
    {k : ResourceKey}
    (h : ReferenceGrantsResolver.GrantsFor (grantingCluster gatewayKey group secret).grants gatewayKey k) :
    k.kind = "Secret" := by
  obtain ⟨grants, hgrants, grant, hgrant, -, t, ht, heq⟩ := h
  obtain rfl := Except.ok.inj hgrants
  obtain rfl := List.mem_singleton.1 hgrant
  obtain rfl := List.mem_singleton.1 ht
  rcases heq with heq | heq
  · exact (congrArg ToResourceKey.kind heq).symm
  · exact (congrArg ToResourceKey.kind heq).symm

theorem grantsFor_grantingCluster {gatewayKey : GatewayKey} {secret : String → String → Option Secret}
    {k : ResourceKey} (hkind : k.kind = "Secret") :
    ReferenceGrantsResolver.GrantsFor (grantingCluster gatewayKey k.group secret).grants gatewayKey k := by
  refine ⟨_, rfl, _, List.mem_singleton_self _, ⟨_, List.mem_singleton_self _, rfl⟩, _,
    List.mem_singleton_self _, .inr ?_⟩
  simp only [ToResourceKey.ofGrant, ToResourceKey.ofKey, hkind]

theorem secretsDenoted_iff (h : Gateway.tryFrom parseUuid g t = .ok gw) (hnames : (g.spec.listeners.map (·.name)).Nodup) :
    g.SecretsDenoted isIpAddr routes gw ↔
      ∀ r ∈ g.certificateRefs, r.ns = none → g.resourceKey.ns = DEFAULT_NAMESPACE_NAME := by
  have hfound (r : CertificateRef) (hr : r ∈ g.certificateRefs) (cluster : SecretCluster) :
      (settled cluster isIpAddr routes gw).getReference r.resourceKey = cluster.secret r.resourceKey.ns r.name :=
    getReference_settled (((Gateway.oneKey h hnames).polled _).2 (List.mem_map_of_mem hr))
  constructor
  · intro hdenoted r hr hnone
    -- only the gateway's namespace has secrets
    let cluster := grantingCluster g.resourceKey "" fun ns _ => if ns = g.resourceKey.ns then some {} else none
    have hsecret := (hfound r hr cluster).symm.trans (hdenoted r hr cluster)
    by_contra hne
    simp only [cluster, grantingCluster, CertificateRef.resourceKey, hnone, Option.getD_none, if_true,
      if_neg (Ne.symm hne)] at hsecret
    cases hsecret
  · intro hdefault r hr cluster
    rw [hfound r hr cluster, CertificateRef.resourceKey]
    cases hns : r.ns with
    | some ns => rfl
    | none =>
      rw [hdefault r hr hns]

/-- A secret that everybody may serve. -/
def tlsSecret : Secret where
  type := some TLS_SECRET_TYPE
  data := some (.ofList [("tls.crt", []), ("tls.key", [])])

theorem usable_grantingCluster {gatewayKey : GatewayKey} {group : String} {k : ResourceKey}
    (hns : k.ns ≠ gatewayKey.ns) :
    (direct (grantingCluster gatewayKey group fun _ _ => some tlsSecret)).Usable gatewayKey k ↔
      ReferenceGrantsResolver.GrantsFor (grantingCluster gatewayKey group fun _ _ => some tlsSecret).grants
        gatewayKey k := by
  have hallowed : (direct (grantingCluster gatewayKey group fun _ _ => some tlsSecret)).isAllowed gatewayKey k
      gatewayKey = true ↔ _ := @decide_eq_true_iff _ (Classical.propDecidable _)
  unfold Usable
  rw [hallowed, or_iff_right hns]
  refine and_iff_left ⟨tlsSecret, _, rfl, rfl, rfl, ⟨[], ?_, rfl⟩, [], ?_, rfl⟩
  · decide +kernel
  · decide +kernel

theorem isResolved_withoutKind {c : Certificate} : c.withoutKind.IsResolved ↔ c.IsResolved := by
  cases c <;> exact Iff.rfl

theorem Listener.certificates_withoutKinds (l : Listener) :
    l.withoutKinds.certificates?.getD [] = (l.certificates?.getD []).map Certificate.withoutKind := by
  simp only [certificates?, withoutKinds]
  rcases l.data.config.tlsType with _ | (certificates | _) <;> rfl

/-- What a validated listener has for its certificates. -/
theorem ListenerTlsConfigValidator.certificates_validateListener (v : ListenerTlsConfigValidator)
    (gatewayKey : GatewayKey) {l : Listener} (htls : l.IsTls) : ∃ supportedRoutes,
    (v.validateListener gatewayKey l).certificates?.getD [] =
      (l.certificates?.getD []).map fun c => (v.validateCertificate gatewayKey supportedRoutes c).1 := by
  refine ⟨(l.data.conditions.resolvedRefs?.map (·.supportedRoutes)).getD [], ?_⟩
  unfold validateListener
  rw [if_pos htls]
  rcases htype : l.data.config.tlsType with _ | (certificates | _)
  · simp only [Listener.certificates?, htype]
    rfl
  · simp only [Listener.certificates?, validateCertificates_map, htype, Option.getD_some]
  · simp only [Listener.certificates?, htype]
    rfl

/-- What a validated gateway has for the references of a listener. -/
theorem Gateway.validated_refs (v : ListenerTlsConfigValidator) (h : Gateway.tryFrom parseUuid g t = .ok gw)
    (hnames : (g.spec.listeners.map (·.name)).Nodup) {kl : KubeListener} (hkl : kl ∈ g.spec.listeners)
    {r : CertificateRef} (hr : r ∈ kl.certificateRefs) : ∃ supportedRoutes,
    ((v.validate gw).withoutKinds.listeners[kl.name]?).map (fun l => l.certificates?.getD []) =
      some (kl.certificateRefs.map fun r =>
        (v.validateCertificate g.resourceKey supportedRoutes (.notResolved r.resourceKey)).1.withoutKind) := by
  obtain ⟨l, hl, hok, htls⟩ := exists_listener_of_mem h hnames hkl hr
  obtain ⟨supportedRoutes, hvalidated⟩ := v.certificates_validateListener g.resourceKey htls
  refine ⟨supportedRoutes, ?_⟩
  simp only [withoutKinds, validate, Std.ExtTreeMap.getElem?_map, hl, Option.map_some,
    Listener.certificates_withoutKinds, (Gateway.tryFrom_key h).1, hvalidated,
    Listener.certificates_of_tryFrom hok htls, List.map_map]
  rfl

theorem KubeListener.certificateRefs_spelledOut (l : KubeListener) :
    l.spelledOut.certificateRefs = l.certificateRefs.map CertificateRef.spelledOut := by
  unfold certificateRefs spelledOut
  simp only
  split
  · cases l.tls with
    | none => rfl
    | some tls =>
      simp only [Option.map_some, KubeListenerTls.spelledOut]
      split
      · cases tls.certificateRefs <;> rfl
      · rfl
  · rfl

/-- The grant that lets the reference with its kind be served does not so without. -/
theorem Gateway.CertificatesAlike.kindsFit (halike : gw.CertificatesAlike isIpAddr routes gw')
    (h : Gateway.tryFrom parseUuid g t = .ok gw) (hnames : (g.spec.listeners.map (·.name)).Nodup)
    (h' : Gateway.tryFrom parseUuid g.spelledOut t = .ok gw') : g.KindsFit := by
  intro r hr hnone
  by_contra hns
  obtain ⟨kl, hkl, hr⟩ := List.mem_flatMap.1 hr
  have hnames' : (g.spelledOut.spec.listeners.map (·.name)).Nodup := by rwa [g.spells_spelledOut.names]
  have hr' : r.spelledOut ∈ kl.spelledOut.certificateRefs := by
    rw [KubeListener.certificateRefs_spelledOut]
    exact List.mem_map_of_mem hr
  let cluster := grantingCluster g.resourceKey r.spelledOut.resourceKey.group fun _ _ => some tlsSecret
  have hvalid := halike.validated cluster
  rw [validate_settled, validate_settled] at hvalid
  obtain ⟨supportedRoutes, hrefs⟩ := Gateway.validated_refs (direct cluster) h hnames hkl hr
  obtain ⟨supportedRoutes', hrefs'⟩ :=
    Gateway.validated_refs (direct cluster) h' hnames' (List.mem_map_of_mem hkl) hr'
  have hsame := hrefs'.symm.trans ((congrArg (fun gw : Gateway =>
    (gw.listeners[kl.name]?).map fun l => l.certificates?.getD []) hvalid).trans hrefs)
  rw [KubeListener.certificateRefs_spelledOut, List.map_map, Option.some.injEq, List.map_inj_left] at hsame
  -- the one with the kind is resolved, the other one is not
  have hresolved := ((direct cluster).validateCertificate_outcome g.resourceKey supportedRoutes
    (.notResolved r.resourceKey)).resolved_iff.2.1
  have hresolved' := ((direct cluster).validateCertificate_outcome g.resourceKey supportedRoutes'
    (.notResolved r.spelledOut.resourceKey)).resolved_iff.2.1
  rw [← isResolved_withoutKind] at hresolved hresolved'
  rw [← hsame r hr] at hresolved
  have hns' : r.spelledOut.resourceKey.ns ≠ g.resourceKey.ns := hns
  have hkind' : r.spelledOut.resourceKey.kind = "Secret" := by
    simp only [CertificateRef.resourceKey, CertificateRef.spelledOut, hnone, Option.getD_none, Option.getD_some]
  have hgranted := hresolved.1 (hresolved'.2 ((usable_grantingCluster hns').2 (grantsFor_grantingCluster hkind')))
  have hkind : r.resourceKey.kind = "Secret" := kind_of_grantsFor ((usable_grantingCluster hns).1 hgranted)
  rw [CertificateRef.resourceKey, hnone] at hkind
  exact absurd hkind (by decide : DEFAULT_KIND_NAME ≠ "Secret")

end

/-! ## When the defaults are right -/

/-- What is expected of the certificate references of a gateway and the gateway it is converted into: one key is
used for each, a reference finds the secret of its name in its namespace or in the gateway's, and it makes no
difference to write out the group and the kind of one that has none. -/
structure CertificatesDefault (parseUuid : String → Option Uuid) (t : GatewayImplementationType)
    (isIpAddr : String → Bool) (routes : RouteStores) (g : KubeGateway) (gw : Gateway) : Prop where
  oneKey : gw.OneKey (g.certificateRefs.map CertificateRef.resourceKey)
  denotes : g.SecretsDenoted isIpAddr routes gw
  alike : ∀ g', g.Spells g' → ∃ gw', Gateway.tryFrom parseUuid g' t = .ok gw' ∧ gw.CertificatesAlike isIpAddr routes gw'

/-- The gateway is in the default namespace if the reference has no namespace, and a reference without a kind
is not to another namespace. -/
structure CertificateRef.DefaultsFit (r : CertificateRef) (gatewayNs : String) : Prop where
  ns : r.ns = none → gatewayNs = DEFAULT_NAMESPACE_NAME
  kind : r.kind = none → r.ns.getD gatewayNs = gatewayNs

/-- **When certificate references default** to the gateway's own namespace, and to secrets. -/
theorem certificates_default_iff {parseUuid : String → Option Uuid} {g : KubeGateway} {t : GatewayImplementationType}
    {gw : Gateway} (h : Gateway.tryFrom parseUuid g t = .ok gw) (hnames : (g.spec.listeners.map (·.name)).Nodup)
    (isIpAddr : String → Bool) (routes : RouteStores) :
    CertificatesDefault parseUuid t isIpAddr routes g gw ↔ ∀ r ∈ g.certificateRefs, r.DefaultsFit g.resourceKey.ns := by
  have hns {r : CertificateRef} (hdefault : r.ns = none → g.resourceKey.ns = DEFAULT_NAMESPACE_NAME) :
      r.resourceKey.ns = r.ns.getD g.resourceKey.ns := by
    rw [CertificateRef.resourceKey]
    cases hns : r.ns with
    | some ns => rfl
    | none => rw [hdefault hns]
  constructor
  · rintro ⟨-, hdenotes, halike⟩ r hr
    have hdefault := (secretsDenoted_iff h hnames).1 hdenotes r hr
    obtain ⟨gw', h', halike⟩ := halike _ g.spells_spelledOut
    refine ⟨hdefault, fun hnone => ?_⟩
    rw [← hns hdefault]
    exact halike.kindsFit h hnames h' r hr hnone
  · intro hfit
    have hkinds : g.KindsFit := by
      intro r hr hnone
      rw [hns (hfit r hr).ns]
      exact (hfit r hr).kind hnone
    refine ⟨Gateway.oneKey h hnames, (secretsDenoted_iff h hnames).2 fun r hr => (hfit r hr).ns, fun g' hs => ?_⟩
    obtain ⟨gw', h'⟩ := hs.exists_tryFrom h
    exact ⟨gw', h', hkinds.alike h hnames hs h'⟩

/-! ## A gateway with one certificate -/

/-- A gateway whose certificate is the secret `cert` of its namespace. -/
def certificateGateway (ns : String) : KubeGateway where
  metadata := { name := some "edge", ns := some ns }
  spec :=
    { gatewayClassName := "kubvernor"
      listeners := [{ name := "https", port := 443, protocol := "HTTPS"
                      tls := some { mode := some .terminate, certificateRefs := some [{ name := "cert" }] } }] }

theorem certificateGateway_tryFrom (ns : String) :
    ∃ gw, Gateway.tryFrom (fun _ => some 1) (certificateGateway ns) .envoy = .ok gw := ⟨_, rfl⟩

/-- In the default namespace the defaults fit. -/
theorem certificateGateway_default : ∃ gw,
    Gateway.tryFrom (fun _ => some 1) (certificateGateway "default") .envoy = .ok gw ∧
      CertificatesDefault (fun _ => some 1) .envoy (fun _ => false) {} (certificateGateway "default") gw := by
  obtain ⟨gw, h⟩ := certificateGateway_tryFrom "default"
  refine ⟨gw, h, (certificates_default_iff h (by decide) _ _).2 fun r hr => ?_⟩
  obtain rfl := List.mem_singleton.1 hr
  exact ⟨fun _ => rfl, fun _ => rfl⟩

/-- **In any other the certificate is looked for where it is not.** -/
theorem certificateGateway_not_default : ∃ gw,
    Gateway.tryFrom (fun _ => some 1) (certificateGateway "shop") .envoy = .ok gw ∧
      ¬ CertificatesDefault (fun _ => some 1) .envoy (fun _ => false) {} (certificateGateway "shop") gw := by
  obtain ⟨gw, h⟩ := certificateGateway_tryFrom "shop"
  refine ⟨gw, h, fun hdefault => ?_⟩
  have hns := (secretsDenoted_iff h (by decide)).1 hdefault.denotes { name := "cert" } (by decide) rfl
  exact absurd hns (by decide)

end Kubvernor
