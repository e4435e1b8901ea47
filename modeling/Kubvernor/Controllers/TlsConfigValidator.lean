import Kubvernor.Control.GatewayDeployer

/-!
# Validating the certificates of listeners

The validator goes through the certificates of every HTTPS and TLS listener that terminates TLS. It
looks up the secret a certificate refers to, asks whether the gateway may use it, and parses what the
secret holds; the listener's one condition about references records what went wrong.

**`validate_validated`**: a certificate comes out resolved exactly if its secret is `Usable`, in the same
space exactly if the secret also is in the gateway's namespace, and a listener with a certificate that
is not resolved does not come out with its references resolved. The last one rests on good
certificates recording nothing: once a bad one is recorded, the condition stays a bad one
(`validateCertificates_conditions`).
-/

namespace Kubvernor

def TLS_SECRET_TYPE : String := "kubernetes.io/tls"

/-- A Secret of Kubernetes. -/
structure Secret where
  type : Option String := none
  data : Option (Std.ExtTreeMap String (List UInt8)) := none

namespace Certificate

/-- `resouce_key`. -/
def resourceKey : Certificate → ResourceKey
  | .resolvedSameSpace k _ | .resolvedCrossSpace k _ | .notResolved k | .invalid k => k

def resolve (c : Certificate) (certificate key : List UInt8) : Certificate :=
  .resolvedSameSpace c.resourceKey { cert := certificate, privateKey := key }

def resolveCrossSpace (c : Certificate) (certificate key : List UInt8) : Certificate :=
  .resolvedCrossSpace c.resourceKey { cert := certificate, privateKey := key }

def IsSameSpace : Certificate → Prop
  | .resolvedSameSpace _ _ => True
  | _ => False

def IsCrossSpace : Certificate → Prop
  | .resolvedCrossSpace _ _ => True
  | _ => False

/-- The certificate is resolved, in either way. -/
def IsResolved (c : Certificate) : Prop := c.IsSameSpace ∨ c.IsCrossSpace

instance : DecidablePred IsSameSpace
  | .resolvedSameSpace _ _ => .isTrue trivial
  | .resolvedCrossSpace _ _ | .notResolved _ | .invalid _ => .isFalse id

instance : DecidablePred IsCrossSpace
  | .resolvedCrossSpace _ _ => .isTrue trivial
  | .resolvedSameSpace _ _ | .notResolved _ | .invalid _ => .isFalse id

instance : DecidablePred IsResolved := fun _ => inferInstanceAs (Decidable (_ ∨ _))

end Certificate

/-- The condition a listener has about its references. -/
def ListenerConditions.resolvedRefs? (s : ListenerConditions) : Option ListenerCondition :=
  s[(ListenerCondition.resolvedRefs (.resolved [])).discriminant]?

/-- Listeners whose certificates are validated. -/
def Listener.IsTls (l : Listener) : Prop := l.protocol = .https ∨ l.protocol = .tls

instance (l : Listener) : Decidable l.IsTls := inferInstanceAs (Decidable (_ ∨ _))

/-- The certificates of a listener that terminates TLS. -/
def Listener.certificates? (l : Listener) : Option (List Certificate) :=
  match l.data.config.tlsType with
  | some (.terminate certificates) => some certificates
  | some .passthrough | none => none

theorem Listener.certificates?_eq_some {l : Listener} {certificates : List Certificate} :
    l.certificates? = some certificates ↔ l.data.config.tlsType = some (.terminate certificates) := by
  unfold certificates?
  rcases l.data.config.tlsType with _ | (cs | _) <;> simp

/-- The certificates that a gateway terminates TLS with. -/
def Gateway.terminateCertificates (g : Gateway) : List Certificate :=
  (g.listenerValues.filter (·.IsTls)).flatMap fun l => l.certificates?.getD []

/-- Conversion resolves no certificate. -/
theorem TlsType.not_resolved_of_tryFrom {tls : KubeListenerTls} {certificates : List Certificate}
    (h : TlsType.tryFrom tls = .ok (.terminate certificates)) : ∀ c ∈ certificates, ¬ c.IsResolved := by
  unfold tryFrom at h
  cases hmode : tls.mode with
  | none =>
    rw [hmode] at h
    cases h
  | some mode =>
    rw [hmode] at h
    cases mode with
    | passthrough => cases h
    | terminate =>
      obtain rfl := TlsType.terminate.inj (Except.ok.inj h)
      intro c hc
      obtain ⟨r, -, rfl⟩ := List.mem_map.1 hc
      exact fun h => h.elim id id

theorem Listener.not_resolved_of_tryFrom {kl : KubeListener} {l : Listener} {certificates : List Certificate}
    (h : Listener.tryFrom kl = .ok l) (hc : l.certificates? = some certificates) :
    ∀ c ∈ certificates, ¬ c.IsResolved := by
  obtain ⟨tlsType, htls, hdata⟩ := Listener.eq_of_tryFrom h
  rw [certificates?_eq_some, hdata] at hc
  simp only at hc
  subst hc
  cases hkl : kl.tls with
  | none =>
    rw [hkl] at htls
    cases htls
  | some tls =>
    rw [hkl, Option.mapM_some] at htls
    cases ht : TlsType.tryFrom tls with
    | error e =>
      rw [ht] at htls
      cases htls
    | ok tlsType =>
      rw [ht] at htls
      obtain rfl := Option.some.inj (Except.ok.inj htls)
      exact TlsType.not_resolved_of_tryFrom ht

/-! ## The validator -/

/-- `ListenerTlsConfigValidator`: the secrets it finds, the references it is granted, and whether a
certificate and a private key parse. -/
structure ListenerTlsConfigValidator where
  getReference : ResourceKey → Option Secret
  isAllowed : ResourceKey → ResourceKey → ResourceKey → Bool
  certificateFromPem : List UInt8 → Bool
  privateKeyFromPem : List UInt8 → Bool

namespace ListenerTlsConfigValidator

/-- What becomes of one certificate, and what is to be recorded about the references if it is bad. -/
def validateCertificate (v : ListenerTlsConfigValidator) (gatewayKey : GatewayKey) (supportedRoutes : List String)
    (certificate : Certificate) : Certificate × Option ResolvedRefs :=
  let certificateKey := certificate.resourceKey
  let referenceGrantAllowed := v.isAllowed gatewayKey certificateKey gatewayKey
  let isSamespace : Bool := gatewayKey.ns = certificateKey.ns
  let invalidCertificates := some (ResolvedRefs.invalidCertificates supportedRoutes)
  match v.getReference certificateKey with
  | none => (.notResolved certificateKey, invalidCertificates)
  | some secret =>
    if referenceGrantAllowed || isSamespace then
      if secret.type = some TLS_SECRET_TYPE then
        match secret.data with
        | none => (.notResolved certificateKey, invalidCertificates)
        | some data =>
          match data["tls.key"]?, data["tls.crt"]? with
          | some secretPrivateKey, some secretCertificate =>
            match v.certificateFromPem secretCertificate, v.privateKeyFromPem secretPrivateKey with
            | true, true =>
              if gatewayKey.ns = certificateKey.ns then
                (certificate.resolve secretCertificate secretPrivateKey, none)
              else (certificate.resolveCrossSpace secretCertificate secretPrivateKey, none)
            | _, _ => (.invalid certificateKey, invalidCertificates)
          | _, _ => (.invalid certificateKey, invalidCertificates)
      else (.notResolved certificateKey, invalidCertificates)
    else if isSamespace then (.notResolved certificateKey, invalidCertificates)
    else (.notResolved certificateKey, some (.refNotPermitted supportedRoutes))

/-- The loop over the certificates of a listener. -/
def validateCertificates (v : ListenerTlsConfigValidator) (gatewayKey : GatewayKey)
    (supportedRoutes : List String) :
    List Certificate → ListenerConditions → List Certificate × ListenerConditions
  | [], conditions => ([], conditions)
  | certificate :: certificates, conditions =>
    let (validated, refs) := v.validateCertificate gatewayKey supportedRoutes certificate
    let conditions := match refs with
      | some refs => conditions.replace (.resolvedRefs refs)
      | none => conditions
    let (rest, conditions) := v.validateCertificates gatewayKey supportedRoutes certificates conditions
    (validated :: rest, conditions)

/-- One round of the loop over the listeners. -/
def validateListener (v : ListenerTlsConfigValidator) (gatewayKey : GatewayKey) (l : Listener) : Listener :=
  if l.IsTls then
    let supportedRoutes := (l.data.conditions.resolvedRefs?.map (·.supportedRoutes)).getD []
    match l.data.config.tlsType with
    | some (.terminate certificates) =>
      let (certificates, conditions) :=
        v.validateCertificates gatewayKey supportedRoutes certificates l.data.conditions
      { l with data := { l.data with
          config := { l.data.config with tlsType := some (.terminate certificates) }
          conditions := conditions } }
    | some .passthrough | none => l
  else l

/-- `ListenerTlsConfigValidator::validate`. -/
def validate (v : ListenerTlsConfigValidator) (g : Gateway) : Gateway :=
  { g with listeners := g.listeners.map fun _ l => v.validateListener g.resourceKey l }

end ListenerTlsConfigValidator

/-! ## Which certificates come out resolved -/

/-- The gateway may use the secret of this key, and what the secret holds are a certificate and a
private key. -/
def ListenerTlsConfigValidator.Usable (v : ListenerTlsConfigValidator) (gatewayKey : GatewayKey)
    (k : ResourceKey) : Prop :=
  (k.ns = gatewayKey.ns ∨ v.isAllowed gatewayKey k gatewayKey = true) ∧
  ∃ secret data, v.getReference k = some secret ∧ secret.type = some TLS_SECRET_TYPE ∧ secret.data = some data ∧
    (∃ cert, data["tls.crt"]? = some cert ∧ v.certificateFromPem cert = true) ∧
    ∃ key, data["tls.key"]? = some key ∧ v.privateKeyFromPem key = true

/-- What is recorded about bad certificates. -/
def ListenerCondition.IsBadCertificate : ListenerCondition → Prop
  | .resolvedRefs (.invalidCertificates _) | .resolvedRefs (.refNotPermitted _) => True
  | _ => False

namespace ListenerTlsConfigValidator

variable {v : ListenerTlsConfigValidator} {gatewayKey : GatewayKey} {supportedRoutes : List String}
variable {c : Certificate} {conditions : ListenerConditions}

/-- What may become of a certificate, and what is recorded about it: with a usable secret it is
resolved and nothing is recorded, with any other it is not and a bad condition is recorded. -/
inductive Outcome (v : ListenerTlsConfigValidator) (gatewayKey : GatewayKey) (k : ResourceKey) :
    Certificate × Option ResolvedRefs → Prop
  | sameSpace {data : KeyData} : v.Usable gatewayKey k → k.ns = gatewayKey.ns →
    Outcome v gatewayKey k (.resolvedSameSpace k data, none)
  | crossSpace {data : KeyData} : v.Usable gatewayKey k → k.ns ≠ gatewayKey.ns →
    Outcome v gatewayKey k (.resolvedCrossSpace k data, none)
  | notResolved {refs : ResolvedRefs} : ¬ v.Usable gatewayKey k →
    (ListenerCondition.resolvedRefs refs).IsBadCertificate → Outcome v gatewayKey k (.notResolved k, some refs)
  | invalid {refs : ResolvedRefs} : ¬ v.Usable gatewayKey k →
    (ListenerCondition.resolvedRefs refs).IsBadCertificate → Outcome v gatewayKey k (.invalid k, some refs)

theorem validateCertificate_outcome (v : ListenerTlsConfigValidator) (gatewayKey : GatewayKey)
    (supportedRoutes : List String) (c : Certificate) :
    v.Outcome gatewayKey c.resourceKey (v.validateCertificate gatewayKey supportedRoutes c) := by
  unfold validateCertificate
  simp only
  cases hsecret : v.getReference c.resourceKey with
  | none =>
    refine .notResolved ?_ trivial
    rintro ⟨-, secret, data, hs, -⟩
    rw [hsecret] at hs
    cases hs
  | some secret =>
    have husable (hu : v.Usable gatewayKey c.resourceKey) :
        secret.type = some TLS_SECRET_TYPE ∧ ∃ data, secret.data = some data ∧
          (∃ cert, data["tls.crt"]? = some cert ∧ v.certificateFromPem cert = true) ∧
          ∃ key, data["tls.key"]? = some key ∧ v.privateKeyFromPem key = true := by
      obtain ⟨-, secret', data, hs, htype, hdata, hpem⟩ := hu
      rw [hsecret] at hs
      obtain rfl := Option.some.inj hs
      exact ⟨htype, data, hdata, hpem⟩
    have hallowed : (v.isAllowed gatewayKey c.resourceKey gatewayKey ||
        decide (gatewayKey.ns = c.resourceKey.ns)) = true ↔
        c.resourceKey.ns = gatewayKey.ns ∨ v.isAllowed gatewayKey c.resourceKey gatewayKey = true := by
      rw [Bool.or_eq_true, decide_eq_true_eq, or_comm, eq_comm]
    by_cases hpermitted : c.resourceKey.ns = gatewayKey.ns ∨ v.isAllowed gatewayKey c.resourceKey gatewayKey = true
    · simp only [hallowed, if_pos hpermitted]
      by_cases htype : secret.type = some TLS_SECRET_TYPE
      · rw [if_pos htype]
        cases hdata : secret.data with
        | none =>
          refine .notResolved (fun hu => ?_) (by exact trivial)
          obtain ⟨-, data, hd, -⟩ := husable hu
          rw [hdata] at hd
          cases hd
        | some data =>
          have hpem (hu : v.Usable gatewayKey c.resourceKey) :
              (∃ cert, data["tls.crt"]? = some cert ∧ v.certificateFromPem cert = true) ∧
              ∃ key, data["tls.key"]? = some key ∧ v.privateKeyFromPem key = true := by
            obtain ⟨-, data', hd, hpem⟩ := husable hu
            rw [hdata] at hd
            obtain rfl := Option.some.inj hd
            exact hpem
          simp only
          cases hkey : data["tls.key"]? with
          | none =>
            refine .invalid (fun hu => ?_) (by exact trivial)
            obtain ⟨-, key, hk, -⟩ := hpem hu
            rw [hkey] at hk
            cases hk
          | some key =>
            cases hcert : data["tls.crt"]? with
            | none =>
              refine .invalid (fun hu => ?_) (by exact trivial)
              obtain ⟨⟨cert, hc, -⟩, -⟩ := hpem hu
              rw [hcert] at hc
              cases hc
            | some cert =>
              simp only
              by_cases hparse : v.certificateFromPem cert = true ∧ v.privateKeyFromPem key = true
              · have hu : v.Usable gatewayKey c.resourceKey :=
                  ⟨hpermitted, secret, data, hsecret, htype, hdata, ⟨cert, hcert, hparse.1⟩, key, hkey, hparse.2⟩
                rw [hparse.1, hparse.2]
                simp only
                by_cases hns : gatewayKey.ns = c.resourceKey.ns
                · rw [if_pos hns]
                  exact .sameSpace hu hns.symm
                · rw [if_neg hns]
                  exact .crossSpace hu (Ne.symm hns)
              · have hu : ¬ v.Usable gatewayKey c.resourceKey := by
                  intro hu
                  obtain ⟨⟨cert', hc, hcertOk⟩, key', hk, hkeyOk⟩ := hpem hu
                  rw [hcert] at hc
                  rw [hkey] at hk
                  obtain rfl := Option.some.inj hc
                  obtain rfl := Option.some.inj hk
                  exact hparse ⟨hcertOk, hkeyOk⟩
                split
                · rename_i hcertOk hkeyOk
                  exact absurd ⟨hcertOk, hkeyOk⟩ hparse
                · exact .invalid hu (by exact trivial)
      · rw [if_neg htype]
        exact .notResolved (fun hu => htype (husable hu).1) (by exact trivial)
    · -- in the gateway's own namespace the certificate would be permitted
      have hns : decide (gatewayKey.ns = c.resourceKey.ns) ≠ true :=
        fun h => hpermitted (.inl (of_decide_eq_true h).symm)
      simp only [hallowed, if_neg hpermitted, if_neg hns]
      exact .notResolved (fun hu => hpermitted hu.1) (by exact trivial)

/-- The secret of a certificate that comes out resolved is usable. -/
theorem Outcome.resolved_iff {k : ResourceKey} {out : Certificate × Option ResolvedRefs}
    (h : v.Outcome gatewayKey k out) :
    out.1.resourceKey = k ∧ (out.1.IsResolved ↔ v.Usable gatewayKey k) ∧
      (out.1.IsSameSpace ↔ v.Usable gatewayKey k ∧ k.ns = gatewayKey.ns) := by
  cases h with
  | sameSpace hu hns => exact ⟨rfl, ⟨fun _ => hu, fun _ => .inl trivial⟩, ⟨fun _ => ⟨hu, hns⟩, fun _ => trivial⟩⟩
  | crossSpace hu hns => exact ⟨rfl, ⟨fun _ => hu, fun _ => .inr trivial⟩, ⟨False.elim, fun h => hns h.2⟩⟩
  | notResolved hu _ =>
    exact ⟨rfl, ⟨fun h => (h.elim id id).elim, fun h => absurd h hu⟩, ⟨False.elim, fun h => hu h.1⟩⟩
  | invalid hu _ =>
    exact ⟨rfl, ⟨fun h => (h.elim id id).elim, fun h => absurd h hu⟩, ⟨False.elim, fun h => hu h.1⟩⟩

/-! ## What is recorded about them -/

/-- A bad certificate is on record. -/
def RecordsBad (conditions : ListenerConditions) : Prop :=
  ∃ condition, conditions.resolvedRefs? = some condition ∧ condition.IsBadCertificate

theorem recordsBad_replace {refs : ResolvedRefs} (h : (ListenerCondition.resolvedRefs refs).IsBadCertificate) :
    RecordsBad (conditions.replace (.resolvedRefs refs)) :=
  ⟨_, Std.ExtTreeMap.getElem?_insert_self, h⟩

theorem validateCertificates_map (v : ListenerTlsConfigValidator) (gatewayKey : GatewayKey)
    (supportedRoutes : List String) (cs : List Certificate) (conditions : ListenerConditions) :
    (v.validateCertificates gatewayKey supportedRoutes cs conditions).1 =
      cs.map fun c => (v.validateCertificate gatewayKey supportedRoutes c).1 := by
  induction cs generalizing conditions with
  | nil => rfl
  | cons c cs ih =>
    rw [validateCertificates, List.map_cons]
    exact congrArg _ (ih _)

/-- Once a bad certificate is on record, or one is still to come, one is on record in the end:
certificates that are good record nothing. -/
theorem validateCertificates_conditions (supportedRoutes : List String) {cs : List Certificate}
    {conditions : ListenerConditions}
    (h : RecordsBad conditions ∨ ∃ c ∈ cs, ¬ v.Usable gatewayKey c.resourceKey) :
    RecordsBad (v.validateCertificates gatewayKey supportedRoutes cs conditions).2 := by
  induction cs generalizing conditions with
  | nil =>
    rcases h with h | ⟨c, hc, -⟩
    · exact h
    · cases hc
  | cons c cs ih =>
    rw [validateCertificates]
    have hout := v.validateCertificate_outcome gatewayKey supportedRoutes c
    rcases hv : v.validateCertificate gatewayKey supportedRoutes c with ⟨validated, refs⟩
    rw [hv] at hout
    refine ih ?_
    cases hout with
    | sameSpace hu _ | crossSpace hu _ =>
      rcases h with h | ⟨c', hc', hbad⟩
      · exact .inl h
      · rcases List.mem_cons.1 hc' with rfl | hc'
        · exact absurd hu hbad
        · exact .inr ⟨c', hc', hbad⟩
    | notResolved _ hrefs | invalid _ hrefs => exact .inl (recordsBad_replace hrefs)

/-! ## A validated gateway -/

/-- The same listener with the same certificates, but for what has become of them and is recorded about them. -/
structure Revises (l l' : Listener) : Prop where
  protocol : l'.protocol = l.protocol
  config : l'.data.config = { l.data.config with tlsType := l'.data.config.tlsType }
  data : l'.data = { l.data with config := l'.data.config, conditions := l'.data.conditions }
  certificates : l'.certificates?.map (List.map Certificate.resourceKey) =
    l.certificates?.map (List.map Certificate.resourceKey)
  beside : ¬ l.IsTls ∨ l.certificates? = none → l' = l

/-- What validation promises: the gateway has its listeners with their certificates, and these come out as they
should. -/
structure Validated (v : ListenerTlsConfigValidator) (g g' : Gateway) : Prop where
  gateway : g' = { g with listeners := g'.listeners }
  listeners : ∀ name : String, Option.Rel Revises g.listeners[name]? g'.listeners[name]?
  resolved_iff : ∀ l ∈ g'.listenerValues, l.IsTls → ∀ certificates, l.certificates? = some certificates →
    ∀ c ∈ certificates, c.IsResolved ↔ v.Usable g.resourceKey c.resourceKey
  isSameSpace_iff : ∀ l ∈ g'.listenerValues, l.IsTls → ∀ certificates, l.certificates? = some certificates →
    ∀ c ∈ certificates, c.IsSameSpace ↔
      v.Usable g.resourceKey c.resourceKey ∧ c.resourceKey.ns = g.resourceKey.ns
  refs_not_resolved : ∀ l ∈ g'.listenerValues, l.IsTls → ∀ certificates, l.certificates? = some certificates →
    (∃ c ∈ certificates, ¬ c.IsResolved) →
      ∃ condition, l.data.conditions.resolvedRefs? = some condition ∧
        ∀ routes, condition ≠ .resolvedRefs (.resolved routes)

theorem mem_validate {g : Gateway} {l : Listener} :
    l ∈ (v.validate g).listenerValues ↔ ∃ l' ∈ g.listenerValues, l = v.validateListener g.resourceKey l' := by
  simp only [validate, Gateway.listenerValues, Std.ExtTreeMap.toList_map, List.map_map, List.mem_map]
  constructor
  · rintro ⟨p, hp, rfl⟩
    exact ⟨p.2, ⟨p, hp, rfl⟩, rfl⟩
  · rintro ⟨_, ⟨p, hp, rfl⟩, rfl⟩
    exact ⟨p, hp, rfl⟩

/-- A listener that terminates TLS, once it is validated. -/
theorem validateListener_spec {l : Listener} (hl : l.IsTls) {certificates : List Certificate}
    (hc : (v.validateListener gatewayKey l).certificates? = some certificates) :
    ∃ cs supportedRoutes, l.certificates? = some cs ∧
      certificates = (v.validateCertificates gatewayKey supportedRoutes cs l.data.conditions).1 ∧
      (v.validateListener gatewayKey l).data.conditions =
        (v.validateCertificates gatewayKey supportedRoutes cs l.data.conditions).2 := by
  unfold validateListener at hc ⊢
  rw [if_pos hl] at hc ⊢
  simp only at hc ⊢
  rcases htls : l.data.config.tlsType with _ | (cs | _)
  · rw [htls] at hc
    simp only [Listener.certificates?, htls] at hc
    cases hc
  · rw [htls] at hc
    have hcs : l.certificates? = some cs := by rw [Listener.certificates?, htls]
    exact ⟨cs, _, hcs, (Option.some.inj hc).symm, rfl⟩
  · rw [htls] at hc
    simp only [Listener.certificates?, htls] at hc
    cases hc

theorem isTls_validateListener {l : Listener} : (v.validateListener gatewayKey l).IsTls ↔ l.IsTls := by
  have hprotocol : (v.validateListener gatewayKey l).protocol = l.protocol := by
    unfold validateListener
    split
    · simp only
      split <;> rfl
    · rfl
  rw [Listener.IsTls, Listener.IsTls, hprotocol]

/-- Validation revises a listener. -/
theorem revises_validateListener (l : Listener) : Revises l (v.validateListener gatewayKey l) := by
  unfold validateListener
  split
  · simp only
    split
    · rename_i cs hterminate
      have hcs : l.certificates? = some cs := by rw [Listener.certificates?, hterminate]
      refine ⟨rfl, rfl, rfl, ?_, fun h => ?_⟩
      · rw [hcs, Listener.certificates?, Option.map_some, Option.map_some, validateCertificates_map, List.map_map]
        refine congrArg some (List.map_congr_left fun c _ => ?_)
        exact (v.validateCertificate_outcome gatewayKey _ c).resolved_iff.1
      · rcases h with hnot | hnone
        · contradiction
        · rw [hcs] at hnone
          cases hnone
    all_goals exact ⟨rfl, rfl, rfl, rfl, fun _ => rfl⟩
  · exact ⟨rfl, rfl, rfl, rfl, fun _ => rfl⟩

/-- The certificates of a validated gateway. -/
theorem validate_certificate {g : Gateway} {l : Listener} (hl : l ∈ (v.validate g).listenerValues) (htls : l.IsTls)
    {certificates : List Certificate} (hc : l.certificates? = some certificates) (hmem : c ∈ certificates) :
    (c.IsResolved ↔ v.Usable g.resourceKey c.resourceKey) ∧
      (c.IsSameSpace ↔ v.Usable g.resourceKey c.resourceKey ∧ c.resourceKey.ns = g.resourceKey.ns) := by
  obtain ⟨l', -, rfl⟩ := mem_validate.1 hl
  obtain ⟨cs, supportedRoutes, -, rfl, -⟩ := validateListener_spec (isTls_validateListener.1 htls) hc
  rw [validateCertificates_map] at hmem
  obtain ⟨c', -, rfl⟩ := List.mem_map.1 hmem
  obtain ⟨hkey, hres, hsame⟩ := (v.validateCertificate_outcome g.resourceKey supportedRoutes c').resolved_iff
  rw [hkey]
  exact ⟨hres, hsame⟩

/-- A listener with a certificate that is not resolved has a bad certificate on record. -/
theorem validate_recordsBad {g : Gateway} {l : Listener} (hl : l ∈ (v.validate g).listenerValues) (htls : l.IsTls)
    {certificates : List Certificate} (hc : l.certificates? = some certificates) (hmem : c ∈ certificates)
    (hres : ¬ c.IsResolved) : RecordsBad l.data.conditions := by
  have hbad : ¬ v.Usable g.resourceKey c.resourceKey := fun hu => hres ((validate_certificate hl htls hc hmem).1.2 hu)
  obtain ⟨l', -, rfl⟩ := mem_validate.1 hl
  obtain ⟨cs', supportedRoutes, -, rfl, hconditions⟩ := validateListener_spec (isTls_validateListener.1 htls) hc
  rw [validateCertificates_map] at hmem
  obtain ⟨c', hc', rfl⟩ := List.mem_map.1 hmem
  rw [(v.validateCertificate_outcome g.resourceKey supportedRoutes c').resolved_iff.1] at hbad
  rw [hconditions]
  exact validateCertificates_conditions supportedRoutes (.inr ⟨c', hc', hbad⟩)

/-- **Validation keeps its promises**, for every gateway, whatever the secrets, the grants and the
order of the certificates are. -/
theorem validate_validated (v : ListenerTlsConfigValidator) (g : Gateway) : v.Validated g (v.validate g) := by
  refine ⟨rfl, fun name => ?_, fun l hl htls cs hc c hmem => (validate_certificate hl htls hc hmem).1,
    fun l hl htls cs hc c hmem => (validate_certificate hl htls hc hmem).2, ?_⟩
  · rw [validate, Std.ExtTreeMap.getElem?_map]
    cases g.listeners[name]? with
    | none => exact .none
    | some l => exact .some (revises_validateListener l)
  rintro l hl htls cs hc ⟨c, hmem, hres⟩
  obtain ⟨condition, hcondition, hbad⟩ := validate_recordsBad hl htls hc hmem hres
  refine ⟨condition, hcondition, ?_⟩
  rintro routes rfl
  exact hbad

end ListenerTlsConfigValidator

end Kubvernor
