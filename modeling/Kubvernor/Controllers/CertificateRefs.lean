import Kubvernor.Controllers.OmittedKinds
import Kubvernor.References.GrantQueries
import Kubvernor.References.Secrets

/-!
# The certificate references of a gateway

A certificate reference gets its key when its listener is converted, and everything later goes by that key: its
secret is listed and polled under it, its grant is tracked for it, the validator asks about it and looks it up
(`Gateway.oneKey`). Two gateways are compared here one of which writes out groups and kinds that the other one
leaves out: they convert alike, but for the keys of their certificates (`Gateway.rel_listeners`).
-/

namespace Kubvernor

open Lib

/-! ## The references of a gateway -/

/-- The certificate references of a listener that terminates TLS; those of other listeners are not used. -/
def KubeListener.certificateRefs (l : KubeListener) : List CertificateRef :=
  if l.protocol = "HTTPS" ∨ l.protocol = "TLS" then
    match l.tls with
    | some tls => if tls.mode = some .terminate then tls.certificateRefs.getD [] else []
    | none => []
  else []

def KubeGateway.certificateRefs (g : KubeGateway) : List CertificateRef :=
  g.spec.listeners.flatMap KubeListener.certificateRefs

theorem ProtocolType.isTls_of_tryFrom {s : String} {protocol : ProtocolType} (h : tryFrom s = .ok protocol) :
    protocol = .https ∨ protocol = .tls ↔ s = "HTTPS" ∨ s = "TLS" := by
  unfold tryFrom at h
  split at h
  · obtain rfl := Except.ok.inj h
    decide
  · obtain rfl := Except.ok.inj h
    decide
  · obtain rfl := Except.ok.inj h
    decide
  · obtain rfl := Except.ok.inj h
    decide
  · obtain rfl := Except.ok.inj h
    decide
  · cases h

theorem TlsType.eq_of_tryFrom {tls : KubeListenerTls} {t : TlsType} (h : TlsType.tryFrom tls = .ok t) :
    tls.mode = some .passthrough ∧ t = .passthrough ∨
      tls.mode = some .terminate ∧ t = .terminate ((tls.certificateRefs.getD []).map fun r => .notResolved r.resourceKey) := by
  unfold tryFrom at h
  cases hmode : tls.mode with
  | none =>
    rw [hmode] at h
    cases h
  | some mode =>
    rw [hmode] at h
    cases mode with
    | passthrough => exact .inl ⟨rfl, (Except.ok.inj h).symm⟩
    | terminate => exact .inr ⟨rfl, (Except.ok.inj h).symm⟩

/-- What a listener has for its references. -/
theorem Listener.certificates_of_tryFrom {kl : KubeListener} {l : Listener} (h : Listener.tryFrom kl = .ok l)
    (htls : l.IsTls) :
    l.certificates?.getD [] = kl.certificateRefs.map fun r => .notResolved r.resourceKey := by
  obtain ⟨tlsType, hmap, hdata⟩ := eq_of_tryFrom h
  have hprotocol := (ProtocolType.isTls_of_tryFrom (protocol_of_tryFrom h)).1 htls
  rw [KubeListener.certificateRefs, if_pos hprotocol, certificates?, hdata]
  cases hkl : kl.tls with
  | none =>
    rw [hkl] at hmap
    obtain rfl := Except.ok.inj hmap
    rfl
  | some tls =>
    rw [hkl, Option.mapM_some] at hmap
    cases ht : TlsType.tryFrom tls with
    | error e =>
      rw [ht] at hmap
      cases hmap
    | ok t =>
      rw [ht] at hmap
      obtain rfl := Except.ok.inj hmap
      rcases TlsType.eq_of_tryFrom ht with ⟨hmode, rfl⟩ | ⟨hmode, rfl⟩
      · simp [hmode]
      · simp [hmode]

section

variable {parseUuid : String → Option Uuid} {g g' : KubeGateway} {t : GatewayImplementationType} {gw gw' : Gateway}

/-- Where the listeners have different names, each is found under its own. -/
theorem Gateway.getElem?_listeners_iff (h : Gateway.tryFrom parseUuid g t = .ok gw)
    (hnames : (g.spec.listeners.map (·.name)).Nodup) {name : String} {l : Listener} :
    gw.listeners[name]? = some l ↔ ∃ kl ∈ g.spec.listeners, kl.name = name ∧ Listener.tryFrom kl = .ok l := by
  have hname {kl : KubeListener} {l : Listener} (hkl : Listener.tryFrom kl = .ok l) : l.name = kl.name := by
    obtain ⟨tlsType, -, hdata⟩ := Listener.eq_of_tryFrom hkl
    rw [Listener.name, hdata]
  constructor
  · intro hl
    obtain ⟨hl, kl, hkl, hok⟩ := Gateway.getElem?_of_tryFrom h hl
    exact ⟨kl, hkl, (hname hok).symm.trans hl, hok⟩
  · rintro ⟨kl, hkl, rfl, hok⟩
    obtain ⟨l', hl'⟩ := Gateway.exists_listener_of_tryFrom h hkl
    obtain ⟨hl, kl', hkl', hok'⟩ := Gateway.getElem?_of_tryFrom h hl'
    obtain rfl := List.inj_on_of_nodup_map hnames hkl' hkl ((hname hok').symm.trans hl)
    rw [hl', ← Except.ok.inj (hok.symm.trans hok')]

/-- A listener with references terminates TLS. -/
theorem Gateway.exists_listener_of_mem (h : Gateway.tryFrom parseUuid g t = .ok gw)
    (hnames : (g.spec.listeners.map (·.name)).Nodup) {kl : KubeListener} (hkl : kl ∈ g.spec.listeners)
    {r : CertificateRef} (hr : r ∈ kl.certificateRefs) :
    ∃ l, gw.listeners[kl.name]? = some l ∧ Listener.tryFrom kl = .ok l ∧ l.IsTls := by
  obtain ⟨l, hl⟩ := Gateway.exists_listener_of_tryFrom h hkl
  obtain ⟨kl', hkl', hname, hok⟩ := (getElem?_listeners_iff h hnames).1 hl
  obtain rfl := List.inj_on_of_nodup_map hnames hkl' hkl hname
  refine ⟨l, hl, hok, (ProtocolType.isTls_of_tryFrom (Listener.protocol_of_tryFrom hok)).2 ?_⟩
  by_contra hnot
  rw [KubeListener.certificateRefs, if_neg hnot] at hr
  cases hr

/-- The certificates of a converted gateway are its references, by their keys. -/
theorem Gateway.mem_terminateCertificates (h : Gateway.tryFrom parseUuid g t = .ok gw)
    (hnames : (g.spec.listeners.map (·.name)).Nodup) {c : Certificate} :
    c ∈ gw.terminateCertificates ↔ ∃ r ∈ g.certificateRefs, .notResolved r.resourceKey = c := by
  unfold terminateCertificates KubeGateway.certificateRefs
  simp only [List.mem_flatMap, List.mem_filter, decide_eq_true_eq, Gateway.listenerValues, mem_values]
  constructor
  · rintro ⟨l, ⟨⟨name, hl⟩, htls⟩, hc⟩
    obtain ⟨kl, hkl, -, hok⟩ := (getElem?_listeners_iff h hnames).1 hl
    rw [Listener.certificates_of_tryFrom hok htls] at hc
    obtain ⟨r, hr, rfl⟩ := List.mem_map.1 hc
    exact ⟨r, ⟨kl, hkl, hr⟩, rfl⟩
  · rintro ⟨r, ⟨kl, hkl, hr⟩, rfl⟩
    obtain ⟨l, hl, hok, htls⟩ := exists_listener_of_mem h hnames hkl hr
    refine ⟨l, ⟨⟨_, hl⟩, htls⟩, ?_⟩
    rw [Listener.certificates_of_tryFrom hok htls]
    exact List.mem_map_of_mem hr

/-! ## One key -/

/-- Everything about a certificate goes by one of these keys: what is polled, what the tracked references
are for, and what the validator asks about and looks up. -/
structure Gateway.OneKey (gw : Gateway) (keys : List ResourceKey) : Prop where
  polled : ∀ k, k ∈ gw.secretReferences ↔ k ∈ keys
  tracked : ∀ ref, ref ∈ gw.grantReferences ↔ ∃ k ∈ keys, .ofKeys gw.resourceKey k gw.resourceKey = ref
  asked : ∀ q, q ∈ ListenerTlsConfigValidator.queries gw ↔ ∃ k ∈ keys, ⟨gw.resourceKey, k, gw.resourceKey⟩ = q
  lookedUp : ∀ v v' : ListenerTlsConfigValidator, (∀ k ∈ keys, v.AgreesOn v' gw.resourceKey k) →
    v.validate gw = v'.validate gw

theorem Gateway.oneKey (h : Gateway.tryFrom parseUuid g t = .ok gw)
    (hnames : (g.spec.listeners.map (·.name)).Nodup) :
    gw.OneKey (g.certificateRefs.map CertificateRef.resourceKey) := by
  have hkeys (k : ResourceKey) : k ∈ g.certificateRefs.map CertificateRef.resourceKey ↔
      ∃ c ∈ gw.terminateCertificates, c.resourceKey = k := by
    simp only [List.mem_map, mem_terminateCertificates h hnames]
    constructor
    · rintro ⟨r, hr, rfl⟩
      exact ⟨_, ⟨r, hr, rfl⟩, rfl⟩
    · rintro ⟨-, ⟨r, hr, rfl⟩, rfl⟩
      exact ⟨r, hr, rfl⟩
  have hlift {α : Type} (f : ResourceKey → α) (a : α) : (∃ c ∈ gw.terminateCertificates, f c.resourceKey = a) ↔
      ∃ k ∈ g.certificateRefs.map CertificateRef.resourceKey, f k = a := by
    simp only [hkeys]
    constructor
    · rintro ⟨c, hc, rfl⟩
      exact ⟨_, ⟨c, hc, rfl⟩, rfl⟩
    · rintro ⟨-, ⟨c, hc, rfl⟩, rfl⟩
      exact ⟨c, hc, rfl⟩
  refine ⟨fun k => ?_, fun ref => ?_, fun q => ?_, fun v v' hagree => ?_⟩
  · rw [hkeys, secretReferences, Std.ExtTreeSet.mem_ofList, List.contains_iff_mem, List.mem_map]
  · rw [grantReferences, List.mem_map]
    exact hlift (fun k => .ofKeys gw.resourceKey k gw.resourceKey) ref
  · rw [ListenerTlsConfigValidator.queries_eq, List.mem_map]
    exact hlift (fun k => ⟨gw.resourceKey, k, gw.resourceKey⟩) q
  · exact ListenerTlsConfigValidator.validate_congr_of_agreesOn fun c hc => hagree _ ((hkeys _).2 ⟨c, hc, rfl⟩)

end

/-! ## Writing out what is left out -/

/-- The same reference, or if it has no kind or no group then perhaps the one with the kind Secret or
the core group. -/
def CertificateRef.Spells (r r' : CertificateRef) : Prop :=
  ∃ group kind, (group = r.group ∨ r.group = none ∧ group = some "") ∧
    (kind = r.kind ∨ r.kind = none ∧ kind = some "Secret") ∧ r' = { r with group := group, kind := kind }

def KubeListenerTls.Spells (tls tls' : KubeListenerTls) : Prop :=
  ∃ refs, Option.Rel (List.Forall₂ CertificateRef.Spells) tls.certificateRefs refs ∧
    tls' = { tls with certificateRefs := refs }

def KubeListener.Spells (l l' : KubeListener) : Prop :=
  ∃ tls, Option.Rel KubeListenerTls.Spells l.tls tls ∧ l' = { l with tls := tls }

/-- The same gateway, some of whose certificate references are written out. -/
def KubeGateway.Spells (g g' : KubeGateway) : Prop :=
  ∃ listeners, List.Forall₂ KubeListener.Spells g.spec.listeners listeners ∧
    g' = { g with spec := { g.spec with listeners := listeners } }

def CertificateRef.spelledOut (r : CertificateRef) : CertificateRef :=
  { r with group := some (r.group.getD ""), kind := some (r.kind.getD "Secret") }

def KubeListenerTls.spelledOut (tls : KubeListenerTls) : KubeListenerTls :=
  { tls with certificateRefs := tls.certificateRefs.map (·.map CertificateRef.spelledOut) }

def KubeListener.spelledOut (l : KubeListener) : KubeListener :=
  { l with tls := l.tls.map KubeListenerTls.spelledOut }

def KubeGateway.spelledOut (g : KubeGateway) : KubeGateway :=
  { g with spec := { g.spec with listeners := g.spec.listeners.map KubeListener.spelledOut } }

theorem CertificateRef.spells_spelledOut (r : CertificateRef) : r.Spells r.spelledOut := by
  refine ⟨_, _, ?_, ?_, rfl⟩
  · cases r.group with
    | none => exact .inr ⟨rfl, rfl⟩
    | some group => exact .inl rfl
  · cases r.kind with
    | none => exact .inr ⟨rfl, rfl⟩
    | some kind => exact .inl rfl

theorem KubeListener.spells_spelledOut (l : KubeListener) : l.Spells l.spelledOut :=
  ⟨_, rel_map_of_forall (fun _ => ⟨_, rel_map_map_of_forall CertificateRef.spells_spelledOut _, rfl⟩) _, rfl⟩

theorem KubeGateway.spells_spelledOut (g : KubeGateway) : g.Spells g.spelledOut :=
  ⟨_, List.forall₂_map_right_iff.2 (List.forall₂_same.2 fun l _ => l.spells_spelledOut), rfl⟩

/-! ## Gateways that spell each other -/

theorem map_eq_of_forall₂ {α β : Type} {R : α → α → Prop} {f : α → β} (hf : ∀ a b, R a b → f b = f a) {l l' : List α}
    (h : List.Forall₂ R l l') : l'.map f = l.map f := by
  induction h with
  | nil => rfl
  | cons hr _ ih => rw [List.map_cons, List.map_cons, hf _ _ hr, ih]

theorem CertificateRef.Spells.address {r r' : CertificateRef} (h : r.Spells r') :
    r'.resourceKey.ns = r.resourceKey.ns ∧ r'.resourceKey.name = r.resourceKey.name := by
  obtain ⟨group, kind, -, -, rfl⟩ := h
  exact ⟨rfl, rfl⟩

/-- What two such listeners are converted into: references that satisfy `Q` are spelled, if any. -/
inductive TlsType.Spells (Q : CertificateRef → Prop) : TlsType → TlsType → Prop
  | passthrough : Spells Q .passthrough .passthrough
  | terminate {rs rs' : List CertificateRef} : List.Forall₂ (fun r r' => Q r ∧ r.Spells r') rs rs' →
    Spells Q (.terminate (rs.map fun r => .notResolved r.resourceKey))
      (.terminate (rs'.map fun r => .notResolved r.resourceKey))

/-- The listener with other certificates. -/
def Listener.withTlsType (l : Listener) (tlsType : Option TlsType) : Listener :=
  { l with data := { l.data with config := { l.data.config with tlsType := tlsType } } }

theorem Listener.tryFrom_eq {kl : KubeListener} {tlsType : Option TlsType} {protocol : ProtocolType}
    (htls : kl.tls.mapM TlsType.tryFrom = .ok tlsType) (hprotocol : ProtocolType.tryFrom kl.protocol = .ok protocol) :
    Listener.tryFrom kl = .ok
      { protocol := protocol
        data :=
          { config := { name := kl.name, port := kl.port, hostname := kl.hostname, tlsType := tlsType }
            conditions := ListenerConditions.replace ∅ (validateAllowedRoutes kl) } } := by
  rw [tryFrom, htls, hprotocol]
  rfl

theorem TlsType.tryFrom_spells {tls tls' : KubeListenerTls} (hs : tls.Spells tls') {t : TlsType}
    (h : TlsType.tryFrom tls = .ok t) :
    ∃ t', TlsType.tryFrom tls' = .ok t' ∧
      t.Spells (fun r => tls.mode = some .terminate ∧ r ∈ tls.certificateRefs.getD []) t' := by
  obtain ⟨refs, hrefs, rfl⟩ := hs
  rcases eq_of_tryFrom h with ⟨hmode, rfl⟩ | ⟨hmode, rfl⟩
  · exact ⟨.passthrough, by rw [tryFrom, hmode], .passthrough⟩
  · refine ⟨.terminate ((refs.getD []).map fun r => .notResolved r.resourceKey), by rw [tryFrom, hmode], ?_⟩
    exact .terminate ((List.forall₂_and_left _ _).2 ⟨fun r hr => ⟨hmode, hr⟩, forall₂_getD hrefs⟩)

/-- A listener with references written out converts if the listener does, and only its certificates differ. -/
theorem Listener.tryFrom_spells {kl kl' : KubeListener} (hs : kl.Spells kl') {l : Listener}
    (h : Listener.tryFrom kl = .ok l) : ∃ tlsType', Listener.tryFrom kl' = .ok (l.withTlsType tlsType') ∧
      Option.Rel (TlsType.Spells fun r => l.IsTls → r ∈ kl.certificateRefs) l.data.config.tlsType tlsType' := by
  have hprotocol := protocol_of_tryFrom h
  obtain ⟨tlsType, hmap, hdata⟩ := eq_of_tryFrom h
  obtain ⟨tls, hrel, rfl⟩ := hs
  have hl (tlsType' : Option TlsType) (htls : tls.mapM TlsType.tryFrom = .ok tlsType') :
      Listener.tryFrom { kl with tls := tls } = .ok (l.withTlsType tlsType') := by
    rw [@tryFrom_eq { kl with tls := tls } tlsType' l.protocol htls hprotocol, withTlsType, hdata]
    rfl
  rw [hdata]
  cases hkl : kl.tls with
  | none =>
    rw [hkl] at hmap hrel
    cases hrel
    obtain rfl := Except.ok.inj hmap
    exact ⟨none, hl none rfl, .none⟩
  | some tls₀ =>
    rw [hkl] at hmap hrel
    cases hrel with
    | some hspells =>
      rw [Option.mapM_some] at hmap
      cases ht : TlsType.tryFrom tls₀ with
      | error e =>
        rw [ht] at hmap
        cases hmap
      | ok t =>
        rw [ht] at hmap
        obtain rfl := Except.ok.inj hmap
        obtain ⟨t', ht', htypes⟩ := TlsType.tryFrom_spells hspells ht
        refine ⟨some t', hl (some t') (by rw [Option.mapM_some, ht']; rfl), .some ?_⟩
        cases htypes with
        | passthrough => exact .passthrough
        | terminate hrefs =>
          refine .terminate (hrefs.imp fun r r' hr => ⟨fun htls => ?_, hr.2⟩)
          rw [KubeListener.certificateRefs, if_pos ((ProtocolType.isTls_of_tryFrom hprotocol).1 htls), hkl]
          simp only [if_pos hr.1.1]
          exact hr.1.2

section

variable {parseUuid : String → Option Uuid} {g g' : KubeGateway} {t : GatewayImplementationType} {gw gw' : Gateway}

theorem KubeGateway.Spells.names (h : g.Spells g') : g'.spec.listeners.map (·.name) = g.spec.listeners.map (·.name) := by
  obtain ⟨listeners, hlisteners, rfl⟩ := h
  refine map_eq_of_forall₂ (fun kl kl' hkl => ?_) hlisteners
  obtain ⟨tls, -, rfl⟩ := hkl
  rfl

/-- Two such gateways are converted into the same one, but for their listeners. -/
theorem Gateway.eq_of_spells (hs : g.Spells g') (h : Gateway.tryFrom parseUuid g t = .ok gw)
    (h' : Gateway.tryFrom parseUuid g' t = .ok gw') : gw' = { gw with listeners := gw'.listeners } := by
  obtain ⟨listeners, -, rfl⟩ := hs
  simp only [Gateway.tryFrom] at h h'
  cases hid : parseUuid (g.metadata.uid.getD "") with
  | none =>
    rw [hid] at h
    cases h
  | some id =>
    rw [hid] at h h'
    simp only at h h'
    split at h
    · cases h
    · split at h'
      · cases h'
      · obtain rfl := Except.ok.inj h
        obtain rfl := Except.ok.inj h'
        rfl

/-- Under a name both have a listener, or neither. -/
theorem Gateway.rel_listeners (hs : g.Spells g') (h : Gateway.tryFrom parseUuid g t = .ok gw)
    (h' : Gateway.tryFrom parseUuid g' t = .ok gw') (hnames : (g.spec.listeners.map (·.name)).Nodup) (name : String) :
    Option.Rel (fun l l' => ∃ kl ∈ g.spec.listeners, Listener.tryFrom kl = .ok l ∧ ∃ tlsType', l' = l.withTlsType tlsType' ∧
      Option.Rel (TlsType.Spells fun r => l.IsTls → r ∈ kl.certificateRefs) l.data.config.tlsType tlsType')
      gw.listeners[name]? gw'.listeners[name]? := by
  have hnames' : (g'.spec.listeners.map (·.name)).Nodup := by rwa [hs.names]
  obtain ⟨listeners, hlisteners, hg'⟩ := hs
  have hspec : g'.spec.listeners = listeners := by rw [hg']
  rw [← hspec] at hlisteners
  have hname {kl kl' : KubeListener} (hkl : kl.Spells kl') : kl'.name = kl.name := by
    obtain ⟨tls, -, rfl⟩ := hkl
    rfl
  cases hl : gw.listeners[name]? with
  | none =>
    cases hl' : gw'.listeners[name]? with
    | none => exact .none
    | some l' =>
      obtain ⟨kl', hkl', rfl, -⟩ := (getElem?_listeners_iff h' hnames').1 hl'
      obtain ⟨kl, hkl, hspells⟩ := exists_of_forall₂_right hlisteners hkl'
      obtain ⟨l, hsome⟩ := exists_listener_of_tryFrom h hkl
      rw [← hname hspells, hl] at hsome
      cases hsome
  | some l =>
    obtain ⟨kl, hkl, rfl, hok⟩ := (getElem?_listeners_iff h hnames).1 hl
    obtain ⟨kl', hkl', hspells⟩ := exists_of_forall₂_left hlisteners hkl
    obtain ⟨tlsType', hok', hrel⟩ := Listener.tryFrom_spells hspells hok
    rw [(getElem?_listeners_iff h' hnames').2 ⟨kl', hkl', hname hspells, hok'⟩]
    exact .some ⟨kl, hkl, hok, tlsType', rfl, hrel⟩

end

end Kubvernor
