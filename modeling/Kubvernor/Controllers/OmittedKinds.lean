import Kubvernor.Controllers.SpelledKinds

/-!
# References without a kind

A backend reference without a kind refers to a Service, and conversion makes a Service backend of it. But
its key has no kind, and there it is another object than the Service: it is not tracked, no grant for
Services is for it, and nothing is found under it. So to write the kind that is meant changes what becomes
of a route, except for mirror backends that make no difference anyway (`kind_omitted_iff`).
-/

namespace Kubvernor

open Lib

/-! ## Writing the kind -/

/-- The same reference, or if it has no kind the one with the kind Service. -/
def BackendReference.Spells (br br' : BackendReference) : Prop :=
  br' = br ∨ br.kind = none ∧ br' = { br with kind := some "Service" }

/-- The same for the reference of a mirror filter. -/
def RequestMirror.Spells (m m' : RequestMirror) : Prop :=
  m' = m ∨ m.backendRef.kind = none ∧ m' = { m with backendRef := { m.backendRef with kind := some "Service" } }

def HttpRouteFilter.Spells (f f' : HttpRouteFilter) : Prop :=
  ∃ mirror, Option.Rel RequestMirror.Spells f.requestMirror mirror ∧ f' = { f with requestMirror := mirror }

def GrpcRouteFilter.Spells (f f' : GrpcRouteFilter) : Prop :=
  ∃ mirror, Option.Rel RequestMirror.Spells f.requestMirror mirror ∧ f' = { f with requestMirror := mirror }

section

variable {M F : Type}

structure KubeRouteRule.Spells (filterSpells : F → F → Prop) (rr rr' : KubeRouteRule M F) : Prop where
  ruleMatches : rr'.ruleMatches = rr.ruleMatches
  filters : Option.Rel (List.Forall₂ filterSpells) rr.filters rr'.filters
  backendRefs : Option.Rel (List.Forall₂ BackendReference.Spells) rr.backendRefs rr'.backendRefs

/-- The same route, some of whose backend references without a kind have the kind Service now. -/
structure KubeRoute.Spells (filterSpells : F → F → Prop) (r r' : KubeRoute M F) : Prop where
  metadata : r'.metadata = r.metadata
  hostnames : r'.spec.hostnames = r.spec.hostnames
  parentRefs : r'.spec.parentRefs = r.spec.parentRefs
  rules : Option.Rel (List.Forall₂ (KubeRouteRule.Spells filterSpells)) r.spec.rules r'.spec.rules
  status : r'.status = r.status

end

def HTTPRoute.Spells (r r' : HTTPRoute) : Prop := KubeRoute.Spells HttpRouteFilter.Spells r r'

def GRPCRoute.Spells (r r' : GRPCRoute) : Prop := KubeRoute.Spells GrpcRouteFilter.Spells r r'

/-! ## All kinds written -/

def BackendReference.spelledOut (br : BackendReference) : BackendReference :=
  { br with kind := some (br.kind.getD "Service") }

def RequestMirror.spelledOut (m : RequestMirror) : RequestMirror :=
  { m with backendRef := { m.backendRef with kind := some (m.backendRef.kind.getD "Service") } }

def HttpRouteFilter.spelledOut (f : HttpRouteFilter) : HttpRouteFilter :=
  { f with requestMirror := f.requestMirror.map RequestMirror.spelledOut }

def GrpcRouteFilter.spelledOut (f : GrpcRouteFilter) : GrpcRouteFilter :=
  { f with requestMirror := f.requestMirror.map RequestMirror.spelledOut }

section

variable {M F : Type}

def KubeRouteRule.spelledOut (filter : F → F) (rr : KubeRouteRule M F) : KubeRouteRule M F :=
  { rr with
    filters := rr.filters.map (·.map filter)
    backendRefs := rr.backendRefs.map (·.map BackendReference.spelledOut) }

def KubeRoute.spelledOut (filter : F → F) (r : KubeRoute M F) : KubeRoute M F :=
  { r with spec := { r.spec with rules := r.spec.rules.map (·.map (KubeRouteRule.spelledOut filter)) } }

theorem rel_map_of_forall {α : Type} {R : α → α → Prop} {f : α → α} (h : ∀ a, R a (f a)) :
    ∀ o : Option α, Option.Rel R o (o.map f)
  | none => .none
  | some a => .some (h a)

theorem rel_map_map_of_forall {α : Type} {R : α → α → Prop} {f : α → α} (h : ∀ a, R a (f a)) (o : Option (List α)) :
    Option.Rel (List.Forall₂ R) o (o.map (·.map f)) :=
  rel_map_of_forall (fun _ => List.forall₂_map_right_iff.2 (List.forall₂_same.2 fun a _ => h a)) o

theorem BackendReference.spells_spelledOut (br : BackendReference) : br.Spells br.spelledOut := by
  cases hkind : br.kind with
  | none => exact .inr ⟨hkind, by rw [spelledOut, hkind]; rfl⟩
  | some kind => exact .inl (by rw [spelledOut, hkind, Option.getD_some, ← hkind])

theorem RequestMirror.spells_spelledOut (m : RequestMirror) : m.Spells m.spelledOut := by
  cases hkind : m.backendRef.kind with
  | none => exact .inr ⟨hkind, by rw [spelledOut, hkind]; rfl⟩
  | some kind => exact .inl (by rw [spelledOut, hkind, Option.getD_some, ← hkind])

theorem HttpRouteFilter.spells_spelledOut (f : HttpRouteFilter) : f.Spells f.spelledOut :=
  ⟨_, rel_map_of_forall RequestMirror.spells_spelledOut _, rfl⟩

theorem GrpcRouteFilter.spells_spelledOut (f : GrpcRouteFilter) : f.Spells f.spelledOut :=
  ⟨_, rel_map_of_forall RequestMirror.spells_spelledOut _, rfl⟩

theorem KubeRoute.spells_spelledOut {filterSpells : F → F → Prop} {filter : F → F}
    (hfilter : ∀ f, filterSpells f (filter f)) (r : KubeRoute M F) : r.Spells filterSpells (r.spelledOut filter) where
  metadata := rfl
  hostnames := rfl
  parentRefs := rfl
  rules := rel_map_map_of_forall (fun _ =>
    ⟨rfl, rel_map_map_of_forall hfilter _, rel_map_map_of_forall BackendReference.spells_spelledOut _⟩) _
  status := rfl

end

/-! ## The backends of references without a kind -/

section

variable {ns : String} {k : ResourceKey}

theorem isServiceKind_getD {kind : Option String} :
    IsServiceKind (some (kind.getD "Service")) ↔ IsServiceKind kind := by
  cases kind with
  | none => exact iff_of_true (.inr rfl) (.inl rfl)
  | some kind => exact Iff.rfl

/-- The kind in the key of a Service: none, or Service. -/
theorem eq_service_of_isServiceKind {kind : Option String} (h : IsServiceKind kind) :
    kind.getD "Service" = "Service" := by
  rcases h with rfl | rfl <;> rfl

theorem BackendReference.spelledOut_of_some {br : BackendReference} {kind : String} (h : br.kind = some kind) :
    br.spelledOut = br := by
  rw [spelledOut, h, Option.getD_some, ← h]

theorem RequestMirror.spelledOut_of_some {m : RequestMirror} {kind : String} (h : m.backendRef.kind = some kind) :
    m.spelledOut = m := by
  rw [spelledOut, h, Option.getD_some, ← h]

theorem ofBackendReference_spelledOut {br : BackendReference} (h : IsServiceKind br.kind) :
    Backend.maybe (.service (.ofBackendReference br.spelledOut ns)) =
      (Backend.maybe (.service (.ofBackendReference br ns))).spelledOut := by
  simp only [Backend.spelledOut, ServiceTypeConfig.ofBackendReference, BackendReference.resourceKey,
    BackendReference.spelledOut, ResourceKey.asService, Option.getD_some, eq_service_of_isServiceKind h]

theorem ofHttpReference_spelledOut (br : BackendReference) :
    Backend.ofHttpReference ns br.spelledOut = (Backend.ofHttpReference ns br).spelledOut := by
  by_cases hservice : IsServiceKind br.kind
  · have hspelled : IsServiceKind br.spelledOut.kind := isServiceKind_getD.2 hservice
    unfold Backend.ofHttpReference
    rw [if_pos hservice, if_pos hspelled, ofBackendReference_spelledOut hservice]
  · obtain ⟨kind, hkind⟩ := Option.ne_none_iff_exists'.1 fun hnone => hservice (.inl hnone)
    rw [BackendReference.spelledOut_of_some hkind, Backend.ofHttpReference, if_neg hservice]
    split <;> rfl

theorem ofGrpcReference_spelledOut (br : BackendReference) :
    Backend.ofGrpcReference ns br.spelledOut = (Backend.ofGrpcReference ns br).spelledOut := by
  by_cases hservice : IsServiceKind br.kind
  · have hspelled : IsServiceKind br.spelledOut.kind := isServiceKind_getD.2 hservice
    unfold Backend.ofGrpcReference
    rw [if_pos hservice, if_pos hspelled, ofBackendReference_spelledOut hservice]
  · obtain ⟨kind, hkind⟩ := Option.ne_none_iff_exists'.1 fun hnone => hservice (.inl hnone)
    rw [BackendReference.spelledOut_of_some hkind, Backend.ofGrpcReference, if_neg hservice]
    rfl

theorem ofMirror_spelledOut (m : RequestMirror) :
    Backend.ofMirror ns m.spelledOut = (Backend.ofMirror ns m).spelledOut := by
  by_cases hservice : IsServiceKind m.backendRef.kind
  · have hspelled : IsServiceKind m.spelledOut.backendRef.kind := isServiceKind_getD.2 hservice
    simp only [Backend.ofMirror]
    rw [if_pos hservice, if_pos hspelled]
    simp only [Backend.spelledOut, ServiceTypeConfig.ofBackendObjectReference, BackendObjectReference.resourceKey,
      RequestMirror.spelledOut, ResourceKey.asService, Option.getD_some, eq_service_of_isServiceKind hservice]
  · obtain ⟨kind, hkind⟩ := Option.ne_none_iff_exists'.1 fun hnone => hservice (.inl hnone)
    rw [RequestMirror.spelledOut_of_some hkind]
    simp only [Backend.ofMirror, if_neg hservice]
    rfl

/-- The key of a Service has no kind exactly if the reference had none. -/
theorem omitted?_service {c : ServiceTypeConfig} {kind : Option String} (h : IsServiceKind kind)
    (hkind : c.resourceKey.kind = kind.getD "") :
    (Backend.maybe (.service c)).omitted? = if kind = none then some c.resourceKey.asService else none := by
  simp only [Backend.omitted?, hkind]
  rcases h with rfl | rfl
  · rfl
  · exact if_neg (by decide)

theorem omitted?_ofHttpReference {br : BackendReference} :
    (Backend.ofHttpReference ns br).omitted? =
      if br.kind = none then some (br.resourceKey ns).asService else none := by
  unfold Backend.ofHttpReference
  by_cases hservice : IsServiceKind br.kind
  · rw [if_pos hservice]
    exact omitted?_service hservice rfl
  · rw [if_neg hservice, if_neg fun hnone => hservice (.inl hnone)]
    split <;> rfl

theorem omitted?_ofGrpcReference {br : BackendReference} :
    (Backend.ofGrpcReference ns br).omitted? =
      if br.kind = none then some (br.resourceKey ns).asService else none := by
  unfold Backend.ofGrpcReference
  by_cases hservice : IsServiceKind br.kind
  · rw [if_pos hservice]
    exact omitted?_service hservice rfl
  · rw [if_neg hservice, if_neg fun hnone => hservice (.inl hnone)]
    rfl

theorem omitted?_ofMirror {m : RequestMirror} :
    (Backend.ofMirror ns m).omitted? =
      if m.backendRef.kind = none then some (m.backendRef.resourceKey ns).asService else none := by
  simp only [Backend.ofMirror]
  by_cases hservice : IsServiceKind m.backendRef.kind
  · rw [if_pos hservice]
    exact omitted?_service hservice rfl
  · rw [if_neg hservice, if_neg fun hnone => hservice (.inl hnone)]
    rfl

/-- The key of a Service has the kind exactly if the reference has it. -/
theorem maybeKey?_service {c : ServiceTypeConfig} {kind : Option String} (h : IsServiceKind kind)
    (hkind : c.resourceKey.kind = kind.getD "") : (Backend.maybe (.service c)).maybeKey? = some k ∧ k.kind = "Service" ↔
      kind = some "Service" ∧ c.resourceKey = k := by
  constructor
  · rintro ⟨hkey, hservice⟩
    obtain rfl := Option.some.inj hkey
    refine ⟨h.resolve_left ?_, rfl⟩
    rintro rfl
    exact absurd (hkind.symm.trans hservice) (by decide)
  · rintro ⟨rfl, rfl⟩
    exact ⟨rfl, hkind⟩

theorem maybeKey?_ofHttpReference {br : BackendReference} : (Backend.ofHttpReference ns br).maybeKey? = some k ∧
    k.kind = "Service" ↔ br.kind = some "Service" ∧ br.resourceKey ns = k := by
  unfold Backend.ofHttpReference
  by_cases hservice : IsServiceKind br.kind
  · rw [if_pos hservice]
    exact maybeKey?_service hservice rfl
  · rw [if_neg hservice]
    refine iff_of_false ?_ fun h => hservice (.inr h.1)
    rintro ⟨hkey, hkind⟩
    split at hkey
    · next hpool =>
      obtain rfl := Option.some.inj hkey
      have hkind' : br.kind.getD "" = "Service" := hkind
      rw [hpool] at hkind'
      exact absurd hkind' (by decide)
    · cases hkey

theorem maybeKey?_ofGrpcReference {br : BackendReference} : (Backend.ofGrpcReference ns br).maybeKey? = some k ∧
    k.kind = "Service" ↔ br.kind = some "Service" ∧ br.resourceKey ns = k := by
  unfold Backend.ofGrpcReference
  by_cases hservice : IsServiceKind br.kind
  · rw [if_pos hservice]
    exact maybeKey?_service hservice rfl
  · rw [if_neg hservice]
    exact iff_of_false (fun h => by cases h.1) fun h => hservice (.inr h.1)

theorem maybeKey?_ofMirror {m : RequestMirror} : (Backend.ofMirror ns m).maybeKey? = some k ∧
    k.kind = "Service" ↔ m.backendRef.kind = some "Service" ∧ m.backendRef.resourceKey ns = k := by
  simp only [Backend.ofMirror]
  by_cases hservice : IsServiceKind m.backendRef.kind
  · rw [if_pos hservice]
    exact maybeKey?_service hservice rfl
  · rw [if_neg hservice]
    exact iff_of_false (fun h => by cases h.1) fun h => hservice (.inr h.1)

theorem grantTarget?_ofGrpcReference (br : BackendReference) :
    (Backend.ofGrpcReference ns br).grantTarget? =
      if IsServiceKind br.kind then some (br.resourceKey ns) else none := by
  unfold Backend.ofGrpcReference
  split <;> rfl

end

/-! ## Rules of objects -/

section

variable {M F : Type}

namespace KubeRoute

/-- The references of all rules. -/
def backendReferences (r : KubeRoute M F) : List BackendReference :=
  (r.spec.rules.getD []).flatMap fun rr => rr.backendRefs.getD []

/-- The mirror filters of all rules. -/
def mirrors (mirror : F → Option RequestMirror) (r : KubeRoute M F) : List RequestMirror :=
  (r.spec.rules.getD []).flatMap fun rr => (rr.filters.getD []).filterMap mirror

end KubeRoute

/-- The backends of a rule, as conversion makes them of its references. -/
def KubeRouteRule.backends (ofReference : BackendReference → Backend) (ofMirror : RequestMirror → Backend)
    (mirror : F → Option RequestMirror) (rr : KubeRouteRule M F) : List Backend × List Backend :=
  ((rr.backendRefs.getD []).map ofReference, ((rr.filters.getD []).filterMap mirror).map ofMirror)

end

theorem ruleBackends_ofHTTPRoute (isIpAddr : String → Bool) (r : HTTPRoute) :
    (Route.ofHTTPRoute isIpAddr r).ruleBackends = (r.spec.rules.getD []).map
      (KubeRouteRule.backends (.ofHttpReference r.resourceKey.ns) (.ofMirror r.resourceKey.ns) (·.requestMirror)) := by
  show ((r.spec.rules.getD []).mapIdx (HTTPRoutingRule.ofKube r)).map _ = _
  apply map_mapIdx
  intro i rr
  exact Prod.ext rfl List.map_filterMap.symm

theorem ruleBackends_ofGRPCRoute (isIpAddr : String → Bool) (r : GRPCRoute) :
    (Route.ofGRPCRoute isIpAddr r).ruleBackends = (r.spec.rules.getD []).map
      (KubeRouteRule.backends (.ofGrpcReference r.resourceKey.ns) (.ofMirror r.resourceKey.ns) (·.requestMirror)) := by
  show ((r.spec.rules.getD []).mapIdx (GRPCRoutingRule.ofKube r)).map _ = _
  apply map_mapIdx
  intro i rr
  exact Prod.ext rfl List.map_filterMap.symm

/-! ## Rules of which some references are spelled out -/

section

variable {M F : Type} {filterSpells : F → F → Prop} {mirror : F → Option RequestMirror} {ns : String}
  {ofReference : BackendReference → Backend}

theorem forall₂_getD {α : Type} {R : α → α → Prop} {o o' : Option (List α)} (h : Option.Rel (List.Forall₂ R) o o') :
    List.Forall₂ R (o.getD []) (o'.getD []) := by
  cases h with
  | none => exact .nil
  | some h => exact h

/-- References that all have kinds are left as they are. -/
theorem eq_of_spells {refs refs' : List BackendReference} (h : List.Forall₂ BackendReference.Spells refs refs')
    (hkinds : ∀ br ∈ refs, br.kind ≠ none) : refs' = refs := by
  induction h with
  | nil => rfl
  | cons hbr _ ih =>
    rw [List.forall_mem_cons] at hkinds
    rw [ih hkinds.2, hbr.resolve_right fun hnone => hkinds.1 hnone.1]

/-- The backend of a mirror is left as it is, or spelled out. -/
theorem ofMirror_spells {P : ResourceKey → Prop} {m m' : RequestMirror} (h : m.Spells m')
    (hm : m.backendRef.kind = none → P (m.backendRef.resourceKey ns).asService) :
    Backend.ofMirror ns m' = Backend.ofMirror ns m ∨ ∃ k, (Backend.ofMirror ns m).omitted? = some k ∧
      Backend.ofMirror ns m' = (Backend.ofMirror ns m).spelledOut ∧ P k := by
  rcases h with rfl | ⟨hkind, rfl⟩
  · exact .inl rfl
  · refine .inr ⟨_, by rw [omitted?_ofMirror, if_pos hkind], ?_, hm hkind⟩
    rw [← ofMirror_spelledOut, RequestMirror.spelledOut, hkind]
    rfl

/-- Where all rule references have kinds, only mirror backends change. -/
theorem backends_spells {P : ResourceKey → Prop}
    (hfilters : ∀ f f', filterSpells f f' → Option.Rel RequestMirror.Spells (mirror f) (mirror f'))
    {rules rules' : List (KubeRouteRule M F)} (h : List.Forall₂ (KubeRouteRule.Spells filterSpells) rules rules')
    (hkinds : ∀ rr ∈ rules, ∀ br ∈ rr.backendRefs.getD [], br.kind ≠ none)
    (hmirrors : ∀ rr ∈ rules, ∀ m ∈ (rr.filters.getD []).filterMap mirror, m.backendRef.kind = none →
      P (m.backendRef.resourceKey ns).asService) :
    List.Forall₂ (fun p p' : List Backend × List Backend => p'.1 = p.1 ∧ List.Forall₂
        (fun b b' => b' = b ∨ ∃ k, b.omitted? = some k ∧ b' = b.spelledOut ∧ P k) p.2 p'.2)
      (rules.map (KubeRouteRule.backends ofReference (.ofMirror ns) mirror))
      (rules'.map (KubeRouteRule.backends ofReference (.ofMirror ns) mirror)) := by
  induction h with
  | nil => exact .nil
  | @cons rr rr' _ _ hrr _ ih =>
    rw [List.forall_mem_cons] at hkinds hmirrors
    refine .cons ⟨?_, ?_⟩ (ih hkinds.2 hmirrors.2)
    · exact congrArg (List.map ofReference) (eq_of_spells (forall₂_getD hrr.backendRefs) hkinds.1)
    · have hms : List.Forall₂ RequestMirror.Spells ((rr.filters.getD []).filterMap mirror)
          ((rr'.filters.getD []).filterMap mirror) :=
        List.rel_filterMap (fun _ _ hf => hfilters _ _ hf) (forall₂_getD hrr.filters)
      have hms' := hmirrors.1
      simp only [KubeRouteRule.backends]
      generalize (rr.filters.getD []).filterMap mirror = ms, (rr'.filters.getD []).filterMap mirror = ms' at hms hms'
      induction hms with
      | nil => exact .nil
      | cons hm _ ih =>
        rw [List.forall_mem_cons] at hms'
        exact .cons (ofMirror_spells hm hms'.1) (ih hms'.2)

/-- With all kinds written, so are those of the backends. -/
theorem backends_spelledOut (filter : F → F) (mirror : F → Option RequestMirror)
    (hfilter : ∀ f, mirror (filter f) = (mirror f).map RequestMirror.spelledOut)
    (hreference : ∀ br, ofReference br.spelledOut = (ofReference br).spelledOut) (rr : KubeRouteRule M F) :
    (rr.spelledOut filter).backends ofReference (.ofMirror ns) mirror =
      (((rr.backends ofReference (.ofMirror ns) mirror).1.map Backend.spelledOut),
        ((rr.backends ofReference (.ofMirror ns) mirror).2.map Backend.spelledOut)) := by
  refine Prod.ext ?_ ?_
  · simp only [KubeRouteRule.backends, KubeRouteRule.spelledOut]
    cases rr.backendRefs with
    | none => rfl
    | some refs => simp only [Option.map_some, Option.getD_some, List.map_map, Function.comp_def, hreference]
  · simp only [KubeRouteRule.backends, KubeRouteRule.spelledOut]
    cases rr.filters with
    | none => rfl
    | some filters =>
      simp only [Option.map_some, Option.getD_some, List.filterMap_map, List.map_filterMap, Function.comp_def,
        hfilter, Option.map_map, ofMirror_spelledOut]

end

/-! ## How routes are made of objects -/

section

variable {M F : Type}

/-- What conversion does with one kind of objects: which backends it makes of the references, and that their
kinds can be spelled out before or after. -/
structure RouteConversion (spells : F → F → Prop) (spelledOut : F → F) (mirror : F → Option RequestMirror)
    (ofReference : String → BackendReference → Backend) (toRoute : KubeRoute M F → Route) : Prop where
  resourceKey : ∀ {r r' : KubeRoute M F}, r'.metadata = r.metadata → (toRoute r').resourceKey = (toRoute r).resourceKey
  resolvesMirrors : ∀ r r' : KubeRoute M F, (toRoute r').resolvesMirrors = (toRoute r).resolvesMirrors
  ruleBackends : ∀ r : KubeRoute M F, (toRoute r).ruleBackends = (r.spec.rules.getD []).map
    (KubeRouteRule.backends (ofReference (toRoute r).resourceKey.ns) (.ofMirror (toRoute r).resourceKey.ns) mirror)
  spells_spelledOut : ∀ f, spells f (spelledOut f)
  mirror_spells : ∀ f f', spells f f' → Option.Rel RequestMirror.Spells (mirror f) (mirror f')
  mirror_spelledOut : ∀ f, mirror (spelledOut f) = (mirror f).map RequestMirror.spelledOut
  reference_spelledOut : ∀ ns br, ofReference ns br.spelledOut = (ofReference ns br).spelledOut
  omitted : ∀ ns br, (ofReference ns br).omitted? =
    if br.kind = none then some (br.resourceKey ns).asService else none
  maybeKey : ∀ ns br k, (ofReference ns br).maybeKey? = some k ∧ k.kind = "Service" ↔
    br.kind = some "Service" ∧ br.resourceKey ns = k
  grantTarget : ∀ ns br, (ofReference ns br).grantTarget? =
    if IsServiceKind br.kind then some (br.resourceKey ns) else none

/-- A reference or a mirror of the route has the kind Service, and is to this namespace and name. -/
def KubeRoute.NamesService (mirror : F → Option RequestMirror) (localNamespace : String) (r : KubeRoute M F)
    (ns name : String) : Prop :=
  (∃ br ∈ r.backendReferences, br.kind = some "Service" ∧ br.ns.getD localNamespace = ns ∧ br.name = name) ∨
    ∃ m ∈ r.mirrors mirror, m.backendRef.kind = some "Service" ∧ m.backendRef.ns.getD localNamespace = ns ∧
      m.backendRef.name = name

/-- What is said of the references of all rules is said rule by rule. -/
theorem forall_backendReferences {r : KubeRoute M F} {P : BackendReference → Prop} :
    (∀ br ∈ r.backendReferences, P br) ↔ ∀ rr ∈ r.spec.rules.getD [], ∀ br ∈ rr.backendRefs.getD [], P br :=
  List.forall_mem_flatMap

theorem forall_mirrors {r : KubeRoute M F} {mirror : F → Option RequestMirror} {P : RequestMirror → Prop} :
    (∀ m ∈ r.mirrors mirror, P m) ↔
      ∀ rr ∈ r.spec.rules.getD [], ∀ m ∈ (rr.filters.getD []).filterMap mirror, P m :=
  List.forall_mem_flatMap

theorem rules_spelledOut (filter : F → F) (r : KubeRoute M F) :
    (r.spelledOut filter).spec.rules.getD [] = (r.spec.rules.getD []).map (KubeRouteRule.spelledOut filter) := by
  simp only [KubeRoute.spelledOut]
  cases r.spec.rules <;> rfl

end

theorem httpConversion (isIpAddr : String → Bool) :
    RouteConversion HttpRouteFilter.Spells HttpRouteFilter.spelledOut (·.requestMirror) Backend.ofHttpReference
      (Route.ofHTTPRoute isIpAddr) where
  resourceKey h := congrArg (ObjectMeta.resourceKey · "HTTPRoute") h
  resolvesMirrors _ _ := rfl
  ruleBackends r := ruleBackends_ofHTTPRoute isIpAddr r
  spells_spelledOut := HttpRouteFilter.spells_spelledOut
  mirror_spells := by
    rintro f f' ⟨mirror, hmirror, rfl⟩
    exact hmirror
  mirror_spelledOut _ := rfl
  reference_spelledOut _ := ofHttpReference_spelledOut
  omitted _ _ := omitted?_ofHttpReference
  maybeKey _ _ _ := maybeKey?_ofHttpReference
  grantTarget := grantTarget?_ofHttpReference

theorem grpcConversion (isIpAddr : String → Bool) :
    RouteConversion GrpcRouteFilter.Spells GrpcRouteFilter.spelledOut (·.requestMirror) Backend.ofGrpcReference
      (Route.ofGRPCRoute isIpAddr) where
  resourceKey h := congrArg (ObjectMeta.resourceKey · "GRPCRoute") h
  resolvesMirrors _ _ := rfl
  ruleBackends r := ruleBackends_ofGRPCRoute isIpAddr r
  spells_spelledOut := GrpcRouteFilter.spells_spelledOut
  mirror_spells := by
    rintro f f' ⟨mirror, hmirror, rfl⟩
    exact hmirror
  mirror_spelledOut _ := rfl
  reference_spelledOut _ := ofGrpcReference_spelledOut
  omitted _ _ := omitted?_ofGrpcReference
  maybeKey _ _ _ := maybeKey?_ofGrpcReference
  grantTarget _ := grantTarget?_ofGrpcReference

namespace RouteConversion

variable {M F : Type} {spells : F → F → Prop} {spelledOut : F → F} {mirror : F → Option RequestMirror}
  {ofReference : String → BackendReference → Backend} {toRoute : KubeRoute M F → Route}
  (h : RouteConversion spells spelledOut mirror ofReference toRoute)

include h

theorem backends (r : KubeRoute M F) :
    (toRoute r).backends = r.backendReferences.map (ofReference (toRoute r).resourceKey.ns) := by
  rw [Route.backends_eq, h.ruleBackends, List.flatMap_map, KubeRoute.backendReferences, List.map_flatMap]
  rfl

theorem filterBackends (r : KubeRoute M F) :
    (toRoute r).filterBackends = (r.mirrors mirror).map (.ofMirror (toRoute r).resourceKey.ns) := by
  rw [Route.filterBackends_eq, h.ruleBackends, List.flatMap_map, KubeRoute.mirrors, List.map_flatMap]
  rfl

/-- The Services that are tracked for a route are those it names. -/
theorem mem_serviceReferences {r : KubeRoute M F} {k : ResourceKey} : k ∈ (toRoute r).serviceReferences ↔
    k.group = DEFAULT_GROUP_NAME ∧ k.kind = "Service" ∧
      r.NamesService mirror (toRoute r).resourceKey.ns k.ns k.name := by
  rw [Route.serviceReferences, mem_referencesOfKind, h.backends, h.filterBackends]
  constructor
  · rintro ⟨⟨b, hb, hkey⟩, hkind⟩
    rcases List.mem_append.1 hb with hb | hb
    · obtain ⟨br, hbr, rfl⟩ := List.mem_map.1 hb
      obtain ⟨hservice, rfl⟩ := (h.maybeKey _ br k).1 ⟨hkey, hkind⟩
      exact ⟨rfl, hkind, .inl ⟨br, hbr, hservice, rfl, rfl⟩⟩
    · obtain ⟨m, hm, rfl⟩ := List.mem_map.1 hb
      obtain ⟨hservice, rfl⟩ := maybeKey?_ofMirror.1 ⟨hkey, hkind⟩
      exact ⟨rfl, hkind, .inr ⟨m, hm, hservice, rfl, rfl⟩⟩
  · rintro ⟨hgroup, hkind, ⟨br, hbr, hservice, hns, hname⟩ | ⟨m, hm, hservice, hns, hname⟩⟩
    · have hkey : br.resourceKey (toRoute r).resourceKey.ns = k := by
        refine ResourceKey.eq_of_fields hgroup.symm hns hname ?_
        rw [BackendReference.resourceKey, hservice, hkind]
        rfl
      have hb := (h.maybeKey _ br k).2 ⟨hservice, hkey⟩
      exact ⟨⟨_, List.mem_append_left _ (List.mem_map_of_mem hbr), hb.1⟩, hkind⟩
    · have hkey : m.backendRef.resourceKey (toRoute r).resourceKey.ns = k := by
        refine ResourceKey.eq_of_fields hgroup.symm hns hname ?_
        rw [BackendObjectReference.resourceKey, hservice, hkind]
        rfl
      have hb := maybeKey?_ofMirror.2 ⟨hservice, hkey⟩
      exact ⟨⟨_, List.mem_append_right _ (List.mem_map_of_mem hm), hb.1⟩, hkind⟩

/-- What the grants resolver may be asked about for a route. -/
theorem mem_grantTargets {r : KubeRoute M F} {t : ResourceKey} :
    t ∈ (toRoute r).backends.filterMap Backend.grantTarget? ↔
      ∃ br ∈ r.backendReferences, IsServiceKind br.kind ∧ br.resourceKey (toRoute r).resourceKey.ns = t := by
  rw [h.backends, List.filterMap_map, List.mem_filterMap]
  simp only [Function.comp_apply, h.grantTarget, Option.ite_none_right_eq_some, Option.some.injEq]

/-- With all kinds written in the object, all are spelled out in the route. -/
theorem spelledOut_toRoute (r : KubeRoute M F) : SpelledOut (toRoute r) (toRoute (r.spelledOut spelledOut)) := by
  have hkey : (toRoute (r.spelledOut spelledOut)).resourceKey = (toRoute r).resourceKey := h.resourceKey rfl
  refine ⟨hkey, h.resolvesMirrors _ _, ?_⟩
  rw [h.ruleBackends, h.ruleBackends, hkey, rules_spelledOut, List.map_map, List.map_map]
  exact List.map_congr_left fun rr _ =>
    backends_spelledOut spelledOut mirror h.mirror_spelledOut (h.reference_spelledOut _) rr

/-- Where the references have kinds, and the mirrors without one do no harm, only such mirrors change. -/
theorem harmlesslySpelled {gateway : Gateway} {linked : Route → Prop} {r r' : KubeRoute M F}
    (hspells : r.Spells spells r') (hkinds : ∀ br ∈ r.backendReferences, br.kind ≠ none)
    (hmirrors : ∀ m ∈ r.mirrors mirror, m.backendRef.kind = none →
      TrackedBy linked (m.backendRef.resourceKey (toRoute r).resourceKey.ns).asService ∧
        ((toRoute r).resolvesMirrors = true → ¬ Reaches gateway linked (toRoute r).resourceKey
          (m.backendRef.ns.getD (toRoute r).resourceKey.ns) m.backendRef.name)) :
    HarmlesslySpelled gateway linked (toRoute r) (toRoute r') := by
  have hkey : (toRoute r').resourceKey = (toRoute r).resourceKey := h.resourceKey hspells.metadata
  refine ⟨hkey, h.resolvesMirrors _ _, ?_⟩
  rw [h.ruleBackends, h.ruleBackends, hkey]
  exact backends_spells h.mirror_spells (forall₂_getD hspells.rules) (forall_backendReferences.1 hkinds)
    (forall_mirrors.1 hmirrors)

/-- To write kinds makes no difference exactly if the references have them, and the mirrors without one are
tracked with it anyway and, if they are resolved, out of reach. -/
theorem treatedAlike_iff {isIpAddr : String → Bool} {gateway : Gateway} {others : Route → Prop} {r : KubeRoute M F}
    (link : KubeRoute M F → RouteStores)
    (hlink : ∀ r' : KubeRoute M F, r'.metadata = r.metadata →
      (link r').LinkedWith isIpAddr gateway.resourceKey (toRoute r') others)
    (hplain : PlainTargets fun o => o = toRoute r ∨ others o)
    (hkind : gateway.resourceKey.kind ≠ (toRoute r).resourceKey.kind) :
    (∀ r' : KubeRoute M F, r.Spells spells r' →
        TreatedAlike isIpAddr gateway (link r) (link r') (toRoute r) (toRoute r')) ↔
      (∀ br ∈ r.backendReferences, br.kind ≠ none) ∧ ∀ m ∈ r.mirrors mirror, m.backendRef.kind = none →
        TrackedBy (fun o => o = toRoute r ∨ others o)
            (m.backendRef.resourceKey (toRoute r).resourceKey.ns).asService ∧
          ((toRoute r).resolvesMirrors = true → ¬ Reaches gateway (fun o => o = toRoute r ∨ others o)
            (toRoute r).resourceKey (m.backendRef.ns.getD (toRoute r).resourceKey.ns) m.backendRef.name) := by
  have hold := hlink r rfl
  constructor
  · intro halike
    have hspelled := h.spelledOut_toRoute r
    have hnew := hlink (r.spelledOut spelledOut) rfl
    have halike := halike _ (KubeRoute.spells_spelledOut h.spells_spelledOut r)
    refine ⟨fun br hbr hnone => ?_, fun m hm hnone => ?_⟩
    · have homitted := hspelled.backends_spelled hold hnew halike hplain (ofReference (toRoute r).resourceKey.ns br)
        (by rw [h.backends]; exact List.mem_map_of_mem hbr)
      rw [h.omitted, if_pos hnone] at homitted
      cases homitted
    · have hb : Backend.ofMirror (toRoute r).resourceKey.ns m ∈ (toRoute r).filterBackends := by
        rw [h.filterBackends]
        exact List.mem_map_of_mem hm
      have homitted : (Backend.ofMirror (toRoute r).resourceKey.ns m).omitted? =
          some (m.backendRef.resourceKey (toRoute r).resourceKey.ns).asService := by
        rw [omitted?_ofMirror, if_pos hnone]
      exact ⟨hspelled.trackedBy hold hnew halike hb homitted, fun hmirrors =>
        hspelled.not_reaches hold hnew halike hplain hmirrors hb homitted rfl⟩
  · rintro ⟨hkinds, hmirrors⟩ r' hspells
    exact (h.harmlesslySpelled hspells hkinds hmirrors).treatedAlike hkind hold (hlink r' hspells.metadata)

end RouteConversion

/-! ## What linked routes refer to -/

/-- A reference or a mirror of a linked route has the kind Service, and is to this namespace and name. -/
def NamedByLinked (routes : RouteStores) (g : GatewayKey) (ns name : String) : Prop :=
  (∃ r ∈ (routes.getHttpRoutesAttachedToGateway g).getD [],
      r.NamesService (·.requestMirror) r.resourceKey.ns ns name) ∨
    ∃ r ∈ (routes.getGrpcRoutesAttachedToGateway g).getD [],
      r.NamesService (·.requestMirror) r.resourceKey.ns ns name

/-- An HTTP route may reach this namespace and name: without a grant, or a linked HTTP route of its namespace
has a backend reference to it, and a grant may be given. -/
def HTTPRoute.MayReach (routes : RouteStores) (gatewayKey : GatewayKey) (r : HTTPRoute) (ns name : String) : Prop :=
  isPermitted gatewayKey.ns r.resourceKey.ns ns = true ∨
    ∃ r' ∈ (routes.getHttpRoutesAttachedToGateway gatewayKey).getD [], r'.resourceKey.ns = r.resourceKey.ns ∧
      ∃ br ∈ r'.backendReferences, IsServiceKind br.kind ∧ br.ns.getD r'.resourceKey.ns = ns ∧ br.name = name

section

variable {isIpAddr : String → Bool} {routes : RouteStores} {gateway : Gateway} {g : GatewayKey}

/-- The kinds in the keys of Services. -/
theorem kind_of_isServiceKind {kind : Option String} (h : IsServiceKind kind) :
    kind.getD "" = "" ∨ kind.getD "" = "Service" := by
  rcases h with rfl | rfl
  · exact .inl rfl
  · exact .inr rfl

theorem plainTargets_linked : PlainTargets fun o => o ∈ routes.findLinkedRoutes isIpAddr g := by
  intro o ho t ht
  rcases mem_findLinkedRoutes.1 ho with ⟨r, -, rfl⟩ | ⟨r, -, rfl⟩
  · obtain ⟨br, -, hkind, rfl⟩ := (httpConversion isIpAddr).mem_grantTargets.1 ht
    exact ⟨rfl, kind_of_isServiceKind hkind⟩
  · obtain ⟨br, -, hkind, rfl⟩ := (grpcConversion isIpAddr).mem_grantTargets.1 ht
    exact ⟨rfl, kind_of_isServiceKind hkind⟩

/-- A full key is tracked if a linked route names its Service. -/
theorem trackedBy_linked {k : ResourceKey} (hgroup : k.group = DEFAULT_GROUP_NAME) (hkind : k.kind = "Service") :
    TrackedBy (fun o => o ∈ routes.findLinkedRoutes isIpAddr g) k ↔ NamedByLinked routes g k.ns k.name := by
  have hhttp (r : HTTPRoute) : k ∈ (Route.ofHTTPRoute isIpAddr r).serviceReferences ↔
      r.NamesService (·.requestMirror) r.resourceKey.ns k.ns k.name := by
    rw [(httpConversion isIpAddr).mem_serviceReferences, and_iff_right hgroup, and_iff_right hkind]
    rfl
  have hgrpc (r : GRPCRoute) : k ∈ (Route.ofGRPCRoute isIpAddr r).serviceReferences ↔
      r.NamesService (·.requestMirror) r.resourceKey.ns k.ns k.name := by
    rw [(grpcConversion isIpAddr).mem_serviceReferences, and_iff_right hgroup, and_iff_right hkind]
    rfl
  unfold TrackedBy NamedByLinked
  constructor
  · rintro ⟨o, ho, hk⟩
    rcases mem_findLinkedRoutes.1 ho with ⟨r, hr, rfl⟩ | ⟨r, hr, rfl⟩
    · exact .inl ⟨r, hr, (hhttp r).1 hk⟩
    · exact .inr ⟨r, hr, (hgrpc r).1 hk⟩
  · rintro (⟨r, hr, hnames⟩ | ⟨r, hr, hnames⟩)
    · exact ⟨_, mem_findLinkedRoutes.2 (.inl ⟨r, hr, rfl⟩), (hhttp r).2 hnames⟩
    · exact ⟨_, mem_findLinkedRoutes.2 (.inr ⟨r, hr, rfl⟩), (hgrpc r).2 hnames⟩

/-- Only backend references of HTTP routes of the same namespace help an HTTP route. -/
theorem reaches_linked {r : HTTPRoute} {ns name : String} :
    Reaches gateway (fun o => o ∈ routes.findLinkedRoutes isIpAddr gateway.resourceKey) r.resourceKey ns name ↔
      r.MayReach routes gateway.resourceKey ns name := by
  unfold Reaches HTTPRoute.MayReach
  refine or_congr_right ?_
  constructor
  · rintro ⟨o, ho, hsender, t, ht, hns, hname⟩
    rcases mem_findLinkedRoutes.1 ho with ⟨r', hr', rfl⟩ | ⟨r', -, rfl⟩
    · obtain ⟨br, hbr, hkind, rfl⟩ := (httpConversion isIpAddr).mem_grantTargets.1 ht
      exact ⟨r', hr', congrArg FromResourceKey.ns hsender, br, hbr, hkind, hns, hname⟩
    · exact absurd (congrArg FromResourceKey.kind hsender) (by decide : "GRPCRoute" ≠ "HTTPRoute")
  · rintro ⟨r', hr', hns', br, hbr, hkind, hns, hname⟩
    refine ⟨_, mem_findLinkedRoutes.2 (.inl ⟨r', hr', rfl⟩), ?_, br.resourceKey r'.resourceKey.ns, ?_, hns, hname⟩
    · show FromResourceKey.ofKey r'.resourceKey = .ofKey r.resourceKey
      unfold FromResourceKey.ofKey
      rw [hns']
      rfl
    · exact (httpConversion isIpAddr).mem_grantTargets.2 ⟨br, hbr, hkind, rfl⟩

end

/-! ## When an omitted kind means Service -/

/-- Every backend reference has a kind; a mirror without one makes no difference, since a linked route names
its Service with the kind, and an HTTP route may not reach it. -/
structure HTTPRoute.KindsGiven (routes : RouteStores) (gatewayKey : GatewayKey) (r : HTTPRoute) : Prop where
  backendRefs : ∀ br ∈ r.backendReferences, br.kind ≠ none
  mirrors : ∀ m ∈ r.mirrors (·.requestMirror), m.backendRef.kind = none →
    NamedByLinked routes gatewayKey (m.backendRef.ns.getD r.resourceKey.ns) m.backendRef.name ∧
      ¬ r.MayReach routes gatewayKey (m.backendRef.ns.getD r.resourceKey.ns) m.backendRef.name

/-- The mirrors of a GRPC route are tracked, and not resolved. -/
structure GRPCRoute.KindsGiven (routes : RouteStores) (gatewayKey : GatewayKey) (r : GRPCRoute) : Prop where
  backendRefs : ∀ br ∈ r.backendReferences, br.kind ≠ none
  mirrors : ∀ m ∈ r.mirrors (·.requestMirror), m.backendRef.kind = none →
    NamedByLinked routes gatewayKey (m.backendRef.ns.getD r.resourceKey.ns) m.backendRef.name

section

variable {isIpAddr : String → Bool} {routes : RouteStores} {gateway : Gateway}

theorem treatedAlike_http_iff (hroutes : routes.StoredByKey) (hgateway : gateway.resourceKey.kind = "Gateway")
    (r : HTTPRoute) :
    (∀ r' : HTTPRoute, r.Spells r' → TreatedAlike isIpAddr gateway (routes.linkHttp gateway.resourceKey r)
        (routes.linkHttp gateway.resourceKey r') (.ofHTTPRoute isIpAddr r) (.ofHTTPRoute isIpAddr r')) ↔
      r.KindsGiven (routes.linkHttp gateway.resourceKey r) gateway.resourceKey := by
  have hlink (r' : HTTPRoute) (hmetadata : r'.metadata = r.metadata) :
      (routes.linkHttp gateway.resourceKey r').LinkedWith isIpAddr gateway.resourceKey (.ofHTTPRoute isIpAddr r')
        (routes.OtherLinked isIpAddr gateway.resourceKey r.resourceKey) := by
    have hkey : r'.resourceKey = r.resourceKey := congrArg (ObjectMeta.resourceKey · "HTTPRoute") hmetadata
    rw [← hkey]
    exact RouteStores.linkedWith_linkHttp isIpAddr hroutes gateway.resourceKey r'
  have hlinked := funext fun o => propext ((hlink r rfl).mem o).symm
  refine ((httpConversion isIpAddr).treatedAlike_iff _ hlink ?_ ?_).trans ?_
  · rw [hlinked]
    exact plainTargets_linked
  · rw [hgateway]
    exact (by decide : "Gateway" ≠ "HTTPRoute")
  · rw [hlinked]
    constructor
    · rintro ⟨hkinds, hmirrors⟩
      refine ⟨hkinds, fun m hm hnone => ?_⟩
      obtain ⟨htracked, hreach⟩ := hmirrors m hm hnone
      exact ⟨(trackedBy_linked rfl rfl).1 htracked, mt reaches_linked.2 (hreach rfl)⟩
    · rintro ⟨hkinds, hmirrors⟩
      refine ⟨hkinds, fun m hm hnone => ?_⟩
      obtain ⟨hnamed, hreach⟩ := hmirrors m hm hnone
      exact ⟨(trackedBy_linked rfl rfl).2 hnamed, fun _ => mt reaches_linked.1 hreach⟩

theorem treatedAlike_grpc_iff (hroutes : routes.StoredByKey) (hgateway : gateway.resourceKey.kind = "Gateway")
    (r : GRPCRoute) :
    (∀ r' : GRPCRoute, r.Spells r' → TreatedAlike isIpAddr gateway (routes.linkGrpc gateway.resourceKey r)
        (routes.linkGrpc gateway.resourceKey r') (.ofGRPCRoute isIpAddr r) (.ofGRPCRoute isIpAddr r')) ↔
      r.KindsGiven (routes.linkGrpc gateway.resourceKey r) gateway.resourceKey := by
  have hlink (r' : GRPCRoute) (hmetadata : r'.metadata = r.metadata) :
      (routes.linkGrpc gateway.resourceKey r').LinkedWith isIpAddr gateway.resourceKey (.ofGRPCRoute isIpAddr r')
        (routes.OtherLinked isIpAddr gateway.resourceKey r.resourceKey) := by
    have hkey : r'.resourceKey = r.resourceKey := congrArg (ObjectMeta.resourceKey · "GRPCRoute") hmetadata
    rw [← hkey]
    exact RouteStores.linkedWith_linkGrpc isIpAddr hroutes gateway.resourceKey r'
  have hlinked := funext fun o => propext ((hlink r rfl).mem o).symm
  refine ((grpcConversion isIpAddr).treatedAlike_iff _ hlink ?_ ?_).trans ?_
  · rw [hlinked]
    exact plainTargets_linked
  · rw [hgateway]
    exact (by decide : "Gateway" ≠ "GRPCRoute")
  · rw [hlinked]
    constructor
    · rintro ⟨hkinds, hmirrors⟩
      exact ⟨hkinds, fun m hm hnone => (trackedBy_linked rfl rfl).1 (hmirrors m hm hnone).1⟩
    · rintro ⟨hkinds, hmirrors⟩
      refine ⟨hkinds, fun m hm hnone => ⟨(trackedBy_linked rfl rfl).2 (hmirrors m hm hnone), fun h => ?_⟩⟩
      exact absurd h Bool.false_ne_true

/-- **When an omitted kind means Service.** To write the kind Service where a route has none changes neither what
is polled, nor what the grants decide, nor what becomes of the backends, in any cluster, exactly if the route
gives the kinds that matter. Every converted gateway has the kind. -/
theorem kind_omitted_iff (isIpAddr : String → Bool) (routes : RouteStores) (gateway : Gateway)
    (hroutes : routes.StoredByKey) (hgateway : gateway.resourceKey.kind = "Gateway") :
    (∀ r : HTTPRoute, (∀ r' : HTTPRoute, r.Spells r' →
        TreatedAlike isIpAddr gateway (routes.linkHttp gateway.resourceKey r)
          (routes.linkHttp gateway.resourceKey r') (.ofHTTPRoute isIpAddr r) (.ofHTTPRoute isIpAddr r')) ↔
      r.KindsGiven (routes.linkHttp gateway.resourceKey r) gateway.resourceKey) ∧
    ∀ r : GRPCRoute, (∀ r' : GRPCRoute, r.Spells r' →
        TreatedAlike isIpAddr gateway (routes.linkGrpc gateway.resourceKey r)
          (routes.linkGrpc gateway.resourceKey r') (.ofGRPCRoute isIpAddr r) (.ofGRPCRoute isIpAddr r')) ↔
      r.KindsGiven (routes.linkGrpc gateway.resourceKey r) gateway.resourceKey :=
  ⟨treatedAlike_http_iff hroutes hgateway, treatedAlike_grpc_iff hroutes hgateway⟩

end

/-! ## Routes to one Service -/

/-- A route to the Service `cart`, whose kind is given or not. -/
def cartRoute (kind : Option String) : HTTPRoute where
  metadata := { name := some "shop" }
  spec := { rules := some [{ backendRefs := some [{ name := "cart", kind := kind }] }] }

def shopGateway : Gateway where
  id := 0
  resourceKey := .new "edge"

theorem storedByKey_empty : ({} : RouteStores).StoredByKey :=
  ⟨fun k r h => by simp at h, fun k r h => by simp at h⟩

/-- A GRPC route to the Service, which it mirrors its requests to as well; the mirror has a kind or not. -/
def checkoutRoute (kind : Option String) : GRPCRoute where
  metadata := { name := some "checkout" }
  spec := { rules := some [{
    backendRefs := some [{ name := "cart", kind := some "Service" }]
    filters := some [{
      type := .requestMirror
      requestMirror := some { backendRef := { name := "cart", kind := kind } } }] }] }

/-- The stores in which another route to the Service is linked to the gateway. -/
def shopRoutes : RouteStores := ({} : RouteStores).linkHttp shopGateway.resourceKey (cartRoute (some "Service"))

/-- **A mirror without a kind makes no difference** beside a reference to its Service with the kind. -/
theorem checkoutRoute_treatedAlike :
    (checkoutRoute none).KindsGiven (shopRoutes.linkGrpc shopGateway.resourceKey (checkoutRoute none))
      shopGateway.resourceKey ∧
    (checkoutRoute none).Spells (checkoutRoute (some "Service")) ∧
    TreatedAlike (fun _ => false) shopGateway
      (shopRoutes.linkGrpc shopGateway.resourceKey (checkoutRoute none))
      (shopRoutes.linkGrpc shopGateway.resourceKey (checkoutRoute (some "Service")))
      (.ofGRPCRoute (fun _ => false) (checkoutRoute none))
      (.ofGRPCRoute (fun _ => false) (checkoutRoute (some "Service"))) := by
  have hroutes : shopRoutes.StoredByKey := storedByKey_empty.linkHttp _ _
  have hkinds : (checkoutRoute none).KindsGiven (shopRoutes.linkGrpc shopGateway.resourceKey (checkoutRoute none))
      shopGateway.resourceKey := by
    constructor
    · intro br hbr
      obtain rfl := List.mem_singleton.1 hbr
      decide
    · intro m hm _
      obtain rfl := List.mem_singleton.1 hm
      have hlinked : checkoutRoute none ∈ ((shopRoutes.linkGrpc shopGateway.resourceKey
          (checkoutRoute none)).getGrpcRoutesAttachedToGateway shopGateway.resourceKey).getD [] := by
        decide +kernel
      exact .inr ⟨_, hlinked, .inl ⟨_, List.mem_singleton_self _, rfl, rfl, rfl⟩⟩
  have hspells : (checkoutRoute none).Spells (checkoutRoute (some "Service")) :=
    ⟨rfl, rfl, rfl, .some (.cons ⟨rfl, .some (.cons ⟨_, .some (.inr ⟨rfl, rfl⟩), rfl⟩ .nil),
      .some (.cons (.inl rfl) .nil)⟩ .nil), rfl⟩
  exact ⟨hkinds, hspells,
    ((kind_omitted_iff (fun _ => false) shopRoutes shopGateway hroutes rfl).2 _).2 hkinds _ hspells⟩

/-- **Without it the Service is not found.** -/
theorem cartRoute_not_treatedAlike : ¬ ∀ r' : HTTPRoute, (cartRoute none).Spells r' →
    TreatedAlike (fun _ => false) shopGateway (({} : RouteStores).linkHttp shopGateway.resourceKey (cartRoute none))
      (({} : RouteStores).linkHttp shopGateway.resourceKey r')
      (.ofHTTPRoute (fun _ => false) (cartRoute none)) (.ofHTTPRoute (fun _ => false) r') := by
  intro halike
  have hkinds := ((treatedAlike_http_iff storedByKey_empty rfl (cartRoute none)).1 halike).backendRefs
  exact hkinds { name := "cart" } (List.mem_singleton_self _) rfl

end Kubvernor
