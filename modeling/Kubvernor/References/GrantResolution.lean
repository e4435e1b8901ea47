import Kubvernor.References.Grants

/-!
# Resolving reference grants

`ReferenceGrantsResolver::resolve_internal` lists the grants of the namespace of every reference it
tracks and spells out each pair of their entries as a permission of its own, for the gateway of the
reference it listed them for. A tracked reference is allowed if its permission is among them, by name
or for any name. The gateways of the references whose standing changed are sent to the validator.

**`resolveInternal_exact`**: a reference is allowed exactly if it is tracked and a grant of the
target's namespace permits it, and the message names exactly the gateways with a changed entry. That
permissions of other namespaces and gateways cannot answer for a reference rests on their keys: a
permission keeps the namespace of its grant and the gateway of a reference (`mem_configured`).
-/

namespace Kubvernor

/-! ## Grants -/

structure ReferenceGrantFrom where
  group : String
  ns : String
  kind : String
deriving DecidableEq, Repr

structure ReferenceGrantTo where
  group : String
  kind : String
  name : Option String := none
deriving DecidableEq, Repr

/-- `ReferenceGrant`; `senders` and `targets` are its lists `from` and `to`. -/
structure ReferenceGrant where
  metadata : ObjectMeta := {}
  senders : List ReferenceGrantFrom
  targets : List ReferenceGrantTo
deriving DecidableEq, Repr

/-- `grant.namespace().unwrap_or(String::new())`. -/
def ReferenceGrant.ns (grant : ReferenceGrant) : String := grant.metadata.ns.getD ""

/-- `FromResourceKey::from(&ReferenceGrantFrom)`. -/
def FromResourceKey.ofGrant (f : ReferenceGrantFrom) : FromResourceKey :=
  { group := f.group, ns := f.ns, kind := f.kind }

/-- `ToResourceKey::from(&ReferenceGrantTo)`: an empty group is the default one. -/
def ToResourceKey.ofGrant (t : ReferenceGrantTo) : ToResourceKey where
  group := if t.group = "" then DEFAULT_GROUP_NAME else t.group
  name := t.name
  kind := t.kind

/-- Lists the grants of a namespace, or fails. -/
structure ReferenceGrantLister where
  list : String → Except String (List ReferenceGrant)
  ns_eq : ∀ {ns grants}, list ns = .ok grants → ∀ grant ∈ grants, grant.ns = ns

/-- `ReferenceValidateRequest::UpdatedGateways`. -/
structure UpdatedGateways where
  reference : ResourceKey
  gateways : Std.ExtTreeSet GatewayKey

/-! ## The resolver -/

/-- The permission with any name for its target. -/
def ReferenceGrantRef.anyName (r : ReferenceGrantRef) : ReferenceGrantRef :=
  { r with target := { r.target with name := none } }

namespace ReferenceGrantsResolver

/-- The permissions the grants of a reference's namespace give its gateway. -/
def configuredFor (lister : ReferenceGrantLister) (r : ReferenceGrantRef) : List ReferenceGrantRef :=
  match lister.list r.ns with
  | .error _ => []
  | .ok grants =>
    grants.flatMap fun grant => grant.senders.flatMap fun f => grant.targets.map fun t =>
      { sender := .ofGrant f, target := .ofGrant t, gatewayKey := r.gatewayKey, ns := grant.ns }

/-- `configured_reference_grants` after the loop over the references. -/
def configuredReferenceGrants (s : ReferenceGrantsResolver) (lister : ReferenceGrantLister) :
    Std.ExtTreeSet ReferenceGrantRef :=
  .ofList (s.references.toList.flatMap (configuredFor lister))

/-- `allowed_reference_grants` after its loop. -/
def allowedReferenceGrants (s : ReferenceGrantsResolver) (lister : ReferenceGrantLister) :
    Std.ExtTreeSet ReferenceGrantRef :=
  .ofList <| s.references.toList.filter fun reference =>
    (s.configuredReferenceGrants lister).toList.any fun rgr => rgr = reference || rgr = reference.anyName

/-- `ReferenceGrantsResolver::resolve_internal`, with the message it sends, if it sends one. -/
def resolveInternal (s : ReferenceGrantsResolver) (lister : ReferenceGrantLister) :
    ReferenceGrantsResolver × Option UpdatedGateways :=
  let allowed := s.allowedReferenceGrants lister
  let removed := s.resolvedReferenceGrants \ allowed
  let added := allowed \ s.resolvedReferenceGrants
  let changedGateways : Std.ExtTreeSet ReferenceGrantRef := .ofList (added.toList ++ removed.toList)
  let message : Option UpdatedGateways :=
    if changedGateways.isEmpty then none
    else some
      { reference := { group := "ReferenceGrant", kind := "ReferenceGrant" }
        gateways := .ofList (changedGateways.toList.map (·.gatewayKey)) }
  ({ s with resolvedReferenceGrants := allowed }, message)

end ReferenceGrantsResolver

/-! ## What a grant permits -/

/-- An empty group stands for the default one. -/
def groupOrDefault (group : String) : String := if group = "" then DEFAULT_GROUP_NAME else group

/-- One entry of the grant is for the sender, and one for the target. -/
def ReferenceGrant.Permits (grant : ReferenceGrant) (sender target : ResourceKey) : Prop :=
  (∃ f ∈ grant.senders, f.group = sender.group ∧ f.kind = sender.kind ∧ f.ns = sender.ns) ∧
  ∃ t ∈ grant.targets, t.kind = target.kind ∧ groupOrDefault t.group = groupOrDefault target.group ∧
    (t.name = none ∨ t.name = some target.name)

namespace ReferenceGrantsResolver

/-- An entry is allowed after the resolution and was not before it, or the other way round. -/
def Changed (s s' : ReferenceGrantsResolver) (r : ReferenceGrantRef) : Prop :=
  (r ∈ s.references ∨ r ∈ s.resolvedReferenceGrants) ∧
    ¬ (r ∈ s.resolvedReferenceGrants ↔ r ∈ s'.resolvedReferenceGrants)

/-- What is expected of a resolution. -/
structure ResolvesExactly (lister : ReferenceGrantLister) (s s' : ReferenceGrantsResolver)
    (message : Option UpdatedGateways) : Prop where
  isAllowed_iff : ∀ sender target gatewayKey, s'.isAllowed sender target gatewayKey = true ↔
    .ofKeys sender target gatewayKey ∈ s.references ∧
      ∃ grants, lister.list target.ns = .ok grants ∧ ∃ grant ∈ grants, grant.Permits sender target
  message_eq_none_iff : message = none ↔ ∀ r, ¬ s.Changed s' r
  mem_gateways_iff : ∀ m, message = some m → ∀ gatewayKey,
    gatewayKey ∈ m.gateways ↔ ∃ r, s.Changed s' r ∧ r.gatewayKey = gatewayKey

/-! ## Permissions -/

section Resolution

variable {s : ReferenceGrantsResolver} {lister : ReferenceGrantLister} {r rgr : ReferenceGrantRef}

/-- A permission comes from a grant of the namespace it names, for a gateway with a reference to
that namespace. -/
theorem mem_configured : rgr ∈ s.configuredReferenceGrants lister ↔
    ∃ r ∈ s.references, r.gatewayKey = rgr.gatewayKey ∧ r.ns = rgr.ns ∧
      ∃ grants, lister.list rgr.ns = .ok grants ∧ ∃ grant ∈ grants,
        (∃ f ∈ grant.senders, .ofGrant f = rgr.sender) ∧ ∃ t ∈ grant.targets, .ofGrant t = rgr.target := by
  unfold configuredReferenceGrants configuredFor
  rw [Std.ExtTreeSet.mem_ofList, List.contains_iff_mem, List.mem_flatMap]
  constructor
  · rintro ⟨r, hr, hmem⟩
    rw [Std.ExtTreeSet.mem_toList] at hr
    cases hlist : lister.list r.ns with
    | error e =>
      rw [hlist] at hmem
      cases hmem
    | ok grants =>
      simp only [hlist, List.mem_flatMap, List.mem_map] at hmem
      obtain ⟨grant, hgrant, f, hf, t, ht, rfl⟩ := hmem
      have hns := lister.ns_eq hlist grant hgrant
      refine ⟨r, hr, rfl, hns.symm, grants, ?_, grant, hgrant, ⟨f, hf, rfl⟩, t, ht, rfl⟩
      show lister.list grant.ns = .ok grants
      rw [hns, hlist]
  · rintro ⟨r, hr, hgateway, hns, grants, hlist, grant, hgrant, ⟨f, hf, hsender⟩, t, ht, htarget⟩
    refine ⟨r, Std.ExtTreeSet.mem_toList.2 hr, ?_⟩
    have hgrantns := lister.ns_eq hlist grant hgrant
    rw [hns, hlist]
    simp only [List.mem_flatMap, List.mem_map]
    refine ⟨grant, hgrant, f, hf, t, ht, ?_⟩
    rw [hsender, htarget, hgateway, hgrantns]

theorem mem_allowed : r ∈ s.allowedReferenceGrants lister ↔
    r ∈ s.references ∧ (r ∈ s.configuredReferenceGrants lister ∨ r.anyName ∈ s.configuredReferenceGrants lister) := by
  unfold allowedReferenceGrants
  rw [Std.ExtTreeSet.mem_ofList, List.contains_iff_mem, List.mem_filter, Std.ExtTreeSet.mem_toList, List.any_eq_true]
  apply and_congr_right
  intro _
  constructor
  · rintro ⟨rgr, hmem, heq⟩
    rw [Std.ExtTreeSet.mem_toList] at hmem
    rcases Bool.or_eq_true_iff.1 heq with h | h
    · rw [← of_decide_eq_true h]
      exact .inl hmem
    · rw [← of_decide_eq_true h]
      exact .inr hmem
  · rintro (h | h)
    · exact ⟨r, Std.ExtTreeSet.mem_toList.2 h, by simp⟩
    · exact ⟨r.anyName, Std.ExtTreeSet.mem_toList.2 h, by simp⟩

/-- The entries of a grant for a target, by its name or for any. -/
theorem ofGrant_eq_ofKey_iff {t : ReferenceGrantTo} {target : ResourceKey} (hname : target.name ≠ "") :
    (ToResourceKey.ofGrant t = .ofKey target ∨ ToResourceKey.ofGrant t = { ToResourceKey.ofKey target with name := none }) ↔
      t.kind = target.kind ∧ groupOrDefault t.group = groupOrDefault target.group ∧
        (t.name = none ∨ t.name = some target.name) := by
  simp only [ToResourceKey.ofGrant, ToResourceKey.ofKey, groupOrDefault, if_neg hname, ToResourceKey.mk.injEq]
  constructor
  · rintro (⟨hg, hn, hk⟩ | ⟨hg, hn, hk⟩)
    · exact ⟨hk, hg, .inr hn⟩
    · exact ⟨hk, hg, .inl hn⟩
  · rintro ⟨hk, hg, hn | hn⟩
    · exact .inr ⟨hg, hn, hk⟩
    · exact .inl ⟨hg, hn, hk⟩

theorem ofGrant_eq_ofKey_sender_iff {f : ReferenceGrantFrom} {sender : ResourceKey} :
    FromResourceKey.ofGrant f = .ofKey sender ↔
      f.group = sender.group ∧ f.kind = sender.kind ∧ f.ns = sender.ns := by
  simp only [FromResourceKey.ofGrant, FromResourceKey.ofKey, FromResourceKey.mk.injEq]
  tauto

/-- A grant permits a reference by one of its entries for the target's name, or for any. -/
theorem permits_iff {grant : ReferenceGrant} {sender target : ResourceKey} (hname : target.name ≠ "") :
    grant.Permits sender target ↔
      (∃ f ∈ grant.senders, .ofGrant f = FromResourceKey.ofKey sender) ∧
      ∃ t ∈ grant.targets, .ofGrant t = ToResourceKey.ofKey target ∨
        .ofGrant t = { ToResourceKey.ofKey target with name := none } := by
  unfold ReferenceGrant.Permits
  simp only [ofGrant_eq_ofKey_iff hname, ofGrant_eq_ofKey_sender_iff]

/-- An entry of one of the grants is for the sender, and one for the target by its name or for any. -/
def GrantsFor (lister : ReferenceGrantLister) (sender target : ResourceKey) : Prop :=
  ∃ grants, lister.list target.ns = .ok grants ∧ ∃ grant ∈ grants,
    (∃ f ∈ grant.senders, .ofGrant f = FromResourceKey.ofKey sender) ∧
    ∃ t ∈ grant.targets, .ofGrant t = ToResourceKey.ofKey target ∨
      .ofGrant t = { ToResourceKey.ofKey target with name := none }

/-- A reference is allowed if it is tracked and there are grants for its keys. -/
theorem isAllowed_resolveInternal_keys {sender target : ResourceKey} {gatewayKey : GatewayKey} :
    (s.resolveInternal lister).1.isAllowed sender target gatewayKey = true ↔
      .ofKeys sender target gatewayKey ∈ s.references ∧ GrantsFor lister sender target := by
  have hmem : (s.resolveInternal lister).1.isAllowed sender target gatewayKey = true ↔
      .ofKeys sender target gatewayKey ∈ s.allowedReferenceGrants lister := Std.ExtTreeSet.contains_iff_mem
  rw [hmem, mem_allowed, mem_configured, mem_configured]
  apply and_congr_right
  intro htracked
  constructor
  · rintro (⟨r, -, -, -, grants, hlist, grant, hgrant, hsender, t, ht, heq⟩ |
      ⟨r, -, -, -, grants, hlist, grant, hgrant, hsender, t, ht, heq⟩)
    · exact ⟨grants, hlist, grant, hgrant, hsender, t, ht, .inl heq⟩
    · exact ⟨grants, hlist, grant, hgrant, hsender, t, ht, .inr heq⟩
  · rintro ⟨grants, hlist, grant, hgrant, hsender, t, ht, heq | heq⟩
    · exact .inl ⟨_, htracked, rfl, rfl, grants, hlist, grant, hgrant, hsender, t, ht, heq⟩
    · exact .inr ⟨_, htracked, rfl, rfl, grants, hlist, grant, hgrant, hsender, t, ht, heq⟩

/-- **A tracked reference is allowed exactly if a grant of its namespace permits it.** -/
theorem isAllowed_resolveInternal {sender target : ResourceKey} {gatewayKey : GatewayKey}
    (htarget : .ofKeys sender target gatewayKey ∈ s.references → target.name ≠ "") :
    (s.resolveInternal lister).1.isAllowed sender target gatewayKey = true ↔
      .ofKeys sender target gatewayKey ∈ s.references ∧
        ∃ grants, lister.list target.ns = .ok grants ∧ ∃ grant ∈ grants, grant.Permits sender target := by
  rw [isAllowed_resolveInternal_keys, GrantsFor]
  apply and_congr_right
  intro htracked
  simp only [permits_iff (htarget htracked)]

/-! ## Who is told -/

/-- The entries whose standing changed are the ones added and the ones removed: only tracked
references are ever allowed. -/
theorem changed_iff : s.Changed (s.resolveInternal lister).1 r ↔
    r ∈ (s.allowedReferenceGrants lister \ s.resolvedReferenceGrants).toList ++
      (s.resolvedReferenceGrants \ s.allowedReferenceGrants lister).toList := by
  show (r ∈ s.references ∨ r ∈ s.resolvedReferenceGrants) ∧
    ¬ (r ∈ s.resolvedReferenceGrants ↔ r ∈ s.allowedReferenceGrants lister) ↔ _
  rw [List.mem_append, Std.ExtTreeSet.mem_toList, Std.ExtTreeSet.mem_toList, Std.ExtTreeSet.mem_diff_iff,
    Std.ExtTreeSet.mem_diff_iff]
  have htracked : r ∈ s.allowedReferenceGrants lister → r ∈ s.references := fun h => (mem_allowed.1 h).1
  tauto

theorem message_spec : ((s.resolveInternal lister).2 = none ↔ ∀ r, ¬ s.Changed (s.resolveInternal lister).1 r) ∧
    ∀ m, (s.resolveInternal lister).2 = some m → ∀ gatewayKey,
      gatewayKey ∈ m.gateways ↔ ∃ r, s.Changed (s.resolveInternal lister).1 r ∧ r.gatewayKey = gatewayKey := by
  simp only [changed_iff]
  unfold resolveInternal
  simp only
  generalize ((s.allowedReferenceGrants lister \ s.resolvedReferenceGrants).toList ++
    (s.resolvedReferenceGrants \ s.allowedReferenceGrants lister).toList) = changed
  have hempty : (Std.ExtTreeSet.ofList changed).isEmpty = true ↔ ∀ r, r ∉ changed := by
    simp only [Std.ExtTreeSet.isEmpty_iff, Std.ExtTreeSet.eq_empty_iff_forall_not_mem, Std.ExtTreeSet.mem_ofList,
      List.contains_iff_mem]
  by_cases hchanged : (Std.ExtTreeSet.ofList changed).isEmpty = true
  · rw [if_pos hchanged]
    exact ⟨⟨fun _ => hempty.1 hchanged, fun _ => rfl⟩, fun m h => (by cases h)⟩
  · rw [if_neg hchanged]
    refine ⟨⟨fun h => (by cases h), fun h => absurd (hempty.2 h) hchanged⟩, ?_⟩
    intro m hm gatewayKey
    obtain rfl := Option.some.inj hm
    simp only [Std.ExtTreeSet.mem_ofList, List.contains_iff_mem, List.mem_map, Std.ExtTreeSet.mem_toList]

end Resolution

/-- **Resolution is exact**: it allows the tracked references that grants permit, and tells exactly
the gateways for which something changed. -/
theorem resolveInternal_exact (s : ReferenceGrantsResolver) (lister : ReferenceGrantLister)
    (hnames : ∀ r ∈ s.references, r.target.name ≠ none) :
    s.ResolvesExactly lister (s.resolveInternal lister).1 (s.resolveInternal lister).2 where
  isAllowed_iff := by
    intro sender target gatewayKey
    apply isAllowed_resolveInternal
    rintro htracked hname
    exact hnames _ htracked (if_pos hname)
  message_eq_none_iff := message_spec.1
  mem_gateways_iff := message_spec.2

/-! ## A grant for one namespace -/

def crossRoute : ResourceKey := { name := "route", ns := "apps", kind := "HTTPRoute" }
def crossService : ResourceKey := { group := "", name := "svc", ns := "backend", kind := "Service" }

/-- HTTP routes of the namespace `apps` may refer to any service. -/
def crossGrant : ReferenceGrant where
  metadata := { name := some "grant", ns := some "backend" }
  senders := [{ group := DEFAULT_GROUP_NAME, ns := "apps", kind := "HTTPRoute" }]
  targets := [{ group := "", kind := "Service" }]

/-- Only the grants of the namespace `backend` can be listed. -/
def crossLister : ReferenceGrantLister where
  list ns := if ns = "backend" then .ok [crossGrant] else .error "forbidden"
  ns_eq := by
    intro ns grants hlist grant hgrant
    split at hlist
    · obtain rfl := Except.ok.inj hlist
      rename_i hns
      rw [List.mem_singleton.1 hgrant, hns]
      rfl
    · cases hlist

def crossReference : ReferenceGrantRef := .ofKeys crossRoute crossService (.new "gw")

def crossResolver : ReferenceGrantsResolver where
  references := .ofList [crossReference]

theorem mem_crossResolver {r : ReferenceGrantRef} : r ∈ crossResolver.references ↔ r = crossReference := by
  rw [crossResolver, Std.ExtTreeSet.mem_ofList, List.contains_iff_mem, List.mem_singleton]

/-- The grant is found, and the gateway told. -/
theorem crossResolver_resolves :
    (crossResolver.resolveInternal crossLister).1.isAllowed crossRoute crossService (.new "gw") = true ∧
    (crossResolver.resolveInternal crossLister).2 ≠ none := by
  have hnames : ∀ r ∈ crossResolver.references, r.target.name ≠ none := by
    intro r hr
    rw [mem_crossResolver.1 hr]
    decide
  have hexact := resolveInternal_exact crossResolver crossLister hnames
  have hallowed : (crossResolver.resolveInternal crossLister).1.isAllowed crossRoute crossService (.new "gw") = true := by
    refine (hexact.isAllowed_iff _ _ _).2 ⟨mem_crossResolver.2 rfl, [crossGrant], rfl, crossGrant,
      List.mem_singleton_self _, ?_⟩
    exact ⟨⟨_, List.mem_singleton_self _, rfl, rfl, rfl⟩, _, List.mem_singleton_self _, rfl, rfl, .inl rfl⟩
  refine ⟨hallowed, fun hnone => hexact.message_eq_none_iff.1 hnone crossReference ?_⟩
  refine ⟨.inl (mem_crossResolver.2 rfl), fun hiff => ?_⟩
  exact absurd (hiff.2 (Std.ExtTreeSet.contains_iff_mem.1 hallowed)) Std.ExtTreeSet.not_mem_empty

end ReferenceGrantsResolver

end Kubvernor
