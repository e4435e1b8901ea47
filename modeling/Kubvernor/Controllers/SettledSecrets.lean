import Kubvernor.Controllers.SettledCluster
import Kubvernor.References.Secrets

/-!
# The certificates of a gateway in a settled cluster

What the certificates of a gateway are validated with once the gateway is added and nothing changes any
more: its secrets are listed and polled, the grants for its references are resolved. Then what is found
under the key of a certificate is the secret of its namespace and name (`getReference_settled`), and
nothing but grants decides whether the key is allowed (`isAllowed_settled_certificate`).
-/

namespace Kubvernor

open Lib

deriving instance DecidableEq for Secret

namespace ReferencesResolver

variable {R : Type}

/-! ## Polling -/

/-- One round of `resolve`: every reference is fetched, and the answer written. -/
def poll [DecidableEq R] (clearMeta : R → R) (fetch : ReferenceKey → Option R) (s : ReferencesResolver R) :
    ReferencesResolver R :=
  s.references.keys.foldl (fun s k => (s.answered clearMeta k (fetch k)).1) s

theorem mem_addReference {s : ReferencesResolver R} {g : GatewayKey} {k k' : ReferenceKey} :
    k' ∈ (s.addReference g k).references ↔ k' = k ∨ k' ∈ s.references := by
  rw [addReference, Std.ExtTreeMap.mem_insert, Std.LawfulEqOrd.compare_eq_iff_eq, eq_comm]

/-- What a gateway is added with is listed, and nothing is found for it yet. -/
theorem addReferencesForGateway_spec (s : ReferencesResolver R) (g : GatewayKey) (keys : Std.ExtTreeSet ReferenceKey) :
    (∀ k, k ∈ (s.addReferencesForGateway g keys).references ↔ k ∈ keys ∨ k ∈ s.references) ∧
      (s.addReferencesForGateway g keys).resolvedReferences = s.resolvedReferences := by
  unfold addReferencesForGateway
  split
  · next hempty =>
    rw [Std.ExtTreeSet.isEmpty_iff] at hempty
    simp [hempty]
  · simp only [← Std.ExtTreeSet.mem_toList]
    generalize keys.toList = ks
    induction ks generalizing s with
    | nil => simp
    | cons x ks ih =>
      obtain ⟨hmem, hresolved⟩ := ih (s.addReference g x)
      refine ⟨fun k => ?_, hresolved⟩
      rw [List.foldl_cons, hmem, mem_addReference, List.mem_cons]
      tauto

variable [DecidableEq R] {clearMeta : R → R} {fetch : ReferenceKey → Option R} {s : ReferencesResolver R}

/-- An answer is what its reference has from then on, if it had nothing else. -/
theorem getReference_answered_fetch (h : ∀ k v, s.getReference k = some v → fetch k = some v) (k k' : ReferenceKey) :
    (s.answered clearMeta k (fetch k)).1.getReference k' = if k = k' then fetch k' else s.getReference k' := by
  unfold getReference at h ⊢
  refine Lib.getElem?_answered (h k) ?_ k'
  cases hfetch : fetch k with
  | none => exact .inl ⟨rfl, rfl⟩
  | some v =>
    right
    simp only [answered]
    split
    · exact .inl ⟨v, rfl, rfl⟩
    · next hold =>
      split
      · exact .inl ⟨v, rfl, rfl⟩
      · exact .inr ⟨Std.ExtTreeMap.mem_iff_isSome_getElem?.2 (by rw [hold]; rfl), rfl⟩

/-- **What is polled has its value**, and nothing else has one. -/
theorem getReference_poll (h : s.resolvedReferences = ∅) (k : ReferenceKey) :
    (s.poll clearMeta fetch).getReference k = if k ∈ s.references then fetch k else none := by
  have hempty (k : ReferenceKey) : s.getReference k = none := by simp [getReference, h]
  rw [poll, foldl_fetch getReference fetch (fun _ => getReference_answered_fetch) _ fun k v hv => by
    rw [hempty] at hv
    cases hv]
  exact if_congr Std.ExtTreeMap.mem_keys rfl (hempty k)

end ReferencesResolver

/-! ## What the gateway's resolvers hold -/

/-- A cluster with its secrets, by namespace and name, and what of their data parses. -/
structure SecretCluster extends KubeCluster where
  secret : String → String → Option Secret
  certificateFromPem : List UInt8 → Bool
  privateKeyFromPem : List UInt8 → Bool

/-- The secrets resolver, with the gateway's secrets listed and polled. -/
def SecretsResolver.settled (cluster : SecretCluster) (gateway : Gateway) : ReferencesResolver Secret :=
  (addSecretesByGateway {} gateway).poll id fun k => cluster.secret k.ns k.name

/-- What the certificates of the gateway are validated with. -/
def ListenerTlsConfigValidator.settled (cluster : SecretCluster) (isIpAddr : String → Bool) (routes : RouteStores)
    (gateway : Gateway) : ListenerTlsConfigValidator where
  getReference := (SecretsResolver.settled cluster gateway).getReference
  isAllowed := (ReferenceGrantsResolver.settled cluster.toKubeCluster isIpAddr routes gateway).isAllowed
  certificateFromPem := cluster.certificateFromPem
  privateKeyFromPem := cluster.privateKeyFromPem

namespace ListenerTlsConfigValidator

variable {cluster : SecretCluster} {isIpAddr : String → Bool} {routes : RouteStores} {gateway : Gateway}

/-- A listed secret is found where the cluster has it. -/
theorem getReference_settled {k : ResourceKey} (hk : k ∈ gateway.secretReferences) :
    (settled cluster isIpAddr routes gateway).getReference k = cluster.secret k.ns k.name := by
  obtain ⟨hmem, hresolved⟩ := ReferencesResolver.addReferencesForGateway_spec ({} : ReferencesResolver Secret)
    gateway.resourceKey gateway.secretReferences
  show (SecretsResolver.settled cluster gateway).getReference k = _
  rw [SecretsResolver.settled, SecretsResolver.addSecretesByGateway, ReferencesResolver.getReference_poll hresolved,
    if_pos ((hmem k).2 (.inl hk))]

theorem ofKeys_mem_grantReferences {k : ResourceKey} (hk : k ∈ gateway.secretReferences) :
    .ofKeys gateway.resourceKey k gateway.resourceKey ∈ gateway.grantReferences := by
  rw [Gateway.secretReferences, Std.ExtTreeSet.mem_ofList, List.contains_iff_mem] at hk
  obtain ⟨c, hc, rfl⟩ := List.mem_map.1 hk
  exact List.mem_map.2 ⟨c, hc, rfl⟩

/-- It is allowed if there are grants for it: the gateway's references to its certificates are always tracked. -/
theorem isAllowed_settled_certificate {k : ResourceKey} (hk : k ∈ gateway.secretReferences) :
    (settled cluster isIpAddr routes gateway).isAllowed gateway.resourceKey k gateway.resourceKey = true ↔
      ReferenceGrantsResolver.GrantsFor cluster.grants gateway.resourceKey k := by
  refine isAllowed_settled.trans (and_iff_right ?_)
  exact ReferenceGrantsResolver.mem_searchReferences.2 (.inr (ofKeys_mem_grantReferences hk))

/-- A validator that asks the cluster itself. -/
noncomputable def direct (cluster : SecretCluster) : ListenerTlsConfigValidator where
  getReference k := cluster.secret k.ns k.name
  isAllowed sender target _ :=
    @decide (ReferenceGrantsResolver.GrantsFor cluster.grants sender target) (Classical.propDecidable _)
  certificateFromPem := cluster.certificateFromPem
  privateKeyFromPem := cluster.privateKeyFromPem

/-- **In a settled cluster the gateway is validated as if the cluster itself were asked.** -/
theorem validate_settled (cluster : SecretCluster) (isIpAddr : String → Bool) (routes : RouteStores)
    (gateway : Gateway) :
    (settled cluster isIpAddr routes gateway).validate gateway = (direct cluster).validate gateway := by
  refine validate_congr_of_agreesOn fun c hc => ?_
  have hk : c.resourceKey ∈ gateway.secretReferences := by
    rw [Gateway.secretReferences, Std.ExtTreeSet.mem_ofList, List.contains_iff_mem]
    exact List.mem_map_of_mem hc
  refine ⟨getReference_settled hk, ?_, rfl, rfl⟩
  rw [Bool.eq_iff_iff, isAllowed_settled_certificate hk]
  exact (@decide_eq_true_iff _ (Classical.propDecidable _)).symm

end ListenerTlsConfigValidator

end Kubvernor
