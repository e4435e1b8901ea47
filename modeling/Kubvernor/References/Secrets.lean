import Kubvernor.Controllers.TlsConfigValidator
import Kubvernor.Lib.Transition
import Kubvernor.Lib.TreeMap
import Mathlib.Data.Finset.Dedup
import Mathlib.Data.Multiset.Count

/-!
# Tracking the secrets of gateways

The secrets resolver keeps for every secret the gateways that terminate TLS with it, in a multiset: a
gateway that is added puts itself under each of its secrets once more, and one that is deleted takes
itself out once. A gateway is added again whenever it is processed, and its certificates may have
changed since. So what is listed follows the gateways exactly as long as no gateway gives a certificate
up and every gateway is deleted with what it was added with once (`secrets_follow_iff`).
-/

namespace Kubvernor

open Lib

/-- `ReferencesResolver`, without its client and its channel. -/
structure ReferencesResolver (R : Type) where
  references : Std.ExtTreeMap ReferenceKey (Multiset GatewayKey) := ∅
  resolvedReferences : Std.ExtTreeMap ReferenceKey R := ∅

namespace ReferencesResolver

variable {R : Type}

/-- The gateway is put under one key. -/
def addReference (gatewayKey : GatewayKey) (s : ReferencesResolver R) (key : ReferenceKey) : ReferencesResolver R :=
  let set :=
    match s.references[key]? with
    | some set => gatewayKey ::ₘ set
    | none => {gatewayKey}
  { s with references := s.references.insert key set }

/-- `add_references_for_gateway`. -/
def addReferencesForGateway (s : ReferencesResolver R) (gatewayKey : GatewayKey)
    (referenceKeys : Std.ExtTreeSet ReferenceKey) : ReferencesResolver R :=
  if referenceKeys.isEmpty then s else referenceKeys.toList.foldl (addReference gatewayKey) s

/-- The gateway is taken out once under one key; with the last gateway goes the key, and its value. -/
def deleteReference (gatewayKey : GatewayKey) (s : ReferencesResolver R) (referenceKey : ReferenceKey) :
    ReferencesResolver R :=
  match s.references[referenceKey]? with
  | none => s
  | some references =>
    if gatewayKey ∈ references then
      if references.erase gatewayKey = 0 then
        { references := s.references.erase referenceKey
          resolvedReferences := s.resolvedReferences.erase referenceKey }
      else { s with references := s.references.insert referenceKey (references.erase gatewayKey) }
    else s

/-- `delete_references_for_gateway`. -/
def deleteReferencesForGateway (s : ReferencesResolver R) (gatewayKey : GatewayKey)
    (referenceKeys : Std.ExtTreeSet ReferenceKey) : ReferencesResolver R :=
  referenceKeys.toList.foldl (deleteReference gatewayKey) s

/-- `get_reference`. -/
def getReference (s : ReferencesResolver R) (resourceKey : ResourceKey) : Option R :=
  s.resolvedReferences[resourceKey]?

/-- What a check of `resolve` writes when its fetch is answered, and whether gateways are to be updated. -/
def answered [DecidableEq R] (clearMeta : R → R) (s : ReferencesResolver R) (key : ReferenceKey) :
    Option R → ReferencesResolver R × Bool
  | some reference =>
    match s.resolvedReferences[key]? with
    | none => ({ s with resolvedReferences := s.resolvedReferences.insert key reference }, true)
    | some f =>
      if clearMeta f ≠ clearMeta reference then
        ({ s with resolvedReferences := s.resolvedReferences.insert key reference }, true)
      else (s, false)
  | none =>
    ({ s with resolvedReferences := s.resolvedReferences.erase key }, s.resolvedReferences[key]?.isSome)

/-- `update_gateways`: the gateways that are listed under a key. -/
def updateGateways (s : ReferencesResolver R) (key : ReferenceKey) : Finset GatewayKey :=
  (s.references[key]?.getD 0).toFinset

/-- How often a gateway is listed under a key. -/
def listed (s : ReferencesResolver R) (gatewayKey : GatewayKey) (key : ReferenceKey) : Nat :=
  (s.references[key]?.getD 0).count gatewayKey

variable {s : ReferencesResolver R} {g g' : GatewayKey} {k k' : ReferenceKey} {keys : Std.ExtTreeSet ReferenceKey}

theorem mem_updateGateways : g ∈ s.updateGateways k ↔ 0 < s.listed g k := by
  rw [updateGateways, listed, Multiset.mem_toFinset, Multiset.count_pos]

theorem listed_addReference (s : ReferencesResolver R) (k k' : ReferenceKey) :
    (s.addReference g k).listed g' k' =
      if k = k' then s.listed g' k' + if g = g' then 1 else 0 else s.listed g' k' := by
  simp only [addReference, listed, Std.ExtTreeMap.getElem?_insert, Std.LawfulEqOrd.compare_eq_iff_eq]
  by_cases hk : k = k'
  · subst hk
    cases s.references[k]? with
    | none => simp [Multiset.count_singleton, eq_comm]
    | some set => simp [Multiset.count_cons, eq_comm]
  · simp [hk]

theorem listed_deleteReference (s : ReferencesResolver R) (k k' : ReferenceKey) :
    (s.deleteReference g k).listed g' k' =
      if k = k' then s.listed g' k' - (if g = g' then 1 else 0) else s.listed g' k' := by
  unfold deleteReference
  cases hset : s.references[k]? with
  | none =>
    by_cases hk : k = k'
    · subst hk
      simp [listed, hset]
    · simp [hk]
  | some set =>
    -- what is left of the set, if nothing is left too
    have herase : (set.erase g).count g' = set.count g' - if g = g' then 1 else 0 := by
      by_cases hg : g = g'
      · subst hg
        simp
      · simp [hg, Multiset.count_erase_of_ne (Ne.symm hg)]
    simp only
    by_cases hk : k = k'
    · subst hk
      simp only [if_true, listed, hset, Option.getD_some]
      rw [← herase]
      split
      · split
        · next hempty => simp [hempty]
        · simp
      · next hnot => simp [hset, Multiset.erase_of_notMem hnot]
    · simp only [if_neg hk, listed]
      split
      · split <;> simp [Std.ExtTreeMap.getElem?_erase, Std.ExtTreeMap.getElem?_insert, hk]
      · rfl

/-- A gateway that is added is listed once more under each of its keys. -/
theorem listed_addReferencesForGateway : (s.addReferencesForGateway g keys).listed g' k =
    s.listed g' k + if g' = g ∧ k ∈ keys then 1 else 0 := by
  unfold addReferencesForGateway
  split
  · next hempty =>
    rw [Std.ExtTreeSet.isEmpty_iff] at hempty
    simp [hempty]
  · refine (foldl_observe (fun s k => s.listed g' k) (· + if g = g' then 1 else 0) listed_addReference
      (nodup_toList_set keys) s k).trans ?_
    simp only [Std.ExtTreeSet.mem_toList, eq_comm (a := g)]
    by_cases hk : k ∈ keys
    · simp [hk]
    · simp [hk]

/-- One that is deleted is listed once less. -/
theorem listed_deleteReferencesForGateway : (s.deleteReferencesForGateway g keys).listed g' k =
    s.listed g' k - if g' = g ∧ k ∈ keys then 1 else 0 := by
  refine (foldl_observe (fun s k => s.listed g' k) (· - if g = g' then 1 else 0) listed_deleteReference
    (nodup_toList_set keys) s k).trans ?_
  simp only [Std.ExtTreeSet.mem_toList, eq_comm (a := g)]
  by_cases hk : k ∈ keys
  · simp [hk]
  · simp [hk]

theorem listed_answered [DecidableEq R] {clearMeta : R → R} {reference : Option R} :
    (s.answered clearMeta k reference).1.listed g k' = s.listed g k' := by
  cases reference with
  | none => rfl
  | some reference =>
    simp only [answered]
    split
    · rfl
    · split <;> rfl

end ReferencesResolver

/-! ## The secrets of a gateway -/

/-- The keys of the certificates that a gateway terminates TLS with, as `add_secretes_by_gateway` and
`delete_secrets_by_gateway` collect them. -/
def Gateway.secretReferences (gateway : Gateway) : Std.ExtTreeSet ReferenceKey :=
  .ofList (gateway.terminateCertificates.map Certificate.resourceKey)

section
variable {R : Type} [DecidableEq R] (clearMeta : R → R)

namespace SecretsResolver

def addSecretesByGateway (s : ReferencesResolver R) (gateway : Gateway) : ReferencesResolver R :=
  s.addReferencesForGateway gateway.resourceKey gateway.secretReferences

def deleteSecretsByGateway (s : ReferencesResolver R) (gateway : Gateway) : ReferencesResolver R :=
  s.deleteReferencesForGateway gateway.resourceKey gateway.secretReferences

end SecretsResolver

/-- The events of the validator that concern the secrets, and the writes of the poller's checks. -/
inductive SecretsEvent (R : Type)
  | addGateway (gateway : Gateway)
  | deleteGateway (gateway : Gateway)
  | answered (key : ReferenceKey) (reference : Option R)

/-- The gateway each key was added with last, unless it was deleted since. -/
abbrev LatestGateways := GatewayKey → Option Gateway

def LatestGateways.step (latest : LatestGateways) : SecretsEvent R → LatestGateways
  | .addGateway gateway => fun g => if g = gateway.resourceKey then some gateway else latest g
  | .deleteGateway gateway => fun g => if g = gateway.resourceKey then none else latest g
  | .answered .. => latest

/-- The resolver, with the latest gateways beside it. -/
def secretsSystem : System (ReferencesResolver R × LatestGateways) (SecretsEvent R) where
  init := ({}, fun _ => none)
  step
    | (s, latest), .addGateway gateway =>
      some (SecretsResolver.addSecretesByGateway s gateway, latest.step (.addGateway (R := R) gateway))
    | (s, latest), .deleteGateway gateway =>
      some (SecretsResolver.deleteSecretsByGateway s gateway, latest.step (.deleteGateway (R := R) gateway))
    | (s, latest), .answered key reference => some ((s.answered clearMeta key reference).1, latest)

/-- A gateway is listed under the secrets of its latest specification. -/
def FollowsGateways (σ : ReferencesResolver R × LatestGateways) : Prop :=
  ∀ g k, g ∈ σ.1.updateGateways k ↔ ∃ gateway, σ.2 g = some gateway ∧ k ∈ gateway.secretReferences

/-- A gateway that is added has the secrets it had, and one that is deleted is listed once under its
secrets at most, and under no other. -/
def KeepsSecrets : ReferencesResolver R × LatestGateways → SecretsEvent R → Prop
  | (_, latest), .addGateway gateway =>
    ∀ old, latest gateway.resourceKey = some old → ∀ k ∈ old.secretReferences, k ∈ gateway.secretReferences
  | (s, _), .deleteGateway gateway =>
    ∀ k, s.listed gateway.resourceKey k ≤ if k ∈ gateway.secretReferences then 1 else 0
  | _, .answered .. => True

end

section
variable {R : Type} [DecidableEq R] {clearMeta : R → R} {σ σ' : ReferencesResolver R × LatestGateways}
  {event : SecretsEvent R}

theorem FollowsGateways.init : FollowsGateways (secretsSystem clearMeta).init := by
  intro g k
  simp [secretsSystem, ReferencesResolver.updateGateways]

omit [DecidableEq R] in
theorem FollowsGateways.listed (h : FollowsGateways σ) (g : GatewayKey) (k : ReferenceKey) :
    0 < σ.1.listed g k ↔ ∃ gateway, σ.2 g = some gateway ∧ k ∈ gateway.secretReferences := by
  rw [← ReferencesResolver.mem_updateGateways]
  exact h g k

/-- Only what is listed for the gateway of an event changes, so it alone decides what follows then. -/
theorem FollowsGateways.step_iff (h : FollowsGateways σ) :
    (∀ σ', (secretsSystem clearMeta).step σ event = some σ' → FollowsGateways σ') ↔ KeepsSecrets σ event := by
  have hlisted := h.listed
  obtain ⟨s, latest⟩ := σ
  cases event with
  | addGateway gateway =>
    simp only [secretsSystem, Option.some.injEq, forall_eq', FollowsGateways, LatestGateways.step, KeepsSecrets,
      ReferencesResolver.mem_updateGateways, SecretsResolver.addSecretesByGateway,
      ReferencesResolver.listed_addReferencesForGateway]
    constructor
    · intro hfollows old hold k hk
      have hpos : 0 < s.listed gateway.resourceKey k := (hlisted _ k).2 ⟨old, hold, hk⟩
      obtain ⟨new, hnew, hk⟩ := (hfollows gateway.resourceKey k).1 (by omega)
      rw [if_pos rfl] at hnew
      exact Option.some.inj hnew ▸ hk
    · intro hkeeps g k
      by_cases hg : g = gateway.resourceKey
      · subst hg
        by_cases hk : k ∈ gateway.secretReferences
        · simp [hk]
        · have hnone : ¬ 0 < s.listed gateway.resourceKey k := by
            rw [hlisted]
            rintro ⟨old, hold, hkold⟩
            exact hk (hkeeps old hold k hkold)
          simpa [hk] using hnone
      · simpa [hg] using hlisted g k
  | deleteGateway gateway =>
    simp only [secretsSystem, Option.some.injEq, forall_eq', FollowsGateways, LatestGateways.step, KeepsSecrets,
      ReferencesResolver.mem_updateGateways, SecretsResolver.deleteSecretsByGateway,
      ReferencesResolver.listed_deleteReferencesForGateway]
    constructor
    · intro hfollows k
      have hnone : ¬ 0 < s.listed gateway.resourceKey k - if k ∈ gateway.secretReferences then 1 else 0 := by
        simpa using hfollows gateway.resourceKey k
      omega
    · intro hkeeps g k
      by_cases hg : g = gateway.resourceKey
      · subst hg
        have hle := hkeeps k
        simp only [if_true, true_and, reduceCtorEq, false_and, exists_false, iff_false]
        omega
      · simpa [hg] using hlisted g k
  | answered key reference =>
    simp only [secretsSystem, Option.some.injEq, forall_eq', FollowsGateways, KeepsSecrets, iff_true,
      ReferencesResolver.mem_updateGateways, ReferencesResolver.listed_answered]
    exact hlisted

/-- **What is listed follows the gateways** along a run exactly if no gateway gives a secret up and every
gateway is deleted with the secrets it is listed under, once each. -/
theorem secrets_follow_iff (clearMeta : R → R) (events : List (SecretsEvent R)) :
    (secretsSystem clearMeta).Along
        (fun σ event => ∀ σ', (secretsSystem clearMeta).step σ event = some σ' → FollowsGateways σ')
        (secretsSystem clearMeta).init events ↔
      (secretsSystem clearMeta).Along KeepsSecrets (secretsSystem clearMeta).init events :=
  System.along_congr FollowsGateways FollowsGateways.init (fun _ _ h => h.step_iff)
    fun _ _ _ h hkeeps hstep => h.step_iff.2 hkeeps _ hstep

end

/-- A listener with one certificate. -/
def httpsListener : Listener where
  protocol := .https
  data :=
    { config := { name := "https", port := 443, tlsType := some (.terminate [.notResolved (.new "secret")]) } }

def tlsGateway : Gateway where
  id := 0
  resourceKey := .new "gateway"
  listeners := .ofList [("https", httpsListener)]

/-- The gateway is added, processed again and deleted. -/
def addedTwiceRun : List (SecretsEvent Nat) :=
  [.addGateway tlsGateway, .addGateway tlsGateway, .deleteGateway tlsGateway]

/-- **The deleted gateway is still listed.** -/
theorem addedTwiceRun_still_listed : ∃ σ,
    (secretsSystem id).run (secretsSystem id).init addedTwiceRun = some σ ∧
      .new "gateway" ∈ σ.1.updateGateways (.new "secret") ∧ σ.2 (.new "gateway") = none ∧ ¬ FollowsGateways σ := by
  have hrun : ((secretsSystem id).run (secretsSystem id).init addedTwiceRun).map (fun σ =>
      decide (.new "gateway" ∈ σ.1.updateGateways (.new "secret") ∧ (σ.2 (.new "gateway")).isNone)) = some true := by
    decide +kernel
  obtain ⟨σ, hσ, h⟩ := Option.map_eq_some_iff.1 hrun
  obtain ⟨hmem, hnone⟩ := of_decide_eq_true h
  rw [Option.isNone_iff_eq_none] at hnone
  refine ⟨σ, hσ, hmem, hnone, fun hfollows => ?_⟩
  obtain ⟨gateway, hsome, -⟩ := (hfollows _ _).1 hmem
  rw [hnone] at hsome
  cases hsome

end Kubvernor
