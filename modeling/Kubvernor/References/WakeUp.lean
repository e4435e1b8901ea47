import Kubvernor.References.Polling

/-!
# Waking the validator up

A check that has changed a value tells the validator which gateways to process again. The values that a
reference has in turn are numbered, so that what a check wrote and what the validator read can be
compared: a gateway whose mapping lists the reference either is told, or was processed with the value
that the check wrote or a later one (`no_lost_wakeup`). The mapping is written before the validator
reads, and the value before the check reads the mapping; one of the two reads comes last.
-/

namespace Kubvernor

open Lib Polling

variable {R : Type} [DecidableEq R] {clearMeta : R → R} {σ σ' : Polling R} {a : PollingStep R}

/-! ## Numbered values -/

/-- The last value of a reference is the one it has, and what was written and read are the values with
their numbers. -/
structure Numbered (σ : Polling R) : Prop where
  last : ∀ k, (σ.history k).getLast? = some σ.resolver.references.resolvedReferences[k]?
  checks : ∀ k n v, .updating k n v ∈ σ.checks → (σ.history k)[n]? = some v
  messages : ∀ m ∈ σ.messages, (σ.history m.key)[m.written]? = some m.value
  reads : ∀ r ∈ σ.reads, (σ.history r.key)[r.seen]? = some r.value

omit [DecidableEq R] in
theorem Numbered.init : Numbered ({} : Polling R) := by
  refine ⟨fun k => by simp, ?_, ?_, ?_⟩ <;> simp

/-- A number keeps its value. -/
theorem getElem?_mono {α : Type} {l l' : List α} {n : Nat} {v : α} (h : l <+: l') (hv : l[n]? = some v) :
    l'[n]? = some v := by
  obtain ⟨t, rfl⟩ := h
  have hn : n < l.length := (List.getElem?_eq_some_iff.1 hv).1
  rw [List.getElem?_append_left hn]
  exact hv

/-- New values come last. -/
theorem history_setReferences (σ : Polling R) (references : References R) (k : ReferenceKey) :
    σ.history k <+: (σ.setReferences references).history k := by
  simp only [setReferences]
  split
  · exact List.prefix_refl _
  · exact List.prefix_append _ _

theorem last_setReferences (h : Numbered σ) (references : References R) (k : ReferenceKey) :
    ((σ.setReferences references).history k).getLast? = some references.resolvedReferences[k]? := by
  simp only [setReferences]
  split
  · next heq => rw [heq, h.last k]
  · simp

theorem history_of_move (hmove : Move clearMeta σ a σ') (k : ReferenceKey) : σ.history k <+: σ'.history k := by
  cases hmove with
  | answer => exact history_setReferences σ _ k
  | count => exact history_setReferences σ _ k
  | tick | updateGateways | skip | call | read => exact List.prefix_refl _

/-- What a check writes that changes something. -/
theorem getElem?_answered {refs : References R} {k : ReferenceKey} {reference : Option R}
    (hchanged : (refs.answered clearMeta k reference).2) :
    (refs.answered clearMeta k reference).1.resolvedReferences[k]? = reference ∧
      refs.resolvedReferences[k]? ≠ reference := by
  cases reference with
  | none =>
    have hsome : refs.resolvedReferences[k]?.isSome := hchanged
    refine ⟨?_, fun hnone => by simp [hnone] at hsome⟩
    simp [References.answered, References.removeResolvedReference]
  | some v =>
    simp only [References.answered, References.addResolvedReference] at hchanged ⊢
    cases hf : refs.resolvedReferences[k]? with
    | none => simp
    | some f =>
      simp only [hf] at hchanged ⊢
      by_cases hmeta : clearMeta f ≠ clearMeta v
      · simp only [if_pos hmeta]
        refine ⟨by simp, ?_⟩
        rintro heq
        exact hmeta (congrArg clearMeta (Option.some.inj heq))
      · simp [hmeta] at hchanged

/-- A check that is to tell the gateways has written the next value. -/
theorem history_answered {k : ReferenceKey} {reference : Option R}
    (hchanged : (σ.resolver.references.answered clearMeta k reference).2) :
    ((σ.setReferences (σ.resolver.references.answered clearMeta k reference).1).history k)[(σ.history k).length]? =
      some reference := by
  obtain ⟨hnew, hold⟩ := getElem?_answered hchanged
  simp only [setReferences, hnew]
  rw [if_neg hold.symm]
  simp

theorem Numbered.step (h : Numbered σ) (hmove : Move clearMeta σ a σ') : Numbered σ' := by
  have hgrow := history_of_move hmove
  cases hmove with
  | tick =>
    refine ⟨h.last, fun k n v hc => ?_, h.messages, h.reads⟩
    rcases List.mem_append.1 hc with hc | hc
    · exact h.checks k n v hc
    · simp at hc
  | answer i reference k next hcheck hnext =>
    refine ⟨last_setReferences h _, fun k' n v hc => ?_, ?_, ?_⟩
    · rcases List.mem_or_eq_of_mem_set hc with hc | heq
      · exact getElem?_mono (hgrow k') (h.checks k' n v hc)
      · rw [hnext] at heq
        split at heq
        · next hchanged =>
          obtain ⟨rfl, rfl, rfl⟩ := Check.updating.inj heq
          exact history_answered hchanged
        · cases heq
    · exact fun m hm => getElem?_mono (hgrow m.key) (h.messages m hm)
    · exact fun r hr => getElem?_mono (hgrow r.key) (h.reads r hr)
  | updateGateways i k written value hfree hcheck =>
    refine ⟨h.last, fun k' n v hc => ?_, fun m hm => ?_, h.reads⟩
    · rcases List.mem_or_eq_of_mem_set hc with hc | heq
      · exact h.checks k' n v hc
      · cases heq
    · rcases List.mem_append.1 hm with hm | hm
      · exact h.messages m hm
      · obtain rfl := List.mem_singleton.1 hm
        exact h.checks k written value (List.mem_of_getElem? hcheck)
  | skip | call => exact ⟨h.last, h.checks, h.messages, h.reads⟩
  | count old new references hrecount =>
    refine ⟨last_setReferences h references, ?_, ?_, ?_⟩
    · exact fun k n v hc => getElem?_mono (hgrow k) (h.checks k n v hc)
    · exact fun m hm => getElem?_mono (hgrow m.key) (h.messages m hm)
    · exact fun r hr => getElem?_mono (hgrow r.key) (h.reads r hr)
  | read k reads hreads =>
    refine ⟨h.last, h.checks, h.messages, fun r hr => ?_⟩
    rcases hreads r hr with hr | ⟨g, m, -, rfl⟩
    · exact h.reads r hr
    · rw [← List.getLast?_eq_getElem?]
      exact h.last k

/-! ## Reads and messages -/

/-- A mapping lists a reference. -/
def Lists (m : RouteToReferenceMapping) (k : ReferenceKey) : Prop :=
  ∃ (r : RouteKey) (refs : Std.ExtTreeSet ReferenceKey), m[r]? = some refs ∧ k ∈ refs

omit [DecidableEq R] in
/-- The gateways whose mapping lists the reference are told. -/
theorem mem_updateGateways {s : MultiReferencesResolver R} {g : GatewayKey} {m : RouteToReferenceMapping}
    {k : ReferenceKey} (hm : s.gatewayRouteReferenceMapping[g]? = some m) (hk : Lists m k) :
    g ∈ (s.updateGateways k).1 := by
  obtain ⟨r, refs, hr, hk⟩ := hk
  have hlists : m.toList.any (fun q => q.2.contains k) := by
    rw [List.any_eq_true]
    exact ⟨(r, refs), Std.ExtTreeMap.mem_toList_iff_getElem?_eq_some.2 hr, hk⟩
  simp only [MultiReferencesResolver.updateGateways, Std.ExtTreeSet.mem_ofList, List.contains_iff_mem,
    List.mem_map, List.mem_filter]
  exact ⟨(g, m), ⟨Std.ExtTreeMap.mem_toList_iff_getElem?_eq_some.2 hm, hlists⟩, rfl⟩

omit [DecidableEq R] in
/-- A call that does not write a gateway's mapping leaves it as it is. -/
theorem mapping_of_not_writes {s : MultiReferencesResolver R} {op : ResolverOp R} {g : GatewayKey}
    {mapping : GatewayToRouteReferenceMapping} {old new : List ReferenceKey}
    (h : s.lockMapping op = some (mapping, old, new)) (hop : op.writes s g = false) :
    mapping[g]? = s.gatewayRouteReferenceMapping[g]? := by
  cases op with
  | addReferencesForGateway g' m =>
    have hg : ¬ g' = g := by simpa [ResolverOp.writes] using hop
    simp only [MultiReferencesResolver.lockMapping] at h
    split at h
    · cases h
    · obtain ⟨rfl, -⟩ := Prod.mk.inj (Option.some.inj h)
      simp [Std.ExtTreeMap.getElem?_insert, hg]
  | deleteReferencesForGateway g' =>
    have hg : ¬ g' = g := by simpa [ResolverOp.writes] using hop
    obtain ⟨oldMappings, -, heq⟩ := Option.map_eq_some_iff.1 h
    obtain ⟨rfl, -⟩ := Prod.mk.inj heq
    simp [Std.ExtTreeMap.getElem?_erase, hg]
  | deleteRouteReferences r =>
    obtain ⟨rfl, -⟩ := Prod.mk.inj (Option.some.inj h)
    rw [Std.ExtTreeMap.getElem?_map]
    cases hm : s.gatewayRouteReferenceMapping[g]? with
    | none => rfl
    | some m =>
      have hr : r ∉ m := by
        intro hmem
        rw [Std.ExtTreeMap.mem_iff_contains] at hmem
        simp [ResolverOp.writes, hm, hmem] at hop
      rw [Option.map_some, erase_of_none (Std.ExtTreeMap.getElem?_eq_none hr)]
  | fetched | notFetched => cases h

omit [DecidableEq R] in
/-- A call that adds a mapping leaves it under its gateway. -/
theorem mapping_of_added {s : MultiReferencesResolver R} {op : ResolverOp R} {g : GatewayKey}
    {m : RouteToReferenceMapping} {mapping : GatewayToRouteReferenceMapping} {old new : List ReferenceKey}
    (h : s.lockMapping op = some (mapping, old, new)) (hop : op.added? = some (g, m)) : mapping[g]? = some m := by
  cases op with
  | addReferencesForGateway g' m' =>
    obtain ⟨rfl, rfl⟩ := Prod.mk.inj (Option.some.inj hop)
    simp only [MultiReferencesResolver.lockMapping] at h
    split at h
    · cases h
    · obtain ⟨rfl, -⟩ := Prod.mk.inj (Option.some.inj h)
      simp
  | deleteReferencesForGateway | deleteRouteReferences | fetched | notFetched => cases hop

/-- Every read and every message that the claim is about: as long as a gateway's mapping is the one the
validator read with, either the message tells the gateway or its value was read, or a later one. -/
structure Woken (σ : Polling R) : Prop where
  handling : ∀ g m, σ.handling = some (g, m) → σ.resolver.gatewayRouteReferenceMapping[g]? = some m
  versions : ∀ r ∈ σ.reads, r.version ≤ σ.version r.gateway
  current : ∀ r ∈ σ.reads, r.version = σ.version r.gateway →
    σ.resolver.gatewayRouteReferenceMapping[r.gateway]? = some r.mapping
  woken : ∀ r ∈ σ.reads, ∀ m ∈ σ.messages, m.key = r.key → Lists r.mapping r.key →
    m.version r.gateway ≤ r.version → m.written ≤ r.seen ∨ r.gateway ∈ m.gateways

omit [DecidableEq R] in
theorem Woken.init : Woken ({} : Polling R) := by
  constructor <;> simp

theorem Woken.step (h : Woken σ) (hnumbered : Numbered σ) (hmove : Move clearMeta σ a σ') : Woken σ' := by
  cases hmove with
  | tick => exact ⟨h.handling, h.versions, h.current, h.woken⟩
  | answer => exact ⟨h.handling, h.versions, h.current, h.woken⟩
  | count => exact ⟨h.handling, h.versions, h.current, h.woken⟩
  | skip =>
    refine ⟨?_, h.versions, h.current, h.woken⟩
    intro g m hm
    cases hm
  | updateGateways i k written value hfree hcheck =>
    refine ⟨h.handling, h.versions, h.current, fun r hr m hm hkey hlists hversion => ?_⟩
    rcases List.mem_append.1 hm with hm | hm
    · exact h.woken r hr m hm hkey hlists hversion
    · -- the check reads the mapping that the validator read with
      obtain rfl := List.mem_singleton.1 hm
      have hcurrent := h.current r hr (Nat.le_antisymm (h.versions r hr) hversion)
      have hkey : k = r.key := hkey
      exact .inr (mem_updateGateways hcurrent (hkey ▸ hlists))
  | call op mapping old new hsome =>
    refine ⟨fun g m hm => mapping_of_added hsome hm, fun r hr => ?_, fun r hr hversion => ?_, h.woken⟩
    · have hle := h.versions r hr
      show r.version ≤ if op.writes σ.resolver r.gateway then σ.version r.gateway + 1 else σ.version r.gateway
      split <;> omega
    · have hle := h.versions r hr
      cases hwrites : op.writes σ.resolver r.gateway with
      | true =>
        simp only [hwrites, if_true] at hversion
        omega
      | false =>
        simp only [hwrites, Bool.false_eq_true, if_false] at hversion
        exact (mapping_of_not_writes hsome hwrites).trans (h.current r hr hversion)
  | read k reads hreads =>
    refine ⟨h.handling, fun r hr => ?_, fun r hr hversion => ?_, fun r hr m hm hkey hlists hversion => ?_⟩
    · rcases hreads r hr with hr | ⟨g, m, -, rfl⟩
      · exact h.versions r hr
      · exact Nat.le_refl _
    · rcases hreads r hr with hr | ⟨g, m, hhandling, rfl⟩
      · exact h.current r hr hversion
      · exact h.handling g m hhandling
    · rcases hreads r hr with hr | ⟨g, m', -, rfl⟩
      · exact h.woken r hr m hm hkey hlists hversion
      · -- what the message tells of was written before the read
        have hwritten := (List.getElem?_eq_some_iff.1 (hnumbered.messages m hm)).1
        have hkey : m.key = k := hkey
        rw [hkey] at hwritten
        refine .inl ?_
        show m.written ≤ (σ.history k).length - 1
        omega

/-- **No wake-up is lost.** The validator reads a reference for a gateway it is adding, whose mapping
lists it, and a check tells of a value it wrote, from that mapping or an earlier one: either the value read
has the number of the value written or a later one, or the gateway is told. -/
theorem no_lost_wakeup (h : (pollingSystem clearMeta).Reachable System.Any σ) {r : Read R} (hr : r ∈ σ.reads)
    {m : UpdatedGatewaysSent R} (hm : m ∈ σ.messages) (hkey : m.key = r.key) (hlists : Lists r.mapping r.key)
    (hunchanged : m.version r.gateway ≤ r.version) :
    (σ.history r.key)[m.written]? = some m.value ∧ (σ.history r.key)[r.seen]? = some r.value ∧
      (m.written ≤ r.seen ∨ r.gateway ∈ m.gateways) := by
  obtain ⟨hnumbered, hwoken⟩ := h.inv (fun σ => Numbered σ ∧ Woken σ) ⟨Numbered.init, Woken.init⟩
    fun σ a σ' hinv _ hstep =>
      ⟨hinv.1.step (move_of_step hstep), hinv.2.step hinv.1 (move_of_step hstep)⟩
  exact ⟨hkey ▸ hnumbered.messages m hm, hnumbered.reads r hr, hwoken.woken r hr m hm hkey hlists hunchanged⟩

/-- A gateway is added and read while its reference has no value yet; then a check brings one, and tells. -/
def earlyReadRun : List (PollingStep Nat) :=
  let m : RouteToReferenceMapping :=
    .ofList [(ResourceKey.new "route", Std.ExtTreeSet.ofList [ResourceKey.new "service"])]
  [.lockMapping (.addReferencesForGateway (.new "gateway") m), .lockReferences, .tick,
    .getReference (.new "service"), .answer 0 (some 1), .updateGateways 0]

theorem earlyReadRun_wakes : ∃ (σ : Polling Nat) (r : Read Nat) (m : UpdatedGatewaysSent Nat),
    (pollingSystem id).run (pollingSystem id).init earlyReadRun = some σ ∧ r ∈ σ.reads ∧ m ∈ σ.messages ∧
      r.value = none ∧ m.value = some 1 ∧ r.gateway ∈ m.gateways := by
  have hrun : ((pollingSystem id).run (pollingSystem id).init earlyReadRun).map (fun σ =>
      decide (∃ r ∈ σ.reads, ∃ m ∈ σ.messages, m.key = r.key ∧
        (∃ refs ∈ r.mapping[ResourceKey.new "route"]?.toList, r.key ∈ refs) ∧
        m.version r.gateway ≤ r.version ∧ r.value = none ∧ m.value = some 1 ∧ ¬ m.written ≤ r.seen)) =
      some true := by decide +kernel
  obtain ⟨σ, hσ, h⟩ := Option.map_eq_some_iff.1 hrun
  obtain ⟨r, hr, m, hm, hkey, ⟨refs, hrefs, hmem⟩, hversion, hread, hwritten, hlater⟩ := of_decide_eq_true h
  have hlists : Lists r.mapping r.key := ⟨_, refs, Option.mem_toList.1 hrefs, hmem⟩
  have hwoken := no_lost_wakeup ⟨earlyReadRun, System.along_any, hσ⟩ hr hm hkey hlists hversion
  exact ⟨σ, r, m, hσ, hr, hm, hread, hwritten, hwoken.2.2.resolve_left hlater⟩

end Kubvernor
