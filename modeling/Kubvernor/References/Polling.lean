import Kubvernor.References.Counting

/-!
# The pollers of a resolver

The poller takes the counted references every second and spawns a check for each, which fetches the
reference without a lock and then writes what it got; if that has changed something, it tells the
validator which gateways list the reference. A call of the validator writes the mapping under its lock
and keeps it while it waits for the lock of the references to count. Every section under a lock is one
step here, so that all these tasks may interleave between any two.

A check may write after its reference was released: it then has a value again that nothing counts
(`no_resurrection_iff`).
-/

namespace Kubvernor

open Lib

variable {R : Type}

/-! ## The sections of a call -/

namespace MultiReferencesResolver

/-- The section of a call under the lock of the mapping: the mapping it leaves, and the keys to count
down and up under the lock of the references. A call that has nothing to do ends here. -/
def lockMapping (s : MultiReferencesResolver R) :
    ResolverOp R → Option (GatewayToRouteReferenceMapping × List ReferenceKey × List ReferenceKey)
  | .addReferencesForGateway g m =>
    if m.isEmpty then none
    else
      let mappingsToDelete := (s.gatewayRouteReferenceMapping[g]?).getD ∅
      some (s.gatewayRouteReferenceMapping.insert g m, mappingsToDelete.referenceKeys, m.referenceKeys)
  | .deleteReferencesForGateway g =>
    s.gatewayRouteReferenceMapping[g]?.map fun oldMappings =>
      (s.gatewayRouteReferenceMapping.erase g, oldMappings.referenceKeys, [])
  | .deleteRouteReferences r =>
    some (s.gatewayRouteReferenceMapping.map fun _ m => m.erase r, (s.resourcesToDelete r).toList, [])
  | .fetched .. | .notFetched .. => none

end MultiReferencesResolver

/-- The two sections of a call make the call. -/
theorem call_eq_sections [DecidableEq R] (clearMeta : R → R) (s : MultiReferencesResolver R)
    {op : ResolverOp R} (hop : op.IsCall) :
    (resolverSystem clearMeta).step s op =
      match s.lockMapping op with
      | none => some s
      | some (mapping, old, new) => (s.references.recount old new).map fun references => ⟨mapping, references⟩ := by
  cases op with
  | addReferencesForGateway g m =>
    simp only [resolverSystem, MultiReferencesResolver.addReferencesForGateway, MultiReferencesResolver.lockMapping]
    split <;> rfl
  | deleteReferencesForGateway g =>
    simp only [resolverSystem, MultiReferencesResolver.deleteReferencesForGateway,
      MultiReferencesResolver.lockMapping]
    cases s.gatewayRouteReferenceMapping[g]? <;> rfl
  | deleteRouteReferences r =>
    simp only [resolverSystem, MultiReferencesResolver.deleteRouteReferences, Option.map_map]
    rfl
  | fetched | notFetched => exact hop.elim

/-! ## The tasks -/

namespace Polling

/-- A task that `resolve` has spawned for a reference: it waits for the answer of the API server, or it
has changed the value and is to tell the gateways. The number and the value of its write are recorded
for the statements. -/
inductive Check (R : Type)
  | fetching (key : ReferenceKey)
  | updating (key : ReferenceKey) (written : Nat) (value : Option R)
  | ended

/-- What the validator has read for a gateway it was adding, with the mapping it had written: the
version of the gateway's mapping, and the number of the value. -/
structure Read (R : Type) where
  gateway : GatewayKey
  mapping : RouteToReferenceMapping
  version : Nat
  key : ReferenceKey
  seen : Nat
  value : Option R

/-- The message `UpdatedGateways`, with the number and the value of the write it tells of and the versions of the
mappings it was computed from. -/
structure UpdatedGatewaysSent (R : Type) where
  key : ReferenceKey
  gateways : Std.ExtTreeSet GatewayKey
  written : Nat
  value : Option R
  version : GatewayKey → Nat

end Polling

open Polling

/-- The resolver with its tasks. `counting` is what the validator counts as soon as it has the lock of
the references, while it holds the lock of the mapping, and `handling` the gateway it is adding. The
values each reference had, the versions of the mappings, the reads and the messages are recorded for the
statements. -/
structure Polling (R : Type) where
  resolver : MultiReferencesResolver R := {}
  counting : Option (List ReferenceKey × List ReferenceKey) := none
  handling : Option (GatewayKey × RouteToReferenceMapping) := none
  checks : List (Check R) := []
  history : ReferenceKey → List (Option R) := fun _ => [none]
  version : GatewayKey → Nat := fun _ => 0
  reads : List (Read R) := []
  messages : List (UpdatedGatewaysSent R) := []

/-- The poller ticks, a check gets its answer or tells the gateways, the validator makes a call, in its
two sections, or reads a value. -/
inductive PollingStep (R : Type)
  | tick
  | answer (i : Nat) (reference : Option R)
  | updateGateways (i : Nat)
  | lockMapping (op : ResolverOp R)
  | lockReferences
  | getReference (key : ReferenceKey)

/-- What a check writes, and whether that changes anything. -/
def References.answered [DecidableEq R] (clearMeta : R → R) (refs : References R) (k : ReferenceKey) :
    Option R → References R × Bool
  | some reference => refs.addResolvedReference clearMeta k reference
  | none => ((refs.removeResolvedReference k).1, (refs.removeResolvedReference k).2.isSome)

/-- The gateway and the mapping that a call adds. -/
def ResolverOp.added? : ResolverOp R → Option (GatewayKey × RouteToReferenceMapping)
  | .addReferencesForGateway g m => some (g, m)
  | _ => none

/-- A call writes the mapping of a gateway. -/
def ResolverOp.writes (s : MultiReferencesResolver R) (g : GatewayKey) : ResolverOp R → Bool
  | .addReferencesForGateway g' _ | .deleteReferencesForGateway g' => g' = g
  | .deleteRouteReferences r => s.gatewayRouteReferenceMapping[g]?.any (·.contains r)
  | .fetched .. | .notFetched .. => false

namespace Polling

variable (σ : Polling R)

/-- Other values are recorded. -/
def setReferences [DecidableEq R] (references : References R) : Polling R :=
  { σ with
    resolver := { σ.resolver with references := references }
    history := fun k =>
      if references.resolvedReferences[k]? = σ.resolver.references.resolvedReferences[k]? then σ.history k
      else σ.history k ++ [references.resolvedReferences[k]?] }

variable [DecidableEq R] (clearMeta : R → R)

def step : PollingStep R → Option (Polling R)
  | .tick =>
    some { σ with checks := σ.checks ++ σ.resolver.references.parents.keys.map .fetching }
  | .answer i reference =>
    match σ.checks[i]? with
    | some (.fetching k) =>
      let (references, updateGateway) := σ.resolver.references.answered clearMeta k reference
      let next := if updateGateway then .updating k (σ.history k).length reference else .ended
      some { σ.setReferences references with checks := σ.checks.set i next }
    | some (.updating ..) | some .ended | none => none
  | .updateGateways i =>
    match σ.counting, σ.checks[i]? with
    | none, some (.updating k written value) =>
      some { σ with
        checks := σ.checks.set i .ended
        messages := σ.messages ++ [⟨k, (σ.resolver.updateGateways k).1, written, value, σ.version⟩] }
    | _, _ => none
  | .lockMapping op =>
    if σ.counting.isSome then none
    else
      match σ.resolver.lockMapping op with
      | none => some { σ with handling := none }
      | some (mapping, old, new) =>
        some { σ with
          resolver := { σ.resolver with gatewayRouteReferenceMapping := mapping }
          counting := some (old, new)
          handling := op.added?
          version := fun g => if op.writes σ.resolver g then σ.version g + 1 else σ.version g }
  | .lockReferences =>
    σ.counting.bind fun (old, new) =>
      (σ.resolver.references.recount old new).map fun references =>
        { σ.setReferences references with counting := none }
  | .getReference k =>
    if σ.counting.isSome then none
    else
      let read := fun (g, m) =>
        ⟨g, m, σ.version g, k, (σ.history k).length - 1, σ.resolver.getReference k⟩
      some { σ with reads := σ.reads ++ (σ.handling.map read).toList }

end Polling

/-- A resolver with its pollers and the validator. -/
def pollingSystem [DecidableEq R] (clearMeta : R → R) : System (Polling R) (PollingStep R) where
  init := {}
  step := fun σ a => σ.step clearMeta a

/-! ## The moves -/

namespace Polling

section Moves

variable [DecidableEq R] {clearMeta : R → R} {σ σ' : Polling R} {a : PollingStep R}

/-- What the steps do, one constructor for each branch. -/
inductive Move (clearMeta : R → R) (σ : Polling R) : PollingStep R → Polling R → Prop
  | tick : Move clearMeta σ .tick
      { σ with checks := σ.checks ++ σ.resolver.references.parents.keys.map .fetching }
  | answer (i : Nat) (reference : Option R) (k : ReferenceKey) (next : Check R)
      (hcheck : σ.checks[i]? = some (.fetching k))
      (hnext : next =
        if (σ.resolver.references.answered clearMeta k reference).2
          then .updating k (σ.history k).length reference else .ended) :
      Move clearMeta σ (.answer i reference)
        { σ.setReferences (σ.resolver.references.answered clearMeta k reference).1 with
          checks := σ.checks.set i next }
  | updateGateways (i : Nat) (k : ReferenceKey) (written : Nat) (value : Option R)
      (hfree : σ.counting = none) (hcheck : σ.checks[i]? = some (.updating k written value)) :
      Move clearMeta σ (.updateGateways i)
        { σ with
          checks := σ.checks.set i .ended
          messages := σ.messages ++ [⟨k, (σ.resolver.updateGateways k).1, written, value, σ.version⟩] }
  | skip (op : ResolverOp R) (hnone : σ.resolver.lockMapping op = none) :
      Move clearMeta σ (.lockMapping op) { σ with handling := none }
  | call (op : ResolverOp R) (mapping : GatewayToRouteReferenceMapping) (old new : List ReferenceKey)
      (hsome : σ.resolver.lockMapping op = some (mapping, old, new)) :
      Move clearMeta σ (.lockMapping op)
        { σ with
          resolver := { σ.resolver with gatewayRouteReferenceMapping := mapping }
          counting := some (old, new)
          handling := op.added?
          version := fun g => if op.writes σ.resolver g then σ.version g + 1 else σ.version g }
  | count (old new : List ReferenceKey) (references : References R)
      (hrecount : σ.resolver.references.recount old new = some references) :
      Move clearMeta σ .lockReferences { σ.setReferences references with counting := none }
  | read (k : ReferenceKey) (reads : List (Read R))
      (hreads : ∀ r ∈ reads, r ∈ σ.reads ∨ ∃ g m, σ.handling = some (g, m) ∧
        r = ⟨g, m, σ.version g, k, (σ.history k).length - 1, σ.resolver.getReference k⟩) :
      Move clearMeta σ (.getReference k) { σ with reads := reads }

theorem move_of_step (h : σ.step clearMeta a = some σ') : Move clearMeta σ a σ' := by
  cases a with
  | tick =>
    obtain rfl := Option.some.inj h
    exact .tick
  | answer i reference =>
    simp only [step] at h
    split at h
    · next k hk =>
      obtain rfl := Option.some.inj h
      exact .answer i reference k _ hk rfl
    · cases h
    · cases h
    · cases h
  | updateGateways i =>
    simp only [step] at h
    split at h
    · next k written value hfree hcheck =>
      obtain rfl := Option.some.inj h
      exact .updateGateways i k written value hfree hcheck
    · cases h
  | lockMapping op =>
    simp only [step] at h
    split at h
    · cases h
    · split at h
      · next hnone =>
        obtain rfl := Option.some.inj h
        exact .skip op hnone
      · next mapping old new hsome =>
        obtain rfl := Option.some.inj h
        exact .call op mapping old new hsome
  | lockReferences =>
    obtain ⟨⟨old, new⟩, -, h⟩ := Option.bind_eq_some_iff.1 h
    obtain ⟨references, hrecount, rfl⟩ := Option.map_eq_some_iff.1 h
    exact .count old new references hrecount
  | getReference k =>
    simp only [step] at h
    split at h
    · cases h
    · obtain rfl := Option.some.inj h
      refine .read k _ fun r hr => ?_
      rcases List.mem_append.1 hr with hr | hr
      · exact .inl hr
      · obtain ⟨⟨g, m⟩, hhandling, rfl⟩ := Option.map_eq_some_iff.1 (Option.mem_toList.1 hr)
        exact .inr ⟨g, m, hhandling, rfl⟩

end Moves

end Polling

/-! ## Values of released references -/

section Resurrection

variable [DecidableEq R] {clearMeta : R → R} {σ σ' : Polling R} {a : PollingStep R}

/-- Only counted references have a value. -/
def NoResurrection (σ : Polling R) : Prop :=
  ∀ k ∈ σ.resolver.references.resolvedReferences, k ∈ σ.resolver.references.parents

/-- A check gets the reference only while it is counted. -/
def AnswersCounted (σ : Polling R) : PollingStep R → Prop
  | .answer i (some _) => ∀ k, σ.checks[i]? = some (.fetching k) → k ∈ σ.resolver.references.parents
  | _ => True

omit [DecidableEq R] in
theorem NoResurrection.init : NoResurrection ({} : Polling R) := fun k hk => by simp at hk

theorem parents_answered (refs : References R) (k : ReferenceKey) (reference : Option R) :
    (refs.answered clearMeta k reference).1.parents = refs.parents := by
  cases reference with
  | none => rfl
  | some reference =>
    simp only [References.answered, References.addResolvedReference]
    split
    · rfl
    · split <;> rfl

theorem mem_answered {refs : References R} {k k' : ReferenceKey} {reference : Option R}
    (h : k' ∈ (refs.answered clearMeta k reference).1.resolvedReferences) :
    k' ∈ refs.resolvedReferences ∨ k' = k ∧ reference.isSome := by
  cases reference with
  | none => exact .inl (Std.ExtTreeMap.mem_of_mem_erase h)
  | some reference =>
    rcases mem_addResolvedReference.1 h with rfl | h
    · exact .inr ⟨rfl, rfl⟩
    · exact .inl h

/-- What a step does to the references: a check is answered, or the validator counts. -/
theorem references_of_step (h : σ.step clearMeta a = some σ') :
    σ'.resolver.references = σ.resolver.references ∨
    (∃ i reference k, a = .answer i reference ∧ σ.checks[i]? = some (.fetching k) ∧
      σ'.resolver.references = (σ.resolver.references.answered clearMeta k reference).1) ∨
    ∃ old new, a = .lockReferences ∧ σ.resolver.references.recount old new = some σ'.resolver.references := by
  cases move_of_step h with
  | answer i reference k next hcheck => exact .inr (.inl ⟨i, reference, k, rfl, hcheck, rfl⟩)
  | count old new references hrecount => exact .inr (.inr ⟨old, new, rfl, hrecount⟩)
  | tick | updateGateways | skip | call | read => exact .inl rfl

theorem NoResurrection.step (hs : NoResurrection σ) (ha : AnswersCounted σ a)
    (h : σ.step clearMeta a = some σ') : NoResurrection σ' := by
  intro k hk
  rcases references_of_step h with heq | ⟨i, reference, k', rfl, hcheck, heq⟩ | ⟨old, new, -, hrecount⟩
  · rw [heq] at hk ⊢
    exact hs k hk
  · rw [heq] at hk ⊢
    rw [parents_answered]
    rcases mem_answered hk with hk | ⟨rfl, hsome⟩
    · exact hs k hk
    · obtain ⟨v, rfl⟩ := Option.isSome_iff_exists.1 hsome
      exact ha k hcheck
  · exact resolved_of_recount hrecount hs k hk

/-- A step resurrects a reference exactly if it is an answer for one that is not counted. -/
theorem NoResurrection.step_iff (hs : NoResurrection σ) :
    (∀ σ', (pollingSystem clearMeta).step σ a = some σ' → NoResurrection σ') ↔ AnswersCounted σ a := by
  refine ⟨fun hclean => ?_, fun ha σ' h => hs.step ha h⟩
  cases a with
  | answer i reference =>
    cases reference with
    | none => trivial
    | some v =>
      intro k hk
      have hstep : ∃ σ', σ.step clearMeta (.answer i (some v)) = some σ' ∧ σ'.resolver.references =
          (σ.resolver.references.addResolvedReference clearMeta k v).1 := by
        simp only [Polling.step, hk]
        exact ⟨_, rfl, rfl⟩
      obtain ⟨σ', hstep, heq⟩ := hstep
      have hclean := hclean σ' hstep k
      rw [heq, mem_addResolvedReference] at hclean
      have hparents : (σ.resolver.references.addResolvedReference clearMeta k v).1.parents =
          σ.resolver.references.parents := parents_answered σ.resolver.references k (some v)
      exact hparents ▸ hclean (.inl rfl)
  | _ => trivial

/-- **No reference is resurrected.** Along a run only counted references have a value exactly if no check
gets a reference after it was released. -/
theorem no_resurrection_iff (clearMeta : R → R) (as : List (PollingStep R)) :
    (pollingSystem clearMeta).Along
        (fun σ a => ∀ σ', (pollingSystem clearMeta).step σ a = some σ' → NoResurrection σ')
        (pollingSystem clearMeta).init as ↔
      (pollingSystem clearMeta).Along AnswersCounted (pollingSystem clearMeta).init as :=
  System.along_congr NoResurrection NoResurrection.init (fun _ _ hs => hs.step_iff)
    fun _ _ _ hs ha h => hs.step ha h

end Resurrection

/-- The gateway is deleted while a check of its only reference waits for an answer. -/
def lateAnswerRun : List (PollingStep Nat) :=
  let m : RouteToReferenceMapping :=
    .ofList [(ResourceKey.new "route", Std.ExtTreeSet.ofList [ResourceKey.new "service"])]
  [.lockMapping (.addReferencesForGateway (.new "gateway") m), .lockReferences, .tick,
    .lockMapping (.deleteReferencesForGateway (.new "gateway")), .lockReferences, .answer 0 (some 1)]

/-- **The released reference has a value** that nothing will remove. -/
theorem lateAnswerRun_resurrects : ∃ σ,
    (pollingSystem id).run (pollingSystem id).init lateAnswerRun = some σ ∧
    σ.resolver.references.parents.toList = [] ∧
    σ.resolver.references.resolvedReferences[ResourceKey.new "service"]? = some 1 ∧ ¬ NoResurrection σ := by
  have hrun : ((pollingSystem id).run (pollingSystem id).init lateAnswerRun).map (fun σ =>
      (σ.resolver.references.parents.toList,
        σ.resolver.references.resolvedReferences[ResourceKey.new "service"]?)) = some ([], some 1) := by
    decide +kernel
  obtain ⟨σ, hσ, heq⟩ := Option.map_eq_some_iff.1 hrun
  obtain ⟨hparents, hvalue⟩ := Prod.mk.inj heq
  refine ⟨σ, hσ, hparents, hvalue, fun h => ?_⟩
  have hmem := h _ (Std.ExtTreeMap.mem_iff_isSome_getElem?.2 (by rw [hvalue]; rfl))
  obtain ⟨n, hn⟩ := Option.isSome_iff_exists.1 (Std.ExtTreeMap.mem_iff_isSome_getElem?.1 hmem)
  have htoList := Std.ExtTreeMap.mem_toList_iff_getElem?_eq_some.2 hn
  rw [hparents] at htoList
  exact List.not_mem_nil htoList

end Kubvernor
