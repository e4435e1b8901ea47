import Kubvernor.Lib.BoundedChannel

/-!
# The mutexes of the resolvers

The reference validator is the only receiver of the validate channel, and it locks the mutexes of the
resolvers while it handles a request. The resolvers' own tasks send into that channel, and their
`update_gateways` (for the grants `resolve_internal`) does so with a mutex in its hand. Here are the
lock, unlock and send actions of all of them, as an instance of a bounded channel; what decides
between the branches (what a gateway refers to, what has changed) is in `Circumstances`.

`validator_deadlock_free` says which runs are safe. With one slot, `blockedRun` ends in the deadlock.
-/

namespace Kubvernor.Locks

open Lib LockAction

/-- The two `MultiReferencesResolver`s. -/
inductive MultiResolver
  | service | inferencePool
deriving DecidableEq, Repr

/-- The mutexes: `gateway_route_reference_mapping` and `references` of the two multi references
resolvers, `references` and `resolved_references` of the secrets resolver, `references` and
`resolved_reference_grants` of the grants resolver. -/
inductive Mutex
  | mapping (r : MultiResolver)
  | references (r : MultiResolver)
  | secretReferences
  | resolvedSecrets
  | grantReferences
  | resolvedGrants
deriving DecidableEq, Repr

/-- The variants of `ReferenceValidateRequest`. -/
inductive Request
  | addGateway | addRoute | updatedGateways | updatedRoutes | deleteRoute | deleteGateway
deriving DecidableEq, Repr

/-- The validator; the loops of the resolvers with the tasks they spawn for single references; and the
tasks that send requests without a mutex. -/
inductive ResolverTask
  | validator
  | poller (r : MultiResolver)
  | check (r : MultiResolver) (i : Nat)
  | secretsPoller
  | secretCheck (i : Nat)
  | grantsPoller
  | sender (i : Nat)
deriving DecidableEq, Repr

/-- What the processing of a gateway looks up. -/
inductive Lookup
  | grant | secret | backend (r : MultiResolver)
deriving DecidableEq, Repr

/-- What decides between the branches of the programs below. -/
structure Circumstances where
  /-- the gateway refers to certificates -/
  secrets : Bool := false
  /-- the gateway has linked routes -/
  linked : Bool := false
  /-- the resolver has a mapping for the gateway -/
  mapped : MultiResolver → Bool := fun _ => false
  /-- the number of secrets that no gateway refers to any more -/
  forgotten : Nat := 0
  /-- what the processing of the gateways looks up -/
  lookups : List Lookup := []
  /-- a poll has brought a change -/
  changed : Bool := false
  /-- what a sender sends -/
  request : Request := .addRoute

abbrev Program := List (LockAction Mutex Request)

/-- A critical section. -/
def withLock (m : Mutex) (body : Program) : Program := .lock m :: (body ++ [.unlock m])

namespace MultiReferencesResolver

def addReferencesForGateway (r : MultiResolver) (nonempty : Bool) : Program :=
  if nonempty then withLock (.mapping r) (withLock (.references r) []) else []

def deleteReferencesForGateway (r : MultiResolver) (mapped : Bool) : Program :=
  withLock (.mapping r) (if mapped then withLock (.references r) [] else [])

def deleteRouteReferences (r : MultiResolver) : Program :=
  withLock (.mapping r) (withLock (.references r) [])

def getReference (r : MultiResolver) : Program := withLock (.references r) []

def updateGateways (r : MultiResolver) : Program :=
  withLock (.mapping r) [.send .updatedGateways, .send .updatedRoutes]

/-- The task that `resolve` spawns for a reference. -/
def check (r : MultiResolver) (changed : Bool) : Program :=
  withLock (.references r) [] ++ if changed then updateGateways r else []

/-- One round of `resolve`. -/
def resolve (r : MultiResolver) : Program := withLock (.references r) []

end MultiReferencesResolver

namespace ReferencesResolver

def addReferencesForGateway (nonempty : Bool) : Program :=
  if nonempty then withLock .secretReferences [] else []

def deleteReferencesForGateway (forgotten : Nat) : Program :=
  withLock .secretReferences ((List.range forgotten).flatMap fun _ => withLock .resolvedSecrets [])

def getReference : Program := withLock .resolvedSecrets []

def updateGateways : Program := withLock .secretReferences [.send .updatedGateways]

def check (changed : Bool) : Program :=
  withLock .resolvedSecrets [] ++ if changed then updateGateways else []

def resolve : Program := withLock .secretReferences []

end ReferencesResolver

namespace ReferenceGrantsResolver

def addReferencesByGateway : Program := withLock .grantReferences []

def deleteReferencesByGateway : Program := withLock .grantReferences []

def isAllowed : Program := withLock .resolvedGrants []

def resolveInternal (changed : Bool) : Program :=
  withLock .resolvedGrants (withLock .grantReferences (if changed then [.send .updatedGateways] else []))

end ReferenceGrantsResolver

def Lookup.program : Lookup → Program
  | .grant => ReferenceGrantsResolver.isAllowed
  | .secret => ReferencesResolver.getReference
  | .backend r => MultiReferencesResolver.getReference r

/-- `ReferenceResolverHandler::process`, for all gateways of a request. -/
def process (e : Circumstances) : Program := e.lookups.flatMap Lookup.program

/-- `ReferenceResolverHandler::handle`. -/
def handle (q : Request) (e : Circumstances) : Program :=
  match q with
  | .addGateway =>
    ReferencesResolver.addReferencesForGateway e.secrets ++
      MultiReferencesResolver.addReferencesForGateway .service e.linked ++
      MultiReferencesResolver.addReferencesForGateway .inferencePool e.linked ++
      ReferenceGrantsResolver.addReferencesByGateway ++ process e
  | .deleteGateway =>
    ReferencesResolver.deleteReferencesForGateway e.forgotten ++
      MultiReferencesResolver.deleteReferencesForGateway .service (e.mapped .service) ++
      MultiReferencesResolver.deleteReferencesForGateway .inferencePool (e.mapped .inferencePool) ++
      ReferenceGrantsResolver.deleteReferencesByGateway
  | .deleteRoute =>
    MultiReferencesResolver.deleteRouteReferences .service ++
      MultiReferencesResolver.deleteRouteReferences .inferencePool ++ process e
  | .updatedGateways => process e
  | .addRoute | .updatedRoutes => []

/-- The programs of the other tasks. -/
def produce : ResolverTask → Circumstances → Option Program
  | .validator, _ => none
  | .poller r, _ => some (MultiReferencesResolver.resolve r)
  | .check r _, e => some (MultiReferencesResolver.check r e.changed)
  | .secretsPoller, _ => some ReferencesResolver.resolve
  | .secretCheck _, e => some (ReferencesResolver.check e.changed)
  | .grantsPoller, e => some (ReferenceGrantsResolver.resolveInternal e.changed)
  | .sender _, e => some [.send e.request]

/-! ## The programs are in order -/

theorem released_withLock {m : Mutex} {body : Program} (h : Released body) : Released (withLock m body) :=
  ⟨by simp, h.append trivial⟩

theorem released_lock (m : Mutex) : Released (withLock m []) := ⟨List.mem_singleton.2 rfl, trivial⟩

theorem send_mem_withLock {m : Mutex} {body : Program} {q : Request} :
    .send q ∈ withLock m body ↔ .send q ∈ body := by simp [withLock]

theorem Lookup.released (l : Lookup) : Released l.program := by
  cases l <;> exact released_lock _

theorem Lookup.noSend (l : Lookup) (q : Request) : .send q ∉ l.program := by
  cases l <;> simp [Lookup.program, ReferenceGrantsResolver.isAllowed, ReferencesResolver.getReference,
    MultiReferencesResolver.getReference, withLock]

theorem process_released (e : Circumstances) : Released (process e) :=
  released_flatMap fun l _ => l.released

theorem process_noSend (e : Circumstances) (q : Request) : .send q ∉ process e := by
  intro h
  obtain ⟨l, -, hl⟩ := List.mem_flatMap.1 h
  exact l.noSend q hl

theorem released_ite {b : Bool} {p : Program} (h : Released p) : Released (if b then p else []) := by
  cases b
  · trivial
  · exact h

theorem handle_released (q : Request) (e : Circumstances) : Released (handle q e) := by
  have hboth : ∀ r, Released (withLock (.mapping r) (withLock (.references r) [])) :=
    fun r => released_withLock (released_lock _)
  cases q with
  | addGateway =>
    exact ((((released_ite (released_lock _)).append (released_ite (hboth _))).append
      (released_ite (hboth _))).append (released_lock _)).append (process_released e)
  | deleteGateway =>
    have hsecrets : Released (ReferencesResolver.deleteReferencesForGateway e.forgotten) :=
      released_withLock (released_flatMap fun _ _ => released_lock _)
    have hmulti : ∀ r, Released (MultiReferencesResolver.deleteReferencesForGateway r (e.mapped r)) :=
      fun r => released_withLock (released_ite (released_lock _))
    exact ((hsecrets.append (hmulti _)).append (hmulti _)).append (released_lock _)
  | deleteRoute => exact ((hboth _).append (hboth _)).append (process_released e)
  | updatedGateways => exact process_released e
  | addRoute => trivial
  | updatedRoutes => trivial

/-- The validator does not send into its own channel. -/
theorem handle_noSend (q : Request) (e : Circumstances) (r : Request) : .send r ∉ handle q e := by
  have hite : ∀ (b : Bool) (p : Program), .send r ∉ p → .send r ∉ (if b then p else []) := by
    intro b p hp
    cases b
    · simp
    · exact hp
  have hboth : ∀ k, .send r ∉ withLock (.mapping k) (withLock (.references k) []) := by
    simp [send_mem_withLock]
  cases q with
  | addGateway =>
    simp only [handle, List.mem_append, not_or]
    refine ⟨⟨⟨⟨hite _ _ ?_, hite _ _ (hboth _)⟩, hite _ _ (hboth _)⟩, ?_⟩, process_noSend e r⟩
    · simp [send_mem_withLock]
    · simp [ReferenceGrantsResolver.addReferencesByGateway, send_mem_withLock]
  | deleteGateway =>
    simp only [handle, List.mem_append, not_or]
    refine ⟨⟨⟨?_, ?_⟩, ?_⟩, ?_⟩
    · simp [ReferencesResolver.deleteReferencesForGateway, send_mem_withLock]
    · rw [MultiReferencesResolver.deleteReferencesForGateway, send_mem_withLock]
      exact hite _ _ (by simp [send_mem_withLock])
    · rw [MultiReferencesResolver.deleteReferencesForGateway, send_mem_withLock]
      exact hite _ _ (by simp [send_mem_withLock])
    · simp [ReferenceGrantsResolver.deleteReferencesByGateway, send_mem_withLock]
  | deleteRoute =>
    simp only [handle, List.mem_append, not_or]
    exact ⟨⟨hboth _, hboth _⟩, process_noSend e r⟩
  | updatedGateways => exact process_noSend e r
  | addRoute => simp [handle]
  | updatedRoutes => simp [handle]

theorem produce_released (t : ResolverTask) (e : Circumstances) (p : Program) (h : produce t e = some p) :
    Released p := by
  cases t with
  | validator => cases h
  | poller r =>
    obtain rfl := Option.some.inj h
    exact released_lock _
  | check r i =>
    obtain rfl := Option.some.inj h
    exact (released_lock _).append (released_ite (released_withLock trivial))
  | secretsPoller =>
    obtain rfl := Option.some.inj h
    exact released_lock _
  | secretCheck i =>
    obtain rfl := Option.some.inj h
    exact (released_lock _).append (released_ite (released_withLock trivial))
  | grantsPoller =>
    obtain rfl := Option.some.inj h
    exact released_withLock (released_withLock (released_ite trivial))
  | sender i =>
    obtain rfl := Option.some.inj h
    trivial

/-- No task sends right after it has released a mutex: it takes one for the send, or sends without. -/
theorem produce_follows (t : ResolverTask) (e : Circumstances) (p : Program) (h : produce t e = some p) :
    p.IsChain Follows := by
  cases t with
  | validator => cases h
  | poller r =>
    obtain rfl := Option.some.inj h
    simp [MultiReferencesResolver.resolve, withLock, Follows]
  | check r i =>
    obtain rfl := Option.some.inj h
    cases e.changed <;>
      simp [MultiReferencesResolver.check, MultiReferencesResolver.updateGateways, withLock, Follows]
  | secretsPoller =>
    obtain rfl := Option.some.inj h
    simp [ReferencesResolver.resolve, withLock, Follows]
  | secretCheck i =>
    obtain rfl := Option.some.inj h
    cases e.changed <;> simp [ReferencesResolver.check, ReferencesResolver.updateGateways, withLock, Follows]
  | grantsPoller =>
    obtain rfl := Option.some.inj h
    cases e.changed <;> simp [ReferenceGrantsResolver.resolveInternal, withLock, Follows]
  | sender i =>
    obtain rfl := Option.some.inj h
    simp

/-- The validate channel with its senders and its receiver. -/
def resolvers (capacity : Nat) : BoundedChannel Mutex ResolverTask Request Circumstances where
  capacity := capacity
  receiver := .validator
  handle := handle
  produce := produce
  handle_noSend := handle_noSend
  handle_released := handle_released
  produce_released := produce_released
  produce_follows := produce_follows

abbrev LocksConfig := Config (LockState Mutex ResolverTask Request) ResolverTask (LockAction Mutex Request)
abbrev LocksStep := TaskStep ResolverTask Circumstances Unit

/-- **The validator does not deadlock with a resolver** in a run in which no step brings a task that
holds a mutex before a full channel while the request in the validator's hands still locks that mutex. -/
theorem validator_deadlock_free {capacity : Nat} {as : List LocksStep} {c : LocksConfig}
    (hroom : (resolvers capacity).tasks.system.Along (resolvers capacity).RoomToSend
      (resolvers capacity).tasks.system.init as)
    (hrun : (resolvers capacity).tasks.system.run (resolvers capacity).tasks.system.init as = some c) :
    ¬ (resolvers capacity).Deadlocked c :=
  BoundedChannel.deadlock_free ⟨as, hroom, hrun⟩

/-- The condition is exact: after a step that breaks it the validator never gets to another request. -/
theorem validator_lost {capacity : Nat} {c c₁ c₂ : LocksConfig} {x : LocksStep} {as : List LocksStep}
    (hc : (resolvers capacity).Inv c) (hx : ¬ (resolvers capacity).RoomToSend c x)
    (hstep : (resolvers capacity).tasks.system.step c x = some c₁)
    (hrun : (resolvers capacity).tasks.system.run c₁ as = some c₂) : c₂.program .validator ≠ [] := by
  obtain ⟨-, m, -, hwanted, -⟩ := (BoundedChannel.doomed_of_not_roomToSend hx hc hstep).run hrun
  intro hidle
  have hmem : .lock m ∈ c₂.program .validator := hwanted
  rw [hidle] at hmem
  cases hmem

/-! ## With one slot -/

/-- A gateway with routes is added, and a service changes. -/
def changeRun : List LocksStep :=
  [.start (.sender 0) { request := .addGateway }, .next (.sender 0) (),
    .start .validator { linked := true },
    .start (.check .service 0) { changed := true },
    .next (.check .service 0) (), .next (.check .service 0) ()]

/-- The validator is done with the gateway before the change of the service is sent. -/
def patientRun : List LocksStep :=
  changeRun ++ List.replicate 10 (.next .validator ()) ++
    [.next (.check .service 0) (), .next (.check .service 0) ()]

/-- The check takes the mapping and sends while the validator still has to lock it. -/
def blockedRun : List LocksStep :=
  changeRun ++ [.next (.check .service 0) (), .next (.check .service 0) ()]

theorem patientRun_deadlockFree : ∃ c,
    (resolvers 1).tasks.system.run (resolvers 1).tasks.system.init patientRun = some c ∧
      c.shared.channel = [.updatedGateways] ∧ ¬ (resolvers 1).Deadlocked c := by
  have h : ((resolvers 1).tasks.system.run (resolvers 1).tasks.system.init patientRun).map
      (fun c => c.shared.channel) = some [.updatedGateways] := by decide
  obtain ⟨c, hc, hchannel⟩ := Option.map_eq_some_iff.1 h
  exact ⟨c, hc, hchannel, validator_deadlock_free (by decide) hc⟩

theorem blockedRun_deadlocked : ∃ c,
    (resolvers 1).tasks.system.run (resolvers 1).tasks.system.init blockedRun = some c ∧
      (resolvers 1).Deadlocked c := by
  have h : ((resolvers 1).tasks.system.run (resolvers 1).tasks.system.init blockedRun).map
      (fun c => decide (1 ≤ c.shared.channel.length ∧
        (c.program .validator).head? = some (.lock (.mapping .service)) ∧
        c.shared.holder (.mapping .service) = some (.check .service 0) ∧
        AtSend (c.program (.check .service 0)))) = some true := by decide
  obtain ⟨c, hc, hblocked⟩ := Option.map_eq_some_iff.1 h
  obtain ⟨hfull, hhead, hholder, hsend⟩ := of_decide_eq_true hblocked
  exact ⟨c, hc, hfull, _, _, hhead, hholder, hsend⟩

end Kubvernor.Locks
