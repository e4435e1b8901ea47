import Kubvernor.Lib.NamedSet
import Mathlib.Logic.Relation

/-!
# One subscription of a client

What the server and one client know about the items of one type of one gateway: the set that is stored
for the gateway, where the service is with an update of it, the set cached in the client's entry, the
snapshot the handler is about to send, and what the client holds once it has received the messages in
flight. `Subscription.Step` lists how these change, and `Subscription.Sound` that the messages still to
come make what is held the set that is wanted.
-/

namespace Kubvernor.Agentgateway

open Lib

variable {ι κ : Type}

/-- Where the service is with an update, for one client and one type; `base` is the set in the service's
copy of the client's entry. With an update of the other type it is `aside`. -/
inductive Work (ι : Type)
  /-- nothing to do -/
  | idle
  /-- the clients have been read, `new` is to be stored -/
  | planned (new : Set ι) (base : Option (Set ι))
  /-- both messages are to be sent -/
  | owed (base : Set ι)
  /-- the names are dropped, the items to be sent -/
  | half (base : Set ι)
  /-- the same, and the new set is cached -/
  | tail (base : Set ι)
  /-- both are sent, the new set is to be cached -/
  | kept (base : Set ι)
  /-- the old set is to be written back -/
  | aside (base : Set ι)

/-- The subscription of a client to a type: `ready` is the snapshot the handler sends next, and a request
that is yet to be answered is `waiting`. -/
structure Subscription (ι : Type) where
  target : Set ι
  work : Work ι
  registered : Bool
  cached : Set ι
  ready : Option (Set ι)
  final : Set ι
  waiting : Bool
  asked : Bool

namespace Subscription

section
variable (v : Subscription ι)

/-- The set the client is to hold once the service is done. -/
def goal : Set ι :=
  match v.work with
  | .planned new _ => new
  | _ => v.target

/-- The items the service is still to send. -/
def toAdd : Set ι :=
  match v.work with
  | .planned new (some base) => new \ base
  | .owed base | .half base | .tail base => v.target \ base
  | _ => ∅

variable (name : ι → κ)

/-- The names the service is still to drop. -/
def toDrop : Set κ :=
  match v.work with
  | .planned new (some base) => gone name base new
  | .owed base => gone name base v.target
  | _ => ∅

/-- What the client holds once the service is done. -/
def outlook : Set ι := settle name (v.toDrop name) v.toAdd v.final

end

/-! ## Steps -/

/-- How a subscription changes. A client that is registered has what is stored in its entry, and a
snapshot holds what is wanted or what the service is about to replace. -/
inductive Step (name : ι → κ) (v : Subscription ι) : Subscription ι → Prop
  | list (hidle : v.work = .idle) (new : Set ι) (hnew : Set.InjOn name new) (base : Option (Set ι))
      (hbase : base = if v.registered then some v.cached else none) :
      Step name v { v with work := .planned new base }
  | manage (new : Set ι) (base : Option (Set ι)) (hwork : v.work = .planned new base) :
      Step name v { v with target := new, work := base.elim .idle .owed }
  | remove (base : Set ι) (hwork : v.work = .owed base) (M : Set κ) (hM : M ⊆ name '' (v.target \ base)) :
      Step name v { v with work := .half base, final := drop name (gone name base v.target ∪ M) v.final }
  | store (base : Set ι) (hwork : v.work = .half base) :
      Step name v { v with work := .tail base, cached := v.target }
  | addLast (base : Set ι) (hwork : v.work = .tail base) :
      Step name v { v with work := .idle, final := put name (v.target \ base) v.final }
  | add (base : Set ι) (hwork : v.work = .half base) :
      Step name v { v with work := .kept base, final := put name (v.target \ base) v.final }
  | storeLast (base : Set ι) (hwork : v.work = .kept base) :
      Step name v { v with work := .idle, cached := v.target }
  | stepAside (hidle : v.work = .idle) (hreg : v.registered = true) :
      Step name v { v with work := .aside v.cached }
  | restore (base : Set ι) (hwork : v.work = .aside base) :
      Step name v { v with work := .idle, cached := base }
  | register (hreg : v.registered = false) : Step name v { v with registered := true, cached := v.goal }
  | prepare (hreg : v.registered = true) (waiting : Bool) :
      Step name v { v with ready := some v.cached, waiting := waiting }
  | snapshot (K : Set ι) (hready : v.ready = some K)
      (hK : ∀ i ∈ K, i ∈ v.goal ∨ name i ∈ v.toDrop name ∨ name i ∈ name '' v.toAdd) :
      Step name v { v with ready := none, final := put name K v.final }
  | request : Step name v { v with waiting := true, asked := true }

/-! ## What the steps keep -/

section
variable (v : Subscription ι)

/-- The cached set, while the service is at work. -/
def CachedFits : Prop :=
  match v.work with
  | .idle | .planned _ none => v.registered = true → v.cached = v.goal
  | .planned _ (some base) | .aside base => v.cached = v.target ∧ base = v.cached
  | .owed base | .half base | .kept base => base = v.cached
  | .tail _ => v.cached = v.target

variable (name : ι → κ)

structure Sound : Prop where
  named : Set.InjOn name v.target ∧ Set.InjOn name v.goal
  outlook_subset : v.outlook name ⊆ v.goal
  cached_or : v.registered = true → ∀ i ∈ v.goal, i ∈ v.cached ∨ i ∈ v.outlook name
  ready_or : ∀ K, v.ready = some K → v.registered = true ∧ ∀ i ∈ v.goal, i ∈ K ∨ i ∈ v.outlook name
  answered : v.asked = true → v.waiting = true ∨ v.ready.isSome ∨
    v.registered = true ∧ v.goal ⊆ v.outlook name
  cachedFits : v.CachedFits
  unregistered : v.registered = false →
    v.final = ∅ ∧ (v.work = .idle ∨ ∃ new, v.work = .planned new none)

end

variable {name : ι → κ} {v v' : Subscription ι}

theorem toAdd_subset : v.toAdd ⊆ v.goal := by
  unfold toAdd goal
  split <;> simp_all

theorem not_mem_toDrop {i : ι} (hi : i ∈ v.goal) : name i ∉ v.toDrop name := by
  unfold toDrop
  unfold goal at hi
  split
  · simp_all [not_mem_gone]
  · simp_all [not_mem_gone]
  · simp

/-- A subscription nothing was sent on, of a client that is not registered. -/
theorem Sound.new (hnamed : Set.InjOn name v.target ∧ Set.InjOn name v.goal)
    (hregistered : v.registered = false) (hready : v.ready = none) (hfinal : v.final = ∅)
    (hasked : v.asked = false) (hwork : v.work = .idle ∨ ∃ new, v.work = .planned new none) :
    v.Sound name := by
  constructor
  · exact hnamed
  · rcases hwork with hwork | ⟨new, hwork⟩ <;> simp [outlook, toDrop, toAdd, hwork, hfinal]
  · simp [hregistered]
  · simp [hready]
  · simp [hasked]
  · rcases hwork with hwork | ⟨new, hwork⟩ <;> simp [CachedFits, hwork, hregistered]
  · exact fun _ => ⟨hfinal, hwork⟩

/-- Once nothing is under way, a registered client that asked holds what is stored, and its entry has
it cached. -/
theorem Sound.held (h : v.Sound name) (hasked : v.asked = true) (hregistered : v.registered = true)
    (hwork : v.work = .idle) (hready : v.ready = none) (hwaiting : v.waiting = false) :
    v.final = v.target ∧ v.cached = v.target := by
  have hgoal : v.goal = v.target := by simp [goal, hwork]
  have houtlook : v.outlook name = v.final := by simp [outlook, toDrop, toAdd, hwork]
  have hfits := h.cachedFits
  rw [CachedFits, hwork, hgoal] at hfits
  refine ⟨?_, hfits hregistered⟩
  apply Set.Subset.antisymm
  · rw [← houtlook, ← hgoal]
    exact h.outlook_subset
  · rcases h.answered hasked with h | h | h
    · simp [hwaiting] at h
    · simp [hready] at h
    · rw [← houtlook, ← hgoal]
      exact h.2

/-! ## The service's steps -/

/-- A step of the service that leaves the goal and the outlook as they are. -/
theorem Sound.work (h : v.Sound name) {target cached final : Set ι} {work : Work ι}
    (hv' : v' = { v with target := target, work := work, cached := cached, final := final })
    (hgoal : v'.goal = v.goal) (houtlook : v'.outlook name = v.outlook name)
    (htarget : Set.InjOn name target)
    (hcached : v.registered = true → ∀ i ∈ v.goal, i ∈ cached ∨ i ∈ v.outlook name)
    (hfits : v'.CachedFits)
    (hunregistered : v.registered = false → final = ∅ ∧ (work = .idle ∨ ∃ new, work = .planned new none)) :
    v'.Sound name := by
  subst hv'
  constructor
  · exact ⟨htarget, hgoal ▸ h.named.2⟩
  · rw [hgoal, houtlook]
    exact h.outlook_subset
  · rw [hgoal, houtlook]
    exact hcached
  · rw [hgoal, houtlook]
    exact h.ready_or
  · rw [hgoal, houtlook]
    exact h.answered
  · exact hfits
  · exact hunregistered

/-- While the service is at work for a client, the client is registered. -/
theorem Sound.registered_of_work (h : v.Sound name) (hidle : v.work ≠ .idle)
    (hplanned : ∀ new, v.work ≠ .planned new none) : v.registered = true := by
  cases hreg : v.registered with
  | true => rfl
  | false =>
    rcases (h.unregistered hreg).2 with hwork | ⟨new, hwork⟩
    · exact absurd hwork hidle
    · exact absurd hwork (hplanned new)

/-- The service reads the clients: what a client has cached is what is stored, so the delta from it
leads to the new set. -/
theorem Sound.list (h : v.Sound name) (hidle : v.work = .idle) {new : Set ι}
    (hnew : Set.InjOn name new) {base : Option (Set ι)}
    (hbase : base = if v.registered then some v.cached else none) :
    Sound { v with work := .planned new base } name := by
  have hgoal : v.goal = v.target := by simp [goal, hidle]
  have houtlook : v.outlook name = v.final := by simp [outlook, toDrop, toAdd, hidle]
  by_cases hreg : v.registered = true
  case neg =>
    rw [Bool.not_eq_true] at hreg
    obtain rfl : base = none := by simpa [hreg] using hbase
    have hfinal := (h.unregistered hreg).1
    constructor
    · exact ⟨h.named.1, hnew⟩
    · simp [outlook, toDrop, toAdd, hfinal]
    · simp [hreg]
    · intro K hK
      simpa [hreg] using (h.ready_or K hK).1
    · intro hasked
      rcases h.answered hasked with h | h | h
      · exact .inl h
      · exact .inr (.inl h)
      · simp [hreg] at h
    · simp [CachedFits, hreg]
    · exact fun _ => ⟨hfinal, .inr ⟨new, rfl⟩⟩
  case pos =>
    obtain rfl : base = some v.cached := by simpa [hreg] using hbase
    have hcached : v.cached = v.target := by
      have hfits := h.cachedFits
      rw [CachedFits, hidle, hgoal] at hfits
      exact hfits hreg
    have hfinal : v.final ⊆ v.target := by
      rw [← houtlook, ← hgoal]
      exact h.outlook_subset
    -- what was going to be held and is wanted stays, and what is new is sent
    have hkept : ∀ i ∈ new, i ∈ v.cached ∧ i ∉ v.final ∨
        i ∈ outlook { v with work := .planned new (some v.cached) } name := by
      intro i hi
      by_cases hmem : i ∈ v.cached
      · by_cases hheld : i ∈ v.final
        · exact .inr (mem_settle hnew Set.sdiff_subset (fun j hj => not_mem_gone hj) hi hheld)
        · exact .inl ⟨hmem, hheld⟩
      · exact .inr (mem_settle_iff.2 (.inl ⟨hi, hmem⟩))
    constructor
    · exact ⟨h.named.1, hnew⟩
    · show settle name (gone name v.cached new) (new \ v.cached) v.final ⊆ new
      rw [hcached]
      exact settle_subset h.named.1 hfinal
    · exact fun _ i hi => (hkept i hi).imp (fun h => h.1) id
    · intro K hK
      refine ⟨hreg, fun i hi => ?_⟩
      rcases hkept i hi with ⟨hmem, hheld⟩ | hsettled
      · rw [hcached, ← hgoal] at hmem
        rw [← houtlook] at hheld
        exact ((h.ready_or K hK).2 i hmem).imp id fun h => absurd h hheld
      · exact .inr hsettled
    · intro hasked
      rcases h.answered hasked with h | h | ⟨-, hall⟩
      · exact .inl h
      · exact .inr (.inl h)
      · refine .inr (.inr ⟨hreg, fun i hi => ?_⟩)
        rcases hkept i hi with ⟨hmem, hheld⟩ | hsettled
        · rw [hcached, ← hgoal] at hmem
          exact absurd (houtlook ▸ hall hmem) hheld
        · exact hsettled
    · exact ⟨hcached, rfl⟩
    · simp [hreg]

theorem drop_empty {H : Set ι} : drop name ∅ H = H := by
  ext i
  simp [drop]

theorem Sound.manage (h : v.Sound name) {new : Set ι} {base : Option (Set ι)}
    (hwork : v.work = .planned new base) :
    Sound { v with target := new, work := base.elim .idle .owed } name := by
  have hnew : Set.InjOn name new := by simpa [goal, hwork] using h.named.2
  have hfits := h.cachedFits
  cases base with
  | none =>
    refine h.work rfl (by simp [goal, hwork]) (by simp [outlook, toDrop, toAdd, hwork]) hnew h.cached_or ?_
      fun hreg => ⟨(h.unregistered hreg).1, .inl rfl⟩
    simpa [CachedFits, hwork, goal] using hfits
  | some base =>
    have hreg := h.registered_of_work (by simp [hwork]) (by simp [hwork])
    refine h.work rfl (by simp [goal, hwork]) (by simp [outlook, toDrop, toAdd, hwork]) hnew h.cached_or ?_
      (by simp [hreg])
    rw [CachedFits, hwork] at hfits
    exact hfits.2

theorem Sound.remove (h : v.Sound name) {base : Set ι} (hwork : v.work = .owed base) {M : Set κ}
    (hM : M ⊆ name '' (v.target \ base)) :
    Sound { v with work := .half base, final := drop name (gone name base v.target ∪ M) v.final } name := by
  have hreg := h.registered_of_work (by simp [hwork]) (by simp [hwork])
  refine h.work rfl (by simp [goal, hwork]) ?_ h.named.1 h.cached_or ?_ (by simp [hreg])
  · simp only [outlook, toDrop, toAdd, hwork]
    rw [settle, drop_empty, put_drop_union hM]
  · simpa [CachedFits, hwork] using h.cachedFits

theorem Sound.store (h : v.Sound name) {base : Set ι} (hwork : v.work = .half base) :
    Sound { v with work := .tail base, cached := v.target } name := by
  have hreg := h.registered_of_work (by simp [hwork]) (by simp [hwork])
  refine h.work rfl (by simp [goal, hwork]) (by simp [outlook, toDrop, toAdd, hwork]) h.named.1
    (fun _ i hi => .inl ?_) rfl (by simp [hreg])
  simpa [goal, hwork] using hi

theorem Sound.addLast (h : v.Sound name) {base : Set ι} (hwork : v.work = .tail base) :
    Sound { v with work := .idle, final := put name (v.target \ base) v.final } name := by
  have hreg := h.registered_of_work (by simp [hwork]) (by simp [hwork])
  refine h.work rfl (by simp [goal, hwork]) ?_ h.named.1 h.cached_or ?_ (by simp [hreg])
  · simp only [outlook, toDrop, toAdd, hwork, settle_empty]
    rw [settle, drop_empty]
  · have hfits := h.cachedFits
    rw [CachedFits, hwork] at hfits
    simpa [CachedFits, goal] using fun _ => hfits

theorem Sound.add (h : v.Sound name) {base : Set ι} (hwork : v.work = .half base) :
    Sound { v with work := .kept base, final := put name (v.target \ base) v.final } name := by
  have hreg := h.registered_of_work (by simp [hwork]) (by simp [hwork])
  refine h.work rfl (by simp [goal, hwork]) ?_ h.named.1 h.cached_or ?_ (by simp [hreg])
  · simp only [outlook, toDrop, toAdd, hwork, settle_empty]
    rw [settle, drop_empty]
  · simpa [CachedFits, hwork] using h.cachedFits

theorem Sound.storeLast (h : v.Sound name) {base : Set ι} (hwork : v.work = .kept base) :
    Sound { v with work := .idle, cached := v.target } name := by
  have hreg := h.registered_of_work (by simp [hwork]) (by simp [hwork])
  refine h.work rfl (by simp [goal, hwork]) (by simp [outlook, toDrop, toAdd, hwork]) h.named.1
    (fun _ i hi => .inl ?_) (by simp [CachedFits, goal]) (by simp [hreg])
  simpa [goal, hwork] using hi

/-! ## The handler's steps -/

/-- A client is registered with what is stored. -/
theorem Sound.register (h : v.Sound name) (hreg : v.registered = false) :
    Sound { v with registered := true, cached := v.goal } name := by
  constructor
  · exact h.named
  · exact h.outlook_subset
  · exact fun _ i hi => .inl hi
  · intro K hK
    simpa [hreg] using (h.ready_or K hK).1
  · intro hasked
    rcases h.answered hasked with h | h | h
    · exact .inl h
    · exact .inr (.inl h)
    · simp [hreg] at h
  · rcases (h.unregistered hreg).2 with hwork | ⟨new, hwork⟩ <;> simp [CachedFits, hwork, goal]
  · simp

/-- The handler sends a snapshot. -/
theorem Sound.snapshot (h : v.Sound name) {K : Set ι} (hready : v.ready = some K)
    (hK : ∀ i ∈ K, i ∈ v.goal ∨ name i ∈ v.toDrop name ∨ name i ∈ name '' v.toAdd) :
    Sound { v with ready := none, final := put name K v.final } name := by
  obtain ⟨hreg, hor⟩ := h.ready_or K hready
  have hmem : ∀ i ∈ v.goal, i ∈ K ∨ i ∈ v.outlook name →
      i ∈ outlook { v with ready := none, final := put name K v.final } name :=
    fun i hi hor => mem_settle_put h.named.2 toAdd_subset (fun j hj => not_mem_toDrop hj) hK hi hor
  constructor
  · exact h.named
  · exact settle_put_subset h.outlook_subset hK
  · exact fun _ i hi => .inr (hmem i hi (hor i hi))
  · simp
  · exact fun _ => .inr (.inr ⟨hreg, fun i hi => hmem i hi (hor i hi)⟩)
  · exact h.cachedFits
  · simp [hreg]

/-! ## All steps -/

/-- **A step keeps a subscription sound.** -/
theorem Step.sound (hstep : Step name v v') (h : v.Sound name) : v'.Sound name := by
  cases hstep with
  | list hidle new hnew base hbase => exact h.list hidle hnew hbase
  | manage new base hwork => exact h.manage hwork
  | remove base hwork M hM => exact h.remove hwork hM
  | store base hwork => exact h.store hwork
  | addLast base hwork => exact h.addLast hwork
  | add base hwork => exact h.add hwork
  | storeLast base hwork => exact h.storeLast hwork
  | stepAside hidle hreg =>
    have hfits := h.cachedFits
    refine h.work rfl (by simp [goal, hidle]) (by simp [outlook, toDrop, toAdd, hidle]) h.named.1 h.cached_or
      ⟨?_, rfl⟩ (by simp [hreg])
    rw [CachedFits, hidle] at hfits
    simpa [goal, hidle] using hfits hreg
  | restore base hwork =>
    have hreg := h.registered_of_work (by simp [hwork]) (by simp [hwork])
    have hfits := h.cachedFits
    rw [CachedFits, hwork] at hfits
    obtain ⟨hcached, rfl⟩ := hfits
    refine h.work rfl (by simp [goal, hwork]) (by simp [outlook, toDrop, toAdd, hwork]) h.named.1 h.cached_or
      ?_ (by simp [hreg])
    simpa [CachedFits, goal] using fun _ => hcached
  | register hreg => exact h.register hreg
  | prepare hreg waiting =>
    constructor
    · exact h.named
    · exact h.outlook_subset
    · exact h.cached_or
    · intro K hK
      obtain rfl : v.cached = K := Option.some.inj hK
      exact ⟨hreg, h.cached_or hreg⟩
    · exact fun _ => .inr (.inl rfl)
    · exact h.cachedFits
    · simp [hreg]
  | snapshot K hready hK => exact h.snapshot hready hK
  | request =>
    constructor
    · exact h.named
    · exact h.outlook_subset
    · exact h.cached_or
    · exact h.ready_or
    · exact fun _ => .inl rfl
    · exact h.cachedFits
    · exact h.unregistered

/-- **So do any number of steps.** -/
theorem Sound.steps (h : v.Sound name) (hsteps : Relation.ReflTransGen (Step name) v v') :
    v'.Sound name := by
  induction hsteps with
  | refl => exact h
  | tail _ hstep ih => exact hstep.sound ih

end Subscription

end Kubvernor.Agentgateway
