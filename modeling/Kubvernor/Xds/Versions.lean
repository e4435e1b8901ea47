import Kubvernor.Xds.Registry

/-!
# The versions of the updates

The updates of a gateway that are queued have higher versions than the stored one, in order, and the
last of them is what was last produced. This holds as long as the numbers of a gateway do not wrap
around, and do not start again while something of the gateway is stored or queued.
-/

namespace Kubvernor.Xds

variable {ρ : Type}

/-- The update the service has received and not stored. -/
def Service.received? : Service ρ → Option (ServerAction ρ)
  | .received e => some e
  | _ => none

/-- The update the service has stored and is sending. -/
def Service.inserted? : Service ρ → Option (ServerAction ρ)
  | .inserted e | .sending e _ _ | .storing e _ _ => some e
  | .idle | .received _ => none

theorem Service.received?_next (e : ServerAction ρ) (todo : List AdsClient) :
    (Service.next e todo).received? = none := by
  cases todo <;> rfl

theorem Service.inserted?_next {e e' : ServerAction ρ} {todo : List AdsClient}
    (h : (Service.next e todo).inserted? = some e') : e' = e := by
  cases todo with
  | nil => simp [Service.next, Service.inserted?] at h
  | cons => simpa [Service.next, Service.inserted?] using h.symm

/-- What the updates `es` leave as the resources of a gateway. -/
def lastProduced (t : TypeUrl) (g : String) (resources : Option (List ρ)) (es : List (ServerAction ρ)) :
    Option (List ρ) :=
  es.foldl (fun r e => if t = e.type ∧ g = e.gatewayId then some e.resources else r) resources

section
variable (σ : State ρ)

/-- The updates that are not stored yet, in order. -/
def State.pending : List (ServerAction ρ) :=
  σ.service.received?.toList ++ (σ.events ++ σ.deployer.toList)

structure Numbered : Prop where
  ahead : ∀ e ∈ σ.pending, ∀ u, σ.adsChannels e.type e.gatewayId = some u → u.ackVersion < e.ackVersion
  sorted : σ.pending.Pairwise fun e e' =>
    e.type = e'.type → e.gatewayId = e'.gatewayId → e.ackVersion < e'.ackVersion
  queued : ∀ e ∈ σ.pending, ∀ v, σ.ackVersions e.gatewayId = some v → e.ackVersion ≤ v.get e.type
  stored : ∀ t g u v, σ.adsChannels t g = some u → σ.ackVersions g = some v → u.ackVersion ≤ v.get t
  inserted : ∀ e, σ.service.inserted? = some e →
    σ.adsChannels e.type e.gatewayId = some ⟨e.resources, e.ackVersion⟩
  produced : ∀ t g,
    lastProduced t g ((σ.adsChannels t g).map (·.resources)) σ.pending = σ.produced t g

/-- A gateway whose updates are numbered has its number counted up, and the others start with nothing
stored or queued. -/
def NewVersion : Step ρ → Prop
  | .changed g _ _ _ =>
    match σ.ackVersions g with
    | some v => v.cluster + 1 < UInt32.size ∧ v.listener + 1 < UInt32.size
    | none => σ.adsChannels .cluster g = none ∧ σ.adsChannels .listener g = none ∧
      ∀ e ∈ σ.pending, e.gatewayId ≠ g
  | _ => True

end

variable {gatewayOf : EnvoyId → String} {σ σ' : State ρ} {a : Step ρ}

theorem AckVersions.get_inc {v : AckVersions} (h : v.cluster + 1 < UInt32.size ∧ v.listener + 1 < UInt32.size)
    (t : TypeUrl) : v.inc.get t = v.get t + 1 := by
  cases t with
  | cluster => exact Nat.mod_eq_of_lt h.1
  | listener => exact Nat.mod_eq_of_lt h.2

/-- The number of a changed gateway. -/
abbrev State.nextVersion (σ : State ρ) (g : String) : AckVersions :=
  ((σ.ackVersions g).map AckVersions.inc).getD {}

/-- A change is numbered above all that is stored or queued of its gateway. -/
theorem Numbered.lt_next (h : Numbered σ) {g : String} {clusters listeners : List ρ} {deployed : Bool}
    (hok : NewVersion σ (.changed g clusters listeners deployed)) :
    (∀ e ∈ σ.pending, e.gatewayId = g → e.ackVersion < (σ.nextVersion g).get e.type) ∧
      ∀ t u, σ.adsChannels t g = some u → u.ackVersion < (σ.nextVersion g).get t := by
  cases hv : σ.ackVersions g with
  | some v =>
    simp only [NewVersion, hv] at hok
    simp only [State.nextVersion, hv, Option.map_some, Option.getD_some, AckVersions.get_inc hok]
    refine ⟨fun e he hg => ?_, fun t u hu => ?_⟩
    · have := h.queued e he v (hg ▸ hv)
      omega
    · have := h.stored t g u v hu hv
      omega
  | none =>
    simp only [NewVersion, hv] at hok
    refine ⟨fun e he hg => absurd hg (hok.2.2 e he), fun t u hu => ?_⟩
    cases t with
    | cluster => simp [hok.1] at hu
    | listener => simp [hok.2.1] at hu

theorem lastProduced_append (t : TypeUrl) (g : String) (resources : Option (List ρ))
    (es es' : List (ServerAction ρ)) :
    lastProduced t g resources (es ++ es') = lastProduced t g (lastProduced t g resources es) es' :=
  List.foldl_append

/-- Moves that neither number nor queue nor store an update. -/
theorem Numbered.congr (h : Numbered σ) (hversions : σ'.ackVersions = σ.ackVersions)
    (hpending : σ'.pending = σ.pending) (hchannels : σ'.adsChannels = σ.adsChannels)
    (hproduced : σ'.produced = σ.produced)
    (hinserted : ∀ e, σ'.service.inserted? = some e → σ.service.inserted? = some e) : Numbered σ' := by
  constructor
  · rw [hpending, hchannels]
    exact h.ahead
  · rw [hpending]
    exact h.sorted
  · rw [hpending, hversions]
    exact h.queued
  · rw [hchannels, hversions]
    exact h.stored
  · rw [hchannels]
    exact fun e he => h.inserted e (hinserted e he)
  · rw [hpending, hchannels, hproduced]
    exact h.produced

theorem Numbered.deleted (h : Numbered σ) (g : String) :
    Numbered { σ with ackVersions := Function.update σ.ackVersions g none } := by
  constructor
  · exact h.ahead
  · exact h.sorted
  · intro e he v hv
    refine h.queued e he v ?_
    by_cases hg : e.gatewayId = g
    · simp [hg] at hv
    · simpa [hg] using hv
  · intro t g' u v hu hv
    refine h.stored t g' u v hu ?_
    by_cases hg : g' = g
    · simp [hg] at hv
    · simpa [hg] using hv
  · exact h.inserted
  · exact h.produced

/-- A change is numbered. -/
theorem Numbered.renumbered (h : Numbered σ) {g : String} {clusters listeners : List ρ} {deployed : Bool}
    (hok : NewVersion σ (.changed g clusters listeners deployed)) :
    Numbered { σ with ackVersions := Function.update σ.ackVersions g (some (σ.nextVersion g)) } := by
  obtain ⟨hpending, hstored⟩ := h.lt_next hok
  constructor
  · exact h.ahead
  · exact h.sorted
  · intro e he v hv
    by_cases hg : e.gatewayId = g
    · obtain rfl : σ.nextVersion g = v := by simpa [hg] using hv
      exact Nat.le_of_lt (hpending e he hg)
    · exact h.queued e he v (by simpa [hg] using hv)
  · intro t g' u v hu hv
    by_cases hg : g' = g
    · obtain rfl : σ.nextVersion g = v := by simpa [hg] using hv
      exact Nat.le_of_lt (hstored t u (hg ▸ hu))
    · exact h.stored t g' u v hu (by simpa [hg] using hv)
  · exact h.inserted
  · exact h.produced

theorem Numbered.insert (h : Numbered σ) {e : ServerAction ρ} (hservice : σ.service = .received e) :
    Numbered { σ.insert e with service := .inserted e } := by
  have hpending : σ.pending =
      e :: State.pending { σ.insert e with service := .inserted e } := by
    simp [State.pending, hservice, Service.received?, State.insert]
  have hsorted := h.sorted
  rw [hpending, List.pairwise_cons] at hsorted
  constructor
  · intro e' he' u hu
    by_cases hkey : e'.type = e.type ∧ e'.gatewayId = e.gatewayId
    · obtain rfl : (⟨e.resources, e.ackVersion⟩ : Update ρ) = u := by
        simpa [State.insert, hkey] using hu
      exact hsorted.1 e' he' hkey.1.symm hkey.2.symm
    · exact h.ahead e' (by simp [hpending, he']) u (by simpa [State.insert, hkey] using hu)
  · exact hsorted.2
  · exact fun e' he' => h.queued e' (by simp [hpending, he'])
  · intro t g u v hu hv
    by_cases hkey : t = e.type ∧ g = e.gatewayId
    · obtain rfl : (⟨e.resources, e.ackVersion⟩ : Update ρ) = u := by
        simpa [State.insert, hkey] using hu
      rw [hkey.1]
      exact h.queued e (by simp [hpending]) v (hkey.2 ▸ hv)
    · exact h.stored t g u v (by simpa [State.insert, hkey] using hu) hv
  · intro e' he'
    obtain rfl : e = e' := by simpa [Service.inserted?] using he'
    simp [State.insert]
  · intro t g
    rw [show State.produced { σ.insert e with service := .inserted e } t g = σ.produced t g from rfl,
      ← h.produced t g, hpending]
    simp only [lastProduced, List.foldl_cons, State.insert]
    split <;> rfl

/-- A changed gateway that is deployed: its clusters and its listeners come after all the rest. -/
theorem Numbered.change (h : Numbered σ) {g : String} {clusters listeners : List ρ} {deployed : Bool}
    (hidle : σ.deployer = none) (hok : NewVersion σ (.changed g clusters listeners deployed)) :
    Numbered (σ.change g clusters listeners deployed) := by
  cases deployed with
  | false => exact h.renumbered hok
  | true =>
    have hnext := h.renumbered hok
    obtain ⟨hpending, hstored⟩ := h.lt_next hok
    have happend : (σ.change g clusters listeners true).pending = σ.pending ++
        [⟨.cluster, g, clusters, (σ.nextVersion g).cluster⟩,
          ⟨.listener, g, listeners, (σ.nextVersion g).listener⟩] := by
      simp [State.pending, State.change, hidle]
    constructor
    · rw [happend]
      intro e he u hu
      rcases List.mem_append.1 he with he | he
      · exact h.ahead e he u hu
      · simp only [List.mem_cons, List.not_mem_nil, or_false] at he
        rcases he with rfl | rfl
        · exact hstored .cluster u hu
        · exact hstored .listener u hu
    · rw [happend, List.pairwise_append]
      refine ⟨h.sorted, by simp, fun e he e' he' htype hg => ?_⟩
      simp only [List.mem_cons, List.not_mem_nil, or_false] at he'
      have hlt : ∀ t, e.type = t → e.gatewayId = g → e.ackVersion < (σ.nextVersion g).get t :=
        fun t ht hg => ht ▸ hpending e he hg
      rcases he' with rfl | rfl
      · exact hlt .cluster htype hg
      · exact hlt .listener htype hg
    · rw [happend]
      intro e he v hv
      rcases List.mem_append.1 he with he | he
      · exact hnext.queued e he v hv
      · simp only [List.mem_cons, List.not_mem_nil, or_false] at he
        have hself : (σ.change g clusters listeners true).ackVersions g = some (σ.nextVersion g) := by
          simp [State.change]
        rcases he with rfl | rfl
        · obtain rfl := Option.some.inj (hself.symm.trans hv)
          exact Nat.le_refl _
        · obtain rfl := Option.some.inj (hself.symm.trans hv)
          exact Nat.le_refl _
    · exact hnext.stored
    · exact h.inserted
    · intro t g'
      rw [happend, lastProduced_append]
      have hproduced : lastProduced t g' (((σ.change g clusters listeners true).adsChannels t g').map
          (·.resources)) σ.pending = σ.produced t g' := h.produced t g'
      rw [hproduced]
      by_cases hg : g' = g
      · cases t <;> simp [lastProduced, State.change, hg]
      · simp [lastProduced, State.change, hg]

/-- **The versions stay in order.** -/
theorem Move.numbered (hmove : Move gatewayOf σ a σ') (h : Numbered σ) (hok : NewVersion σ a) :
    Numbered σ' := by
  cases hmove with
  | changed g clusters listeners deployed hidle => exact h.change hidle hok
  | deleted g => exact h.deleted g
  | queue e hdeployer =>
    refine h.congr rfl ?_ rfl rfl fun e he => he
    simp [State.pending, hdeployer]
  | recv e rest hservice hevents =>
    refine h.congr rfl ?_ rfl rfl ?_
    · simp [State.pending, hservice, hevents, Service.received?]
    · simp [Service.inserted?]
  | insert e hservice => exact h.insert hservice
  | enlist e hservice =>
    refine h.congr rfl ?_ rfl rfl fun e' he' => ?_
    · simp only [State.pending, hservice, Service.received?_next]
      rfl
    · rw [Service.inserted?_next he', hservice]
      rfl
  | send e k todo hservice =>
    refine h.congr rfl ?_ rfl rfl ?_
    · simp [State.pending, State.push, hservice, Service.received?]
    · simp [hservice, Service.inserted?]
  | save e k todo hservice =>
    refine h.congr rfl ?_ rfl rfl fun e' he' => ?_
    · simp only [State.pending, hservice, Service.received?_next]
      rfl
    · rw [Service.inserted?_next he', hservice]
      rfl
  | take | unknown | lookup | withhold | accept | absent | found | restore | respond | close | connect
  | disconnect | request | receive => exact h.congr rfl rfl rfl rfl fun e he => he

end Kubvernor.Xds
