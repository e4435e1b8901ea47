import Kubvernor.Xds.AggregateServer
import Mathlib.Logic.Relation

/-!
# One subscription

What the server and one Envoy know about the resources of one type of one gateway, on one stream:
the update stored for the gateway, what the service still owes the stream, the entry of the client,
the task of the handler, and the messages in flight. `Subscription.Step` lists how these change, and
`Subscription.Good` says why the Envoy ends up with the stored update: it is on its way, or some
request that is still to be answered names a version the entry will not match.
-/

namespace Kubvernor.Xds

variable {ρ : Type}

/-- What the handler of a stream does about one type; while it answers a request for the other type
it is `aside`. -/
inductive Answering (ρ : Type)
  | idle
  | lookup (versionInfo : Option Nat)
  | assign (versionInfo : Option Nat) (version : Nat)
  | read (version : Nat)
  | inHand (resources : List ρ) (version : Nat)
  | aside (version : Nat)

namespace Answering

/-- The version in the handler's copy of the client's entry. -/
def version? : Answering ρ → Option Nat
  | .assign _ n | .read n | .inHand _ n | .aside n => some n
  | .idle | .lookup _ => none

/-- The request that is yet to be compared with the entry. -/
def waiting : Answering ρ → List (Option Nat)
  | .lookup v => [v]
  | _ => []

/-- The version the Envoy will acknowledge for the response in hand. -/
def acks : Answering ρ → List (Option Nat)
  | .inHand _ n => [some n]
  | _ => []

/-- The handler will answer with the resources stored now. -/
def Answers (u : Update ρ) : Answering ρ → Prop
  | .assign v n => v ≠ some n
  | .read _ => True
  | .inHand resources _ => resources = u.resources
  | _ => False

/-- The handler has no other resources in hand. -/
def Fresh (u : Update ρ) : Answering ρ → Prop
  | .inHand resources _ => resources = u.resources
  | _ => True

/-- The handler is busy with a request of the type that it has not compared yet. -/
def Waiting : Answering ρ → Prop
  | .lookup _ | .assign _ _ => True
  | _ => False

/-- The handler is not busy with a request of the type. -/
def Elsewhere : Answering ρ → Prop
  | .idle | .aside _ => True
  | _ => False

end Answering

/-- `channel` is the stored update, which the service still sends on the stream if `owed`; `store` is
the version the service is about to write to the client's entry. -/
structure Subscription (ρ : Type) where
  channel : Option (Update ρ)
  owed : Bool
  store : Option Nat
  subscribed : Bool
  version : Nat
  handler : Answering ρ
  requests : List (Option Nat)
  responses : List (Update ρ)
  held : Option (List ρ)
  heldVersion : Option Nat
  asked : Bool
  answered : Bool

namespace Subscription

/-! ## Steps -/

/-- How a subscription changes. A new update has a higher version, and a handler that leaves a
request unanswered has already answered one, or the service is to send the update, or the Envoy
holds it. -/
inductive Step (v : Subscription ρ) : Subscription ρ → Prop
  | publish (u : Update ρ) (hu : ∀ w, v.channel = some w → w.ackVersion < u.ackVersion) :
      Step v { v with channel := some u, owed := true }
  | enlist (u : Update ρ) (hu : v.channel = some u) (hsub : v.subscribed = true) :
      Step v { v with store := some u.ackVersion }
  | pass (hsub : v.subscribed = false) : Step v { v with owed := false }
  | visit (hsub : v.subscribed = true) : Step v { v with store := some v.version }
  | send (u : Update ρ) (hu : v.channel = some u) (hstore : v.store.isSome) :
      Step v { v with owed := false, responses := v.responses ++ [u], answered := true }
  | save (n : Nat) (hstore : v.store = some n) :
      Step v { v with store := none, subscribed := true, version := n }
  | take (r : Option Nat) (rest : List (Option Nat)) (hidle : v.handler = .idle)
      (hreq : v.requests = r :: rest) :
      Step v { v with requests := rest, handler := .lookup r }
  | clone (r : Option Nat) (hlookup : v.handler = .lookup r) :
      Step v { v with handler := .assign r v.version }
  | withhold (n : Nat) (hassign : v.handler = .assign (some n) n)
      (hok : v.answered = true ∨ v.owed = true ∨ ∀ u, v.channel = some u → v.held = some u.resources) :
      Step v { v with handler := .idle, subscribed := true, version := n }
  | accept (r : Option Nat) (n : Nat) (hassign : v.handler = .assign r n) (hne : r ≠ some n) :
      Step v { v with handler := .read n, subscribed := true, version := n }
  | absent (n : Nat) (hread : v.handler = .read n) (hnone : v.channel = none) :
      Step v { v with handler := .idle }
  | found (n : Nat) (hread : v.handler = .read n) (u : Update ρ) (hu : v.channel = some u) :
      Step v { v with handler := .inHand u.resources n }
  | overwrite (n : Nat) (hcopy : v.handler.version? = some n) :
      Step v { v with subscribed := true, version := n }
  | respond (resources : List ρ) (n : Nat) (hhand : v.handler = .inHand resources n) :
      Step v { v with
        handler := .idle
        responses := v.responses ++ [⟨resources, n⟩]
        answered := true }
  | stepAside (hidle : v.handler = .idle) : Step v { v with handler := .aside v.version }
  | stepBack (n : Nat) (haside : v.handler = .aside n) : Step v { v with handler := .idle }
  | request : Step v { v with requests := v.requests ++ [v.heldVersion], asked := true }
  | receive (u : Update ρ) (rest : List (Update ρ)) (hresp : v.responses = u :: rest) :
      Step v { v with
        responses := rest
        requests := v.requests ++ [some u.ackVersion]
        held := some u.resources
        heldVersion := some u.ackVersion
        asked := true }

/-! ## What the steps keep -/

variable (v : Subscription ρ)

/-- The version of the stored update. -/
def latest : Nat := (v.channel.map (·.ackVersion)).getD 0

/-- The versions of the requests to be compared with the entry. -/
def sent : List (Option Nat) := v.handler.waiting ++ v.requests

/-- The versions the entry will be compared with, in order: those of the requests, and those the
Envoy will acknowledge. -/
def acks : List (Option Nat) :=
  v.sent ++ v.responses.map (fun u => some u.ackVersion) ++ v.handler.acks

/-- What the Envoy holds once it has installed the responses in flight. -/
def final : Option (List ρ) := (v.responses.getLast?.map (·.resources)).or v.held

/-- A request has been sent and not compared yet. -/
def Pending : Prop := v.requests ≠ [] ∨ v.handler.Waiting

/-- The entry is at the version of `u`, in the handler's copy too. -/
def Level (u : Update ρ) : Prop :=
  v.version = u.ackVersion ∧ ∀ n, v.handler.version? = some n → n = u.ackVersion

/-- Why the Envoy ends up with the update `u`. -/
inductive Good (u : Update ρ) : Prop
  /-- The service will send it. -/
  | owed (howed : v.owed = true) (hsub : v.subscribed = true)
  /-- The handler will. -/
  | answering (hans : v.handler.Answers u)
  /-- It is the last response sent. -/
  | sent (hfresh : v.handler.Fresh u) (hfinal : v.final = some u.resources)
  /-- The last request will name another version than the entry has by then. -/
  | outdated (y : Option Nat) (hlast : v.acks.getLast? = some y) (hy : y ≠ some u.ackVersion)
      (hmem : some u.ackVersion ∈ v.acks ∨ v.Level u)
  /-- Nothing was sent on the stream, and a request waits. -/
  | first (hans : v.answered = false) (hfresh : v.handler.Fresh u) (hpending : v.Pending)

/-- What holds of a subscription at any time. -/
structure Sound : Prop where
  version_le : v.version ≤ v.latest
  copy_le : ∀ n, v.handler.version? = some n → n ≤ v.version
  store_le : ∀ n, v.store = some n → v.version ≤ n ∧ n ≤ v.latest
  inHand : ∀ resources n, v.handler = .inHand resources n →
    ∃ u, v.channel = some u ∧ (resources = u.resources ∨ n < u.ackVersion)
  last : ∀ x, v.sent.getLast? = some x → x = v.heldVersion
  unanswered : v.answered = false → v.responses = []
  unasked : v.asked = false → v.requests = [] ∧ v.handler.Elsewhere
  subscribed : v.answered = true ∨ v.store.isSome ∨
    (∃ n, v.handler = .read n) ∨ (∃ resources n, v.handler = .inHand resources n) → v.subscribed = true
  asking : v.asked = true → v.subscribed = true ∨ v.answered = false ∧ v.Pending
  good : ∀ u, v.channel = some u → v.asked = true ∨ v.answered = true → v.Good u

variable {v} {v' : Subscription ρ} {u : Update ρ}

theorem latest_of_channel (h : v.channel = some u) : v.latest = u.ackVersion := by simp [latest, h]

/-- A new stream, on which nothing was sent either way. -/
theorem Sound.new (hstore : v.store = none) (hversion : v.version = 0) (hhandler : v.handler = .idle)
    (hrequests : v.requests = []) (hresponses : v.responses = []) (hasked : v.asked = false)
    (hanswered : v.answered = false) : v.Sound := by
  constructor <;> simp [*, sent, Answering.version?, Answering.waiting, Answering.Elsewhere]

/-- Once nothing is in flight, an Envoy that asked holds the stored update. -/
theorem Sound.held (h : v.Sound) (hasked : v.asked = true) (hu : v.channel = some u)
    (howed : v.owed = false) (hhandler : v.handler = .idle) (hrequests : v.requests = [])
    (hresponses : v.responses = []) : v.held = some u.resources := by
  cases h.good u hu (.inl hasked) with
  | owed h => simp [howed] at h
  | answering h => simp [hhandler, Answering.Answers] at h
  | sent _ h => simpa [final, hresponses] using h
  | outdated y h =>
    simp [acks, Subscription.sent, hhandler, hrequests, hresponses, Answering.waiting, Answering.acks] at h
  | first _ _ h => simp [Pending, hhandler, hrequests, Answering.Waiting] at h

/-! ## The reasons are kept -/

/-- A step that takes no message off to be compared with the entry keeps a reason if it keeps each
kind of reason. -/
theorem Good.mono (h : v.Good u)
    (howed : v.owed = true → v.subscribed = true → v'.owed = true ∧ v'.subscribed = true)
    (hans : v.handler.Answers u → v'.handler.Answers u)
    (hsent : v.handler.Fresh u → v.final = some u.resources →
      v'.handler.Fresh u ∧ v'.final = some u.resources)
    (hacks : v'.acks = v.acks) (hlevel : v.Level u → v'.Level u)
    (hfirst : v.answered = false → v.handler.Fresh u → v.Pending →
      v'.answered = false ∧ v'.handler.Fresh u ∧ v'.Pending) : v'.Good u := by
  cases h with
  | owed h hsub => exact .owed (howed h hsub).1 (howed h hsub).2
  | answering h => exact .answering (hans h)
  | sent hfresh hfinal => exact .sent (hsent hfresh hfinal).1 (hsent hfresh hfinal).2
  | outdated y hlast hy hmem =>
    exact .outdated y (hacks ▸ hlast) hy (hmem.imp (fun h => hacks ▸ h) hlevel)
  | first h hfresh hpending =>
    obtain ⟨h, hfresh, hpending⟩ := hfirst h hfresh hpending
    exact .first h hfresh hpending

/-- A new update is to be sent to a subscribed client, and the others have a request waiting. -/
theorem Sound.good_publish (h : v.Sound) (hasked : v.asked = true ∨ v.answered = true) :
    Good { v with channel := some u, owed := true } u := by
  cases hsub : v.subscribed with
  | true => exact .owed rfl rfl
  | false =>
    have hans : v.answered = false := by
      cases hans : v.answered with
      | false => rfl
      | true => simp [h.subscribed (.inl hans)] at hsub
    have hpending : v.Pending := by
      rcases h.asking (hasked.resolve_right (by simp [hans])) with h | h
      · simp [h] at hsub
      · exact h.2
    refine .first hans ?_ hpending
    cases hhandler : v.handler with
    | inHand resources n =>
      simp [h.subscribed (.inr (.inr (.inr ⟨resources, n, hhandler⟩)))] at hsub
    | _ => trivial

/-- The service sends the update. If the handler has something else in hand, the Envoy will
acknowledge the update and then an older version. -/
theorem Sound.good_send (h : v.Sound) (hu : v.channel = some u) :
    Good { v with owed := false, responses := v.responses ++ [u], answered := true } u := by
  by_cases hfresh : v.handler.Fresh u
  · exact .sent hfresh (by simp [final])
  · cases hhandler : v.handler with
    | inHand resources n =>
      obtain ⟨w, hw, hn⟩ := h.inHand resources n hhandler
      obtain rfl : w = u := by simpa [hu] using hw.symm
      have hn : n < w.ackVersion := hn.resolve_left (by simpa [Answering.Fresh, hhandler] using hfresh)
      refine .outdated (some n) ?_ ?_ (.inl ?_)
      · simp [acks, Answering.acks]
      · simpa using Nat.ne_of_lt hn
      · simp [acks]
    | _ => simp [Answering.Fresh, hhandler] at hfresh

/-- The service writes the version of the update to the entry, or one at least as high as the
entry's. -/
theorem Good.save (h : v.Good u) (hs : v.Sound) (hu : v.channel = some u) {n : Nat}
    (hstore : v.store = some n) : Good { v with store := none, subscribed := true, version := n } u := by
  refine h.mono (fun h _ => ⟨h, rfl⟩) id (fun hf h => ⟨hf, h⟩) rfl (fun h => ⟨?_, h.2⟩)
    (fun h hf hp => ⟨h, hf, hp⟩)
  have hlatest := latest_of_channel hu
  have := hs.store_le n hstore
  have := h.1
  show n = u.ackVersion
  omega

theorem getLast?_of_cons {α : Type*} {x y : α} {l : List α} (h : (x :: l).getLast? = some y)
    (hl : y ≠ x ∨ l ≠ []) : l.getLast? = some y := by
  cases l with
  | nil => simp_all
  | cons z l => rwa [List.getLast?_cons_cons] at h

/-- A request is compared with the entry: it is answered, or another one with another version
follows. -/
theorem Good.clone (h : v.Good u) {r : Option Nat} (hlookup : v.handler = .lookup r) :
    Good { v with handler := .assign r v.version } u := by
  have hacks : v.acks = r :: acks { v with handler := .assign r v.version } := by
    simp [acks, Subscription.sent, hlookup, Answering.waiting, Answering.acks]
  cases h with
  | owed howed hsub => exact .owed howed hsub
  | answering hans => simp [hlookup, Answering.Answers] at hans
  | sent hfresh hfinal => exact .sent trivial hfinal
  | first hans hfresh hpending => exact .first hans trivial (.inr trivial)
  | outdated y hlast hy hmem =>
    rw [hacks] at hlast hmem
    by_cases hr : r = some v.version
    · by_cases hv : v.version = u.ackVersion
      · -- the request names the update, and so does the entry: a later request does not
        refine .outdated y (getLast?_of_cons hlast (.inl ?_)) hy (.inr ⟨hv, fun n hn => ?_⟩)
        · rw [hr, hv]
          exact hy
        · simp only [Answering.version?, Option.some.injEq] at hn
          exact hn ▸ hv
      · have hmem : some u.ackVersion ∈ acks { v with handler := .assign r v.version } := by
          cases hmem with
          | inl hmem =>
            refine (List.mem_cons.1 hmem).resolve_left fun h => hv ?_
            simpa [hr] using h.symm
          | inr hlevel => exact absurd hlevel.1 hv
        exact .outdated y (getLast?_of_cons hlast (.inr (List.ne_nil_of_mem hmem))) hy (.inl hmem)
    · exact .answering (by simpa [Answering.Answers] using hr)

/-- A request that matches the entry is left unanswered. -/
theorem Good.withhold (h : v.Good u) (hs : v.Sound) (hu : v.channel = some u) {n : Nat}
    (hassign : v.handler = .assign (some n) n)
    (hok : v.answered = true ∨ v.owed = true ∨ ∀ w, v.channel = some w → v.held = some w.resources) :
    Good { v with handler := .idle, subscribed := true, version := n } u := by
  cases hans : v.answered with
  | false =>
    rw [hans] at hok
    rcases hok with hok | howed | hheld
    · simp at hok
    · exact .owed howed rfl
    · refine .sent trivial ?_
      simpa [final, hs.unanswered hans] using hheld u hu
  | true =>
    refine h.mono (fun h _ => ⟨h, rfl⟩) (fun h => ?_) (fun _ h => ⟨trivial, h⟩) ?_ (fun h => ⟨?_, ?_⟩)
      (fun h => ?_)
    · simp [hassign, Answering.Answers] at h
    · simp [acks, Subscription.sent, hassign, Answering.waiting, Answering.acks]
    · exact h.2 n (by simp [hassign, Answering.version?])
    · simp [Answering.version?]
    · simp [hans] at h

/-- The handler writes its copy of the entry back. -/
theorem Good.overwrite (h : v.Good u) {n : Nat} (hcopy : v.handler.version? = some n) :
    Good { v with subscribed := true, version := n } u :=
  h.mono (fun h _ => ⟨h, rfl⟩) id (fun hf h => ⟨hf, h⟩) rfl (fun h => ⟨h.2 n hcopy, h.2⟩)
    (fun h hf hp => ⟨h, hf, hp⟩)

/-- The handler sends what it has in hand. -/
theorem Good.respond (h : v.Good u) {resources : List ρ} {n : Nat}
    (hhand : v.handler = .inHand resources n) :
    Good { v with
      handler := .idle
      responses := v.responses ++ [⟨resources, n⟩]
      answered := true } u := by
  by_cases hres : resources = u.resources
  · exact .sent trivial (by simp [final, hres])
  · refine h.mono (fun h hsub => ⟨h, hsub⟩) (fun h => ?_) (fun h => ?_) ?_ (fun h => ⟨h.1, ?_⟩)
      (fun _ h => ?_)
    · exact absurd (by simpa [hhand, Answering.Answers] using h) hres
    · exact absurd (by simpa [hhand, Answering.Fresh] using h) hres
    · simp [acks, Subscription.sent, hhand, Answering.waiting, Answering.acks]
    · simp [Answering.version?]
    · exact absurd (by simpa [hhand, Answering.Fresh] using h) hres

theorem getLast?_insert {α : Type*} {a y : α} {l l' : List α} (h : (l ++ l').getLast? = some y)
    (hl : ∀ x, l.getLast? = some x → x = a) : (l ++ a :: l').getLast? = some y := by
  cases l' with
  | nil =>
    rw [List.append_nil] at h
    simpa using (hl y h).symm
  | cons z l' => simpa [List.getLast?_append] using h

/-- Another request, with the version the Envoy has. -/
theorem Good.request (h : v.Good u) (hs : v.Sound) :
    Good { v with requests := v.requests ++ [v.heldVersion], asked := true } u := by
  cases h with
  | owed howed hsub => exact .owed howed hsub
  | answering h => exact .answering h
  | sent hfresh hfinal => exact .sent hfresh hfinal
  | first hans hfresh hpending => exact .first hans hfresh (.inl (by simp))
  | outdated y hlast hy hmem =>
    refine .outdated y ?_ hy (hmem.imp (fun h => ?_) id)
    · simp only [acks, List.append_assoc] at hlast
      simpa [acks, Subscription.sent] using getLast?_insert hlast hs.last
    · simp only [acks, Subscription.sent, List.mem_append] at h ⊢
      tauto

/-- The Envoy installs a response and acknowledges it. -/
theorem Good.receive (h : v.Good u) (hs : v.Sound) {w : Update ρ} {rest : List (Update ρ)}
    (hresp : v.responses = w :: rest) :
    Good { v with
      responses := rest
      requests := v.requests ++ [some w.ackVersion]
      held := some w.resources
      heldVersion := some w.ackVersion
      asked := true } u := by
  refine h.mono (fun h hsub => ⟨h, hsub⟩) id (fun hf h => ⟨hf, ?_⟩) ?_ id (fun hans => ?_)
  · simp only [final, hresp, List.getLast?_cons] at h ⊢
    cases hrest : rest.getLast? with
    | none => simpa [hrest] using h
    | some z => simpa [hrest] using h
  · simp [acks, Subscription.sent, hresp]
  · have := hs.unanswered hans
    simp [hresp] at this

/-- **A step keeps a reason.** -/
theorem Step.good (hstep : Step v v') (h : v.Sound) (hu : v'.channel = some u)
    (hasked : v'.asked = true ∨ v'.answered = true) : v'.Good u := by
  cases hstep with
  | publish w hw =>
    obtain rfl : w = u := by simpa using hu
    exact h.good_publish hasked
  | enlist | visit =>
    exact (h.good u hu hasked).mono (fun h hsub => ⟨h, hsub⟩) id (fun hf h => ⟨hf, h⟩) rfl id
      (fun h hf hp => ⟨h, hf, hp⟩)
  | pass hsub =>
    refine (h.good u hu hasked).mono (fun _ h => ?_) id (fun hf h => ⟨hf, h⟩) rfl id
      (fun h hf hp => ⟨h, hf, hp⟩)
    simp [hsub] at h
  | send w hw =>
    obtain rfl : w = u := by simpa [hw] using hu
    exact h.good_send hw
  | save n hstore => exact (h.good u hu hasked).save h hu hstore
  | take r rest hidle hreq =>
    refine (h.good u hu hasked).mono (fun h hsub => ⟨h, hsub⟩) (fun h => ?_) (fun _ h => ⟨trivial, h⟩)
      ?_ (fun h => ⟨h.1, ?_⟩) (fun h _ _ => ⟨h, trivial, .inr trivial⟩)
    · simp [hidle, Answering.Answers] at h
    · simp [acks, sent, hidle, hreq, Answering.waiting, Answering.acks]
    · simp [Answering.version?]
  | clone r hlookup => exact (h.good u hu hasked).clone hlookup
  | withhold n hassign hok => exact (h.good u hu hasked).withhold h hu hassign hok
  | accept => exact .answering trivial
  | found n hread w hw =>
    obtain rfl : w = u := by simpa [hw] using hu
    exact .answering rfl
  | absent n hread hnone => simp [hnone] at hu
  | overwrite n hcopy => exact (h.good u hu hasked).overwrite hcopy
  | respond resources n hhand =>
    by_cases hasked : v.asked = true ∨ v.answered = true
    · exact (h.good u hu hasked).respond hhand
    · have := (h.unasked (by simpa using fun h => hasked (.inl h))).2
      simp [hhand, Answering.Elsewhere] at this
  | stepAside hidle =>
    refine (h.good u hu hasked).mono (fun h hsub => ⟨h, hsub⟩) (fun h => ?_) (fun _ h => ⟨trivial, h⟩)
      ?_ (fun h => ⟨h.1, ?_⟩) (fun h _ hp => ⟨h, trivial, hp.imp id fun hp => ?_⟩)
    · simp [hidle, Answering.Answers] at h
    · simp [acks, sent, hidle, Answering.waiting, Answering.acks]
    · simpa [Answering.version?] using h.1
    · simp [hidle, Answering.Waiting] at hp
  | stepBack n haside =>
    refine (h.good u hu hasked).mono (fun h hsub => ⟨h, hsub⟩) (fun h => ?_) (fun _ h => ⟨trivial, h⟩)
      ?_ (fun h => ⟨h.1, ?_⟩) (fun h _ hp => ⟨h, trivial, hp.imp id fun hp => ?_⟩)
    · simp [haside, Answering.Answers] at h
    · simp [acks, sent, haside, Answering.waiting, Answering.acks]
    · simp [Answering.version?]
    · simp [haside, Answering.Waiting] at hp
  | request =>
    by_cases hasked : v.asked = true ∨ v.answered = true
    · exact (h.good u hu hasked).request h
    · rw [not_or, Bool.not_eq_true, Bool.not_eq_true] at hasked
      refine .first hasked.2 ?_ (.inl (by simp))
      have := (h.unasked hasked.1).2
      cases hhandler : v.handler with
      | inHand resources n => simp [hhandler, Answering.Elsewhere] at this
      | _ => trivial
  | receive w rest hresp =>
    have hanswered : v.answered = true := by
      cases hans : v.answered with
      | true => rfl
      | false => simp [h.unanswered hans] at hresp
    exact (h.good u hu (.inr hanswered)).receive h hresp

/-! ## The rest is kept -/

theorem latest_le (hu : ∀ w, v.channel = some w → w.ackVersion < u.ackVersion) :
    v.latest ≤ u.ackVersion := by
  cases hch : v.channel with
  | none => simp [latest, hch]
  | some w =>
    rw [latest_of_channel hch]
    exact Nat.le_of_lt (hu w hch)

/-- A handler has read the entry before it writes to it. -/
theorem Step.version_le_or (hstep : Step v v') (h : v.Sound) :
    v'.version ≤ v.version ∨ v.store = some v'.version := by
  cases hstep with
  | save n hstore => exact .inr hstore
  | withhold n hassign => exact .inl (h.copy_le n (by rw [hassign]; rfl))
  | accept r n hassign => exact .inl (h.copy_le n (by rw [hassign]; rfl))
  | overwrite n hcopy => exact .inl (h.copy_le n hcopy)
  | _ => exact .inl (Nat.le_refl _)

theorem Step.latest_le (hstep : Step v v') : v.latest ≤ v'.latest := by
  cases hstep with
  | publish u hu => exact Subscription.latest_le hu
  | _ => exact Nat.le_refl _

theorem Step.version_le (hstep : Step v v') (h : v.Sound) : v'.version ≤ v'.latest := by
  refine Nat.le_trans ?_ hstep.latest_le
  cases hstep.version_le_or h with
  | inl hle => exact Nat.le_trans hle h.version_le
  | inr hstore => exact (h.store_le _ hstore).2

theorem Step.copy_le (hstep : Step v v') (h : v.Sound) :
    ∀ n, v'.handler.version? = some n → n ≤ v'.version := by
  have hle := h.copy_le
  cases hstep with
  | save n hstore => exact fun m hm => Nat.le_trans (hle m hm) (h.store_le n hstore).1
  | take | absent | respond | stepBack => simp [Answering.version?]
  | withhold | accept | clone | stepAside => simp_all [Answering.version?]
  | overwrite n hcopy => simp_all
  | found n hread u hu => exact fun m hm => hle m (by simpa [hread, Answering.version?] using hm)
  | _ => exact hle

theorem Step.store_le (hstep : Step v v') (h : v.Sound) :
    ∀ n, v'.store = some n → v'.version ≤ n ∧ n ≤ v'.latest := by
  intro n hn
  have hlatest := hstep.latest_le
  have hversion := h.version_le
  by_cases hstore : v.store = some n
  · obtain ⟨hle, hle'⟩ := h.store_le n hstore
    refine ⟨?_, Nat.le_trans hle' hlatest⟩
    cases hstep.version_le_or h with
    | inl hle'' => exact Nat.le_trans hle'' hle
    | inr hstore' =>
      obtain rfl : n = v'.version := by simpa [hstore] using hstore'
      exact Nat.le_refl _
  · cases hstep with
    | enlist u hu =>
      obtain rfl : u.ackVersion = n := by simpa using hn
      rw [latest_of_channel hu] at hversion
      exact ⟨hversion, by simp [latest, hu]⟩
    | visit =>
      obtain rfl : v.version = n := by simpa using hn
      exact ⟨Nat.le_refl _, hversion⟩
    | save => simp at hn
    | _ => exact absurd hn hstore

theorem Step.inHand (hstep : Step v v') (h : v.Sound) : ∀ resources n, v'.handler = .inHand resources n →
    ∃ u, v'.channel = some u ∧ (resources = u.resources ∨ n < u.ackVersion) := by
  have hhand := h.inHand
  cases hstep with
  | publish u hu =>
    intro resources n hhandler
    obtain ⟨w, hw, -⟩ := hhand resources n hhandler
    have hcopy := h.copy_le n (by rw [hhandler]; rfl)
    have hversion := h.version_le
    rw [latest_of_channel hw] at hversion
    have hlt := hu w hw
    exact ⟨u, rfl, .inr (by omega)⟩
  | found n hread u hu => simp_all
  | take | clone | withhold | accept | absent | respond | stepAside | stepBack => simp
  | _ => exact hhand

theorem Step.last (hstep : Step v v') (h : v.Sound) :
    ∀ x, v'.sent.getLast? = some x → x = v'.heldVersion := by
  have hlast := h.last
  cases hstep with
  | take r rest hidle hreq => simpa [sent, Answering.waiting, hidle, hreq] using hlast
  | clone r hlookup =>
    intro x hx
    refine hlast x ?_
    simp only [sent, hlookup, Answering.waiting, List.nil_append, List.singleton_append] at hx ⊢
    simp [List.getLast?_cons, hx]
  | withhold n hassign => simpa [sent, Answering.waiting, hassign] using hlast
  | accept r n hassign => simpa [sent, Answering.waiting, hassign] using hlast
  | absent n hread => simpa [sent, Answering.waiting, hread] using hlast
  | found n hread => simpa [sent, Answering.waiting, hread] using hlast
  | respond resources n hhand => simpa [sent, Answering.waiting, hhand] using hlast
  | stepAside hidle => simpa [sent, Answering.waiting, hidle] using hlast
  | stepBack n haside => simpa [sent, Answering.waiting, haside] using hlast
  | request | receive => simp [sent, ← List.append_assoc]
  | _ => exact hlast

theorem Step.unanswered (hstep : Step v v') (h : v.Sound) : v'.answered = false → v'.responses = [] := by
  have hresponses := h.unanswered
  cases hstep <;> simp_all

theorem Step.unasked (hstep : Step v v') (h : v.Sound) :
    v'.asked = false → v'.requests = [] ∧ v'.handler.Elsewhere := by
  have hrequests := h.unasked
  cases hstep <;> simp_all [Answering.Elsewhere]

theorem Step.subscribed (hstep : Step v v') (h : v.Sound) : v'.answered = true ∨ v'.store.isSome ∨
    (∃ n, v'.handler = .read n) ∨ (∃ resources n, v'.handler = .inHand resources n) →
    v'.subscribed = true := by
  have hsub := h.subscribed
  cases hstep <;> simp_all

theorem Step.asking (hstep : Step v v') (h : v.Sound) :
    v'.asked = true → v'.subscribed = true ∨ v'.answered = false ∧ v'.Pending := by
  have hasking := h.asking
  have hsub := h.subscribed
  cases hstep with
  | request | receive => cases hans : v.answered <;> simp_all [Pending]
  | _ => simp_all [Pending, Answering.Waiting]

/-- **A step keeps a subscription sound.** -/
theorem Step.sound (hstep : Step v v') (h : v.Sound) : v'.Sound where
  version_le := hstep.version_le h
  copy_le := hstep.copy_le h
  store_le := hstep.store_le h
  inHand := hstep.inHand h
  last := hstep.last h
  unanswered := hstep.unanswered h
  unasked := hstep.unasked h
  subscribed := hstep.subscribed h
  asking := hstep.asking h
  good _ hu hasked := hstep.good h hu hasked

/-- **So do any number of steps.** -/
theorem Sound.steps (h : v.Sound) (hsteps : Relation.ReflTransGen Step v v') : v'.Sound := by
  induction hsteps with
  | refl => exact h
  | tail _ hstep ih => exact hstep.sound ih

end Subscription

end Kubvernor.Xds
