import Kubvernor.Control.Reconcile

/-!
# The life cycles of the stored objects

An object is to be in the store of its kind only if the last event of it was not its deletion. A deletion of
one kind leaves the other kinds alone, but it does not always take its own object out: that of a gateway class
deletes a gateway of the key instead, that of a GRPC route an HTTP route, and that of a gateway or an HTTP route
may be turned down first. So along a run the stores follow the life cycles exactly if every deletion of an
object that is stored is one that removes it (`lifeCycles_iff`).
-/

namespace Kubvernor

open Lib

namespace Stores

/-- An object of any kind is stored under the key. -/
def Holds (s : Stores) (k : ResourceKey) : Prop :=
  k ∈ s.gatewayClasses ∨ k ∈ s.state.gateways ∨ k ∈ s.routes.httpRoutes ∨ k ∈ s.routes.grpcRoutes

instance (s : Stores) (k : ResourceKey) : Decidable (s.Holds k) := inferInstanceAs (Decidable (_ ∨ _ ∨ _ ∨ _))

/-- A deletion that takes its object out of the store. -/
def Removes (config : ControllerConfig) (s : Stores) : ReconcileEvent → Prop
  | .gatewayClass .. | .grpcRoute _ => False
  | .gateway resource configurations => s.TakesGateway config resource configurations
  | .httpRoute resource => (httpRouteHandler config resource).Accepts ∧ resource.spec.parentRefs.isSome

variable {s s' : Stores} {k : ResourceKey}

theorem view_isSome_iff : (s.routes.view k).isSome ↔ k ∈ s.routes.httpRoutes ∨ k ∈ s.routes.grpcRoutes := by
  unfold RouteStores.view
  rw [Option.isSome_or, Bool.or_eq_true, Option.isSome_map, Option.isSome_map,
    Std.ExtTreeMap.mem_iff_isSome_getElem?, Std.ExtTreeMap.mem_iff_isSome_getElem?]

namespace WellKeyed

theorem class_kind (h : s.WellKeyed) (hk : k ∈ s.gatewayClasses) : k.kind = "GatewayClass" := by
  obtain ⟨c, hc⟩ := Option.isSome_iff_exists.1 (Std.ExtTreeMap.mem_iff_isSome_getElem?.1 hk)
  rw [← h.classes k c hc]
  rfl

/-- A key of a gateway is stored in no other store. -/
theorem holds_gateway (h : s.WellKeyed) (hkind : k.kind = "Gateway") : s.Holds k ↔ k ∈ s.state.gateways := by
  refine ⟨?_, fun hk => .inr (.inl hk)⟩
  rintro (hk | hk | hk | hk)
  · exact absurd (hkind.symm.trans (h.class_kind hk)) (by decide)
  · exact hk
  · exact absurd (hkind.symm.trans (h.routes.http k hk)) (by decide)
  · exact absurd (hkind.symm.trans (h.routes.grpc k hk)) (by decide)

/-- A key of a route is stored in no other store. -/
theorem holds_route (h : s.WellKeyed) (hkinds : k.kind = "HTTPRoute" ∨ k.kind = "GRPCRoute") :
    s.Holds k ↔ (s.routes.view k).isSome := by
  rw [view_isSome_iff]
  refine ⟨?_, fun hk => .inr (.inr hk)⟩
  rintro (hk | hk | hk)
  · have hkind := h.class_kind hk
    rcases hkinds with hroute | hroute
    · exact absurd (hroute.symm.trans hkind) (by decide)
    · exact absurd (hroute.symm.trans hkind) (by decide)
  · have hkind := h.gateways k hk
    rcases hkinds with hroute | hroute
    · exact absurd (hroute.symm.trans hkind) (by decide)
    · exact absurd (hroute.symm.trans hkind) (by decide)
  · exact hk

end WellKeyed

end Stores

/-! ## One step -/

namespace CommonRouteHandler

variable {M F : Type} [DecidableEq M] [DecidableEq F] {h : CommonRouteHandler M F} {s : Stores}

theorem view_reconcile (hkind : h.kind.Lawful) (hs : s.routes.Keyed)
    (hkinds : h.kind.kind = "HTTPRoute" ∨ h.kind.kind = "GRPCRoute") {k : RouteKey}
    (hk : ((h.reconcile s).stores.routes.view k).isSome) : k = h.resourceKey ∨ (s.routes.view k).isSome := by
  rcases reconcile_cases hkind hs with ⟨-, status, -, hsaved⟩ | ⟨-, hdeleted⟩ | ⟨-, -, hsame⟩
  · rw [hsaved.view] at hk
    split_ifs at hk with heq
    · exact .inl heq
    · exact .inr hk
  · rw [hdeleted.view_eq hs hkinds] at hk
    split_ifs at hk
    · cases hk
    · exact .inr hk
  · rw [hsame.view] at hk
    exact .inr hk

/-- An event of a route stores nothing else. -/
theorem holds_reconcile (hkind : h.kind.Lawful) (hs : s.WellKeyed)
    (hkinds : h.kind.kind = "HTTPRoute" ∨ h.kind.kind = "GRPCRoute") {k : ResourceKey}
    (hk : (h.reconcile s).stores.Holds k) : k = h.resourceKey ∨ s.Holds k := by
  have hother := sameBut_reconcile hkind hs.routes hkinds
  have hclass : h.kind.kind ≠ "GatewayClass" ∧ h.kind.kind ≠ "Gateway" := by
    rcases hkinds with hroute | hroute <;> rw [hroute] <;> decide
  unfold Stores.Holds at hk
  rw [hother.classes hclass.1, hother.gateways hclass.2, ← Stores.view_isSome_iff] at hk
  rcases hk with hk | hk | hk
  · exact .inr (.inl hk)
  · exact .inr (.inr (.inl hk))
  · exact (view_reconcile hkind hs.routes hkinds hk).imp_right fun hold => .inr (.inr (Stores.view_isSome_iff.1 hold))

/-- What a deletion leaves of its route: an HTTP route goes, if the deletion is not turned down. -/
theorem view_reconcile_deletion (hkind : h.kind.Lawful) (hs : s.routes.Keyed)
    (hkinds : h.kind.kind = "HTTPRoute" ∨ h.kind.kind = "GRPCRoute") (hdel : h.resource.metadata.IsDeletion) :
    ((h.reconcile s).stores.routes.view h.resourceKey).isSome ↔ (s.routes.view h.resourceKey).isSome ∧
      ¬ (h.kind.kind = "HTTPRoute" ∧ h.Accepts ∧ h.resource.spec.parentRefs.isSome) := by
  rcases reconcile_cases hkind hs with ⟨hchanges, -⟩ | ⟨hdeletes, hdeleted⟩ | ⟨-, hnot, hsame⟩
  · have hstate := resourceState_deleted_iff (s := s) |>.2 hdel
    rcases hchanges.state with hnew | hnew
    · rw [hstate] at hnew
      cases hnew
    · rw [hstate] at hnew
      cases hnew
  · rw [hdeleted.view_eq hs hkinds]
    have hkey : h.resourceKey.kind = h.kind.kind := rfl
    by_cases hhttp : h.kind.kind = "HTTPRoute"
    · rw [if_pos ⟨rfl, hhttp⟩]
      exact iff_of_false Bool.false_ne_true fun hand => hand.2 ⟨hhttp, hdeletes.accepts, hdeletes.parents⟩
    · rw [if_neg fun hand => hhttp hand.2, and_iff_left fun hand => hhttp hand.1]
  · rw [hsame.view, and_iff_left fun hand => hnot ⟨hand.2.1, hdel, hand.2.2⟩]

end CommonRouteHandler

section Step

variable {config : ControllerConfig} {s : Stores} {e : ReconcileEvent}

/-- **An event stores nothing but its own object.** -/
theorem holds_reconcile (hs : s.WellKeyed) {k : ResourceKey}
    (hk : (s.reconcile config e).Holds k) : k = e.resourceKey ∨ s.Holds k := by
  cases e with
  | gatewayClass c answer =>
    change (reconcileGatewayClass config s c (answer.map (·.1))).stores.Holds k at hk
    rcases classMove config answer hs with hsame | ⟨-, saved, -, hsaved⟩
    · rw [hsame] at hk
      exact .inr hk
    · rw [hsaved] at hk
      rcases hk with hclass | hother
      · obtain ⟨c', hc'⟩ := Option.isSome_iff_exists.1 (Std.ExtTreeMap.mem_iff_isSome_getElem?.1 hclass)
        rcases getElem?_foldl_insert hc' with ⟨hkey, -⟩ | hold
        · exact .inl hkey
        · exact .inr (.inl (Std.ExtTreeMap.mem_iff_isSome_getElem?.2 (Option.isSome_iff_exists.2 ⟨c', hold⟩)))
      · exact .inr (.inr hother)
  | gateway g configurations =>
    have hmove : s.GatewayWritten g.resourceKey (gatewayReconciled config s g configurations) := gatewayMove
    change (gatewayReconciled config s g configurations).Holds k at hk
    unfold Stores.Holds at hk
    rw [hmove.classes, hmove.routes] at hk
    rcases hk with hclass | hgateway | hroute
    · exact .inr (.inl hclass)
    · exact (hmove.gateways k hgateway).imp_right fun hold => .inr (.inl hold)
    · exact .inr (.inr (.inr hroute))
  | httpRoute r =>
    exact CommonRouteHandler.holds_reconcile (h := httpRouteHandler config r) httpRouteKind_lawful hs (.inl rfl) hk
  | grpcRoute r =>
    exact CommonRouteHandler.holds_reconcile (h := grpcRouteHandler config r) grpcRouteKind_lawful hs (.inr rfl) hk

/-- **What a deletion leaves of its object.** -/
theorem holds_reconcile_deletion (hs : s.WellKeyed) (hdel : e.metadata.IsDeletion) :
    (s.reconcile config e).Holds e.resourceKey ↔ s.Holds e.resourceKey ∧ ¬ s.Removes config e := by
  have hs' := wellKeyed_reconcile config e hs
  cases e with
  | gatewayClass c answer =>
    have hsame : s.reconcile config (.gatewayClass c answer) = s :=
      (classMove config answer hs).resolve_right fun hsaved => hsaved.1 hdel
    rw [hsame]
    exact (and_iff_left id).symm
  | gateway g configurations =>
    have hkind : (ReconcileEvent.gateway g configurations).resourceKey.kind = "Gateway" := rfl
    rw [hs'.holds_gateway hkind, hs.holds_gateway hkind]
    show _ ∈ (gatewayReconciled config s g configurations).state.gateways ↔ _ ∧ ¬ s.TakesGateway config g configurations
    rcases gatewayReconciled_of_deletion config s configurations hdel with
      ⟨htakes, hgone⟩ | ⟨htakes, hsame⟩
    · rw [hgone]
      refine iff_of_false (fun hmem => ?_) fun hand => hand.2 htakes
      exact (Std.ExtTreeMap.mem_erase.1 hmem).1 Std.ReflCmp.compare_self
    · rw [hsame, and_iff_left htakes]
  | httpRoute r =>
    have hkind : (ReconcileEvent.httpRoute r).resourceKey.kind = "HTTPRoute" := rfl
    rw [hs'.holds_route (.inl hkind), hs.holds_route (.inl hkind)]
    refine (CommonRouteHandler.view_reconcile_deletion (h := httpRouteHandler config r) httpRouteKind_lawful hs.routes
      (.inl rfl) hdel).trans (and_congr_right fun _ => not_congr (and_iff_right rfl))
  | grpcRoute r =>
    have hkind : (ReconcileEvent.grpcRoute r).resourceKey.kind = "GRPCRoute" := rfl
    rw [hs'.holds_route (.inr hkind), hs.holds_route (.inr hkind)]
    refine (CommonRouteHandler.view_reconcile_deletion (h := grpcRouteHandler config r) grpcRouteKind_lawful hs.routes
      (.inr rfl) hdel).trans (and_congr_right fun _ => not_congr ?_)
    have hgrpc : (grpcRouteHandler config r).kind.kind = "GRPCRoute" := rfl
    exact iff_of_false (fun hand => absurd (hgrpc.symm.trans hand.1) (by decide)) id

/-- A gateway that is not turned down has a class that is stored. -/
theorem exists_class_of_isOk {g : KubeGateway} {configurations : Configurations}
    (hok : (reconcileGateway config s g configurations).isOk) :
    ∃ (k : ResourceKey) (c : GatewayClass), s.gatewayClasses[k]? = some c ∧
      c.metadata.name = some g.spec.gatewayClassName := by
  unfold reconcileGateway at hok
  split at hok
  · exact absurd hok Bool.false_ne_true
  · exact absurd hok Bool.false_ne_true
  · split_ifs at hok
    · exact absurd hok Bool.false_ne_true
    · unfold backendTypeOf at hok
      split at hok
      · exact absurd hok Bool.false_ne_true
      · rename_i c hfind
        obtain ⟨k, hk⟩ := Lib.mem_values.1 (List.mem_of_find?_eq_some hfind)
        have hname := List.find?_some hfind
        exact ⟨k, c, hk, of_decide_eq_true hname⟩

end Step

/-! ## Runs -/

section Runs

variable (config : ControllerConfig)

/-- What the stores are to be after an event. -/
structure FollowLifeCycles (s : Stores) (e : ReconcileEvent) (σ' : Reconciled) : Prop where
  held : ∀ k, σ'.stores.Holds k → k ∈ σ'.live
  others : e.metadata.IsDeletion → s.SameBut e.kind σ'.stores
  admitted : ∀ g configurations, (reconcileGateway config σ'.stores g configurations).isOk →
    ∃ k ∈ σ'.live, k.kind = "GatewayClass" ∧ k.name = g.spec.gatewayClassName

/-- The stores follow the life cycles of their objects in this step. -/
def LifeCyclesFollowed (σ : Reconciled) (e : ReconcileEvent) : Prop :=
  ∀ σ', (controllers config).step σ e = some σ' → FollowLifeCycles config σ.stores e σ'

/-- A deletion of an object that is stored is one that removes it. -/
def DeletionRemoves (σ : Reconciled) (e : ReconcileEvent) : Prop :=
  e.metadata.IsDeletion → σ.stores.Holds e.resourceKey → σ.stores.Removes config e

/-- The invariant: keys are where they belong, and what is stored lives. -/
structure Alive (σ : Reconciled) : Prop where
  keyed : σ.stores.WellKeyed
  held : ∀ k, σ.stores.Holds k → k ∈ σ.live

variable {config} {σ σ' : Reconciled} {e : ReconcileEvent}

theorem Alive.init : Alive (controllers config).init :=
  ⟨.init, fun k hk => by simp [controllers, Stores.Holds] at hk⟩

/-- What is stored after an event lives, if the event removes what it deletes. -/
theorem Alive.held_step (h : Alive σ) (hremoves : DeletionRemoves config σ e)
    (hstep : (controllers config).step σ e = some σ') : ∀ k, σ'.stores.Holds k → k ∈ σ'.live := by
  obtain ⟨hstores, hlive⟩ := step_controllers hstep
  intro k hk
  rw [hstores] at hk
  rw [hlive]
  by_cases hdel : e.metadata.IsDeletion
  · rw [if_pos hdel, Std.ExtTreeSet.mem_erase]
    have hne : k ≠ e.resourceKey := by
      rintro rfl
      obtain ⟨hholds, hnot⟩ := (holds_reconcile_deletion h.keyed hdel).1 hk
      exact hnot (hremoves hdel hholds)
    refine ⟨fun heq => hne (Std.LawfulEqOrd.eq_of_compare heq).symm, ?_⟩
    exact h.held k ((holds_reconcile h.keyed hk).resolve_left hne)
  · rw [if_neg hdel, Std.ExtTreeSet.mem_insert]
    rcases holds_reconcile h.keyed hk with rfl | hold
    · exact .inl Std.ReflCmp.compare_self
    · exact .inr (h.held k hold)

/-- The class of a gateway that is not turned down lives. -/
theorem Alive.class_of_admitted (h : Alive σ) {g : KubeGateway} {configurations : Configurations}
    (hok : (reconcileGateway config σ.stores g configurations).isOk) :
    ∃ k ∈ σ.live, k.kind = "GatewayClass" ∧ k.name = g.spec.gatewayClassName := by
  obtain ⟨k, c, hk, hname⟩ := exists_class_of_isOk hok
  have hmem : k ∈ σ.stores.gatewayClasses :=
    Std.ExtTreeMap.mem_iff_isSome_getElem?.2 (Option.isSome_iff_exists.2 ⟨c, hk⟩)
  refine ⟨k, h.held k (.inl hmem), h.keyed.class_kind hmem, ?_⟩
  rw [← h.keyed.classes k c hk]
  show c.metadata.nameAny = _
  unfold ObjectMeta.nameAny
  rw [hname]
  rfl

theorem Alive.step (h : Alive σ) (he : DeletionRemoves config σ e) (hstep : (controllers config).step σ e = some σ') :
    Alive σ' := by
  refine ⟨?_, h.held_step he hstep⟩
  rw [(step_controllers hstep).1]
  exact wellKeyed_reconcile config _ h.keyed

theorem Alive.lifeCyclesFollowed_iff (h : Alive σ) : LifeCyclesFollowed config σ e ↔ DeletionRemoves config σ e := by
  constructor
  · intro hfollowed hdel hholds
    by_contra hnot
    have hlive := (hfollowed _ rfl).held e.resourceKey
      ((holds_reconcile_deletion h.keyed hdel).2 ⟨hholds, hnot⟩)
    rw [if_pos hdel] at hlive
    exact (Std.ExtTreeSet.mem_erase.1 hlive).1 Std.ReflCmp.compare_self
  · intro hremoves σ' hstep
    have h' := h.step hremoves hstep
    refine ⟨h'.held, fun _ => ?_, fun g configurations => h'.class_of_admitted⟩
    rw [(step_controllers hstep).1]
    exact sameBut_reconcile config _ h.keyed

/-- **The stores follow the life cycles of their objects** along a run exactly if every deletion of a stored object
removes it. -/
theorem lifeCycles_iff (events : List ReconcileEvent) :
    (controllers config).Along (LifeCyclesFollowed config) (controllers config).init events ↔
    (controllers config).Along (DeletionRemoves config) (controllers config).init events :=
  System.along_congr Alive .init (fun _ _ h => h.lifeCyclesFollowed_iff) fun _ _ _ h he hstep => h.step he hstep

end Runs

/-! ## A class that is deleted -/

/-- The class of the runs on fixed inputs, with a finalizer, and deleted or not. -/
def someGatewayClass (deletionTimestamp : Option String) : GatewayClass where
  metadata :=
    { name := some "class", uid := some someUid, finalizers := some ["controller"]
      deletionTimestamp := deletionTimestamp }
  spec := { controllerName := "controller" }

/-- A class is created, and deleted. -/
def deletedClassRun : List ReconcileEvent :=
  [.gatewayClass (someGatewayClass none) none, .gatewayClass (someGatewayClass (some "2026-01-01T00:00:00Z")) none]

def gatewayOfClass : KubeGateway where
  metadata := { name := some "gateway", uid := some someUid }
  spec := { gatewayClassName := "class" }

/-- **The class is still stored**, and a gateway of the class is still admitted. -/
theorem deletedClassRun_not_followed : ∃ σ,
    (controllers someConfig).run (controllers someConfig).init deletedClassRun = some σ ∧
    σ.stores.Holds (someGatewayClass none).resourceKey ∧ (someGatewayClass none).resourceKey ∉ σ.live ∧
    (reconcileGateway someConfig σ.stores gatewayOfClass fun _ _ => none).isOk ∧
    ¬ (controllers someConfig).Along (LifeCyclesFollowed someConfig) (controllers someConfig).init
      deletedClassRun := by
  have hrun : ((controllers someConfig).run (controllers someConfig).init deletedClassRun).map (fun σ =>
      (decide (σ.stores.Holds (someGatewayClass none).resourceKey),
        decide ((someGatewayClass none).resourceKey ∈ σ.live),
        (reconcileGateway someConfig σ.stores gatewayOfClass fun _ _ => none).isOk)) =
      some (true, false, true) := by decide +kernel
  obtain ⟨σ, hσ, heq⟩ := Option.map_eq_some_iff.1 hrun
  obtain ⟨hholds, heq⟩ := Prod.mk.inj heq
  obtain ⟨hdead, hadmitted⟩ := Prod.mk.inj heq
  have hholds := of_decide_eq_true hholds
  have hdead := of_decide_eq_false hdead
  refine ⟨σ, hσ, hholds, hdead, hadmitted, fun halong => ?_⟩
  obtain ⟨σ₁, hfirst, hrest⟩ := System.run_cons.1 hσ
  obtain ⟨σ₂, hsecond, hend⟩ := System.run_cons.1 hrest
  obtain rfl := Option.some.inj hend
  exact hdead (((halong.2 σ₁ hfirst).1 _ hsecond).held _ hholds)

end Kubvernor
