import Kubvernor.Controllers.RouteListenerMatcher

/-!
# Listeners that admit a route

A listener says which kinds of routes it admits and from which namespaces, and a route should meet
both. The filter looks for the kind `HTTPRoute` whatever the route is, and a selector overwrites what
was found out about the kinds; of the labels of a selector one is enough, and none is not
(`filterListenersByNamespace_admits_iff`).
-/

namespace Kubvernor

/-- The kind of a route. -/
def Route.ownKind (r : Route) : String :=
  match r.routeType with
  | .http _ => "HTTPRoute"
  | .grpc _ => "GRPCRoute"

namespace KubeListener

/-- Kinds that are not listed are not restricted. -/
def AdmitsKind (l : KubeListener) (kind : String) : Prop :=
  ∀ kinds ∈ l.allowedKinds, kinds = [] ∨ kind ∈ kinds

/-- The rule for the namespaces, if there is one. -/
def namespaceRule (l : KubeListener) : Option AllowedRoutesNamespacesFrom :=
  l.allowedNamespaces.bind (·.selectorType)

def selectorLabels (l : KubeListener) : Option (List (String × String)) :=
  (l.allowedNamespaces.bind (·.selector)).bind (·.matchLabels)

end KubeListener

namespace RouteListenerMatcher

variable {m : RouteListenerMatcher} {l : KubeListener}

/-- The namespace is known to have the label. -/
def HasLabel (m : RouteListenerMatcher) (ns : String) (label : String × String) : Prop :=
  ∃ labels ∈ m.resolvedNamespaces[ns]?, labels[label.1]? = some label.2

/-- What the listener says about namespaces. -/
def AdmitsNamespace (m : RouteListenerMatcher) (l : KubeListener) (ns : String) : Prop :=
  match l.namespaceRule with
  | none | some .all => True
  | some .same => ns = m.gateway.resourceKey.ns
  | some .selector => ∀ label ∈ l.selectorLabels.getD [], m.HasLabel ns label

/-- The listener does for a route what it says. Where there is a selector, all of its labels are on
the namespace, and there are some, and the kind is admitted; or none of its labels is, although there
are some or the kind is not admitted. Elsewhere the namespace is refused, or it makes no difference
to the kinds which of the two kinds is looked for. -/
def Conforms (m : RouteListenerMatcher) (l : KubeListener) (r : Route) : Prop :=
  match l.namespaceRule with
  | some .selector =>
    (l.selectorLabels.getD [] ≠ [] ∧ (∀ label ∈ l.selectorLabels.getD [], m.HasLabel r.resourceKey.ns label) ∧
      l.AdmitsKind r.ownKind) ∨
    ((∀ label ∈ l.selectorLabels.getD [], ¬ m.HasLabel r.resourceKey.ns label) ∧
      (l.selectorLabels.getD [] ≠ [] ∨ ¬ l.AdmitsKind r.ownKind))
  | _ => m.AdmitsNamespace l r.resourceKey.ns → (l.AdmitsKind "HTTPRoute" ↔ l.AdmitsKind r.ownKind)

theorem hasSelectedLabel_iff {ns : String} : m.hasSelectedLabel (l.allowedNamespaces.bind (·.selector)) ns = true ↔
    ∃ label ∈ l.selectorLabels.getD [], m.HasLabel ns label := by
  unfold hasSelectedLabel HasLabel KubeListener.selectorLabels
  cases (l.allowedNamespaces.bind (·.selector)).bind (·.matchLabels) with
  | none => simp
  | some labels =>
    cases m.resolvedNamespaces[ns]? with
    | none => simp
    | some namespaceLabels => simp

/-- What the filter asks of a listener. -/
theorem mem_filterListenersByNamespace {listeners : List KubeListener} {gatewayKey : GatewayKey} {routeKey : RouteKey} :
    l ∈ m.filterListenersByNamespace listeners gatewayKey routeKey ↔ l ∈ listeners ∧
      match l.namespaceRule with
      | none | some .all => l.AdmitsKind "HTTPRoute"
      | some .same => l.AdmitsKind "HTTPRoute" ∧ routeKey.ns = gatewayKey.ns
      | some .selector => ∃ label ∈ l.selectorLabels.getD [], m.HasLabel routeKey.ns label := by
  rw [filterListenersByNamespace, List.mem_filter]
  refine and_congr_right fun _ => ?_
  have hselected : m.hasSelectedLabel (l.allowedNamespaces.bind (·.selector)) routeKey.ns = true ↔
      ∃ label ∈ l.selectorLabels.getD [], m.HasLabel routeKey.ns label := hasSelectedLabel_iff
  unfold KubeListener.namespaceRule KubeListener.AdmitsKind
  cases hn : l.allowedNamespaces with
  | none => cases l.allowedKinds <;> simp
  | some namespaces =>
    rw [hn, Option.bind_some] at hselected
    dsimp only [Option.bind_some]
    cases hs : namespaces.selectorType with
    | none => cases l.allowedKinds <;> simp
    | some rule =>
      cases rule with
      | all => cases l.allowedKinds <;> simp
      | selector => exact hselected
      | same => cases l.allowedKinds <;> simp

/-- The filter decides about one listener as it should exactly if the listener conforms. -/
theorem conforms_iff (r : Route) :
    ((match l.namespaceRule with
      | none | some .all => l.AdmitsKind "HTTPRoute"
      | some .same => l.AdmitsKind "HTTPRoute" ∧ r.resourceKey.ns = m.gateway.resourceKey.ns
      | some .selector => ∃ label ∈ l.selectorLabels.getD [], m.HasLabel r.resourceKey.ns label) ↔
      l.AdmitsKind r.ownKind ∧ m.AdmitsNamespace l r.resourceKey.ns) ↔ m.Conforms l r := by
  unfold Conforms AdmitsNamespace
  cases l.namespaceRule with
  | none => simp
  | some rule =>
    cases rule with
    | all => simp
    | same =>
      simp only [and_comm (b := r.resourceKey.ns = _)]
      exact and_congr_right_iff
    | selector =>
      dsimp only
      by_cases hany : ∃ label ∈ l.selectorLabels.getD [], m.HasLabel r.resourceKey.ns label
      · obtain ⟨label, hlabel, hhas⟩ := id hany
        have hne : l.selectorLabels.getD [] ≠ [] := List.ne_nil_of_mem hlabel
        have hsome : ¬ ∀ label ∈ l.selectorLabels.getD [], ¬ m.HasLabel r.resourceKey.ns label :=
          fun hnone => hnone label hlabel hhas
        simp only [hany, true_iff, hne, ne_eq, not_false_eq_true, true_and, hsome, false_and, or_false, and_comm]
      · have hnone : ∀ label ∈ l.selectorLabels.getD [], ¬ m.HasLabel r.resourceKey.ns label :=
          fun label hlabel hhas => hany ⟨label, hlabel, hhas⟩
        have hall : (∀ label ∈ l.selectorLabels.getD [], m.HasLabel r.resourceKey.ns label) ↔
            l.selectorLabels.getD [] = [] := by
          rw [List.eq_nil_iff_forall_not_mem]
          exact forall₂_congr fun label hlabel => iff_of_false (hnone label hlabel) not_false
        rw [iff_false_left hany, hall, and_iff_right hnone, not_and_or, or_comm (a := ¬ l.AdmitsKind _)]
        exact (or_iff_right fun h => h.1 h.2.1).symm

/-- **A route is admitted by the listeners that say so** exactly if they conform. -/
theorem filterListenersByNamespace_admits_iff (m : RouteListenerMatcher) (listeners : List KubeListener) (r : Route) :
    (∀ l, l ∈ m.filterListenersByNamespace listeners m.gateway.resourceKey r.resourceKey ↔
      l ∈ listeners ∧ l.AdmitsKind r.ownKind ∧ m.AdmitsNamespace l r.resourceKey.ns) ↔
      ∀ l ∈ listeners, m.Conforms l r := by
  simp only [mem_filterListenersByNamespace, and_congr_right_iff, conforms_iff]

/-- An HTTP route is admitted as it should be wherever there is no selector. -/
theorem conforms_of_http {routingRules : List HTTPRoutingRule} {r : Route} (hr : r.routeType = .http routingRules)
    (hrule : l.namespaceRule ≠ some .selector) : m.Conforms l r := by
  have hkind : r.ownKind = "HTTPRoute" := by rw [Route.ownKind, hr]
  unfold Conforms
  split
  · rename_i hselector
    exact absurd hselector hrule
  · rw [hkind]
    exact fun _ => Iff.rfl

/-- A gateway whose listener is for GRPC routes only. -/
def cartGateway : KubeGateway where
  metadata := { name := some "edge", ns := some "shop" }
  spec :=
    { gatewayClassName := "kubvernor"
      listeners := [{ name := "grpc", port := 80, protocol := "HTTP", allowedKinds := some ["GRPCRoute"] }] }

def cartRoute : Route where
  resourceKey := { ns := "shop", name := "cart", kind := "GRPCRoute" }
  routeType := .grpc []

/-- It refuses them. -/
theorem cartGateway_not_admits : ¬ ∀ l,
    l ∈ filterListenersByNamespace { gateway := cartGateway, routes := [] } cartGateway.spec.listeners
        cartGateway.resourceKey cartRoute.resourceKey ↔
      l ∈ cartGateway.spec.listeners ∧ l.AdmitsKind cartRoute.ownKind ∧
        AdmitsNamespace { gateway := cartGateway, routes := [] } l cartRoute.resourceKey.ns := by
  intro h
  have hadmits := (h { name := "grpc", port := 80, protocol := "HTTP", allowedKinds := some ["GRPCRoute"] }).2
    ⟨List.mem_singleton.2 rfl, fun kinds hkinds => .inr (Option.some.inj hkinds ▸ List.mem_singleton.2 rfl), trivial⟩
  rw [mem_filterListenersByNamespace] at hadmits
  exact absurd (hadmits.2 ["GRPCRoute"] rfl) (by decide)

end RouteListenerMatcher

end Kubvernor
