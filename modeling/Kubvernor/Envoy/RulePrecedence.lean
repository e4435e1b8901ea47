import Kubvernor.Controllers.RouteNames
import Kubvernor.Envoy.MatchTranslation
import Kubvernor.Lib.StableSort

/-!
# The order of the effective rules

Envoy takes the first route that accepts a request, so the order of the rules says which of them
answers. The comparisons of HTTP and of GRPC matches are total preorders, and sorting by them keeps
every effective rule and the order of those that tie (`httpMatchingRules_stableSortOf`,
`grpcMatchingRules_stableSortOf`).

The HTTP comparison looks at the headers before it looks at the paths. A rule with a more specific
path comes first only if it also has the more header matches, or as many
(`Listener.precedence_iff`); a match without a list of headers is behind the match that stands for
none at all, which has an empty one.
-/

namespace Kubvernor

/-! ## The comparisons are total preorders -/

theorem Comparator.compare_eq {α : Type} : @Comparator.compare α =
    Lib.missingLast fun this other => compareOn List.length other this := by
  funext this other
  cases this <;> cases other <;> rfl

instance {α : Type} : Std.TransCmp (@Comparator.compare α) := by
  rw [Comparator.compare_eq]
  have : Std.TransCmp fun this other : List α => compareOn List.length other this := Std.TransCmp.opposite
  infer_instance

namespace PathMatch

def untypedValue (p : PathMatch) : Option String := if p.type = none then p.value else none

def typedValue (p : PathMatch) : Option String := if p.type = none then none else p.value

/-- Paths without a type come first, in the order of their values; the others are ordered by their
types, and then by the length of their values, the longer first. -/
def compare : PathMatch → PathMatch → Ordering :=
  compareLex (compareOn fun p => p.type.map (·.discriminant)) <|
  compareLex (compareOn untypedValue) fun this other =>
    Lib.missingLast (fun this other => compareOn String.utf8ByteSize other this) this.typedValue other.typedValue

instance : Std.TransCmp compare := by
  have : Std.TransCmp fun this other => compareOn String.utf8ByteSize other this := Std.TransCmp.opposite
  have := @Lib.transCmp_on _ _ (Lib.missingLast fun this other => compareOn String.utf8ByteSize other this) _ typedValue
  unfold compare
  infer_instance

end PathMatch

namespace HTTPEffectiveRoutingRule

instance : Std.TransCmp headerMatching :=
  @Lib.transCmp_on _ _ Comparator.compare _ RouteMatch.headers

theorem methodMatching_eq (this other : RouteMatch) : methodMatching this other =
    Lib.missingLast (compareOn HTTPMethod.discriminant) this.method other.method := by
  unfold methodMatching
  cases this.method <;> cases other.method <;> rfl

instance : Std.TransCmp methodMatching := by
  have heq := funext₂ methodMatching_eq
  rw [heq]
  exact @Lib.transCmp_on _ _ (Lib.missingLast (compareOn HTTPMethod.discriminant)) _ RouteMatch.method

theorem pathMatching_eq (this other : RouteMatch) :
    pathMatching this other = Lib.missingLast PathMatch.compare this.path other.path := by
  unfold pathMatching
  cases this.path with
  | none => cases other.path <;> rfl
  | some thisPath =>
    cases other.path with
    | none => rfl
    | some otherPath =>
      obtain ⟨thisType, thisValue⟩ := thisPath
      obtain ⟨otherType, otherValue⟩ := otherPath
      simp only [Lib.missingLast, PathMatch.compare, compareLex, compareOn, PathMatch.untypedValue,
        PathMatch.typedValue]
      cases thisType with
      | none =>
        cases otherType with
        | none => simp [Ordering.then_eq]
        | some otherType => rfl
      | some thisType =>
        cases otherType with
        | none => rfl
        | some otherType =>
          dsimp only
          change _ = (compare thisType.discriminant otherType.discriminant).then _
          cases compare thisType.discriminant otherType.discriminant with
          | lt => rfl
          | eq => cases thisValue <;> cases otherValue <;> rfl
          | gt => rfl

instance : Std.TransCmp pathMatching := by
  have heq := funext₂ pathMatching_eq
  rw [heq]
  exact @Lib.transCmp_on _ _ (Lib.missingLast PathMatch.compare) _ RouteMatch.path

/-- The headers are looked at twice. -/
theorem compareMatching_eq (this other : RouteMatch) : compareMatching this other =
    (headerMatching this other).then ((pathMatching this other).then (methodMatching this other)) := by
  have hquery : queryMatching this other = headerMatching this other := rfl
  unfold compareMatching
  rw [hquery]
  cases headerMatching this other with
  | lt => rfl
  | eq => cases pathMatching this other <;> rfl
  | gt => rfl

instance : Std.TransCmp compareMatching := by
  have heq : compareMatching = compareLex headerMatching (compareLex pathMatching methodMatching) :=
    funext₂ compareMatching_eq
  rw [heq]
  infer_instance

end HTTPEffectiveRoutingRule

namespace GRPCEffectiveRoutingRule

instance : Std.TransCmp headerMatching :=
  @Lib.transCmp_on _ _ Comparator.compare _ GrpcRouteMatch.headers

theorem methodMatching_eq (this other : GrpcRouteMatch) : methodMatching this other =
    Lib.missingLast (compareLex (compareOn GrpcMethodMatch.method) (compareOn GrpcMethodMatch.service))
      this.method other.method := by
  unfold methodMatching
  cases this.method with
  | none => cases other.method <;> rfl
  | some thisMethod =>
    cases other.method with
    | none => rfl
    | some otherMethod =>
      dsimp only
      change _ = (compare thisMethod.method otherMethod.method).then
        (compare thisMethod.service otherMethod.service)
      cases compare thisMethod.method otherMethod.method <;> rfl

instance : Std.TransCmp methodMatching := by
  have heq := funext₂ methodMatching_eq
  rw [heq]
  exact @Lib.transCmp_on _ _ (Lib.missingLast
    (compareLex (compareOn GrpcMethodMatch.method) (compareOn GrpcMethodMatch.service))) _ GrpcRouteMatch.method

instance : Std.TransCmp compareMatching := by
  have heq : compareMatching = compareLex headerMatching methodMatching := by
    funext this other
    unfold compareMatching compareLex
    cases headerMatching this other <;> rfl
  rw [heq]
  infer_instance

end GRPCEffectiveRoutingRule

/-! ## Sorting -/

/-- The rules of a GRPC route. -/
def Route.grpcRules (r : Route) : List GRPCRoutingRule :=
  match r.routeType with
  | .http _ => []
  | .grpc rules => rules

/-- The matches that a rule stands for: those it has, or one that every request passes. -/
def HTTPRoutingRule.effectiveMatches (rule : HTTPRoutingRule) : List RouteMatch :=
  match rule.matchingRules with
  | [] => [{ headers := some [], path := some { type := some .pathPrefix, value := some "/" } }]
  | ms => ms

def GRPCRoutingRule.effectiveMatches (rule : GRPCRoutingRule) : List GrpcRouteMatch :=
  match rule.matchingRules with
  | [] => [{ headers := some [] }]
  | ms => ms

theorem HTTPRoutingRule.matchers_eq (rule : HTTPRoutingRule) : rule.matchers = rule.effectiveMatches := by
  unfold matchers effectiveMatches
  cases rule.matchingRules <;> rfl

theorem GRPCRoutingRule.matchers_eq (rule : GRPCRoutingRule) : rule.matchers = rule.effectiveMatches := by
  unfold matchers effectiveMatches
  cases rule.matchingRules <;> rfl

namespace Listener

/-- One effective rule for each rule and match of the HTTP routes, of those that are resolved first and then of those
that are not. -/
def httpEffectiveRules (l : Listener) : List HTTPEffectiveRoutingRule :=
  (l.data.resolvedRoutes.routes ++ l.data.unresolvedRoutes.routes).flatMap fun r => r.httpRules.flatMap fun rule =>
    rule.effectiveMatches.map (l.httpEffectiveRule r.hostnames rule)

def grpcEffectiveRules (l : Listener) : List GRPCEffectiveRoutingRule :=
  (l.data.resolvedRoutes.routes ++ l.data.unresolvedRoutes.routes).flatMap fun r => r.grpcRules.flatMap fun rule =>
    rule.effectiveMatches.map (rule.effectiveRule r.hostnames)

theorem httpMatchingRules_stableSortOf (l : Listener) : Lib.StableSortOf
    (fun this other => HTTPEffectiveRoutingRule.compareMatching this.routeMatcher other.routeMatcher)
    l.httpMatchingRules l.httpEffectiveRules := by
  have heq : l.httpEffectiveRules = l.attached.flatMap fun r => match r.routeType with
      | .http routingRules => l.createHttpEffectiveRoute r.hostnames routingRules
      | .grpc _ => [] := by
    refine List.flatMap_congr fun r _ => ?_
    unfold Route.httpRules createHttpEffectiveRoute
    simp only [HTTPRoutingRule.matchers_eq]
    cases r.routeType <;> rfl
  have := @Lib.transCmp_on _ _ HTTPEffectiveRoutingRule.compareMatching _ HTTPEffectiveRoutingRule.routeMatcher
  rw [heq]
  exact Lib.stableSortOf_mergeSort _

theorem grpcMatchingRules_stableSortOf (l : Listener) : Lib.StableSortOf
    (fun this other => GRPCEffectiveRoutingRule.compareMatching this.routeMatcher other.routeMatcher)
    l.grpcMatchingRules l.grpcEffectiveRules := by
  have heq : l.grpcEffectiveRules = l.attached.flatMap fun r => match r.routeType with
      | .http _ => []
      | .grpc routingRules => createGrpcEffectiveRoute r.hostnames routingRules := by
    refine List.flatMap_congr fun r _ => ?_
    unfold Route.grpcRules createGrpcEffectiveRoute
    simp only [GRPCRoutingRule.matchers_eq]
    cases r.routeType <;> rfl
  have := @Lib.transCmp_on _ _ GRPCEffectiveRoutingRule.compareMatching _ GRPCEffectiveRoutingRule.routeMatcher
  rw [heq]
  exact Lib.stableSortOf_mergeSort _

end Listener

/-- **The rules can be sorted, and sorting loses none of them.** -/
theorem matchingRules_sorted_of_preorders :
    Lib.Preorders HTTPEffectiveRoutingRule.compareMatching ∧
      Lib.Preorders GRPCEffectiveRoutingRule.compareMatching ∧
      ∀ l : Listener,
        Lib.StableSortOf
          (fun this other => HTTPEffectiveRoutingRule.compareMatching this.routeMatcher other.routeMatcher)
          l.httpMatchingRules l.httpEffectiveRules ∧
        Lib.StableSortOf
          (fun this other => GRPCEffectiveRoutingRule.compareMatching this.routeMatcher other.routeMatcher)
          l.grpcMatchingRules l.grpcEffectiveRules :=
  ⟨Lib.preorders_of_transCmp, Lib.preorders_of_transCmp, fun l =>
    ⟨l.httpMatchingRules_stableSortOf, l.grpcMatchingRules_stableSortOf⟩⟩

/-! ## The more specific path first -/

namespace RouteMatch

/-- The path of `a` is exact and that of `b` a prefix, or both are prefixes and `a` has the longer
one. -/
def MoreSpecific (a b : RouteMatch) : Prop :=
  (a.pathType = .exact ∧ b.pathType = .pathPrefix) ∨
    (a.pathType = .pathPrefix ∧ b.pathType = .pathPrefix ∧
      b.pathValue.utf8ByteSize < a.pathValue.utf8ByteSize)

/-- There are more header matches in `a`, or a list of them only in `a`. -/
def MoreHeaders (a b : RouteMatch) : Prop :=
  ∃ headers ∈ a.headers, ∀ headers' ∈ b.headers, headers'.length < headers.length

def SameHeaders (a b : RouteMatch) : Prop := a.headers.map List.length = b.headers.map List.length

/-- How the paths stand that are put in order, with `a` first. -/
def PathFirst (a b : RouteMatch) : Prop :=
  match a.path, b.path with
  | _, none => True
  | none, some _ => False
  | some p, some q =>
    match p.type, q.type with
    | none, none => compare p.value q.value = .lt
    | none, some _ => True
    | some _, none => False
    | some type, some type' => type = type' → p.value ≠ none

end RouteMatch

namespace HTTPEffectiveRoutingRule

variable {a b : RouteMatch}

theorem headerMatching_eq_lt : headerMatching a b = .lt ↔ a.MoreHeaders b := by
  unfold headerMatching Comparator.compare RouteMatch.MoreHeaders
  cases a.headers with
  | none => cases b.headers <;> simp
  | some headers => cases b.headers <;> simp [Nat.compare_eq_lt]

theorem headerMatching_eq_eq : headerMatching a b = .eq ↔ a.SameHeaders b := by
  unfold headerMatching Comparator.compare RouteMatch.SameHeaders
  cases a.headers with
  | none => cases b.headers <;> simp
  | some headers => cases b.headers <;> simp [eq_comm (a := headers.length)]

/-- A more specific path never ties. -/
theorem pathMatching_of_moreSpecific (h : a.MoreSpecific b) :
    pathMatching a b ≠ .eq ∧ (pathMatching a b = .lt ↔ a.PathFirst b) := by
  unfold RouteMatch.MoreSpecific RouteMatch.pathType RouteMatch.pathValue at h
  unfold RouteMatch.PathFirst pathMatching
  cases ha : a.path with
  | none =>
    cases hb : b.path with
    | none => simp [ha, hb] at h
    | some q => simp
  | some p =>
    cases hb : b.path with
    | none => simp
    | some q =>
      simp only [ha, hb, Option.bind_some] at h ⊢
      cases hp : p.type with
      | none =>
        cases hq : q.type with
        | none =>
          simp only [hp, hq, Option.getD_none, reduceCtorEq, false_and, true_and, false_or] at h
          refine ⟨fun heq => ?_, Iff.rfl⟩
          have hvalue : p.value = q.value := Std.LawfulEqOrd.eq_of_compare heq
          rw [hvalue] at h
          exact lt_irrefl _ h
        | some type' => simp
      | some type =>
        cases hq : q.type with
        | none => simp
        | some type' =>
          simp only [hp, hq, Option.getD_some] at h ⊢
          rcases h with ⟨rfl, rfl⟩ | ⟨rfl, rfl, hlt⟩
          · exact ⟨show Ordering.lt ≠ .eq by decide, iff_of_true rfl (by simp)⟩
          · rw [Nat.compare_eq_eq.2 rfl]
            cases hv : p.value with
            | none =>
              cases hw : q.value with
              | none => simp [hv, hw] at hlt
              | some value' => simp
            | some value =>
              cases hw : q.value with
              | none => simp
              | some value' =>
                simp only [hv, hw, Option.getD_some] at hlt
                simp only [Nat.compare_eq_lt.2 hlt]
                simp

theorem compareMatching_of_moreSpecific (h : a.MoreSpecific b) : compareMatching a b ≠ .eq ∧
    (compareMatching a b = .lt ↔ a.MoreHeaders b ∨ a.SameHeaders b ∧ a.PathFirst b) := by
  obtain ⟨hne, hlt⟩ := pathMatching_of_moreSpecific h
  rw [compareMatching_eq, ← headerMatching_eq_lt, ← headerMatching_eq_eq, ← hlt]
  cases headerMatching a b with
  | lt => simp
  | eq =>
    revert hne
    cases pathMatching a b <;> simp
  | gt => simp

end HTTPEffectiveRoutingRule

/-- **The more specific of two paths comes first exactly if the headers do not say otherwise.** -/
theorem Listener.precedence_iff (l : Listener) :
    l.httpMatchingRules.Pairwise (fun this other => ¬ other.routeMatcher.MoreSpecific this.routeMatcher) ↔
      ∀ a ∈ l.httpEffectiveRules, ∀ b ∈ l.httpEffectiveRules,
        a.routeMatcher.MoreSpecific b.routeMatcher → a.routeMatcher.MoreHeaders b.routeMatcher ∨
          a.routeMatcher.SameHeaders b.routeMatcher ∧ a.routeMatcher.PathFirst b.routeMatcher := by
  have := @Lib.transCmp_on _ _ HTTPEffectiveRoutingRule.compareMatching _ HTTPEffectiveRoutingRule.routeMatcher
  rw [l.httpMatchingRules_stableSortOf.pairwise_not_iff fun a b h =>
    (HTTPEffectiveRoutingRule.compareMatching_of_moreSpecific h).1]
  exact forall₄_congr fun a _ b _ => forall_congr' fun h =>
    (HTTPEffectiveRoutingRule.compareMatching_of_moreSpecific h).2

/-! ## The match that stands for none -/

/-- It comes before every match without a list of headers, whatever the path of that one is. -/
theorem compareMatching_default {m : RouteMatch} (hm : m.headers = none) :
    HTTPEffectiveRoutingRule.compareMatching getHttpDefaultRulesMatches m = .lt := by
  have hmore : getHttpDefaultRulesMatches.MoreHeaders m := by
    refine ⟨[], rfl, fun headers hheaders => ?_⟩
    rw [hm] at hheaders
    cases hheaders
  rw [HTTPEffectiveRoutingRule.compareMatching_eq, HTTPEffectiveRoutingRule.headerMatching_eq_lt.2 hmore]
  rfl

def loginMatch : RouteMatch where
  path := some { type := some .exact, value := some "/login" }

/-- One rule for an exact path, and one without matches for all the rest. -/
def loginRoute : Route where
  resourceKey := { ns := "shop", name := "shop", kind := "HTTPRoute" }
  routeType := .http [{ name := "shop-0", matchingRules := [loginMatch] }, { name := "shop-1" }]

def loginListener : Listener where
  protocol := .http
  data := { config := { name := "http", port := 80 }, resolvedRoutes := .ofRoutes [loginRoute] }

/-- The exact path is behind the root. -/
theorem loginListener_not_precedence : ¬ loginListener.httpMatchingRules.Pairwise fun this other =>
    ¬ other.routeMatcher.MoreSpecific this.routeMatcher := by
  have := @Lib.transCmp_on _ _ HTTPEffectiveRoutingRule.compareMatching _ HTTPEffectiveRoutingRule.routeMatcher
  rw [loginListener.httpMatchingRules_stableSortOf.pairwise_not_iff fun a b h =>
    (HTTPEffectiveRoutingRule.compareMatching_of_moreSpecific h).1]
  intro hfirst
  have hexact := hfirst (loginListener.httpEffectiveRule [] { name := "shop-0", matchingRules := [loginMatch] } loginMatch)
    (by decide) (loginListener.httpEffectiveRule [] { name := "shop-1" } getHttpDefaultRulesMatches) (by decide)
    (.inl ⟨rfl, rfl⟩)
  have hdefault := compareMatching_default (m := loginMatch) rfl
  rw [@Std.OrientedCmp.eq_swap _ HTTPEffectiveRoutingRule.compareMatching] at hexact
  exact nomatch (congrArg Ordering.swap hdefault).symm.trans hexact

end Kubvernor
