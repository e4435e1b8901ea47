import Kubvernor.Envoy.HostScope

/-!
# The hosts a listener answers for

A listener without hostname serves the hostnames of its resolved routes, yet its virtual hosts are
made of the rules of all its routes. So an unresolved route answers only where a resolved one happens
to have a hostname for it, and a route without hostnames only under the hostnames of the others.

**`hostsComplete_iff`**: a listener answers for all hosts of its routes exactly if, for every hostname
of a route that overlaps with its own, it serves one that includes the overlap and admits the route.
-/

namespace Kubvernor

open Lib

/-- The pattern of the hosts the listener is for. -/
def Listener.pattern (l : Listener) : HostPattern Char :=
  match l.hostname with
  | some hostname => hostPattern (hostDomain hostname)
  | none => .any

section Property

variable (domainPattern : String → Option (String → Bool))

/-- All rules of the route, with all their matches, are among those the virtual host of a hostname is
made of. -/
structure Listener.CarriesAll (l : Listener) (h : String) (r : Route) : Prop where
  http : ∀ rules, r.routeType = .http rules → ∀ rule ∈ rules, ∀ matcher ∈ rule.matchers,
    l.httpEffectiveRule r.hostnames rule matcher ∈ l.httpRulesFor domainPattern h
  grpc : ∀ rules, r.routeType = .grpc rules → ∀ rule ∈ rules, ∀ matcher ∈ rule.matchers,
    rule.effectiveRule r.hostnames matcher ∈ l.grpcRulesFor domainPattern h

/-- Every host of the listener and of one of its routes is a host of a virtual host with all of the
route's rules. -/
def Listener.HostsComplete (backend : XdsBackend) (l : Listener) : Prop :=
  ∀ r ∈ l.attached, ∀ host : RequestHost, l.pattern.Covers host.letters → r.Lists host →
    ∃ h, l.ServesHost h ∧ (∃ d ∈ (l.xdsVirtualHost domainPattern backend h).domains, (hostPattern d).Covers host.letters) ∧
      l.CarriesAll domainPattern h r

end Property

variable {domainPattern : String → Option (String → Bool)} {backend : XdsBackend} {l : Listener} {r : Route} {h : String}

/-- What the effective rules of a virtual host become: routes of its own. -/
theorem Listener.CarriesAll.envoyRoutes (hall : l.CarriesAll domainPattern h r) :
    (∀ rules, r.routeType = .http rules → ∀ rule ∈ rules, ∀ matcher ∈ rule.matchers,
      (l.httpEffectiveRule r.hostnames rule matcher).envoyRoutes ≠ [] ∧
      (l.httpEffectiveRule r.hostnames rule matcher).envoyRoutes ⊆ (l.xdsVirtualHost domainPattern backend h).routes) ∧
    ∀ rules, r.routeType = .grpc rules → ∀ rule ∈ rules, ∀ matcher ∈ rule.matchers,
      (rule.effectiveRule r.hostnames matcher).envoyRoute ∈ (l.xdsVirtualHost domainPattern backend h).routes := by
  constructor
  · intro rules htype rule hrule matcher hmatcher
    refine ⟨HTTPEffectiveRoutingRule.envoyRoutes_ne_nil _, fun er her => ?_⟩
    exact List.mem_append_left _ (List.mem_flatMap.2 ⟨_, hall.http rules htype rule hrule matcher hmatcher, her⟩)
  · intro rules htype rule hrule matcher hmatcher
    exact List.mem_append_right _ (List.mem_map_of_mem (hall.grpc rules htype rule hrule matcher hmatcher))

/-- The filter decides about all rules of a route at once. -/
theorem Listener.carriesAll_iff (hr : r ∈ l.attached) : l.CarriesAll domainPattern h r ↔
    (r.HasRule → HostnameMatchFilter.filter domainPattern ⟨h, r.hostnames⟩ = true) := by
  constructor
  · intro hall hrule
    rcases hrule.exists_matcher with ⟨rules, htype, rule, hmem, matcher, hmatcher⟩ |
      ⟨rules, htype, rule, hmem, matcher, hmatcher⟩
    · exact (List.mem_filter.1 (hall.http rules htype rule hmem matcher hmatcher)).2
    · exact (List.mem_filter.1 (hall.grpc rules htype rule hmem matcher hmatcher)).2
  · intro hfilter
    constructor
    · intro rules htype rule hrule matcher hmatcher
      have hadmitted := hfilter (Route.hasRule_of_http htype hrule)
      exact mem_httpRulesFor.2 ⟨r, hr, hadmitted, rules, htype, rule, hrule, matcher, hmatcher, rfl⟩
    · intro rules htype rule hrule matcher hmatcher
      have hadmitted := hfilter (Route.hasRule_of_grpc htype hrule)
      exact mem_grpcRulesFor.2 ⟨r, hr, hadmitted, rules, htype, rule, hrule, matcher, hmatcher, rfl⟩

/-- **A listener answers for all hosts of its routes exactly if** for every hostname of a route that
has hosts in common with the listener's it serves one that includes these and admits the route. -/
theorem hostsComplete_iff (domainPattern : String → Option (String → Bool)) (backend : XdsBackend) (l : Listener) :
    l.HostsComplete domainPattern backend ↔
      ∀ r ∈ l.attached, ∀ q ∈ r.patterns, ∀ i, l.pattern.inter q = some i → '*' ∉ i.letters →
        ∃ h, l.ServesHost h ∧ (hostPattern (hostDomain h)).Includes i ∧
          (r.HasRule → HostnameMatchFilter.filter domainPattern ⟨h, r.hostnames⟩ = true) := by
  constructor
  · intro hcomplete r hr q hq i hi hstar
    -- a host of the overlap that only hostnames including it cover
    obtain ⟨host, hcommon, hincludes⟩ := exists_fresh_host (separated_of_mem_map (l := l.potentialHostnames)) hstar
    obtain ⟨hl, hq'⟩ := HostPattern.covers_inter.2 ⟨i, hi, hcommon⟩
    obtain ⟨h, hserves, hcovers, hall⟩ := hcomplete r hr host hl (Route.lists_iff.2 ⟨q, hq, hq'⟩)
    refine ⟨h, hserves, ?_, (Listener.carriesAll_iff hr).1 hall⟩
    exact hincludes _ (List.mem_map_of_mem (Listener.mem_potentialHostnames.2 hserves)) (exists_covers_iff.1 hcovers)
  · intro hoverlaps r hr host hl hlists
    obtain ⟨q, hq, hcovers⟩ := Route.lists_iff.1 hlists
    obtain ⟨i, hi, hcommon⟩ := HostPattern.covers_inter.1 ⟨hl, hcovers⟩
    obtain ⟨h, hserves, hincludes, hfilter⟩ := hoverlaps r hr q hq i hi
      (fun hstar => host.no_star (HostPattern.letters_subset hcommon hstar))
    exact ⟨h, hserves, exists_covers_iff.2 (HostPattern.covers_of_includes hincludes hcommon),
      (Listener.carriesAll_iff hr).2 hfilter⟩

/-! ## An unresolved route beside a resolved one -/

/-- A listener without hostname, with a resolved and an unresolved route. -/
def openListener : Listener where
  protocol := .http
  data :=
    { config := { name := "open", port := 80 }
      resolvedRoutes := .ofRoutes [hostRoute "a" "a.com"]
      unresolvedRoutes := .ofRoutes [{ hostRoute "b" "b.com" with resolutionStatus := .notResolved .backendNotFound }] }

/-- The hosts of the unresolved route are missing. -/
theorem openListener_not_complete : ¬ openListener.HostsComplete labelsPattern .envoy := by
  intro hcomplete
  have hhostnames : openListener.potentialHostnames = ["a.com"] := rfl
  obtain ⟨h, hserves, hcovers, -⟩ := hcomplete
    { hostRoute "b" "b.com" with resolutionStatus := .notResolved .backendNotFound } (by decide)
    { letters := "b.com".toList, no_star := by decide } trivial
    (.inr ⟨"b.com", List.mem_singleton_self _, by decide⟩)
  rw [← Listener.mem_potentialHostnames, hhostnames, List.mem_singleton] at hserves
  subst hserves
  exact absurd (exists_covers_iff.1 hcovers) (by decide)

end Kubvernor
