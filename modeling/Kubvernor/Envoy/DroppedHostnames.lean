import Kubvernor.Common.KubeRoutes
import Kubvernor.Controllers.HostnameIntersection
import Kubvernor.Envoy.HostScope

/-!
# Hostnames that are dropped

The conversion of a route drops the hostnames that are IP addresses. When nothing is left the route
looks like one that never named a host: the filter admits it everywhere, and on a listener without
hostname its virtual host is for any host. So it widens from no host to all of them.

**`neverWidened_iff`**: a listener sends a route only requests for hosts that it declares exactly if,
of each hostname the listener asks the filter about, the hostnames that are kept include all hosts or
do not meet it, and there are such hostnames.
-/

namespace Kubvernor

open Lib

/-! ## Routes and their hostnames -/

/-- A route as it is declared. -/
abbrev RouteObject := HTTPRoute ⊕ GRPCRoute

namespace RouteObject

def declaredHostnames (o : RouteObject) : Option (List String) :=
  o.elim (fun r => r.spec.hostnames) fun r => r.spec.hostnames

/-- The hostnames that are declared; none may be declared with an empty list, or without a list. -/
def hostnames (o : RouteObject) : List String := o.declaredHostnames.getD []

/-- The route as the controller has it. -/
def converted (isIpAddr : String → Bool) (o : RouteObject) : Route :=
  o.elim (Route.ofHTTPRoute isIpAddr) (Route.ofGRPCRoute isIpAddr)

/-- The hostnames that are not IP addresses. -/
def keptHostnames (isIpAddr : String → Bool) (o : RouteObject) : List String :=
  o.hostnames.filter fun hostname => !isIpAddr hostname

theorem hostnames_converted (isIpAddr : String → Bool) (o : RouteObject) :
    (o.converted isIpAddr).hostnames = Route.hostnamesOf isIpAddr o.declaredHostnames := by
  cases o with
  | inl r => rfl
  | inr r => rfl

/-- A route that declares hostnames has those that are kept. -/
theorem hostnames_converted_of_ne_nil {isIpAddr : String → Bool} {o : RouteObject} (ho : o.hostnames ≠ []) :
    (o.converted isIpAddr).hostnames = o.keptHostnames isIpAddr := by
  rw [hostnames_converted, keptHostnames]
  unfold hostnames at ho ⊢
  cases hdeclared : o.declaredHostnames with
  | none =>
    rw [hdeclared] at ho
    exact absurd rfl ho
  | some hostnames => rfl

end RouteObject

section Property

variable (domainPattern : String → Option (String → Bool))

/-- A route of the listener is the converted one, as the resolver has left it. -/
def Listener.HasVersion (l : Listener) (converted r : Route) : Prop :=
  r ∈ l.attached ∧ r.resourceKey = converted.resourceKey ∧ r.hostnames = converted.hostnames

/-- The filter admits the route to the listener, which is for the host. -/
def Listener.AdmitsFor (l : Listener) (converted : Route) (host : RequestHost) : Prop :=
  ∃ h ∈ l.hostname, HostnameMatchFilter.filter domainPattern ⟨h, converted.hostnames⟩ = true ∧
    (hostPattern (hostDomain h)).Covers host.letters

/-- The route has a rule in a virtual host of the listener that covers the host. -/
def Listener.ContributesFor (backend : XdsBackend) (l : Listener) (converted : Route) (host : RequestHost) : Prop :=
  ∃ h r, l.IsHttp ∧ l.ServesHost h ∧ l.HasVersion converted r ∧ l.Carries domainPattern h r ∧
    ∃ d ∈ (l.xdsVirtualHost domainPattern backend h).domains, (hostPattern d).Covers host.letters

/-- The listener matches a host with the route only if a hostname that is declared, and is not an IP
address, covers it, or none is declared; with IP addresses only, no host is matched. -/
structure Listener.NeverWidened (backend : XdsBackend) (isIpAddr : String → Bool) (l : Listener) (o : RouteObject) :
    Prop where
  covered : ∀ host, l.AdmitsFor domainPattern (o.converted isIpAddr) host ∨
      l.ContributesFor domainPattern backend (o.converted isIpAddr) host →
    o.hostnames = [] ∨ ∃ d ∈ o.hostnames, isIpAddr d = false ∧ (hostPattern d).Covers host.letters
  addressesOnly : o.hostnames ≠ [] → (∀ d ∈ o.hostnames, isIpAddr d = true) → ∀ host,
    ¬ l.AdmitsFor domainPattern (o.converted isIpAddr) host ∧
    ¬ l.ContributesFor domainPattern backend (o.converted isIpAddr) host

/-- The hostnames for which the listener has the filter look at the route: its own, and those of the
virtual hosts that the rules of the route might go to. -/
inductive Listener.AsksAbout (l : Listener) (converted : Route) : String → Prop
  | own {h : String} : l.hostname = some h → AsksAbout l converted h
  | virtualHost {h : String} {r : Route} : l.IsHttp → l.ServesHost h → l.HasVersion converted r → r.HasRule →
    AsksAbout l converted h

/-- As the domain matching library has it, a hostname of a listener matches one of a route, or is
matched by it if this is a wildcard. -/
def Meets (h d : String) : Prop :=
  ∃ isMatch ∈ domainPattern (listenerPattern h), isMatch d = true ∨
    ((stripPrefix "*." d).isSome ∧ ∃ isRouteMatch ∈ domainPattern d, isRouteMatch h = true)

end Property

/-! ## What the filter is asked about -/

variable {domainPattern : String → Option (String → Bool)} {backend : XdsBackend} {isIpAddr : String → Bool}
variable {l : Listener} {converted : Route} {host : RequestHost} {h : String}

/-- The route matches the hosts of the hostnames asked about for which the filter admits it. -/
theorem Listener.matches_iff : (l.AdmitsFor domainPattern converted host ∨
      l.ContributesFor domainPattern backend converted host) ↔
    ∃ h, l.AsksAbout converted h ∧ HostnameMatchFilter.filter domainPattern ⟨h, converted.hostnames⟩ = true ∧
      (hostPattern (hostDomain h)).Covers host.letters := by
  constructor
  · rintro (⟨h, hown, hfilter, hcovers⟩ | ⟨h, r, hhttp, hserves, hroute, hcarries, hcovers⟩)
    · exact ⟨h, .own hown, hfilter, hcovers⟩
    · obtain ⟨-, hrule, hfilter⟩ := Listener.carries_iff.1 hcarries
      rw [hroute.2.2] at hfilter
      exact ⟨h, .virtualHost hhttp hserves hroute hrule, hfilter, exists_covers_iff.1 hcovers⟩
  · rintro ⟨h, hasks, hfilter, hcovers⟩
    cases hasks with
    | own hown => exact .inl ⟨h, hown, hfilter, hcovers⟩
    | virtualHost hhttp hserves hroute hrule =>
      rw [← hroute.2.2] at hfilter
      exact .inr ⟨h, _, hhttp, hserves, hroute, Listener.carries_iff.2 ⟨hroute.1, hrule, hfilter⟩,
        exists_covers_iff.2 hcovers⟩

/-- Behind a first hostname that is not `*`, the filter looks for one that meets the listener's. -/
theorem filter_eq_true_iff {hostnames : List String} (hh : h ≠ "") (hstar : hostnames.head? ≠ some "*")
    (hne : hostnames ≠ []) : HostnameMatchFilter.filter domainPattern ⟨h, hostnames⟩ = true ↔
      ∃ d ∈ hostnames, Meets domainPattern h d := by
  cases hostnames with
  | nil => exact absurd rfl hne
  | cons first rest =>
    have hfirst : first ≠ DEFAULT_ROUTE_HOSTNAME := fun heq => hstar (congrArg some heq)
    rw [HostnameMatchFilter.filter_cons domainPattern hh, if_neg hfirst]
    unfold Meets
    cases domainPattern (listenerPattern h) with
    | none => simp
    | some isMatch =>
      simp only [Bool.if_true_left, Bool.or_eq_true, decide_eq_true_eq, List.any_eq_true, List.mem_filter,
        Option.mem_some_iff, exists_eq_left', and_or_left, exists_or, and_assoc]
      refine or_congr_right (exists_congr fun d => and_congr_right fun _ => and_congr_right fun _ => ?_)
      cases domainPattern d with
      | none => simp
      | some isRouteMatch => simp

theorem filter_nil_or_empty {hostnames : List String} (hempty : hostnames = [] ∨ h = "") :
    HostnameMatchFilter.filter domainPattern ⟨h, hostnames⟩ = true := by
  rcases hempty with rfl | rfl
  · rfl
  · cases hostnames with
    | nil => rfl
    | cons d hostnames => rfl

/-! ## The property -/

namespace RouteObject

variable {o : RouteObject}

theorem mem_keptHostnames {d : String} :
    d ∈ o.keptHostnames isIpAddr ↔ d ∈ o.hostnames ∧ isIpAddr d = false := by
  rw [keptHostnames, List.mem_filter, Bool.not_eq_true']

/-- No hostname that is kept meets the one asked about, and there are such hostnames. -/
structure Misses (domainPattern : String → Option (String → Bool)) (isIpAddr : String → Bool) (o : RouteObject)
    (h : String) : Prop where
  named : h ≠ ""
  kept : o.keptHostnames isIpAddr ≠ []
  apart : ∀ d ∈ o.keptHostnames isIpAddr, ¬ Meets domainPattern h d

/-- What the filter says of the hostnames that are kept. -/
theorem not_misses_of_filter (hstar : (o.keptHostnames isIpAddr).head? ≠ some "*")
    (hfilter : HostnameMatchFilter.filter domainPattern ⟨h, o.keptHostnames isIpAddr⟩ = true) :
    ¬ o.Misses domainPattern isIpAddr h := by
  rintro ⟨hnamed, hkept, hapart⟩
  obtain ⟨d, hd, hmeets⟩ := (filter_eq_true_iff hnamed hstar hkept).1 hfilter
  exact hapart d hd hmeets

theorem misses_of_not_filter
    (hfilter : HostnameMatchFilter.filter domainPattern ⟨h, o.keptHostnames isIpAddr⟩ ≠ true) :
    o.Misses domainPattern isIpAddr h := by
  have hnamed : h ≠ "" := fun heq => hfilter (filter_nil_or_empty (.inr heq))
  have hkept : o.keptHostnames isIpAddr ≠ [] := fun heq => hfilter (filter_nil_or_empty (.inl heq))
  refine ⟨hnamed, hkept, fun d hd hmeets => hfilter ?_⟩
  by_cases hstar : (o.keptHostnames isIpAddr).head? = some "*"
  · obtain ⟨rest, hrest⟩ := List.head?_eq_some_iff.1 hstar
    rw [hrest, HostnameMatchFilter.filter_cons domainPattern hnamed]
    exact if_pos rfl
  · exact (filter_eq_true_iff hnamed hstar hkept).2 ⟨d, hd, hmeets⟩

end RouteObject

/-- **A listener sends a route no request for a host that it does not declare exactly if** the route
declares no hostnames, or of every hostname the listener asks about, and that some host has, the
hostnames of the route other than IP addresses include all hosts, or there are some and none meets
it. -/
theorem neverWidened_iff (domainPattern : String → Option (String → Bool)) (backend : XdsBackend)
    (isIpAddr : String → Bool) (l : Listener) (o : RouteObject) :
    l.NeverWidened domainPattern backend isIpAddr o ↔
      o.hostnames = [] ∨ ∀ h, l.AsksAbout (o.converted isIpAddr) h → '*' ∉ (hostPattern (hostDomain h)).letters →
        (∃ d ∈ o.hostnames, isIpAddr d = false ∧ (hostPattern d).Includes (hostPattern (hostDomain h))) ∨
        o.Misses domainPattern isIpAddr h := by
  by_cases ho : o.hostnames = []
  · exact iff_of_true ⟨fun _ _ => .inl ho, fun hne => absurd ho hne⟩ (.inl ho)
  · rw [or_iff_right ho]
    constructor
    · rintro ⟨hcovered, -⟩ h hasks hstar
      refine or_iff_not_imp_right.2 fun hmisses => ?_
      have hfilter : HostnameMatchFilter.filter domainPattern ⟨h, o.keptHostnames isIpAddr⟩ = true := by
        by_contra hrefused
        exact hmisses (RouteObject.misses_of_not_filter hrefused)
      rw [← RouteObject.hostnames_converted_of_ne_nil ho] at hfilter
      -- a host of the hostname asked about that only patterns including it cover
      obtain ⟨host, hfresh, hincludes⟩ := exists_fresh_host (separated_of_mem_map (l := o.hostnames)) hstar
      obtain ⟨d, hd, hip, hcovers⟩ := (hcovered host
        (Listener.matches_iff.2 ⟨h, hasks, hfilter, hfresh⟩)).resolve_left ho
      exact ⟨d, hd, hip, hincludes _ (List.mem_map_of_mem hd) hcovers⟩
    · intro hcondition
      have hcovered : ∀ host, l.AdmitsFor domainPattern (o.converted isIpAddr) host ∨
          l.ContributesFor domainPattern backend (o.converted isIpAddr) host →
          ∃ d ∈ o.hostnames, isIpAddr d = false ∧ (hostPattern d).Covers host.letters := by
        intro host hmatches
        obtain ⟨h, hasks, hfilter, hcovers⟩ := Listener.matches_iff.1 hmatches
        rw [RouteObject.hostnames_converted_of_ne_nil ho] at hfilter
        rcases hcondition h hasks fun hstar => host.no_star (HostPattern.letters_subset hcovers hstar) with
          ⟨d, hd, hip, hincludes⟩ | hmisses
        · exact ⟨d, hd, hip, HostPattern.covers_of_includes hincludes hcovers⟩
        · -- the filter admits the route nevertheless, for a `*` in front
          by_cases hstar : (o.keptHostnames isIpAddr).head? = some "*"
          · obtain ⟨hd, hip⟩ := RouteObject.mem_keptHostnames.1 (List.mem_of_mem_head? hstar)
            exact ⟨"*", hd, hip, trivial⟩
          · exact absurd hmisses (RouteObject.not_misses_of_filter hstar hfilter)
      refine ⟨fun host hmatches => .inr (hcovered host hmatches), fun _ haddresses host => ?_⟩
      rw [← not_or]
      intro hmatches
      obtain ⟨d, hd, hip, -⟩ := hcovered host hmatches
      rw [haddresses d hd] at hip
      exact Bool.noConfusion hip

/-- A route that declares an IP address only. -/
def addressRoute : HTTPRoute where
  metadata := { name := some "shop", ns := some "default" }
  spec := { hostnames := some ["10.0.0.1"], rules := some [{}] }

/-- Of the strings below, the one that parses as an IP address. -/
def isShopAddress (hostname : String) : Bool := hostname == "10.0.0.1"

/-- A listener without hostname, with the route. -/
def addressListener : Listener where
  protocol := .http
  data :=
    { config := { name := "plain", port := 80 }
      resolvedRoutes := .ofRoutes [{ Route.ofHTTPRoute isShopAddress addressRoute with resolutionStatus := .resolved }] }

/-- A route for an address gets the requests for every host. -/
theorem addressRoute_widened :
    ¬ addressListener.NeverWidened labelsPattern .envoy isShopAddress (.inl addressRoute) := by
  rintro ⟨-, haddresses⟩
  let host : RequestHost := { letters := "shop.com".toList, no_star := by decide }
  refine (haddresses (by decide) (by decide) host).2 ⟨"*", _, .inl rfl, .any rfl ?_, ⟨List.mem_cons_self, rfl, rfl⟩, ?_, ?_⟩
  · intro r hr
    obtain rfl := List.mem_singleton.1 hr
    rfl
  · exact Listener.carries_iff.2 ⟨List.mem_cons_self, List.cons_ne_nil _ _, rfl⟩
  · exact ⟨"*", by decide, trivial⟩

end Kubvernor
