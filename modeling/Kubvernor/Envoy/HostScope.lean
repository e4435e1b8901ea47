import Kubvernor.Envoy.Domains
import Kubvernor.Lib.HostPattern

/-!
# Who answers a host

Envoy picks the virtual host with the most specific domain that covers the host of a request, and
what it finds there are the rules of all routes the listener's filter admitted under that hostname.
For a wildcard hostname these are routes of several hosts, and each answers for the others' hosts:
a listener without hostname gets a virtual host for each hostname of its routes, one with a wildcard
hostname gets a single one.

A virtual host is picked for hosts of its own that no other domain of the port covers
(`Gateway.picks_iff`, with a fresh host of its pattern), so its routes must list all of them.

**`requestsScoped_iff`**: no request is answered by a route that does not list its host exactly if
every route in a virtual host lists a hostname that includes the virtual host's domain, or none.
-/

namespace Kubvernor

open Lib

/-! ## Hosts and hostnames -/

/-- What a domain of Envoy, or the hostname of a route, covers. -/
def hostPattern (s : String) : HostPattern Char :=
  if s = "*" then .any
  else
    match stripPrefix "*." s with
    | some stripped => .below ('.' :: stripped.toList)
    | none => .exact s.toList

/-- A host a request can be for: there is no star in it. -/
structure RequestHost where
  letters : List Char
  no_star : '*' ∉ letters

/-- The route lists the host, by a hostname or by having none. -/
def Route.Lists (r : Route) (host : RequestHost) : Prop :=
  r.hostnames = [] ∨ ∃ hostname ∈ r.hostnames, (hostPattern hostname).Covers host.letters

/-- The patterns of the hosts a route lists. -/
def Route.patterns (r : Route) : List (HostPattern Char) :=
  if r.hostnames = [] then [.any] else r.hostnames.map hostPattern

def Route.HasRule (r : Route) : Prop :=
  match r.routeType with
  | .http rules => rules ≠ []
  | .grpc rules => rules ≠ []

/-- The virtual host of a hostname as Envoy gets it. -/
def Listener.xdsVirtualHost (domainPattern : String → Option (String → Bool)) (backend : XdsBackend) (l : Listener)
    (h : String) : VirtualHost :=
  let vh := l.virtualHost domainPattern backend.calculateEffectiveHostnames h
  { name := vh.name, domains := vh.effectiveHostnames, routes := vh.httpRoutes ++ vh.grpcRoutes }

/-- Of the virtual hosts, the one with the most specific domain that covers the host. -/
def RouteConfiguration.Picks (config : RouteConfiguration) (host : RequestHost) (vh : VirtualHost) : Prop :=
  vh ∈ config.virtualHosts ∧ ∃ d ∈ vh.domains, (hostPattern d).Covers host.letters ∧
    ∀ vh' ∈ config.virtualHosts, ∀ d' ∈ vh'.domains, (hostPattern d').Covers host.letters →
      (hostPattern d').weight ≤ (hostPattern d).weight

section Property

variable (domainPattern : String → Option (String → Bool))

/-- A rule of the route is among those the virtual host of a hostname is made of. -/
inductive Listener.Carries (l : Listener) (h : String) (r : Route) : Prop
  | http {rules : List HTTPRoutingRule} {rule : HTTPRoutingRule} {matcher : RouteMatch} :
    r ∈ l.attached → r.routeType = .http rules → rule ∈ rules → matcher ∈ rule.matchers →
    l.httpEffectiveRule r.hostnames rule matcher ∈ l.httpRulesFor domainPattern h → Carries l h r
  | grpc {rules : List GRPCRoutingRule} {rule : GRPCRoutingRule} {matcher : GrpcRouteMatch} :
    r ∈ l.attached → r.routeType = .grpc rules → rule ∈ rules → matcher ∈ rule.matchers →
    rule.effectiveRule r.hostnames matcher ∈ l.grpcRulesFor domainPattern h → Carries l h r

/-- Envoy picks the virtual host for the host, on the port. -/
def Gateway.Picks (backend : XdsBackend) (gw : Gateway) (port : Int) (host : RequestHost) (vh : VirtualHost) : Prop :=
  ∃ el, (gw.generator domainPattern backend.implementationType backend.calculateEffectiveHostnames).resources[port]? =
    some el ∧ (XdsBackend.routeConfig el).Picks host vh

/-- Every route with a rule in the virtual host that is picked lists the host. -/
def Gateway.RequestsScoped (backend : XdsBackend) (gw : Gateway) : Prop :=
  ∀ port host vh, gw.Picks domainPattern backend port host vh →
    ∀ l h, gw.Publishes l h → l.port = port → l.virtualHostName h = vh.name →
      ∀ r, l.Carries domainPattern h r → r.Lists host

end Property

/-! ## Patterns of hostnames -/

section Patterns

variable {domainPattern : String → Option (String → Bool)} {host : RequestHost} {h : String} {r : Route}

theorem hostPattern_separated (s : String) : (hostPattern s).Separated '.' := by
  unfold hostPattern
  split
  · trivial
  · split
    · exact ⟨_, rfl⟩
    · trivial

theorem Route.lists_iff : r.Lists host ↔ ∃ p ∈ r.patterns, p.Covers host.letters := by
  unfold Lists patterns
  by_cases hr : r.hostnames = []
  · rw [if_pos hr]
    exact ⟨fun _ => ⟨.any, List.mem_singleton_self _, trivial⟩, fun _ => .inl hr⟩
  · rw [if_neg hr]
    simp only [List.mem_map, exists_exists_and_eq_and]
    exact ⟨fun h => h.resolve_left hr, .inr⟩

theorem separated_of_mem_map {α : Type} {l : List α} {f : α → String} :
    ∀ p ∈ l.map fun x => hostPattern (f x), p.Separated '.' := by
  intro p hp
  obtain ⟨x, -, rfl⟩ := List.mem_map.1 hp
  exact hostPattern_separated (f x)

theorem Route.separated_of_mem_patterns {p : HostPattern Char} (hp : p ∈ r.patterns) : p.Separated '.' := by
  unfold patterns at hp
  split at hp
  · rw [List.mem_singleton.1 hp]
    trivial
  · obtain ⟨hostname, -, rfl⟩ := List.mem_map.1 hp
    exact hostPattern_separated hostname

/-- No host is written like a hostname with the wildcard port. -/
theorem star_mem_letters_port (h : String) : '*' ∈ (hostPattern (h ++ ":*")).letters := by
  have hlast : (h ++ ":*").toList.getLast? = some '*' := by
    rw [String.toList_append]
    show (h.toList ++ [':', '*']).getLast? = some '*'
    rw [List.getLast?_append]
    rfl
  unfold hostPattern
  rw [if_neg (append_port_ne h).2.1]
  cases hstripped : stripPrefix "*." (h ++ ":*") with
  | none => exact List.mem_of_getLast? hlast
  | some stripped =>
    rw [stripPrefix_eq_some.1 hstripped, String.toList_append] at hlast
    have hstar : ('.' :: stripped.toList).getLast? = some '*' := by
      rwa [show "*.".toList = ['*', '.'] from rfl, List.cons_append, List.cons_append, List.nil_append,
        List.getLast?_cons_cons] at hlast
    exact List.mem_of_getLast? hstar

theorem not_covers_port (host : RequestHost) (h : String) : ¬ (hostPattern (h ++ ":*")).Covers host.letters :=
  fun hcovers => host.no_star (HostPattern.letters_subset hcovers (star_mem_letters_port h))

/-- The domains of a virtual host cover what the one of its hostname does. -/
theorem exists_domain_covers_iff (backend : XdsBackend) (routes : List Route) {p : HostPattern Char → Prop} :
    (∃ d ∈ calculateHostnamesCommon routes (some h) backend.calculateEffectiveHostnames,
      (hostPattern d).Covers host.letters ∧ p (hostPattern d)) ↔
    (hostPattern (hostDomain h)).Covers host.letters ∧ p (hostPattern (hostDomain h)) := by
  have hhead : (calculateHostnamesCommon routes (some h) backend.calculateEffectiveHostnames).head? =
      some (hostDomain h) := head?_effectiveHostnames routes h
  refine ⟨?_, fun hcovers => ⟨hostDomain h, List.mem_of_head? hhead, hcovers⟩⟩
  rintro ⟨d, hd, hcovers, hp⟩
  cases backend with
  | envoy =>
    rcases mem_envoyHostnames.1 hd with rfl | ⟨-, rfl⟩
    · exact ⟨hcovers, hp⟩
    · exact absurd hcovers (not_covers_port host h)
  | orion =>
    rw [effectiveHostnames_eq] at hd
    have hdomain : d = hostDomain h := by
      split at hd
      · rename_i hs
        rw [List.mem_singleton.1 hd, hs]
      · rename_i hs
        have he : hostDomain h = h := by
          refine if_neg ?_
          rintro rfl
          exact hs rfl
        rw [List.mem_singleton.1 hd, he]
    rw [← hdomain]
    exact ⟨hcovers, hp⟩

/-- A virtual host covers what its hostname does. -/
theorem exists_covers_iff {l : Listener} {backend : XdsBackend} :
    (∃ d ∈ (l.xdsVirtualHost domainPattern backend h).domains, (hostPattern d).Covers host.letters) ↔
      (hostPattern (hostDomain h)).Covers host.letters := by
  have hcovers : (∃ d ∈ (l.xdsVirtualHost domainPattern backend h).domains,
      (hostPattern d).Covers host.letters ∧ True) ↔ (hostPattern (hostDomain h)).Covers host.letters ∧ True :=
    exists_domain_covers_iff backend l.routes.1 (p := fun _ => True)
  simpa only [and_true] using hcovers

/-- Some host of a pattern is covered by no pattern of a list but those that include it. -/
theorem exists_fresh_host {ps : List (HostPattern Char)} (hps : ∀ p ∈ ps, p.Separated '.') {q : HostPattern Char}
    (hstar : '*' ∉ q.letters) :
    ∃ host : RequestHost, q.Covers host.letters ∧ ∀ p ∈ ps, p.Covers host.letters → p.Includes q := by
  obtain ⟨n, hpos, hlonger⟩ := HostPattern.exists_longer ps
  have hletters : '*' ∉ q.fresh 'a' n := fun hmem => (HostPattern.mem_fresh hmem).elim (by decide) hstar
  refine ⟨⟨q.fresh 'a' n, hletters⟩, HostPattern.covers_fresh hpos, fun p hp hcovers => ?_⟩
  exact HostPattern.includes_of_covers_fresh (by decide) (hps p hp) (hlonger p hp) hcovers

theorem Route.hasRule_of_http {rules : List HTTPRoutingRule} {rule : HTTPRoutingRule} (htype : r.routeType = .http rules)
    (hrule : rule ∈ rules) : r.HasRule := by
  rw [HasRule, htype]
  exact List.ne_nil_of_mem hrule

theorem Route.hasRule_of_grpc {rules : List GRPCRoutingRule} {rule : GRPCRoutingRule} (htype : r.routeType = .grpc rules)
    (hrule : rule ∈ rules) : r.HasRule := by
  rw [HasRule, htype]
  exact List.ne_nil_of_mem hrule

/-- A route with a rule has one with a match. -/
theorem Route.HasRule.exists_matcher (hrule : r.HasRule) :
    (∃ rules, r.routeType = .http rules ∧ ∃ rule ∈ rules, ∃ matcher, matcher ∈ rule.matchers) ∨
      ∃ rules, r.routeType = .grpc rules ∧ ∃ rule ∈ rules, ∃ matcher, matcher ∈ rule.matchers := by
  unfold HasRule at hrule
  cases htype : r.routeType with
  | http rules =>
    rw [htype] at hrule
    obtain ⟨rule, hmem⟩ := List.exists_mem_of_ne_nil _ hrule
    exact .inl ⟨rules, rfl, rule, hmem, List.exists_mem_of_ne_nil _ rule.matchers_ne_nil⟩
  | grpc rules =>
    rw [htype] at hrule
    obtain ⟨rule, hmem⟩ := List.exists_mem_of_ne_nil _ hrule
    exact .inr ⟨rules, rfl, rule, hmem, List.exists_mem_of_ne_nil _ rule.matchers_ne_nil⟩

/-- The routes in a virtual host are those with a rule that the filter admits. -/
theorem Listener.carries_iff {l : Listener} : l.Carries domainPattern h r ↔
    r ∈ l.attached ∧ r.HasRule ∧ HostnameMatchFilter.filter domainPattern ⟨h, r.hostnames⟩ = true := by
  constructor
  · intro hcarries
    cases hcarries with
    | http hr htype hrule _ hem => exact ⟨hr, Route.hasRule_of_http htype hrule, (List.mem_filter.1 hem).2⟩
    | grpc hr htype hrule _ hem => exact ⟨hr, Route.hasRule_of_grpc htype hrule, (List.mem_filter.1 hem).2⟩
  · rintro ⟨hr, hrule, hfilter⟩
    rcases hrule.exists_matcher with ⟨rules, htype, rule, hmem, matcher, hmatcher⟩ |
      ⟨rules, htype, rule, hmem, matcher, hmatcher⟩
    · exact .http hr htype hmem hmatcher (mem_httpRulesFor.2 ⟨r, hr, hfilter, rules, htype, rule, hmem, matcher, hmatcher, rfl⟩)
    · exact .grpc hr htype hmem hmatcher (mem_grpcRulesFor.2 ⟨r, hr, hfilter, rules, htype, rule, hmem, matcher, hmatcher, rfl⟩)

end Patterns

/-! ## Which virtual host is picked -/

section Picked

variable {domainPattern : String → Option (String → Bool)} {backend : XdsBackend} {gw : Gateway} {l : Listener}
variable {h : String} {host : RequestHost} {port : Int} {vh : VirtualHost}

/-- The virtual hosts of a port. -/
theorem mem_virtualHosts_iff : (∃ el, (gw.generator domainPattern backend.implementationType
      backend.calculateEffectiveHostnames).resources[port]? = some el ∧ vh ∈ (XdsBackend.routeConfig el).virtualHosts) ↔
    ∃ l h, gw.Publishes l h ∧ l.port = port ∧ vh = l.xdsVirtualHost domainPattern backend h := by
  have hon {key : String} {evh : EnvoyVirtualHost} :
      (∃ el, (gw.generator domainPattern backend.implementationType backend.calculateEffectiveHostnames).resources[port]? =
        some el ∧ el.httpListenerMap[key]? = some evh) ↔
      ∃ l h, gw.Publishes l h ∧ l.port = port ∧ l.virtualHostName h = key ∧
        evh = l.virtualHost domainPattern backend.calculateEffectiveHostnames h :=
    exists_listenerMap_iff backend.implementationType backend.calculateEffectiveHostnames
  simp only [XdsBackend.routeConfig, generateVirtualHostsFromXds, List.map_map, List.mem_map, Function.comp_apply]
  constructor
  · rintro ⟨el, hel, ⟨key, evh⟩, hmem, rfl⟩
    obtain ⟨l, h, hpub, hport, -, rfl⟩ := hon.1 ⟨el, hel, Std.ExtTreeMap.mem_toList_iff_getElem?_eq_some.1 hmem⟩
    exact ⟨l, h, hpub, hport, rfl⟩
  · rintro ⟨l, h, hpub, hport, rfl⟩
    obtain ⟨el, hel, hvh⟩ := hon.2 ⟨l, h, hpub, hport, rfl, rfl⟩
    exact ⟨el, hel, _, Std.ExtTreeMap.mem_toList_iff_getElem?_eq_some.2 hvh, rfl⟩

/-- Of two published virtual hosts of one name there is only one. -/
theorem Gateway.Publishes.xdsVirtualHost_eq {l' : Listener} {h' : String} (hpub : gw.Publishes l h)
    (hpub' : gw.Publishes l' h') (hport : l.port = l'.port) (hname : l.virtualHostName h = l'.virtualHostName h') :
    l.xdsVirtualHost domainPattern backend h = l'.xdsVirtualHost domainPattern backend h' := by
  have hfirst : (gw.generator domainPattern backend.implementationType
      backend.calculateEffectiveHostnames).virtualHost? l.port (l.virtualHostName h) =
        some (l.virtualHost domainPattern backend.calculateEffectiveHostnames h) :=
    virtualHost?_eq_some_iff.2 ⟨l, h, hpub, rfl, rfl, rfl⟩
  have hsecond : (gw.generator domainPattern backend.implementationType
      backend.calculateEffectiveHostnames).virtualHost? l.port (l.virtualHostName h) =
        some (l'.virtualHost domainPattern backend.calculateEffectiveHostnames h') :=
    virtualHost?_eq_some_iff.2 ⟨l', h', hpub', hport.symm, hname.symm, rfl⟩
  rw [hfirst] at hsecond
  unfold Listener.xdsVirtualHost
  rw [Option.some.inj hsecond]

/-- **Envoy picks the virtual host whose hostname covers the host and is the most specific to do so.** -/
theorem Gateway.picks_iff : gw.Picks domainPattern backend port host vh ↔
    ∃ l h, gw.Publishes l h ∧ l.port = port ∧ vh = l.xdsVirtualHost domainPattern backend h ∧
      (hostPattern (hostDomain h)).Covers host.letters ∧
      ∀ l' h', gw.Publishes l' h' → l'.port = port → (hostPattern (hostDomain h')).Covers host.letters →
        (hostPattern (hostDomain h')).weight ≤ (hostPattern (hostDomain h)).weight := by
  have hcovers (l : Listener) (h : String) {p : HostPattern Char → Prop} :
      (∃ d ∈ (l.xdsVirtualHost domainPattern backend h).domains, (hostPattern d).Covers host.letters ∧ p (hostPattern d)) ↔
        (hostPattern (hostDomain h)).Covers host.letters ∧ p (hostPattern (hostDomain h)) :=
    exists_domain_covers_iff backend l.routes.1
  -- the most specific domain is so among all domains of the port exactly if it is among the hostnames
  have hmost {el : EnvoyListener} (hel : (gw.generator domainPattern backend.implementationType
      backend.calculateEffectiveHostnames).resources[port]? = some el) (weight : WithTop Nat) :
      (∀ vh' ∈ (XdsBackend.routeConfig el).virtualHosts, ∀ d' ∈ vh'.domains, (hostPattern d').Covers host.letters →
        (hostPattern d').weight ≤ weight) ↔
      ∀ l' h', gw.Publishes l' h' → l'.port = port → (hostPattern (hostDomain h')).Covers host.letters →
        (hostPattern (hostDomain h')).weight ≤ weight := by
    constructor
    · intro hall l' h' hpub hport hh'
      obtain ⟨el', hel', hvh⟩ := mem_virtualHosts_iff.2 ⟨l', h', hpub, hport, rfl⟩
      rw [hel] at hel'
      obtain rfl := Option.some.inj hel'
      obtain ⟨d, hd, hcov, heq⟩ := (hcovers l' h' (p := fun q => q = hostPattern (hostDomain h'))).2 ⟨hh', rfl⟩
      rw [← heq]
      exact hall _ hvh d hd hcov
    · intro hall vh' hvh' d hd hcov
      obtain ⟨l', h', hpub, hport, rfl⟩ := mem_virtualHosts_iff.1 ⟨el, hel, hvh'⟩
      obtain ⟨hh', heq⟩ := (hcovers l' h' (p := fun q => q = hostPattern d)).1 ⟨d, hd, hcov, rfl⟩
      rw [← heq]
      exact hall l' h' hpub hport hh'
  constructor
  · rintro ⟨el, hel, hvh, hpicked⟩
    obtain ⟨l, h, hpub, hport, rfl⟩ := mem_virtualHosts_iff.1 ⟨el, hel, hvh⟩
    obtain ⟨d, hd, hcov, hall⟩ := hpicked
    refine ⟨l, h, hpub, hport, rfl, ?_⟩
    rw [← hmost hel]
    exact (hcovers l h (p := fun q => ∀ vh' ∈ (XdsBackend.routeConfig el).virtualHosts, ∀ d' ∈ vh'.domains,
      (hostPattern d').Covers host.letters → (hostPattern d').weight ≤ q.weight)).1 ⟨d, hd, hcov, hall⟩
  · rintro ⟨l, h, hpub, hport, rfl, hcov, hall⟩
    obtain ⟨el, hel, hvh⟩ := mem_virtualHosts_iff.2 ⟨l, h, hpub, hport, rfl⟩
    rw [← hmost hel] at hall
    refine ⟨el, hel, hvh, ?_⟩
    exact (hcovers l h (p := fun q => ∀ vh' ∈ (XdsBackend.routeConfig el).virtualHosts, ∀ d' ∈ vh'.domains,
      (hostPattern d').Covers host.letters → (hostPattern d').weight ≤ q.weight)).2 ⟨hcov, hall⟩

end Picked

/-! ## The property holds exactly if the routes of a virtual host list its domain -/

section Scoped

variable {domainPattern : String → Option (String → Bool)} {backend : XdsBackend} {gw : Gateway} {l : Listener}
variable {h : String}

/-- **No request is answered by a route that does not list its host, exactly if** every route that
the filter admits to a virtual host lists no hostname or one that includes the virtual host's. -/
theorem requestsScoped_iff (domainPattern : String → Option (String → Bool)) (backend : XdsBackend) (gw : Gateway) :
    gw.RequestsScoped domainPattern backend ↔
      ∀ l h, gw.Publishes l h → '*' ∉ (hostPattern (hostDomain h)).letters → ∀ r ∈ l.attached, r.HasRule →
        HostnameMatchFilter.filter domainPattern ⟨h, r.hostnames⟩ = true →
          ∃ p ∈ r.patterns, p.Includes (hostPattern (hostDomain h)) := by
  constructor
  · intro hscoped l h hpub hstar r hr hrule hfilter
    have hseparated : ∀ p ∈ r.patterns ++ gw.listenerValues.flatMap fun l' =>
        l'.potentialHostnames.map fun h' => hostPattern (hostDomain h'), p.Separated '.' := by
      intro p hp
      rcases List.mem_append.1 hp with hp | hp
      · exact Route.separated_of_mem_patterns hp
      · obtain ⟨l', -, hp⟩ := List.mem_flatMap.1 hp
        exact separated_of_mem_map p hp
    -- a host of this virtual host alone
    obtain ⟨host, hcovers, hincludes⟩ := exists_fresh_host hseparated hstar
    have hpicked : gw.Picks domainPattern backend l.port host (l.xdsVirtualHost domainPattern backend h) := by
      refine Gateway.picks_iff.2 ⟨l, h, hpub, rfl, rfl, hcovers, ?_⟩
      intro l' h' hpub' _ hcovers'
      refine HostPattern.weight_le_of_includes (hincludes _ ?_ hcovers')
      obtain ⟨later, hsuffix, -, hserves, -⟩ := hpub'
      refine List.mem_append_right _ (List.mem_flatMap.2 ⟨l', hsuffix.subset List.mem_cons_self, ?_⟩)
      exact List.mem_map_of_mem (Listener.mem_potentialHostnames.2 hserves)
    obtain ⟨p, hp, hlists⟩ := Route.lists_iff.1
      (hscoped _ host _ hpicked l h hpub rfl rfl r (Listener.carries_iff.2 ⟨hr, hrule, hfilter⟩))
    exact ⟨p, hp, hincludes p (List.mem_append_left _ hp) hlists⟩
  · intro hlisted port host vh hpicked l h hpub hport hname r hcarries
    obtain ⟨l', h', hpub', hport', rfl, hcovers, -⟩ := Gateway.picks_iff.1 hpicked
    obtain ⟨hr, hrule, hfilter⟩ := Listener.carries_iff.1 hcarries
    -- the virtual host that is picked is the one of `h`
    have hsame : l.xdsVirtualHost domainPattern backend h = l'.xdsVirtualHost domainPattern backend h' :=
      hpub.xdsVirtualHost_eq hpub' (hport.trans hport'.symm) hname
    have hdomain : hostDomain h = hostDomain h' := by
      have hhead : (l.xdsVirtualHost domainPattern backend h).domains.head? = some (hostDomain h) :=
        head?_effectiveHostnames l.routes.1 h
      have hhead' : (l'.xdsVirtualHost domainPattern backend h').domains.head? = some (hostDomain h') :=
        head?_effectiveHostnames l'.routes.1 h'
      rw [hsame, hhead'] at hhead
      exact (Option.some.inj hhead).symm
    rw [← hdomain] at hcovers
    obtain ⟨p, hp, hincludes⟩ := hlisted l h hpub
      (fun hstar => host.no_star (HostPattern.letters_subset hcovers hstar)) r hr hrule hfilter
    exact Route.lists_iff.2 ⟨p, hp, HostPattern.covers_of_includes hincludes hcovers⟩

end Scoped

/-! ## Two routes of a wildcard listener -/

/-- A route of one host. -/
def hostRoute (name hostname : String) : Route where
  resourceKey := { name := name, kind := "HTTPRoute" }
  hostnames := [hostname]
  resolutionStatus := .resolved
  routeType := .http [{ name := name ++ "-0" }]

def wildListener : Listener where
  protocol := .http
  data :=
    { config := { name := "wild", port := 80, hostname := some "*.a.com" }
      resolvedRoutes := .ofRoutes [hostRoute "x" "x.a.com", hostRoute "y" "y.a.com"] }

def wildGateway : Gateway where
  id := 1
  resourceKey := { name := "gw" }
  listeners := .ofList [("wild", wildListener)]

/-- Patterns of one or more labels before a suffix, and of one host. -/
def labelsPattern (pattern : String) : Option (String → Bool) :=
  match stripPrefix "**+" pattern with
  | some suffix => some fun host => suffix.toList.isSuffixOf host.toList && decide (host ≠ suffix)
  | none => some (· = pattern)

/-- The route of `y.a.com` answers for `x.a.com`. -/
theorem wildGateway_not_scoped : ¬ wildGateway.RequestsScoped labelsPattern .envoy := by
  intro hscoped
  let host : RequestHost := { letters := "x.a.com".toList, no_star := by decide }
  have hvalues : wildGateway.listenerValues = [wildListener] := rfl
  have hhostnames : wildListener.potentialHostnames = ["*.a.com"] := rfl
  have hserves {h : String} : wildListener.ServesHost h ↔ h = "*.a.com" := by
    rw [← Listener.mem_potentialHostnames, hhostnames, List.mem_singleton]
  have hpub : wildGateway.Publishes wildListener "*.a.com" :=
    ⟨[], List.suffix_refl _, .inl rfl, hserves.2 rfl, fun l' hl' => (by cases hl')⟩
  have honly {l' : Listener} {h' : String} (hpub' : wildGateway.Publishes l' h') : h' = "*.a.com" := by
    obtain ⟨later, hsuffix, -, hserved, -⟩ := hpub'
    have hmem := hsuffix.subset List.mem_cons_self
    rw [hvalues, List.mem_singleton] at hmem
    subst hmem
    exact hserves.1 hserved
  have hpicked : wildGateway.Picks labelsPattern .envoy 80 host
      (wildListener.xdsVirtualHost labelsPattern .envoy "*.a.com") := by
    refine Gateway.picks_iff.2 ⟨wildListener, "*.a.com", hpub, rfl, rfl, by decide, ?_⟩
    intro l' h' hpub' _ _
    rw [honly hpub']
  have hcarries : wildListener.Carries labelsPattern "*.a.com" (hostRoute "y" "y.a.com") :=
    Listener.carries_iff.2 ⟨by decide, List.cons_ne_nil _ _, by decide⟩
  rcases hscoped 80 host _ hpicked wildListener "*.a.com" hpub rfl rfl _ hcarries with hnone | ⟨hostname, hmem, hcovers⟩
  · cases hnone
  · rw [List.mem_singleton.1 hmem] at hcovers
    exact absurd hcovers (by decide)

end Kubvernor
