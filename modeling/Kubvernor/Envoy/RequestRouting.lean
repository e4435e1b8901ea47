import Kubvernor.Envoy.GrpcMatchTranslation
import Kubvernor.Envoy.HostScope
import Kubvernor.Envoy.RulePrecedence
import Kubvernor.Lib.FirstMatch

/-!
# Which rule serves a request

Envoy looks for the virtual host with the most specific domain that covers the host of a request, and there for
the first route that accepts the request. The virtual hosts are made for the hostnames of the listeners, and their
routes are made of sorted rules. So a request is served by the best of the rules that the most specific hostname
admits and whose matches accept the request, an HTTP rule before any GRPC rule, and is refused if there is none
(`Gateway.routesTo_iff`, and `Gateway.grpcRoutesTo_iff` for the requests of GRPC clients). What is best says
`compare_matching`, and among rules that tie the order of the routes, of their rules and of the matches.
-/

namespace Kubvernor

open Lib

section Property

variable (domainPattern : String → Option (String → Bool)) (regexMatch : String → String → Bool)
  (backend : XdsBackend) (gw : Gateway) (port : Int) (host : RequestHost)

/-- Envoy sends the request to the route: of the virtual host it picks, it is the first that accepts it. -/
def Gateway.RoutesTo (request : Request) (er : EnvoyRoute) : Prop :=
  ∃ vh, gw.Picks domainPattern backend port host vh ∧
    First (fun er => er.routeMatch.Accepts regexMatch request) vh.routes er

/-- A listener serves the hostname on the port, and of the hostnames that cover the host it is the most specific. -/
structure Gateway.AnswersFor (l : Listener) (h : String) : Prop where
  publishes : gw.Publishes l h
  onPort : l.port = port
  covers : (hostPattern (hostDomain h)).Covers host.letters
  mostSpecific : ∀ l' h', gw.Publishes l' h' → l'.port = port → (hostPattern (hostDomain h')).Covers host.letters →
    (hostPattern (hostDomain h')).weight ≤ (hostPattern (hostDomain h)).weight

/-- Of the HTTP rules that a hostname of a listener admits and whose matches accept the request, the best. -/
def Listener.BestHttpRule (l : Listener) (h : String) (accepts : RouteMatch → Prop) : HTTPEffectiveRoutingRule → Prop :=
  Best (fun this other => HTTPEffectiveRoutingRule.compareMatching this.routeMatcher other.routeMatcher)
    (fun em => HostnameMatchFilter.filter domainPattern ⟨h, em.hostnames⟩ = true ∧ accepts em.routeMatcher)
    l.httpEffectiveRules

/-- Of the GRPC rules that a hostname of a listener admits and whose matches accept the request, the best. -/
def Listener.BestGrpcRule (l : Listener) (h : String) (accepts : GRPCEffectiveRoutingRule → Prop) :
    GRPCEffectiveRoutingRule → Prop :=
  Best (fun this other => GRPCEffectiveRoutingRule.compareMatching this.routeMatcher other.routeMatcher)
    (fun em => HostnameMatchFilter.filter domainPattern ⟨h, em.hostnames⟩ = true ∧ accepts em)
    l.grpcEffectiveRules

/-- The route of the best HTTP rule, or where no HTTP rule accepts the request, of the best GRPC rule. -/
def Listener.Serves (l : Listener) (h : String) (httpAccepts : RouteMatch → Prop)
    (grpcAccepts : GRPCEffectiveRoutingRule → Prop) (er : EnvoyRoute) : Prop :=
  (∃ em, l.BestHttpRule domainPattern h httpAccepts em ∧ em.envoyRoutes.head? = some er) ∨
    (∀ em ∈ l.httpEffectiveRules, HostnameMatchFilter.filter domainPattern ⟨h, em.hostnames⟩ = true →
      ¬ httpAccepts em.routeMatcher) ∧
    ∃ em, l.BestGrpcRule domainPattern h grpcAccepts em ∧ em.envoyRoute = er

end Property

variable {domainPattern : String → Option (String → Bool)} {regexMatch : String → String → Bool}
  {backend : XdsBackend} {gw : Gateway} {port : Int} {host : RequestHost} {request : Request} {er : EnvoyRoute}
  {l : Listener} {h : String} {httpAccepts : RouteMatch → Prop} {grpcAccepts : GRPCEffectiveRoutingRule → Prop}

/-! ## In one virtual host -/

theorem mem_httpEffectiveRules_of_mem_httpRulesFor {em : HTTPEffectiveRoutingRule}
    (hem : em ∈ l.httpRulesFor domainPattern h) : em ∈ l.httpEffectiveRules :=
  l.httpMatchingRules_stableSortOf.perm.mem_iff.1 (List.mem_filter.1 hem).1

theorem mem_grpcEffectiveRules_of_mem_grpcRulesFor {em : GRPCEffectiveRoutingRule}
    (hem : em ∈ l.grpcRulesFor domainPattern h) : em ∈ l.grpcEffectiveRules :=
  l.grpcMatchingRules_stableSortOf.perm.mem_iff.1 (List.mem_filter.1 hem).1

/-- One of the routes of a rule accepts a request exactly if all do. -/
theorem HTTPEffectiveRoutingRule.exists_accepts_iff {em : HTTPEffectiveRoutingRule} :
    (∃ er ∈ em.envoyRoutes, er.routeMatch.Accepts regexMatch request) ↔
      em.envoyRoute.routeMatch.Accepts regexMatch request := by
  constructor
  · rintro ⟨er, her, haccepts⟩
    rwa [routeMatch_of_mem her] at haccepts
  · intro haccepts
    obtain ⟨er, her⟩ := List.exists_mem_of_ne_nil _ em.envoyRoutes_ne_nil
    refine ⟨er, her, ?_⟩
    rwa [routeMatch_of_mem her]

/-- The first HTTP route of a virtual host that accepts a request is of the best rule. -/
theorem Listener.first_httpRoutes_iff (haccepts : ∀ em ∈ l.httpEffectiveRules,
      em.envoyRoute.routeMatch.Accepts regexMatch request ↔ httpAccepts em.routeMatcher) :
    First (fun er => er.routeMatch.Accepts regexMatch request)
        ((l.httpRulesFor domainPattern h).flatMap (·.envoyRoutes)) er ↔
      ∃ em, l.BestHttpRule domainPattern h httpAccepts em ∧ em.envoyRoutes.head? = some er := by
  have := @Lib.transCmp_on _ _ HTTPEffectiveRoutingRule.compareMatching _ HTTPEffectiveRoutingRule.routeMatcher
  have hbest (em : HTTPEffectiveRoutingRule) :
      First (fun em => ∃ er ∈ em.envoyRoutes, er.routeMatch.Accepts regexMatch request)
        (l.httpRulesFor domainPattern h) em ↔ l.BestHttpRule domainPattern h httpAccepts em := by
    rw [Listener.BestHttpRule, ← l.httpMatchingRules_stableSortOf.first_iff, ← first_filter]
    refine first_congr fun em hem => ?_
    rw [HTTPEffectiveRoutingRule.exists_accepts_iff, haccepts em (mem_httpEffectiveRules_of_mem_httpRulesFor hem)]
  rw [first_flatMap]
  refine exists_congr fun em => ?_
  rw [hbest]
  refine and_congr_right fun hem => first_iff_head fun er her => ?_
  have hmem : em ∈ l.httpRulesFor domainPattern h := ((hbest em).2 hem).mem
  have hem := hem.first.holds.1.2
  rw [HTTPEffectiveRoutingRule.routeMatch_of_mem her]
  exact (haccepts em (mem_httpEffectiveRules_of_mem_httpRulesFor hmem)).2 hem

theorem Listener.first_grpcRoutes_iff (haccepts : ∀ em ∈ l.grpcEffectiveRules,
      em.envoyRoute.routeMatch.Accepts regexMatch request ↔ grpcAccepts em) :
    First (fun er => er.routeMatch.Accepts regexMatch request)
        ((l.grpcRulesFor domainPattern h).map (·.envoyRoute)) er ↔
      ∃ em, l.BestGrpcRule domainPattern h grpcAccepts em ∧ em.envoyRoute = er := by
  have := @Lib.transCmp_on _ _ GRPCEffectiveRoutingRule.compareMatching _ GRPCEffectiveRoutingRule.routeMatcher
  rw [first_map]
  refine exists_congr fun em => and_congr_left fun _ => ?_
  rw [Listener.BestGrpcRule, ← l.grpcMatchingRules_stableSortOf.first_iff, ← first_filter]
  exact first_congr fun em hem => haccepts em (mem_grpcEffectiveRules_of_mem_grpcRulesFor hem)

/-- **The first route of a virtual host that accepts a request is of the best rule.** -/
theorem Listener.first_routes_iff (hhttp : ∀ em ∈ l.httpEffectiveRules,
      em.envoyRoute.routeMatch.Accepts regexMatch request ↔ httpAccepts em.routeMatcher)
    (hgrpc : ∀ em ∈ l.grpcEffectiveRules, em.envoyRoute.routeMatch.Accepts regexMatch request ↔ grpcAccepts em) :
    First (fun er => er.routeMatch.Accepts regexMatch request) (l.xdsVirtualHost domainPattern backend h).routes er ↔
      l.Serves domainPattern h httpAccepts grpcAccepts er := by
  have hnone : (∀ er ∈ (l.httpRulesFor domainPattern h).flatMap (·.envoyRoutes),
      ¬ er.routeMatch.Accepts regexMatch request) ↔
      ∀ em ∈ l.httpEffectiveRules, HostnameMatchFilter.filter domainPattern ⟨h, em.hostnames⟩ = true →
        ¬ httpAccepts em.routeMatcher := by
    simp only [List.mem_flatMap, forall_exists_index, and_imp]
    constructor
    · intro hall em hem hfilter haccepts
      have hmem : em ∈ l.httpRulesFor domainPattern h :=
        List.mem_filter.2 ⟨l.httpMatchingRules_stableSortOf.perm.mem_iff.2 hem, hfilter⟩
      obtain ⟨er, her, haccepts⟩ :=
        HTTPEffectiveRoutingRule.exists_accepts_iff.2 ((hhttp em hem).2 haccepts)
      exact hall er em hmem her haccepts
    · intro hall er em hem her haccepts
      have hmem := mem_httpEffectiveRules_of_mem_httpRulesFor hem
      refine hall em hmem (List.mem_filter.1 hem).2 ((hhttp em hmem).1 ?_)
      exact HTTPEffectiveRoutingRule.exists_accepts_iff.1 ⟨er, her, haccepts⟩
  show First _ ((l.httpRulesFor domainPattern h).flatMap (·.envoyRoutes) ++
    (l.grpcRulesFor domainPattern h).map (·.envoyRoute)) er ↔ _
  rw [first_append, Listener.first_httpRoutes_iff hhttp, hnone, Listener.first_grpcRoutes_iff hgrpc]
  rfl

/-! ## On a port -/

theorem Gateway.picks_iff_answersFor {vh : VirtualHost} : gw.Picks domainPattern backend port host vh ↔
    ∃ l h, gw.AnswersFor port host l h ∧ vh = l.xdsVirtualHost domainPattern backend h := by
  rw [Gateway.picks_iff]
  constructor
  · rintro ⟨l, h, hpub, hport, rfl, hcovers, hmost⟩
    exact ⟨l, h, ⟨hpub, hport, hcovers, hmost⟩, rfl⟩
  · rintro ⟨l, h, hanswers, rfl⟩
    exact ⟨l, h, hanswers.publishes, hanswers.onPort, rfl, hanswers.covers, hanswers.mostSpecific⟩

theorem Gateway.routesTo_iff_serves
    (hhttp : ∀ l h, gw.AnswersFor port host l h → ∀ em ∈ l.httpEffectiveRules,
      em.envoyRoute.routeMatch.Accepts regexMatch request ↔ httpAccepts em.routeMatcher)
    (hgrpc : ∀ l h, gw.AnswersFor port host l h → ∀ em ∈ l.grpcEffectiveRules,
      em.envoyRoute.routeMatch.Accepts regexMatch request ↔ grpcAccepts em) :
    gw.RoutesTo domainPattern regexMatch backend port host request er ↔
      ∃ l h, gw.AnswersFor port host l h ∧ l.Serves domainPattern h httpAccepts grpcAccepts er := by
  unfold Gateway.RoutesTo
  simp only [Gateway.picks_iff_answersFor]
  constructor
  · rintro ⟨-, ⟨l, h, hanswers, rfl⟩, hfirst⟩
    exact ⟨l, h, hanswers, (Listener.first_routes_iff (hhttp l h hanswers) (hgrpc l h hanswers)).1 hfirst⟩
  · rintro ⟨l, h, hanswers, hserves⟩
    exact ⟨_, ⟨l, h, hanswers, rfl⟩,
      (Listener.first_routes_iff (hhttp l h hanswers) (hgrpc l h hanswers)).2 hserves⟩

/-- The routes of a rule whose match is kept accept what the match means. -/
theorem HTTPEffectiveRoutingRule.accepts_iff_of_kept {em : HTTPEffectiveRoutingRule}
    (hkept : em.routeMatcher.OnPathAndHeaders ∧ em.routeMatcher.Kept regexMatch) :
    em.envoyRoute.routeMatch.Accepts regexMatch request ↔ em.routeMatcher.Accepts regexMatch request := by
  obtain ⟨hm, hkept⟩ := hkept
  obtain ⟨path, headers⟩ := request
  rw [EnvoyRouteMatch.accepts_iff_parts regexMatch hm, RouteMatch.accepts_iff_parts, iff_comm]
  revert path headers
  refine forall_parts_iff.2 ?_
  rcases hkept with ⟨hsource, henvoy⟩ | ⟨hsource, henvoy, hparts⟩
  · exact .inr ⟨(RouteMatch.vacant_iff_unmatchable regexMatch hm).2 hsource,
      (RouteMatch.vacant_iff_unmatchableAsLiteral regexMatch hm).2 henvoy⟩
  · exact .inl ((RouteMatch.parts_iff_kept regexMatch hm hsource henvoy).2 hparts)

/-- The route of a rule whose match is kept accepts what the match means. -/
theorem GRPCEffectiveRoutingRule.accepts_iff_of_kept {em : GRPCEffectiveRoutingRule} {request : GrpcRequest}
    (hkept : em.routeMatcher.Kept regexMatch) :
    em.envoyRoute.routeMatch.Accepts regexMatch request.request ↔ em.routeMatcher.Accepts regexMatch request := by
  obtain ⟨path, headers⟩ := request
  rw [GRPCEffectiveRoutingRule.envoyAccepts_iff_parts, GrpcRouteMatch.accepts_iff_parts, iff_comm]
  revert path headers
  refine forall_parts_iff.2 ?_
  rcases hkept with ⟨hsource, henvoy⟩ | ⟨hsource, henvoy, hparts⟩
  · exact .inr ⟨(GrpcRouteMatch.vacant_iff_unmatchable regexMatch).2 hsource,
      (GrpcRouteMatch.vacant_iff_unmatchableAsMade regexMatch).2 henvoy⟩
  · exact .inl ((GrpcRouteMatch.parts_iff_kept regexMatch hsource henvoy).2 hparts)

/-- **Envoy serves a request by the best rule.** On a port whose HTTP matches the translation keeps, Envoy sends a
request to a route exactly if, at the listener with the most specific hostname that covers the host, it is the route
of the best HTTP rule among those that the hostname admits and whose matches accept the request, or, where there is
none, of the best GRPC rule whose route accepts it. -/
theorem Gateway.routesTo_iff (gw : Gateway) (backend : XdsBackend) (port : Int) (host : RequestHost) (request : Request)
    (er : EnvoyRoute) (hkept : ∀ l h, gw.AnswersFor port host l h → ∀ em ∈ l.httpEffectiveRules,
      em.routeMatcher.OnPathAndHeaders ∧ em.routeMatcher.Kept regexMatch) :
    gw.RoutesTo domainPattern regexMatch backend port host request er ↔
      ∃ l h, gw.AnswersFor port host l h ∧ l.Serves domainPattern h (·.Accepts regexMatch request)
        (·.envoyRoute.routeMatch.Accepts regexMatch request) er :=
  Gateway.routesTo_iff_serves
    (fun l h hanswers em hem => HTTPEffectiveRoutingRule.accepts_iff_of_kept (hkept l h hanswers em hem))
    fun _ _ _ _ _ => Iff.rfl

/-- **Envoy serves the request of a GRPC client by the best rule**, on a port whose matches the translation keeps:
by the best GRPC rule whose match accepts it, unless an HTTP rule accepts it too. -/
theorem Gateway.grpcRoutesTo_iff (gw : Gateway) (backend : XdsBackend) (port : Int) (host : RequestHost)
    (request : GrpcRequest) (er : EnvoyRoute)
    (hhttp : ∀ l h, gw.AnswersFor port host l h → ∀ em ∈ l.httpEffectiveRules,
      em.routeMatcher.OnPathAndHeaders ∧ em.routeMatcher.Kept regexMatch)
    (hgrpc : ∀ l h, gw.AnswersFor port host l h → ∀ em ∈ l.grpcEffectiveRules, em.routeMatcher.Kept regexMatch) :
    gw.RoutesTo domainPattern regexMatch backend port host request.request er ↔
      ∃ l h, gw.AnswersFor port host l h ∧ l.Serves domainPattern h (·.Accepts regexMatch request.request)
        (·.routeMatcher.Accepts regexMatch request) er :=
  Gateway.routesTo_iff_serves
    (fun l h hanswers em hem => HTTPEffectiveRoutingRule.accepts_iff_of_kept (hhttp l h hanswers em hem))
    fun l h hanswers em hem => GRPCEffectiveRoutingRule.accepts_iff_of_kept (hgrpc l h hanswers em hem)

/-! ## A listener with routes of both kinds -/

/-- A match on the path alone is kept if its path is. -/
theorem RouteMatch.kept_of_pathOnly {m : RouteMatch} (hheaders : m.headers = none)
    (htype : m.pathType ≠ .regularExpression) (hpath : m.PathKept regexMatch) : m.Kept regexMatch := by
  have hnone (h : HeaderMatch) : h ∉ m.headerMatches := by simp [headerMatches, hheaders]
  refine .inr ⟨?_, ?_, hpath, fun h hmem => absurd hmem (hnone h)⟩
  · rintro (⟨hregex, -⟩ | ⟨name, hrefused⟩)
    · exact htype hregex
    · obtain ⟨h, hmem, -⟩ := hrefused ""
      exact hnone h hmem
  · rintro (⟨hregex, -⟩ | ⟨h, hmem, -⟩)
    · exact htype hregex
    · exact hnone h hmem

def adminMatch : RouteMatch where
  path := some { type := some .pathPrefix, value := some "/admin" }

def adminLoginMatch : RouteMatch where
  path := some { type := some .exact, value := some "/admin/login" }

def cartMatch : GrpcRouteMatch where
  method := some { service := some "cart", method := some "Get", type := some .exact }

/-- All paths of the administration, and its login. -/
def adminRoute : Route where
  resourceKey := { ns := "shop", name := "admin", kind := "HTTPRoute" }
  resolutionStatus := .resolved
  routeType := .http
    [{ name := "admin-0", matchingRules := [adminMatch] }, { name := "admin-1", matchingRules := [adminLoginMatch] }]

def boutiqueCartRoute : Route where
  resourceKey := { ns := "shop", name := "cart", kind := "GRPCRoute" }
  resolutionStatus := .resolved
  routeType := .grpc [{ name := "cart-0", matchingRules := [cartMatch] }]

def boutiqueListener : Listener where
  protocol := .http
  data := { config := { name := "http", port := 80 }, resolvedRoutes := .ofRoutes [adminRoute, boutiqueCartRoute] }

def boutiqueGateway : Gateway where
  id := 1
  resourceKey := { name := "shop" }
  listeners := .ofList [("http", boutiqueListener)]

def boutiqueHost : RequestHost where
  letters := "shop.com".toList
  no_star := by decide

def loginRequest : Request where
  path := ⟨"/admin/login", rfl⟩
  headers _ := none

def cartRequest : GrpcRequest where
  path := { service := "cart", method := "Get", service_noSlash := by decide, method_noSlash := by decide }
  headers _ := none

/-- The rule for all paths of the administration, and the one for its login. -/
def adminRule : HTTPEffectiveRoutingRule :=
  boutiqueListener.httpEffectiveRule [] { name := "admin-0", matchingRules := [adminMatch] } adminMatch

def adminLoginRule : HTTPEffectiveRoutingRule :=
  boutiqueListener.httpEffectiveRule [] { name := "admin-1", matchingRules := [adminLoginMatch] } adminLoginMatch

def cartRule : GRPCEffectiveRoutingRule :=
  GRPCRoutingRule.effectiveRule [] { name := "cart-0", matchingRules := [cartMatch] } cartMatch

theorem boutiqueListener_httpEffectiveRules : boutiqueListener.httpEffectiveRules = [adminRule, adminLoginRule] := rfl

theorem boutiqueListener_grpcEffectiveRules : boutiqueListener.grpcEffectiveRules = [cartRule] := rfl

theorem boutiqueGateway_answersFor {l : Listener} {h : String} :
    boutiqueGateway.AnswersFor 80 boutiqueHost l h ↔ l = boutiqueListener ∧ h = "*" := by
  have hvalues : boutiqueGateway.listenerValues = [boutiqueListener] := rfl
  have hhostnames : boutiqueListener.potentialHostnames = ["*"] := rfl
  have honly {l : Listener} {h : String} (hpub : boutiqueGateway.Publishes l h) : l = boutiqueListener ∧ h = "*" := by
    obtain ⟨later, hsuffix, -, hserves, -⟩ := hpub
    have hmem := hsuffix.subset List.mem_cons_self
    rw [hvalues, List.mem_singleton] at hmem
    subst hmem
    rw [← Listener.mem_potentialHostnames, hhostnames, List.mem_singleton] at hserves
    exact ⟨rfl, hserves⟩
  refine ⟨fun hanswers => honly hanswers.publishes, ?_⟩
  rintro ⟨rfl, rfl⟩
  refine ⟨⟨[], List.suffix_refl _, .inl rfl, ?_, fun l' hl' => (by cases hl')⟩, rfl, trivial, ?_⟩
  · rw [← Listener.mem_potentialHostnames, hhostnames]
    exact List.mem_singleton_self _
  · intro l' h' hpub _ _
    rw [(honly hpub).2]

theorem boutiqueGateway_kept : ∀ l h, boutiqueGateway.AnswersFor 80 boutiqueHost l h → ∀ em ∈ l.httpEffectiveRules,
    em.routeMatcher.OnPathAndHeaders ∧ em.routeMatcher.Kept literalRegexMatch := by
  intro l h hanswers em hem
  obtain ⟨rfl, -⟩ := boutiqueGateway_answersFor.1 hanswers
  rw [boutiqueListener_httpEffectiveRules] at hem
  rcases List.mem_pair.1 hem with rfl | rfl
  · refine ⟨⟨rfl, rfl, rfl, by decide⟩, RouteMatch.kept_of_pathOnly rfl (by decide) ⟨_, rfl, trivial⟩⟩
  · refine ⟨⟨rfl, rfl, rfl, by decide⟩, RouteMatch.kept_of_pathOnly rfl (by decide) ⟨_, rfl, ?_⟩⟩
    show withoutSlash "/admin/login" = "/admin/login"
    decide

/-- The login is served by its own rule, which stands behind the other one. -/
theorem boutiqueGateway_routesTo :
    boutiqueGateway.RoutesTo labelsPattern literalRegexMatch .envoy 80 boutiqueHost loginRequest
      adminLoginRule.envoyRoute := by
  rw [boutiqueGateway.routesTo_iff .envoy 80 boutiqueHost loginRequest _ boutiqueGateway_kept]
  refine ⟨boutiqueListener, "*", boutiqueGateway_answersFor.2 ⟨rfl, rfl⟩, .inl ⟨adminLoginRule, ?_, rfl⟩⟩
  have hsmaller : HTTPEffectiveRoutingRule.compareMatching adminLoginMatch adminMatch = .lt := rfl
  constructor
  · intro em hem _
    rw [boutiqueListener_httpEffectiveRules] at hem
    rcases List.mem_pair.1 hem with rfl | rfl
    · rfl
    · rfl
  · rw [boutiqueListener_httpEffectiveRules]
    refine .tail ?_ (.head ?_)
    · rintro ⟨-, hties⟩
      exact nomatch hsmaller.symm.trans hties
    · exact ⟨⟨by decide, rfl, fun h hmem => (by cases hmem)⟩, rfl⟩

/-- A call of the cart is served by the GRPC route. -/
theorem boutiqueGateway_grpcRoutesTo : boutiqueGateway.RoutesTo labelsPattern literalRegexMatch .envoy 80 boutiqueHost
    cartRequest.request cartRule.envoyRoute := by
  have hkept : ∀ l h, boutiqueGateway.AnswersFor 80 boutiqueHost l h → ∀ em ∈ l.grpcEffectiveRules,
      em.routeMatcher.Kept literalRegexMatch := by
    intro l h hanswers em hem
    obtain ⟨rfl, -⟩ := boutiqueGateway_answersFor.1 hanswers
    rw [boutiqueListener_grpcEffectiveRules, List.mem_singleton] at hem
    subst hem
    have hnone (h : HeaderMatch) : h ∉ cartMatch.headers.getD [] := List.not_mem_nil
    refine .inr ⟨?_, ?_, ?_, fun h hmem => absurd hmem (hnone h)⟩
    · rintro (⟨method, hmethod, value, hvalue, hrefused⟩ | ⟨name, hrefused⟩)
      · obtain rfl := Option.some.inj hmethod
        rcases hvalue with hvalue | hvalue
        · obtain rfl := Option.some.inj hvalue
          exact hrefused "cart" (by decide) rfl
        · obtain rfl := Option.some.inj hvalue
          exact hrefused "Get" (by decide) rfl
      · obtain ⟨h, hmem, -⟩ := hrefused ""
        exact hnone h hmem
    · rintro (⟨method, hmethod, hslashes⟩ | ⟨h, hmem, -⟩)
      · obtain rfl := Option.some.inj hmethod
        exact hslashes (by decide)
      · exact hnone h hmem
    · rintro method hmethod
      obtain rfl := Option.some.inj hmethod
      exact ⟨nofun, nofun⟩
  rw [boutiqueGateway.grpcRoutesTo_iff .envoy 80 boutiqueHost cartRequest _ boutiqueGateway_kept hkept]
  refine ⟨boutiqueListener, "*", boutiqueGateway_answersFor.2 ⟨rfl, rfl⟩, .inr ⟨?_, cartRule, ?_, rfl⟩⟩
  · intro em hem _ haccepts
    rw [boutiqueListener_httpEffectiveRules] at hem
    rcases List.mem_pair.1 hem with rfl | rfl
    · have hprefix : pathElements (dropSlash "/admin") <+: pathElements "/cart/Get" := haccepts.1
      exact absurd hprefix (by decide)
    · have hpath : "/cart/Get" = "/admin/login" := haccepts.1
      exact absurd hpath (by decide)
  · constructor
    · intro em hem _
      rw [boutiqueListener_grpcEffectiveRules, List.mem_singleton] at hem
      rw [hem]
      rfl
    · rw [boutiqueListener_grpcEffectiveRules]
      refine .head ⟨⟨by decide, ?_, fun h hmem => (by cases hmem)⟩, rfl⟩
      rintro method hmethod
      obtain rfl := Option.some.inj hmethod
      refine ⟨?_, ?_⟩
      · rintro service hservice
        obtain rfl := Option.some.inj hservice
        rfl
      · rintro method hmethod
        obtain rfl := Option.some.inj hmethod
        rfl

end Kubvernor
