import Kubvernor.Envoy.Deployer

/-!
# The domains of a port

All listeners of a port share one route configuration, and each listener brings virtual hosts of its
own. Two of them have a domain in common as soon as their hostnames do, whichever listeners they are
made for: an HTTP and an HTTPS listener of one hostname, or a listener without hostname one of whose
routes has the hostname of another listener.

**`domainsDistinct_iff`**: the domains of each port are distinct exactly if no two virtual hosts on it
are for one host, and none is for the host of another followed by the wildcard port.
-/

namespace Kubvernor

/-! ## The property -/

section Property

variable (domainPattern : String → Option (String → Bool))

/-- The domains of every route configuration of the gateway are distinct. -/
def Gateway.DomainsDistinct (gw : Gateway) : Prop :=
  ∀ el ∈ XdsBackend.envoy.envoyListeners domainPattern gw,
    ((XdsBackend.routeConfig el).virtualHosts.flatMap (·.domains)).Nodup

/-- The virtual host of this hostname is on the listener's port: no later listener of the port has
one of its name. -/
def Gateway.Publishes (gw : Gateway) (l : Listener) (h : String) : Prop :=
  ∃ later, (l :: later) <:+ gw.listenerValues ∧ l.IsHttp ∧ l.ServesHost h ∧
    ∀ l' ∈ later, l'.IsHttp → l'.port = l.port →
      ∀ h', l'.ServesHost h' → l'.virtualHostName h' ≠ l.virtualHostName h

/-- Both hostnames give one domain. -/
def DomainsClash (h h' : String) : Prop :=
  hostDomain h = hostDomain h' ∨ (hostDomain h ≠ "*" ∧ h' = h ++ ":*") ∨ (hostDomain h' ≠ "*" ∧ h = h' ++ ":*")

end Property

/-! ## The virtual hosts of a port -/

variable {domainPattern : String → Option (String → Bool)} {gw : Gateway} {el : EnvoyListener} {port : Int}
variable {name h h' : String}

/-- What is on a port under a name are the virtual hosts that are published there. -/
theorem virtualHost?_eq_some_iff {t : GatewayImplementationType} {calculator : String → List String}
    {vh : EnvoyVirtualHost} :
    (gw.generator domainPattern t calculator).virtualHost? port name = some vh ↔
      ∃ l h, gw.Publishes l h ∧ l.port = port ∧ l.virtualHostName h = name ∧
        vh = l.virtualHost domainPattern calculator h := by
  rw [Gateway.generator, ResourceGenerator.virtualHost?_generateEnvoyListeners]
  simp only [ResourceGenerator.new, Listener.offer_eq_some, Listener.offer_eq_none, Listener.mem_potentialHostnames]
  constructor
  · rintro ⟨l, later, hsuffix, ⟨hl, rfl, h, hh, rfl, rfl⟩, hlater⟩
    exact ⟨l, h, ⟨later, hsuffix, hl, hh, hlater⟩, rfl, rfl, rfl⟩
  · rintro ⟨l, h, ⟨later, hsuffix, hl, hh, hlater⟩, rfl, rfl, rfl⟩
    exact ⟨l, later, hsuffix, ⟨hl, rfl, h, hh, rfl, rfl⟩, hlater⟩

theorem exists_listenerMap_iff (t : GatewayImplementationType) (calculator : String → List String) {vh : EnvoyVirtualHost} :
    (∃ el, (gw.generator domainPattern t calculator).resources[port]? = some el ∧ el.httpListenerMap[name]? = some vh) ↔
      ∃ l h, gw.Publishes l h ∧ l.port = port ∧ l.virtualHostName h = name ∧
        vh = l.virtualHost domainPattern calculator h :=
  Gateway.virtualHost?_generator.trans virtualHost?_eq_some_iff

/-- The domains Envoy gets for a hostname. -/
theorem envoyHostnames_eq (routes : List Route) (h : String) :
    calculateHostnamesCommon routes (some h) calculateEffectiveHostnames =
      if hostDomain h = "*" then ["*"] else [h, h ++ ":*"] :=
  effectiveHostnames_eq .envoy routes h

theorem append_port_ne (h : String) : h ++ ":*" ≠ h ∧ h ++ ":*" ≠ "*" ∧ h ++ ":*" ≠ "" := by
  have hlen : (h ++ ":*").length = h.length + 2 := String.length_append h ":*"
  refine ⟨fun heq => ?_, fun heq => ?_, fun heq => ?_⟩
  · rw [heq] at hlen
    omega
  · rw [heq] at hlen
    have hone : "*".length = 1 := rfl
    omega
  · rw [heq] at hlen
    have hzero : "".length = 0 := rfl
    omega

/-- A hostname with the wildcard port is its own domain. -/
theorem hostDomain_append (h : String) : hostDomain (h ++ ":*") = h ++ ":*" :=
  if_neg (append_port_ne h).2.2

theorem mem_envoyHostnames {routes : List Route} {d : String} :
    d ∈ calculateHostnamesCommon routes (some h) calculateEffectiveHostnames ↔
      d = hostDomain h ∨ (hostDomain h ≠ "*" ∧ d = h ++ ":*") := by
  rw [envoyHostnames_eq]
  by_cases hs : hostDomain h = "*"
  · rw [if_pos hs, List.mem_singleton, hs]
    simp
  · have he : hostDomain h = h := by
      refine if_neg ?_
      rintro rfl
      exact hs rfl
    rw [if_neg hs, List.mem_cons, List.mem_singleton, he]
    rw [he] at hs
    simp [hs]

/-- The domains of one virtual host are distinct. -/
theorem envoyHostnames_nodup (routes : List Route) (h : String) :
    (calculateHostnamesCommon routes (some h) calculateEffectiveHostnames).Nodup := by
  rw [envoyHostnames_eq]
  by_cases hs : hostDomain h = "*"
  · rw [if_pos hs]
    exact List.nodup_singleton _
  · rw [if_neg hs, List.nodup_cons, List.mem_singleton]
    exact ⟨fun heq => (append_port_ne h).1 heq.symm, List.nodup_singleton _⟩

/-- The domains of two virtual hosts are disjoint unless their hostnames clash. -/
theorem disjoint_envoyHostnames_iff (routes routes' : List Route) :
    (calculateHostnamesCommon routes (some h) calculateEffectiveHostnames).Disjoint
      (calculateHostnamesCommon routes' (some h') calculateEffectiveHostnames) ↔ ¬ DomainsClash h h' := by
  -- a domain with the wildcard port is the domain of no other hostname but itself
  have hport {k k' : String} (heq : hostDomain k = k' ++ ":*") : k = k' ++ ":*" := by
    unfold hostDomain at heq
    by_cases hk : k = ""
    · rw [if_pos hk] at heq
      exact absurd heq.symm (append_port_ne k').2.1
    · rwa [if_neg hk] at heq
  constructor
  · rintro hdisjoint (hclash | ⟨hs, rfl⟩ | ⟨hs, rfl⟩)
    · exact hdisjoint (mem_envoyHostnames.2 (.inl rfl)) (mem_envoyHostnames.2 (.inl hclash))
    · exact hdisjoint (mem_envoyHostnames.2 (.inr ⟨hs, rfl⟩)) (mem_envoyHostnames.2 (.inl (hostDomain_append h).symm))
    · exact hdisjoint (mem_envoyHostnames.2 (.inl (hostDomain_append h').symm)) (mem_envoyHostnames.2 (.inr ⟨hs, rfl⟩))
  · intro hclash d hd hd'
    rw [mem_envoyHostnames] at hd hd'
    rcases hd with rfl | ⟨hs, rfl⟩
    · rcases hd' with hd' | ⟨hs', hd'⟩
      · exact hclash (.inl hd')
      · exact hclash (.inr (.inr ⟨hs', hport hd'⟩))
    · rcases hd' with hd' | ⟨hs', hd'⟩
      · exact hclash (.inr (.inl ⟨hs, hport hd'.symm⟩))
      · exact hclash (.inl (by rw [(String.append_left_inj _).1 hd']))

/-! ## The property holds exactly if no hostnames clash -/

/-- The domains of a port, virtual host after virtual host. -/
theorem domains_routeConfig (el : EnvoyListener) :
    (XdsBackend.routeConfig el).virtualHosts.flatMap (·.domains) =
      el.httpListenerMap.toList.flatMap fun p => p.2.effectiveHostnames := by
  simp only [XdsBackend.routeConfig, generateVirtualHostsFromXds, List.flatMap_map]

/-- The domains of one Envoy listener are distinct if those of its virtual hosts are disjoint. -/
theorem nodup_domains_iff (el : EnvoyListener) :
    ((XdsBackend.routeConfig el).virtualHosts.flatMap (·.domains)).Nodup ↔
      (∀ (key : String) (vh : EnvoyVirtualHost), el.httpListenerMap[key]? = some vh → vh.effectiveHostnames.Nodup) ∧
      ∀ (key : String) (vh : EnvoyVirtualHost) (key' : String) (vh' : EnvoyVirtualHost),
        el.httpListenerMap[key]? = some vh → el.httpListenerMap[key']? = some vh' → key ≠ key' →
          vh.effectiveHostnames.Disjoint vh'.effectiveHostnames := by
  have hsymm : Std.Symm (Function.onFun List.Disjoint fun p : String × EnvoyVirtualHost => p.2.effectiveHostnames) :=
    ⟨fun _ _ h => h.symm⟩
  rw [domains_routeConfig, List.nodup_flatMap, Lib.pairwise_toList]
  refine and_congr_left fun _ => ?_
  constructor
  · intro h key vh hvh
    exact h (key, vh) (Std.ExtTreeMap.mem_toList_iff_getElem?_eq_some.2 hvh)
  · intro h p hp
    exact h p.1 p.2 (Std.ExtTreeMap.mem_toList_iff_getElem?_eq_some.1 hp)

/-- **The domains are distinct exactly if no two virtual hosts of a port have clashing hostnames.** -/
theorem domainsDistinct_iff : gw.DomainsDistinct domainPattern ↔
    ∀ l h l' h', gw.Publishes l h → gw.Publishes l' h' → l.port = l'.port →
      l.virtualHostName h ≠ l'.virtualHostName h' → ¬ DomainsClash h h' := by
  have hon {port : Int} {key : String} {vh : EnvoyVirtualHost} :
      (∃ el, (gw.generator domainPattern .envoy calculateEffectiveHostnames).resources[port]? = some el ∧
        el.httpListenerMap[key]? = some vh) ↔
      ∃ l h, gw.Publishes l h ∧ l.port = port ∧ l.virtualHostName h = key ∧
        vh = l.virtualHost domainPattern calculateEffectiveHostnames h :=
    exists_listenerMap_iff .envoy calculateEffectiveHostnames
  constructor
  · intro hnodup l h l' h' hl hl' hport hname
    obtain ⟨el, hel, hvh⟩ := hon.2 ⟨l, h, hl, rfl, rfl, rfl⟩
    obtain ⟨el', hel', hvh'⟩ := hon.2 ⟨l', h', hl', rfl, rfl, rfl⟩
    rw [← hport, hel] at hel'
    obtain rfl := Option.some.inj hel'
    have hdisjoint := ((nodup_domains_iff el).1 (hnodup el (XdsBackend.mem_envoyListeners.2 ⟨_, hel⟩))).2
      _ _ _ _ hvh hvh' hname
    exact (disjoint_envoyHostnames_iff l.routes.1 l'.routes.1).1 hdisjoint
  · intro hclash el hel
    obtain ⟨port, hel⟩ := XdsBackend.mem_envoyListeners.1 hel
    refine (nodup_domains_iff el).2 ⟨?_, ?_⟩
    · intro key vh hvh
      obtain ⟨l, h, -, -, -, rfl⟩ := hon.1 ⟨el, hel, hvh⟩
      exact envoyHostnames_nodup l.routes.1 h
    · intro key vh key' vh' hvh hvh' hne
      obtain ⟨l, h, hl, hport, rfl, rfl⟩ := hon.1 ⟨el, hel, hvh⟩
      obtain ⟨l', h', hl', hport', rfl, rfl⟩ := hon.1 ⟨el, hel, hvh'⟩
      exact (disjoint_envoyHostnames_iff l.routes.1 l'.routes.1).2 (hclash l h l' h' hl hl' (hport.trans hport'.symm) hne)

/-! ## An HTTP and an HTTPS listener of one host -/

def mixedKubeGateway : KubeGateway where
  metadata := { name := some "gw", uid := some "1" }
  spec :=
    { gatewayClassName := "kubvernor"
      listeners :=
        [{ name := "plain", port := 8080, protocol := "HTTP", hostname := some "a.com" },
          { name := "secure", port := 8080, protocol := "HTTPS", hostname := some "a.com"
            tls := some { mode := some .terminate, certificateRefs := some [{ name := "cert" }] } }] }

/-- A listener for the host `a.com`, as it is converted. -/
def mixedListener (name : String) (protocol : ProtocolType) (tlsType : Option TlsType) : Listener where
  protocol := protocol
  data :=
    { config := { name := name, port := 8080, hostname := some "a.com", tlsType := tlsType }
      conditions := ListenerConditions.replace ∅ (.resolvedRefs (.resolved ["HTTPRoute", "GRPCRoute"])) }

def mixedGateway : Gateway where
  id := 1
  resourceKey := { name := "gw" }
  listeners := .ofList
    [("plain", mixedListener "plain" .http none),
      ("secure", mixedListener "secure" .https (some (.terminate [.notResolved { name := "cert" }])))]

/-- The controller accepts the gateway, and the host is a domain twice. -/
theorem mixedGateway_clashes :
    Gateway.tryFrom (fun _ => some 1) mixedKubeGateway .envoy = .ok mixedGateway ∧
    ¬ mixedGateway.DomainsDistinct fun pattern => some (· = pattern) := by
  refine ⟨rfl, fun hdistinct => ?_⟩
  have hdomains : (XdsBackend.envoy.envoyListeners (fun pattern => some (· = pattern)) mixedGateway).map
      (fun el => (XdsBackend.routeConfig el).virtualHosts.flatMap (·.domains)) =
        [["a.com", "a.com:*", "a.com", "a.com:*"]] := by decide
  obtain ⟨el, hel, heq⟩ := List.mem_map.1 (hdomains ▸ List.mem_singleton_self _)
  have hnodup := hdistinct el hel
  rw [heq] at hnodup
  exact absurd hnodup (by decide)

end Kubvernor
