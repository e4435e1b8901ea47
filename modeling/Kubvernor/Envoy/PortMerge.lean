import Kubvernor.Envoy.ResourceGenerator

/-!
# Merging the listeners of a port

The first listener of a port that binds it makes the Envoy listener; the HTTP(S) listeners that
follow only add their virtual hosts, which are kept under their names. So everything but the virtual
hosts is the first listener's (`head_generateEnvoyListeners`): its TLS setup, and whether the
endpoint pickers' filter is switched on.

**`mergesAll_iff`**: nothing is lost exactly if no two listeners of a port make virtual hosts of one
name, and the filter is needed nowhere on a port where the first listener does not need it.
-/

namespace Kubvernor

/-- The two backends that use the generator; they differ in the domains of their virtual hosts. -/
inductive XdsBackend
  | envoy
  | orion
deriving DecidableEq, Repr

namespace XdsBackend

def implementationType : XdsBackend → GatewayImplementationType
  | .envoy => .envoy
  | .orion => .orion

/-- `calculate_effective_hostnames` of the two deployers. -/
def calculateEffectiveHostnames : XdsBackend → String → List String
  | .envoy, hostname => Kubvernor.calculateEffectiveHostnames hostname
  | .orion, hostname => [hostname]

end XdsBackend

/-- The domain of a hostname; the empty one stands for any host. -/
def hostDomain (h : String) : String := if h = "" then "*" else h

/-- The hosts a listener serves, one virtual host for each: its own hostname, or without one those
of its resolved routes, or any host. -/
inductive Listener.ServesHost (l : Listener) : String → Prop
  | own {hostname : String} : l.hostname = some hostname → ServesHost l (hostDomain hostname)
  | ofRoute {r : Route} {h : String} : l.hostname = none → r ∈ l.routes.1 → h ∈ r.hostnames → ServesHost l h
  | any : l.hostname = none → (∀ r ∈ l.routes.1, r.hostnames = []) → ServesHost l "*"

/-- The generator of a gateway once it has its listeners. -/
def Gateway.generator (domainPattern : String → Option (String → Bool)) (gw : Gateway)
    (t : GatewayImplementationType) (calculator : String → List String) : ResourceGenerator :=
  (ResourceGenerator.new gw t calculator).generateEnvoyListeners domainPattern

namespace Listener

/-- The listeners an Envoy listener is made for. -/
def Binds (l : Listener) : Prop := l.protocol = .http ∨ l.protocol = .https ∨ l.protocol = .tcp

instance (l : Listener) : Decidable l.Binds := inferInstanceAs (Decidable (_ ∨ _))

/-- A rule in one of the listener's virtual hosts sends to a pool. -/
def needsExtProc (domainPattern : String → Option (String → Bool)) (l : Listener) : Bool :=
  decide l.IsHttp && l.potentialHostnames.any fun h => (l.httpRulesFor domainPattern h).any enableExtProcFilter

end Listener

/-- What an Envoy listener is apart from the hosts behind it. -/
structure EnvoyListenerHead where
  name : String
  port : Int
  tlsType : Option TlsType
  enableExtProc : Bool
deriving DecidableEq, Repr

def EnvoyListener.head (el : EnvoyListener) : EnvoyListenerHead where
  name := el.name
  port := el.port
  tlsType := el.tlsType
  enableExtProc := el.enableExtProc

/-- The Envoy listener that a listener makes when it is the first of its port. -/
def Listener.head (domainPattern : String → Option (String → Bool)) (gatewayName : String) (l : Listener) :
    EnvoyListenerHead where
  name := gatewayName
  port := l.port
  tlsType := if l.IsHttp then l.data.config.tlsType else none
  enableExtProc := l.needsExtProc domainPattern

/-- The potential hostnames are the hosts the listener serves. -/
theorem Listener.mem_potentialHostnames {l : Listener} {h : String} :
    h ∈ l.potentialHostnames ↔ l.ServesHost h := by
  unfold potentialHostnames calculateHostnamesCommon
  cases hhostname : l.hostname with
  | some hostname =>
    have hlist : (if hostname ≠ "" ∧ hostname ≠ DEFAULT_ROUTE_HOSTNAME then [hostname]
        else [DEFAULT_ROUTE_HOSTNAME]) = [hostDomain hostname] := by
      unfold hostDomain DEFAULT_ROUTE_HOSTNAME
      by_cases he : hostname = ""
      · simp [he]
      · by_cases hs : hostname = "*"
        · simp [hs]
        · simp [he, hs]
    simp only [hlist, List.mem_singleton]
    constructor
    · rintro rfl
      exact .own hhostname
    · intro hserves
      cases hserves with
      | own hown =>
        rw [hhostname] at hown
        obtain rfl := Option.some.inj hown
        rfl
      | ofRoute hnone _ _ | any hnone _ =>
        rw [hhostname] at hnone
        cases hnone
  | none =>
    have hempty : (Std.ExtTreeSet.ofList (l.routes.1.flatMap (·.hostnames))).isEmpty = true ↔
        ∀ r ∈ l.routes.1, r.hostnames = [] := by
      simp only [Std.ExtTreeSet.isEmpty_iff, Std.ExtTreeSet.eq_empty_iff_forall_not_mem, Std.ExtTreeSet.mem_ofList,
        List.contains_iff_mem]
      rw [← List.flatMap_eq_nil_iff, List.eq_nil_iff_forall_not_mem]
    cases hroutes : (Std.ExtTreeSet.ofList (l.routes.1.flatMap (·.hostnames))).isEmpty with
    | true =>
      simp only [hroutes, List.mem_singleton]
      constructor
      · rintro rfl
        exact .any hhostname (hempty.1 hroutes)
      · intro hserves
        cases hserves with
        | own hown =>
          rw [hhostname] at hown
          cases hown
        | ofRoute _ hr hh =>
          rw [hempty.1 hroutes _ hr] at hh
          cases hh
        | any _ _ => rfl
    | false =>
      simp only [hroutes, Std.ExtTreeSet.mem_toList, Std.ExtTreeSet.mem_ofList, List.contains_iff_mem, List.mem_flatMap]
      constructor
      · rintro ⟨r, hr, hh⟩
        exact .ofRoute hhostname hr hh
      · intro hserves
        cases hserves with
        | own hown =>
          rw [hhostname] at hown
          cases hown
        | ofRoute _ hr hh => exact ⟨_, hr, hh⟩
        | any _ hall =>
          rw [hempty.2 hall] at hroutes
          cases hroutes

/-! ## The first listener of a port -/

/-- The first listener that binds a port. -/
def Gateway.firstOn (gw : Gateway) (port : Int) : Option Listener :=
  gw.listenerValues.find? fun l => l.Binds ∧ l.port = port

section FirstOn

variable {domainPattern : String → Option (String → Bool)} {g : ResourceGenerator} {gw : Gateway} {l : Listener}
variable {t : GatewayImplementationType} {calculator : String → List String} {port : Int}

theorem Listener.IsHttp.binds (hl : l.IsHttp) : l.Binds :=
  hl.elim .inl fun h => .inr (.inl h)

namespace ResourceGenerator

/-- An Envoy listener put on a port that may have one already, whose head it keeps. -/
theorem head_insert {resources : Std.ExtTreeMap Int EnvoyListener} {here port : Int} {merged : EnvoyListener}
    {new : EnvoyListenerHead} (hmerged : merged.head = (resources[here]?.map EnvoyListener.head).getD new) :
    (resources.insert here merged)[port]?.map EnvoyListener.head =
      (resources[port]?.map EnvoyListener.head).or (if here = port then some new else none) := by
  rw [Std.ExtTreeMap.getElem?_insert]
  by_cases hport : here = port
  · subst hport
    rw [if_pos Std.ReflOrd.compare_self, if_pos rfl, Option.map_some, hmerged]
    cases resources[here]? with
    | none => rfl
    | some el => rfl
  · have hc : compare here port ≠ .eq := fun h => hport (Std.LawfulEqOrd.eq_of_compare h)
    rw [if_neg hc, if_neg hport, Option.or_none]

/-- A listener makes the Envoy listener of its port if there is none, and leaves all heads alone. -/
theorem head_addListener (g : ResourceGenerator) (l : Listener) (port : Int) :
    (g.addListener domainPattern l).resources[port]?.map EnvoyListener.head =
      (g.resources[port]?.map EnvoyListener.head).or
        (if l.Binds ∧ l.port = port then some (l.head domainPattern g.effectiveGateway.resourceKey.name) else none) := by
  by_cases hl : l.IsHttp
  · have hadd : g.addListener domainPattern l = g.joinHttp domainPattern l := by
      unfold addListener
      rcases hl with hp | hp <;> rw [hp]
    have hhead : (l.generateEnvoyListener domainPattern g.effectiveHostnameCalculator
        g.effectiveGateway.resourceKey.name g.inferenceClusters).1.head =
          l.head domainPattern g.effectiveGateway.resourceKey.name := by
      simp only [Listener.generateEnvoyListener, EnvoyListener.head, Listener.head, Listener.needsExtProc, hl,
        if_true, decide_true, Bool.true_and]
    rw [hadd, ← hhead]
    simp only [hl.binds, true_and]
    refine head_insert ?_
    cases g.resources[l.port]? with
    | none => rfl
    | some el => rfl
  · by_cases htcp : l.protocol = .tcp
    · have hadd : g.addListener domainPattern l = g.joinTcp l := by
        unfold addListener
        rw [htcp]
      have hbinds : l.Binds := .inr (.inr htcp)
      have hhead : l.head domainPattern g.effectiveGateway.resourceKey.name =
          { name := g.effectiveGateway.resourceKey.name, port := l.port, tlsType := none, enableExtProc := false } := by
        simp only [Listener.head, Listener.needsExtProc, hl, if_false, decide_false, Bool.false_and]
      rw [hadd, hhead]
      simp only [hbinds, true_and]
      refine head_insert ?_
      cases g.resources[l.port]? with
      | none => rfl
      | some el => rfl
    · have hadd : g.addListener domainPattern l = g := by
        unfold addListener
        rcases hp : l.protocol with _ | _ | _ | _ | _
        · exact absurd (.inl hp) hl
        · exact absurd (.inr hp) hl
        · rfl
        · exact absurd hp htcp
        · rfl
      have hbinds : ¬ l.Binds := by
        rintro (h | h | h)
        · exact hl (.inl h)
        · exact hl (.inr h)
        · exact htcp h
      rw [hadd, if_neg fun h => hbinds h.1, Option.or_none]

theorem effectiveGateway_addListener (g : ResourceGenerator) (l : Listener) :
    (g.addListener domainPattern l).effectiveGateway = g.effectiveGateway := by
  unfold addListener
  cases l.protocol <;> rfl

theorem head_foldl_addListener (ls : List Listener) (g : ResourceGenerator) (port : Int) :
    (ls.foldl (addListener domainPattern) g).resources[port]?.map EnvoyListener.head =
      (g.resources[port]?.map EnvoyListener.head).or
        ((ls.find? fun l => l.Binds ∧ l.port = port).map
          (Listener.head domainPattern g.effectiveGateway.resourceKey.name)) := by
  induction ls generalizing g with
  | nil => simp
  | cons l ls ih =>
    rw [List.foldl_cons, ih, head_addListener, effectiveGateway_addListener, Option.or_assoc, List.find?_cons]
    congr 1
    by_cases hl : l.Binds ∧ l.port = port
    · simp [hl]
    · simp [hl]

end ResourceGenerator

/-- **The head of a port's Envoy listener is the one of the first listener that binds the port.** -/
theorem Gateway.head_generator (domainPattern : String → Option (String → Bool)) (gw : Gateway)
    (t : GatewayImplementationType) (calculator : String → List String) (port : Int) :
    (gw.generator domainPattern t calculator).resources[port]?.map EnvoyListener.head =
      (gw.firstOn port).map (Listener.head domainPattern gw.resourceKey.name) := by
  unfold Gateway.generator ResourceGenerator.generateEnvoyListeners
  rw [ResourceGenerator.head_foldl_addListener, Std.ExtTreeMap.getElem?_empty, Option.map_none, Option.none_or]
  rfl

/-- The Envoy listener of a port has the head of the first listener that binds it. -/
theorem exists_firstOn {el : EnvoyListener}
    (hel : (gw.generator domainPattern t calculator).resources[port]? = some el) :
    ∃ first, gw.firstOn port = some first ∧ el.head = first.head domainPattern gw.resourceKey.name := by
  have hhead := gw.head_generator domainPattern t calculator port
  rw [hel, Option.map_some, eq_comm, Option.map_eq_some_iff] at hhead
  obtain ⟨first, hfirst, heq⟩ := hhead
  exact ⟨first, hfirst, heq.symm⟩

/-- A port that a listener binds has an Envoy listener. -/
theorem exists_resource (hl : l ∈ gw.listenerValues) (hbinds : l.Binds) :
    ∃ el, (gw.generator domainPattern t calculator).resources[l.port]? = some el := by
  have hon : (gw.firstOn l.port).isSome := by
    rw [Gateway.firstOn, List.find?_isSome]
    exact ⟨l, hl, by simpa using hbinds⟩
  obtain ⟨first, hfirst⟩ := Option.isSome_iff_exists.1 hon
  have hhead := gw.head_generator domainPattern t calculator l.port
  rw [hfirst, Option.map_some, Option.map_eq_some_iff] at hhead
  obtain ⟨el, hel, -⟩ := hhead
  exact ⟨el, hel⟩

end FirstOn

/-! ## The property -/

section Property

variable (domainPattern : String → Option (String → Bool)) (backend : XdsBackend)

/-- Every virtual host that a listener makes is behind its port, and the filter for endpoint pickers
is on exactly where a listener of the port needs it. -/
structure Gateway.MergesAll (gw : Gateway) : Prop where
  virtualHosts : ∀ l ∈ gw.listenerValues, l.IsHttp → ∀ (name : String) (vh : EnvoyVirtualHost),
    (l.generateEnvoyListener domainPattern backend.calculateEffectiveHostnames gw.resourceKey.name
      []).1.httpListenerMap[name]? = some vh →
    ∃ el, (gw.generator domainPattern backend.implementationType
        backend.calculateEffectiveHostnames).resources[l.port]? = some el ∧
      el.httpListenerMap[name]? = some vh
  enableExtProc : ∀ (port : Int) (el : EnvoyListener), (gw.generator domainPattern backend.implementationType
      backend.calculateEffectiveHostnames).resources[port]? = some el →
    (el.enableExtProc = true ↔ ∃ l ∈ gw.listenerValues, l.port = port ∧ l.needsExtProc domainPattern = true)

/-- No two listeners of a port make virtual hosts of one name. -/
def Gateway.VirtualHostNamesDistinct (gw : Gateway) : Prop :=
  ∀ l ∈ gw.listenerValues, ∀ l' ∈ gw.listenerValues, l.IsHttp → l'.IsHttp → l.port = l'.port →
    ∀ h h', l.ServesHost h → l'.ServesHost h' → l.virtualHostName h = l'.virtualHostName h' → l.name = l'.name

/-- Where a listener needs the filter for endpoint pickers, the first listener of its port does. -/
def Gateway.FirstNeedsExtProc (gw : Gateway) : Prop :=
  ∀ l ∈ gw.listenerValues, l.needsExtProc domainPattern = true →
    ∃ first, gw.firstOn l.port = some first ∧ first.needsExtProc domainPattern = true

end Property

section Merge

variable {domainPattern : String → Option (String → Bool)} {backend : XdsBackend} {gw : Gateway} {l l' : Listener}
variable {h h' : String}

theorem effectiveHostnames_eq (backend : XdsBackend) (routes : List Route) (h : String) :
    calculateHostnamesCommon routes (some h) backend.calculateEffectiveHostnames =
      if hostDomain h = "*" then ["*"] else backend.calculateEffectiveHostnames h := by
  unfold calculateHostnamesCommon hostDomain
  simp only [DEFAULT_ROUTE_HOSTNAME]
  by_cases he : h = ""
  · simp [he]
  · by_cases hs : h = "*"
    · simp [hs]
    · simp [he, hs]

/-- The domains of a virtual host begin with the one of its hostname. -/
theorem head?_effectiveHostnames (routes : List Route) (h : String) :
    (calculateHostnamesCommon routes (some h) backend.calculateEffectiveHostnames).head? = some (hostDomain h) := by
  rw [effectiveHostnames_eq]
  by_cases hs : hostDomain h = "*"
  · rw [if_pos hs, hs]
    rfl
  · have he : h ≠ "" := by
      rintro rfl
      exact hs rfl
    rw [if_neg hs, hostDomain, if_neg he]
    cases backend <;> rfl

/-- A name that ends with the hostname "*" does not end with the empty one. -/
theorem Listener.virtualHostName_empty_ne : l.virtualHostName "" ≠ l'.virtualHostName "*" := by
  intro heq
  have hlast := congrArg (fun s => s.toList.getLast?) heq
  simp [virtualHostName] at hlast

/-- Virtual hosts of listeners of two names are never the same. -/
theorem Listener.name_eq_of_virtualHost_eq
    (heq : l.virtualHost domainPattern backend.calculateEffectiveHostnames h =
      l'.virtualHost domainPattern backend.calculateEffectiveHostnames h') : l.name = l'.name := by
  have hname : l.virtualHostName h = l'.virtualHostName h' := congrArg EnvoyVirtualHost.name heq
  have hdomain : hostDomain h = hostDomain h' := by
    have hhosts := congrArg (fun vh => vh.effectiveHostnames.head?) heq
    simp only [virtualHost, head?_effectiveHostnames] at hhosts
    exact Option.some.inj hhosts
  by_cases hh : h = h'
  · subst hh
    exact (String.append_left_inj _).1 ((String.append_left_inj _).1 hname)
  · -- one of the two hostnames is the empty one, the other is "*"
    unfold hostDomain at hdomain
    by_cases he : h = ""
    · subst he
      rw [if_pos rfl, if_neg (Ne.symm hh)] at hdomain
      subst hdomain
      exact absurd hname virtualHostName_empty_ne
    · by_cases he' : h' = ""
      · subst he'
        rw [if_neg he, if_pos rfl] at hdomain
        subst hdomain
        exact absurd hname.symm virtualHostName_empty_ne
      · rw [if_neg he, if_neg he'] at hdomain
        exact absurd hdomain hh

/-- What a listener makes is what it offers. -/
theorem Listener.generated_iff (hl : l.IsHttp) {name : String} {vh : EnvoyVirtualHost} {gatewayName : String}
    {infos : List InferenceClusterInfo} {calculator : String → List String} :
    (l.generateEnvoyListener domainPattern calculator gatewayName infos).1.httpListenerMap[name]? = some vh ↔
      ∃ h ∈ l.potentialHostnames, l.virtualHostName h = name ∧ vh = l.virtualHost domainPattern calculator h := by
  rw [getElem?_generateEnvoyListener hl, offer_eq_some]
  exact ⟨fun h => h.2.2, fun h => ⟨hl, rfl, h⟩⟩

theorem Gateway.virtualHost?_generator {t : GatewayImplementationType} {calculator : String → List String}
    {port : Int} {name : String} {vh : EnvoyVirtualHost} :
    (∃ el, (gw.generator domainPattern t calculator).resources[port]? = some el ∧ el.httpListenerMap[name]? = some vh) ↔
      (gw.generator domainPattern t calculator).virtualHost? port name = some vh :=
  Option.bind_eq_some_iff.symm

/-- **A port has the virtual hosts of all its listeners exactly if no two have one name.** -/
theorem Gateway.virtualHosts_kept_iff (domainPattern : String → Option (String → Bool)) (backend : XdsBackend)
    (hnames : (gw.listenerValues.map Listener.name).Nodup) :
    (∀ l ∈ gw.listenerValues, l.IsHttp → ∀ h ∈ l.potentialHostnames,
      (gw.generator domainPattern backend.implementationType backend.calculateEffectiveHostnames).virtualHost?
        l.port (l.virtualHostName h) =
          some (l.virtualHost domainPattern backend.calculateEffectiveHostnames h)) ↔
      gw.VirtualHostNamesDistinct := by
  constructor
  · intro hkept l hl l' hl' hhttp hhttp' hport h h' hh hh' heq
    have hfirst := hkept l hl hhttp h (Listener.mem_potentialHostnames.2 hh)
    have hsecond := hkept l' hl' hhttp' h' (Listener.mem_potentialHostnames.2 hh')
    rw [hport, heq, hsecond] at hfirst
    exact (Listener.name_eq_of_virtualHost_eq (Option.some.inj hfirst)).symm
  · intro hdistinct l hl hhttp h hh
    obtain ⟨before, later, hsplit⟩ := List.append_of_mem hl
    refine ResourceGenerator.virtualHost?_generateEnvoyListeners.2
      ⟨l, later, ⟨before, hsplit.symm⟩, Listener.offer_eq_some.2 ⟨hhttp, rfl, h, hh, rfl, rfl⟩, ?_⟩
    intro l' hl'
    rw [Listener.offer_eq_none]
    intro hhttp' hport h' hh' hname
    have hmem : l' ∈ gw.listenerValues := by
      rw [show gw.listenerValues = before ++ l :: later from hsplit]
      exact List.mem_append_right _ (List.mem_cons_of_mem _ hl')
    have hne : l.name ≠ l'.name := by
      have hnodup := hnames
      rw [show gw.listenerValues = before ++ l :: later from hsplit, List.map_append, List.map_cons] at hnodup
      have htail := (List.nodup_cons.1 (List.nodup_append.1 hnodup).2.1).1
      exact fun hn => htail (List.mem_map.2 ⟨l', hl', hn.symm⟩)
    exact hne (hdistinct l hl l' hmem hhttp hhttp' hport.symm h h' (Listener.mem_potentialHostnames.1 hh)
      (Listener.mem_potentialHostnames.1 hh') hname.symm)

/-- The filter is needed for the sake of a pool among the backends of an admitted route. -/
theorem Listener.needsExtProc_iff : l.needsExtProc domainPattern = true ↔
    l.IsHttp ∧ ∃ h ∈ l.potentialHostnames, ∃ em ∈ l.httpRulesFor domainPattern h, enableExtProcFilter em = true := by
  rw [needsExtProc, Bool.and_eq_true, decide_eq_true_eq, List.any_eq_true]
  simp only [List.any_eq_true]

/-- The first listener of a port is one of the port's. -/
theorem Gateway.mem_of_firstOn {port : Int} (hfirst : gw.firstOn port = some l) :
    l ∈ gw.listenerValues ∧ l.Binds ∧ l.port = port :=
  ⟨List.mem_of_find?_eq_some hfirst, by simpa using List.find?_some hfirst⟩

/-- **The filter is on where it is needed exactly if the first listeners need it there.** -/
theorem Gateway.enableExtProc_iff (t : GatewayImplementationType) (calculator : String → List String) :
    (∀ (port : Int) (el : EnvoyListener), (gw.generator domainPattern t calculator).resources[port]? = some el →
      (el.enableExtProc = true ↔
        ∃ l ∈ gw.listenerValues, l.port = port ∧ l.needsExtProc domainPattern = true)) ↔
      gw.FirstNeedsExtProc domainPattern := by
  have hhead {port : Int} {el : EnvoyListener}
      (hel : (gw.generator domainPattern t calculator).resources[port]? = some el) :
      ∃ first, gw.firstOn port = some first ∧ el.enableExtProc = first.needsExtProc domainPattern := by
    obtain ⟨first, hfirst, heq⟩ := exists_firstOn hel
    exact ⟨first, hfirst, congrArg EnvoyListenerHead.enableExtProc heq⟩
  constructor
  · intro hext l hl hneeds
    obtain ⟨el, hel⟩ := exists_resource hl (Listener.needsExtProc_iff.1 hneeds).1.binds
    obtain ⟨first', hfirst', henable⟩ := hhead hel
    exact ⟨first', hfirst', henable ▸ (hext l.port el hel).2 ⟨l, hl, rfl, hneeds⟩⟩
  · intro hcond port el hel
    obtain ⟨first, hfirst, henable⟩ := hhead hel
    obtain ⟨hmem, -, hport⟩ := mem_of_firstOn hfirst
    constructor
    · intro h
      exact ⟨first, hmem, hport, henable ▸ h⟩
    · rintro ⟨l, hl, rfl, hneeds⟩
      obtain ⟨first', hfirst', hneeds'⟩ := hcond l hl hneeds
      rw [hfirst] at hfirst'
      obtain rfl := Option.some.inj hfirst'
      rw [henable, hneeds']

/-- **Nothing is lost in the merge exactly if no two listeners of a port make virtual hosts of one
name, and the first listener of a port needs the filter where any does.** -/
theorem mergesAll_iff (hnames : (gw.listenerValues.map Listener.name).Nodup) :
    gw.MergesAll domainPattern backend ↔ gw.VirtualHostNamesDistinct ∧ gw.FirstNeedsExtProc domainPattern := by
  rw [← Gateway.virtualHosts_kept_iff domainPattern backend hnames,
    ← Gateway.enableExtProc_iff backend.implementationType backend.calculateEffectiveHostnames]
  constructor
  · rintro ⟨hvh, hext⟩
    refine ⟨fun l hl hhttp h hh => ?_, hext⟩
    exact Gateway.virtualHost?_generator.1
      (hvh l hl hhttp _ _ ((Listener.generated_iff hhttp).2 ⟨h, hh, rfl, rfl⟩))
  · rintro ⟨hkept, hext⟩
    refine ⟨fun l hl hhttp name vh hvh => ?_, hext⟩
    obtain ⟨h, hh, rfl, rfl⟩ := (Listener.generated_iff hhttp).1 hvh
    exact Gateway.virtualHost?_generator.2 (hkept l hl hhttp h hh)

end Merge

/-! ## A pool behind the second listener of a port -/

/-- A route of a pool with an endpoint picker. -/
def poolRoute : Route where
  resourceKey := { ns := "green", name := "pool-route", kind := "HTTPRoute" }
  hostnames := ["pool.com"]
  resolutionStatus := .resolved
  routeType := .http
    [{ name := "pool-route-0"
       backends := [.resolved (.inferencePool
         { resourceKey := { ns := "green", name := "pool", kind := "InferencePool" }
           inferenceConfig := some { endpointPickerRef := { name := "picker" } } })] }]

def plainListener : Listener where
  protocol := .http
  data := { config := { name := "a", port := 80, hostname := some "plain.com" } }

def poolListener : Listener where
  protocol := .http
  data :=
    { config := { name := "b", port := 80, hostname := some "pool.com" }
      resolvedRoutes := .ofRoutes [poolRoute] }

def poolGateway : Gateway where
  id := 1
  resourceKey := { name := "gw" }
  listeners := .ofList [("a", plainListener), ("b", poolListener)]

/-- Its condition decides what becomes of the gateway. -/
theorem poolGateway_mergesAll_iff : poolGateway.MergesAll (fun pattern => some (· = pattern)) .envoy ↔
    poolGateway.VirtualHostNamesDistinct ∧ poolGateway.FirstNeedsExtProc fun pattern => some (· = pattern) :=
  mergesAll_iff (by decide)

/-- The filter the pool needs is off. -/
theorem poolGateway_not_mergesAll : ¬ poolGateway.MergesAll (fun pattern => some (· = pattern)) .envoy := by
  intro hmerges
  have hfirst : poolGateway.firstOn 80 = some plainListener := rfl
  have hneeds : poolListener.needsExtProc (fun pattern => some (· = pattern)) = true := by
    rw [Listener.needsExtProc_iff]
    refine ⟨.inl rfl, "pool.com", List.mem_singleton_self _, poolListener.httpEffectiveRule ["pool.com"] _
      getHttpDefaultRulesMatches, mem_httpRulesFor.2 ⟨poolRoute, List.mem_singleton_self _, rfl, _, rfl, _,
        List.mem_singleton_self _, _, List.mem_singleton_self _, rfl⟩, rfl⟩
  have hmem : poolListener ∈ poolGateway.listenerValues := by
    have hvalues : poolGateway.listenerValues = [plainListener, poolListener] := rfl
    rw [hvalues]
    exact List.mem_cons_of_mem _ (List.mem_singleton_self _)
  obtain ⟨first, hfirst', hneeds'⟩ := (Gateway.enableExtProc_iff _ _).1 hmerges.enableExtProc
    poolListener hmem hneeds
  rw [show poolListener.port = 80 from rfl, hfirst] at hfirst'
  obtain rfl := Option.some.inj hfirst'
  obtain ⟨-, h, -, em, hem, -⟩ := Listener.needsExtProc_iff.1 hneeds'
  obtain ⟨r, hr, -⟩ := mem_httpRulesFor.1 hem
  exact absurd hr List.not_mem_nil

end Kubvernor
