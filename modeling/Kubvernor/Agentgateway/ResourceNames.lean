import Mathlib
import Kubvernor.Agentgateway.ResourceGenerator
import Kubvernor.Controllers.RouteNames
import Kubvernor.Lib.JoinedNames

/-!
# The names of resources

The deltas an agentgateway is sent, and what it stores, go by the names of resources. Binds, listeners,
backends and policies have names of their own. The name of a route is made of the names of the HTTP route
and of its rule: it tells neither the listener the route is attached to nor the namespace it comes from.

**`resourceNames_injOn_iff`**: no two resources of a gateway share a name exactly if no two attached HTTP
routes share theirs.
-/

namespace Kubvernor.Agentgateway

/-! ## Joined names -/

theorem createBindName_inj {port port' protocol protocol' : Int} :
    createBindName port protocol = createBindName port' protocol' ↔ port = port' ∧ protocol = protocol' := by
  have hsplit (port protocol : Int) : (createBindName port protocol).toList =
      ("bind-port-".toList ++ (toString port).toList ++ "-protoco".toList) ++
        'l' :: '-' :: (toString protocol).toList := by
    simp [createBindName, String.toList_append]
  have hnot (i : Int) : 'l' ∉ '-' :: (toString i).toList := by
    rw [List.mem_cons, not_or]
    exact ⟨by decide, Lib.notMem_toList_int (by decide) (by decide) i⟩
  constructor
  · intro h
    have hlist := congrArg String.toList h
    rw [hsplit, hsplit, Lib.append_cons_inj_right (hnot _) (hnot _)] at hlist
    obtain ⟨hport, hprotocol⟩ := hlist
    refine ⟨?_, ?_⟩
    · exact Int.repr_injective (String.toList_injective (List.append_cancel_left (List.append_cancel_right hport)))
    · exact Int.repr_injective (String.toList_injective (List.cons.inj hprotocol).2)
  · rintro ⟨rfl, rfl⟩
    rfl

/-- The key of the route for the rule of this number. -/
theorem routeKey_inj {name name' : String} {i i' : Nat} :
    name ++ "-" ++ (name ++ "-" ++ toString i) = name' ++ "-" ++ (name' ++ "-" ++ toString i') ↔
      name = name' ∧ i = i' := by
  have hsplit (name : String) (i : Nat) : (name ++ "-" ++ (name ++ "-" ++ toString i)).toList =
      (name.toList ++ '-' :: name.toList) ++ '-' :: (toString i).toList := by
    simp [String.toList_append]
  have hnot (i : Nat) : '-' ∉ (toString i).toList := Lib.notMem_toList_nat (by decide) i
  constructor
  · intro h
    have hlist := congrArg String.toList h
    rw [hsplit, hsplit, Lib.append_cons_inj_right (hnot _) (hnot _)] at hlist
    obtain ⟨hname, hi⟩ := hlist
    -- the two halves are as long as each other
    have hlength : name.toList.length = name'.toList.length := by
      have hsum := congrArg List.length hname
      simp only [List.length_append, List.length_cons] at hsum
      omega
    refine ⟨String.toList_injective (List.append_inj hname hlength).1, ?_⟩
    exact Nat.repr_injective (String.toList_injective hi)
  · rintro ⟨rfl, rfl⟩
    rfl

/-! ## Names and keys -/

namespace Spec

/-- The resource that carries a specification, under its key. -/
def toKind : Spec → Kind Spec
  | .bind b => .bind b.key (.bind b)
  | .listener l => .listener l.key (.listener l)
  | .route r => .route r.key (.route r)
  | .backend b => .backend b.key (.backend b)
  | .policy p => .policy p.key (.policy p)

/-- Two specifications of one kind have the same key. -/
def SameKey : Spec → Spec → Prop
  | .bind b, .bind b' => b.key = b'.key
  | .listener l, .listener l' => l.key = l'.key
  | .route r, .route r' => r.key = r'.key
  | .backend b, .backend b' => b.key = b'.key
  | .policy p, .policy p' => p.key = p'.key
  | _, _ => False

/-- The name of a resource is its kind and its key. -/
theorem getResourceName_inj {s s' : Spec} :
    getResourceName s.toKind = getResourceName s'.toKind ↔ s.SameKey s' := by
  rw [← String.toList_inj]
  cases s <;> cases s' <;> simp [toKind, getResourceName, SameKey, String.toList_append, String.toList_inj]

end Spec

/-! ## What is generated -/

section
variable {protocolNumber : Api.BindProtocol ↪ Int} {gateway : Gateway}

theorem createBind_inj {l l' : Listener} (h : (createBind protocolNumber l).key = (createBind protocolNumber l').key) :
    createBind protocolNumber l = createBind protocolNumber l' := by
  obtain ⟨hport, hnumber⟩ := createBindName_inj.1 h
  unfold createBind
  rw [hport, protocolNumber.injective hnumber]

/-- Binds and listeners are those of the gateway's listeners. -/
def BindsListeners (protocolNumber : Api.BindProtocol ↪ Int) (gateway : Gateway)
    (m : Std.ExtTreeMap Api.Bind (List Api.Listener)) : Prop :=
  ∀ (b : Api.Bind) (listeners : List Api.Listener), m[b]? = some listeners →
    (∃ l ∈ gateway.listenerValues, b = createBind protocolNumber l) ∧
      ∀ x ∈ listeners, ∃ l ∈ gateway.listenerValues, x = createListener protocolNumber gateway l

theorem bindsListeners_addListener {m : Std.ExtTreeMap Api.Bind (List Api.Listener)}
    (h : BindsListeners protocolNumber gateway m) {l : Listener} (hl : l ∈ gateway.listenerValues) :
    BindsListeners protocolNumber gateway (addListener protocolNumber gateway m l) := by
  have hinsert : addListener protocolNumber gateway m l = m.insert (createBind protocolNumber l)
      (m[createBind protocolNumber l]?.getD [] ++ [createListener protocolNumber gateway l]) := by
    unfold addListener
    dsimp only
    cases m[createBind protocolNumber l]? with
    | none => rfl
    | some listeners => rfl
  intro b listeners hb
  rw [hinsert, Std.ExtTreeMap.getElem?_insert] at hb
  split at hb
  · rename_i hk
    obtain rfl := Std.LawfulEqOrd.eq_of_compare hk
    obtain rfl := Option.some.inj hb
    refine ⟨⟨l, hl, rfl⟩, fun x hx => ?_⟩
    rcases List.mem_append.1 hx with hx | hx
    · cases hold : m[createBind protocolNumber l]? with
      | none =>
        rw [hold] at hx
        cases hx
      | some listeners =>
        rw [hold] at hx
        exact (h _ listeners hold).2 x hx
    · exact ⟨l, hl, List.mem_singleton.1 hx⟩
  · exact h b listeners hb

/-- What is generated for a bind, with its listeners. -/
theorem of_mem_bindings {p : Api.Bind × List Api.Listener}
    (hp : p ∈ (generateBindingsAndListeners protocolNumber gateway).toList) :
    (∃ l ∈ gateway.listenerValues, p.1 = createBind protocolNumber l) ∧
      ∀ x ∈ p.2, ∃ l ∈ gateway.listenerValues, x = createListener protocolNumber gateway l := by
  suffices h : BindsListeners protocolNumber gateway (generateBindingsAndListeners protocolNumber gateway) from
    h p.1 p.2 (Std.ExtTreeMap.mem_toList_iff_getElem?_eq_some.1 hp)
  unfold generateBindingsAndListeners
  refine List.foldlRecOn gateway.listenerValues _ ?_ fun _ hm l hl => bindsListeners_addListener hm hl
  intro b listeners hb
  rw [Std.ExtTreeMap.getElem?_empty] at hb
  cases hb

/-- Every backend is collected under its key. -/
theorem AttachedRule.backends_key {r : AttachedRule} {p : String × Api.Backend} (hp : p ∈ r.backends) :
    p.2.key = p.1 := by
  rcases List.mem_append.1 hp with hp | hp
  · obtain ⟨b, -, hb⟩ := List.mem_flatMap.1 hp
    unfold createBackends at hb
    split at hb
    · rw [List.mem_singleton.1 hb]
    · cases hb
  · obtain ⟨q, -, hq⟩ := List.mem_filterMap.1 hp
    obtain ⟨spec, -, rfl⟩ := Option.map_eq_some_iff.1 hq
    rfl

/-- Every policy is collected under its key. -/
theorem AttachedRule.policies_key {r : AttachedRule} {p : String × Api.Policy} (hp : p ∈ r.policies) :
    p.2.key = p.1 := by
  obtain ⟨q, -, rfl⟩ := List.mem_map.1 hp
  rfl

/-- Of the values collected under their keys, one has each key. -/
theorem eq_of_collected {α : Type} {key : α → String} {l : List (String × α)} (hl : ∀ p ∈ l, key p.2 = p.1)
    {a a' : α} (ha : a ∈ (Std.ExtTreeMap.ofList l).toList.map (·.2))
    (ha' : a' ∈ (Std.ExtTreeMap.ofList l).toList.map (·.2)) (h : key a = key a') : a = a' := by
  obtain ⟨k, hk⟩ := Lib.mem_values.1 ha
  obtain ⟨k', hk'⟩ := Lib.mem_values.1 ha'
  obtain rfl : key a = k := hl _ (Lib.mem_of_getElem?_ofList hk)
  obtain rfl : key a' = k' := hl _ (Lib.mem_of_getElem?_ofList hk')
  rw [h, hk'] at hk
  exact (Option.some.inj hk).symm

end

/-! ## Attached routes -/

/-- The HTTP routes with rules that are attached to the listeners of a gateway. -/
def attachments (gateway : Gateway) : List (Listener × Route) :=
  gateway.listenerValues.flatMap fun l =>
    ((l.routes.1 ++ l.routes.2).filter fun route => route.httpRules ≠ []).map fun route => (l, route)

variable {gateway : Gateway}

theorem mem_attachments {a : Listener × Route} : a ∈ attachments gateway ↔
    a.1 ∈ gateway.listenerValues ∧ a.2 ∈ a.1.routes.1 ++ a.1.routes.2 ∧ a.2.httpRules ≠ [] := by
  simp only [attachments, List.mem_flatMap, List.mem_map, List.mem_filter, decide_eq_true_eq]
  constructor
  · rintro ⟨l, hl, route, hroute, rfl⟩
    exact ⟨hl, hroute⟩
  · rintro ⟨hl, hroute⟩
    exact ⟨a.1, hl, a.2, hroute, rfl⟩

/-- The rounds go over the rules of the attached routes. -/
theorem mem_attachedRules {r : AttachedRule} : r ∈ attachedRules gateway ↔
    (r.listener, r.route) ∈ attachments gateway ∧ r.routingRules = r.route.httpRules ∧
      r.routingRule ∈ r.route.httpRules := by
  have hrules : attachedRules gateway = gateway.listenerValues.flatMap fun l => (l.routes.1 ++ l.routes.2).flatMap
      fun route => route.httpRules.map fun rule => ⟨l, route, route.httpRules, rule⟩ := by
    unfold attachedRules Route.httpRules
    congr 1
    funext l
    congr 1
    funext route
    cases route.routeType with
    | http rules => rfl
    | grpc rules => rfl
  simp only [hrules, List.mem_flatMap, List.mem_map, mem_attachments]
  constructor
  · rintro ⟨l, hl, route, hroute, rule, hrule, rfl⟩
    exact ⟨⟨hl, hroute, List.ne_nil_of_mem hrule⟩, rfl, hrule⟩
  · rintro ⟨⟨hl, hroute, -⟩, heq, hrule⟩
    refine ⟨r.listener, hl, r.route, hroute, r.routingRule, hrule, ?_⟩
    rw [← heq]

section WellNamed

variable (hg : gateway.WellNamed)
include hg

theorem named_of_mem {a : Listener × Route} (ha : a ∈ attachments gateway) : a.2.Named := by
  obtain ⟨hl, hroute, -⟩ := mem_attachments.1 ha
  exact (hg.routesNamed hl).named hroute

theorem attachment_eq {a a' : Listener × Route} (ha : a ∈ attachments gateway) (ha' : a' ∈ attachments gateway)
    (hlistener : a.1.name = a'.1.name) (hroute : a.2.resourceKey = a'.2.resourceKey) : a = a' := by
  obtain ⟨l, route⟩ := a
  obtain ⟨l', route'⟩ := a'
  obtain ⟨hl, hr, -⟩ := mem_attachments.1 ha
  obtain ⟨hl', hr', -⟩ := mem_attachments.1 ha'
  obtain rfl : l = l' := hg.eq_of_name hl hl' hlistener
  obtain rfl : route = route' := List.inj_on_of_nodup_map (hg.routesNamed hl).nodup_keys hr hr' hroute
  rfl

theorem nodup_attachments : (attachments gateway).Nodup := by
  refine List.nodup_flatMap.2 ⟨fun l hl => ?_, ?_⟩
  · exact ((hg.routesNamed hl).nodup_keys.of_map.filter _).map (Prod.mk_right_injective l)
  · refine hg.nodup_names.of_map.imp fun hne a ha ha' => ?_
    obtain ⟨_, -, rfl⟩ := List.mem_map.1 ha
    obtain ⟨_, -, heq⟩ := List.mem_map.1 ha'
    exact hne (congrArg Prod.fst heq).symm

/-- The key of a route tells the HTTP route's name and the number of the rule. -/
theorem routeKey_eq_iff {r r' : AttachedRule} {i i' : Nat} (hr : r ∈ attachedRules gateway)
    (hr' : r' ∈ attachedRules gateway) (hi : r.route.httpRules[i]? = some r.routingRule)
    (hi' : r'.route.httpRules[i']? = some r'.routingRule) :
    r.routeKey = r'.routeKey ↔ r.route.resourceKey.name = r'.route.resourceKey.name ∧ i = i' := by
  have hnamed := named_of_mem hg (mem_attachedRules.1 hr).1
  have hnamed' := named_of_mem hg (mem_attachedRules.1 hr').1
  unfold AttachedRule.routeKey
  rw [hnamed.rules i _ hi, hnamed'.rules i' _ hi', routeKey_inj]

end WellNamed

/-! ## Uniqueness -/

variable {protocolNumber : Api.BindProtocol ↪ Int} {methodJson : HTTPMethod → Option String}
  {parseIpAddr : String → Option (List UInt8)}

/-- The specification of a resource that is generated for a gateway. -/
def Generated (protocolNumber : Api.BindProtocol ↪ Int) (methodJson : HTTPMethod → Option String) (gateway : Gateway) :
    Spec → Prop
  | .bind b => b ∈ (generateBindingsAndListeners protocolNumber gateway).toList.map (·.1)
  | .listener l => l ∈ (generateBindingsAndListeners protocolNumber gateway).toList.flatMap (·.2)
  | .route r => r ∈ (attachedRules gateway).map (·.toRoute methodJson)
  | .backend b => b ∈ (Std.ExtTreeMap.ofList ((attachedRules gateway).flatMap (·.backends))).toList.map (·.2)
  | .policy p => p ∈ (Std.ExtTreeMap.ofList ((attachedRules gateway).flatMap (·.policies))).toList.map (·.2)

theorem mem_updateResources {k : Kind Spec} : k ∈ updateResources protocolNumber methodJson parseIpAddr gateway ↔
    ∃ s, Generated protocolNumber methodJson gateway s ∧ s.toKind = k := by
  simp only [updateResources, generateRoutesAndBackendsAndPolicies, List.mem_append, List.mem_map (b := k)]
  constructor
  · rintro ((((⟨p, hp, rfl⟩ | ⟨l, hl, rfl⟩) | ⟨r, hr, rfl⟩) | ⟨b, hb, rfl⟩) | ⟨p, hp, rfl⟩)
    · exact ⟨.bind p.1, List.mem_map_of_mem hp, rfl⟩
    · exact ⟨.listener l, hl, rfl⟩
    · exact ⟨.route r, hr, rfl⟩
    · exact ⟨.backend b, hb, rfl⟩
    · exact ⟨.policy p, hp, rfl⟩
  · rintro ⟨s, hs, rfl⟩
    cases s with
    | bind b =>
      obtain ⟨p, hp, rfl⟩ := List.mem_map.1 hs
      exact .inl (.inl (.inl (.inl ⟨p, hp, rfl⟩)))
    | listener l => exact .inl (.inl (.inl (.inr ⟨l, hs, rfl⟩)))
    | route r => exact .inl (.inl (.inr ⟨r, hs, rfl⟩))
    | backend b => exact .inl (.inr ⟨b, hs, rfl⟩)
    | policy p => exact .inr ⟨p, hs, rfl⟩

/-- With distinct names of attached routes, a route is known by its key. -/
theorem toRoute_eq_of_routeKey (hg : gateway.WellNamed)
    (hnames : ((attachments gateway).map fun a => a.2.resourceKey.name).Nodup) {r r' : AttachedRule}
    (hr : r ∈ attachedRules gateway) (hr' : r' ∈ attachedRules gateway) (hkey : r.routeKey = r'.routeKey) :
    r.toRoute methodJson = r'.toRoute methodJson := by
  obtain ⟨hattached, -, hrule⟩ := mem_attachedRules.1 hr
  obtain ⟨hattached', -, hrule'⟩ := mem_attachedRules.1 hr'
  obtain ⟨i, hi⟩ := List.mem_iff_getElem?.1 hrule
  obtain ⟨i', hi'⟩ := List.mem_iff_getElem?.1 hrule'
  obtain ⟨hname, rfl⟩ := (routeKey_eq_iff hg hr hr' hi hi').1 hkey
  -- routes of one name are attached once
  obtain ⟨hlistener, hroute⟩ := Prod.mk.inj (List.inj_on_of_nodup_map hnames hattached hattached' hname)
  have hsame : r.routingRule = r'.routingRule := by
    rw [hroute, hi'] at hi
    exact (Option.some.inj hi).symm
  unfold AttachedRule.toRoute AttachedRule.routeKey AttachedRule.trafficPolicies
  rw [hlistener, hroute, hsame]

/-- With distinct names of attached routes, one resource of each kind has a key. -/
theorem eq_of_sameKey (hg : gateway.WellNamed)
    (hnames : ((attachments gateway).map fun a => a.2.resourceKey.name).Nodup) {s s' : Spec}
    (hs : Generated protocolNumber methodJson gateway s) (hs' : Generated protocolNumber methodJson gateway s')
    (hkey : s.SameKey s') :
    s = s' := by
  cases s with
  | bind b =>
    cases s' with
    | bind b' =>
      obtain ⟨p, hp, rfl⟩ := List.mem_map.1 hs
      obtain ⟨p', hp', rfl⟩ := List.mem_map.1 hs'
      obtain ⟨l, -, hl⟩ := (of_mem_bindings hp).1
      obtain ⟨l', -, hl'⟩ := (of_mem_bindings hp').1
      have hbind : createBind protocolNumber l = createBind protocolNumber l' := by
        apply createBind_inj
        rw [← hl, ← hl']
        exact hkey
      rw [hl, hl', hbind]
    | _ => exact hkey.elim
  | listener x =>
    cases s' with
    | listener x' =>
      obtain ⟨p, hp, hx⟩ := List.mem_flatMap.1 hs
      obtain ⟨p', hp', hx'⟩ := List.mem_flatMap.1 hs'
      obtain ⟨l, hl, rfl⟩ := (of_mem_bindings hp).2 x hx
      obtain ⟨l', hl', rfl⟩ := (of_mem_bindings hp').2 x' hx'
      rw [hg.eq_of_name hl hl' hkey]
    | _ => exact hkey.elim
  | route x =>
    cases s' with
    | route x' =>
      obtain ⟨r, hr, rfl⟩ := List.mem_map.1 hs
      obtain ⟨r', hr', rfl⟩ := List.mem_map.1 hs'
      exact congrArg Spec.route (toRoute_eq_of_routeKey hg hnames hr hr' hkey)
    | _ => exact hkey.elim
  | backend b =>
    cases s' with
    | backend b' =>
      refine congrArg Spec.backend (eq_of_collected (fun p hp => ?_) hs hs' hkey)
      obtain ⟨r, -, hr⟩ := List.mem_flatMap.1 hp
      exact AttachedRule.backends_key hr
    | _ => exact hkey.elim
  | policy p =>
    cases s' with
    | policy p' =>
      refine congrArg Spec.policy (eq_of_collected (fun p hp => ?_) hs hs' hkey)
      obtain ⟨r, -, hr⟩ := List.mem_flatMap.1 hp
      exact AttachedRule.policies_key hr
    | _ => exact hkey.elim

/-- **When resource names are unique.** No two resources of a gateway have one name exactly if no two of the
HTTP routes attached to its listeners have one: neither a route attached to two listeners, nor routes of two
namespaces. -/
theorem resourceNames_injOn_iff (hg : gateway.WellNamed) :
    Set.InjOn getResourceName {k | k ∈ updateResources protocolNumber methodJson parseIpAddr gateway} ↔
      ((attachments gateway).map fun a => a.2.resourceKey.name).Nodup := by
  constructor
  · intro hinj
    refine (nodup_attachments hg).map_on ?_
    rintro ⟨l, route⟩ ha ⟨l', route'⟩ ha' hname
    obtain ⟨rule, rules, hrules⟩ := List.exists_cons_of_ne_nil (mem_attachments.1 ha).2.2
    obtain ⟨rule', rules', hrules'⟩ := List.exists_cons_of_ne_nil (mem_attachments.1 ha').2.2
    -- the routes for the first rules have one key
    have hr : ⟨l, route, route.httpRules, rule⟩ ∈ attachedRules gateway :=
      mem_attachedRules.2 ⟨ha, rfl, hrules ▸ List.mem_cons_self⟩
    have hr' : ⟨l', route', route'.httpRules, rule'⟩ ∈ attachedRules gateway :=
      mem_attachedRules.2 ⟨ha', rfl, hrules' ▸ List.mem_cons_self⟩
    have hfirst : route.httpRules[0]? = some rule := by
      rw [hrules]
      rfl
    have hfirst' : route'.httpRules[0]? = some rule' := by
      rw [hrules']
      rfl
    have hkey := (routeKey_eq_iff hg hr hr' hfirst hfirst').2 ⟨hname, rfl⟩
    have hkind := hinj (mem_updateResources.2 ⟨.route _, List.mem_map_of_mem hr, rfl⟩)
      (mem_updateResources.2 ⟨.route _, List.mem_map_of_mem hr', rfl⟩) (Spec.getResourceName_inj.2 hkey)
    -- so they are one, of one listener and one namespace
    obtain ⟨-, hspec⟩ := Kind.route.inj hkind
    have hroute := Spec.route.inj hspec
    have hlistener : l.name = l'.name := congrArg Api.Route.listenerKey hroute
    have hns : route.resourceKey.ns = route'.resourceKey.ns := congrArg (fun r => r.name.ns) hroute
    exact attachment_eq hg ha ha' hlistener ((named_of_mem hg ha).key_eq (named_of_mem hg ha')
      (mem_attachments.1 ha).2.2 (mem_attachments.1 ha').2.2 hns hname)
  · intro hnames k hk k' hk' hname
    obtain ⟨s, hs, rfl⟩ := mem_updateResources.1 hk
    obtain ⟨s', hs', rfl⟩ := mem_updateResources.1 hk'
    rw [eq_of_sameKey hg hnames hs hs' (Spec.getResourceName_inj.1 hname)]

/-! ## A route on one listener and on two -/

/-- The numbers of the protocols. -/
def bindProtocolNumber : Api.BindProtocol ↪ Int where
  toFun
    | .http => 0
    | .tls => 1
    | .tcp => 2
  inj' p p' := by cases p <;> cases p' <;> simp

/-- A Gateway object with HTTP listeners of these names and ports. -/
def edgeKubeGateway (listeners : List (String × Int)) : KubeGateway where
  metadata := { name := some "edge" }
  spec :=
    { gatewayClassName := "agentgateway"
      listeners := listeners.map fun l => { name := l.1, port := l.2, protocol := "HTTP" } }

def edgeListener (l : String × Int) : Listener where
  protocol := .http
  data :=
    { config := { name := l.1, port := l.2 }
      conditions := ListenerConditions.replace ∅ (.resolvedRefs (.resolved ["HTTPRoute", "GRPCRoute"])) }

/-- The gateway as it is converted. -/
def edgeGateway (listeners : List (String × Int)) : Gateway where
  id := 1
  resourceKey := { name := "edge" }
  listeners := .ofList (listeners.map fun l => (l.1, edgeListener l))
  backendType := .agentgateway

/-- A route that asks for the gateway, and for no listener of it in particular. -/
def shopRoute : HTTPRoute where
  metadata := { name := some "shop" }
  spec := { parentRefs := some [{ name := "edge" }], rules := some [{}, {}] }

def edgeResolver : RouteResolver where
  api := { getService := fun _ _ => false, listPodIPs := fun _ _ => [], patchStatus := fun _ _ => false }
  gatewayResourceKey := { name := "edge" }

def edgeMatcher (listeners : List (String × Int)) : RouteListenerMatcher where
  gateway := edgeKubeGateway listeners
  routes := [(edgeResolver.resolve (.ofHTTPRoute (fun _ => false) shopRoute) {}).1]

/-- The gateway as it is deployed. -/
def deployedEdgeGateway (listeners : List (String × Int)) : Gateway :=
  (edgeGateway listeners).processed (fun _ => none) emptyValidator (edgeMatcher listeners)

/-- One listener has the route. -/
theorem oneListener_injOn :
    Set.InjOn getResourceName
      {k | k ∈ updateResources bindProtocolNumber quotedMethod (fun _ => none)
        (deployedEdgeGateway [("http", 80)])} := by
  have hroutes : ∀ r ∈ (edgeMatcher [("http", 80)]).routes, r.Named := by
    intro r hr
    rw [List.mem_singleton.1 hr]
    exact edgeResolver.resolve_named (Route.named_ofHTTPRoute _ shopRoute) {}
  have hconverted : Gateway.tryFrom (fun _ => some 1) (edgeKubeGateway [("http", 80)]) .agentgateway =
      .ok (edgeGateway [("http", 80)]) := rfl
  refine (resourceNames_injOn_iff ((Gateway.wellNamed_of_tryFrom hconverted).processed hroutes)).2 ?_
  decide +kernel

/-- **Two listeners have the route**, and its rules have one name for both of them. -/
theorem twoListeners_not_injOn :
    Gateway.tryFrom (fun _ => some 1) (edgeKubeGateway [("http", 80), ("alt", 8080)]) .agentgateway =
        .ok (edgeGateway [("http", 80), ("alt", 8080)]) ∧
      ¬ Set.InjOn getResourceName
        {k | k ∈ updateResources bindProtocolNumber quotedMethod (fun _ => none)
          (deployedEdgeGateway [("http", 80), ("alt", 8080)])} := by
  refine ⟨rfl, fun hinj => ?_⟩
  have hclash : ∃ k ∈ updateResources bindProtocolNumber quotedMethod (fun _ => none)
        (deployedEdgeGateway [("http", 80), ("alt", 8080)]),
      ∃ k' ∈ updateResources bindProtocolNumber quotedMethod (fun _ => none)
        (deployedEdgeGateway [("http", 80), ("alt", 8080)]),
      getResourceName k = getResourceName k' ∧ k ≠ k' := by decide +kernel
  obtain ⟨k, hk, k', hk', hname, hne⟩ := hclash
  exact hne (hinj hk hk' hname)

end Kubvernor.Agentgateway
