import Kubvernor.Common.ResourceKey
import Kubvernor.Lib.RefCount
import Kubvernor.Lib.Transition

/-!
# The multi references resolver

`MultiReferencesResolver` remembers which references every route of every gateway needs and counts
the holders of each reference; the poller keeps fetching the counted ones. The three calls of the
reference validator are given here, with `none` for a counter that underflows, and the two writes
of the poller.
-/

namespace Kubvernor

open Lib

abbrev RouteToReferenceMapping := Std.ExtTreeMap RouteKey (Std.ExtTreeSet ReferenceKey)
abbrev GatewayToRouteReferenceMapping := Std.ExtTreeMap GatewayKey RouteToReferenceMapping

/-- `References`: the holders of each reference and the values fetched so far. -/
structure References (R : Type) where
  parents : Counter ReferenceKey := ∅
  resolvedReferences : Std.ExtTreeMap ReferenceKey R := ∅

namespace References

variable {R : Type}

/-- `References::remove`. -/
def remove (refs : References R) (k : ReferenceKey) : References R :=
  { parents := refs.parents.erase k, resolvedReferences := refs.resolvedReferences.erase k }

/-- `References::remove_resolved_reference`, with the value it returns. -/
def removeResolvedReference (refs : References R) (k : ReferenceKey) : References R × Option R :=
  ({ refs with resolvedReferences := refs.resolvedReferences.erase k }, refs.resolvedReferences[k]?)

/-- `References::add_resolved_reference`: the value is replaced only if it differs in more than its
metadata (`clearMeta` resets that), and the answer says whether anything changed. -/
def addResolvedReference [DecidableEq R] (clearMeta : R → R) (refs : References R) (k : ReferenceKey)
    (reference : R) : References R × Bool :=
  match refs.resolvedReferences[k]? with
  | none => ({ refs with resolvedReferences := refs.resolvedReferences.insert k reference }, true)
  | some f =>
    if clearMeta f ≠ clearMeta reference then
      ({ refs with resolvedReferences := refs.resolvedReferences.insert k reference }, true)
    else (refs, false)

/-- The keys without a holder go, with their values. -/
def removeDead (refs : References R) : References R :=
  refs.parents.dead.foldl remove refs

/-- The counting all three calls end with: the keys of an old mapping down, the keys of a new one
up (none when something is only deleted), then the clean-up. -/
def recount (refs : References R) (old new : List ReferenceKey) : Option (References R) :=
  (refs.parents.decrAll old).map fun parents =>
    { refs with parents := parents.incrAll new }.removeDead

end References

/-- The keys in the order the nested loops over a mapping visit them. -/
def RouteToReferenceMapping.referenceKeys (m : RouteToReferenceMapping) : List ReferenceKey :=
  m.toList.flatMap fun p => p.2.toList

/-- `MultiReferencesResolver`, without its client and its channel. -/
structure MultiReferencesResolver (R : Type) where
  gatewayRouteReferenceMapping : GatewayToRouteReferenceMapping := ∅
  references : References R := {}

namespace MultiReferencesResolver

variable {R : Type}

/-- `add_references_for_gateway`. -/
def addReferencesForGateway (s : MultiReferencesResolver R) (gatewayKey : GatewayKey)
    (routeToReferenceMapping : RouteToReferenceMapping) : Option (MultiReferencesResolver R) :=
  if routeToReferenceMapping.isEmpty then some s
  else
    let mappingsToDelete := (s.gatewayRouteReferenceMapping[gatewayKey]?).getD ∅
    let mapping := s.gatewayRouteReferenceMapping.insert gatewayKey routeToReferenceMapping
    (s.references.recount mappingsToDelete.referenceKeys routeToReferenceMapping.referenceKeys).map
      fun references => { gatewayRouteReferenceMapping := mapping, references := references }

/-- `delete_references_for_gateway`; the mapping it is also given is only logged. -/
def deleteReferencesForGateway (s : MultiReferencesResolver R) (gatewayKey : GatewayKey) :
    Option (MultiReferencesResolver R) :=
  match s.gatewayRouteReferenceMapping[gatewayKey]? with
  | none => some s
  | some oldMappings =>
    let mapping := s.gatewayRouteReferenceMapping.erase gatewayKey
    (s.references.recount oldMappings.referenceKeys []).map
      fun references => { gatewayRouteReferenceMapping := mapping, references := references }

/-- The gateways that list `routeKey`, with what they list under it. -/
def listings (s : MultiReferencesResolver R) (routeKey : RouteKey) :
    List (GatewayKey × Std.ExtTreeSet ReferenceKey) :=
  s.gatewayRouteReferenceMapping.toList.filterMap fun p => p.2[routeKey]?.map fun refs => (p.1, refs)

/-- The references to be deleted with a route: one set for all the gateways that list it. -/
def resourcesToDelete (s : MultiReferencesResolver R) (routeKey : RouteKey) :
    Std.ExtTreeSet ReferenceKey :=
  .ofList ((s.listings routeKey).flatMap fun p => p.2.toList)

/-- `delete_route_references`, with the set of affected gateways it returns. -/
def deleteRouteReferences (s : MultiReferencesResolver R) (routeKey : RouteKey) :
    Option (MultiReferencesResolver R × Std.ExtTreeSet GatewayKey) :=
  let mapping := s.gatewayRouteReferenceMapping.map fun _ m => m.erase routeKey
  (s.references.recount (s.resourcesToDelete routeKey).toList []).map fun references =>
    ({ gatewayRouteReferenceMapping := mapping, references := references },
      .ofList ((s.listings routeKey).map (·.1)))

/-- `get_reference`. -/
def getReference (s : MultiReferencesResolver R) (k : ReferenceKey) : Option R :=
  s.references.resolvedReferences[k]?

/-- What `update_gateways` tells the validator about a changed reference: the gateways with a route
that needs it and all the routes of these gateways. -/
def updateGateways (s : MultiReferencesResolver R) (key : ReferenceKey) :
    Std.ExtTreeSet GatewayKey × Std.ExtTreeSet RouteKey :=
  let affected := s.gatewayRouteReferenceMapping.toList.filter fun p =>
    p.2.toList.any fun q => q.2.contains key
  (.ofList (affected.map (·.1)), .ofList (affected.flatMap fun p => p.2.keys))

end MultiReferencesResolver

/-- What happens to the resolver: the three calls of the validator and the two writes of a poller
task, which come whenever its fetch is answered. -/
inductive ResolverOp (R : Type)
  | addReferencesForGateway (gatewayKey : GatewayKey) (mapping : RouteToReferenceMapping)
  | deleteReferencesForGateway (gatewayKey : GatewayKey)
  | deleteRouteReferences (routeKey : RouteKey)
  | fetched (key : ReferenceKey) (reference : R)
  | notFetched (key : ReferenceKey)

/-- The calls of the reference validator. -/
def ResolverOp.IsCall {R : Type} : ResolverOp R → Prop
  | .fetched .. | .notFetched .. => False
  | _ => True

variable {R : Type} [DecidableEq R] (clearMeta : R → R)

/-- The resolver as a system; a step is `none` when a counter underflows. -/
def resolverSystem : System (MultiReferencesResolver R) (ResolverOp R) where
  init := {}
  step
    | s, .addReferencesForGateway g m => s.addReferencesForGateway g m
    | s, .deleteReferencesForGateway g => s.deleteReferencesForGateway g
    | s, .deleteRouteReferences r => (s.deleteRouteReferences r).map (·.1)
    | s, .fetched k v => some { s with references := (s.references.addResolvedReference clearMeta k v).1 }
    | s, .notFetched k => some { s with references := (s.references.removeResolvedReference k).1 }

end Kubvernor
