import Kubvernor.Common.ResourceKey
import Mathlib.Order.WithBot

/-!
# Reference grants

A reference grant lets objects of one kind in one namespace refer to objects of another kind in the
namespace of the grant. `ReferenceGrantRef` is one such permission for one gateway, and
`ReferenceGrantsResolver` answers from the set of permissions it resolved last.
-/

namespace Kubvernor

structure FromResourceKey where
  group : String
  ns : String
  kind : String
deriving Repr

/-- `FromResourceKey::from(&ResourceKey)`. -/
def FromResourceKey.ofKey (k : ResourceKey) : FromResourceKey := { group := k.group, ns := k.ns, kind := k.kind }

structure ToResourceKey where
  group : String
  name : Option String
  kind : String
deriving Repr

/-- `ToResourceKey::from(&ResourceKey)`: an empty group is the default one, an empty name is any. -/
def ToResourceKey.ofKey (k : ResourceKey) : ToResourceKey where
  group := if k.group = "" then DEFAULT_GROUP_NAME else k.group
  name := if k.name = "" then none else some k.name
  kind := k.kind

structure ReferenceGrantRef where
  sender : FromResourceKey
  target : ToResourceKey
  gatewayKey : ResourceKey
  ns : String
deriving Repr

namespace ReferenceGrantRef

/-- The permission a gateway needs for a reference between two objects. -/
def ofKeys (sender target gatewayKey : ResourceKey) : ReferenceGrantRef where
  sender := .ofKey sender
  target := .ofKey target
  gatewayKey := gatewayKey
  ns := target.ns

/-- The fields in the order the derived comparison looks at them. -/
def sortKey (r : ReferenceGrantRef) :
    (String ×ₗ String ×ₗ String) ×ₗ (String ×ₗ WithBot String ×ₗ String) ×ₗ ResourceKey ×ₗ String :=
  toLex (toLex (r.sender.group, toLex (r.sender.ns, r.sender.kind)),
    toLex (toLex (r.target.group, toLex (r.target.name, r.target.kind)), toLex (r.gatewayKey, r.ns)))

theorem sortKey_injective : Function.Injective sortKey := by
  rintro ⟨⟨g, n, k⟩, ⟨tg, tn, tk⟩, gw, ns⟩ ⟨⟨g', n', k'⟩, ⟨tg', tn', tk'⟩, gw', ns'⟩ h
  simp only [sortKey, EmbeddingLike.apply_eq_iff_eq, Prod.mk.injEq] at h
  obtain ⟨⟨rfl, rfl, rfl⟩, ⟨rfl, rfl, rfl⟩, rfl, rfl⟩ := h
  rfl

instance : LinearOrder ReferenceGrantRef := LinearOrder.lift' sortKey sortKey_injective

instance : Std.LawfulEqOrd ReferenceGrantRef := ⟨compare_eq_iff_eq.1⟩

instance : Std.TransOrd ReferenceGrantRef := inferInstance

end ReferenceGrantRef

/-- `ReferenceGrantsResolver`: the references it tracks and the permissions found for them. -/
structure ReferenceGrantsResolver where
  references : Std.ExtTreeSet ReferenceGrantRef := ∅
  resolvedReferenceGrants : Std.ExtTreeSet ReferenceGrantRef := ∅

/-- `ReferenceGrantsResolver::is_allowed`. -/
def ReferenceGrantsResolver.isAllowed (s : ReferenceGrantsResolver) (sender target gatewayKey : ResourceKey) :
    Bool :=
  s.resolvedReferenceGrants.contains (.ofKeys sender target gatewayKey)

end Kubvernor
