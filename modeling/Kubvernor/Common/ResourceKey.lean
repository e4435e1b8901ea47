import Mathlib.Algebra.BigOperators.Group.List.Basic
import Mathlib.Data.Prod.Lex
import Mathlib.Data.String.Basic
import Mathlib.Order.Lex

/-!
# Resource keys

The key under which every Kubernetes object is known to the controller: group, namespace, name and
kind, ordered field by field as the derived `Ord` of the source does. `ObjectMeta` has the metadata
that the controller reads.
-/

namespace Kubvernor

def DEFAULT_GROUP_NAME : String := "gateway.networking.k8s.io"
def DEFAULT_INFERENCE_GROUP_NAME : String := "inference.networking.k8s.io/v1"
def DEFAULT_NAMESPACE_NAME : String := "default"
def DEFAULT_KIND_NAME : String := "Gateway"

/-- `ResourceKey`; `ns` is the source's `namespace`. -/
structure ResourceKey where
  group : String := DEFAULT_GROUP_NAME
  ns : String := DEFAULT_NAMESPACE_NAME
  name : String := ""
  kind : String := DEFAULT_KIND_NAME
deriving Repr, Inhabited

namespace ResourceKey

/-- `ResourceKey::new`. -/
def new (name : String) : ResourceKey := { name := name }

/-- `ResourceKey::namespaced`. -/
def namespaced (name ns : String) : ResourceKey := { name := name, ns := ns }

/-- `create_id`, which `Display` prints. -/
def createId (name ns : String) : String := ns ++ "." ++ name

/-- The fields in the order the derived comparison looks at them. -/
def sortKey (k : ResourceKey) : String ×ₗ String ×ₗ String ×ₗ String :=
  toLex (k.group, toLex (k.ns, toLex (k.name, k.kind)))

theorem sortKey_injective : Function.Injective sortKey := by
  rintro ⟨g, n, m, k⟩ ⟨g', n', m', k'⟩ h
  simp only [sortKey, EmbeddingLike.apply_eq_iff_eq, Prod.mk.injEq] at h
  obtain ⟨rfl, rfl, rfl, rfl⟩ := h
  rfl

theorem eq_of_fields {k k' : ResourceKey} (hgroup : k.group = k'.group) (hns : k.ns = k'.ns)
    (hname : k.name = k'.name) (hkind : k.kind = k'.kind) : k = k' := by
  apply sortKey_injective
  unfold sortKey
  rw [hgroup, hns, hname, hkind]

instance : LinearOrder ResourceKey := LinearOrder.lift' sortKey sortKey_injective

instance : Std.LawfulEqOrd ResourceKey := ⟨compare_eq_iff_eq.1⟩

instance : Std.TransOrd ResourceKey := inferInstance

end ResourceKey

abbrev GatewayKey := ResourceKey
abbrev RouteKey := ResourceKey
abbrev ReferenceKey := ResourceKey

/-- The metadata of a Kubernetes object, as far as the controller reads it. -/
structure ObjectMeta where
  name : Option String := none
  generateName : Option String := none
  ns : Option String := none
  uid : Option String := none
  resourceVersion : Option String := none
  generation : Option Int := none
  deletionTimestamp : Option String := none
  finalizers : Option (List String) := none
deriving DecidableEq, Repr, Inhabited

namespace ObjectMeta

/-- `ResourceExt::name_any`. -/
def nameAny (m : ObjectMeta) : String := (m.name <|> m.generateName).getD ""

/-- The key of an object of this kind, as the `From` instances of `ResourceKey` build it. -/
def resourceKey (m : ObjectMeta) (kind : String) : ResourceKey :=
  { group := DEFAULT_GROUP_NAME, ns := m.ns.getD DEFAULT_NAMESPACE_NAME, name := m.nameAny, kind := kind }

end ObjectMeta

end Kubvernor
