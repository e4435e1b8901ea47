import Kubvernor.Common.ResourceKey
import Mathlib.Tactic.SplitIfs

/-!
# What a reconcile event means

`ResourceStateChecker::check_status` decides from a reconciled object and the stored one which
handler of a controller runs.
-/

namespace Kubvernor

inductive ResourceState
  | new
  | specNotChanged
  | deleted
  | specChanged
  | versionNotChanged
  | statusChanged
  | statusNotChanged
deriving DecidableEq, Repr

/-- The object is on its way out: it has finalizers and a deletion timestamp. -/
def ObjectMeta.IsDeletion (m : ObjectMeta) : Prop := m.finalizers.getD [] ≠ [] ∧ m.deletionTimestamp.isSome

instance (m : ObjectMeta) : Decidable m.IsDeletion := inferInstanceAs (Decidable (_ ∧ _))

/-- `check_status`, for a resource with this metadata and the two checkers of its controller. -/
def checkStatus {R : Type} (metadata : R → ObjectMeta) (specChecker statusChecker : R → R → ResourceState)
    (resource : R) (stored : Option R) : ResourceState :=
  if (metadata resource).finalizers.getD [] ≠ [] ∧ (metadata resource).deletionTimestamp.isSome then .deleted
  else
    match stored with
    | none => .new
    | some stored =>
      if (metadata stored).resourceVersion = (metadata resource).resourceVersion then .versionNotChanged
      else if specChecker resource stored = .specNotChanged then statusChecker resource stored
      else specChecker resource stored

section CheckStatus

variable {R : Type} {metadata : R → ObjectMeta} {specChecker statusChecker : R → R → ResourceState}
variable {resource : R} {stored : Option R}

theorem checkStatus_of_deletion (h : (metadata resource).IsDeletion) :
    checkStatus metadata specChecker statusChecker resource stored = .deleted := if_pos h

theorem checkStatus_of_not_deletion (h : ¬ (metadata resource).IsDeletion) :
    checkStatus metadata specChecker statusChecker resource stored =
      match stored with
      | none => .new
      | some stored =>
        if (metadata stored).resourceVersion = (metadata resource).resourceVersion then .versionNotChanged
        else if specChecker resource stored = .specNotChanged then statusChecker resource stored
        else specChecker resource stored := if_neg h

/-- Only a deletion is found to be one, by checkers that look at something else. -/
theorem checkStatus_eq_deleted_iff (hspec : ∀ r r', specChecker r r' ≠ .deleted)
    (hstatus : ∀ r r', statusChecker r r' ≠ .deleted) :
    checkStatus metadata specChecker statusChecker resource stored = .deleted ↔ (metadata resource).IsDeletion := by
  refine ⟨fun h => ?_, checkStatus_of_deletion⟩
  by_contra hdel
  rw [checkStatus_of_not_deletion hdel] at h
  cases stored with
  | none => cases h
  | some stored =>
    simp only at h
    split_ifs at h
    · exact hstatus _ _ h
    · exact hspec _ _ h

end CheckStatus

end Kubvernor
