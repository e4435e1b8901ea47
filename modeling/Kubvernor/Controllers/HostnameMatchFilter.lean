import Kubvernor.Common.Route
import Mathlib.Data.List.DropRight

/-!
# Matching hostnames

Which routes a listener's hostname admits. The source matches with patterns of a domain matching
library; here `domainPattern` stands for it: it parses a pattern, if it can, into the test of a
hostname.
-/

namespace Kubvernor

/-! ## Strings -/

/-- `str::strip_prefix`. -/
def stripPrefix (start s : String) : Option String :=
  if start.toList.isPrefixOf s.toList then some (String.ofList (s.toList.drop start.length)) else none

theorem stripPrefix_eq_some {start s t : String} : stripPrefix start s = some t ↔ s = start ++ t := by
  unfold stripPrefix
  constructor
  · intro h
    split at h
    · rename_i hprefix
      obtain ⟨u, hu⟩ := List.isPrefixOf_iff_prefix.1 hprefix
      rw [← Option.some.inj h, ← hu, ← String.length_toList, List.drop_left]
      apply String.toList_inj.1
      rw [String.toList_append, String.toList_ofList, hu]
    · cases h
  · rintro rfl
    rw [String.toList_append, if_pos (List.isPrefixOf_iff_prefix.2 (List.prefix_append _ _)), ← String.length_toList,
      List.drop_left, String.ofList_toList]

/-- `str::trim_end_matches`, for one character. -/
def trimEndMatches (s : String) (c : Char) : String := String.ofList (s.toList.rdropWhile (· = c))

/-! ## The filter -/

variable (domainPattern : String → Option (String → Bool))

structure HostnameMatchFilter where
  listenerHostname : String
  routeHostnames : List String
deriving DecidableEq, Repr

namespace HostnameMatchFilter

/-- `HostnameMatchFilter::filter`: a wildcard of the listener covers any number of labels, and one
of a route is tried as a pattern of its own on the listener's hostname. -/
def filter (f : HostnameMatchFilter) : Bool :=
  if f.routeHostnames ≠ [] ∧ f.listenerHostname = "" then true
  else
    match f.routeHostnames with
    | [] => true
    | hostname :: _ =>
      if hostname = DEFAULT_ROUTE_HOSTNAME then true
      else
        let pattern := match stripPrefix "*." f.listenerHostname with
          | some stripped => "**+." ++ stripped
          | none => f.listenerHostname
        match domainPattern pattern with
        | none => false
        | some isMatch =>
          if f.routeHostnames.any isMatch then true
          else
            (f.routeHostnames.filter fun r => (stripPrefix "*." r).isSome).any fun r =>
              match domainPattern r with
              | some isRouteMatch => isRouteMatch f.listenerHostname
              | none => false

/-- A route without hostnames is admitted everywhere. -/
@[simp] theorem filter_nil (listenerHostname : String) :
    filter domainPattern ⟨listenerHostname, []⟩ = true := rfl

end HostnameMatchFilter

end Kubvernor
