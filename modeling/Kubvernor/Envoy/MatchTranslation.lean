import Kubvernor.Envoy.Routes
import Kubvernor.Lib.Matching

/-!
# The translation of HTTP matches

Which requests a match of the Gateway API accepts, and which requests the match of Envoy made of it
accepts. Both read the path element by element or as a whole, and both give patterns to the same
regular expression matcher, `regexMatch`.

The translation forgets two things: a path without a type becomes the exact path `/`, and every
header match becomes an exact one. It also takes the slash off the end of every path value, where
only a prefix may lose it. When this changes what is accepted is said by `RouteMatch.Kept`
(`HTTPEffectiveRoutingRule.accepts_iff_kept`).
-/

namespace Kubvernor

/-! ## Requests -/

/-- The path of a request begins with a slash. -/
abbrev RequestPath := {path : String // path.toList.head? = some '/'}

/-- The headers of a request are looked up by their names in lower case. -/
structure Request where
  path : RequestPath
  headers : String → Option String

def Request.header (r : Request) (name : String) : Option String := r.headers name.toLower

/-! ## The match of the Gateway API -/

/-- The elements of a path, between its slashes. -/
def pathElements (path : String) : List (List Char) := path.toList.splitOn '/'

/-- A path value without a slash at its end. -/
def dropSlash (value : String) : String :=
  if value.toList.getLast? = some '/' then String.ofList value.toList.dropLast else value

def HeaderMatch.matchType (h : HeaderMatch) : HeaderMatchType := h.type.getD .exact

namespace RouteMatch

/-- The type of the path match; it is a prefix if nothing is said. -/
def pathType (m : RouteMatch) : HttpRouteRulesMatchesPathType :=
  (m.path.bind (·.type)).getD .pathPrefix

/-- The value of the path match; it is the root if nothing is said. -/
def pathValue (m : RouteMatch) : String := (m.path.bind (·.value)).getD "/"

def headerMatches (m : RouteMatch) : List HeaderMatch := m.headers.getD []

/-- A match on path and headers only; its path value is absolute and has no empty element. -/
structure OnPathAndHeaders (m : RouteMatch) : Prop where
  method : m.method = none
  queryParams : m.queryParams.getD [] = []
  absolute : m.pathValue.toList.head? = some '/'
  noEmptyElement : ¬ ['/', '/'] <:+: m.pathValue.toList

end RouteMatch

section Meaning

-- `regexMatch pattern text`: the pattern matches the whole text.
variable (regexMatch : String → String → Bool)

/-- A prefix matches whole elements, whether or not a slash follows it. -/
def HttpRouteRulesMatchesPathType.Accepts (type : HttpRouteRulesMatchesPathType)
    (value path : String) : Prop :=
  match type with
  | .exact => path = value
  | .pathPrefix => pathElements (dropSlash value) <+: pathElements path
  | .regularExpression => regexMatch value path = true

def HeaderMatch.Accepts (h : HeaderMatch) (value : String) : Prop :=
  match h.matchType with
  | .exact => value = h.value
  | .regularExpression => regexMatch h.value value = true

/-- The meaning of a match on path and headers. -/
def RouteMatch.Accepts (m : RouteMatch) (request : Request) : Prop :=
  m.pathType.Accepts regexMatch m.pathValue request.path ∧
    ∀ h ∈ m.headerMatches, ∃ value ∈ request.header h.name, h.Accepts regexMatch value

/-! ## The match of Envoy -/

def PathSpecifier.Accepts (specifier : PathSpecifier) (path : String) : Prop :=
  match specifier with
  | .path value => path = value
  | .pathPrefix value => value.toList <+: path.toList
  | .pathSeparatedPrefix value => path = value ∨ value.toList ++ ['/'] <+: path.toList
  | .safeRegex regex => regexMatch regex path = true

def EnvoyRouteMatch.Accepts (m : EnvoyRouteMatch) (request : Request) : Prop :=
  (∀ specifier ∈ m.pathSpecifier, specifier.Accepts regexMatch request.path) ∧
    ∀ h ∈ m.headers, request.header h.name = some h.exact

/-! ## What is kept -/

/-- A path value without the slash at its end, unless it is the root. -/
def withoutSlash (value : String) : String := if value = "/" then value else dropSlash value

namespace RouteMatch

/-- The path has a type, and the slash at the end of its value does not matter. -/
def PathKept (m : RouteMatch) : Prop :=
  ∃ type ∈ m.path.bind (·.type), match type with
    | .exact => withoutSlash m.pathValue = m.pathValue
    | .pathPrefix => True
    | .regularExpression => ∀ path : RequestPath,
        regexMatch m.pathValue path = regexMatch (withoutSlash m.pathValue) path

/-- The patterns of a header that is not also matched exactly match nothing but themselves. -/
def HeadersKept (m : RouteMatch) : Prop :=
  ∀ h ∈ m.headerMatches, (∀ h' ∈ m.headerMatches, h'.name.toLower = h.name.toLower →
    h'.matchType = .regularExpression) → ∀ value, regexMatch h.value value = true ↔ value = h.value

/-- The pattern of the path matches no path, or the matches of one header have no value in common. -/
def Unmatchable (m : RouteMatch) : Prop :=
  (m.pathType = .regularExpression ∧
    ∀ path : RequestPath, regexMatch m.pathValue path = false) ∨
  ∃ name, ∀ value, ∃ h ∈ m.headerMatches, h.name.toLower = name ∧ ¬ h.Accepts regexMatch value

/-- The pattern of the path, without the slash at its end, matches no path, or two matches of one
header have different values. -/
def UnmatchableAsLiteral (m : RouteMatch) : Prop :=
  (m.pathType = .regularExpression ∧
    ∀ path : RequestPath, regexMatch (withoutSlash m.pathValue) path = false) ∨
  ∃ h ∈ m.headerMatches, ∃ h' ∈ m.headerMatches,
    h.name.toLower = h'.name.toLower ∧ h.value ≠ h'.value

/-- What the translation keeps: the path and the headers, or that nothing is accepted. -/
def Kept (m : RouteMatch) : Prop :=
  (m.Unmatchable regexMatch ∧ m.UnmatchableAsLiteral regexMatch) ∨
    (¬ m.Unmatchable regexMatch ∧ ¬ m.UnmatchableAsLiteral regexMatch ∧
      m.PathKept regexMatch ∧ m.HeadersKept regexMatch)

end RouteMatch

/-! ## Path values -/

/-- A value does not end in a slash, and nothing is dropped, or it is what is left and the slash. -/
theorem dropSlash_cases (value : String) :
    (value.toList.getLast? ≠ some '/' ∧ dropSlash value = value) ∨
      value.toList = (dropSlash value).toList ++ ['/'] := by
  by_cases hlast : value.toList.getLast? = some '/'
  · obtain ⟨init, hinit⟩ := List.getLast?_eq_some_iff.1 hlast
    refine .inr ?_
    rw [dropSlash, if_pos hlast, hinit, List.dropLast_concat, String.toList_ofList]
  · exact .inl ⟨hlast, if_neg hlast⟩

theorem absolute_iff {value : String} :
    value.toList.head? = some '/' ↔ ∃ rest : String, value = "/" ++ rest := by
  constructor
  · intro h
    obtain ⟨rest, hrest⟩ := List.head?_eq_some_iff.1 h
    refine ⟨String.ofList rest, String.toList_inj.1 ?_⟩
    simp only [hrest, String.toList_append, String.toList_ofList]
    rfl
  · rintro ⟨rest, rfl⟩
    rw [String.toList_append]
    rfl

variable {value : String}

/-- A path stays absolute when something absolute is put in the place of the slash at its end. -/
theorem absolute_dropSlash_append (hvalue : value.toList.head? = some '/') {rest : String}
    (hrest : rest.toList.head? = some '/') : (dropSlash value ++ rest).toList.head? = some '/' := by
  rw [String.toList_append, List.head?_append]
  rcases dropSlash_cases value with ⟨-, heq⟩ | heq
  · rw [heq, hvalue]
    rfl
  · cases hd : (dropSlash value).toList.head? with
    | none => exact hrest
    | some c =>
      rw [heq, List.head?_append, hd] at hvalue
      exact hvalue

theorem withoutSlash_eq (hvalue : value ≠ "/") : withoutSlash value = dropSlash value :=
  if_neg hvalue

theorem absolute_withoutSlash (hvalue : value.toList.head? = some '/') :
    (withoutSlash value).toList.head? = some '/' := by
  by_cases hroot : value = "/"
  · rw [hroot]
    rfl
  · rw [withoutSlash_eq hroot]
    rcases dropSlash_cases value with ⟨-, heq⟩ | heq
    · rw [heq, hvalue]
    · cases hd : (dropSlash value).toList with
      | nil =>
        rw [hd, List.nil_append] at heq
        exact absurd (String.toList_inj.1 heq) hroot
      | cons c rest =>
        rw [heq, hd] at hvalue
        exact hvalue

theorem one_lt_utf8ByteSize_iff (hvalue : value.toList.head? = some '/') :
    1 < value.utf8ByteSize ↔ value ≠ "/" := by
  obtain ⟨rest, rfl⟩ := absolute_iff.1 hvalue
  have hone : "/".utf8ByteSize = 1 := rfl
  have hrest : "/" ++ rest = "/" ↔ rest = "" := String.append_eq_left_iff
  rw [String.utf8ByteSize_append, hone, Ne, hrest, ← String.utf8ByteSize_eq_zero_iff]
  omega

theorem rdropWhile_eq_self {l : List Char} (hlast : l.getLast? ≠ some '/') :
    l.rdropWhile (· = '/') = l := by
  rw [List.rdropWhile_eq_self_iff]
  intro hl hslash
  rw [List.getLast?_eq_some_getLast hl, of_decide_eq_true hslash] at hlast
  exact hlast rfl

/-- Without empty elements there is at most one slash to trim. -/
theorem trimEndMatches_eq_dropSlash (hempty : ¬ ['/', '/'] <:+: value.toList) :
    trimEndMatches value '/' = dropSlash value := by
  apply String.toList_inj.1
  rw [trimEndMatches, String.toList_ofList]
  rcases dropSlash_cases value with ⟨hlast, heq⟩ | heq
  · rw [heq, rdropWhile_eq_self hlast]
  · rw [heq] at hempty ⊢
    rw [List.rdropWhile_concat, if_pos (decide_eq_true rfl)]
    refine rdropWhile_eq_self fun hlast => hempty ?_
    obtain ⟨init, hinit⟩ := List.getLast?_eq_some_iff.1 hlast
    rw [hinit, List.append_assoc]
    exact (List.suffix_append init _).isInfix

theorem trimPath_eq {value : Option String} (hvalue : (value.getD "/").toList.head? = some '/')
    (hempty : ¬ ['/', '/'] <:+: (value.getD "/").toList) :
    trimPath value = withoutSlash (value.getD "/") := by
  cases value with
  | none => rfl
  | some value =>
    simp only [Option.getD_some] at hvalue hempty
    change (if 1 < value.utf8ByteSize then trimEndMatches value '/' else value) = withoutSlash value
    by_cases hroot : value = "/"
    · rw [hroot]
      rfl
    · rw [if_pos ((one_lt_utf8ByteSize_iff hvalue).2 hroot), withoutSlash_eq hroot,
        trimEndMatches_eq_dropSlash hempty]

/-- A prefix matches its own path, and every path below it. -/
theorem accepts_pathPrefix_iff {path : String} :
    HttpRouteRulesMatchesPathType.pathPrefix.Accepts regexMatch value path ↔
      path = dropSlash value ∨ (dropSlash value).toList ++ ['/'] <+: path.toList := by
  rw [← String.toList_inj]
  exact Lib.splitOn_prefix_iff

/-! ## Paths -/

variable {m : RouteMatch}

/-- The root prefix, and the separated prefix, match as the prefix of the source does. -/
theorem prefixSpecifier_accepts_iff {value : Option String}
    (hvalue : (value.getD "/").toList.head? = some '/')
    (hempty : ¬ ['/', '/'] <:+: (value.getD "/").toList) {path : RequestPath} :
    (match value with
      | some val =>
        if val = "/" then PathSpecifier.pathPrefix (trimPath value) else .pathSeparatedPrefix (trimPath value)
      | none => .pathPrefix (trimPath value)).Accepts regexMatch path ↔
        HttpRouteRulesMatchesPathType.pathPrefix.Accepts regexMatch (value.getD "/") path := by
  have hroot : (PathSpecifier.pathPrefix "/").Accepts regexMatch path ↔
      HttpRouteRulesMatchesPathType.pathPrefix.Accepts regexMatch "/" path := by
    obtain ⟨rest, hrest⟩ := List.head?_eq_some_iff.1 path.2
    have hpath : ['/'] <+: path.1.toList := ⟨rest, hrest.symm⟩
    rw [accepts_pathPrefix_iff]
    exact iff_of_true hpath (.inr hpath)
  rw [trimPath_eq hvalue hempty]
  cases value with
  | none => exact hroot
  | some value =>
    simp only [Option.getD_some]
    split
    · rename_i heq
      rw [heq]
      exact hroot
    · rename_i hne
      rw [accepts_pathPrefix_iff, withoutSlash_eq hne]
      rfl

namespace RouteMatch

/-- The paths that Envoy accepts. -/
def AcceptsPathByEnvoy (m : RouteMatch) (path : RequestPath) : Prop :=
  match m.path.bind (·.type) with
  | none => path.1 = "/"
  | some .exact => path.1 = withoutSlash m.pathValue
  | some .pathPrefix => HttpRouteRulesMatchesPathType.pathPrefix.Accepts regexMatch m.pathValue path
  | some .regularExpression => regexMatch (withoutSlash m.pathValue) path = true

theorem pathSpecifier_accepts_iff (hm : m.OnPathAndHeaders) {path : RequestPath} :
    (∀ specifier ∈ (httpPathSpecifier m.path).or (some (.path "/")),
      specifier.Accepts regexMatch path) ↔ m.AcceptsPathByEnvoy regexMatch path := by
  obtain ⟨-, -, habsolute, hempty⟩ := hm
  unfold AcceptsPathByEnvoy
  unfold pathValue at habsolute hempty ⊢
  cases hp : m.path with
  | none => simp [httpPathSpecifier, PathSpecifier.Accepts]
  | some p =>
    rw [hp] at habsolute hempty
    simp only [Option.bind_some] at habsolute hempty ⊢
    cases ht : p.type with
    | none => simp [httpPathSpecifier, PathSpecifier.Accepts, ht]
    | some type =>
      simp only [httpPathSpecifier, Option.bind_some, ht, Option.map_some, Option.some_or,
        Option.mem_some_iff, forall_eq']
      cases type with
      | exact =>
        rw [trimPath_eq habsolute hempty]
        rfl
      | pathPrefix => exact prefixSpecifier_accepts_iff regexMatch habsolute hempty
      | regularExpression =>
        rw [trimPath_eq habsolute hempty]
        rfl

theorem pathType_of_bind {type : HttpRouteRulesMatchesPathType}
    (ht : m.path.bind (·.type) = some type) : m.pathType = type := by
  rw [pathType, ht, Option.getD_some]

theorem accepts_pathPrefix_self : HttpRouteRulesMatchesPathType.pathPrefix.Accepts regexMatch value value := by
  rw [accepts_pathPrefix_iff]
  rcases dropSlash_cases value with ⟨-, heq⟩ | heq
  · exact .inl heq.symm
  · exact .inr (heq ▸ List.prefix_rfl)

/-- Only a pattern may match no path. -/
theorem path_vacant_iff (hm : m.OnPathAndHeaders) :
    (∀ path : RequestPath, ¬ m.pathType.Accepts regexMatch m.pathValue path) ↔
      m.pathType = .regularExpression ∧ ∀ path : RequestPath, regexMatch m.pathValue path = false := by
  cases ht : m.pathType with
  | exact => exact iff_of_false (fun h => h ⟨m.pathValue, hm.absolute⟩ rfl) fun h => nomatch h.1
  | pathPrefix =>
    refine iff_of_false (fun h => ?_) fun h => nomatch h.1
    exact h ⟨m.pathValue, hm.absolute⟩ (accepts_pathPrefix_self regexMatch)
  | regularExpression =>
    rw [and_iff_right rfl]
    exact forall_congr' fun path => Bool.eq_false_iff.symm

theorem envoyPath_vacant_iff (hm : m.OnPathAndHeaders) :
    (∀ path, ¬ m.AcceptsPathByEnvoy regexMatch path) ↔ m.pathType = .regularExpression ∧
      ∀ path : RequestPath, regexMatch (withoutSlash m.pathValue) path = false := by
  unfold AcceptsPathByEnvoy
  cases ht : m.path.bind (·.type) with
  | none =>
    refine iff_of_false (fun h => h ⟨"/", rfl⟩ rfl) fun h => ?_
    rw [pathType, ht] at h
    exact nomatch h.1
  | some type =>
    rw [pathType_of_bind ht]
    cases type with
    | exact =>
      exact iff_of_false (fun h => h ⟨_, absolute_withoutSlash hm.absolute⟩ rfl) fun h => nomatch h.1
    | pathPrefix =>
      refine iff_of_false (fun h => ?_) fun h => nomatch h.1
      exact h ⟨m.pathValue, hm.absolute⟩ (accepts_pathPrefix_self regexMatch)
    | regularExpression =>
      rw [and_iff_right rfl]
      exact forall_congr' fun path => Bool.eq_false_iff.symm

/-- Below a prefix there is a path other than the root. -/
theorem exists_below_prefix (habsolute : value.toList.head? = some '/') :
    ∃ path : RequestPath, HttpRouteRulesMatchesPathType.pathPrefix.Accepts regexMatch value path ∧
      path.1 ≠ "/" := by
  refine ⟨⟨dropSlash value ++ "/x", absolute_dropSlash_append habsolute rfl⟩, ?_, ?_⟩
  · rw [accepts_pathPrefix_iff]
    refine .inr ⟨['x'], ?_⟩
    rw [String.toList_append, List.append_assoc]
    rfl
  · intro heq
    have hlength := congrArg String.length heq
    rw [String.length_append] at hlength
    have htwo : "/x".length = 2 := rfl
    have hone : "/".length = 1 := rfl
    omega

theorem path_iff_kept (hm : m.OnPathAndHeaders) :
    (∀ path : RequestPath, m.pathType.Accepts regexMatch m.pathValue path ↔
      m.AcceptsPathByEnvoy regexMatch path) ↔ m.PathKept regexMatch := by
  unfold AcceptsPathByEnvoy PathKept
  cases ht : m.path.bind (·.type) with
  | none =>
    have htype : m.pathType = .pathPrefix := by rw [pathType, ht, Option.getD_none]
    obtain ⟨path, haccepts, hroot⟩ := exists_below_prefix regexMatch hm.absolute
    rw [htype]
    refine iff_of_false (fun h => hroot ((h path).1 haccepts)) ?_
    rintro ⟨type, htype', -⟩
    exact nomatch htype'
  | some type =>
    rw [pathType_of_bind ht]
    simp only [Option.mem_some_iff, exists_eq_left']
    cases type with
    | exact =>
      constructor
      · intro h
        exact ((h ⟨m.pathValue, hm.absolute⟩).1 rfl).symm
      · intro heq path
        rw [heq]
        rfl
    | pathPrefix => exact iff_of_true (fun _ => Iff.rfl) trivial
    | regularExpression => exact forall_congr' fun path => Bool.eq_iff_iff.symm

/-! ## Headers -/

/-- What the matches of one header accept in it. -/
def HeaderAccepts (m : RouteMatch) (name : String) (value : Option String) : Prop :=
  ∀ h ∈ m.headerMatches, h.name.toLower = name → ∃ v ∈ value, h.Accepts regexMatch v

/-- The same in Envoy, where every match is exact. -/
def HeaderAcceptsByEnvoy (m : RouteMatch) (name : String) (value : Option String) : Prop :=
  ∀ h ∈ m.headerMatches, h.name.toLower = name → value = some h.value

theorem headerAccepts_some {name v : String} : m.HeaderAccepts regexMatch name (some v) ↔
    ∀ h ∈ m.headerMatches, h.name.toLower = name → h.Accepts regexMatch v := by
  simp only [HeaderAccepts, Option.mem_some_iff, exists_eq_left']

/-- Nothing is accepted in a field, whose name is compared in the form that `norm` gives it, exactly
if every value is refused by some match. -/
theorem field_vacant_iff (norm : String → String) (hs : List HeaderMatch) :
    (∃ name, ∀ value : Option String,
      ¬ ∀ h ∈ hs, norm h.name = name → ∃ v ∈ value, h.Accepts regexMatch v) ↔
      ∃ name, ∀ value, ∃ h ∈ hs, norm h.name = name ∧ ¬ h.Accepts regexMatch value := by
  refine exists_congr fun name => ⟨fun hvacant value => ?_, fun hvacant value haccepts => ?_⟩
  · have := hvacant (some value)
    simp only [Option.mem_some_iff, exists_eq_left'] at this
    push Not at this
    exact this
  · -- some match of the field exists, so the field is present
    obtain ⟨h, hmem, hname, -⟩ := hvacant ""
    obtain ⟨v, rfl, -⟩ := haccepts h hmem hname
    obtain ⟨h', hmem', hname', hrefuses⟩ := hvacant v
    obtain ⟨v', hv', haccepts'⟩ := haccepts h' hmem' hname'
    obtain rfl := Option.some.inj hv'
    exact hrefuses haccepts'

theorem header_vacant_iff :
    (∃ name, ∀ value, ¬ m.HeaderAccepts regexMatch name value) ↔
      ∃ name, ∀ value, ∃ h ∈ m.headerMatches, h.name.toLower = name ∧ ¬ h.Accepts regexMatch value :=
  field_vacant_iff regexMatch String.toLower m.headerMatches

theorem envoyHeader_vacant_iff :
    (∃ name, ∀ value, ¬ m.HeaderAcceptsByEnvoy name value) ↔
      ∃ h ∈ m.headerMatches, ∃ h' ∈ m.headerMatches,
        h.name.toLower = h'.name.toLower ∧ h.value ≠ h'.value := by
  constructor
  · rintro ⟨name, hvacant⟩
    have hnone := hvacant none
    unfold HeaderAcceptsByEnvoy at hnone
    push Not at hnone
    obtain ⟨h, hmem, hname, -⟩ := hnone
    have hsome := hvacant (some h.value)
    unfold HeaderAcceptsByEnvoy at hsome
    push Not at hsome
    obtain ⟨h', hmem', hname', hne⟩ := hsome
    exact ⟨h, hmem, h', hmem', hname.trans hname'.symm, fun heq => hne (congrArg some heq)⟩
  · rintro ⟨h, hmem, h', hmem', hname, hne⟩
    refine ⟨h.name.toLower, fun value haccepts => hne ?_⟩
    have hvalue := haccepts h hmem rfl
    rw [haccepts h' hmem' hname.symm] at hvalue
    exact (Option.some.inj hvalue).symm

/-- No two matches of one header have different values. -/
def HeadersAgree (m : RouteMatch) : Prop :=
  ∀ h ∈ m.headerMatches, ∀ h' ∈ m.headerMatches, h.name.toLower = h'.name.toLower → h.value = h'.value

/-- The matches of the header of `h` accept its value in common, and no other. -/
def OnlyValue (m : RouteMatch) (h : HeaderMatch) : Prop :=
  ∀ v, (∀ h' ∈ m.headerMatches, h'.name.toLower = h.name.toLower → h'.Accepts regexMatch v) ↔
    v = h.value

theorem header_iff_onlyValue (hagree : m.HeadersAgree) :
    (∀ name value, m.HeaderAccepts regexMatch name value ↔ m.HeaderAcceptsByEnvoy name value) ↔
      ∀ h ∈ m.headerMatches, m.OnlyValue regexMatch h := by
  constructor
  · intro hiff h hmem v
    rw [← headerAccepts_some, hiff]
    constructor
    · intro haccepts
      exact Option.some.inj (haccepts h hmem rfl)
    · rintro rfl h' hmem' hname'
      rw [hagree h' hmem' h hmem hname']
  · intro honly name value
    constructor
    · intro haccepts h hmem hname
      obtain ⟨v, rfl, -⟩ := haccepts h hmem hname
      rw [headerAccepts_some, ← hname] at haccepts
      rw [(honly h hmem v).1 haccepts]
    · intro haccepts h hmem hname
      exact ⟨h.value, haccepts h hmem hname, (honly h hmem h.value).2 rfl h hmem rfl⟩

theorem onlyValue_iff_of_patterns (hagree : m.HeadersAgree) {h : HeaderMatch}
    (hmem : h ∈ m.headerMatches) (hpatterns : ∀ h' ∈ m.headerMatches,
      h'.name.toLower = h.name.toLower → h'.matchType = .regularExpression) :
    m.OnlyValue regexMatch h ↔ ∀ v, regexMatch h.value v = true ↔ v = h.value := by
  refine forall_congr' fun v => iff_congr ?_ Iff.rfl
  have hpattern : ∀ h' ∈ m.headerMatches, h'.name.toLower = h.name.toLower →
      (h'.Accepts regexMatch v ↔ regexMatch h.value v = true) := by
    intro h' hmem' hname'
    rw [HeaderMatch.Accepts, hpatterns h' hmem' hname', hagree h' hmem' h hmem hname']
  constructor
  · intro haccepts
    exact (hpattern h hmem rfl).1 (haccepts h hmem rfl)
  · intro haccepts h' hmem' hname'
    exact (hpattern h' hmem' hname').2 haccepts

/-- A header that is also matched exactly can have one value only, and it is the accepted one. -/
theorem onlyValue_of_exact {h : HeaderMatch} (hagree : m.HeadersAgree)
    (hcommon : ∃ v, ∀ h' ∈ m.headerMatches, h'.name.toLower = h.name.toLower → h'.Accepts regexMatch v)
    (hmem : h ∈ m.headerMatches) (hexact : ∃ h' ∈ m.headerMatches,
      h'.name.toLower = h.name.toLower ∧ h'.matchType ≠ .regularExpression) :
    m.OnlyValue regexMatch h := by
  obtain ⟨h', hmem', hname', htype⟩ := hexact
  have hone : ∀ v, h'.Accepts regexMatch v → v = h.value := by
    intro v haccepts
    rw [← hagree h' hmem' h hmem hname']
    unfold HeaderMatch.Accepts at haccepts
    cases hkind : h'.matchType with
    | exact =>
      rw [hkind] at haccepts
      exact haccepts
    | regularExpression => exact absurd hkind htype
  obtain ⟨v, hv⟩ := hcommon
  have hvalue := hone v (hv h' hmem' hname')
  intro v'
  constructor
  · intro haccepts
    exact hone v' (haccepts h' hmem' hname')
  · rintro rfl
    rw [← hvalue]
    exact hv

theorem headers_iff_kept (hagree : m.HeadersAgree)
    (hcommon : ∀ name, ∃ value, ∀ h ∈ m.headerMatches, h.name.toLower = name →
      h.Accepts regexMatch value) :
    (∀ name value, m.HeaderAccepts regexMatch name value ↔ m.HeaderAcceptsByEnvoy name value) ↔
      m.HeadersKept regexMatch := by
  rw [header_iff_onlyValue regexMatch hagree]
  refine forall₂_congr fun h hmem => ?_
  by_cases hpatterns : ∀ h' ∈ m.headerMatches, h'.name.toLower = h.name.toLower →
      h'.matchType = .regularExpression
  · rw [onlyValue_iff_of_patterns regexMatch hagree hmem hpatterns, forall_prop_of_true hpatterns]
  · refine iff_of_true ?_ fun h => absurd h hpatterns
    push Not at hpatterns
    exact onlyValue_of_exact regexMatch hagree (hcommon _) hmem hpatterns

/-! ## Matches -/

theorem accepts_iff_parts {path : RequestPath} {headers : String → Option String} :
    m.Accepts regexMatch ⟨path, headers⟩ ↔ m.pathType.Accepts regexMatch m.pathValue path ∧
      ∀ name, m.HeaderAccepts regexMatch name (headers name) := by
  refine and_congr_right fun _ => ⟨?_, fun h header hmem => h _ header hmem rfl⟩
  rintro h name header hmem rfl
  exact h header hmem

theorem mem_createHeaderMatchers {e : HeaderMatcher} : e ∈ createHeaderMatchers m.headers ↔
    ∃ h ∈ m.headerMatches, e = ⟨h.name, h.value⟩ := by
  simp only [createHeaderMatchers, List.mem_map, headerMatches, eq_comm]

end RouteMatch

theorem RouteMatch.headerMatchers_iff_parts {headers : String → Option String} :
    (∀ e ∈ createHeaderMatchers m.headers, headers e.name.toLower = some e.exact) ↔
      ∀ name, m.HeaderAcceptsByEnvoy name (headers name) := by
  constructor
  · rintro h name header hmem rfl
    exact h ⟨header.name, header.value⟩ (mem_createHeaderMatchers.2 ⟨header, hmem, rfl⟩)
  · intro h e he
    obtain ⟨header, hmem, rfl⟩ := mem_createHeaderMatchers.1 he
    exact h _ header hmem rfl

theorem EnvoyRouteMatch.accepts_iff_parts {rule : HTTPEffectiveRoutingRule}
    (hm : rule.routeMatcher.OnPathAndHeaders) {path : RequestPath} {headers : String → Option String} :
    rule.envoyRoute.routeMatch.Accepts regexMatch ⟨path, headers⟩ ↔
      rule.routeMatcher.AcceptsPathByEnvoy regexMatch path ∧
        ∀ name, rule.routeMatcher.HeaderAcceptsByEnvoy name (headers name) :=
  and_congr (RouteMatch.pathSpecifier_accepts_iff regexMatch hm) RouteMatch.headerMatchers_iff_parts

theorem HTTPEffectiveRoutingRule.routeMatch_of_mem {rule : HTTPEffectiveRoutingRule} {r : EnvoyRoute}
    (hr : r ∈ rule.envoyRoutes) : r.routeMatch = rule.envoyRoute.routeMatch := by
  unfold envoyRoutes at hr
  simp only at hr
  split at hr
  · rw [List.mem_singleton.1 hr]
  · obtain ⟨pool, -, rfl⟩ := List.mem_map.1 hr
    rfl

theorem RouteMatch.vacant_iff_unmatchable (hm : m.OnPathAndHeaders) :
    Lib.Vacant (fun path : RequestPath => m.pathType.Accepts regexMatch m.pathValue path)
      (m.HeaderAccepts regexMatch) ↔ m.Unmatchable regexMatch :=
  or_congr (path_vacant_iff regexMatch hm) (header_vacant_iff regexMatch)

theorem RouteMatch.vacant_iff_unmatchableAsLiteral (hm : m.OnPathAndHeaders) :
    Lib.Vacant (m.AcceptsPathByEnvoy regexMatch) m.HeaderAcceptsByEnvoy ↔
      m.UnmatchableAsLiteral regexMatch :=
  or_congr (envoyPath_vacant_iff regexMatch hm) envoyHeader_vacant_iff

/-- Part by part, a match that can be accepted on both sides is kept. -/
theorem RouteMatch.parts_iff_kept (hm : m.OnPathAndHeaders) (hsource : ¬ m.Unmatchable regexMatch)
    (henvoy : ¬ m.UnmatchableAsLiteral regexMatch) :
    ((∀ path : RequestPath, m.pathType.Accepts regexMatch m.pathValue path ↔
        m.AcceptsPathByEnvoy regexMatch path) ∧
      ∀ name value, m.HeaderAccepts regexMatch name value ↔ m.HeaderAcceptsByEnvoy name value) ↔
        m.PathKept regexMatch ∧ m.HeadersKept regexMatch := by
  have hcommon : ∀ name, ∃ value, ∀ h ∈ m.headerMatches, h.name.toLower = name →
      h.Accepts regexMatch value := by
    by_contra hnone
    push Not at hnone
    exact hsource (.inr hnone)
  have hagree : m.HeadersAgree := by
    intro h hmem h' hmem' hname
    by_contra hne
    exact henvoy (.inr ⟨h, hmem, h', hmem', hname, hne⟩)
  exact and_congr (path_iff_kept regexMatch hm) (headers_iff_kept regexMatch hagree hcommon)

/-- All routes of a rule test the path and the headers alike. -/
theorem HTTPEffectiveRoutingRule.accepts_iff_parts {rule : HTTPEffectiveRoutingRule}
    (hm : rule.routeMatcher.OnPathAndHeaders) :
    (∀ r ∈ rule.envoyRoutes, ∀ request,
      r.routeMatch.Accepts regexMatch request ↔ rule.routeMatcher.Accepts regexMatch request) ↔
      ∀ (path : RequestPath) (headers : String → Option String),
        (rule.routeMatcher.pathType.Accepts regexMatch rule.routeMatcher.pathValue path ∧
          ∀ name, rule.routeMatcher.HeaderAccepts regexMatch name (headers name)) ↔
        rule.routeMatcher.AcceptsPathByEnvoy regexMatch path ∧
          ∀ name, rule.routeMatcher.HeaderAcceptsByEnvoy name (headers name) := by
  simp only [← RouteMatch.accepts_iff_parts, ← EnvoyRouteMatch.accepts_iff_parts regexMatch hm]
  constructor
  · intro h path headers
    obtain ⟨r, hr⟩ := List.exists_mem_of_ne_nil _ rule.envoyRoutes_ne_nil
    rw [← routeMatch_of_mem hr]
    exact (h r hr _).symm
  · intro h r hr request
    rw [routeMatch_of_mem hr]
    exact (h request.path request.headers).symm

/-- The routes that Envoy gets for a rule accept what its match accepts exactly if the match is
kept. -/
theorem HTTPEffectiveRoutingRule.accepts_iff_kept (rule : HTTPEffectiveRoutingRule)
    (hm : rule.routeMatcher.OnPathAndHeaders) :
    (∀ r ∈ rule.envoyRoutes, ∀ request,
      r.routeMatch.Accepts regexMatch request ↔ rule.routeMatcher.Accepts regexMatch request) ↔
        rule.routeMatcher.Kept regexMatch := by
  rw [accepts_iff_parts regexMatch hm, Lib.forall_parts_iff, RouteMatch.vacant_iff_unmatchable regexMatch hm,
    RouteMatch.vacant_iff_unmatchableAsLiteral regexMatch hm, RouteMatch.Kept, or_comm]
  refine or_congr_right' fun hvacant => ?_
  constructor
  · intro hparts
    have hboth : rule.routeMatcher.Unmatchable regexMatch ↔
        rule.routeMatcher.UnmatchableAsLiteral regexMatch := by
      rw [← RouteMatch.vacant_iff_unmatchable regexMatch hm,
        ← RouteMatch.vacant_iff_unmatchableAsLiteral regexMatch hm]
      exact Lib.vacant_congr hparts.1 hparts.2
    have hsource : ¬ rule.routeMatcher.Unmatchable regexMatch := fun h => hvacant ⟨h, hboth.1 h⟩
    have henvoy := mt hboth.2 hsource
    exact ⟨hsource, henvoy, (RouteMatch.parts_iff_kept regexMatch hm hsource henvoy).1 hparts⟩
  · rintro ⟨hsource, henvoy, hkept⟩
    exact (RouteMatch.parts_iff_kept regexMatch hm hsource henvoy).2 hkept

/-- The match that a rule without matches gets is kept. -/
theorem getHttpDefaultRulesMatches_kept : getHttpDefaultRulesMatches.Kept regexMatch := by
  refine .inr ⟨?_, ?_, ⟨_, rfl, trivial⟩, fun h hmem => nomatch hmem⟩
  · rintro (⟨htype, -⟩ | ⟨_, hrefused⟩)
    · exact nomatch htype
    · obtain ⟨h, hmem, -⟩ := hrefused ""
      exact nomatch hmem
  · rintro (⟨htype, -⟩ | ⟨h, hmem, -⟩)
    · exact nomatch htype
    · exact nomatch hmem

end Meaning

/-- A rule with one match, for the runs below. -/
def ruleMatching (m : RouteMatch) : HTTPEffectiveRoutingRule where
  listenerPort := 80
  routeMatcher := m
  backends := []
  filterBackends := []
  name := "shop"
  hostnames := ["*"]
  requestHeaders := {}
  responseHeaders := {}
  redirectFilter := none
  mirrorFilter := none
  rewriteUrlFilter := none

/-- Patterns without special characters match themselves. -/
def literalRegexMatch (pattern text : String) : Bool := pattern == text

/-- A prefix, whose slash at the end does not matter, and an exact header. -/
def prefixMatch : RouteMatch where
  path := some { type := some .pathPrefix, value := some "/shop/" }
  headers := some [{ name := "Version", value := "2" }]

theorem prefixMatch_accepts_iff :
    prefixMatch.OnPathAndHeaders ∧ ∀ r ∈ (ruleMatching prefixMatch).envoyRoutes, ∀ request,
      r.routeMatch.Accepts literalRegexMatch request ↔ prefixMatch.Accepts literalRegexMatch request := by
  have hm : prefixMatch.OnPathAndHeaders := ⟨rfl, rfl, rfl, by decide⟩
  refine ⟨hm, ((ruleMatching prefixMatch).accepts_iff_kept literalRegexMatch hm).2 ?_⟩
  have hheader : ∀ h ∈ prefixMatch.headerMatches, h = { name := "Version", value := "2" } :=
    fun h hmem => List.mem_singleton.1 hmem
  refine .inr ⟨?_, ?_, ⟨_, rfl, trivial⟩, fun h hmem hpatterns => ?_⟩
  · rintro (⟨htype, -⟩ | ⟨_, hrefused⟩)
    · exact nomatch htype
    · obtain ⟨h, hmem, -, hrefuses⟩ := hrefused "2"
      rw [hheader h hmem] at hrefuses
      exact hrefuses rfl
  · rintro (⟨htype, -⟩ | ⟨h, hmem, h', hmem', -, hne⟩)
    · exact nomatch htype
    · rw [hheader h hmem, hheader h' hmem'] at hne
      exact hne rfl
  · have htype := hpatterns h hmem rfl
    rw [hheader h hmem] at htype
    exact nomatch htype

/-- A match without a path should accept every path, but Envoy accepts the root only. -/
theorem pathlessMatch_not_accepts_iff :
    ({} : RouteMatch).OnPathAndHeaders ∧
      ¬ ∀ r ∈ (ruleMatching {}).envoyRoutes, ∀ request,
        r.routeMatch.Accepts literalRegexMatch request ↔
          ({} : RouteMatch).Accepts literalRegexMatch request := by
  refine ⟨⟨rfl, rfl, rfl, by decide⟩, fun h => ?_⟩
  have hsource : ({} : RouteMatch).Accepts literalRegexMatch ⟨⟨"/checkout", rfl⟩, fun _ => none⟩ := by
    refine ⟨?_, fun h hmem => nomatch hmem⟩
    change pathElements (dropSlash "/") <+: pathElements "/checkout"
    decide
  have henvoy := (h _ List.mem_cons_self ⟨⟨"/checkout", rfl⟩, fun _ => none⟩).2 hsource
  exact absurd (henvoy.1 _ rfl) (by decide : ("/checkout" : String) ≠ "/")

end Kubvernor
