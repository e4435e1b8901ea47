import Kubvernor.Agentgateway.ResourceGenerator
import Kubvernor.Envoy.MatchTranslation

/-!
# The translation of HTTP matches for an agentgateway

Which requests a match accepts, its method and query parameters included, and which requests the
match of an agentgateway made of it accepts. Prefixes and patterns are read alike on both sides. What
an agentgateway makes of a header or query match without a value is given by `unset`.

A method is written as JSON, which is to be a string with quotes around it (`WritesStrings`), and no
request has such a method. What is left out of a match is not filled in: a path without a type places
no condition, a path without a value is compared with the empty one, and a header without a type has
no value. When all this changes nothing is said by `RouteMatch.KeptAsConverted`
(`convertRouteMatch_accepts_iff`).
-/

namespace Kubvernor

open Agentgateway

/-! ## Requests -/

/-- A method is a token, which has no quotes in it. -/
abbrev RequestMethod := {method : String // '\"' ∉ method.toList}

structure HttpRequest where
  request : Request
  method : RequestMethod
  queryParams : String → Option String

def RouteMatch.queryMatches (m : RouteMatch) : List HeaderMatch := m.queryParams.getD []

section Meaning

-- `regexMatch pattern text`: the pattern matches the whole text.
variable (regexMatch : String → String → Bool) (unset : Option String → Prop)
  {methodJson : HTTPMethod → Option String}

/-- The meaning of a match. -/
structure RouteMatch.AcceptsRequest (m : RouteMatch) (r : HttpRequest) : Prop where
  request : m.Accepts regexMatch r.request
  method : ∀ method ∈ m.method, r.method.1 = method.name
  queryParams : ∀ q ∈ m.queryMatches, ∃ value ∈ r.queryParams q.name, q.Accepts regexMatch value

/-! ## The match of an agentgateway -/

namespace Agentgateway.Api

def PathMatch.Accepts (p : PathMatch) (path : String) : Prop :=
  match p with
  | .exact value => path = value
  | .pathPrefix value => pathElements (dropSlash value) <+: pathElements path
  | .regex value => regexMatch value path = true

def MatchValue.Accepts (v : MatchValue) (text : String) : Prop :=
  match v with
  | .exact value => text = value
  | .regex value => regexMatch value text = true

def HeaderMatch.Accepts (h : HeaderMatch) (value : Option String) : Prop :=
  match h.value with
  | some v => ∃ text ∈ value, v.Accepts regexMatch text
  | none => unset value

structure RouteMatch.Accepts (m : RouteMatch) (r : HttpRequest) : Prop where
  path : ∀ p ∈ m.path, p.Accepts regexMatch r.request.path
  headers : ∀ h ∈ m.headers, h.Accepts regexMatch unset (r.request.header h.name)
  method : ∀ method ∈ m.method, r.method.1 = method.exact
  queryParams : ∀ q ∈ m.queryParams, q.Accepts regexMatch unset (r.queryParams q.name)

end Agentgateway.Api

/-! ## What is kept -/

/-- What a header or query match accepts if an omitted type is left open. -/
def HeaderMatch.AcceptsAsWritten (h : HeaderMatch) (value : Option String) : Prop :=
  match h.type with
  | some _ => ∃ v ∈ value, h.Accepts regexMatch v
  | none => unset value

/-- What is accepted of a field, whose name is compared in the form that `norm` gives it. -/
def FieldAccepts (norm : String → String) (hs : List HeaderMatch) (name : String) (value : Option String) : Prop :=
  ∀ h ∈ hs, norm h.name = name → ∃ v ∈ value, h.Accepts regexMatch v

def FieldAcceptsAsWritten (norm : String → String) (hs : List HeaderMatch) (name : String)
    (value : Option String) : Prop :=
  ∀ h ∈ hs, norm h.name = name → h.AcceptsAsWritten regexMatch unset value

/-- Of the values that the matches with a type accept in a field, those without a type leave what
`unset` does. -/
def FieldsKept (norm : String → String) (hs : List HeaderMatch) : Prop :=
  ∀ name value, (∀ h ∈ hs, norm h.name = name → h.type ≠ none → ∃ v ∈ value, h.Accepts regexMatch v) →
    ((∀ h ∈ hs, norm h.name = name → h.type = none → value = some h.value) ↔
      ((∃ h ∈ hs, norm h.name = name ∧ h.type = none) → unset value))

namespace RouteMatch

/-- The paths that are accepted if nothing omitted is filled in. -/
def PathAcceptsAsWritten (m : RouteMatch) (path : RequestPath) : Prop :=
  ∀ p ∈ m.path, ∀ type ∈ p.type, type.Accepts regexMatch (p.value.getD "") path

/-- An omitted type has the root for its value, and an omitted value a prefix for its type, or
patterns for which the root is as good as nothing. -/
def PathKeptAsWritten (m : RouteMatch) : Prop :=
  ∀ p ∈ m.path, match p.type with
    | none => p.value.getD "/" = "/" ∨ p.value = some ""
    | some .exact => p.value ≠ none
    | some .pathPrefix => True
    | some .regularExpression => p.value = none → ∀ path : RequestPath,
        regexMatch "/" path = regexMatch "" path

/-- No request is accepted: no path, or no value of one header or of one query parameter. -/
def AcceptsNothing (m : RouteMatch) : Prop :=
  (∀ path : RequestPath, ¬ m.pathType.Accepts regexMatch m.pathValue path) ∨
  (∃ name, ∀ value, ∃ h ∈ m.headerMatches, h.name.toLower = name ∧ ¬ h.Accepts regexMatch value) ∨
  ∃ name, ∀ value, ∃ q ∈ m.queryMatches, q.name = name ∧ ¬ q.Accepts regexMatch value

/-- The same as the match is written, with quotes around its method if it has one. -/
def AcceptsNothingAsWritten (m : RouteMatch) : Prop :=
  m.method ≠ none ∨
  (∃ p ∈ m.path, ∃ type ∈ p.type, ∀ path : RequestPath, ¬ type.Accepts regexMatch (p.value.getD "") path) ∨
  (∃ name, ∀ value, ∃ h ∈ m.headerMatches, h.name.toLower = name ∧ ¬ h.AcceptsAsWritten regexMatch unset value) ∨
  ∃ name, ∀ value, ∃ q ∈ m.queryMatches, q.name = name ∧ ¬ q.AcceptsAsWritten regexMatch unset value

/-- What the translation keeps: a match without a method whose path, headers and query parameters
are kept, or that nothing is accepted. -/
def KeptAsConverted (m : RouteMatch) : Prop :=
  (m.AcceptsNothing regexMatch ∧ m.AcceptsNothingAsWritten regexMatch unset) ∨
    (¬ m.AcceptsNothing regexMatch ∧ m.method = none ∧ m.PathKeptAsWritten regexMatch ∧
      FieldsKept regexMatch unset String.toLower m.headerMatches ∧
      FieldsKept regexMatch unset id m.queryMatches)

end RouteMatch

/-! ## Methods -/

/-- A method is serialized, as a JSON string. -/
def WritesStrings (methodJson : HTTPMethod → Option String) : Prop :=
  ∀ method, methodJson method = some ("\"" ++ method.name ++ "\"")

theorem name_noQuote (method : HTTPMethod) : '\"' ∉ method.name.toList := by
  cases method <;> decide

/-- No request has a method with quotes around it. -/
theorem method_ne_methodJson (hjson : WritesStrings methodJson) (r : RequestMethod) (method : HTTPMethod) :
    r.1 ≠ (methodJson method).getD "" := by
  intro heq
  apply r.2
  rw [heq, hjson, Option.getD_some, String.toList_append, String.toList_append]
  exact List.mem_append_left _ (List.mem_append_left _ List.mem_cons_self)

/-! ## Paths -/

variable {m : RouteMatch} {value : String}

/-- The prefixes that match every path. -/
theorem accepts_pathPrefix_all_iff :
    (∀ path : RequestPath, HttpRouteRulesMatchesPathType.pathPrefix.Accepts regexMatch value path) ↔
      value = "/" ∨ value = "" := by
  constructor
  · intro hall
    have hroot := (accepts_pathPrefix_iff regexMatch).1 (hall ⟨"/", rfl⟩)
    have hbelow := (accepts_pathPrefix_iff regexMatch).1 (hall ⟨"/x", rfl⟩)
    have hnil : (dropSlash value).toList = [] := by
      have hslash : "/".toList = ['/'] := rfl
      have hx : "/x".toList = ['/', 'x'] := rfl
      rw [← String.toList_inj, hslash] at hroot
      rw [← String.toList_inj, hx] at hbelow
      rcases hroot with hroot | hroot
      · rw [← hroot] at hbelow
        exact absurd hbelow (by decide)
      · have hle := hroot.length_le
        rw [List.length_append] at hle
        exact List.length_eq_zero_iff.1 (by simpa using hle)
    rcases dropSlash_cases value with ⟨-, heq⟩ | heq
    · rw [heq] at hnil
      exact .inr (String.toList_inj.1 hnil)
    · rw [hnil] at heq
      exact .inl (String.toList_inj.1 heq)
  · intro hvalue path
    rw [accepts_pathPrefix_iff]
    obtain ⟨rest, hrest⟩ := List.head?_eq_some_iff.1 path.2
    refine .inr ⟨rest, ?_⟩
    rcases hvalue with rfl | rfl <;> exact hrest.symm

namespace RouteMatch

theorem pathAcceptsAsWritten_vacant_iff : (∀ path, ¬ m.PathAcceptsAsWritten regexMatch path) ↔
    ∃ p ∈ m.path, ∃ type ∈ p.type, ∀ path : RequestPath, ¬ type.Accepts regexMatch (p.value.getD "") path := by
  have hpath : ¬ ∀ path : RequestPath, ¬ True := fun h => h ⟨"/", rfl⟩ trivial
  unfold PathAcceptsAsWritten
  cases m.path with
  | none => simpa using hpath
  | some p =>
    cases ht : p.type with
    | none => simpa [ht] using hpath
    | some type => simp [ht]

theorem path_iff_keptAsWritten : (∀ path : RequestPath, m.pathType.Accepts regexMatch m.pathValue path ↔
      m.PathAcceptsAsWritten regexMatch path) ↔ m.PathKeptAsWritten regexMatch := by
  unfold PathAcceptsAsWritten PathKeptAsWritten pathType pathValue
  cases m.path with
  | none =>
    refine iff_of_true (fun path => iff_of_true ?_ fun p hp => nomatch hp) fun p hp => nomatch hp
    exact (accepts_pathPrefix_all_iff regexMatch).2 (.inl rfl) path
  | some p =>
    simp only [Option.bind_some, Option.mem_some_iff, forall_eq']
    cases p.type with
    | none =>
      have hopen (path : RequestPath) : (∀ type ∈ (none : Option HttpRouteRulesMatchesPathType),
          type.Accepts regexMatch (p.value.getD "") path) ↔ True := iff_true_intro fun type h => nomatch h
      simp only [hopen, iff_true]
      refine (accepts_pathPrefix_all_iff regexMatch).trans (or_congr_right ?_)
      cases p.value <;> simp
    | some type =>
      simp only [Option.getD_some, Option.mem_some_iff, forall_eq']
      cases p.value with
      | some value =>
        refine iff_of_true (fun path => Iff.rfl) ?_
        cases type <;> simp
      | none =>
        cases type with
        | exact =>
          refine iff_of_false (fun h => ?_) fun h => h rfl
          exact absurd ((h ⟨"/", rfl⟩).1 rfl) (by decide : ("/" : String) ≠ "")
        | pathPrefix =>
          refine iff_of_true (fun path => ?_) trivial
          exact iff_of_true ((accepts_pathPrefix_all_iff regexMatch).2 (.inl rfl) path)
            ((accepts_pathPrefix_all_iff regexMatch).2 (.inr rfl) path)
        | regularExpression =>
          refine Iff.trans ?_ (forall_prop_of_true rfl).symm
          exact forall_congr' fun path => Bool.eq_iff_iff.symm

end RouteMatch

/-! ## Headers and query parameters -/

section Fields

variable {norm : String → String} {hs : List HeaderMatch} {name : String} {field : Option String}

/-- A match without a type is an exact one. -/
theorem fieldAccepts_iff : FieldAccepts regexMatch norm hs name field ↔
    (∀ h ∈ hs, norm h.name = name → h.type ≠ none → ∃ v ∈ field, h.Accepts regexMatch v) ∧
      ∀ h ∈ hs, norm h.name = name → h.type = none → field = some h.value := by
  have huntyped {h : HeaderMatch} (ht : h.type = none) :
      (∃ v ∈ field, h.Accepts regexMatch v) ↔ field = some h.value := by
    have htype : h.matchType = .exact := by rw [HeaderMatch.matchType, ht, Option.getD_none]
    simp only [HeaderMatch.Accepts, htype, exists_eq_right, Option.mem_def]
  constructor
  · intro haccepts
    exact ⟨fun h hmem hname _ => haccepts h hmem hname, fun h hmem hname ht => (huntyped ht).1 (haccepts h hmem hname)⟩
  · rintro ⟨htyped, hexact⟩ h hmem hname
    by_cases ht : h.type = none
    · exact (huntyped ht).2 (hexact h hmem hname ht)
    · exact htyped h hmem hname ht

theorem fieldAcceptsAsWritten_iff : FieldAcceptsAsWritten regexMatch unset norm hs name field ↔
    (∀ h ∈ hs, norm h.name = name → h.type ≠ none → ∃ v ∈ field, h.Accepts regexMatch v) ∧
      ((∃ h ∈ hs, norm h.name = name ∧ h.type = none) → unset field) := by
  have htyped {h : HeaderMatch} (ht : h.type ≠ none) :
      h.AcceptsAsWritten regexMatch unset field ↔ ∃ v ∈ field, h.Accepts regexMatch v := by
    obtain ⟨type, htype⟩ := Option.ne_none_iff_exists'.1 ht
    rw [HeaderMatch.AcceptsAsWritten, htype]
  have huntyped {h : HeaderMatch} (ht : h.type = none) :
      h.AcceptsAsWritten regexMatch unset field ↔ unset field := by
    rw [HeaderMatch.AcceptsAsWritten, ht]
  constructor
  · intro haccepts
    refine ⟨fun h hmem hname ht => (htyped ht).1 (haccepts h hmem hname), ?_⟩
    rintro ⟨h, hmem, hname, ht⟩
    exact (huntyped ht).1 (haccepts h hmem hname)
  · rintro ⟨hvalues, hunset⟩ h hmem hname
    by_cases ht : h.type = none
    · exact (huntyped ht).2 (hunset ⟨h, hmem, hname, ht⟩)
    · exact (htyped ht).2 (hvalues h hmem hname ht)

theorem fields_iff_kept : (∀ name value, FieldAccepts regexMatch norm hs name value ↔
      FieldAcceptsAsWritten regexMatch unset norm hs name value) ↔ FieldsKept regexMatch unset norm hs := by
  refine forall_congr' fun name => forall_congr' fun value => ?_
  rw [fieldAccepts_iff, fieldAcceptsAsWritten_iff, and_congr_right_iff]

theorem fieldAcceptsAsWritten_vacant_iff :
    (∃ name, ∀ value, ¬ FieldAcceptsAsWritten regexMatch unset norm hs name value) ↔
      ∃ name, ∀ value, ∃ h ∈ hs, norm h.name = name ∧ ¬ h.AcceptsAsWritten regexMatch unset value := by
  refine exists_congr fun name => forall_congr' fun value => ?_
  unfold FieldAcceptsAsWritten
  push Not
  rfl

end Fields

/-! ## Requests by parts -/

/-- What a match looks at in a request, besides the path. -/
inductive RequestPart
  | method
  | header (name : String)
  | queryParam (name : String)

def RequestPart.Value : RequestPart → Type
  | .method => RequestMethod
  | .header _ | .queryParam _ => Option String

theorem exists_requestPart_iff {P : RequestPart → Prop} : (∃ part, P part) ↔
    P .method ∨ (∃ name, P (.header name)) ∨ ∃ name, P (.queryParam name) := by
  constructor
  · rintro ⟨part, hpart⟩
    cases part with
    | method => exact .inl hpart
    | header name => exact .inr (.inl ⟨name, hpart⟩)
    | queryParam name => exact .inr (.inr ⟨name, hpart⟩)
  · rintro (h | ⟨name, h⟩ | ⟨name, h⟩)
    · exact ⟨_, h⟩
    · exact ⟨_, h⟩
    · exact ⟨_, h⟩

namespace HttpRequest

def part (r : HttpRequest) : (part : RequestPart) → part.Value
  | .method => r.method
  | .header name => r.request.headers name
  | .queryParam name => r.queryParams name

def ofParts (path : RequestPath) (parts : (part : RequestPart) → part.Value) : HttpRequest where
  request := ⟨path, fun name => parts (.header name)⟩
  method := parts .method
  queryParams name := parts (.queryParam name)

theorem part_ofParts (path : RequestPath) (parts : (part : RequestPart) → part.Value) :
    (ofParts path parts).part = parts := by
  funext part
  cases part <;> rfl

end HttpRequest

namespace RouteMatch

/-- What the match accepts in one part of a request. -/
def PartAccepts (m : RouteMatch) : (part : RequestPart) → part.Value → Prop
  | .method, v => ∀ method ∈ m.method, v.1 = method.name
  | .header name, v => FieldAccepts regexMatch String.toLower m.headerMatches name v
  | .queryParam name, v => FieldAccepts regexMatch id m.queryMatches name v

/-- The same for the match that an agentgateway gets. -/
def PartAcceptsAsWritten (methodJson : HTTPMethod → Option String) (m : RouteMatch) :
    (part : RequestPart) → part.Value → Prop
  | .method, v => ∀ method ∈ m.method, v.1 = (methodJson method).getD ""
  | .header name, v => FieldAcceptsAsWritten regexMatch unset String.toLower m.headerMatches name v
  | .queryParam name, v => FieldAcceptsAsWritten regexMatch unset id m.queryMatches name v

theorem acceptsRequest_iff_parts {r : HttpRequest} : m.AcceptsRequest regexMatch r ↔
    m.pathType.Accepts regexMatch m.pathValue r.request.path ∧ ∀ part, m.PartAccepts regexMatch part (r.part part) := by
  constructor
  · rintro ⟨⟨hpath, hheaders⟩, hmethod, hquery⟩
    refine ⟨hpath, fun part => ?_⟩
    cases part with
    | method => exact hmethod
    | header name =>
      rintro h hmem rfl
      exact hheaders h hmem
    | queryParam name =>
      rintro q hmem rfl
      exact hquery q hmem
  · rintro ⟨hpath, hparts⟩
    exact ⟨⟨hpath, fun h hmem => hparts (.header _) h hmem rfl⟩, hparts .method,
      fun q hmem => hparts (.queryParam _) q hmem rfl⟩

/-- A path of the match of an agentgateway. -/
theorem convertPathMatch_accepts_iff {path : RequestPath} :
    (∀ p ∈ convertPathMatch m.path, p.Accepts regexMatch path) ↔ m.PathAcceptsAsWritten regexMatch path := by
  unfold PathAcceptsAsWritten convertPathMatch
  cases m.path with
  | none => exact iff_of_true (fun p hp => nomatch hp) fun p hp => nomatch hp
  | some p =>
    simp only [Option.mem_some_iff, forall_eq']
    cases p.type with
    | none => exact iff_of_true (fun p hp => nomatch hp) fun type hp => nomatch hp
    | some type =>
      cases type <;> simp only [Option.mem_some_iff, forall_eq'] <;> rfl

/-- The header or query matches that an agentgateway gets. -/
theorem forall_convertHeaders_iff {hs : Option (List HeaderMatch)} (lookup : String → Option String) :
    (∀ h ∈ convertHeaders hs, h.Accepts regexMatch unset (lookup h.name)) ↔
      ∀ h ∈ hs.getD [], h.AcceptsAsWritten regexMatch unset (lookup h.name) := by
  unfold convertHeaders
  rw [List.forall_mem_map]
  refine forall₂_congr fun h _ => ?_
  unfold Api.HeaderMatch.Accepts HeaderMatch.AcceptsAsWritten HeaderMatch.Accepts HeaderMatch.matchType
  cases h.type with
  | none => rfl
  | some type => cases type <;> rfl

theorem convertRouteMatch_iff_parts {r : HttpRequest} : (convertRouteMatch methodJson m).Accepts regexMatch unset r ↔
    m.PathAcceptsAsWritten regexMatch r.request.path ∧
      ∀ part, m.PartAcceptsAsWritten regexMatch unset methodJson part (r.part part) := by
  have hmethod : (∀ method ∈ convertMethodMatch methodJson m.method, r.method.1 = method.exact) ↔
      ∀ method ∈ m.method, r.method.1 = (methodJson method).getD "" := by
    cases hm : m.method <;> simp [convertMethodMatch]
  constructor
  · rintro ⟨hpath, hheaders, hmethods, hquery⟩
    refine ⟨(convertPathMatch_accepts_iff regexMatch).1 hpath, fun part => ?_⟩
    cases part with
    | method => exact hmethod.1 hmethods
    | header name =>
      rintro h hmem rfl
      exact (forall_convertHeaders_iff regexMatch unset r.request.header).1 hheaders h hmem
    | queryParam name =>
      rintro q hmem rfl
      exact (forall_convertHeaders_iff regexMatch unset r.queryParams).1 hquery q hmem
  · rintro ⟨hpath, hparts⟩
    refine ⟨(convertPathMatch_accepts_iff regexMatch).2 hpath, ?_, hmethod.2 (hparts .method), ?_⟩
    · exact (forall_convertHeaders_iff regexMatch unset r.request.header).2
        fun h hmem => hparts (.header _) h hmem rfl
    · exact (forall_convertHeaders_iff regexMatch unset r.queryParams).2 fun q hmem => hparts (.queryParam _) q hmem rfl

/-- A request is any path with any other parts. -/
theorem forall_request_iff {P P' : RequestPath → Prop} {Q Q' : (part : RequestPart) → part.Value → Prop} :
    (∀ r : HttpRequest, (P r.request.path ∧ ∀ part, Q part (r.part part)) ↔
        P' r.request.path ∧ ∀ part, Q' part (r.part part)) ↔
      ∀ path (parts : (part : RequestPart) → part.Value),
        (P path ∧ ∀ part, Q part (parts part)) ↔ P' path ∧ ∀ part, Q' part (parts part) := by
  constructor
  · intro h path parts
    have hparts := h (.ofParts path parts)
    rw [HttpRequest.part_ofParts] at hparts
    exact hparts
  · exact fun h r => h r.request.path r.part

/-! ## The property -/

theorem vacant_iff_acceptsNothing :
    Lib.Vacant (fun path : RequestPath => m.pathType.Accepts regexMatch m.pathValue path)
      (m.PartAccepts regexMatch) ↔ m.AcceptsNothing regexMatch := by
  refine or_congr_right (exists_requestPart_iff.trans ?_)
  have hmethod : ¬ ∀ v : RequestMethod, ¬ m.PartAccepts regexMatch .method v := by
    intro hvacant
    cases hm : m.method with
    | none => exact hvacant ⟨"GET", by decide⟩ fun method h => by rw [hm] at h; cases h
    | some method =>
      refine hvacant ⟨method.name, name_noQuote method⟩ fun method' h => ?_
      rw [hm] at h
      rw [Option.some.inj h]
  refine (or_iff_right hmethod).trans ?_
  exact or_congr (field_vacant_iff regexMatch _ _) (field_vacant_iff regexMatch _ _)

theorem vacant_iff_acceptsNothingAsWritten (hjson : WritesStrings methodJson) :
    Lib.Vacant (m.PathAcceptsAsWritten regexMatch) (m.PartAcceptsAsWritten regexMatch unset methodJson) ↔
      m.AcceptsNothingAsWritten regexMatch unset := by
  have hmethod : (∀ v : RequestMethod, ¬ m.PartAcceptsAsWritten regexMatch unset methodJson .method v) ↔
      m.method ≠ none := by
    constructor
    · intro hvacant hm
      refine hvacant ⟨"GET", by decide⟩ fun method h => ?_
      rw [hm] at h
      cases h
    · intro hm v haccepts
      obtain ⟨method, hmethod⟩ := Option.ne_none_iff_exists'.1 hm
      exact method_ne_methodJson hjson v method (haccepts method hmethod)
  rw [Lib.Vacant, exists_requestPart_iff, or_left_comm]
  refine or_congr hmethod (or_congr (pathAcceptsAsWritten_vacant_iff regexMatch) ?_)
  exact or_congr (fieldAcceptsAsWritten_vacant_iff regexMatch unset)
    (fieldAcceptsAsWritten_vacant_iff regexMatch unset)

/-- Part by part, what a match without a method accepts is kept. -/
theorem parts_iff_keptAsWritten (hjson : WritesStrings methodJson) :
    ((∀ path : RequestPath, m.pathType.Accepts regexMatch m.pathValue path ↔ m.PathAcceptsAsWritten regexMatch path) ∧
      ∀ part v, m.PartAccepts regexMatch part v ↔ m.PartAcceptsAsWritten regexMatch unset methodJson part v) ↔
      m.method = none ∧ m.PathKeptAsWritten regexMatch ∧
        FieldsKept regexMatch unset String.toLower m.headerMatches ∧
        FieldsKept regexMatch unset id m.queryMatches := by
  rw [path_iff_keptAsWritten, ← fields_iff_kept, ← fields_iff_kept]
  constructor
  · rintro ⟨hpath, hparts⟩
    refine ⟨?_, hpath, fun name => hparts (.header name), fun name => hparts (.queryParam name)⟩
    by_contra hm
    obtain ⟨method, hmethod⟩ := Option.ne_none_iff_exists'.1 hm
    have hname : m.PartAccepts regexMatch .method ⟨method.name, name_noQuote method⟩ := by
      intro method' h
      rw [hmethod] at h
      rw [Option.some.inj h]
    exact method_ne_methodJson hjson _ method ((hparts .method _).1 hname method hmethod)
  · rintro ⟨hm, hpath, hheaders, hquery⟩
    refine ⟨hpath, fun part => ?_⟩
    cases part with
    | method =>
      intro v
      have hnone (method : HTTPMethod) : method ∉ m.method := by
        rw [hm]
        exact fun h => nomatch h
      exact iff_of_true (fun method h => absurd h (hnone method)) fun method h => absurd h (hnone method)
    | header name => exact hheaders name
    | queryParam name => exact hquery name

end RouteMatch

/-- **The match that an agentgateway gets accepts what the match of the route accepts exactly if** it
has no method, and the path, the headers and the query parameters are kept, or neither accepts any
request. -/
theorem convertRouteMatch_accepts_iff (hjson : WritesStrings methodJson) (m : RouteMatch) :
    (∀ r : HttpRequest, (convertRouteMatch methodJson m).Accepts regexMatch unset r ↔
        m.AcceptsRequest regexMatch r) ↔
      m.KeptAsConverted regexMatch unset := by
  have hparts : (∀ r : HttpRequest, (convertRouteMatch methodJson m).Accepts regexMatch unset r ↔
        m.AcceptsRequest regexMatch r) ↔
      ∀ (path : RequestPath) (parts : (part : RequestPart) → part.Value),
        (m.pathType.Accepts regexMatch m.pathValue path ∧ ∀ part, m.PartAccepts regexMatch part (parts part)) ↔
        m.PathAcceptsAsWritten regexMatch path ∧
          ∀ part, m.PartAcceptsAsWritten regexMatch unset methodJson part (parts part) := by
    rw [← RouteMatch.forall_request_iff]
    refine forall_congr' fun r => ?_
    rw [RouteMatch.convertRouteMatch_iff_parts, RouteMatch.acceptsRequest_iff_parts]
    exact iff_comm
  rw [hparts, Lib.forall_parts_iff, RouteMatch.vacant_iff_acceptsNothing,
    RouteMatch.vacant_iff_acceptsNothingAsWritten regexMatch unset hjson, RouteMatch.KeptAsConverted, or_comm,
    ← RouteMatch.parts_iff_keptAsWritten regexMatch unset hjson]
  refine or_congr_right' fun hvacant => (and_iff_right_of_imp fun hkept hnothing => hvacant ⟨hnothing, ?_⟩).symm
  rw [← RouteMatch.vacant_iff_acceptsNothing] at hnothing
  rw [← RouteMatch.vacant_iff_acceptsNothingAsWritten regexMatch unset hjson]
  exact (Lib.vacant_congr hkept.1 hkept.2).1 hnothing

end Meaning

/-! ## A match without a method, and one with -/

/-- A match with a path, a header and a query parameter, each with its type. -/
def itemMatch : RouteMatch where
  path := some { type := some .exact, value := some "/cart" }
  headers := some [{ type := some .exact, name := "X-Env", value := "test" }]
  queryParams := some [{ type := some .exact, name := "item", value := "1" }]

/-- A request that it accepts. -/
def itemRequest : HttpRequest where
  request := { path := ⟨"/cart", rfl⟩, headers := fun name => if name = "x-env" then some "test" else none }
  method := ⟨"GET", by decide⟩
  queryParams name := if name = "item" then some "1" else none

/-- The match is kept. -/
theorem itemMatch_accepts_iff :
    itemMatch.AcceptsRequest literalRegexMatch itemRequest ∧
      ∀ r : HttpRequest, (convertRouteMatch quotedMethod itemMatch).Accepts literalRegexMatch (fun _ => False) r ↔
        itemMatch.AcceptsRequest literalRegexMatch r := by
  have htyped (norm : String → String) (h : HeaderMatch) (hh : h.type ≠ none) :
      FieldsKept literalRegexMatch (fun _ => False) norm [h] := by
    rintro name value -
    refine iff_of_true (fun h' hmem _ hnone => ?_) ?_
    · obtain rfl := List.mem_singleton.1 hmem
      exact absurd hnone hh
    · rintro ⟨h', hmem, -, hnone⟩
      obtain rfl := List.mem_singleton.1 hmem
      exact hh hnone
  have hrequest : itemMatch.AcceptsRequest literalRegexMatch itemRequest := by
    refine ⟨⟨rfl, fun h hmem => ?_⟩, fun method hmethod => (nomatch hmethod), fun q hmem => ?_⟩
    · obtain rfl := List.mem_singleton.1 hmem
      exact ⟨"test", by decide +kernel, rfl⟩
    · obtain rfl := List.mem_singleton.1 hmem
      exact ⟨"1", rfl, rfl⟩
  refine ⟨hrequest, (convertRouteMatch_accepts_iff literalRegexMatch _ (fun _ => rfl) itemMatch).2 (.inr ⟨?_, rfl, ?_,
    htyped _ _ (by decide), htyped _ _ (by decide)⟩)⟩
  · rintro (hpath | ⟨name, hheader⟩ | ⟨name, hquery⟩)
    · exact hpath ⟨"/cart", rfl⟩ rfl
    · obtain ⟨h, hmem, -, hnot⟩ := hheader "test"
      obtain rfl := List.mem_singleton.1 hmem
      exact hnot rfl
    · obtain ⟨q, hmem, -, hnot⟩ := hquery "1"
      obtain rfl := List.mem_singleton.1 hmem
      exact hnot rfl
  · intro p hp
    obtain rfl := Option.some.inj hp
    exact fun h => by cases h

/-- The match that agentgateways get for the method GET accepts no request. -/
theorem getMatch_not_accepts_iff :
    ¬ ∀ r : HttpRequest,
      (convertRouteMatch quotedMethod { method := some .get }).Accepts literalRegexMatch (fun _ => False) r ↔
        RouteMatch.AcceptsRequest literalRegexMatch { method := some .get } r := by
  intro h
  let r : HttpRequest := ⟨⟨⟨"/", rfl⟩, fun _ => none⟩, ⟨"GET", by decide⟩, fun _ => none⟩
  have hsource : RouteMatch.AcceptsRequest literalRegexMatch { method := some .get } r := by
    refine ⟨⟨RouteMatch.accepts_pathPrefix_self literalRegexMatch, fun h hmem => nomatch hmem⟩, ?_,
      fun q hmem => nomatch hmem⟩
    rintro method hmethod
    rw [← Option.some.inj hmethod]
    rfl
  exact absurd (((h r).2 hsource).method _ rfl) (by decide : ("GET" : String) ≠ "\"GET\"")

end Kubvernor
