import Kubvernor.Envoy.MatchTranslation
import Kubvernor.Lib.JoinedNames

/-!
# The translation of GRPC matches

A GRPC request has the path `/service/method`. A match places a condition on the service, on the
method, on both or on none; the match of Envoy made of it looks at the path as a whole. An absent
service becomes a slash of its own in that path and an absent method is left out with the slash
before it, so that only a match with both parts, or without a method match, is kept when parts are
compared exactly; a match without a type is translated as if it placed no condition at all. Headers
are translated as those of HTTP matches are (`GRPCEffectiveRoutingRule.grpcAccepts_iff_kept`).
-/

namespace Kubvernor

/-! ## Requests -/

/-- The two parts of the path of a GRPC request have no slash. -/
structure GrpcPath where
  service : String
  method : String
  service_noSlash : '/' ∉ service.toList
  method_noSlash : '/' ∉ method.toList

namespace GrpcPath

instance : Nonempty GrpcPath := ⟨"", "", List.not_mem_nil, List.not_mem_nil⟩

def text (path : GrpcPath) : String := "/" ++ path.service ++ "/" ++ path.method

theorem toList_text (path : GrpcPath) :
    path.text.toList = '/' :: (path.service.toList ++ '/' :: path.method.toList) := by
  simp only [text, String.toList_append, List.append_assoc]
  rfl

def requestPath (path : GrpcPath) : RequestPath := ⟨path.text, by rw [toList_text]; rfl⟩

end GrpcPath

structure GrpcRequest where
  path : GrpcPath
  headers : String → Option String

/-- The request as Envoy sees it. -/
def GrpcRequest.request (r : GrpcRequest) : Request := ⟨r.path.requestPath, r.headers⟩

/-! ## The match of the Gateway API -/

namespace GrpcMethodMatch

/-- The type of the method match; it is exact if nothing is said. -/
def matchType (m : GrpcMethodMatch) : HeaderMatchType := m.type.getD .exact

/-- The slashes between the parts of the path that is made of the match. -/
def slashes (m : GrpcMethodMatch) : Nat :=
  (trimPath m.service).toList.count '/' + m.method.elim 0 fun method => 1 + method.toList.count '/'

/-- The path or pattern that is made of the match. -/
def madePath (m : GrpcMethodMatch) : String :=
  match m.method with
  | some method => "/" ++ trimPath m.service ++ "/" ++ method
  | none => "/" ++ trimPath m.service

end GrpcMethodMatch

/-- The headers of a GRPC match, as an HTTP match. -/
def GrpcRouteMatch.onHeaders (m : GrpcRouteMatch) : RouteMatch := { headers := m.headers }

section Meaning

variable (regexMatch : String → String → Bool)

def HeaderMatchType.Accepts (type : HeaderMatchType) (value text : String) : Prop :=
  match type with
  | .exact => text = value
  | .regularExpression => regexMatch value text = true

/-- An absent part places no condition. -/
def GrpcMethodMatch.Accepts (m : GrpcMethodMatch) (path : GrpcPath) : Prop :=
  (∀ service ∈ m.service, m.matchType.Accepts regexMatch service path.service) ∧
    ∀ method ∈ m.method, m.matchType.Accepts regexMatch method path.method

/-- The meaning of a GRPC match. -/
def GrpcRouteMatch.Accepts (m : GrpcRouteMatch) (request : GrpcRequest) : Prop :=
  (∀ method ∈ m.method, method.Accepts regexMatch request.path) ∧
    ∀ h ∈ m.headers.getD [], ∃ value ∈ request.request.header h.name, h.Accepts regexMatch value

/-! ## What is kept -/

namespace GrpcMethodMatch

/-- A part that cannot be met: an exact value with a slash in it, or a pattern that matches no text
without one. -/
def Unmatchable (m : GrpcMethodMatch) : Prop :=
  ∃ value, (value ∈ m.service ∨ value ∈ m.method) ∧ ∀ text : String, '/' ∉ text.toList →
    ¬ m.matchType.Accepts regexMatch value text

/-- The path that is made of the match is not the path of a request, or the pattern matches none. -/
def UnmatchableAsMade (m : GrpcMethodMatch) : Prop :=
  match m.type with
  | none => False
  | some .exact => m.slashes ≠ 1
  | some .regularExpression => ∀ path : GrpcPath, regexMatch m.madePath path.text = false

/-- Without a type nothing may be asked for, and an exact match has both parts; the pattern matches
what the patterns of its parts match. -/
def Kept (m : GrpcMethodMatch) : Prop :=
  match m.type with
  | none => m.service = none ∧ m.method = none
  | some .exact => m.service ≠ none ∧ m.method ≠ none
  | some .regularExpression => ∀ path : GrpcPath,
      regexMatch m.madePath path.text = true ↔
        (∀ service ∈ m.service, regexMatch service path.service = true) ∧
          ∀ method ∈ m.method, regexMatch method path.method = true

end GrpcMethodMatch

namespace GrpcRouteMatch

/-- The method match cannot be met, or the matches of one header have no value in common. -/
def Unmatchable (m : GrpcRouteMatch) : Prop :=
  (∃ method ∈ m.method, method.Unmatchable regexMatch) ∨
    ∃ name, ∀ value, ∃ h ∈ m.headers.getD [], h.name.toLower = name ∧ ¬ h.Accepts regexMatch value

/-- No request has the path that is made of the method match, or two matches of one header have
different values. -/
def UnmatchableAsMade (m : GrpcRouteMatch) : Prop :=
  (∃ method ∈ m.method, method.UnmatchableAsMade regexMatch) ∨
    ∃ h ∈ m.headers.getD [], ∃ h' ∈ m.headers.getD [],
      h.name.toLower = h'.name.toLower ∧ h.value ≠ h'.value

/-- What the translation keeps: the method match and the headers, or that nothing is accepted. -/
def Kept (m : GrpcRouteMatch) : Prop :=
  (m.Unmatchable regexMatch ∧ m.UnmatchableAsMade regexMatch) ∨
    (¬ m.Unmatchable regexMatch ∧ ¬ m.UnmatchableAsMade regexMatch ∧
      (∀ method ∈ m.method, method.Kept regexMatch) ∧ m.onHeaders.HeadersKept regexMatch)

end GrpcRouteMatch

/-! ## Paths -/

namespace GrpcMethodMatch

variable {m : GrpcMethodMatch}

/-- One part of the match can be met, or a value of it cannot. -/
theorem part_met_or (m : GrpcMethodMatch) (part : Option String) :
    (∃ text : String, '/' ∉ text.toList ∧ ∀ value ∈ part, m.matchType.Accepts regexMatch value text) ∨
      ∃ value ∈ part, ∀ text : String, '/' ∉ text.toList → ¬ m.matchType.Accepts regexMatch value text := by
  cases part with
  | none => exact .inl ⟨"", List.not_mem_nil, fun value h => nomatch h⟩
  | some value =>
    simp only [Option.mem_some_iff, exists_eq_left', forall_eq']
    rw [or_iff_not_imp_right]
    intro h
    push Not at h
    exact h

theorem vacant_iff : (∀ path, ¬ m.Accepts regexMatch path) ↔ m.Unmatchable regexMatch := by
  constructor
  · intro hvacant
    rcases part_met_or regexMatch m m.service with ⟨service, hservice, hmet⟩ | ⟨value, hvalue, hrefuses⟩
    · rcases part_met_or regexMatch m m.method with ⟨method, hmethod, hmet'⟩ | ⟨value, hvalue, hrefuses⟩
      · exact absurd ⟨hmet, hmet'⟩ (hvacant ⟨service, method, hservice, hmethod⟩)
      · exact ⟨value, .inr hvalue, hrefuses⟩
    · exact ⟨value, .inl hvalue, hrefuses⟩
  · rintro ⟨value, hvalue | hvalue, hrefuses⟩ path ⟨hservice, hmethod⟩
    · exact hrefuses _ path.service_noSlash (hservice value hvalue)
    · exact hrefuses _ path.method_noSlash (hmethod value hvalue)

/-- Behind its first slash the made path has the slashes of the match. -/
theorem exists_madePath_eq (m : GrpcMethodMatch) :
    ∃ rest, m.madePath.toList = '/' :: rest ∧ rest.count '/' = m.slashes := by
  unfold madePath slashes
  cases m.method with
  | none => exact ⟨(trimPath m.service).toList, by rw [String.toList_append]; rfl, rfl⟩
  | some method =>
    refine ⟨(trimPath m.service).toList ++ '/' :: method.toList, ?_, ?_⟩
    · simp only [String.toList_append, List.append_assoc]
      rfl
    · rw [List.count_append, List.count_cons_self, Option.elim_some, Nat.add_comm 1]

/-- The made path is the path of a request exactly if it has one slash between its parts. -/
theorem exists_text_eq_iff : (∃ path : GrpcPath, path.text = m.madePath) ↔ m.slashes = 1 := by
  obtain ⟨rest, hrest, hcount⟩ := m.exists_madePath_eq
  rw [← hcount, Lib.count_eq_one_iff]
  constructor
  · rintro ⟨path, hpath⟩
    rw [← hpath, GrpcPath.toList_text, List.cons.injEq] at hrest
    exact ⟨_, _, hrest.2.symm, path.service_noSlash, path.method_noSlash⟩
  · rintro ⟨service, method, rfl, hservice, hmethod⟩
    refine ⟨⟨.ofList service, .ofList method, ?_, ?_⟩, String.toList_inj.1 ?_⟩
    · rwa [String.toList_ofList]
    · rwa [String.toList_ofList]
    · rw [GrpcPath.toList_text, hrest]
      simp only [String.toList_ofList]

/-- The paths that Envoy accepts. -/
def AcceptsByEnvoy (m : GrpcMethodMatch) (path : GrpcPath) : Prop :=
  match m.type with
  | none => True
  | some .exact => path.text = m.madePath
  | some .regularExpression => regexMatch m.madePath path.text = true

theorem pathSpecifier_accepts_iff {method : Option GrpcMethodMatch} {path : GrpcPath} :
    (∀ specifier ∈ (grpcPathSpecifier method).or (some (.pathPrefix "/")),
      specifier.Accepts regexMatch path.requestPath) ↔ ∀ m ∈ method, m.AcceptsByEnvoy regexMatch path := by
  have hroot : (PathSpecifier.pathPrefix "/").Accepts regexMatch path.requestPath :=
    ⟨_, path.toList_text.symm⟩
  cases method with
  | none => simpa [grpcPathSpecifier] using hroot
  | some m =>
    simp only [grpcPathSpecifier, Option.bind_some, Option.mem_some_iff, forall_eq']
    unfold AcceptsByEnvoy
    cases ht : m.type with
    | none => simpa using hroot
    | some type =>
      simp only [Option.map_some, Option.some_or, Option.mem_some_iff, forall_eq', madePath]
      cases type with
      | exact => cases m.method <;> exact Iff.rfl
      | regularExpression => cases m.method <;> exact Iff.rfl

theorem envoyVacant_iff :
    (∀ path, ¬ m.AcceptsByEnvoy regexMatch path) ↔ m.UnmatchableAsMade regexMatch := by
  unfold AcceptsByEnvoy UnmatchableAsMade
  cases m.type with
  | none => exact iff_of_false (fun h => h ⟨"", "", List.not_mem_nil, List.not_mem_nil⟩ trivial) id
  | some type =>
    cases type with
    | exact =>
      rw [Ne, ← exists_text_eq_iff, not_exists]
    | regularExpression => exact forall_congr' fun path => Bool.eq_false_iff.symm

/-- Without slashes there is nothing to trim. -/
theorem trimPath_of_noSlash {service : String} (h : '/' ∉ service.toList) : trimPath (some service) = service := by
  have hlast : service.toList.getLast? ≠ some '/' := fun hlast => h (List.mem_of_getLast? hlast)
  change (if 1 < service.utf8ByteSize then trimEndMatches service '/' else service) = service
  rw [trimEndMatches, rdropWhile_eq_self hlast, String.ofList_toList, ite_self]

/-- What an exact match that can be met asks for has no slash. -/
theorem noSlash_of_matchable (hm : ¬ m.Unmatchable regexMatch) (ht : m.matchType = .exact) {value : String}
    (hvalue : value ∈ m.service ∨ value ∈ m.method) : '/' ∉ value.toList := by
  unfold Unmatchable at hm
  push Not at hm
  obtain ⟨text, hslash, haccepts⟩ := hm value hvalue
  rw [ht] at haccepts
  exact (show text = value from haccepts) ▸ hslash

/-- A condition on a part refuses some request. -/
theorem exists_ne_value (value : String) : ∃ text : String, '/' ∉ text.toList ∧ text ≠ value := by
  by_cases hempty : value = ""
  · exact ⟨"x", by decide, hempty ▸ by decide⟩
  · exact ⟨"", by decide, Ne.symm hempty⟩

theorem kept_of_untyped (ht : m.type = none) :
    (∀ path, m.Accepts regexMatch path ↔ True) ↔ m.service = none ∧ m.method = none := by
  have htype : m.matchType = .exact := by rw [matchType, ht, Option.getD_none]
  unfold Accepts
  rw [htype]
  constructor
  · intro h
    refine ⟨Option.eq_none_iff_forall_not_mem.2 fun service hservice => ?_,
      Option.eq_none_iff_forall_not_mem.2 fun method hmethod => ?_⟩
    · obtain ⟨text, hslash, hne⟩ := exists_ne_value service
      exact hne (((h ⟨text, "", hslash, by decide⟩).2 trivial).1 service hservice)
    · obtain ⟨text, hslash, hne⟩ := exists_ne_value method
      exact hne (((h ⟨"", text, by decide, hslash⟩).2 trivial).2 method hmethod)
  · rintro ⟨hservice, hmethod⟩ path
    rw [hservice, hmethod]
    exact iff_true_intro ⟨fun _ h => (nomatch h), fun _ h => (nomatch h)⟩

/-- With one slash between its parts, the made path of an exact match that can be met has been made
of both parts or of none. -/
theorem both_or_none (hm : ¬ m.Unmatchable regexMatch) (ht : m.matchType = .exact) (hslashes : m.slashes = 1) :
    (m.service = none ∧ m.method = none) ∨ (m.service ≠ none ∧ m.method ≠ none) := by
  cases hservice : m.service with
  | none =>
    cases hmethod : m.method with
    | none => exact .inl ⟨rfl, rfl⟩
    | some method =>
      rw [slashes, hservice, hmethod, Option.elim_some] at hslashes
      have hone : (trimPath none).toList.count '/' = 1 := by decide
      omega
  | some service =>
    cases hmethod : m.method with
    | none =>
      have hslash := noSlash_of_matchable regexMatch hm ht (.inl hservice)
      rw [slashes, hservice, hmethod, trimPath_of_noSlash hslash, List.count_eq_zero.2 hslash] at hslashes
      exact nomatch hslashes
    | some method => exact .inr ⟨Option.some_ne_none _, Option.some_ne_none _⟩

theorem text_inj {path path' : GrpcPath} :
    path.text = path'.text ↔ path.service = path'.service ∧ path.method = path'.method := by
  rw [← String.toList_inj, GrpcPath.toList_text, GrpcPath.toList_text, List.cons.injEq,
    Lib.append_cons_inj_right path.method_noSlash path'.method_noSlash, String.toList_inj, String.toList_inj]
  exact and_iff_right rfl

theorem kept_of_exact (hm : ¬ m.Unmatchable regexMatch) (ht : m.matchType = .exact) (hslashes : m.slashes = 1) :
    (∀ path, m.Accepts regexMatch path ↔ path.text = m.madePath) ↔ m.service ≠ none ∧ m.method ≠ none := by
  unfold Accepts
  rw [ht]
  constructor
  · intro h
    refine (both_or_none regexMatch hm ht hslashes).resolve_left ?_
    rintro ⟨hservice, hmethod⟩
    -- everything is asked for, and only one path is accepted
    have hall : ∀ path : GrpcPath, path.text = m.madePath := by
      intro path
      rw [← h, hservice, hmethod]
      exact ⟨fun _ h => (nomatch h), fun _ h => (nomatch h)⟩
    have hsame := (hall ⟨"", "", by decide, by decide⟩).trans (hall ⟨"x", "", by decide, by decide⟩).symm
    exact absurd (text_inj.1 hsame).1 (by decide)
  · rintro ⟨hservice, hmethod⟩ path
    obtain ⟨service, hservice⟩ := Option.ne_none_iff_exists'.1 hservice
    obtain ⟨method, hmethod⟩ := Option.ne_none_iff_exists'.1 hmethod
    have hslash := noSlash_of_matchable regexMatch hm ht (.inl hservice)
    have hslash' := noSlash_of_matchable regexMatch hm ht (.inr hmethod)
    have hmade : m.madePath = GrpcPath.text ⟨service, method, hslash, hslash'⟩ := by
      rw [madePath, hservice, hmethod, trimPath_of_noSlash hslash]
      rfl
    rw [hmade, text_inj, hservice, hmethod]
    simp only [Option.mem_some_iff, forall_eq']
    rfl

/-- Where both the match and what is made of it can be met, they accept the same paths exactly if
the match is kept. -/
theorem accepts_iff_acceptsByEnvoy (hm : ¬ m.Unmatchable regexMatch) (hmade : ¬ m.UnmatchableAsMade regexMatch) :
    (∀ path, m.Accepts regexMatch path ↔ m.AcceptsByEnvoy regexMatch path) ↔ m.Kept regexMatch := by
  unfold AcceptsByEnvoy Kept
  unfold UnmatchableAsMade at hmade
  cases ht : m.type with
  | none => exact kept_of_untyped regexMatch ht
  | some type =>
    have htype : m.matchType = type := by rw [matchType, ht, Option.getD_some]
    rw [ht] at hmade
    cases type with
    | exact => exact kept_of_exact regexMatch hm htype (not_not.1 hmade)
    | regularExpression =>
      unfold Accepts
      rw [htype]
      exact forall_congr' fun path => iff_comm

end GrpcMethodMatch

/-! ## Matches -/

namespace GrpcRouteMatch

variable {m : GrpcRouteMatch}

theorem accepts_iff_parts {path : GrpcPath} {headers : String → Option String} :
    m.Accepts regexMatch ⟨path, headers⟩ ↔ (∀ method ∈ m.method, method.Accepts regexMatch path) ∧
      ∀ name, m.onHeaders.HeaderAccepts regexMatch name (headers name) := by
  refine and_congr_right fun _ => ⟨?_, fun h header hmem => h _ header hmem rfl⟩
  rintro h name header hmem rfl
  exact h header hmem

theorem vacant_iff_unmatchable :
    Lib.Vacant (fun path => ∀ method ∈ m.method, method.Accepts regexMatch path)
      (m.onHeaders.HeaderAccepts regexMatch) ↔ m.Unmatchable regexMatch := by
  refine or_congr ?_ (RouteMatch.header_vacant_iff regexMatch)
  rw [Lib.forall_not_forall_mem_iff]
  exact exists_congr fun _ => and_congr_right fun _ => GrpcMethodMatch.vacant_iff regexMatch

theorem vacant_iff_unmatchableAsMade :
    Lib.Vacant (fun path => ∀ method ∈ m.method, method.AcceptsByEnvoy regexMatch path)
      m.onHeaders.HeaderAcceptsByEnvoy ↔ m.UnmatchableAsMade regexMatch := by
  refine or_congr ?_ RouteMatch.envoyHeader_vacant_iff
  rw [Lib.forall_not_forall_mem_iff]
  exact exists_congr fun _ => and_congr_right fun _ => GrpcMethodMatch.envoyVacant_iff regexMatch

/-- Part by part, a match that can be accepted on both sides is kept. -/
theorem parts_iff_kept (hsource : ¬ m.Unmatchable regexMatch) (henvoy : ¬ m.UnmatchableAsMade regexMatch) :
    ((∀ path, (∀ method ∈ m.method, method.Accepts regexMatch path) ↔
        ∀ method ∈ m.method, method.AcceptsByEnvoy regexMatch path) ∧
      ∀ name value, m.onHeaders.HeaderAccepts regexMatch name value ↔
        m.onHeaders.HeaderAcceptsByEnvoy name value) ↔
      (∀ method ∈ m.method, method.Kept regexMatch) ∧ m.onHeaders.HeadersKept regexMatch := by
  obtain ⟨hmethod, hheaders⟩ := not_or.1 hsource
  obtain ⟨hmade, hvalues⟩ := not_or.1 henvoy
  have hcommon : ∀ name, ∃ value, ∀ h ∈ m.onHeaders.headerMatches, h.name.toLower = name →
      h.Accepts regexMatch value := by
    by_contra hnone
    push Not at hnone
    exact hheaders hnone
  have hagree : m.onHeaders.HeadersAgree := by
    intro h hmem h' hmem' hname
    by_contra hne
    exact hvalues ⟨h, hmem, h', hmem', hname, hne⟩
  refine and_congr ?_ (RouteMatch.headers_iff_kept regexMatch hagree hcommon)
  cases hm : m.method with
  | none => exact iff_of_true (fun path => iff_of_true (fun _ h => (nomatch h)) fun _ h => (nomatch h)) fun _ h => (nomatch h)
  | some method =>
    simp only [Option.mem_some_iff, forall_eq']
    exact GrpcMethodMatch.accepts_iff_acceptsByEnvoy regexMatch (fun h => hmethod ⟨method, hm, h⟩)
      fun h => hmade ⟨method, hm, h⟩

end GrpcRouteMatch

namespace GRPCEffectiveRoutingRule

variable {rule : GRPCEffectiveRoutingRule}

theorem envoyAccepts_iff_parts {path : GrpcPath} {headers : String → Option String} :
    rule.envoyRoute.routeMatch.Accepts regexMatch (GrpcRequest.request ⟨path, headers⟩) ↔
      (∀ method ∈ rule.routeMatcher.method, method.AcceptsByEnvoy regexMatch path) ∧
        ∀ name, rule.routeMatcher.onHeaders.HeaderAcceptsByEnvoy name (headers name) :=
  and_congr (GrpcMethodMatch.pathSpecifier_accepts_iff regexMatch)
    (RouteMatch.headerMatchers_iff_parts (m := rule.routeMatcher.onHeaders))

/-- The route that Envoy gets for a rule accepts what its match accepts exactly if the match is
kept. -/
theorem grpcAccepts_iff_kept (rule : GRPCEffectiveRoutingRule) :
    (∀ request : GrpcRequest, rule.envoyRoute.routeMatch.Accepts regexMatch request.request ↔
      rule.routeMatcher.Accepts regexMatch request) ↔ rule.routeMatcher.Kept regexMatch := by
  have hparts : (∀ request : GrpcRequest, rule.envoyRoute.routeMatch.Accepts regexMatch request.request ↔
      rule.routeMatcher.Accepts regexMatch request) ↔
      ∀ (path : GrpcPath) (headers : String → Option String),
        ((∀ method ∈ rule.routeMatcher.method, method.Accepts regexMatch path) ∧
          ∀ name, rule.routeMatcher.onHeaders.HeaderAccepts regexMatch name (headers name)) ↔
        (∀ method ∈ rule.routeMatcher.method, method.AcceptsByEnvoy regexMatch path) ∧
          ∀ name, rule.routeMatcher.onHeaders.HeaderAcceptsByEnvoy name (headers name) := by
    simp only [← GrpcRouteMatch.accepts_iff_parts, ← envoyAccepts_iff_parts]
    exact ⟨fun h path headers => (h ⟨path, headers⟩).symm, fun h request => (h request.path request.headers).symm⟩
  rw [hparts, Lib.forall_parts_iff, GrpcRouteMatch.vacant_iff_unmatchable,
    GrpcRouteMatch.vacant_iff_unmatchableAsMade, GrpcRouteMatch.Kept, or_comm]
  refine or_congr_right' fun hvacant => ?_
  constructor
  · intro hparts
    have hboth : rule.routeMatcher.Unmatchable regexMatch ↔ rule.routeMatcher.UnmatchableAsMade regexMatch := by
      rw [← GrpcRouteMatch.vacant_iff_unmatchable, ← GrpcRouteMatch.vacant_iff_unmatchableAsMade]
      exact Lib.vacant_congr hparts.1 hparts.2
    have hsource : ¬ rule.routeMatcher.Unmatchable regexMatch := fun h => hvacant ⟨h, hboth.1 h⟩
    have henvoy := mt hboth.2 hsource
    exact ⟨hsource, henvoy, (GrpcRouteMatch.parts_iff_kept regexMatch hsource henvoy).1 hparts⟩
  · rintro ⟨hsource, henvoy, hkept⟩
    exact (GrpcRouteMatch.parts_iff_kept regexMatch hsource henvoy).2 hkept

end GRPCEffectiveRoutingRule

/-- The match that a rule without matches gets is kept. -/
theorem getGrpcDefaultRulesMatches_kept : getGrpcDefaultRulesMatches.Kept regexMatch := by
  refine .inr ⟨?_, ?_, fun _ h => (nomatch h), fun h hmem => (nomatch hmem)⟩
  · rintro (⟨_, hmethod, -⟩ | ⟨_, hrefused⟩)
    · exact nomatch hmethod
    · obtain ⟨h, hmem, -⟩ := hrefused ""
      exact nomatch hmem
  · rintro (⟨_, hmethod, -⟩ | ⟨h, hmem, -⟩)
    · exact nomatch hmethod
    · exact nomatch hmem

end Meaning

/-- A rule for all methods of one service. -/
def serviceRule : GRPCEffectiveRoutingRule where
  routeMatcher := { method := some { service := some "shop", type := some .exact } }
  backends := []
  name := "shop"
  hostnames := ["*"]
  requestHeaders := {}
  responseHeaders := {}

/-- Envoy accepts no method of the service, only a path that is no path of a request. -/
theorem serviceRule_not_accepts_iff :
    ¬ ∀ request : GrpcRequest, serviceRule.envoyRoute.routeMatch.Accepts literalRegexMatch request.request ↔
      serviceRule.routeMatcher.Accepts literalRegexMatch request := by
  intro h
  have hsource : serviceRule.routeMatcher.Accepts literalRegexMatch
      ⟨⟨"shop", "Get", by decide, by decide⟩, fun _ => none⟩ := by
    refine ⟨?_, fun h hmem => nomatch hmem⟩
    rintro method hmethod
    obtain rfl := Option.some.inj hmethod
    exact ⟨fun service hservice => Option.some.inj hservice, fun method hmethod => nomatch hmethod⟩
  have henvoy := (h _).2 hsource
  have hpath := henvoy.1 _ rfl
  exact absurd hpath (by decide : ("/shop/Get" : String) ≠ "/shop")

end Kubvernor
