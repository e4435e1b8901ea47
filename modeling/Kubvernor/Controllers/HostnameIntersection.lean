import Kubvernor.Controllers.HostnameMatchFilter
import Kubvernor.Lib.HostPattern
import Kubvernor.Lib.LabelPattern

/-!
# Hostnames that intersect

A listener should admit the routes one of whose hostnames intersects its own. Of the domain matching
library it is assumed that it matches label by label (`MatchesByLabel`); `labelDomainPattern` is such
a library.

The filter asks for something else of a pair of hostnames (`MeetNarrowly`): a wildcard of the route
is taken for exactly one label, and matches a wildcard of the listener only if it extends it; the
hostname `*` of a listener is taken for one label. A route hostname `*` is seen only in front of the
list (`filter_iff`). When this makes no difference, whatever the order of the list, is said by
`filter_admits_iff`.
-/

namespace Kubvernor

/-! ## Labels -/

def IsDnsLabel (label : String) : Prop :=
  label ≠ "" ∧ ∀ c ∈ label.toList, (c.isLower || c.isDigit || c == '-') = true

-- over the letters of the label, where instance search may find an instance over every `Char`
instance (label : String) : Decidable (IsDnsLabel label) :=
  @instDecidableAnd _ _ inferInstance (List.decidableBAll _ label.toList)

/-- Labels with dots between them. -/
def dotted (labels : List String) : String := String.ofList (['.'].intercalate (labels.map String.toList))

/-- The labels between the dots. -/
def labelsOf (hostname : String) : List String := (hostname.toList.splitOn '.').map String.ofList

theorem toList_dotted (labels : List String) :
    (dotted labels).toList = ['.'].intercalate (labels.map String.toList) := String.toList_ofList

theorem labelsOf_dotted {labels : List String} (hdot : ∀ label ∈ labels, '.' ∉ label.toList) (hne : labels ≠ []) :
    labelsOf (dotted labels) = labels := by
  rw [labelsOf, toList_dotted, List.splitOn_intercalate, List.map_map]
  · have hid : String.ofList ∘ String.toList = id := funext fun _ => String.ofList_toList
    rw [hid, List.map_id]
  · intro l hl
    obtain ⟨label, hlabel, rfl⟩ := List.mem_map.1 hl
    exact hdot label hlabel
  · exact fun h => hne (List.map_eq_nil_iff.1 h)

theorem dotted_cons {label : String} {labels : List String} (hne : labels ≠ []) :
    dotted (label :: labels) = label ++ "." ++ dotted labels := by
  apply String.toList_inj.1
  have hne' : labels.map String.toList ≠ [] := fun h => hne (List.map_eq_nil_iff.1 h)
  rw [String.toList_append, String.toList_append, toList_dotted, toList_dotted, List.map_cons,
    List.intercalate_cons_of_ne_nil hne']
  simp only [List.append_assoc]
  rfl

theorem IsDnsLabel.noDot {label : String} (h : IsDnsLabel label) : '.' ∉ label.toList :=
  fun hmem => absurd (h.2 _ hmem) (by decide)

theorem not_isDnsLabel_star : ¬ IsDnsLabel "*" := by decide

/-! ## The library -/

/-- How a label of a pattern is written. -/
def patternText : Lib.LabelPattern String → String
  | .literal label => label
  | .one => "*"
  | .oneOrMore => "**+"

/-- A literal label matches itself, `*` exactly one label and `**+` one label or more, for patterns
of literal labels behind any first one. -/
def MatchesByLabel (domainPattern : String → Option (String → Bool)) : Prop :=
  ∀ (first : Lib.LabelPattern String) (rest : List String),
    (∀ label, first = .literal label → IsDnsLabel label) → (∀ label ∈ rest, IsDnsLabel label) →
    ∃ isMatch, domainPattern (dotted (patternText first :: rest)) = some isMatch ∧
      ∀ labels : List String, labels ≠ [] → (∀ label ∈ labels, label = "*" ∨ IsDnsLabel label) →
        isMatch (dotted labels) = Lib.LabelPattern.isMatch (first :: rest.map .literal) labels

/-- The label of a pattern that is written like this. -/
def patternOfText (label : String) : Lib.LabelPattern String :=
  if label = "*" then .one else if label = "**+" then .oneOrMore else .literal label

/-- A library that matches label by label. -/
def labelDomainPattern (pattern : String) : Option (String → Bool) :=
  some fun hostname => Lib.LabelPattern.isMatch ((labelsOf pattern).map patternOfText) (labelsOf hostname)

theorem patternOfText_of_isDnsLabel {label : String} (h : IsDnsLabel label) :
    patternOfText label = .literal label := by
  rw [patternOfText, if_neg, if_neg]
  · rintro rfl
    exact absurd h (by decide)
  · rintro rfl
    exact not_isDnsLabel_star h

theorem labelDomainPattern_matchesByLabel : MatchesByLabel labelDomainPattern := by
  intro first rest hfirst hrest
  refine ⟨_, rfl, fun labels hne hlabels => ?_⟩
  have htext : '.' ∉ (patternText first).toList ∧ patternOfText (patternText first) = first := by
    cases first with
    | literal label => exact ⟨(hfirst label rfl).noDot, patternOfText_of_isDnsLabel (hfirst label rfl)⟩
    | one => decide
    | oneOrMore => decide
  have hpattern : (labelsOf (dotted (patternText first :: rest))).map patternOfText =
      first :: rest.map .literal := by
    rw [labelsOf_dotted (List.forall_mem_cons.2 ⟨htext.1, fun label h => (hrest label h).noDot⟩) (List.cons_ne_nil _ _),
      List.map_cons, htext.2, List.map_congr_left fun label h => patternOfText_of_isDnsLabel (hrest label h)]
  have hhost : labelsOf (dotted labels) = labels := by
    refine labelsOf_dotted (fun label hlabel => ?_) hne
    rcases hlabels label hlabel with rfl | h
    · decide
    · exact h.noDot
  rw [hpattern, hhost]

/-! ## Hostnames -/

/-- A hostname is a DNS name, such a name with a wildcard for the labels in front, or `*`. -/
structure Hostname where
  pattern : Lib.HostPattern String
  dns : ∀ label ∈ pattern.letters, IsDnsLabel label
  named : pattern = .any ∨ pattern.letters ≠ []

namespace Hostname

def labels (h : Hostname) : List String :=
  match h.pattern with
  | .any => ["*"]
  | .below suffix => "*" :: suffix
  | .exact host => host

def text (h : Hostname) : String := dotted h.labels

end Hostname

open Lib (HostPattern)

/-- The hostnames are equal, one is below the suffix of the other, or one suffix extends the other. -/
def Intersect : HostPattern String → HostPattern String → Prop
  | .exact host, .exact host' => host = host'
  | .exact host, .below suffix | .below suffix, .exact host => suffix <:+ host ∧ suffix ≠ host
  | .below suffix, .below suffix' => suffix <:+ suffix' ∨ suffix' <:+ suffix
  | .any, .any => True
  | .any, .exact _ | .any, .below _ | .exact _, .any | .below _, .any => False

/-- What the filter asks for instead of a hostname of the listener and one of the route. -/
def MeetNarrowly : HostPattern String → HostPattern String → Prop
  | .exact host, .exact host' => host = host'
  | .exact host, .below suffix => ∃ label, host = label :: suffix
  | .below suffix, .exact host => suffix <:+ host ∧ suffix ≠ host
  | .below suffix, .below suffix' => suffix <:+ suffix'
  | .any, .exact host => host.length = 1
  | .any, .any => True
  | .any, .below _ | .exact _, .any | .below _, .any => False

/-! ## The text of a hostname -/

namespace Hostname

variable {h l r : Hostname}

theorem labels_ne_nil (h : Hostname) : h.labels ≠ [] := by
  obtain ⟨pattern, dns, named⟩ := h
  cases pattern with
  | any => exact List.cons_ne_nil _ _
  | below suffix => exact List.cons_ne_nil _ _
  | exact host => exact named.resolve_left (nomatch ·)

theorem isDnsLabel_of_mem_labels (h : Hostname) : ∀ label ∈ h.labels, label = "*" ∨ IsDnsLabel label := by
  obtain ⟨pattern, dns, named⟩ := h
  intro label hlabel
  cases pattern with
  | any => exact .inl (List.mem_singleton.1 hlabel)
  | below suffix => exact (List.mem_cons.1 hlabel).imp_right (dns label)
  | exact host => exact .inr (dns label hlabel)

theorem labelsOf_text (h : Hostname) : labelsOf h.text = h.labels := by
  refine labelsOf_dotted (fun label hlabel => ?_) h.labels_ne_nil
  rcases h.isDnsLabel_of_mem_labels label hlabel with rfl | hdns
  · decide
  · exact hdns.noDot

theorem text_ne_empty (h : Hostname) : h.text ≠ "" := by
  intro hempty
  have hlabels := h.labelsOf_text
  rw [hempty] at hlabels
  have hmem : "" ∈ h.labels := hlabels ▸ List.mem_singleton.2 rfl
  rcases h.isDnsLabel_of_mem_labels "" hmem with heq | hdns
  · exact absurd heq (by decide)
  · exact hdns.1 rfl

/-- The labels of a DNS name have no wildcard in front. -/
theorem labels_ne_star_cons {host rest : List String} (hh : h.pattern = .exact host) : h.labels ≠ "*" :: rest := by
  intro heq
  have hlabels : h.labels = host := by rw [labels, hh]
  have hmem : "*" ∈ h.pattern.letters := by
    rw [hh]
    exact (hlabels.symm.trans heq) ▸ List.mem_cons_self
  exact not_isDnsLabel_star (h.dns _ hmem)

theorem suffix_ne_nil {suffix : List String} (hh : h.pattern = .below suffix) : suffix ≠ [] := by
  have hnamed := h.named
  rw [hh] at hnamed
  exact hnamed.resolve_left (nomatch ·)

theorem text_eq_default_iff : h.text = DEFAULT_ROUTE_HOSTNAME ↔ h.pattern = .any := by
  constructor
  · intro htext
    have hlabels := h.labelsOf_text
    rw [htext] at hlabels
    have hstar : h.labels = ["*"] := hlabels.symm
    cases hh : h.pattern with
    | any => rfl
    | below suffix =>
      rw [labels, hh] at hstar
      exact absurd (List.cons.inj hstar).2 (suffix_ne_nil hh)
    | exact host => exact absurd hstar (labels_ne_star_cons hh)
  · intro hh
    rw [text, labels, hh]
    decide

theorem text_below {suffix : List String} (hh : h.pattern = .below suffix) : h.text = "*." ++ dotted suffix := by
  rw [text, labels, hh]
  exact dotted_cons (suffix_ne_nil hh)

theorem labelsOf_star_dot (t : String) : labelsOf ("*." ++ t) = "*" :: labelsOf t := by
  have hlist : ("*." ++ t).toList = ['*'] ++ '.' :: t.toList := by
    rw [String.toList_append]
    rfl
  rw [labelsOf, hlist, List.splitOn_append_cons_self_of_not_mem (by decide)]
  rfl

theorem stripPrefix_text (h : Hostname) : stripPrefix "*." h.text =
    match h.pattern with
    | .below suffix => some (dotted suffix)
    | .any | .exact _ => none := by
  cases hh : h.pattern with
  | any =>
    rw [text_eq_default_iff.2 hh]
    decide
  | below suffix => exact stripPrefix_eq_some.2 (text_below hh)
  | exact host =>
    rw [Option.eq_none_iff_forall_ne_some]
    intro t ht
    have hlabels := h.labelsOf_text
    rw [stripPrefix_eq_some.1 ht, labelsOf_star_dot] at hlabels
    exact labels_ne_star_cons hh hlabels.symm

/-- The two passes of the filter over the hostnames of a route. -/
theorem meetNarrowly_iff (l r : Hostname) : MeetNarrowly l.pattern r.pattern ↔
    (match l.pattern with
      | .any => ∃ label, r.labels = [label]
      | .below suffix => suffix <:+ r.labels ∧ suffix ≠ r.labels
      | .exact host => r.labels = host) ∨
    ∃ suffix, r.pattern = .below suffix ∧ ∃ label, l.labels = label :: suffix := by
  cases hl : l.pattern with
  | any =>
    have hlabels : l.labels = ["*"] := by rw [labels, hl]
    cases hr : r.pattern with
    | any =>
      have hlabels' : r.labels = ["*"] := by rw [labels, hr]
      exact iff_of_true trivial (.inl ⟨"*", hlabels'⟩)
    | below suffix =>
      have hlabels' : r.labels = "*" :: suffix := by rw [labels, hr]
      have hne := suffix_ne_nil hr
      simp [MeetNarrowly, hlabels, hlabels', hne]
    | exact host =>
      have hlabels' : r.labels = host := by rw [labels, hr]
      simp [MeetNarrowly, hlabels', List.length_eq_one_iff]
  | below suffix =>
    have hlabels : l.labels = "*" :: suffix := by rw [labels, hl]
    have hne := suffix_ne_nil hl
    cases hr : r.pattern with
    | any =>
      have hlabels' : r.labels = ["*"] := by rw [labels, hr]
      simp [MeetNarrowly, hlabels', List.suffix_cons_iff, hne]
    | below suffix' =>
      have hlabels' : r.labels = "*" :: suffix' := by rw [labels, hr]
      simp only [MeetNarrowly, hlabels, hlabels', HostPattern.below.injEq, exists_eq_left', List.suffix_cons_iff]
      constructor
      · intro hsuffix
        refine .inl ⟨.inr hsuffix, fun heq => ?_⟩
        have hlength := hsuffix.length_le
        rw [heq, List.length_cons] at hlength
        omega
      · rintro (⟨heq | hsuffix, hne⟩ | ⟨label, heq⟩)
        · exact absurd heq hne
        · exact hsuffix
        · exact (List.cons.inj heq).2 ▸ List.suffix_rfl
    | exact host =>
      have hlabels' : r.labels = host := by rw [labels, hr]
      simp [MeetNarrowly, hlabels']
  | exact host =>
    have hlabels : l.labels = host := by rw [labels, hl]
    have hstar : ∀ rest, host ≠ "*" :: rest := fun rest => hlabels ▸ labels_ne_star_cons hl
    cases hr : r.pattern with
    | any =>
      have hlabels' : r.labels = ["*"] := by rw [labels, hr]
      simp [MeetNarrowly, hlabels', Ne.symm (hstar [])]
    | below suffix =>
      have hlabels' : r.labels = "*" :: suffix := by rw [labels, hr]
      simp [MeetNarrowly, hlabels, hlabels', Ne.symm (hstar suffix)]
    | exact host' =>
      have hlabels' : r.labels = host' := by rw [labels, hr]
      simp [MeetNarrowly, hlabels', eq_comm]

end Hostname

/-- A listener may have no hostname. -/
def Hostname.textOf (l : Option Hostname) : String := l.elim "" Hostname.text

/-- The listener should admit a route with these hostnames. -/
def Admits (l : Option Hostname) (hs : List Hostname) : Prop :=
  l = none ∨ hs = [] ∨ ∃ r ∈ hs, r.pattern = .any ∨ ∃ listener ∈ l, Intersect listener.pattern r.pattern

/-! ## What the filter asks for -/

/-- The hostname of a listener as a pattern of the library. -/
def listenerPattern (hostname : String) : String :=
  match stripPrefix "*." hostname with
  | some stripped => "**+." ++ stripped
  | none => hostname

theorem HostnameMatchFilter.filter_cons (domainPattern : String → Option (String → Bool))
    {listenerHostname : String} (hne : listenerHostname ≠ "") (h : String) (hs : List String) :
    filter domainPattern ⟨listenerHostname, h :: hs⟩ =
      if h = DEFAULT_ROUTE_HOSTNAME then true
      else
        match domainPattern (listenerPattern listenerHostname) with
        | none => false
        | some isMatch =>
          if (h :: hs).any isMatch then true
          else
            ((h :: hs).filter fun r => (stripPrefix "*." r).isSome).any fun r =>
              match domainPattern r with
              | some isRouteMatch => isRouteMatch listenerHostname
              | none => false := by
  unfold filter
  rw [if_neg fun hempty => hne hempty.2]
  rfl

section Library

variable {domainPattern : String → Option (String → Bool)} (hdomain : MatchesByLabel domainPattern)
include hdomain

open Hostname

variable {l r : Hostname}

/-- The hostname of a listener as a pattern, on the hostname of a route. -/
theorem exists_listenerMatch (l : Hostname) : ∃ isMatch,
    domainPattern (listenerPattern l.text) = some isMatch ∧
    ∀ r : Hostname, isMatch r.text = true ↔ match l.pattern with
      | .any => ∃ label, r.labels = [label]
      | .below suffix => suffix <:+ r.labels ∧ suffix ≠ r.labels
      | .exact host => r.labels = host := by
  have hdns := l.dns
  rw [listenerPattern, stripPrefix_text]
  cases hl : l.pattern with
  | any =>
    obtain ⟨isMatch, hpattern, hmatch⟩ := hdomain .one [] (fun _ h => nomatch h) (fun _ h => nomatch h)
    refine ⟨isMatch, ?_, fun r => ?_⟩
    · rw [text, labels, hl]
      exact hpattern
    · rw [text, hmatch _ r.labels_ne_nil r.isDnsLabel_of_mem_labels]
      exact Lib.LabelPattern.isMatch_one_literals
  | below suffix =>
    rw [hl] at hdns
    obtain ⟨isMatch, hpattern, hmatch⟩ := hdomain .oneOrMore suffix (fun _ h => nomatch h) hdns
    refine ⟨isMatch, ?_, fun r => ?_⟩
    · rw [dotted_cons (suffix_ne_nil hl)] at hpattern
      exact hpattern
    · rw [text, hmatch _ r.labels_ne_nil r.isDnsLabel_of_mem_labels]
      exact Lib.LabelPattern.isMatch_oneOrMore_literals
  | exact host =>
    have hlabels : l.labels = host := by rw [labels, hl]
    rw [hl] at hdns
    cases host with
    | nil => exact absurd hlabels l.labels_ne_nil
    | cons label rest =>
      obtain ⟨isMatch, hpattern, hmatch⟩ := hdomain (.literal label) rest
        (fun label' h => hdns label' (Lib.LabelPattern.literal.inj h ▸ List.mem_cons_self))
        fun label' h => hdns label' (List.mem_cons_of_mem _ h)
      refine ⟨isMatch, ?_, fun r => ?_⟩
      · rw [text, hlabels]
        exact hpattern
      · rw [text, hmatch _ r.labels_ne_nil r.isDnsLabel_of_mem_labels]
        exact @Lib.LabelPattern.isMatch_literals _ _ (label :: rest) _

/-- A wildcard of a route as a pattern, on the hostname of a listener. -/
theorem exists_routeMatch {suffix : List String} (hr : r.pattern = .below suffix) : ∃ isMatch,
    domainPattern r.text = some isMatch ∧
      ∀ l : Hostname, isMatch l.text = true ↔ ∃ label, l.labels = label :: suffix := by
  have hdns := r.dns
  rw [hr] at hdns
  obtain ⟨isMatch, hpattern, hmatch⟩ := hdomain .one suffix (fun _ h => nomatch h) hdns
  refine ⟨isMatch, ?_, fun l => ?_⟩
  · rw [text, labels, hr]
    exact hpattern
  · rw [text, hmatch _ l.labels_ne_nil l.isDnsLabel_of_mem_labels]
    exact Lib.LabelPattern.isMatch_one_literals

/-- Unless the first hostname of the route is `*`, some pair of hostnames must meet narrowly. -/
theorem filter_iff (l h : Hostname) (hs : List Hostname) :
    HostnameMatchFilter.filter domainPattern ⟨l.text, (h :: hs).map text⟩ = true ↔
      h.pattern = .any ∨ ∃ r ∈ h :: hs, MeetNarrowly l.pattern r.pattern := by
  obtain ⟨isMatch, hpattern, hmatch⟩ := exists_listenerMatch hdomain l
  rw [List.map_cons, HostnameMatchFilter.filter_cons domainPattern l.text_ne_empty, hpattern]
  simp only [text_eq_default_iff]
  by_cases hany : h.pattern = .any
  · rw [if_pos hany]
    exact iff_of_true rfl (.inl hany)
  · rw [if_neg hany, or_iff_right hany]
    simp only [Bool.if_true_left, Bool.or_eq_true, decide_eq_true_eq]
    rw [← List.map_cons, List.any_map, List.any_eq_true, List.any_filter, List.any_map, List.any_eq_true]
    simp only [meetNarrowly_iff, ← hmatch, Function.comp_apply, and_or_left, exists_or]
    refine or_congr_right (exists_congr fun r => and_congr_right fun _ => ?_)
    rw [stripPrefix_text]
    cases hr : r.pattern with
    | any => simp
    | below suffix =>
      obtain ⟨isRouteMatch, hroute, hmatch'⟩ := exists_routeMatch hdomain hr
      simp [hroute, hmatch']
    | exact host => simp

/-- The same for the list in any order. -/
theorem filter_perm_iff (l : Hostname) {hs hs' : List Hostname} (hperm : hs'.Perm hs) (hne : hs ≠ []) :
    HostnameMatchFilter.filter domainPattern ⟨l.text, hs'.map text⟩ = true ↔
      (∃ h ∈ hs'.head?, h.pattern = .any) ∨ ∃ r ∈ hs, MeetNarrowly l.pattern r.pattern := by
  cases hs' with
  | nil => exact absurd hperm.nil_eq.symm hne
  | cons h rest =>
    rw [filter_iff hdomain]
    simp only [List.head?_cons, Option.mem_some_iff, exists_eq_left', hperm.mem_iff]

omit hdomain in
/-- A listener without a hostname admits every list. -/
theorem filter_textOf_none (hs : List String) : HostnameMatchFilter.filter domainPattern ⟨textOf none, hs⟩ = true := by
  cases hs with
  | nil => rfl
  | cons h hs => rfl

omit hdomain in
theorem admits_some_iff (l : Hostname) {hs : List Hostname} (hne : hs ≠ []) :
    Admits (some l) hs ↔ ∃ r ∈ hs, r.pattern = .any ∨ Intersect l.pattern r.pattern := by
  simp only [Admits, reduceCtorEq, hne, false_or, Option.mem_some_iff, exists_eq_left']

/-- Where the two conditions agree, or all hostnames are `*`, the filter admits what it should. -/
theorem filter_perm_admits_iff (l : Hostname) {hs hs' : List Hostname} (hperm : hs'.Perm hs) (hne : hs ≠ [])
    (hcondition : (∀ r ∈ hs, r.pattern = .any) ∨
      ((∃ r ∈ hs, MeetNarrowly l.pattern r.pattern) ↔ Admits (some l) hs)) :
    HostnameMatchFilter.filter domainPattern ⟨l.text, hs'.map text⟩ = true ↔ Admits (some l) hs := by
  rw [filter_perm_iff hdomain l hperm hne]
  rcases hcondition with hall | hcondition
  · obtain ⟨r, hr⟩ := List.exists_mem_of_ne_nil hs hne
    refine iff_of_true (.inl ?_) ((admits_some_iff l hne).2 ⟨r, hr, .inl (hall r hr)⟩)
    cases hs' with
    | nil => exact absurd hperm.nil_eq.symm hne
    | cons h rest => exact ⟨h, rfl, hall h (hperm.mem_iff.1 List.mem_cons_self)⟩
  · rw [hcondition]
    refine or_iff_right_of_imp ?_
    rintro ⟨h, hh, hany⟩
    exact (admits_some_iff l hne).2 ⟨h, hperm.mem_iff.1 (List.mem_of_mem_head? hh), .inl hany⟩

/-- **What the filter admits, in whatever order.** -/
theorem filter_admits_iff (l : Option Hostname) (hs : List Hostname) :
    ((HostnameMatchFilter.filter domainPattern ⟨textOf l, hs.map text⟩ = true ↔ Admits l hs) ∧
      ∀ hs' : List Hostname, hs'.Perm hs →
        HostnameMatchFilter.filter domainPattern ⟨textOf l, hs'.map text⟩ =
          HostnameMatchFilter.filter domainPattern ⟨textOf l, hs.map text⟩) ↔
      ∀ listener ∈ l, (∀ r ∈ hs, r.pattern = .any) ∨
        ((∃ r ∈ hs, MeetNarrowly listener.pattern r.pattern) ↔
          ∃ r ∈ hs, r.pattern = .any ∨ Intersect listener.pattern r.pattern) := by
  cases l with
  | none =>
    refine iff_of_true ⟨iff_of_true (filter_textOf_none _) (.inl rfl), fun hs' _ => ?_⟩ fun _ h => nomatch h
    rw [filter_textOf_none, filter_textOf_none]
  | some l =>
    by_cases hne : hs = []
    · subst hne
      refine iff_of_true ⟨iff_of_true rfl (.inr (.inl rfl)), fun hs' hperm => ?_⟩ fun _ _ => .inl fun _ h => nomatch h
      rw [hperm.eq_nil]
    simp only [Option.mem_some_iff, forall_eq', textOf, Option.elim_some, ← admits_some_iff l hne]
    constructor
    · rintro ⟨hfilter, hsame⟩
      refine or_iff_not_imp_left.2 fun hall => ?_
      push Not at hall
      obtain ⟨r, hr, hany⟩ := hall
      -- with a hostname other than `*` in front, only the pairs count
      obtain ⟨s, t, rfl⟩ := List.append_of_mem hr
      have hperm : (r :: (s ++ t)).Perm (s ++ r :: t) := List.perm_middle.symm
      have hfirst := filter_perm_iff hdomain l hperm hne
      rw [hsame _ hperm, hfilter] at hfirst
      rw [hfirst]
      simp [hany]
    · intro hcondition
      have hsame := filter_perm_admits_iff hdomain l (List.Perm.refl hs) hne hcondition
      refine ⟨hsame, fun hs' hperm => ?_⟩
      exact Bool.eq_iff_iff.2 ((filter_perm_admits_iff hdomain l hperm hne hcondition).trans hsame.symm)

end Library

open Hostname

/-- `pay.shop.com` -/
def payHostname : Hostname where
  pattern := .exact ["pay", "shop", "com"]
  dns := by decide
  named := .inr (by decide)

/-- `*.shop.com` -/
def shopWildcard : Hostname where
  pattern := .below ["shop", "com"]
  dns := by decide
  named := .inr (by decide)

/-- `*.com` -/
def comWildcard : Hostname where
  pattern := .below ["com"]
  dns := by decide
  named := .inr (by decide)

/-- A wildcard for one label is admitted as it should be. -/
theorem shopWildcard_admits : MatchesByLabel labelDomainPattern ∧
    (HostnameMatchFilter.filter labelDomainPattern ⟨textOf (some payHostname), [shopWildcard].map text⟩ = true ↔
      Admits (some payHostname) [shopWildcard]) ∧
    ∀ hs' : List Hostname, hs'.Perm [shopWildcard] →
      HostnameMatchFilter.filter labelDomainPattern ⟨textOf (some payHostname), hs'.map text⟩ =
        HostnameMatchFilter.filter labelDomainPattern ⟨textOf (some payHostname), [shopWildcard].map text⟩ := by
  refine ⟨labelDomainPattern_matchesByLabel,
    (filter_admits_iff labelDomainPattern_matchesByLabel (some payHostname) [shopWildcard]).2 ?_⟩
  rintro listener hlistener
  obtain rfl := Option.some.inj hlistener
  refine .inr (iff_of_true ⟨shopWildcard, List.mem_singleton.2 rfl, "pay", rfl⟩ ?_)
  exact ⟨shopWildcard, List.mem_singleton.2 rfl, .inr (by decide : _ <:+ _ ∧ _ ≠ _)⟩

/-- **A wildcard for two labels is not.** -/
theorem comWildcard_not_admits : MatchesByLabel labelDomainPattern ∧
    ¬ (HostnameMatchFilter.filter labelDomainPattern ⟨textOf (some payHostname), [comWildcard].map text⟩ = true ↔
      Admits (some payHostname) [comWildcard]) := by
  refine ⟨labelDomainPattern_matchesByLabel, fun h => ?_⟩
  have hadmits : Admits (some payHostname) [comWildcard] :=
    .inr (.inr ⟨comWildcard, List.mem_singleton.2 rfl, .inr ⟨payHostname, rfl, (by decide : _ <:+ _ ∧ _ ≠ _)⟩⟩)
  rcases (filter_iff labelDomainPattern_matchesByLabel payHostname comWildcard []).1 (h.2 hadmits) with
    hany | ⟨r, hr, hmeet⟩
  · exact nomatch hany
  · obtain rfl := List.mem_singleton.1 hr
    obtain ⟨label, hlabel⟩ := hmeet
    have htail := (List.cons.inj hlabel).2
    exact absurd htail (by decide)

end Kubvernor
