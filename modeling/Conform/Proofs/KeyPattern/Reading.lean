import Conform.Proofs.Specification.Declaration

namespace Conform

namespace KeyPattern

/-- A pattern that is what its text reads as. -/
def Parsed (p : KeyPattern) : Prop := parse p.text = .ok p

theorem Segment.text_of_parse {index : Nat} {text : String} {s : Segment}
    (h : parse index text = .ok s) : s.text = text := by
  rw [parse] at h
  split at h
  next => cases h
  next =>
    split at h
    next hany =>
      cases h
      exact hany.symm
    next =>
      split at h
      next hdeep =>
        cases h
        exact hdeep.symm
      next =>
        split at h
        next => cases h
        next =>
          cases h
          rfl

theorem Segment.parseAll_cons_eq_ok {index : Nat} {text : String} {rest : List String}
    {ss : List Segment} (h : parseAll index (text :: rest) = .ok ss) :
    ∃ first others, parse index text = .ok first ∧ parseAll (index + 1) rest = .ok others ∧
      ss = first :: others := by
  rw [parseAll] at h
  cases hfirst : parse index text with
  | error e =>
    rw [hfirst] at h
    cases h
  | ok first =>
    cases hrest : parseAll (index + 1) rest with
    | error e =>
      rw [hfirst, hrest] at h
      cases h
    | ok others =>
      rw [hfirst, hrest] at h
      cases h
      exact ⟨first, others, rfl, rfl, rfl⟩

theorem Segment.texts_of_parseAll {index : Nat} {texts : List String} {ss : List Segment}
    (h : parseAll index texts = .ok ss) : ss.map Segment.text = texts := by
  induction texts generalizing index ss with
  | nil =>
    cases h
    rfl
  | cons text rest ih =>
    obtain ⟨first, others, hfirst, hothers, rfl⟩ := parseAll_cons_eq_ok h
    rw [List.map_cons, text_of_parse hfirst, ih hothers]

variable {p : KeyPattern} {text : String}

theorem texts_of_parse (h : parse text = .ok p) :
    p.text = text ∧ p.segments.map Segment.text = Conform.segments text := by
  rw [parse] at h
  split at h
  next => cases h
  next =>
    cases hall : Segment.parseAll 0 (Conform.segments text) with
    | error e =>
      rw [hall] at h
      cases h
    | ok ss =>
      rw [hall] at h
      cases h
      exact ⟨rfl, Segment.texts_of_parseAll hall⟩

theorem parsed_of_parse (h : parse text = .ok p) : p.Parsed := by
  rw [Parsed, (texts_of_parse h).1, h]

theorem Segment.literal_of_isLiteral {s : Segment} (h : s.isLiteral = true) :
    s = .literal s.text := by
  cases s with
  | literal text => rfl
  | any => cases h
  | anyDeep => cases h

theorem matchSegments_literals {ss : List Segment} (h : ss.all Segment.isLiteral = true)
    (key : List String) : matchSegments ss key = true ↔ key = ss.map Segment.text := by
  induction ss generalizing key with
  | nil => simp [matchSegments]
  | cons s rest ih =>
    rw [List.all_cons, Bool.and_eq_true] at h
    rw [Segment.literal_of_isLiteral h.1]
    cases key with
    | nil => simp [matchSegments]
    | cons name key =>
      rw [matchSegments, Bool.and_eq_true, decide_eq_true_eq, ih h.2, List.map_cons, List.cons.injEq]
      rfl

theorem Parsed.matchesKey_iff (h : p.Parsed) (hl : p.isLiteral = true) (key : String) :
    p.matchesKey key = true ↔ key = p.text := by
  rw [matchesKey, matchSegments_literals hl, (texts_of_parse h).2]
  exact ⟨segments_injective, congrArg _⟩

/-- The keys of a configuration that a pattern is for are those that it matches. -/
theorem Parsed.mem_targets_iff (h : p.Parsed) {config : Config} {key : String}
    (hk : key ∈ config.keys) :
    key ∈ (p.targets config).map Prod.fst ↔ p.matchesKey key = true := by
  rw [targets]
  split
  next hl => rw [List.map_singleton, List.mem_singleton, h.matchesKey_iff hl]
  next =>
    rw [Store.keys, List.mem_map] at hk
    obtain ⟨entry, hentry, rfl⟩ := hk
    constructor
    · intro hm
      obtain ⟨found, hfound, hkey⟩ := List.mem_map.1 hm
      rw [← hkey]
      exact (List.mem_filter.1 hfound).2
    · intro hm
      exact List.mem_map.2 ⟨entry, List.mem_filter.2 ⟨hentry, hm⟩, rfl⟩

end KeyPattern

/-- All patterns of a specification are what their texts read as. -/
def Specification.Parsed (spec : Specification) : Prop := ∀ c ∈ spec.constraints, c.pattern.Parsed

theorem Declaration.ComesTo.parsed {d : Declaration} {c : Constraint} (h : d.ComesTo (.ok c)) :
    c.pattern.Parsed := by
  cases h with
  | constraint _ hkey => exact KeyPattern.parsed_of_parse hkey

theorem Specification.parsed_ofDeclarations (declarations : List Declaration) :
    (ofDeclarations declarations).Parsed := by
  intro c hc
  obtain ⟨d, -, hd⟩ := List.mem_filterMap.1 hc
  exact (Declaration.constraint?_eq_some_iff.1 hd).parsed

end Conform
