import Conform.Proofs.Rule.Bounds
import Conform.Proofs.Validation.Judgement

namespace Conform

namespace Bounds

variable {expectation lo hi : Value} {least most : Nat}

theorem range?_eq_some_iff :
    range? expectation = some (lo, hi) ↔
      expectation = .list [lo, hi] ∧ isBound lo = true ∧ isBound hi = true ∧
        sameFamily lo hi = true ∧ lo.atMost hi = true := by
  constructor
  · intro h
    rw [range?.eq_def] at h
    split at h
    next =>
      split at h
      next hbounds =>
        cases h
        simp only [Bool.and_eq_true, and_assoc] at hbounds
        exact ⟨rfl, hbounds⟩
      next => cases h
    next => cases h
  · rintro ⟨rfl, hlo, hhi, hfamily, horder⟩
    rw [range?, hlo, hhi, hfamily, horder]
    rfl

theorem sizes?_eq_some_iff :
    sizes? expectation = some (least, most) ↔
      ∃ lo hi, expectation = .list [lo, hi] ∧ size? lo = some least ∧ size? hi = some most ∧
        least ≤ most := by
  constructor
  · intro h
    rw [sizes?.eq_def] at h
    split at h
    next lo hi =>
      split at h
      next hleast hmost =>
        split at h
        next horder =>
          cases h
          exact ⟨lo, hi, rfl, hleast, hmost, horder⟩
        next => cases h
      next => cases h
    next => cases h
  · rintro ⟨lo, hi, rfl, hleast, hmost, horder⟩
    simp only [sizes?, hleast, hmost, if_pos horder]

end Bounds

theorem Value.atMost_self {a b : Value} (h : a.atMost b = true) :
    a.atMost a = true ∧ b.atMost b = true := by
  rcases atMost_iff.1 h with ⟨s, t, rfl, rfl, -⟩ | ⟨x, y, hx, hy, -⟩
  · exact ⟨atMost_iff.2 (.inl ⟨s, s, rfl, rfl, le_rfl⟩), atMost_iff.2 (.inl ⟨t, t, rfl, rfl, le_rfl⟩)⟩
  · exact ⟨atMost_iff.2 (.inr ⟨x, x, hx, hx, le_rfl⟩), atMost_iff.2 (.inr ⟨y, y, hy, hy, le_rfl⟩)⟩

namespace Rule

variable {expectation lo hi : Value}

theorem accepts_range (h : Bounds.range? expectation = some (lo, hi)) :
    range.accepts expectation = true := by
  rw [accepts, h]
  rfl

theorem supports_range (h : Bounds.range? expectation = some (lo, hi)) (value : Value) :
    range.supports expectation value = min.supports lo value := by
  simp only [supports, h, Option.any_some]

theorem check_range (h : Bounds.range? expectation = some (lo, hi)) (subject : Subject) :
    range.check expectation subject = (min.check lo subject && max.check hi subject) := by
  simp only [check, h, Option.any_some]

theorem check_size {least most : Nat} (h : Bounds.sizes? expectation = some (least, most))
    (hlo : Bounds.size? lo = some least) (hhi : Bounds.size? hi = some most) (subject : Subject) :
    size.check expectation subject = (minSize.check lo subject && maxSize.check hi subject) := by
  simp only [check, h, hlo, hhi]
  cases subject.value.size? <;> rfl

end Rule

namespace Constraint

/-- The keys whose values violate a constraint. -/
def violatedKeys (c : Constraint) (config : Config) : List String :=
  (c.evaluate config).filterMap Finding.key?

/-- A constraint that is violated exactly where one of two others is: by a value on its own, and at
a key of a configuration. -/
structure IsBoth (c low high : Constraint) : Prop where
  violates_iff : ∀ config key value, (c.checkValue config key value).isSome = true ↔
    (low.checkValue config key value).isSome = true ∨
      (high.checkValue config key value).isSome = true
  mem_violatedKeys_iff : ∀ config key, key ∈ c.violatedKeys config ↔
    key ∈ low.violatedKeys config ∨ key ∈ high.violatedKeys config

variable {c low high : Constraint}

theorem violatedKeys_eq (h : c.rule.accepts c.expectation = true) (config : Config) :
    c.violatedKeys config = (c.targetKeys config).filter (c.fails config) := by
  have hkey : Finding.key? ∘ c.violation config = some := rfl
  rw [violatedKeys, (judged_evaluate config c).eq_of_accepts h, List.filterMap_map, hkey,
    List.filterMap_some]

theorem isSome_checkValue_iff {config : Config} {key : String} {value : Value} :
    (c.checkValue config key value).isSome = true ↔
      c.skips value = false ∧ c.rule.check c.expectation ⟨config, key, value⟩ = false := by
  rw [Option.isSome_iff_ne_none, ne_eq, checkValue_eq_none_iff, not_or, Bool.not_eq_true,
    Bool.not_eq_true]

/-- A constraint for the same keys that passes over the same values as two others and lets pass what
both of them do. -/
theorem isBoth_of_check (hlow : low.pattern = c.pattern) (hhigh : high.pattern = c.pattern)
    (haccepts : c.rule.accepts c.expectation = true)
    (hlowAccepts : low.rule.accepts low.expectation = true)
    (hhighAccepts : high.rule.accepts high.expectation = true)
    (hskips : ∀ value, low.skips value = c.skips value ∧ high.skips value = c.skips value)
    (hcheck : ∀ subject, c.rule.check c.expectation subject =
      (low.rule.check low.expectation subject && high.rule.check high.expectation subject)) :
    IsBoth c low high := by
  have hviolates : ∀ config key value, (c.checkValue config key value).isSome = true ↔
      (low.checkValue config key value).isSome = true ∨
        (high.checkValue config key value).isSome = true := by
    intro config key value
    rw [isSome_checkValue_iff, isSome_checkValue_iff, isSome_checkValue_iff, (hskips value).1,
      (hskips value).2, hcheck, Bool.and_eq_false_iff, and_or_left]
  refine ⟨hviolates, fun config key => ?_⟩
  have hlowKeys : low.targetKeys config = c.targetKeys config := by
    rw [targetKeys, targetKeys, hlow]
  have hhighKeys : high.targetKeys config = c.targetKeys config := by
    rw [targetKeys, targetKeys, hhigh]
  rw [violatedKeys_eq haccepts, violatedKeys_eq hlowAccepts, violatedKeys_eq hhighAccepts, hlowKeys,
    hhighKeys, List.mem_filter, List.mem_filter, List.mem_filter, fails_eq_isSome, fails_eq_isSome,
    fails_eq_isSome, hviolates, and_or_left]

variable {pattern : KeyPattern} {source lowSource highSource : SourceLine} {lo hi : Value}

theorem isBoth_range (h : Bounds.range? (.list [lo, hi]) = some (lo, hi)) :
    IsBoth ⟨pattern, .range, .list [lo, hi], source⟩ ⟨pattern, .min, lo, lowSource⟩
      ⟨pattern, .max, hi, highSource⟩ := by
  obtain ⟨-, hlo, hhi, -, horder⟩ := Bounds.range?_eq_some_iff.1 h
  refine isBoth_of_check rfl rfl (Rule.accepts_range h) hlo hhi ?_ (Rule.check_range h)
  intro value
  have hmax : Rule.max.supports hi value = Rule.min.supports lo value :=
    (Bounds.sameFamily_of_atMost horder value).symm
  constructor
  · simp only [skips, Rule.supports_range h]
    rfl
  · simp only [skips, Rule.supports_range h, hmax]
    rfl

theorem isBoth_size {least most : Nat} (hlo : Bounds.size? lo = some least)
    (hhi : Bounds.size? hi = some most) (horder : least ≤ most) :
    IsBoth ⟨pattern, .size, .list [lo, hi], source⟩ ⟨pattern, .minSize, lo, lowSource⟩
      ⟨pattern, .maxSize, hi, highSource⟩ := by
  have h : Bounds.sizes? (.list [lo, hi]) = some (least, most) :=
    Bounds.sizes?_eq_some_iff.2 ⟨lo, hi, rfl, hlo, hhi, horder⟩
  exact isBoth_of_check rfl rfl (congrArg Option.isSome h) (congrArg Option.isSome hlo)
    (congrArg Option.isSome hhi) (fun _ => ⟨rfl, rfl⟩) (Rule.check_size h hlo hhi)

/-- A range that is accepted has two bounds that are accepted on their own, and is violated exactly
where one of them is; neither bound violates it. A range of sizes is violated exactly where one of
its bounds on sizes is. -/
theorem range_isBoth_bounds (pattern : KeyPattern) (source lowSource highSource : SourceLine)
    (expectation : Value) :
    (Rule.range.accepts expectation = true → ∃ lo hi, expectation = .list [lo, hi] ∧
      Rule.min.accepts lo = true ∧ Rule.max.accepts hi = true ∧
      IsBoth ⟨pattern, .range, expectation, source⟩ ⟨pattern, .min, lo, lowSource⟩
        ⟨pattern, .max, hi, highSource⟩ ∧
      ∀ bound ∈ [lo, hi], ∀ config key,
        checkValue ⟨pattern, .range, expectation, source⟩ config key bound = none) ∧
    (Rule.size.accepts expectation = true → ∃ lo hi, expectation = .list [lo, hi] ∧
      Rule.minSize.accepts lo = true ∧ Rule.maxSize.accepts hi = true ∧
      IsBoth ⟨pattern, .size, expectation, source⟩ ⟨pattern, .minSize, lo, lowSource⟩
        ⟨pattern, .maxSize, hi, highSource⟩) := by
  constructor
  · intro haccepts
    obtain ⟨⟨lo, hi⟩, hrange⟩ := Option.isSome_iff_exists.1 haccepts
    obtain ⟨rfl, hlo, hhi, -, horder⟩ := Bounds.range?_eq_some_iff.1 hrange
    obtain ⟨hself, hself'⟩ := Value.atMost_self horder
    refine ⟨lo, hi, rfl, hlo, hhi, isBoth_range hrange, fun bound hbound config key => ?_⟩
    rw [checkValue_eq_none_iff]
    refine .inr ((Rule.check_range hrange _).trans (Bool.and_eq_true_iff.2 ?_))
    change bound.atLeast lo = true ∧ bound.atMost hi = true
    rw [Value.atLeast_eq_atMost]
    rcases List.mem_pair.1 hbound with rfl | rfl
    · exact ⟨hself, horder⟩
    · exact ⟨horder, hself'⟩
  · intro haccepts
    obtain ⟨⟨least, most⟩, hsizes⟩ := Option.isSome_iff_exists.1 haccepts
    obtain ⟨lo, hi, rfl, hlo, hhi, horder⟩ := Bounds.sizes?_eq_some_iff.1 hsizes
    exact ⟨lo, hi, rfl, congrArg Option.isSome hlo, congrArg Option.isSome hhi,
      isBoth_size hlo hhi horder⟩

def percents : Value := .list [.integer 1, .decimal ⟨1000, 2⟩]

def lengths : Value := .list [.integer 1, .integer 3]

def rates : Config where
  entries := [("high", .double (.infinite false)), ("low", .decimal ⟨99, 2⟩), ("none", .double .nan),
    ("most", .integer 10), ("blank", .text " "), ("null", .null), ("unit", .text "percent")]
  distinct := by decide

def rated (rule : Rule) (expectation : Value) : Constraint :=
  ⟨⟨"*", [.any]⟩, rule, expectation, ⟨"rates", 1, Nat.one_pos⟩⟩

theorem range_isBoth_bounds_rates :
    Rule.range.accepts percents = true ∧ Rule.size.accepts lengths = true ∧
      (rated .range percents).violatedKeys rates = ["high", "low", "none"] ∧
      (∀ key ∈ ["high", "low", "none"], key ∈ (rated .min (.integer 1)).violatedKeys rates ∨
        key ∈ (rated .max (.decimal ⟨1000, 2⟩)).violatedKeys rates) ∧
      "unit" ∈ (rated .size lengths).violatedKeys rates := by
  have hkeys : (rated .range percents).violatedKeys rates = ["high", "low", "none"] := rfl
  obtain ⟨hrange, -⟩ := range_isBoth_bounds _ (rated .range percents).source
    (rated .min (.integer 1)).source (rated .max (.decimal ⟨1000, 2⟩)).source percents
  obtain ⟨-, hsize⟩ := range_isBoth_bounds _ (rated .size lengths).source
    (rated .minSize (.integer 1)).source (rated .maxSize (.integer 3)).source lengths
  obtain ⟨lo, hi, hbounds, -, -, hboth, -⟩ := hrange rfl
  obtain ⟨least, most, hsizes, -, -, hboth'⟩ := hsize rfl
  cases hbounds
  cases hsizes
  refine ⟨rfl, rfl, hkeys, fun key hkey => ?_, ?_⟩
  · exact (hboth.mem_violatedKeys_iff rates key).1 (hkeys ▸ hkey)
  · exact (hboth'.mem_violatedKeys_iff rates "unit").2 (.inr (by decide))

end Constraint

end Conform
