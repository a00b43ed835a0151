import Conform.Proofs.Regex.Spans
import Mathlib.Data.List.SplitBy

namespace Conform

namespace Unicode.Ranges

variable {r : Ranges} {sets : List Ranges} {n : Nat}

theorem has_iff : r.has n = true ↔ ∃ range ∈ r, range.1 ≤ n ∧ n ≤ range.2 := by
  simp [has]

theorem has_coalesce {current : Nat × Nat} (h : (current :: r).Pairwise fun a b => a.1 ≤ b.1) :
    (coalesce current r).has n = true ↔ Ranges.has (current :: r) n = true := by
  induction r generalizing current with
  | nil => rfl
  | cons next rest ih =>
    obtain ⟨lo, hi⟩ := current
    obtain ⟨l, h'⟩ := next
    rw [List.pairwise_cons, List.pairwise_cons] at h
    obtain ⟨hcurrent, hnext, hrest⟩ := h
    have hl : lo ≤ l := hcurrent _ List.mem_cons_self
    have hbehind : ∀ range ∈ rest, lo ≤ range.1 := fun range hr =>
      hcurrent range (List.mem_cons_of_mem _ hr)
    rw [coalesce]
    split
    · rw [ih (List.pairwise_cons.2 ⟨hbehind, hrest⟩)]
      simp only [has_iff, List.exists_mem_cons_iff]
      rw [← or_assoc]
      refine or_congr_left ?_
      omega
    · have hrun := ih (List.pairwise_cons.2 ⟨hnext, hrest⟩)
      simp only [has_iff, List.exists_mem_cons_iff] at hrun ⊢
      rw [hrun]

theorem has_normalize : (normalize r).has n = true ↔ r.has n = true := by
  rw [normalize]
  generalize hkept : r.filter _ = kept
  have hsame : Ranges.has kept n = true ↔ r.has n = true := by
    simp only [← hkept, has_iff, List.mem_filter, decide_eq_true_iff]
    refine exists_congr fun range => ?_
    constructor
    · rintro ⟨⟨hrange, -⟩, hn⟩
      exact ⟨hrange, hn⟩
    · rintro ⟨hrange, hn⟩
      exact ⟨⟨hrange, Nat.le_trans hn.1 hn.2⟩, hn⟩
  have hmem : Ranges.has (kept.mergeSort fun a b => a.1 ≤ b.1) n = true ↔ r.has n = true := by
    rw [← hsame]
    simp only [has_iff, List.mem_mergeSort]
  have hsorted : (kept.mergeSort fun a b => a.1 ≤ b.1).Pairwise
      fun a b => decide (a.1 ≤ b.1) = true :=
    List.pairwise_mergeSort (by simpa using fun a b c => Nat.le_trans)
      (by simpa using fun a b => Nat.le_total a b) kept
  rw [← hmem]
  split
  next hnil => rw [hnil]
  next first rest hcons =>
    rw [hcons] at hsorted ⊢
    exact has_coalesce (by simpa using hsorted)

theorem has_unions : (unions sets).has n = true ↔ ∃ set ∈ sets, Ranges.has set n = true := by
  rw [unions, has_normalize]
  simp only [has_iff, List.mem_flatten]
  constructor
  · rintro ⟨range, ⟨set, hset, hrange⟩, hn⟩
    exact ⟨set, hset, range, hrange, hn⟩
  · rintro ⟨set, hset, range, hrange, hn⟩
    exact ⟨range, ⟨set, hset, hrange⟩, hn⟩

end Unicode.Ranges

namespace Regex

theorem Steps.iff_of_eq {R : Nat → Nat → Prop} (hR : ∀ i j, R i j → i = j) {count i j : Nat} :
    Steps R count i j ↔ i = j ∧ (count = 0 ∨ R i i) := by
  induction count generalizing i with
  | zero => simp [Steps]
  | succ count ih =>
    simp only [Steps, ih]
    constructor
    · rintro ⟨k, hik, rfl, -⟩
      obtain rfl := hR i k hik
      exact ⟨rfl, .inr hik⟩
    · rintro ⟨rfl, h⟩
      have hii := h.resolve_left (Nat.succ_ne_zero count)
      exact ⟨i, hii, rfl, .inr hii⟩

namespace Pattern

open Unicode (Ranges)

variable {text : Array Char} {i j : Nat} {p q : Pattern} {ps qs : List Pattern}

mutual

theorem eq_of_isEmptyOnly : ∀ {p : Pattern}, p.isEmptyOnly = true → ∀ {i j},
    p.Spans text i j → i = j
  | .empty, _, _, _, h => h
  | .look _, _, _, _, h => h.2
  | .capture sub, hp, _, _, h => eq_of_isEmptyOnly (p := sub) hp h
  | .repetition _ _ _ sub, hp, _, _, ⟨_, _, _, h⟩ =>
    ((Steps.iff_of_eq fun _ _ => eq_of_isEmptyOnly (p := sub) hp).1 h).1
  | .concat _, hp, _, _, h => eq_of_areEmptyOnly hp h
  | .alternation _, hp, _, _, h => eq_of_areEmptyOnly_any hp h

theorem eq_of_areEmptyOnly : ∀ {ps : List Pattern}, areEmptyOnly ps = true → ∀ {i j},
    SpansAll text ps i j → i = j
  | [], _, _, _, h => h
  | p :: rest, hp, _, _, ⟨_, hfirst, hrest⟩ => by
    obtain ⟨hp, hps⟩ := Bool.and_eq_true_iff.1 hp
    exact (eq_of_isEmptyOnly hp hfirst).trans (eq_of_areEmptyOnly hps hrest)

theorem eq_of_areEmptyOnly_any : ∀ {ps : List Pattern}, areEmptyOnly ps = true → ∀ {i j},
    SpansAny text ps i j → i = j
  | p :: rest, hp, _, _, h => by
    obtain ⟨hp, hps⟩ := Bool.and_eq_true_iff.1 hp
    rcases h with h | h
    · exact eq_of_isEmptyOnly hp h
    · exact eq_of_areEmptyOnly_any hps h

end

/-- Of what matches nothing but the empty text, once is as good as any number of times. -/
theorem spans_repetition_of_isEmptyOnly {min : Nat} {max : Option Nat} {greedy : Bool}
    (hp : p.isEmptyOnly = true) :
    (repetition min max greedy p).Spans text i j ↔ i = j ∧ (min = 0 ∨ p.Spans text i i) := by
  simp only [Spans, Steps.iff_of_eq fun _ _ => eq_of_isEmptyOnly hp]
  constructor
  · rintro ⟨count, hmin, -, rfl, h⟩
    refine ⟨rfl, h.imp_left ?_⟩
    rintro rfl
    exact Nat.le_zero.1 hmin
  · rintro ⟨rfl, h⟩
    exact ⟨min, Nat.le_refl min, fun most _ => Nat.le_max_left min most, rfl, h⟩

theorem spans_repeated {min : Nat} {max : Option Nat} {greedy : Bool} :
    (repeated min max greedy p).Spans text i j ↔
      (repetition min max greedy p).Spans text i j := by
  have hsimple : ∀ min max, (if min = 0 ∧ max = some 0 then empty
      else if min = 1 ∧ max = some 1 then p else repetition min max greedy p).Spans text i j ↔
        (repetition min max greedy p).Spans text i j := by
    intro min max
    split
    next h =>
      obtain ⟨rfl, rfl⟩ := h
      simp [Spans, Steps]
    next =>
      split
      next h =>
        obtain ⟨rfl, rfl⟩ := h
        constructor
        · exact fun h => ⟨1, Nat.le_refl 1, by simp, Steps.one.2 h⟩
        · rintro ⟨count, hmin, hmax, h⟩
          obtain rfl := Nat.le_antisymm (hmax 1 rfl) hmin
          exact Steps.one.1 h
      next => rfl
  rw [repeated]
  by_cases hp : p.isEmptyOnly = true
  · simp only [hp, if_true]
    rw [hsimple, spans_repetition_of_isEmptyOnly hp, spans_repetition_of_isEmptyOnly hp]
    have hmin : Nat.min min 1 = 0 ↔ min = 0 := by cases min <;> simp
    rw [hmin]
  · simp only [hp]
    exact hsimple min max

theorem spansAny_iff : SpansAny text ps i j ↔ ∃ p ∈ ps, p.Spans text i j := by
  induction ps with
  | nil => simp [SpansAny]
  | cons p rest ih => simp [SpansAny, ih]

theorem spansAny_append :
    SpansAny text (ps ++ qs) i j ↔ SpansAny text ps i j ∨ SpansAny text qs i j := by
  simp only [spansAny_iff, List.mem_append, or_and_right, exists_or]

theorem eq_map_chars {sets : List Ranges} (h : ps.mapM set? = some sets) :
    ps = sets.map chars := by
  induction ps generalizing sets with
  | nil =>
    cases h
    rfl
  | cons p rest ih =>
    rw [List.mapM_cons] at h
    obtain ⟨set, hset, hrest⟩ := Option.bind_eq_some_iff.1 h
    obtain ⟨more, hmore, heq⟩ := Option.bind_eq_some_iff.1 hrest
    cases heq
    cases p with
    | chars own => rw [ih hmore, Option.some.inj hset, List.map_cons]
    | _ => cases hset

theorem spans_chars_unions {sets : List Ranges} :
    (chars (Ranges.unions sets)).Spans text i j ↔ SpansAny text (sets.map chars) i j := by
  simp only [spansAny_iff, List.mem_map, exists_exists_and_eq_and, Spans]
  cases text[i]? with
  | none => simp
  | some c => simp [Ranges.hasChar, Ranges.has_unions, ← exists_and_right, and_assoc]

theorem spans_choiceSet? {set : Ranges} (h : choiceSet? ps = some set) :
    (chars set).Spans text i j ↔ SpansAny text ps i j := by
  rw [choiceSet?] at h
  split at h
  · obtain ⟨sets, hsets, rfl⟩ := Option.map_eq_some_iff.1 h
    rw [eq_map_chars hsets, spans_chars_unions]
  · cases h

theorem spans_flatChoice : (flatChoice ps).Spans text i j ↔ SpansAny text ps i j := by
  rw [flatChoice]
  generalize hflat : ps.flatMap _ = flat
  have hbranches : SpansAny text flat i j ↔ SpansAny text ps i j := by
    subst hflat
    induction ps with
    | nil => rfl
    | cons p rest ih =>
      rw [List.flatMap_cons, spansAny_append]
      simp only [SpansAny, ih]
      cases p <;> simp [SpansAny, Spans]
  rw [← hbranches]
  split
  · simp [SpansAny]
  · split
    next hset => exact spans_choiceSet? hset
    next => rfl

mutual

theorem eq_of_same : ∀ {p q : Pattern}, p.same q = true → p = q
  | .empty, .empty, _ => rfl
  | .chars _, .chars _, h => congrArg chars (of_decide_eq_true h)
  | .look _, .look _, h => congrArg look (of_decide_eq_true h)
  | .repetition .., .repetition .., h => by
    obtain ⟨hcounts, hsub⟩ := Bool.and_eq_true_iff.1 h
    cases of_decide_eq_true hcounts
    rw [eq_of_same hsub]
  | .concat _, .concat _, h => congrArg concat (eq_of_areSame h)
  | .alternation _, .alternation _, h => congrArg alternation (eq_of_areSame h)

theorem eq_of_areSame : ∀ {ps qs : List Pattern}, areSame ps qs = true → ps = qs
  | [], [], _ => rfl
  | _ :: _, _ :: _, h => by
    obtain ⟨hp, hps⟩ := Bool.and_eq_true_iff.1 h
    rw [eq_of_same hp, eq_of_areSame hps]

end

theorem commonStart_starts (a b : List (List Pattern)) :
    commonStart a b <+: a ∧ commonStart a b <+: b := by
  fun_induction commonStart a b with
  | case1 p rest q rest' h ih =>
    obtain rfl := eq_of_areSame h
    exact ⟨List.cons_prefix_cons.2 ⟨rfl, ih.1⟩, List.cons_prefix_cons.2 ⟨rfl, ih.2⟩⟩
  | case2 => exact ⟨List.nil_prefix, List.nil_prefix⟩
  | case3 => exact ⟨List.nil_prefix, List.nil_prefix⟩

theorem foldl_commonStart_starts {first : List (List Pattern)}
    {rest : List (List (List Pattern))} : rest.foldl commonStart first <+: first ∧
      ∀ parts ∈ rest, rest.foldl commonStart first <+: parts := by
  induction rest generalizing first with
  | nil => exact ⟨List.prefix_refl first, by simp⟩
  | cons next rest ih =>
    obtain ⟨hboth, hrest⟩ := @ih (commonStart first next)
    obtain ⟨hfirst, hnext⟩ := commonStart_starts first next
    exact ⟨hboth.trans hfirst, List.forall_mem_cons.2 ⟨hboth.trans hnext, hrest⟩⟩

theorem beginning_starts (hp : p ∈ ps) : beginning ps <+: p.atoms := by
  have hmem : p.atoms ∈ ps.map atoms := List.mem_map_of_mem hp
  rw [beginning]
  split
  next hnil => exact absurd (hnil ▸ hmem) List.not_mem_nil
  next first rest hcons =>
    rw [hcons] at hmem
    rcases List.mem_cons.1 hmem with h | h
    · exact h ▸ foldl_commonStart_starts.1
    · exact foldl_commonStart_starts.2 _ h

theorem spans_atoms (h : p.atoms ≠ []) :
    p.Spans text i j ↔ SpansAll text p.atoms.flatten i j := by
  cases p with
  | concat parts =>
    have hflat := List.flatten_splitBy (fun p q : Pattern => p.isLiteral && q.isLiteral) parts
    rw [atoms] at h ⊢
    split at h
    · exact absurd rfl h
    · rw [hflat]
      rfl
  | _ => exact absurd rfl h

/-- A branch is what it begins with, and what is left of it behind that. -/
theorem spans_behind {parts : List (List Pattern)} (hne : parts ≠ []) (h : parts <+: p.atoms) :
    p.Spans text i j ↔ ∃ k, SpansAll text parts.flatten i k ∧
      (behind parts.length p).Spans text k j := by
  obtain ⟨rest, hrest⟩ := h
  rw [spans_atoms (by rw [← hrest]; simp [hne]), behind, ← hrest]
  simp only [spans_sequence, List.drop_left, List.flatten_append, spansAll_append]

theorem spans_choice : (choice ps).Spans text i j ↔ SpansAny text ps i j := by
  rw [← spans_flatChoice, choice]
  split
  next flat hflat =>
    rw [hflat]
    split
    next => rfl
    next parts hne =>
      have hbranch : ∀ p ∈ flat, (p.Spans text i j ↔
          ∃ k, SpansAll text (beginning flat).flatten i k ∧
            (behind (beginning flat).length p).Spans text k j) := fun p hp =>
        spans_behind hne (beginning_starts hp)
      simp only [spans_sequence, spansAll_append, SpansAll, exists_eq_right, spans_flatChoice,
        Spans, spansAny_iff, List.mem_map, exists_exists_and_eq_and]
      constructor
      · rintro ⟨k, hparts, p, hp, hrest⟩
        exact ⟨p, hp, (hbranch p hp).2 ⟨k, hparts, hrest⟩⟩
      · rintro ⟨p, hp, h⟩
        obtain ⟨k, hparts, hrest⟩ := (hbranch p hp).1 h
        exact ⟨k, hparts, p, hp, hrest⟩
  next p hp => rfl

example : choice [concat [chars [(97, 98)], look .end],
      concat [chars [(97, 98)], chars [(120, 121)]]] =
    concat [chars [(97, 98)], alternation [look .end, chars [(120, 121)]]] := rfl

end Pattern

end Regex

end Conform
