import Conform.Proofs.Regex.Places

namespace Conform.Regex

open Places

namespace Pattern

variable {text : Array Char} {i j : Nat}

mutual

/-- A match of the pattern in the text goes from place `i` to place `j`. -/
def Spans (text : Array Char) : Pattern → (i j : Nat) → Prop
  | empty, i, j => i = j
  | chars set, i, j => text[i]?.any set.hasChar = true ∧ j = i + 1
  | look l, i, j => l.holds (charBefore? text i) text[i]? = true ∧ i = j
  | capture sub, i, j => sub.Spans text i j
  | repetition min max _ sub, i, j =>
    -- A larger count below the smaller one, which is never read, would change nothing.
    ∃ count, min ≤ count ∧ (∀ most ∈ max, count ≤ Nat.max min most) ∧
      Steps (sub.Spans text) count i j
  | concat parts, i, j => SpansAll text parts i j
  | alternation branches, i, j => SpansAny text branches i j

def SpansAll (text : Array Char) : List Pattern → (i j : Nat) → Prop
  | [], i, j => i = j
  | p :: rest, i, j => ∃ k, p.Spans text i k ∧ SpansAll text rest k j

def SpansAny (text : Array Char) : List Pattern → (i j : Nat) → Prop
  | [], _, _ => False
  | p :: rest, i, j => p.Spans text i j ∨ SpansAny text rest i j

end

end Pattern

namespace Places.MovesAlong

variable {last : Nat} {f g : Places → Places} {R S : Nat → Nat → Prop}

theorem stay (p : Nat → Bool) :
    MovesAlong last (·.intersection (upTo last p)) fun i j => p i = true ∧ i = j where
  has_iff := by
    intro m j hm
    simp only [has_intersection, has_upTo]
    constructor
    · rintro ⟨hj, -, hp⟩
      exact ⟨j, hj, hp, rfl⟩
    · rintro ⟨i, hi, hp, rfl⟩
      exact ⟨hi, hm i hi, hp⟩
  le_of := by
    rintro i j hi ⟨-, rfl⟩
    exact hi

theorem step (p : Nat → Bool) (hp : ∀ i, p i = true → i < last) :
    MovesAlong last (fun m => (m.intersection (upTo last p)).onward)
      fun i j => p i = true ∧ j = i + 1 where
  has_iff := by
    intro m j hm
    simp only [has_onward, has_intersection, has_upTo]
    constructor
    · rintro ⟨i, ⟨hi, -, hpi⟩, hj⟩
      exact ⟨i, hi, hpi, hj⟩
    · rintro ⟨i, hi, hpi, hj⟩
      exact ⟨i, ⟨hi, hm i hi, hpi⟩, hj⟩
  le_of := by
    rintro i j - ⟨hpi, rfl⟩
    exact hp i hpi

theorem comp (hf : MovesAlong last f R) (hg : MovesAlong last g S) :
    MovesAlong last (fun m => g (f m)) fun i j => ∃ k, R i k ∧ S k j where
  has_iff := by
    intro m j hm
    rw [hg.has_iff (hf.within hm)]
    simp only [hf.has_iff hm]
    constructor
    · rintro ⟨k, ⟨i, hi, hik⟩, hkj⟩
      exact ⟨i, hi, k, hik, hkj⟩
    · rintro ⟨i, hi, k, hik, hkj⟩
      exact ⟨k, ⟨i, hi, hik⟩, hkj⟩
  le_of := by
    rintro i j hi ⟨k, hik, hkj⟩
    exact hg.le_of k j (hf.le_of i k hi hik) hkj

theorem union (hf : MovesAlong last f R) (hg : MovesAlong last g S) :
    MovesAlong last (fun m => (f m).union (g m)) fun i j => R i j ∨ S i j where
  has_iff := by
    intro m j hm
    simp only [has_union, hf.has_iff hm, hg.has_iff hm, and_or_left, exists_or]
  le_of := by
    rintro i j hi (h | h)
    · exact hf.le_of i j hi h
    · exact hg.le_of i j hi h

theorem iterate (hf : MovesAlong last f R) (min : Nat) (max : Option Nat) :
    MovesAlong last (Route.iterate (last + 1) min max f) fun i j =>
      ∃ count, min ≤ count ∧ (∀ most ∈ max, count ≤ Nat.max min most) ∧ Steps R count i j where
  has_iff := fun hm => Route.has_iterate hf hm min max
  le_of := by
    rintro i j hi ⟨count, -, -, hsteps⟩
    exact hsteps.le_of_le hf.le_of hi

end Places.MovesAlong

namespace Pattern

variable {text : Array Char} {i j : Nat}

mutual

theorem movesAlong_spans (text : Array Char) : ∀ p : Pattern,
    MovesAlong text.size ((p.laidOver text).ends (text.size + 1)) (p.Spans text)
  | .empty => by simpa [laidOver, Route.ends, Spans] using MovesAlong.stay fun _ => true
  | .chars set =>
    MovesAlong.step (fun i => text[i]?.any set.hasChar) fun i hi => by
      by_contra hle
      simp [Array.getElem?_eq_none (Nat.le_of_not_lt hle)] at hi
  | .look l => MovesAlong.stay fun i => l.holds (charBefore? text i) text[i]?
  | .capture sub => movesAlong_spans text sub
  | .repetition min max _ sub => (movesAlong_spans text sub).iterate min max
  | .concat parts => movesAlong_spansAll text parts
  | .alternation branches => movesAlong_spansAny text branches

theorem movesAlong_spansAll (text : Array Char) : ∀ parts : List Pattern,
    MovesAlong text.size (Route.endsAll (text.size + 1) (allLaidOver text parts))
      (SpansAll text parts)
  | [] => by
    refine ⟨fun _ => ?_, fun i j hi h => ?_⟩
    · simp [allLaidOver, Route.endsAll, SpansAll]
    · exact (show i = j from h) ▸ hi
  | p :: rest => (movesAlong_spans text p).comp (movesAlong_spansAll text rest)

theorem movesAlong_spansAny (text : Array Char) : ∀ branches : List Pattern,
    MovesAlong text.size (Route.endsAny (text.size + 1) (allLaidOver text branches))
      (SpansAny text branches)
  | [] => by
    refine ⟨fun _ => ?_, fun i j _ h => h.elim⟩
    simp [allLaidOver, Route.endsAny, SpansAny, Has]
  | p :: rest => (movesAlong_spans text p).union (movesAlong_spansAny text rest)

end

theorem isMatch_iff {p : Pattern} {text : List Char} :
    p.isMatch text = true ↔ ∃ i j, i ≤ text.length ∧ p.Spans text.toArray i j := by
  have hall : Within (upTo text.toArray.size fun _ => true) text.toArray.size := fun i hi =>
    (has_upTo.1 hi).1
  simp only [isMatch, bne_iff_ne, ne_eq, eq_zero_iff, not_forall, not_not,
    (movesAlong_spans text.toArray p).has_iff hall]
  rw [exists_comm]
  simp only [has_upTo, and_true, List.size_toArray, exists_and_left]

theorem spansAll_append {parts rest : List Pattern} :
    SpansAll text (parts ++ rest) i j ↔ ∃ k, SpansAll text parts i k ∧ SpansAll text rest k j := by
  induction parts generalizing i with
  | nil => simp [SpansAll]
  | cons p parts ih =>
    simp only [List.cons_append, SpansAll, ih]
    constructor
    · rintro ⟨k, hp, l, hparts, hrest⟩
      exact ⟨l, ⟨k, hp, hparts⟩, hrest⟩
    · rintro ⟨l, ⟨k, hp, hparts⟩, hrest⟩
      exact ⟨k, hp, l, hparts, hrest⟩

/-- A sequence in simple form spans what its parts do one after the other. -/
theorem spans_sequence {parts : List Pattern} :
    (sequence parts).Spans text i j ↔ SpansAll text parts i j := by
  rw [sequence]
  generalize hflat : parts.flatMap _ = flat
  have hparts : SpansAll text flat i j ↔ SpansAll text parts i j := by
    subst hflat
    induction parts generalizing i with
    | nil => rfl
    | cons p parts ih =>
      rw [List.flatMap_cons, spansAll_append]
      simp only [SpansAll, ih]
      cases p <;> simp [SpansAll, Spans]
  rw [← hparts]
  split
  · rfl
  · simp [SpansAll]
  · rfl

theorem holds_start_iff (hi : i ≤ text.size) {after : Option Char} :
    Look.start.holds (charBefore? text i) after = true ↔ i = 0 := by
  cases i with
  | zero => simp [Look.holds, charBefore?]
  | succ i => simp [Look.holds, charBefore?, Nat.lt_of_succ_le hi]

theorem holds_end_iff (hj : j ≤ text.size) {before : Option Char} :
    Look.end.holds before text[j]? = true ↔ j = text.size := by
  rw [Look.holds, Option.isNone_iff_eq_none, Array.getElem?_eq_none_iff]
  exact ⟨Nat.le_antisymm hj, Nat.le_of_eq ∘ Eq.symm⟩

/-- A pattern between the conditions for the start and the end of the text. -/
def whole (p : Pattern) : Pattern := sequence [look .start, p, look .end]

theorem isMatch_whole {p : Pattern} {text : List Char} :
    p.whole.isMatch text = true ↔ p.Spans text.toArray 0 text.length := by
  have hle := (movesAlong_spans text.toArray p).le_of
  rw [isMatch_iff]
  simp only [whole, spans_sequence, SpansAll, Spans]
  constructor
  · rintro ⟨i, j, hi, k, ⟨hstart, rfl⟩, l, hspans, _, ⟨hend, rfl⟩, rfl⟩
    rw [holds_start_iff (by simpa using hi)] at hstart
    subst hstart
    rw [holds_end_iff (hle 0 l (Nat.zero_le _) hspans), List.size_toArray] at hend
    exact hend ▸ hspans
  · intro h
    refine ⟨0, text.length, Nat.zero_le _, 0, ⟨rfl, rfl⟩, text.length, h, text.length, ⟨?_, rfl⟩,
      rfl⟩
    rw [holds_end_iff (by simp), List.size_toArray]

end Pattern

end Conform.Regex
