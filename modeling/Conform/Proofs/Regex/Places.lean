import Mathlib.Data.Finset.Card
import Mathlib.Order.Monotone.Basic
import Conform.Regex.Match

namespace Conform.Regex

/-- Going on from a place to a place in a number of steps. -/
def Steps (R : Nat → Nat → Prop) : (count : Nat) → Nat → Nat → Prop
  | 0, i, j => i = j
  | count + 1, i, j => ∃ k, R i k ∧ Steps R count k j

namespace Steps

variable {R : Nat → Nat → Prop} {m n i j k : Nat}

theorem one : Steps R 1 i j ↔ R i j := by
  simp [Steps]

theorem add_iff : Steps R (m + n) i j ↔ ∃ k, Steps R m i k ∧ Steps R n k j := by
  induction m generalizing i with
  | zero => simp [Steps]
  | succ m ih =>
    rw [Nat.add_right_comm]
    simp only [Steps, ih]
    constructor
    · rintro ⟨k, hk, l, hl, hrest⟩
      exact ⟨l, ⟨k, hk, hl⟩, hrest⟩
    · rintro ⟨l, ⟨k, hk, hl⟩, hrest⟩
      exact ⟨k, hk, l, hl, hrest⟩

theorem succ_iff : Steps R (n + 1) i j ↔ ∃ k, Steps R n i k ∧ R k j := by
  simp [add_iff, one]

theorem le_of_le {last : Nat} (hR : ∀ i j, i ≤ last → R i j → j ≤ last) (h : Steps R n i j)
    (hi : i ≤ last) : j ≤ last := by
  induction n generalizing i with
  | zero => exact h ▸ hi
  | succ n ih =>
    obtain ⟨k, hk, hrest⟩ := h
    exact ih hrest (hR i k hi hk)

end Steps

namespace Places

/-- A place is in a set of places. -/
def Has (m : Places) (i : Nat) : Prop := m.testBit i = true

variable {a b m : Places} {i j last : Nat}

theorem testBit_foldl (p : Nat → Bool) (l : List Nat) (m : Nat) :
    (l.foldl (fun m i => if p i then m ||| 1 <<< i else m) m).testBit i =
      (m.testBit i || (decide (i ∈ l) && p i)) := by
  induction l generalizing m with
  | nil => simp
  | cons k l ih =>
    rw [List.foldl_cons, ih]
    by_cases hk : i = k
    · cases hp : p k <;> simp [hk, hp, Nat.testBit_or, Nat.testBit_shiftLeft]
    · have hbit : (1 <<< k).testBit i = false := by
        rw [Nat.one_shiftLeft, Nat.testBit_two_pow]
        simpa using Ne.symm hk
      cases hp : p k <;> simp [hk, Nat.testBit_or, hbit]

theorem has_upTo {p : Nat → Bool} : (upTo last p).Has i ↔ i ≤ last ∧ p i = true := by
  simp only [Has, upTo, testBit_foldl, Nat.zero_testBit, Bool.false_or, Bool.and_eq_true,
    decide_eq_true_iff, List.mem_range, Nat.lt_succ_iff]

theorem has_union : (union a b).Has i ↔ a.Has i ∨ b.Has i := by
  simp [Has, union]

theorem has_intersection : (intersection a b).Has i ↔ a.Has i ∧ b.Has i := by
  simp [Has, intersection]

theorem has_difference : (difference a b).Has i ↔ a.Has i ∧ ¬ b.Has i := by
  cases ha : a.testBit i <;> cases hb : b.testBit i <;> simp [Has, difference, ha, hb]

theorem has_onward : (onward a).Has j ↔ ∃ i, a.Has i ∧ j = i + 1 := by
  cases j with
  | zero => simp [Has, onward]
  | succ j => simp [Has, onward]

theorem eq_zero_iff : m = 0 ↔ ∀ i, ¬ m.Has i := by
  constructor
  · rintro rfl i h
    simp [Has] at h
  · intro h
    exact Nat.eq_of_testBit_eq fun i => by simpa [Has] using h i

/-- No place of the set lies behind `last`. -/
def Within (m : Places) (last : Nat) : Prop := ∀ i, m.Has i → i ≤ last

/-- Moving sets of places on goes along a relation of the places up to `last`. -/
structure MovesAlong (last : Nat) (f : Places → Places) (R : Nat → Nat → Prop) : Prop where
  has_iff : ∀ {m : Places} {j : Nat}, m.Within last → ((f m).Has j ↔ ∃ i, m.Has i ∧ R i j)
  le_of : ∀ i j, i ≤ last → R i j → j ≤ last

theorem MovesAlong.within {f : Places → Places} {R : Nat → Nat → Prop}
    (hf : MovesAlong last f R) (hm : m.Within last) : (f m).Within last := by
  intro j hj
  obtain ⟨i, hi, hij⟩ := (hf.has_iff hm).1 hj
  exact hf.le_of i j (hm i hi) hij

end Places

/-- Going on from a set of places in a number of steps at most. -/
def Reach (R : Nat → Nat → Prop) (m : Places) (limit : Nat) (j : Nat) : Prop :=
  ∃ i, m.Has i ∧ ∃ count ≤ limit, Steps R count i j

namespace Reach

variable {R : Nat → Nat → Prop} {m : Places} {last limit t u i j : Nat}

theorem mono (htu : t ≤ u) (h : Reach R m t j) : Reach R m u j := by
  obtain ⟨i, hi, count, hcount, hsteps⟩ := h
  exact ⟨i, hi, count, hcount.trans htu, hsteps⟩

theorem zero_iff : Reach R m 0 j ↔ m.Has j := by
  simp [Reach, Steps]

theorem succ_iff : Reach R m (t + 1) j ↔ Reach R m t j ∨ ∃ k, Reach R m t k ∧ R k j := by
  constructor
  · rintro ⟨i, hi, count, hcount, hsteps⟩
    cases count with
    | zero => exact .inl ⟨i, hi, 0, Nat.zero_le t, hsteps⟩
    | succ count =>
      obtain ⟨k, hk, hkj⟩ := Steps.succ_iff.1 hsteps
      exact .inr ⟨k, ⟨i, hi, count, Nat.le_of_succ_le_succ hcount, hk⟩, hkj⟩
  · rintro (h | ⟨k, ⟨i, hi, count, hcount, hsteps⟩, hkj⟩)
    · exact h.mono (Nat.le_succ t)
    · exact ⟨i, hi, count + 1, Nat.succ_le_succ hcount, Steps.succ_iff.2 ⟨k, hsteps, hkj⟩⟩

theorem add_iff_of_closed (hclosed : ∀ k j, Reach R m t k → R k j → Reach R m t j) :
    Reach R m (t + u) j ↔ Reach R m t j := by
  induction u generalizing j with
  | zero => rfl
  | succ u ih =>
    rw [← Nat.add_assoc, succ_iff, ih]
    constructor
    · rintro (h | ⟨k, hk, hkj⟩)
      · exact h
      · exact hclosed k j (ih.1 hk) hkj
    · exact .inl

theorem le_of (hR : ∀ i j, i ≤ last → R i j → j ≤ last) (hm : m.Within last)
    (h : Reach R m t j) : j ≤ last := by
  obtain ⟨i, hi, count, -, hsteps⟩ := h
  exact hsteps.le_of_le hR (hm i hi)

open Classical in
/-- The places up to `last` that are reached in `t` steps at most. -/
noncomputable def places (R : Nat → Nat → Prop) (m : Places) (last t : Nat) : Finset Nat :=
  (Finset.range (last + 1)).filter (Reach R m t)

theorem mem_places : j ∈ places R m last t ↔ j ≤ last ∧ Reach R m t j := by
  simp only [places, Finset.mem_filter, Finset.mem_range, Nat.lt_succ_iff]

theorem places_subset : places R m last t ⊆ Finset.range (last + 1) := fun _ hj =>
  Finset.mem_range.2 (Nat.lt_succ_of_le (mem_places.1 hj).1)

theorem places_mono : Monotone (places R m last) := by
  intro t u htu j hj
  rw [mem_places] at hj ⊢
  exact ⟨hj.1, hj.2.mono htu⟩

theorem places_succ (hR : ∀ i j, i ≤ last → R i j → j ≤ last) (hm : m.Within last)
    (h : places R m last t = places R m last (t + 1)) :
    places R m last (t + 1) = places R m last (t + 2) := by
  have hclosed : ∀ k j, Reach R m t k → R k j → Reach R m t j := by
    intro k j hk hkj
    have hj : Reach R m (t + 1) j := succ_iff.2 (.inr ⟨k, hk, hkj⟩)
    exact (mem_places.1 (h ▸ mem_places.2 ⟨hj.le_of hR hm, hj⟩)).2
  ext j
  rw [mem_places, mem_places, add_iff_of_closed hclosed, add_iff_of_closed hclosed]

/-- After as many steps as there are places no new place is reached. -/
theorem iff_of_le (hR : ∀ i j, i ≤ last → R i j → j ≤ last) (hm : m.Within last)
    (hlimit : last + 1 ≤ limit) : Reach R m limit j ↔ Reach R m (last + 1) j := by
  have hcard : ∀ t, (places R m last t).card ≤ last + 1 := fun t =>
    (Finset.card_le_card places_subset).trans (Finset.card_range _).le
  have hstable : (places R m last limit).card = (places R m last (last + 1)).card :=
    Nat.stabilises_of_monotone (fun _ _ htu => Finset.card_le_card (places_mono htu)) hcard
      (fun t ht => congrArg Finset.card (places_succ hR hm
        (Finset.eq_of_subset_of_card_le (places_mono (Nat.le_succ t)) ht.ge))) hlimit
  have hplaces := Finset.eq_of_subset_of_card_le (places_mono hlimit) hstable.le
  refine ⟨fun h => ?_, mono hlimit⟩
  exact (mem_places.1 (hplaces ▸ mem_places.2 ⟨h.le_of hR hm, h⟩)).2

end Reach

namespace Route

open Places

variable {f : Places → Places} {R : Nat → Nat → Prop} {m : Places} {last i j : Nat}

theorem times_eq_iterate (n : Nat) (m : Places) : times f n m = f^[n] m := by
  induction n generalizing m with
  | zero => rfl
  | succ n ih =>
    rw [times, Function.iterate_succ_apply]
    by_cases h : f m = m
    · rw [if_pos h, h, Function.iterate_fixed h]
    · rw [if_neg h, ih]

theorem within_times (hf : MovesAlong last f R) (hm : m.Within last) (n : Nat) :
    (times f n m).Within last := by
  rw [times_eq_iterate]
  induction n generalizing m with
  | zero => exact hm
  | succ n ih => exact ih (hf.within hm)

theorem has_times (hf : MovesAlong last f R) (hm : m.Within last) (n : Nat) :
    (times f n m).Has j ↔ ∃ i, m.Has i ∧ Steps R n i j := by
  rw [times_eq_iterate]
  induction n generalizing m with
  | zero => simp [Steps]
  | succ n ih =>
    rw [Function.iterate_succ_apply, ih (hf.within hm)]
    simp only [hf.has_iff hm, Steps]
    constructor
    · rintro ⟨k, ⟨i, hi, hik⟩, hkj⟩
      exact ⟨i, hi, k, hik, hkj⟩
    · rintro ⟨i, hi, k, hik, hkj⟩
      exact ⟨k, ⟨i, hi, hik⟩, hkj⟩

/-- After `t` rounds the places reached are those within `t` steps, and what is reached from the
places of earlier rounds is reached already. -/
theorem has_closure {least reached latest : Places} {t : Nat} (hf : MovesAlong last f R)
    (hleast : least.Within last) (limit : Nat)
    (hreached : ∀ j, reached.Has j ↔ Reach R least t j)
    (hlatest : ∀ i, latest.Has i → reached.Has i)
    (hearlier : ∀ i j, reached.Has i → ¬ latest.Has i → R i j → reached.Has j) :
    (closure f limit reached latest).Has j ↔ Reach R least (t + limit) j := by
  -- A place reached for the first time in a round is reached from one that was new in the round
  -- before, so a round without new places is the last one that matters.
  induction limit generalizing t reached latest with
  | zero => exact hreached j
  | succ limit ih =>
    have hwithin : latest.Within last := fun i hi =>
      ((hreached i).1 (hlatest i hi)).le_of hf.le_of hleast
    have hnew : ∀ j, (difference (f latest) reached).Has j ↔
        (∃ i, latest.Has i ∧ R i j) ∧ ¬ reached.Has j := fun j => by
      rw [has_difference, hf.has_iff hwithin]
    have hnext : ∀ i j, reached.Has i → R i j →
        reached.Has j ∨ (difference (f latest) reached).Has j := by
      intro i j hi hij
      by_cases hl : latest.Has i
      · by_cases hj : reached.Has j
        · exact .inl hj
        · exact .inr ((hnew j).2 ⟨⟨i, hl, hij⟩, hj⟩)
      · exact .inl (hearlier i j hi hl hij)
    rw [closure]
    by_cases h0 : difference (f latest) reached = 0
    · rw [if_pos h0, hreached, Reach.add_iff_of_closed]
      intro k j hk hkj
      rw [← hreached] at hk ⊢
      exact (hnext k j hk hkj).resolve_right (eq_zero_iff.1 h0 j)
    · rw [if_neg h0, Nat.add_comm limit, ← Nat.add_assoc]
      refine ih (fun j => ?_) (fun i hi => has_union.2 (.inr hi)) fun i j hi hl hij => ?_
      · rw [has_union, hnew, Reach.succ_iff, ← hreached]
        constructor
        · rintro (h | ⟨⟨i, hi, hij⟩, -⟩)
          · exact .inl h
          · exact .inr ⟨i, (hreached i).1 (hlatest i hi), hij⟩
        · rintro (h | ⟨i, hi, hij⟩)
          · exact .inl h
          · exact (hnext i j ((hreached i).2 hi) hij).imp_right (hnew j).1
      · exact has_union.2 (hnext i j ((has_union.1 hi).resolve_right hl) hij)

theorem has_iterate (hf : MovesAlong last f R) (hm : m.Within last) (min : Nat)
    (max : Option Nat) :
    (iterate (last + 1) min max f m).Has j ↔
      ∃ i, m.Has i ∧ ∃ count, min ≤ count ∧ (∀ most ∈ max, count ≤ Nat.max min most) ∧
        Steps R count i j := by
  have hleast := within_times hf hm min
  have hsteps : ∀ limit, Reach R (times f min m) limit j ↔
      ∃ i, m.Has i ∧ ∃ extra ≤ limit, Steps R (min + extra) i j := by
    intro limit
    simp only [Reach, has_times hf hm, Steps.add_iff]
    constructor
    · rintro ⟨k, ⟨i, hi, hik⟩, extra, hextra, hkj⟩
      exact ⟨i, hi, extra, hextra, k, hik, hkj⟩
    · rintro ⟨i, hi, extra, hextra, k, hik, hkj⟩
      exact ⟨k, ⟨i, hi, hik⟩, extra, hextra, hkj⟩
  have hclosure : ∀ limit, (closure f limit (times f min m) (times f min m)).Has j ↔
      Reach R (times f min m) limit j := by
    intro limit
    rw [has_closure (t := 0) hf hleast limit (fun _ => Reach.zero_iff.symm) (fun _ => id)
      (fun _ _ h hn => absurd h hn), Nat.zero_add]
  rw [iterate.eq_def]
  simp only [hclosure]
  cases max with
  | none =>
    simp only [Option.not_mem_none, false_implies, implies_true, true_and]
    constructor
    · intro h
      obtain ⟨i, hi, extra, -, hij⟩ := (hsteps _).1 h
      exact ⟨i, hi, min + extra, Nat.le_add_right _ _, hij⟩
    · rintro ⟨i, hi, count, hcount, hij⟩
      rw [← Reach.iff_of_le hf.le_of hleast (Nat.le_add_right _ (count - min)), hsteps]
      exact ⟨i, hi, count - min, Nat.le_add_left _ _, by rwa [Nat.add_sub_cancel' hcount]⟩
  | some most =>
    have hlimit : Reach R (times f min m) (Nat.min (most - min) (last + 1)) j ↔
        Reach R (times f min m) (most - min) j := by
      rcases Nat.le_total (most - min) (last + 1) with h | h
      · rw [show Nat.min (most - min) (last + 1) = most - min from Nat.min_eq_left h]
      · rw [show Nat.min (most - min) (last + 1) = last + 1 from Nat.min_eq_right h,
          Reach.iff_of_le hf.le_of hleast h]
    simp only [hlimit, hsteps, Option.mem_some_iff, forall_eq']
    constructor
    · rintro ⟨i, hi, extra, hextra, hij⟩
      exact ⟨i, hi, min + extra, Nat.le_add_right _ _, by grind, hij⟩
    · rintro ⟨i, hi, count, hmin, hmax, hij⟩
      exact ⟨i, hi, count - min, by grind, by rwa [Nat.add_sub_cancel' hmin]⟩

end Route

end Conform.Regex
