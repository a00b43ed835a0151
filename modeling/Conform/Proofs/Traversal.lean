import Mathlib.Data.List.Forall2

namespace Conform

variable {α β ε : Type} {f g : α → Except ε β}

theorem map_eq_ok {x : Except ε α} {k : α → β} {b : β} (h : x.map k = .ok b) :
    ∃ a, x = .ok a ∧ k a = b := by
  cases x with
  | error e => cases h
  | ok a => exact ⟨a, rfl, Except.ok.inj h⟩

theorem map_eq_error_iff {x : Except ε α} {k : α → β} {e : ε} :
    x.map k = .error e ↔ x = .error e := by
  cases x <;> simp [Except.map]

theorem forall₂_exists_of_mem {r : α → β → Prop} {l : List α} {l' : List β} {a : α}
    (h : List.Forall₂ r l l') (ha : a ∈ l) : ∃ b ∈ l', r a b := by
  induction h with
  | nil => cases ha
  | cons hr _ ih =>
    cases ha with
    | head => exact ⟨_, List.mem_cons_self, hr⟩
    | tail _ ha =>
      obtain ⟨b, hb, hr⟩ := ih ha
      exact ⟨b, List.mem_cons_of_mem _ hb, hr⟩

theorem forall₂_congr_of_mem {r s : α → β → Prop} {l : List α} {l' : List β}
    (h : ∀ a ∈ l, ∀ b, r a b ↔ s a b) : List.Forall₂ r l l' ↔ List.Forall₂ s l l' := by
  constructor
  · intro hr
    exact ((List.forall₂_and_left l l').2 ⟨h, hr⟩).imp fun a b hab => (hab.1 b).1 hab.2
  · intro hs
    exact ((List.forall₂_and_left l l').2 ⟨h, hs⟩).imp fun a b hab => (hab.1 b).2 hab.2

theorem mapM_ok_iff {l : List α} {l' : List β} :
    l.mapM f = .ok l' ↔ List.Forall₂ (fun a b => f a = .ok b) l l' := by
  induction l generalizing l' with
  | nil =>
    rw [List.mapM_nil, List.forall₂_nil_left_iff]
    exact ⟨fun h => (Except.ok.inj h).symm, fun h => h ▸ rfl⟩
  | cons a l ih =>
    rw [List.mapM_cons]
    constructor
    · intro h
      cases ha : f a with
      | error e =>
        rw [ha] at h
        cases h
      | ok b =>
        cases hl : l.mapM f with
        | error e =>
          rw [ha, hl] at h
          cases h
        | ok bs =>
          rw [ha, hl] at h
          cases h
          exact .cons ha (ih.1 hl)
    · intro h
      cases h with
      | cons ha hl =>
        rw [ha, ih.2 hl]
        rfl

/-- A traversal fails exactly where its first element that fails does. -/
theorem mapM_error_iff {l : List α} {e : ε} :
    l.mapM f = .error e ↔ ∃ before a after, l = before ++ a :: after ∧ f a = .error e ∧
      ∀ a ∈ before, ∃ b, f a = .ok b := by
  induction l with
  | nil =>
    constructor
    · intro h
      cases h
    · rintro ⟨before, a, after, h, -⟩
      cases before <;> cases h
  | cons c l ih =>
    rw [List.mapM_cons]
    cases hc : f c with
    | error e' =>
      constructor
      · intro h
        cases h
        exact ⟨[], c, l, rfl, hc, by simp⟩
      · rintro ⟨before, a, after, hl, ha, hb⟩
        cases before with
        | nil =>
          cases hl
          rw [hc] at ha
          cases ha
          rfl
        | cons d before =>
          cases hl
          obtain ⟨b, hd⟩ := hb c List.mem_cons_self
          rw [hc] at hd
          cases hd
    | ok b =>
      have hrest : ((Except.ok b : Except ε β) >>= fun b => l.mapM f >>= fun bs => pure (b :: bs)) =
          .error e ↔ l.mapM f = .error e := by
        cases l.mapM f <;> simp [bind, Except.bind, pure, Except.pure]
      rw [hrest, ih]
      constructor
      · rintro ⟨before, a, after, rfl, ha, hb⟩
        refine ⟨c :: before, a, after, rfl, ha, ?_⟩
        intro d hd
        cases hd with
        | head => exact ⟨b, hc⟩
        | tail _ hd => exact hb d hd
      · rintro ⟨before, a, after, hl, ha, hb⟩
        cases before with
        | nil =>
          cases hl
          rw [hc] at ha
          cases ha
        | cons d before =>
          cases hl
          exact ⟨before, a, after, rfl, ha, fun d hd => hb d (List.mem_cons_of_mem _ hd)⟩

theorem mapM_error_of_mem {l : List α} {a : α} {e : ε} (hl : a ∈ l) (ha : f a = .error e) :
    ∃ e', l.mapM f = .error e' := by
  cases h : l.mapM f with
  | error e' => exact ⟨e', rfl⟩
  | ok l' =>
    obtain ⟨b, -, hb⟩ := forall₂_exists_of_mem (mapM_ok_iff.1 h) hl
    rw [ha] at hb
    cases hb

theorem mapM_congr {l : List α} (h : ∀ a ∈ l, f a = g a) : l.mapM f = l.mapM g := by
  induction l with
  | nil => rfl
  | cons a l ih =>
    rw [List.mapM_cons, List.mapM_cons, h a List.mem_cons_self,
      ih fun b hb => h b (List.mem_cons_of_mem _ hb)]

end Conform
