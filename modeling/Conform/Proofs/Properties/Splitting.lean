import Conform.Proofs.Properties.Composition

namespace Conform.Properties

/-- Every separator and every blank of a key is escaped: the run of backslashes before it is odd. -/
def Shielded (key : List Char) : Prop :=
  ∀ before c after, key = before ++ c :: after → endsKey c = true → continues before = true

/-- Blanks, with one separator at most among them. -/
def IsGap (gap : List Char) : Prop :=
  ∃ lead mark trail, gap = lead ++ mark ++ trail ∧ (∀ c ∈ lead, isBlank c = true) ∧
    (mark.length ≤ 1 ∧ ∀ c ∈ mark, isSeparator c = true) ∧ ∀ c ∈ trail, isBlank c = true

/-- A line made up of a key, a gap and a value. The gap begins where the key cannot go on, and the
value where the gap cannot. -/
structure Divides (line key gap value : List Char) : Prop where
  line_eq : line = key ++ gap ++ value
  shielded : Shielded key
  isGap : IsGap gap
  /-- The first character of the gap is not escaped. -/
  gap_start : gap ≠ [] → continues key = false
  gap_nil : gap = [] → key = line
  value_start : ∀ c ∈ value.head?, isBlank c = false
  value_mark : (∀ c ∈ gap, isSeparator c = false) → ∀ c ∈ value.head?, isSeparator c = false

variable {line key rest gap value : List Char} {c d : Char}

theorem shielded_nil : Shielded [] := by
  intro before c after h
  cases before <;> cases h

theorem Shielded.plain (h : Shielded key) (hc : c ≠ '\\') (hends : endsKey c = false) :
    Shielded (c :: key) := by
  intro before x after heq hx
  cases before with
  | nil =>
    cases heq
    exact absurd hx (by simp [hends])
  | cons b before =>
    cases heq
    rw [continues_cons hc]
    exact h before x after rfl hx

theorem Shielded.escape (h : Shielded key) (d : Char) : Shielded ('\\' :: d :: key) := by
  intro before x after heq hx
  match before, heq with
  | [], heq =>
    cases heq
    exact absurd hx (by decide)
  | [_], heq =>
    cases heq
    rfl
  | _ :: _ :: before, heq =>
    cases heq
    rw [continues_pair]
    exact h before x after rfl hx

theorem Shielded.of_cons (h : Shielded (c :: key)) (hc : c ≠ '\\') : Shielded key := by
  intro before x after heq hx
  have hlong := h (c :: before) x after (by rw [heq]; rfl) hx
  rwa [continues_cons hc] at hlong

theorem Shielded.of_pair (h : Shielded ('\\' :: d :: key)) : Shielded key := by
  intro before x after heq hx
  have hlong := h ('\\' :: d :: before) x after (by rw [heq]; rfl) hx
  rwa [continues_pair] at hlong

theorem Shielded.head_not_endsKey (h : Shielded (c :: key)) : endsKey c = false := by
  rw [← Bool.not_eq_true]
  intro hc
  cases h [] c key rfl hc

/-- What is left behind a key is nothing, or begins with a character that ends the key and is not
escaped. -/
def Leaves (key rest : List Char) : Prop :=
  rest = [] ∨ continues key = false ∧ ∃ c more, rest = c :: more ∧ endsKey c = true

theorem splitKey_pair (d : Char) (rest : List Char) :
    splitKey ('\\' :: d :: rest) = ('\\' :: d :: (splitKey rest).1, (splitKey rest).2) := by
  rw [splitKey, if_pos rfl]

theorem splitKey_of_endsKey (hc : endsKey c = true) (rest : List Char) :
    splitKey (c :: rest) = ([], c :: rest) := by
  have hb : c ≠ '\\' := by
    rintro rfl
    exact absurd hc (by decide)
  cases rest with
  | nil => exact if_pos hc
  | cons d rest =>
    rw [splitKey, if_neg hb]
    exact if_pos hc

theorem splitKey_plain (hc : c ≠ '\\') (hends : endsKey c = false) (rest : List Char) :
    splitKey (c :: rest) = (c :: (splitKey rest).1, (splitKey rest).2) := by
  have hmarks : ¬ (isSeparator c || isBlank c) = true := by simpa [endsKey] using hends
  cases rest with
  | nil => exact if_neg hmarks
  | cons d rest => rw [splitKey, if_neg hc, if_neg hmarks]

/-- Splitting off the key takes it as far as it goes. -/
theorem splitKey_spec (line : List Char) :
    line = (splitKey line).1 ++ (splitKey line).2 ∧ Shielded (splitKey line).1 ∧
      Leaves (splitKey line).1 (splitKey line).2 := by
  induction line using splitKey.induct with
  | case1 => exact ⟨rfl, shielded_nil, .inl rfl⟩
  | case2 c hc =>
    rw [splitKey_of_endsKey hc]
    exact ⟨rfl, shielded_nil, .inr ⟨rfl, c, [], rfl, hc⟩⟩
  | case3 c hc =>
    have hends : endsKey c = false := by simpa [endsKey] using hc
    have hsplit : splitKey [c] = ([c], []) := if_neg hc
    rw [hsplit]
    refine ⟨rfl, ?_, .inl rfl⟩
    intro before x after heq hx
    cases before with
    | nil =>
      cases heq
      exact absurd hx (by simp [hends])
    | cons b before => simp at heq
  | case4 d rest key more hsplit ih =>
    rw [splitKey_pair, hsplit]
    rw [hsplit] at ih
    obtain ⟨hline, hshielded, hleaves⟩ := ih
    refine ⟨congrArg (fun l => '\\' :: d :: l) hline, hshielded.escape d, ?_⟩
    rwa [Leaves, continues_pair]
  | case5 c d rest hb hc =>
    rw [splitKey_of_endsKey hc]
    exact ⟨rfl, shielded_nil, .inr ⟨rfl, c, d :: rest, rfl, hc⟩⟩
  | case6 c d rest hb hc key more hsplit ih =>
    have hends : endsKey c = false := by simpa [endsKey] using hc
    rw [splitKey_plain hb hends, hsplit]
    rw [hsplit] at ih
    obtain ⟨hline, hshielded, hleaves⟩ := ih
    refine ⟨congrArg (c :: ·) hline, hshielded.plain hb hends, ?_⟩
    rwa [Leaves, continues_cons hb]

/-- No other key can be split off. -/
theorem splitKey_append (h : Shielded key) (hrest : Leaves key rest) :
    splitKey (key ++ rest) = (key, rest) := by
  induction key using splitKey.induct with
  | case1 =>
    rcases hrest with rfl | ⟨-, c, more, rfl, hc⟩
    · rfl
    · exact splitKey_of_endsKey hc more
  | case2 c hc =>
    have hends : endsKey c = true := hc
    exact absurd h.head_not_endsKey (by simp [hends])
  | case3 c hc =>
    rcases hrest with rfl | ⟨hstops, d, more, rfl, hd⟩
    · exact if_neg hc
    · have hb : c ≠ '\\' := by
        rintro rfl
        cases hstops
      rw [List.singleton_append, splitKey_plain hb h.head_not_endsKey, splitKey_of_endsKey hd]
  | case4 d key front more hsplit ih =>
    rw [Leaves, continues_pair] at hrest
    rw [List.cons_append, List.cons_append, splitKey_pair, ih h.of_pair hrest]
  | case5 c d key hb hc =>
    have hends : endsKey c = true := hc
    exact absurd h.head_not_endsKey (by simp [hends])
  | case6 c d key hb hc front more hsplit ih =>
    rw [Leaves, continues_cons hb] at hrest
    rw [List.cons_append, splitKey_plain hb h.head_not_endsKey, ih (h.of_cons hb) hrest]

theorem not_isBlank_of_isSeparator (h : isSeparator c = true) : isBlank c = false := by
  simp only [isSeparator, Bool.or_eq_true, decide_eq_true_eq] at h
  rcases h with rfl | rfl <;> rfl

theorem IsGap.endsKey (h : IsGap gap) (hc : c ∈ gap) : endsKey c = true := by
  obtain ⟨lead, mark, trail, rfl, hlead, ⟨-, hmark⟩, htrail⟩ := h
  rw [Properties.endsKey, Bool.or_eq_true]
  simp only [List.mem_append] at hc
  rcases hc with (hc | hc) | hc
  · exact .inr (hlead c hc)
  · exact .inl (hmark c hc)
  · exact .inr (htrail c hc)

theorem isBlank_of_mem_takeWhile (hc : c ∈ rest.takeWhile isBlank) : isBlank c = true :=
  List.mem_takeWhile_imp hc

theorem dropBlanks_start (rest : List Char) : ∀ c ∈ (dropBlanks rest).head?, isBlank c = false := by
  intro c hc
  have hhead := List.head?_dropWhile_not isBlank rest
  have hc : (rest.dropWhile isBlank).head? = some c := hc
  rwa [hc] at hhead

theorem exists_gap (rest : List Char) :
    ∃ gap, rest = gap ++ dropBlanks (dropSeparator (dropBlanks rest)) ∧ IsGap gap ∧
      ((∀ c ∈ gap, isSeparator c = false) →
        ∀ c ∈ (dropBlanks (dropSeparator (dropBlanks rest))).head?, isSeparator c = false) := by
  have hlead : rest = rest.takeWhile isBlank ++ dropBlanks rest :=
    (List.takeWhile_append_dropWhile ..).symm
  cases hback : dropBlanks rest with
  | nil =>
    refine ⟨rest.takeWhile isBlank, ?_, ?_, nofun⟩
    · rwa [hback] at hlead
    · exact ⟨rest.takeWhile isBlank, [], [], by simp, fun c => isBlank_of_mem_takeWhile, by simp⟩
  | cons c back =>
    rw [hback] at hlead
    by_cases hc : isSeparator c = true
    · have htrail : back = back.takeWhile isBlank ++ dropBlanks back :=
        (List.takeWhile_append_dropWhile ..).symm
      rw [dropSeparator, if_pos hc]
      refine ⟨rest.takeWhile isBlank ++ [c] ++ back.takeWhile isBlank, ?_, ?_, ?_⟩
      · rw [List.append_assoc, ← htrail, List.append_assoc]
        exact hlead
      · exact ⟨_, [c], _, rfl, fun c => isBlank_of_mem_takeWhile, by simpa using hc,
          fun c => isBlank_of_mem_takeWhile⟩
      · intro hnone
        have hmark := hnone c (by simp)
        rw [hc] at hmark
        cases hmark
    · have hblank : isBlank c = false := dropBlanks_start rest c (by rw [hback]; rfl)
      rw [dropSeparator, if_neg hc, dropBlanks_cons hblank]
      refine ⟨rest.takeWhile isBlank, hlead, ?_, ?_⟩
      · exact ⟨rest.takeWhile isBlank, [], [], by simp, fun c => isBlank_of_mem_takeWhile, by simp⟩
      · rintro - d ⟨⟩
        simpa using hc

theorem dropSeparator_of_start (h : ∀ c ∈ value.head?, isSeparator c = false) :
    dropSeparator value = value := by
  cases value with
  | nil => rfl
  | cons c value => rw [dropSeparator, if_neg (by simp [h c rfl])]

theorem dropGap (hgap : IsGap gap) (hstart : ∀ c ∈ value.head?, isBlank c = false)
    (hmark : (∀ c ∈ gap, isSeparator c = false) → ∀ c ∈ value.head?, isSeparator c = false) :
    dropBlanks (dropSeparator (dropBlanks (gap ++ value))) = value := by
  obtain ⟨lead, mark, trail, rfl, hlead, ⟨hlength, hseparator⟩, htrail⟩ := hgap
  match mark, hlength, hseparator with
  | [], _, _ =>
    have hblanks : ∀ c ∈ lead ++ [] ++ trail, isBlank c = true := by
      intro c hc
      rw [List.append_nil, List.mem_append] at hc
      exact hc.elim (hlead c) (htrail c)
    have hnone : ∀ c ∈ lead ++ [] ++ trail, isSeparator c = false := by
      intro c hc
      rw [← Bool.not_eq_true]
      intro hs
      cases (hblanks c hc).symm.trans (not_isBlank_of_isSeparator hs)
    rw [dropBlanks_gap hblanks hstart, dropSeparator_of_start (hmark hnone)]
    have hnil : ∀ c ∈ ([] : List Char), isBlank c = true := fun _ hc =>
      absurd hc List.not_mem_nil
    exact dropBlanks_gap hnil hstart
  | [c], _, hseparator =>
    have hc : isSeparator c = true := hseparator c List.mem_cons_self
    have hback : ∀ d ∈ (c :: (trail ++ value)).head?, isBlank d = false := by
      rintro d ⟨⟩
      exact not_isBlank_of_isSeparator hc
    rw [List.append_assoc, List.append_assoc, List.singleton_append, dropBlanks_gap hlead hback,
      dropSeparator, if_pos hc, dropBlanks_gap htrail hstart]

/-- A line is divided into the key, a gap and the value that reading takes, and it can be divided in
no other way. -/
theorem splitEntry_eq_iff (line key value : List Char) :
    splitEntry line = (key, value) ↔ ∃ gap, Divides line key gap value := by
  constructor
  · intro h
    rw [splitEntry, Prod.mk.injEq] at h
    obtain ⟨rfl, rfl⟩ := h
    obtain ⟨hline, hshielded, hleaves⟩ := splitKey_spec line
    obtain ⟨gap, hrest, hgap, hmark⟩ := exists_gap (splitKey line).2
    refine ⟨gap, ?_, hshielded, hgap, ?_, ?_, dropBlanks_start _, hmark⟩
    · rw [List.append_assoc, ← hrest]
      exact hline
    · intro hne
      rcases hleaves with hnil | ⟨hstops, -⟩
      · rw [hrest] at hnil
        exact absurd (List.append_eq_nil_iff.1 hnil).1 hne
      · exact hstops
    · rintro rfl
      rcases hleaves with hnil | ⟨-, c, more, hmore, hc⟩
      · rw [hnil, List.append_nil] at hline
        exact hline.symm
      · -- Without a gap the value would begin with a character that ends the key.
        have hhead : c ∈ (dropBlanks (dropSeparator (dropBlanks (splitKey line).2))).head? := by
          rw [← hrest.trans (List.nil_append _), hmore]
          rfl
        have hblank := dropBlanks_start _ c hhead
        have hseparator := hmark (fun _ hgap => absurd hgap List.not_mem_nil) c hhead
        rw [endsKey, hseparator, hblank] at hc
        cases hc
  · rintro ⟨gap, h⟩
    have hleaves : Leaves key (gap ++ value) := by
      cases gap with
      | nil =>
        have hline := h.line_eq
        rw [← h.gap_nil rfl] at hline
        exact .inl (by simpa using hline)
      | cons c gap =>
        exact .inr ⟨h.gap_start (by simp), c, gap ++ value, rfl, h.isGap.endsKey List.mem_cons_self⟩
    have hsplit := splitKey_append h.shielded hleaves
    rw [← List.append_assoc, ← h.line_eq] at hsplit
    rw [splitEntry, hsplit]
    exact congrArg (Prod.mk key) (dropGap h.isGap h.value_start h.value_mark)

end Conform.Properties
