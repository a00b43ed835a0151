import Conform.Document.Placeholder

namespace Conform

namespace Placeholder

/-- The characters that a placeholder starts with. -/
def start : List Char := ['$', '\x7b']

theorem start_infix_cons {c d : Char} {text : List Char} :
    start <:+: c :: d :: text ↔ (c = '$' ∧ d = '\x7b') ∨ start <:+: d :: text := by
  rw [List.infix_cons_iff, start, List.cons_prefix_cons, List.singleton_prefix_cons_iff]
  rw [eq_comm (a := '$'), eq_comm (a := '\x7b')]

theorem not_start_infix_of_length_lt {text : List Char} (h : text.length < 2) :
    ¬ start <:+: text := by
  intro hs
  have hle : 2 ≤ text.length := hs.length_le
  omega

theorem splitStart?_append {before : List Char} (h : ¬ start <:+: before) (after : List Char) :
    splitStart? (before ++ start ++ after) = some (before, after) := by
  induction before with
  | nil => simp [start, splitStart?]
  | cons c before ih =>
    cases before with
    | nil => simp [start, splitStart?]
    | cons d before =>
      rw [start_infix_cons, not_or] at h
      have hrest := ih h.2
      simp only [List.cons_append] at hrest ⊢
      rw [splitStart?, if_neg h.1, hrest]
      rfl

theorem splitStart?_eq_some {text before after : List Char}
    (h : splitStart? text = some (before, after)) :
    text = before ++ start ++ after ∧ ¬ start <:+: before := by
  induction text generalizing before with
  | nil => simp [splitStart?] at h
  | cons c rest ih =>
    cases rest with
    | nil => simp [splitStart?] at h
    | cons d rest =>
      rw [splitStart?] at h
      split at h
      next hs =>
        simp only [Option.some.injEq, Prod.mk.injEq] at h
        obtain ⟨rfl, rfl⟩ := h
        obtain ⟨rfl, rfl⟩ := hs
        exact ⟨rfl, not_start_infix_of_length_lt (by simp)⟩
      next hs =>
        obtain ⟨⟨b, a⟩, hb, he⟩ := Option.map_eq_some_iff.1 h
        simp only [Prod.mk.injEq] at he
        obtain ⟨rfl, rfl⟩ := he
        obtain ⟨ht, hn⟩ := ih hb
        refine ⟨by rw [ht]; rfl, ?_⟩
        cases b with
        | nil => exact not_start_infix_of_length_lt (by simp)
        | cons e b =>
          rw [start_infix_cons, not_or]
          simp only [List.cons_append, List.cons.injEq] at ht
          exact ⟨ht.1 ▸ hs, hn⟩

theorem splitStart?_eq_none_iff {text : List Char} :
    splitStart? text = none ↔ ¬ start <:+: text := by
  induction text with
  | nil => exact iff_of_true rfl (not_start_infix_of_length_lt (by simp))
  | cons c rest ih =>
    cases rest with
    | nil => exact iff_of_true rfl (not_start_infix_of_length_lt (by simp))
    | cons d rest =>
      rw [splitStart?, start_infix_cons, not_or, ← ih]
      by_cases hs : c = '$' ∧ d = '\x7b' <;> simp [hs]

/-- The name that the inside of a placeholder gives, and the text in its place if there is one. -/
inductive Names : (expression : List Char) → String → Option (List Char) → Prop
  | plain {name : List Char} (h : ':' ∉ name) : Names name (String.ofList (Text.trim name)) none
  | withFallback {name fallback : List Char} (h : ':' ∉ name) :
      Names (name ++ ':' :: fallback) (String.ofList (Text.trim name)) (some fallback)

/-- The pieces of a text as it is read from left to right. -/
inductive Scans : (text : List Char) → List Piece → Prop
  | literal {text : List Char} (h : ¬ start <:+: text) : Scans text [.literal text]
  | unterminated {before after : List Char} (hb : ¬ start <:+: before) (ha : '\x7d' ∉ after) :
      Scans (before ++ start ++ after) [.literal (before ++ start ++ after)]
  | placeholder {before expression rest : List Char} {name : String}
      {fallback? : Option (List Char)} {ps : List Piece} (hb : ¬ start <:+: before)
      (he : '\x7d' ∉ expression) (hn : Names expression name fallback?) (h : Scans rest ps) :
      Scans (before ++ start ++ (expression ++ '\x7d' :: rest))
        (.literal before :: .reference name fallback? :: ps)

theorem names_iff {expression : List Char} {name : String} {fallback? : Option (List Char)} :
    Names expression name fallback? ↔
      Piece.ofExpression expression = .reference name fallback? := by
  rw [Piece.ofExpression]
  constructor
  · intro h
    cases h with
    | plain h => rw [Text.splitFirst?_eq_none_iff.2 h]
    | withFallback h => rw [Text.splitFirst?_append h]
  · intro h
    split at h
    next n f hs =>
      obtain ⟨rfl, hn⟩ := Text.splitFirst?_eq_some hs
      cases h
      exact .withFallback hn
    next hs =>
      cases h
      exact .plain (Text.splitFirst?_eq_none_iff.1 hs)

theorem pieces_eq {text : List Char} :
    pieces text =
      match splitStart? text with
      | none => [.literal text]
      | some (before, after) =>
        match Text.splitFirst? '\x7d' after with
        | none => [.literal text]
        | some (expression, rest) =>
          .literal before :: .ofExpression expression :: pieces rest := by
  rw [pieces]
  split
  next hs => rw [hs]
  next hs =>
    rw [hs]
    dsimp only
    split
    next he => rw [he]
    next he => rw [he]

theorem Scans.pieces_eq {text : List Char} {ps : List Piece} (h : Scans text ps) :
    pieces text = ps := by
  induction h with
  | literal h => rw [Placeholder.pieces_eq, splitStart?_eq_none_iff.2 h]
  | unterminated hb ha =>
    rw [Placeholder.pieces_eq, splitStart?_append hb]
    simp only [Text.splitFirst?_eq_none_iff.2 ha]
  | placeholder hb he hn _ ih =>
    rw [Placeholder.pieces_eq, splitStart?_append hb]
    simp only [Text.splitFirst?_append he, names_iff.1 hn, ih]

theorem scans_pieces (text : List Char) : Scans text (pieces text) := by
  induction text using pieces.induct with
  | case1 text hs =>
    rw [pieces_eq, hs]
    exact .literal (splitStart?_eq_none_iff.1 hs)
  | case2 text before after hs he =>
    obtain ⟨rfl, hb⟩ := splitStart?_eq_some hs
    rw [pieces_eq, hs]
    simp only [he]
    exact .unterminated hb (Text.splitFirst?_eq_none_iff.1 he)
  | case3 text before after hs expression rest he ih =>
    obtain ⟨rfl, hb⟩ := splitStart?_eq_some hs
    obtain ⟨rfl, hm⟩ := Text.splitFirst?_eq_some he
    rw [pieces_eq, hs]
    simp only [he]
    obtain ⟨name, fallback?, hp⟩ : ∃ name fallback?,
        Piece.ofExpression expression = .reference name fallback? := by
      rw [Piece.ofExpression]
      split <;> exact ⟨_, _, rfl⟩
    rw [hp]
    exact .placeholder hb hm (names_iff.2 hp) ih

/-- A text has a placeholder with an end: behind a start there is, anywhere, an end. -/
def HasPlaceholder (text : List Char) : Prop :=
  ∃ before after, text = before ++ start ++ after ∧ '\x7d' ∈ after

theorem hasPlaceholder_append {text rest : List Char} :
    HasPlaceholder (text ++ rest) ↔
      (∃ before after, text = before ++ start ++ after ∧ '\x7d' ∈ after ++ rest) ∨
      (∃ before after, text = before ++ ['$'] ∧ rest = '\x7b' :: after ∧ '\x7d' ∈ after) ∨
      HasPlaceholder rest := by
  constructor
  · rintro ⟨before, after, heq, hend⟩
    rw [List.append_assoc, List.append_eq_append_iff] at heq
    rcases heq with ⟨between, rfl, hrest⟩ | ⟨between, rfl, hrest⟩
    · exact .inr (.inr ⟨between, after, by rw [hrest, List.append_assoc], hend⟩)
    · match between, hrest with
      | [], hrest => exact .inr (.inr ⟨[], after, hrest.symm, hend⟩)
      | [c], hrest =>
        obtain ⟨rfl, rfl⟩ := List.cons.inj hrest
        exact .inr (.inl ⟨before, after, rfl, rfl, hend⟩)
      | c :: d :: more, hrest =>
        simp only [start, List.cons_append, List.nil_append, List.cons.injEq] at hrest
        obtain ⟨rfl, rfl, rfl⟩ := hrest
        exact .inl ⟨before, more, by simp [start], hend⟩
  · rintro (⟨before, after, rfl, hend⟩ | ⟨before, after, rfl, rfl, hend⟩ |
      ⟨before, after, rfl, hend⟩)
    · exact ⟨before, after ++ rest, by rw [List.append_assoc _ after], hend⟩
    · exact ⟨before, after, by simp [start], hend⟩
    · exact ⟨text ++ before, after, by simp only [List.append_assoc], hend⟩

theorem not_hasPlaceholder_of_not_start {text : List Char} (h : ¬ start <:+: text) :
    ¬ HasPlaceholder text := by
  rintro ⟨before, after, rfl, -⟩
  exact h ⟨before, after, rfl⟩

theorem HasPlaceholder.mem_end {text : List Char} (h : HasPlaceholder text) : '\x7d' ∈ text := by
  obtain ⟨before, after, rfl, hend⟩ := h
  exact List.mem_append_right _ hend

theorem Scans.not_hasPlaceholder {text literal : List Char} {ps : List Piece} (h : Scans text ps)
    (hp : .literal literal ∈ ps) : ¬ HasPlaceholder literal := by
  induction h with
  | literal h =>
    cases List.mem_singleton.1 hp
    exact not_hasPlaceholder_of_not_start h
  | unterminated hb ha =>
    cases List.mem_singleton.1 hp
    rw [List.append_assoc, hasPlaceholder_append]
    rintro (⟨b, a, rfl, -⟩ | ⟨b, a, -, hstart, -⟩ | hrest)
    · exact hb ⟨b, a, rfl⟩
    · cases hstart
    · have hend := hrest.mem_end
      simp [start, ha] at hend
  | placeholder hb _ _ _ ih =>
    rcases List.mem_cons.1 hp with hp | hp
    · cases hp
      exact not_hasPlaceholder_of_not_start hb
    · cases hp with
      | tail _ hp => exact ih hp

theorem pieces_of_not_hasPlaceholder {text : List Char} (h : ¬ HasPlaceholder text) :
    pieces text = [.literal text] := by
  cases hs : pieces text with
  | nil => exact absurd (hs ▸ scans_pieces text) nofun
  | cons p ps =>
    have hscans := hs ▸ scans_pieces text
    cases hscans with
    | literal => rfl
    | unterminated => rfl
    | placeholder => exact absurd ⟨_, _, rfl, by simp⟩ h

end Placeholder

end Conform
