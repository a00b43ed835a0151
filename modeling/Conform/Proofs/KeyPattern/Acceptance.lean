import Conform.Proofs.KeyPattern.Reading
import Conform.Proofs.Traversal

namespace Conform

theorem Text.not_mem_of_mem_pieces {sep : Char} {text piece : List Char}
    (h : piece ∈ Text.pieces sep text) : sep ∉ piece := by
  induction text generalizing piece with
  | nil =>
    rw [Text.pieces, List.mem_singleton] at h
    simp [h]
  | cons c rest ih =>
    rw [Text.pieces] at h
    split at h
    next =>
      rcases List.mem_cons.1 h with rfl | h
      · simp
      · exact ih h
    next hc =>
      split at h
      next hnil => exact absurd hnil (Text.pieces_ne_nil sep rest)
      next first more hpieces =>
        rw [hpieces] at ih
        rcases List.mem_cons.1 h with rfl | h
        · rw [List.mem_cons, not_or]
          exact ⟨Ne.symm hc, ih List.mem_cons_self⟩
        · exact ih (List.mem_cons_of_mem _ h)

theorem dot_not_mem_of_mem_segments {key segment : String} (h : segment ∈ segments key) :
    '.' ∉ segment.toList := by
  obtain ⟨piece, hpiece, rfl⟩ := List.mem_map.1 h
  rw [String.toList_ofList]
  exact Text.not_mem_of_mem_pieces hpiece

namespace KeyPattern

/-- The segment of a pattern that a text stands for, if it stands for one. -/
inductive Segment.Reads : (text : String) → Segment → Prop
  | any : Reads "*" any
  | anyDeep : Reads "**" anyDeep
  | literal {text : String} (hne : text ≠ "") (hstar : '*' ∉ text.toList) :
      Reads text (literal text)

/-- A text that is a segment of a pattern: it is not empty, and it is a wildcard or holds none. -/
def IsSegment (text : String) : Prop := text ≠ "" ∧ (text = "*" ∨ text = "**" ∨ '*' ∉ text.toList)

/-- What is wrong with a text that is no segment of a pattern, given its place among the segments. -/
inductive Misreads (index : Nat) : (text : String) → Error → Prop
  | empty : Misreads index "" (.emptySegment index)
  | partialWildcard {text : String} (hne : text ≠ "") (h : ¬ IsSegment text) :
      Misreads index text (.partialWildcard text)

/-- What is wrong with the first of the texts that is no segment of a pattern. -/
def MisreadsFirst (texts : List String) (e : Error) : Prop :=
  ∃ before text after, texts = before ++ text :: after ∧ (∀ t ∈ before, IsSegment t) ∧
    Misreads before.length text e

variable {index : Nat} {text text' : String} {texts : List String} {e e' : Error}

theorem Misreads.not_isSegment (h : Misreads index text e) : ¬ IsSegment text := by
  cases h with
  | empty => exact fun h => h.1 rfl
  | partialWildcard _ h => exact h

theorem Misreads.unique (h : Misreads index text e) (h' : Misreads index text e') : e = e' := by
  cases h with
  | empty =>
    cases h' with
    | empty => rfl
    | partialWildcard hne => exact absurd rfl hne
  | partialWildcard hne =>
    cases h' with
    | empty => exact absurd rfl hne
    | partialWildcard => rfl

namespace Segment

variable {s : Segment} {ss : List Segment}

theorem Reads.isSegment (h : Reads text s) : IsSegment text := by
  cases h with
  | any => exact ⟨by decide, .inl rfl⟩
  | anyDeep => exact ⟨by decide, .inr (.inl rfl)⟩
  | literal hne hstar => exact ⟨hne, .inr (.inr hstar)⟩

theorem parse_cases (index : Nat) (text : String) :
    (∃ s, parse index text = .ok s ∧ Reads text s) ∨
      ∃ e, parse index text = .error e ∧ Misreads index text e := by
  rw [parse]
  split
  next hempty => exact .inr ⟨_, rfl, hempty ▸ .empty⟩
  next hne =>
    split
    next hany => exact .inl ⟨_, rfl, hany ▸ .any⟩
    next hany =>
      split
      next hdeep => exact .inl ⟨_, rfl, hdeep ▸ .anyDeep⟩
      next hdeep =>
        split
        next hstar =>
          refine .inr ⟨_, rfl, .partialWildcard hne ?_⟩
          rintro ⟨-, h | h | h⟩
          · exact hany h
          · exact hdeep h
          · exact h hstar
        next hstar => exact .inl ⟨_, rfl, .literal hne hstar⟩

theorem reads_of_parse (h : parse index text = .ok s) : Reads text s := by
  rcases parse_cases index text with ⟨s', hs, hreads⟩ | ⟨e, he, -⟩
  · cases hs.symm.trans h
    exact hreads
  · cases he.symm.trans h

theorem parse_of_isSegment (h : IsSegment text) (index : Nat) : ∃ s, parse index text = .ok s := by
  rcases parse_cases index text with ⟨s, hs, -⟩ | ⟨e, -, hmisreads⟩
  · exact ⟨s, hs⟩
  · exact absurd h hmisreads.not_isSegment

theorem parseAll_cons (index : Nat) (text : String) (rest : List String) :
    parseAll index (text :: rest) =
      (parse index text).bind fun first => (parseAll (index + 1) rest).map (first :: ·) := by
  rw [parseAll]
  cases parse index text with
  | error e => rfl
  | ok first => cases parseAll (index + 1) rest <;> rfl

theorem reads_of_parseAll (h : parseAll index texts = .ok ss) : List.Forall₂ Reads texts ss := by
  induction texts generalizing index ss with
  | nil =>
    cases h
    exact .nil
  | cons text rest ih =>
    obtain ⟨first, others, hfirst, hothers, rfl⟩ := parseAll_cons_eq_ok h
    exact .cons (reads_of_parse hfirst) (ih hothers)

theorem parseAll_of_isSegment (h : ∀ t ∈ texts, IsSegment t) (index : Nat) :
    ∃ ss, parseAll index texts = .ok ss := by
  induction texts generalizing index with
  | nil => exact ⟨[], rfl⟩
  | cons text rest ih =>
    rw [List.forall_mem_cons] at h
    obtain ⟨first, hfirst⟩ := parse_of_isSegment h.1 index
    obtain ⟨others, hothers⟩ := ih h.2 (index + 1)
    exact ⟨first :: others, by rw [parseAll_cons, hfirst, hothers]; rfl⟩

/-- The texts fail where the first of them fails that is no segment. -/
theorem parseAll_eq_error_iff :
    parseAll index texts = .error e ↔ ∃ before text after, texts = before ++ text :: after ∧
      (∀ t ∈ before, IsSegment t) ∧ Misreads (index + before.length) text e := by
  induction texts generalizing index with
  | nil => exact iff_of_false nofun (by simp)
  | cons text rest ih =>
    rw [parseAll_cons]
    rcases parse_cases index text with ⟨s, hs, hreads⟩ | ⟨e', he, hmisreads⟩
    · have hrest : ((Except.ok s).bind fun first => (parseAll (index + 1) rest).map (first :: ·)) =
          .error e ↔ parseAll (index + 1) rest = .error e := by
        cases parseAll (index + 1) rest <;> simp [Except.bind, Except.map]
      rw [hs, hrest, ih]
      constructor
      · rintro ⟨before, t, after, rfl, hbefore, hbad⟩
        refine ⟨text :: before, t, after, rfl, ?_, ?_⟩
        · exact List.forall_mem_cons.2 ⟨hreads.isSegment, hbefore⟩
        · rwa [List.length_cons, Nat.add_comm before.length, ← Nat.add_assoc]
      · rintro ⟨before, t, after, heq, hbefore, hbad⟩
        cases before with
        | nil =>
          cases heq
          exact absurd hreads.isSegment hbad.not_isSegment
        | cons first before =>
          cases heq
          rw [List.length_cons, Nat.add_comm before.length, ← Nat.add_assoc] at hbad
          exact ⟨before, t, after, rfl, (List.forall_mem_cons.1 hbefore).2, hbad⟩
    · rw [he]
      constructor
      · rintro ⟨⟩
        exact ⟨[], text, rest, rfl, nofun, hmisreads⟩
      · rintro ⟨before, t, after, heq, hbefore, hbad⟩
        cases before with
        | nil =>
          cases heq
          exact congrArg Except.error (hmisreads.unique hbad)
        | cons first before =>
          cases heq
          exact absurd (List.forall_mem_cons.1 hbefore).1 hmisreads.not_isSegment

end Segment

variable {p p' : KeyPattern}

theorem parse_of_ne_empty (h : text ≠ "") :
    parse text = (Segment.parseAll 0 (Conform.segments text)).map (⟨text, ·⟩) := by
  rw [parse, if_neg h]

theorem reads_of_parse (h : parse text = .ok p) :
    text ≠ "" ∧ List.Forall₂ Segment.Reads (Conform.segments text) p.segments := by
  by_cases hne : text = ""
  · rw [parse, if_pos hne] at h
    cases h
  · rw [parse_of_ne_empty hne] at h
    cases hall : Segment.parseAll 0 (Conform.segments text) with
    | error e =>
      rw [hall] at h
      cases h
    | ok ss =>
      rw [hall] at h
      cases h
      exact ⟨hne, Segment.reads_of_parseAll hall⟩

theorem exists_parse_iff :
    (∃ p, parse text = .ok p) ↔ text ≠ "" ∧ ∀ s ∈ Conform.segments text, IsSegment s := by
  constructor
  · rintro ⟨p, h⟩
    obtain ⟨hne, hreads⟩ := reads_of_parse h
    refine ⟨hne, fun t ht => ?_⟩
    obtain ⟨s, -, hs⟩ := forall₂_exists_of_mem hreads ht
    exact hs.isSegment
  · rintro ⟨hne, hall⟩
    obtain ⟨ss, hss⟩ := Segment.parseAll_of_isSegment hall 0
    exact ⟨⟨text, ss⟩, by rw [parse_of_ne_empty hne, hss]; rfl⟩

theorem parse_eq_error_iff :
    parse text = .error e ↔
      text = "" ∧ e = .empty ∨ text ≠ "" ∧ MisreadsFirst (Conform.segments text) e := by
  by_cases hne : text = ""
  · rw [parse, if_pos hne]
    simp [hne, eq_comm]
  · have hmap : ((Segment.parseAll 0 (Conform.segments text)).map (⟨text, ·⟩ : _ → KeyPattern)) =
        .error e ↔ Segment.parseAll 0 (Conform.segments text) = .error e := by
      cases Segment.parseAll 0 (Conform.segments text) <;> simp [Except.map]
    rw [parse_of_ne_empty hne, hmap, Segment.parseAll_eq_error_iff]
    simp [hne, MisreadsFirst]

theorem joinSegments_of_parse (h : parse text = .ok p) :
    joinSegments (p.segments.map Segment.text) = text := by
  rw [(texts_of_parse h).2, joinSegments_segments]

/-- A text is a pattern exactly if it is not empty and each of its segments is a wildcard or holds
none. The segments that are read then spell the text, so no other text has them. Otherwise the first
text between dots that is no segment is reported. -/
theorem parse_by_segments (text : String) :
    (∀ s ∈ Conform.segments text, '.' ∉ s.toList) ∧
    ((∃ p, parse text = .ok p) ↔ text ≠ "" ∧ ∀ s ∈ Conform.segments text, IsSegment s) ∧
    (∀ p, parse text = .ok p →
      List.Forall₂ Segment.Reads (Conform.segments text) p.segments ∧
      joinSegments (p.segments.map Segment.text) = text ∧
      ∀ text' p', parse text' = .ok p' → p'.segments = p.segments → text' = text) ∧
    ∀ e, parse text = .error e ↔
      text = "" ∧ e = .empty ∨ text ≠ "" ∧ MisreadsFirst (Conform.segments text) e := by
  refine ⟨fun s hs => dot_not_mem_of_mem_segments hs, exists_parse_iff, ?_, fun e =>
    parse_eq_error_iff⟩
  intro p hp
  refine ⟨(reads_of_parse hp).2, joinSegments_of_parse hp, ?_⟩
  intro text' p' hp' hsegments
  rw [← joinSegments_of_parse hp', hsegments, joinSegments_of_parse hp]

/-- Two segments are bad here, each in its own way. -/
theorem parse_by_segments_backup :
    parse "db.*.host" = .ok ⟨"db.*.host", [.literal "db", .any, .literal "host"]⟩ ∧
      joinSegments (["db", "*", "host"]) = "db.*.host" ∧
      parse "db.back*..host" = .error (.partialWildcard "back*") := by
  obtain ⟨-, -, hspell, -⟩ := parse_by_segments "db.*.host"
  obtain ⟨-, -, -, herror⟩ := parse_by_segments "db.back*..host"
  have hparse : parse "db.*.host" =
      .ok ⟨"db.*.host", [.literal "db", .any, .literal "host"]⟩ := by cbv
  refine ⟨hparse, (hspell _ hparse).2.1, (herror _).2 (.inr ⟨by decide, ?_⟩)⟩
  refine ⟨["db"], "back*", ["", "host"], by cbv, ?_, .partialWildcard (by decide) ?_⟩
  · exact List.forall_mem_singleton.2 ⟨by decide, .inr (.inr (by decide))⟩
  · rintro ⟨-, h | h | h⟩
    · exact absurd h (by decide)
    · exact absurd h (by decide)
    · exact absurd h (by decide)

end KeyPattern

end Conform
