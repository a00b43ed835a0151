import Mathlib.Data.List.Forall2
import Conform.Proofs.KeyPattern.Reading

namespace Conform.KeyPattern

/-- The blocks of key segments that a segment of a pattern stands for. -/
def Segment.Covers : Segment → (block : List String) → Prop
  | literal text, block => block = [text]
  | any, block => ∃ name, block = [name]
  | anyDeep, block => block ≠ []

/-- Whether the segments of a key can be cut into blocks, one for each segment of the pattern in
order. -/
def HasBlocks (ss : List Segment) (key : List String) : Prop :=
  ∃ blocks : List (List String), blocks.flatten = key ∧ List.Forall₂ Segment.Covers ss blocks

variable {s : Segment} {rest : List Segment} {p : List String → Bool}

theorem hasBlocks_nil {key : List String} : HasBlocks [] key ↔ key = [] := by
  simp [HasBlocks, eq_comm]

theorem hasBlocks_cons {key : List String} :
    HasBlocks (s :: rest) key ↔
      ∃ block back, key = block ++ back ∧ s.Covers block ∧ HasBlocks rest back := by
  constructor
  · rintro ⟨blocks, rfl, h⟩
    obtain ⟨block, more, hblock, hmore, rfl⟩ := List.forall₂_cons_left_iff.1 h
    exact ⟨block, more.flatten, List.flatten_cons, hblock, more, rfl, hmore⟩
  · rintro ⟨block, back, rfl, hblock, more, rfl, hmore⟩
    exact ⟨block :: more, List.flatten_cons, .cons hblock hmore⟩

theorem onSomeTail_iff {key : List String} :
    onSomeTail p key = true ↔ ∃ block back, key = block ++ back ∧ block ≠ [] ∧ p back = true := by
  induction key with
  | nil =>
    simp only [onSomeTail, Bool.false_eq_true, false_iff]
    rintro ⟨block, back, h, hne, -⟩
    exact hne (List.append_eq_nil_iff.1 h.symm).1
  | cons name key ih =>
    rw [onSomeTail, Bool.or_eq_true, ih]
    constructor
    · rintro (h | ⟨block, back, rfl, -, h⟩)
      · exact ⟨[name], key, rfl, List.cons_ne_nil _ _, h⟩
      · exact ⟨name :: block, back, rfl, List.cons_ne_nil _ _, h⟩
    · rintro ⟨block, back, heq, hne, h⟩
      obtain ⟨first, block, rfl⟩ := List.exists_cons_of_ne_nil hne
      obtain ⟨rfl, rfl⟩ := List.cons.inj heq
      -- A block of one segment ends before the first tail, a longer one before a later tail.
      cases block with
      | nil => exact .inl h
      | cons second block => exact .inr ⟨second :: block, back, rfl, List.cons_ne_nil _ _, h⟩

theorem matchSegments_iff {ss : List Segment} {key : List String} :
    matchSegments ss key = true ↔ HasBlocks ss key := by
  induction ss generalizing key with
  | nil => rw [matchSegments, List.isEmpty_iff, hasBlocks_nil]
  | cons s rest ih =>
    rw [hasBlocks_cons]
    cases s with
    | literal text =>
      cases key with
      | nil => simp [matchSegments, Segment.Covers]
      | cons name key => simp [matchSegments, Segment.Covers, ih]
    | any =>
      cases key with
      | nil => simp [matchSegments, Segment.Covers]
      | cons name key => simp [matchSegments, Segment.Covers, ih]
    | anyDeep => simp only [matchSegments, onSomeTail_iff, Segment.Covers, ih]

/-- What remains of a key from a position on; there is nothing beyond the end of the key. -/
def from? (key : List String) (start : Nat) : Option (List String) :=
  if start ≤ key.length then some (key.drop start) else none

/-- The matcher by positions in the key, which fails if it goes beyond the end of the key. -/
def matchFrom? : List Segment → List String → Option Bool
  | [], key => some key.isEmpty
  | .literal text :: rest, key =>
    if key.head? = some text then (from? key 1).bind (matchFrom? rest) else some false
  | .any :: rest, key =>
    if key.isEmpty then some false else (from? key 1).bind (matchFrom? rest)
  | .anyDeep :: rest, key =>
    (List.range' 1 key.length).anyM fun taken => (from? key taken).bind (matchFrom? rest)

theorem anyM_eq_some {α : Type} {f : α → Option Bool} {g : α → Bool} {xs : List α}
    (h : ∀ x ∈ xs, f x = some (g x)) : xs.anyM f = some (xs.any g) := by
  induction xs with
  | nil => rfl
  | cons x xs ih =>
    rw [List.forall_mem_cons] at h
    rw [List.anyM, h.1, List.any_cons]
    cases g x with
    | true => rfl
    | false => exact ih h.2

theorem any_drop_range' (p : List String → Bool) (key : List String) :
    (List.range' 1 key.length).any (fun taken => p (key.drop taken)) = onSomeTail p key := by
  induction key with
  | nil => rfl
  | cons name key ih =>
    have hshift : List.range' 2 key.length = (List.range' 1 key.length).map (· + 1) :=
      List.range'_succ_left
    rw [List.length_cons, List.range'_succ, List.any_cons, hshift, List.any_map, onSomeTail, ← ih]
    rfl

/-- Matching by positions stays within the key. -/
theorem matchFrom?_eq_some (ss : List Segment) (key : List String) :
    matchFrom? ss key = some (matchSegments ss key) := by
  induction ss generalizing key with
  | nil => rfl
  | cons s rest ih =>
    cases s with
    | literal text =>
      cases key with
      | nil => rfl
      | cons name key =>
        by_cases hname : name = text
        · simp [matchFrom?, matchSegments, from?, hname, ih]
        · simp [matchFrom?, matchSegments, hname]
    | any =>
      cases key with
      | nil => rfl
      | cons name key => simp [matchFrom?, matchSegments, from?, ih]
    | anyDeep =>
      rw [matchFrom?, matchSegments, ← any_drop_range']
      apply anyM_eq_some
      intro taken htaken
      have hle : taken ≤ key.length := by
        have := List.mem_range'_1.1 htaken
        omega
      rw [from?, if_pos hle, Option.bind_some, ih]

theorem Segment.isLiteral_of_parse {index : Nat} {text : String} (h : parse index text = .ok s) :
    s.isLiteral = true ↔ '*' ∉ s.text.toList := by
  rw [parse] at h
  split at h
  next => cases h
  next =>
    split at h
    next =>
      cases h
      decide
    next =>
      split at h
      next =>
        cases h
        decide
      next =>
        split at h
        next => cases h
        next hstar =>
          cases h
          exact iff_of_true rfl hstar

theorem Segment.isLiteral_of_parseAll {index : Nat} {texts : List String} {ss : List Segment}
    (h : parseAll index texts = .ok ss) :
    ∀ s ∈ ss, s.isLiteral = true ↔ '*' ∉ s.text.toList := by
  induction texts generalizing index ss with
  | nil =>
    cases h
    simp
  | cons text rest ih =>
    obtain ⟨first, others, hfirst, hothers, rfl⟩ := parseAll_cons_eq_ok h
    exact List.forall_mem_cons.2 ⟨isLiteral_of_parse hfirst, ih hothers⟩

variable {p : KeyPattern} {text : String}

theorem isLiteral_of_parse (h : parse text = .ok p) :
    ∀ s ∈ p.segments, s.isLiteral = true ↔ '*' ∉ s.text.toList := by
  rw [parse] at h
  split at h
  next => cases h
  next =>
    cases hall : Segment.parseAll 0 (Conform.segments text) with
    | error e =>
      rw [hall] at h
      cases h
    | ok ss =>
      rw [hall] at h
      cases h
      exact Segment.isLiteral_of_parseAll hall

/-- The segments of a pattern spell its text, literally but for the wildcards. The pattern matches
the keys whose segments can be cut into blocks, one for each of its own segments, and to match them
by positions never leads beyond the end of a key. -/
theorem matchesKey_iff_hasBlocks (h : parse text = .ok p) :
    p.segments.map Segment.text = Conform.segments text ∧
    (∀ s ∈ p.segments, s.isLiteral = true ↔ '*' ∉ s.text.toList) ∧
    ∀ key, (p.matchesKey key = true ↔ HasBlocks p.segments (Conform.segments key)) ∧
      matchFrom? p.segments (Conform.segments key) = some (p.matchesKey key) := by
  refine ⟨(texts_of_parse h).2, isLiteral_of_parse h, fun key => ⟨?_, ?_⟩⟩
  · rw [matchesKey, matchSegments_iff]
  · rw [matchesKey, matchFrom?_eq_some]

def ports : KeyPattern := ⟨"**.port.*", [.anyDeep, .literal "port", .any]⟩

theorem ports_hasBlocks :
    parse "**.port.*" = .ok ports ∧ ports.matchesKey "a.port.port.b" = true ∧
      ¬ HasBlocks ports.segments (Conform.segments "port.b") ∧
      matchFrom? ports.segments (Conform.segments "a") = some false := by
  have h : parse "**.port.*" = .ok ports := by cbv
  obtain ⟨-, -, hkeys⟩ := matchesKey_iff_hasBlocks h
  refine ⟨h, (hkeys "a.port.port.b").1.2 ?_, ?_, ?_⟩
  · refine ⟨[["a", "port"], ["port"], ["b"]], by cbv, ?_⟩
    exact .cons (List.cons_ne_nil _ _) (.cons rfl (.cons ⟨"b", rfl⟩ .nil))
  · rw [← (hkeys "port.b").1]
    decide
  · rw [(hkeys "a").2]
    rfl

end Conform.KeyPattern
