import Conform.Proofs.Placeholder.Scan
import Conform.Proofs.Store.Writes

namespace Conform

theorem Value.text_or_not (value : Value) :
    (∃ text, value = .text text) ∨ value.isText = false := by
  cases value with
  | text s => exact .inl ⟨s, rfl⟩
  | _ => exact .inr rfl

namespace Placeholder

/-- The text that pieces come to, given what a placeholder with a name and a text in its place
stands for. -/
inductive Fills (means : String → Option (List Char) → List Char → Prop) :
    List Piece → List Char → Prop
  | nil : Fills means [] []
  | literal {text more : List Char} {ps : List Piece} (h : Fills means ps more) :
      Fills means (.literal text :: ps) (text ++ more)
  | reference {name : String} {fallback? : Option (List Char)} {text more : List Char}
      {ps : List Piece} (hm : means name fallback? text) (h : Fills means ps more) :
      Fills means (.reference name fallback? :: ps) (text ++ more)

/-- A value has a placeholder with a name and a text in its place: in its text, or in a text of a
list, however deep. -/
inductive Refers : Value → String → Option (List Char) → Prop
  | text {text : String} {ps : List Piece} {name : String} {fallback? : Option (List Char)}
      (hs : Scans text.toList ps) (hp : .reference name fallback? ∈ ps) :
      Refers (.text text) name fallback?
  | list {items : List Value} {item : Value} {name : String} {fallback? : Option (List Char)}
      (hi : item ∈ items) (h : Refers item name fallback?) : Refers (.list items) name fallback?

section Pieces

variable {means means' : String → Option (List Char) → List Char → Prop} {ps : List Piece}
  {text text' : List Char}

theorem Fills.imp (h : Fills means ps text)
    (hm : ∀ name fallback? text, .reference name fallback? ∈ ps → means name fallback? text →
      means' name fallback? text) : Fills means' ps text := by
  induction h with
  | nil => exact .nil
  | literal _ ih => exact .literal (ih fun n f t hp => hm n f t (List.mem_cons_of_mem _ hp))
  | reference hr _ ih =>
    exact .reference (hm _ _ _ List.mem_cons_self hr)
      (ih fun n f t hp => hm n f t (List.mem_cons_of_mem _ hp))

theorem Fills.means_of_mem {name : String} {fallback? : Option (List Char)}
    (h : Fills means ps text) (hp : .reference name fallback? ∈ ps) :
    ∃ t, means name fallback? t := by
  induction h with
  | nil => cases hp
  | literal _ ih =>
    cases hp with
    | tail _ hp => exact ih hp
  | reference hm _ ih =>
    cases hp with
    | head => exact ⟨_, hm⟩
    | tail _ hp => exact ih hp

theorem Fills.unique (h : Fills means ps text) (h' : Fills means' ps text')
    (hm : ∀ name fallback? t t', .reference name fallback? ∈ ps → means name fallback? t →
      means' name fallback? t' → t = t') : text = text' := by
  induction h generalizing text' with
  | nil =>
    cases h'
    rfl
  | literal _ ih =>
    cases h' with
    | literal h' =>
      rw [ih h' fun n f t t' hp => hm n f t t' (List.mem_cons_of_mem _ hp)]
  | reference hr _ ih =>
    cases h' with
    | reference hr' h' =>
      rw [hm _ _ _ _ List.mem_cons_self hr hr',
        ih h' fun n f t t' hp => hm n f t t' (List.mem_cons_of_mem _ hp)]

end Pieces

variable {fragment context context' : Config} {origin origin' : String}
  {stack stack' : List String} {name : String} {fallback? : Option (List Char)} {ps : List Piece}
  {failure : LoadFailure}

theorem expand_literal (text : List Char) (ps : List Piece) :
    expand fragment context origin stack (.literal text :: ps) =
      (expand fragment context origin stack ps).map (text ++ ·) := by
  rw [expand]
  cases expand fragment context origin stack ps <;> rfl

theorem expand_reference (name : String) (fallback? : Option (List Char)) (ps : List Piece) :
    expand fragment context origin stack (.reference name fallback? :: ps) =
      (lookup fragment context origin stack name fallback?).bind fun text =>
        (expand fragment context origin stack ps).map (text ++ ·) := by
  rw [expand]
  cases lookup fragment context origin stack name fallback? with
  | error failure => rfl
  | ok text => cases expand fragment context origin stack ps <;> rfl

theorem fills_of_expand {text : List Char}
    (h : expand fragment context origin stack ps = .ok text) :
    Fills (fun name fallback? text =>
      lookup fragment context origin stack name fallback? = .ok text) ps text := by
  induction ps generalizing text with
  | nil =>
    rw [expand] at h
    cases h
    exact .nil
  | cons p ps ih =>
    cases p with
    | literal t =>
      rw [expand] at h
      split at h
      next hr =>
        cases h
        exact .literal (ih hr)
      next => cases h
    | reference n f =>
      rw [expand] at h
      split at h
      next => cases h
      next hl =>
        split at h
        next hr =>
          cases h
          exact .reference hl (ih hr)
        next => cases h

/-- A text fails where the first placeholder that fails does. -/
theorem lookup_of_expand_error (h : expand fragment context origin stack ps = .error failure) :
    ∃ name fallback?, .reference name fallback? ∈ ps ∧
      lookup fragment context origin stack name fallback? = .error failure := by
  induction ps with
  | nil =>
    rw [expand] at h
    cases h
  | cons p ps ih =>
    have hrest (he : expand fragment context origin stack ps = .error failure) :
        ∃ name fallback?, .reference name fallback? ∈ p :: ps ∧
          lookup fragment context origin stack name fallback? = .error failure := by
      obtain ⟨n, f, hp, hl⟩ := ih he
      exact ⟨n, f, List.mem_cons_of_mem _ hp, hl⟩
    cases p with
    | literal t =>
      rw [expand] at h
      split at h
      next => cases h
      next he =>
        cases h
        exact hrest he
    | reference n f =>
      rw [expand] at h
      split at h
      next hl =>
        cases h
        exact ⟨n, f, List.mem_cons_self, hl⟩
      next =>
        split at h
        next => cases h
        next he =>
          cases h
          exact hrest he

theorem expand_error_of_lookup (hp : .reference name fallback? ∈ ps)
    (hl : lookup fragment context origin stack name fallback? = .error failure) :
    ∃ failure', expand fragment context origin stack ps = .error failure' := by
  cases he : expand fragment context origin stack ps with
  | error failure' => exact ⟨failure', rfl⟩
  | ok text =>
    obtain ⟨t, ht⟩ := (fills_of_expand he).means_of_mem hp
    rw [hl] at ht
    cases ht

theorem expand_congr
    (h : ∀ name fallback?, .reference name fallback? ∈ ps →
      lookup fragment context origin stack name fallback? =
        lookup fragment context' origin stack name fallback?) :
    expand fragment context origin stack ps = expand fragment context' origin stack ps := by
  induction ps with
  | nil => rw [expand, expand]
  | cons p ps ih =>
    have hrest := ih fun n f hp => h n f (List.mem_cons_of_mem _ hp)
    cases p with
    | literal t => rw [expand, expand, hrest]
    | reference n f => rw [expand, expand, h n f List.mem_cons_self, hrest]

theorem lookup_of_mem (h : name ∈ stack) :
    lookup fragment context origin stack name fallback? = .error (.placeholderCycle origin) := by
  rw [lookup.eq_def, dif_pos h]

theorem lookup_text {text : String} (h : name ∉ stack)
    (hf : fragment.get? name = some (.text text)) :
    lookup fragment context origin stack name fallback? =
      expand fragment context origin (name :: stack) (pieces text.toList) := by
  rw [lookup.eq_def, dif_neg h]
  split
  next ht =>
    rw [hf] at ht
    cases ht
    rfl
  next hv ht =>
    rw [hf] at ht
    cases ht
    exact absurd rfl (hv _)
  next ht =>
    rw [hf] at ht
    cases ht

theorem lookup_value {value : Value} (h : name ∉ stack) (hf : fragment.get? name = some value)
    (hv : value.isText = false) :
    lookup fragment context origin stack name fallback? = .ok value.plainText.toList := by
  rw [lookup.eq_def, dif_neg h]
  split
  next ht =>
    rw [hf] at ht
    cases ht
    cases hv
  next ht =>
    rw [hf] at ht
    cases ht
    rfl
  next ht =>
    rw [hf] at ht
    cases ht

/-- What stands for a name that no entry of the document has. -/
def outside? (context : Config) (name : String) (fallback? : Option (List Char)) :
    Option (List Char) :=
  ((context.get? name).map (·.plainText.toList)).or fallback?

theorem lookup_absent (h : name ∉ stack) (hf : fragment.get? name = none) :
    lookup fragment context origin stack name fallback? =
      match outside? context name fallback? with
      | some text => .ok text
      | none => .error (.unresolvedPlaceholder origin name) := by
  rw [lookup.eq_def, dif_neg h]
  split
  next ht =>
    rw [hf] at ht
    cases ht
  next ht =>
    rw [hf] at ht
    cases ht
  next =>
    rw [outside?]
    cases context.get? name <;> cases fallback? <;> rfl

/-- Whatever holds of a name as soon as it holds of the names in its text, once it is on the stack
itself, holds of every name. -/
theorem lookup_induction (fragment : Config) {motive : List String → String → Prop}
    (step : ∀ stack name,
      (∀ text next fallback?, name ∉ stack → fragment.get? name = some (.text text) →
        .reference next fallback? ∈ pieces text.toList → motive (name :: stack) next) →
      motive stack name) (stack : List String) (name : String) : motive stack name := by
  apply step
  intro text next fallback? hn hf hp
  exact lookup_induction fragment step (name :: stack) next
termination_by (unvisited fragment stack).length
decreasing_by exact unvisited_length_lt (Store.mem_keys_of_get? hf) hn

end Placeholder

end Conform
