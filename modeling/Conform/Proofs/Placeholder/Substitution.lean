import Conform.Proofs.Placeholder.Resolution
import Mathlib.Computability.Primrec.List
import Mathlib.Data.List.Permutation

namespace Conform.Placeholder

/-- What a placeholder stands for once its document is resolved. -/
inductive Means (fragment context resolved : Config) :
    String → Option (List Char) → List Char → Prop
  | text {name text filled : String} {fallback? : Option (List Char)}
      (hf : fragment.get? name = some (.text text))
      (hr : resolved.get? name = some (.text filled)) :
      Means fragment context resolved name fallback? filled.toList
  | value {name : String} {fallback? : Option (List Char)} {value : Value}
      (hf : fragment.get? name = some value) (hv : value.isText = false) :
      Means fragment context resolved name fallback? value.plainText.toList
  | context {name : String} {fallback? : Option (List Char)} {value : Value}
      (hf : fragment.get? name = none) (hc : context.get? name = some value) :
      Means fragment context resolved name fallback? value.plainText.toList
  | fallback {name : String} {fallback : List Char} (hf : fragment.get? name = none)
      (hc : context.get? name = none) :
      Means fragment context resolved name (some fallback) fallback

variable {fragment context resolved : Config} {origin origin' key name : String}
  {stack stack' : List String} {fallback? : Option (List Char)} {ps : List Piece}
  {text text' : List Char}

theorem not_mem_of_lookup
    (h : lookup fragment context origin stack name fallback? = .ok text) : name ∉ stack := by
  intro hn
  rw [lookup_of_mem hn] at h
  cases h

/-- The stack decides whether a placeholder fails, and never what it stands for. -/
theorem lookup_unique (h : lookup fragment context origin stack name fallback? = .ok text)
    (h' : lookup fragment context origin' stack' name fallback? = .ok text') : text = text' := by
  induction stack, name using lookup_induction fragment
    generalizing stack' fallback? text text' with
  | step stack name ih =>
    have hn := not_mem_of_lookup h
    have hn' := not_mem_of_lookup h'
    cases hf : fragment.get? name with
    | none =>
      rw [lookup_absent hn hf] at h
      rw [lookup_absent hn' hf] at h'
      cases ho : outside? context name fallback? with
      | none =>
        rw [ho] at h
        cases h
      | some t =>
        rw [ho] at h h'
        cases h
        cases h'
        rfl
    | some value =>
      rcases value.text_or_not with ⟨t, rfl⟩ | hv
      · rw [lookup_text hn hf] at h
        rw [lookup_text hn' hf] at h'
        exact (fills_of_expand h).unique (fills_of_expand h')
          fun next f _ _ hp hl hl' => ih t next f hn hf hp hl hl'
      · rw [lookup_value hn hf hv] at h
        rw [lookup_value hn' hf hv, h] at h'
        exact Except.ok.inj h'

theorem expand_unique (h : expand fragment context origin stack ps = .ok text)
    (h' : expand fragment context origin' stack' ps = .ok text') : text = text' :=
  (fills_of_expand h).unique (fills_of_expand h') fun _ _ _ _ _ => lookup_unique

theorem means_of_lookup (h : resolve fragment context = .ok resolved)
    (hl : lookup fragment context key [key] name fallback? = .ok text) :
    Means fragment context resolved name fallback? text := by
  have hn := not_mem_of_lookup hl
  cases hf : fragment.get? name with
  | none =>
    rw [lookup_absent hn hf, outside?] at hl
    cases hc : context.get? name with
    | some value =>
      rw [hc] at hl
      cases hl
      exact .context hf hc
    | none =>
      rw [hc] at hl
      cases fallback? with
      | some fallback =>
        cases hl
        exact .fallback hf hc
      | none => cases hl
  | some value =>
    rcases value.text_or_not with ⟨t, rfl⟩ | hv
    · obtain ⟨value', hr, hvalue⟩ := get?_of_resolve h hf
      rw [resolveValue_text] at hvalue
      obtain ⟨filled, he, rfl⟩ := map_eq_ok hvalue
      rw [lookup_text hn hf] at hl
      -- The entry itself was expanded from its own key, under another stack.
      have hsame : (String.ofList filled).toList = text := by
        rw [String.toList_ofList]
        exact expand_unique he hl
      exact hsame ▸ .text hf hr
    · rw [lookup_value hn hf hv] at hl
      cases hl
      exact .value hf hv

/-- A resolved document solves the equations that its placeholders write. -/
theorem resolve_solves_equations (h : resolve fragment context = .ok resolved) {value : Value}
    (hk : fragment.get? key = some value) :
    ∃ value', resolved.get? key = some value' ∧
      Resolved (Means fragment context resolved) value value' := by
  obtain ⟨value', hr, hv⟩ := get?_of_resolve h hk
  exact ⟨value', hr, resolved_of_resolveValue (fun _ _ _ hl => means_of_lookup h hl) hv⟩

/-- A document with a chain of references, a fallback, and a placeholder without an end. -/
def written : Config := .ofList [("host", .text "$\x7bname\x7d.local"), ("name", .text "db"),
  ("urls", .list [.text "$\x7bhost\x7d:$\x7bport:80\x7d", .list [.text "$\x7buser\x7d$\x7b"]])]

def filled : Config := .ofList [("host", .text "db.local"), ("name", .text "db"),
  ("urls", .list [.text "db.local:80", .list [.text "me$\x7b"]])]

theorem filled_solves_written :
    resolve written (.ofList [("user", .text "me")]) = .ok filled ∧
      written.get? "urls" = some (.list [.text "$\x7bhost\x7d:$\x7bport:80\x7d",
        .list [.text "$\x7buser\x7d$\x7b"]]) ∧
      ∃ value', filled.get? "urls" = some value' ∧
        Resolved (Means written (.ofList [("user", .text "me")]) filled)
          (.list [.text "$\x7bhost\x7d:$\x7bport:80\x7d", .list [.text "$\x7buser\x7d$\x7b"]])
          value' := by
  have hresolve : resolve written (.ofList [("user", .text "me")]) = .ok filled := by cbv
  exact ⟨hresolve, rfl, resolve_solves_equations hresolve rfl⟩

end Conform.Placeholder
