import Conform.Proofs.Placeholder.Resolution

namespace Conform.Placeholder

/-- A chain of references from an entry on, by the keys that it has passed, the last one first, and
the placeholder that it has come to. All keys but the first hold text. -/
inductive Chain (fragment : Config) (origin : String) :
    (path : List String) → (name : String) → (fallback? : Option (List Char)) → Prop
  | start {value : Value} {name : String} {fallback? : Option (List Char)}
      (hv : fragment.get? origin = some value) (hr : Refers value name fallback?) :
      Chain fragment origin [origin] name fallback?
  | step {path : List String} {key text name : String} {fallback? fallback?' : Option (List Char)}
      (h : Chain fragment origin path key fallback?) (hk : fragment.get? key = some (.text text))
      (hr : Refers (.text text) name fallback?') :
      Chain fragment origin (key :: path) name fallback?'

/-- A chain from the entry comes back to one of its keys, or to a name that neither configuration
has, with no text in its place. -/
def Broken (fragment context : Config) (origin : String) : Prop :=
  ∃ path name fallback?, Chain fragment origin path name fallback? ∧
    (name ∈ path ∨ fragment.get? name = none ∧ context.get? name = none ∧ fallback? = none)

variable {fragment context : Config} {origin key name : String} {path stack : List String}
  {fallback? : Option (List Char)} {failure : LoadFailure} {value : Value}

theorem Chain.origin_mem (h : Chain fragment origin path name fallback?) :
    ∃ value, fragment.get? origin = some value := by
  induction h with
  | start hv _ => exact ⟨_, hv⟩
  | step _ _ _ ih => exact ih

/-- A chain passes each key once, or has come back to a key before that. -/
theorem Chain.nodup_or_closed (h : Chain fragment origin path name fallback?) :
    path.Nodup ∨ ∃ path name fallback?, Chain fragment origin path name fallback? ∧
      path.Nodup ∧ name ∈ path := by
  induction h with
  | start => exact .inl (by simp)
  | @step path key _ _ _ _ h _ _ ih =>
    rcases ih with hd | hc
    · by_cases hm : key ∈ path
      · exact .inr ⟨path, key, _, h, hd, hm⟩
      · exact .inl (List.nodup_cons.2 ⟨hm, hd⟩)
    · exact .inr hc

theorem Chain.resolveValue_error (h : Chain fragment origin path name fallback?) (hd : path.Nodup)
    (hl : lookup fragment context origin path name fallback? = .error failure)
    (hv : fragment.get? origin = some value) :
    ∃ failure', resolveValue fragment context origin value = .error failure' := by
  induction h generalizing failure with
  | start hv' hr =>
    rw [hv] at hv'
    cases hv'
    exact resolveValue_error_of_lookup hr hl
  | step h hk hr ih =>
    obtain ⟨hn, hd⟩ := List.nodup_cons.1 hd
    cases hr with
    | text hs hp =>
      obtain ⟨e, he⟩ := expand_error_of_lookup (hs.pieces_eq ▸ hp) hl
      rw [← lookup_text hn hk] at he
      exact ih hd he

theorem lookup_missing (hf : fragment.get? name = none) (hc : context.get? name = none) :
    ∃ failure, lookup fragment context origin stack name none = .error failure := by
  by_cases hn : name ∈ stack
  · exact ⟨_, lookup_of_mem hn⟩
  · rw [lookup_absent hn hf, outside?, hc]
    exact ⟨_, rfl⟩

theorem Broken.resolveValue_error (h : Broken fragment context origin)
    (hv : fragment.get? origin = some value) :
    ∃ failure, resolveValue fragment context origin value = .error failure := by
  obtain ⟨path, name, fallback?, hc, hend⟩ := h
  rcases hc.nodup_or_closed with hd | ⟨path', name', fallback?', hc', hd', hm'⟩
  · rcases hend with hm | ⟨hf, hx, rfl⟩
    · exact hc.resolveValue_error hd (lookup_of_mem hm) hv
    · obtain ⟨e, he⟩ := lookup_missing hf hx
      exact hc.resolveValue_error hd he hv
  · exact hc'.resolveValue_error hd' (lookup_of_mem hm') hv

def BlamedOn (key : String) (failure : LoadFailure) : Prop :=
  failure = .placeholderCycle key ∨ ∃ name, failure = .unresolvedPlaceholder key name

/-- The stack of a search is a chain, so a search that fails has found a broken one. -/
theorem Chain.broken_of_lookup (hc : Chain fragment origin stack name fallback?)
    (h : lookup fragment context origin stack name fallback? = .error failure) :
    Broken fragment context origin ∧ BlamedOn origin failure := by
  induction stack, name using lookup_induction fragment generalizing fallback? with
  | step stack name ih =>
    by_cases hn : name ∈ stack
    · rw [lookup_of_mem hn] at h
      cases h
      exact ⟨⟨stack, name, fallback?, hc, .inl hn⟩, .inl rfl⟩
    cases hf : fragment.get? name with
    | none =>
      rw [lookup_absent hn hf] at h
      cases ho : outside? context name fallback? with
      | some t =>
        rw [ho] at h
        cases h
      | none =>
        rw [ho] at h
        cases h
        rw [outside?, Option.or_eq_none_iff, Option.map_eq_none_iff] at ho
        exact ⟨⟨stack, name, fallback?, hc, .inr ⟨hf, ho⟩⟩, .inr ⟨name, rfl⟩⟩
    | some value =>
      rcases value.text_or_not with ⟨t, rfl⟩ | hv
      · rw [lookup_text hn hf] at h
        obtain ⟨next, fallback?', hp, hl⟩ := lookup_of_expand_error h
        exact ih t next fallback?' hn hf hp (.step hc hf (.text (scans_pieces _) hp)) hl
      · rw [lookup_value hn hf hv] at h
        cases h

theorem broken_of_resolveValue_error (hv : fragment.get? key = some value)
    (h : resolveValue fragment context key value = .error failure) :
    Broken fragment context key ∧ BlamedOn key failure := by
  obtain ⟨n, f, hr, hl⟩ := lookup_of_resolveValue_error h
  exact (Chain.start hv hr).broken_of_lookup hl

/-- Where resolving fails, the failure is blamed on the first entry that begins a broken chain. -/
theorem first_broken_of_resolve_error (h : resolve fragment context = .error failure) :
    ∃ before key after, fragment.keys = before ++ key :: after ∧
      Broken fragment context key ∧ (∀ k ∈ before, ¬ Broken fragment context k) ∧
      BlamedOn key failure := by
  obtain ⟨before, key, value, after, he, hr, hb⟩ := resolve_error_iff.1 h
  have hkey : fragment.get? key = some value := Store.get?_eq_some_iff.2 (by simp [he])
  obtain ⟨hbroken, hblame⟩ := broken_of_resolveValue_error hkey hr
  refine ⟨before.map Prod.fst, key, after.map Prod.fst, by simp [Store.keys, he], hbroken, ?_,
    hblame⟩
  intro k hk hbad
  obtain ⟨⟨k', v⟩, hm, rfl⟩ := List.mem_map.1 hk
  have hv : fragment.get? k' = some v :=
    Store.get?_eq_some_iff.2 (by rw [he]; exact List.mem_append_left _ hm)
  obtain ⟨e, hfail⟩ := hbad.resolveValue_error hv
  obtain ⟨v', hok⟩ := hb (k', v) hm
  rw [hfail] at hok
  cases hok

theorem resolve_error_of_broken (h : Broken fragment context key) :
    ∃ failure, resolve fragment context = .error failure := by
  obtain ⟨path, name, fallback?, hc, -⟩ := id h
  obtain ⟨value, hv⟩ := hc.origin_mem
  obtain ⟨e, he⟩ := h.resolveValue_error hv
  cases hr : resolve fragment context with
  | error failure => exact ⟨failure, rfl⟩
  | ok resolved =>
    obtain ⟨value', -, hok⟩ := get?_of_resolve hr hv
    rw [he] at hok
    cases hok

theorem resolve_fails_iff_broken (fragment context : Config) :
    ((∃ failure, resolve fragment context = .error failure) ↔
      ∃ key ∈ fragment.keys, Broken fragment context key) ∧
    ∀ failure, resolve fragment context = .error failure →
      ∃ before key after, fragment.keys = before ++ key :: after ∧
        Broken fragment context key ∧ (∀ k ∈ before, ¬ Broken fragment context k) ∧
        (failure = .placeholderCycle key ∨ ∃ name, failure = .unresolvedPlaceholder key name) := by
  refine ⟨⟨?_, ?_⟩, fun failure => first_broken_of_resolve_error⟩
  · rintro ⟨failure, h⟩
    obtain ⟨before, key, after, hk, hb, -, -⟩ := first_broken_of_resolve_error h
    exact ⟨key, by simp [hk], hb⟩
  · rintro ⟨key, -, hb⟩
    exact resolve_error_of_broken hb

end Conform.Placeholder
