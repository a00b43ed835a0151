import Conform.Document.Json.Token
import Conform.Proofs.Number.Literal

namespace Conform.Json.Token

open NumberLiteral

variable {cs text taken rest : List Char}

section Suffix

theorem suffix_of_map {read : List Char → Option (List Char × List Char)}
    {f : List Char → List Char} (hread : ∀ {taken rest}, read text = some (taken, rest) → rest <:+ text)
    (h : ((read text).map fun (taken, rest) => (f taken, rest)) = some (taken, rest)) :
    rest <:+ text := by
  obtain ⟨⟨inner, after⟩, hinner, heq⟩ := Option.map_eq_some_iff.1 h
  cases heq
  exact hread hinner

theorem string_suffix (h : string cs = some (taken, rest)) : rest <:+ cs := by
  fun_induction string cs generalizing taken rest with
  | case1 | case2 | case3 | case5 | case6 | case7 | case9 | case12 => cases h
  | case4 a b c d code hcode hlead a' b' c' d' text trail htrail hhalf ih =>
    exact (suffix_of_map ih h).trans
      (List.suffix_append ['\\', 'u', a, b, c, d, '\\', 'u', a', b', c', d'] text)
  | case8 a b c d text code hcode hlead htrail ih =>
    exact (suffix_of_map ih h).trans (List.suffix_append ['\\', 'u', a, b, c, d] text)
  | case10 c text hcode e hescaped ih =>
    exact (suffix_of_map ih h).trans (List.suffix_append ['\\', c] text)
  | case11 text =>
    cases h
    exact List.suffix_cons _ _
  | case13 c text hcode hescaped hquote hcontrol ih =>
    exact (suffix_of_map ih h).trans (List.suffix_cons c text)

theorem digits_eq (h : digits text = some (taken, rest)) : text = taken ++ rest := by
  rw [digits] at h
  split at h
  next => cases h
  next =>
    cases h
    exact List.takeWhile_append_dropWhile.symm

theorem whole_eq (h : whole text = some (taken, rest)) : text = taken ++ rest := by
  rw [whole.eq_def] at h
  split at h
  next =>
    cases h
    rfl
  next => exact digits_eq h

theorem fraction_eq (h : fraction text = some (taken, rest)) : text = taken ++ rest := by
  rw [fraction.eq_def] at h
  split at h
  next after =>
    obtain ⟨⟨ds, left⟩, hds, heq⟩ := Option.map_eq_some_iff.1 h
    cases heq
    rw [digits_eq hds, List.cons_append]
  next =>
    cases h
    rfl

theorem exponentSign_eq (text : List Char) :
    text = (exponentSign text).1 ++ (exponentSign text).2 := by
  rw [exponentSign.eq_def]
  split <;> rfl

theorem minus_eq (text : List Char) : text = (minus text).1 ++ (minus text).2 := by
  rw [minus.eq_def]
  split <;> rfl

theorem exponent_cases (h : exponent text = some (taken, rest)) :
    (taken = [] ∧ rest = text) ∨ ('e' ∈ taken ∧ rest <:+ text) := by
  rw [exponent.eq_def] at h
  split at h
  next =>
    cases h
    exact .inl ⟨rfl, rfl⟩
  next c after =>
    split at h
    next =>
      have hafter := exponentSign_eq after
      generalize exponentSign after = sign at h hafter
      obtain ⟨sign, afterSign⟩ := sign
      obtain ⟨⟨ds, left⟩, hds, heq⟩ := Option.map_eq_some_iff.1 h
      cases heq
      rw [hafter, digits_eq hds]
      refine .inr ⟨List.mem_cons_self, c :: (sign ++ ds), ?_⟩
      rw [List.cons_append, List.append_assoc]
    next =>
      cases h
      exact .inl ⟨rfl, rfl⟩

theorem numberText_cases (h : numberText cs = some (taken, rest)) :
    rest <:+ cs ∧ ('e' ∉ taken → cs = taken ++ rest) := by
  have hminus := minus_eq cs
  rw [numberText] at h
  generalize minus cs = sign at h hminus
  obtain ⟨sign, afterSign⟩ := sign
  simp only [Option.bind_eq_bind, Option.bind_eq_some_iff, Option.pure_def, Option.some.injEq,
    Prod.exists, Prod.mk.injEq] at h
  obtain ⟨w, afterWhole, hw, f, afterFraction, hf, e, _, he, rfl, rfl⟩ := h
  have hcs : cs = sign ++ w ++ f ++ afterFraction := by
    rw [List.append_assoc, ← fraction_eq hf, List.append_assoc, ← whole_eq hw, hminus]
  rcases exponent_cases he with ⟨rfl, rfl⟩ | ⟨hmark, hsuffix⟩
  · rw [List.append_nil]
    exact ⟨⟨_, hcs.symm⟩, fun _ => hcs⟩
  · refine ⟨hsuffix.trans ⟨_, hcs.symm⟩, fun hno => ?_⟩
    exact absurd (List.mem_append_right _ hmark) hno

theorem next_cases {token : Token} (h : next cs = some (token, rest)) :
    rest <:+ cs ∧ ∀ taken, token = number taken → numberText cs = some (taken, rest) := by
  rw [next.eq_def] at h
  split at h
  case h_7 after =>
    obtain ⟨⟨s, left⟩, hs, heq⟩ := Option.map_eq_some_iff.1 h
    cases heq
    exact ⟨(string_suffix hs).trans (List.suffix_cons _ _), nofun⟩
  case h_8 after =>
    cases h
    exact ⟨List.suffix_append ['n', 'u', 'l', 'l'] _, nofun⟩
  case h_9 after =>
    cases h
    exact ⟨List.suffix_append ['t', 'r', 'u', 'e'] _, nofun⟩
  case h_10 after =>
    cases h
    exact ⟨List.suffix_append ['f', 'a', 'l', 's', 'e'] _, nofun⟩
  case h_11 =>
    obtain ⟨⟨text, left⟩, hn, heq⟩ := Option.map_eq_some_iff.1 h
    cases heq
    refine ⟨(numberText_cases hn).1, fun taken heq => ?_⟩
    cases heq
    exact hn
  all_goals
    cases h
    exact ⟨List.suffix_cons _ _, nofun⟩

theorem exists_next_of_mem_run {fuel : Nat} {tokens : List Token} {token : Token}
    (h : run fuel cs = some tokens) (ht : token ∈ tokens) :
    ∃ here rest, here <:+ cs ∧ next here = some (token, rest) := by
  induction fuel generalizing cs tokens with
  | zero => cases h
  | succ fuel ih =>
    rw [run] at h
    split at h
    next =>
      cases h
      cases ht
    next here _ =>
      have hhere : cs.dropWhile isSpace <:+ cs := List.dropWhile_suffix _
      split at h
      next => cases h
      next first rest hnext =>
        obtain ⟨later, hlater, rfl⟩ := Option.map_eq_some_iff.1 h
        rcases List.mem_cons.1 ht with rfl | ht
        · exact ⟨_, rest, hhere, hnext⟩
        · obtain ⟨there, after, hthere, hread⟩ := ih hlater ht
          exact ⟨there, after, (hthere.trans (next_cases hnext).1).trans hhere, hread⟩

/-- A number without an exponent is read from its characters. -/
theorem exists_next_number {tokens : List Token} (h : all? cs = some tokens)
    (ht : number taken ∈ tokens) (hmark : 'e' ∉ taken) :
    ∃ before rest, cs = before ++ (taken ++ rest) ∧
      next (taken ++ rest) = some (number taken, rest) := by
  obtain ⟨here, rest, ⟨before, rfl⟩, hnext⟩ := exists_next_of_mem_run h ht
  have hhere := (numberText_cases ((next_cases hnext).2 taken rfl)).2 hmark
  rw [hhere] at hnext
  exact ⟨before, rest, by rw [hhere], hnext⟩

end Suffix

end Conform.Json.Token
