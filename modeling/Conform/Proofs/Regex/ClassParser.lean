import Conform.Proofs.Regex.Scan

namespace Conform.Regex.ClassParser

open Scan

variable {pattern text text' : List Char} {free : Bool} {n n' : Nat}

def namedEnd (negated : Bool) (text : List Char) : Option (ClassSet × List Char) :=
  (Text.splitFirst? ':' text).bind fun name =>
    (Text.stripPrefix? [']'] name.2).bind fun rest =>
      (asciiClass? name.1).map fun cls => (.ascii cls negated, rest)

theorem namedEnd_same {negated : Bool} (h : Ahead pattern text text') :
    Same pattern (namedEnd negated text) (namedEnd negated text') := by
  refine (splitFirst?_same (by decide) h).bind fun name rest rest' hrest => ?_
  cases rest with
  | nil => rcases hrest.nil with rfl | rfl <;> exact .of_none
  | cons c more =>
    obtain ⟨more', rfl, hmore⟩ := hrest.cons
    by_cases hc : ']' = c
    · subst hc
      cases asciiClass? name with
      | none => exact .of_none
      | some cls => exact .of_some hmore
    · have hnone : ∀ more, Text.stripPrefix? [']'] (c :: more) = none := fun more => if_neg hc
      simp only [hnone]
      exact .of_none

theorem named?_negated (rest : List Char) :
    named? (':' :: '^' :: rest) = namedEnd true rest := by
  simp only [named?, namedEnd, Text.stripPrefix?, Option.map_eq_bind]
  rfl

theorem named?_plain {rest : List Char} (h : rest.head? ≠ some '^') :
    named? (':' :: rest) = namedEnd false rest := by
  simp only [named?, namedEnd, Text.stripPrefix?, Option.map_eq_bind, if_true,
    Option.bind_eq_bind, Option.bind_some]
  split
  · simp_all
  · rfl

theorem named?_same (h : Ahead pattern text text') : Same pattern (named? text) (named? text') := by
  cases text with
  | nil => rcases h.nil with rfl | rfl <;> exact .of_none
  | cons c rest =>
    obtain ⟨rest', rfl, hrest⟩ := h.cons
    by_cases hc : ':' = c
    · subst hc
      by_cases hmark : rest.head? = some '^'
      · obtain ⟨more, rfl⟩ := List.head?_eq_some_iff.1 hmark
        obtain ⟨more', rfl, hmore⟩ := hrest.cons
        rw [named?_negated, named?_negated]
        exact namedEnd_same hmore
      · rw [named?_plain hmark, named?_plain fun h' => hmark ((hrest.head?_iff (by decide)).1 h')]
        exact namedEnd_same hrest
    · have hnone : ∀ more, named? (c :: more) = none := fun more => by
        simp [named?, Text.stripPrefix?, hc]
      rw [hnone, hnone]
      exact .of_none

theorem leadingHyphens_ahead (free : Bool) (items : List ClassSet) (hn : text.length ≤ n)
    (hn' : n ≤ n') (h : Ahead pattern text text') :
    (leadingHyphens free n' items text').1 = (leadingHyphens free n items text).1 ∧
      Ahead pattern (leadingHyphens free n items text).2
        (leadingHyphens free n' items text').2 := by
  induction n generalizing n' items text text' with
  | zero =>
    obtain rfl := List.eq_nil_of_length_eq_zero (Nat.le_zero.1 hn)
    rcases h.nil with rfl | rfl <;> cases n' <;> exact ⟨rfl, h⟩
  | succ n ih =>
    obtain ⟨n', rfl⟩ := Nat.exists_eq_add_of_lt hn'
    cases text with
    | nil => rcases h.nil with rfl | rfl <;> exact ⟨rfl, h⟩
    | cons c rest =>
      obtain ⟨rest', rfl, hrest⟩ := h.cons
      by_cases hc : c = '-'
      · subst hc
        exact ih _ (Nat.le_trans (skip_length_le free rest) (Nat.le_of_succ_le_succ hn))
          (Nat.le_add_right n n') (hrest.skip free)
      · have hplain : ∀ n more,
            leadingHyphens free (n + 1) items (c :: more) = (items, c :: more) :=
          fun n more => by simp [leadingHyphens, hc]
        rw [hplain, hplain]
        exact ⟨rfl, h⟩

def openingEnd (free negated : Bool) (items : List ClassSet) (text : List Char) :
    Option ((Bool × List ClassSet) × List Char) :=
  match items, text with
  | _, [] => none
  | [], ']' :: rest =>
    match skip free rest with
    | [] => none
    | rest => some ((negated, [.literal ⟨']', false⟩]), rest)
  | items, text => some ((negated, items), text)

/-- The start of a class after a mark of negation. -/
def openingTail (free negated : Bool) (text : List Char) :
    Option ((Bool × List ClassSet) × List Char) :=
  let (items, text) := leadingHyphens free text.length [] text
  openingEnd free negated items text

theorem openingEnd_alike {negated : Bool} {items : List ClassSet} (h : Ahead pattern text text') :
    Alike pattern (openingEnd free negated items text)
      (openingEnd free negated items text') := by
  cases text with
  | nil => exact .of_none
  | cons c rest =>
    obtain ⟨rest', rfl, hrest⟩ := h.cons
    by_cases hc : items = [] ∧ c = ']'
    · obtain ⟨rfl, rfl⟩ := hc
      rw [openingEnd, openingEnd]
      rcases hrest.skip_cases free with hs | ⟨d, more, more', hs, hs', hmore⟩
      · rw [hs]
        exact .of_none
      · have hskip := hrest.skip free
        rw [hs, hs'] at hskip ⊢
        exact .of_some hskip
    · have hplain : ∀ more, openingEnd free negated items (c :: more) =
          some ((negated, items), c :: more) := by
        intro more
        rw [openingEnd.eq_def]
        split <;> simp_all
      rw [hplain, hplain]
      exact .of_some h

theorem openingTail_alike {negated : Bool} (h : Ahead pattern text text') :
    Alike pattern (openingTail free negated text) (openingTail free negated text') := by
  obtain ⟨hitems, hrest⟩ := leadingHyphens_ahead free [] (Nat.le_refl _) h.length_le h
  rw [openingTail, openingTail]
  generalize leadingHyphens free text.length [] text = read at hitems hrest ⊢
  generalize leadingHyphens free text'.length [] text' = read' at hitems hrest ⊢
  obtain ⟨items, rest⟩ := read
  obtain ⟨items', rest'⟩ := read'
  obtain rfl : items' = items := hitems
  exact openingEnd_alike hrest

theorem opening_negated {rest : List Char} (h : skip free text = '^' :: rest) :
    opening free text = openingTail free true (skip free rest) := by
  rw [opening, h]
  rfl

theorem opening_plain (h : (skip free text).head? ≠ some '^') :
    opening free text = openingTail free false (skip free text) := by
  rw [opening]
  split
  next negated rest heq =>
    split at heq
    · simp_all
    · obtain ⟨rfl, rfl⟩ := Prod.mk.inj heq
      rfl

theorem opening_alike (h : Ahead pattern text text') :
    Alike pattern (opening free text) (opening free text') := by
  have hs := h.skip free
  by_cases hmark : (skip free text).head? = some '^'
  · obtain ⟨rest, hrest⟩ := List.head?_eq_some_iff.1 hmark
    obtain ⟨rest', hrest', hahead⟩ := (hrest ▸ hs).cons
    rw [opening_negated hrest, opening_negated hrest']
    exact openingTail_alike (hahead.skip free)
  · rw [opening_plain hmark, opening_plain fun h' => hmark ((hs.head?_iff (by decide)).1 h')]
    exact openingTail_alike hs

theorem item_alike (h : Ahead pattern text text') :
    Alike pattern (item free text) (item free text') := by
  cases text with
  | nil => exact .of_none
  | cons c rest =>
    obtain ⟨rest', rfl, hrest⟩ := h.cons
    exact .ite (fun _ => escape_alike hrest) fun _ => .of_some hrest

theorem peekPastBlanks_closing (comment : Bool) (text : List Char) :
    peekPastBlanks comment (text ++ closing) = (peekPastBlanks comment text).or (some ')') := by
  induction text generalizing comment with
  | nil => cases comment <;> decide
  | cons c rest ih =>
    rw [List.cons_append, peekPastBlanks, peekPastBlanks]
    split
    · exact ih comment
    · split
      · exact ih true
      · rfl

theorem head?_of_peekPastBlanks {comment : Bool} (h : peekPastBlanks comment text = none)
    {c : Char} (hblank : Text.isBlank c = false) (hc : c ≠ '#') : text.head? ≠ some c := by
  cases text with
  | nil => simp
  | cons d rest =>
    rintro ⟨⟩
    simp [peekPastBlanks, hblank, hc] at h

theorem peek_iff (free : Bool) (d c : Char) (hblank : Text.isBlank c = false)
    (hclose : c ≠ ')') (hsign : c ≠ '#') (h : Ahead pattern text text') :
    peek free (d :: text') = some c ↔ peek free (d :: text) = some c := by
  cases free with
  | false => exact h.head?_iff hclose
  | true =>
    cases h with
    | swallowed => rfl
    | closed =>
      simp only [peek, if_true, peekPastBlanks_closing]
      cases hpast : peekPastBlanks false text with
      | some e => rfl
      | none => simp [head?_of_peekPastBlanks hpast hblank hsign, Ne.symm hclose]

theorem rangeOrItem_alike (h : Ahead pattern text text') :
    Alike pattern (rangeOrItem free text) (rangeOrItem free text') := by
  refine (item_alike h).bind fun first rest rest' hrest => ?_
  rcases hrest.skip_cases free with hs | ⟨c, more, more', hs, hs', hmore⟩
  · simp only [hs]
    exact .of_none
  · have hbracket := peek_iff free c ']' (by decide) (by decide) (by decide) hmore
    have hhyphen := peek_iff free c '-' (by decide) (by decide) (by decide) hmore
    have hahead := hs ▸ hs' ▸ hrest.skip free
    simp only [hs, hs', List.head?_cons, ne_eq, hbracket, hhyphen]
    refine .ite (fun _ => .of_none) fun _ => .ite (fun _ => ?_) fun _ => ?_
    · cases Primitive.set? first with
      | none => exact .of_none
      | some set => exact .of_some hahead
    · refine (item_alike (hmore.skip free)).bind fun last behind behind' hbehind => ?_
      cases Primitive.literal? first with
      | none => exact .of_none
      | some low =>
        cases Primitive.literal? last with
        | none =>
          simp only
          exact .of_none
        | some high =>
          simp only
          exact .ite (fun _ => .of_some hbehind) fun _ => .of_none

theorem operation?_same (h : Ahead pattern text text') :
    Same pattern (operation? text) (operation? text') := by
  have hsome : ∀ {c d rest} (op : SetOperation),
      (∀ more, operation? (c :: d :: more) = some (op, more)) →
      Ahead pattern (c :: d :: rest) text' → Same pattern (some (op, rest)) (operation? text') := by
    intro c d rest op hop h
    obtain ⟨rest₁, rfl, h₁⟩ := h.cons
    obtain ⟨rest₂, rfl, h₂⟩ := h₁.cons
    exact hop rest₂ ▸ .of_some h₂
  have hnone : ∀ {c d rest}, c ≠ ')' → d ≠ ')' → text' = c :: d :: rest →
      ∃ more, text = c :: d :: more := by
    rintro c d rest hc hd rfl
    obtain ⟨rest₁, rfl, h₁⟩ := h.of_cons hc
    obtain ⟨rest₂, rfl, -⟩ := h₁.of_cons hd
    exact ⟨rest₂, rfl⟩
  rw [operation?.eq_def text]
  split
  · exact hsome .intersection (fun _ => rfl) h
  · exact hsome .difference (fun _ => rfl) h
  · exact hsome .symmetricDifference (fun _ => rfl) h
  · next hand hminus htilde =>
    rw [operation?.eq_4 text' (fun _ heq => (hnone (by decide) (by decide) heq).elim hand)
      (fun _ heq => (hnone (by decide) (by decide) heq).elim hminus)
      (fun _ heq => (hnone (by decide) (by decide) heq).elim htilde)]
    exact .of_none

variable {stack : List Frame} {items : List ClassSet}

theorem run_item {c : Char} {rest : List Char} (h : skip free text = c :: rest) (hopen : c ≠ '[')
    (hclose : c ≠ ']') :
    run free (n + 1) stack items text =
      match operation? (c :: rest) with
      | some (op, rest) =>
        let (set, stack) := closeOperand stack items
        run free n (.operand op set :: stack) [] rest
      | none =>
        (rangeOrItem free (c :: rest)).bind fun r => run free n stack (r.1 :: items) r.2 := by
  rw [run, h]
  split
  · simp_all
  · simp_all
  · simp_all
  · cases operation? (c :: rest) with
    | some read => rfl
    | none => cases rangeOrItem free (c :: rest) <;> rfl

theorem run_alike (hn : n ≤ n') (h : Ahead pattern text text') :
    Alike pattern (run free n stack items text) (run free n' stack items text') := by
  induction n generalizing n' stack items text text' with
  | zero => exact .of_none
  | succ n ih =>
    obtain ⟨n', rfl⟩ := Nat.exists_eq_add_of_lt hn
    have hfuel := Nat.le_add_right n n'
    rcases h.skip_cases free with hs | ⟨c, rest, rest', hs, hs', hrest⟩
    · rw [run, hs]
      exact .of_none
    · by_cases hopen : c = '['
      · subst hopen
        rw [run, run, hs, hs']
        rcases named?_same hrest with ⟨hn, hn'⟩ | ⟨set, more, more', hsome, hsome', hmore⟩
        · simp only [hn, hn']
          cases hstart : opening free rest with
          | none => exact .of_none
          | some start =>
            obtain ⟨⟨negated, inner⟩, more⟩ := start
            obtain ⟨more', hstart', hmore⟩ := opening_alike hrest _ _ hstart
            simp only [hstart']
            exact ih hfuel hmore
        · simp only [hsome, hsome']
          exact ih hfuel hmore
      · by_cases hclose : c = ']'
        · subst hclose
          rw [run, run, hs, hs']
          simp only
          generalize closeOperand stack items = closed
          split
          · exact .of_some hrest
          · exact ih hfuel hrest
          · exact .of_none
        · have hahead := hs ▸ hs' ▸ h.skip free
          rw [run_item hs hopen hclose, run_item hs' hopen hclose]
          rcases operation?_same hahead with ⟨hn, hn'⟩ | ⟨op, more, more', hsome, hsome', hmore⟩
          · simp only [hn, hn']
            exact (rangeOrItem_alike hahead).bind fun _ _ _ hread => ih hfuel hread
          · simp only [hsome, hsome']
            exact ih hfuel hmore

theorem parse_alike (h : Ahead pattern text text') :
    Alike pattern (parse free text) (parse free text') := by
  rw [parse, parse]
  cases hstart : opening free text with
  | none => exact .of_none
  | some start =>
    obtain ⟨⟨negated, items⟩, rest⟩ := start
    obtain ⟨rest', hstart', hrest⟩ := opening_alike h _ _ hstart
    simp only [hstart']
    exact run_alike (Nat.succ_le_succ hrest.length_le) hrest

end Conform.Regex.ClassParser
