import Conform.Proofs.Properties.Escape
import Conform.Proofs.Store.Writes

namespace Conform.Properties

def Unbroken (text : List Char) : Prop := '\n' ∉ text ∧ '\r' ∉ text

instance (text : List Char) : Decidable (Unbroken text) :=
  inferInstanceAs (Decidable ('\n' ∉ text ∧ '\r' ∉ text))

theorem Unbroken.append {text text' : List Char} (h : Unbroken text) (h' : Unbroken text') :
    Unbroken (text ++ text') := by
  simp only [Unbroken, List.mem_append, not_or]
  exact ⟨⟨h.1, h'.1⟩, h.2, h'.2⟩

theorem Unbroken.flatMap {code : Char → List Char} (h : ∀ c, Unbroken (code c))
    (text : List Char) : Unbroken (text.flatMap code) := by
  induction text with
  | nil => exact ⟨by simp, by simp⟩
  | cons c rest ih => exact (h c).append ih

theorem Unbroken.lines_cons {line : List Char} (h : Unbroken line) (rest : List Char) :
    Text.lines (line ++ '\n' :: rest) = line :: Text.lines rest := by
  rw [Text.lines_cons h.1, Text.dropReturn_of_not_mem h.2]

theorem escape_unbroken (c : Char) : Unbroken (escape c) := by
  unfold escape
  split
  · decide
  · decide
  · decide
  · decide
  · decide
  next hn hr _ => exact ⟨by simpa using Ne.symm hn, by simpa using Ne.symm hr⟩

theorem escapeInKey_unbroken (c : Char) : Unbroken (escapeInKey c) := by
  unfold escapeInKey
  split
  next hc =>
    simp only [isSeparator, Bool.or_eq_true, decide_eq_true_eq] at hc
    rcases hc with (rfl | rfl) | rfl <;> decide
  next => exact escape_unbroken c

theorem renderKey_unbroken (key : List Char) : Unbroken (renderKey key) := by
  cases key with
  | nil => decide
  | cons c rest =>
    apply Unbroken.append ?_ (.flatMap escapeInKey_unbroken rest)
    split
    next hc => rcases hc with rfl | rfl <;> decide
    next => exact escapeInKey_unbroken c

theorem renderValue_unbroken (value : List Char) : Unbroken (renderValue value) := by
  cases value with
  | nil => decide
  | cons c rest =>
    apply Unbroken.append ?_ (.flatMap escape_unbroken rest)
    split
    next hc => exact hc ▸ by decide
    next => exact escape_unbroken c

/-- The line of an entry without its end. -/
def entryLine (entry : String × String) : List Char :=
  renderKey entry.1.toList ++ '=' :: renderValue entry.2.toList

theorem entryLine_unbroken (entry : String × String) : Unbroken (entryLine entry) := by
  have hseparator : Unbroken ['='] := by decide
  exact (renderKey_unbroken _).append (hseparator.append (renderValue_unbroken _))

theorem entryLine_not_continues (entry : String × String) :
    continues (entryLine entry) = false := by
  have hvalue := (renderValue_spells entry.2.toList).plain (c := '=') (by decide) rfl
  exact ((renderKey_spells entry.1.toList).weaken.append hvalue).not_continues

theorem escape_head (c : Char) :
    (∃ rest, escape c = '\\' :: rest) ∨ escape c = [c] ∧ c ≠ '\t' ∧ c ≠ '\x0c' := by
  unfold escape
  split
  · exact .inl ⟨_, rfl⟩
  · exact .inl ⟨_, rfl⟩
  · exact .inl ⟨_, rfl⟩
  · exact .inl ⟨_, rfl⟩
  · exact .inl ⟨_, rfl⟩
  next ht _ _ hf => exact .inr ⟨rfl, ht, hf⟩

theorem dropBlanks_cons {c : Char} (h : isBlank c = false) (rest : List Char) :
    dropBlanks (c :: rest) = c :: rest :=
  List.dropWhile_cons_of_neg (by simp [h])

theorem dropBlanks_renderValue (value : List Char) :
    dropBlanks (renderValue value) = renderValue value := by
  cases value with
  | nil => rfl
  | cons c rest =>
    rw [renderValue]
    split
    · exact dropBlanks_cons (by decide) _
    next hs =>
      obtain ⟨more, he⟩ | ⟨he, ht, hf⟩ := escape_head c
      · rw [he]
        exact dropBlanks_cons (by decide) _
      · rw [he]
        exact dropBlanks_cons (by simp [isBlank, hs, ht, hf]) _

theorem entryLine_head (entry : String × String) :
    ∃ c rest, entryLine entry = c :: rest ∧ isBlank c = false ∧ c ≠ '#' ∧ c ≠ '!' := by
  rw [entryLine]
  cases entry.1.toList with
  | nil => exact ⟨'=', _, rfl, by decide⟩
  | cons c rest =>
    rw [renderKey]
    split
    · exact ⟨'\\', _, rfl, by decide⟩
    next hm =>
      rw [not_or] at hm
      rw [escapeInKey]
      split
      · exact ⟨'\\', _, rfl, by decide⟩
      next hs =>
        rw [not_or] at hs
        obtain ⟨more, he⟩ | ⟨he, ht, hf⟩ := escape_head c
        · rw [he]
          exact ⟨'\\', _, rfl, by decide⟩
        · rw [he]
          exact ⟨c, _, rfl, by simp [isBlank, hs.2, ht, hf], hm⟩

theorem logicalLines_entryLine (n : Nat) (entry : String × String) (rest : List (List Char)) :
    logicalLines n none (entryLine entry :: rest) =
      ⟨n, entryLine entry⟩ :: logicalLines (n + 1) none rest := by
  obtain ⟨c, more, he, hb, hm⟩ := entryLine_head entry
  have hblanks : dropBlanks (entryLine entry) = entryLine entry := he ▸ dropBlanks_cons hb more
  have hignored : isIgnored (entryLine entry) = false := by simp [he, isIgnored, hm]
  simp [logicalLines, hblanks, hignored, entryLine_not_continues]

theorem splitEntry_entryLine (entry : String × String) :
    splitEntry (entryLine entry) =
      (renderKey entry.1.toList, renderValue entry.2.toList) := by
  have hkey := (renderKey_spells entry.1.toList).splitKey (c := '=') (by decide)
    (renderValue entry.2.toList)
  have hgap : dropBlanks ('=' :: renderValue entry.2.toList) = '=' :: renderValue entry.2.toList :=
    dropBlanks_cons (by decide) _
  have hseparator : dropSeparator ('=' :: renderValue entry.2.toList) =
      renderValue entry.2.toList := rfl
  rw [splitEntry, entryLine, hkey]
  simp only [hgap, hseparator, dropBlanks_renderValue]

theorem readEntry_entryLine (n : Nat) (entry : String × String) :
    readEntry ⟨n, entryLine entry⟩ = .ok entry := by
  have hkey := (renderKey_spells entry.1.toList).unescape
  have hvalue := (renderValue_spells entry.2.toList).unescape
  simp only [readEntry, splitEntry_entryLine, unescapeText, hkey, hvalue, String.ofList_toList]
  rfl

theorem readInto_entryLines (entries : List (String × String)) (n : Nat) (s : Store String) :
    readInto s (logicalLines n none (entries.map entryLine)) = .ok (s.insertAll entries) := by
  induction entries generalizing n s with
  | nil => rfl
  | cons entry rest ih =>
    rw [List.map_cons, logicalLines_entryLine, readInto, readEntry_entryLine]
    exact ih (n + 1) (s.insert entry.1 entry.2)

theorem lines_renderEntries (entries : List (String × String)) :
    Text.lines (entries.flatMap renderEntry) = entries.map entryLine := by
  induction entries with
  | nil => rfl
  | cons entry rest ih =>
    have hentry : renderEntry entry = entryLine entry ++ ['\n'] := rfl
    rw [List.flatMap_cons, hentry, List.append_assoc, List.singleton_append,
      (entryLine_unbroken entry).lines_cons, ih, List.map_cons]

/-- Every document that is written from entries reads back as these entries in their order. -/
theorem parse_render (entries : Store String) : parse (render entries) = .ok entries := by
  rw [parse, render, String.toList_ofList, lines_renderEntries, readInto_entryLines]
  exact congrArg Except.ok (Store.ofList_entries entries)

end Conform.Properties
