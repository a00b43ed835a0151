import Conform.Proofs.Properties.Failure
import Conform.Proofs.Properties.Splitting

namespace Conform.Properties

variable {text read rest line part digits : List Char}

theorem ReadsAsCode.not_continues (h : ReadsAsCode digits) : continues digits = false := by
  apply continues_of_not_mem
  intro hmem
  exact h.ne_backslash hmem rfl

theorem continues_code {a b c d char : Char} (h : charOfDigits? [a, b, c, d] = some char)
    (rest : List Char) :
    continues ('\\' :: 'u' :: a :: b :: c :: d :: rest) = continues rest := by
  have hcode : ReadsAsCode [a, b, c, d] := readsAsCode_of_eq_some rfl h
  rw [continues_pair]
  exact continues_append hcode.not_continues rest

/-- Every backslash is read with the character behind it, so that the run at the end stays odd or
even. -/
theorem ReadsTo.continues_eq (h : ReadsTo text read rest) : continues rest = continues text := by
  induction h with
  | start => rfl
  | plain hc _ ih => rw [continues_cons hc, ih]
  | escape _ _ ih => rw [continues_pair, ih]
  | code hchar _ ih => rw [continues_code hchar, ih]

theorem not_readsTo_backslash (h : continues text = false) (read : List Char) :
    ¬ ReadsTo text read ['\\'] := by
  intro hreads
  have hlone := hreads.continues_eq
  rw [h] at hlone
  cases hlone

theorem unescape_ends (h : continues text = false) :
    (∃ read, ReadsTo text read [] ∧ unescape text = .ok read) ∨
      ∃ read behind, ReadsTo text read ('\\' :: 'u' :: behind) ∧ ¬ ReadsAsCode (behind.take 4) ∧
        unescape text = .error (behind.take 4) := by
  obtain ⟨read, rest, hreads, rfl | rfl | ⟨behind, rfl, hcode⟩⟩ := exists_readsTo text
  · exact .inl ⟨read, hreads, unescape_of_readsTo_end hreads⟩
  · exact absurd hreads (not_readsTo_backslash h read)
  · exact .inr ⟨read, behind, hreads, hcode, unescape_of_readsTo_miscode hreads hcode⟩

theorem unescape_ok_iff (h : continues text = false) :
    unescape text = .ok read ↔ ReadsTo text read [] := by
  constructor
  · intro hread
    obtain ⟨read', hreads, hok⟩ | ⟨-, behind, -, -, herror⟩ := unescape_ends h
    · rw [hread] at hok
      rwa [Except.ok.inj hok]
    · rw [hread] at herror
      cases herror
  · exact unescape_of_readsTo_end

/-- The texts of an entry that have escapes to read: its key and its value as written. -/
def LogicalLine.parts (line : LogicalLine) : List (List Char) :=
  [(splitEntry line.text).1, (splitEntry line.text).2]

/-- The parts of an entry, read to their ends, make up the given key and value. -/
def LogicalLine.ReadsAs (line : LogicalLine) (entry : String × String) : Prop :=
  ReadsTo (splitEntry line.text).1 entry.1.toList [] ∧
    ReadsTo (splitEntry line.text).2 entry.2.toList []

theorem continues_dropSeparator (rest : List Char) :
    continues (dropSeparator rest) = continues rest := by
  cases rest with
  | nil => rfl
  | cons c rest =>
    rw [dropSeparator]
    split
    next hc =>
      have hb : c ≠ '\\' := by
        rintro rfl
        cases hc
      exact (continues_cons hb rest).symm
    next => rfl

theorem not_continues_splitKey (h : continues line = false) :
    continues (splitKey line).1 = false ∧ continues (splitKey line).2 = false := by
  obtain ⟨hline, -, hleaves⟩ := splitKey_spec line
  rcases hleaves with hnil | ⟨hkey, -⟩
  · rw [hnil, List.append_nil] at hline
    rw [← hline, hnil]
    exact ⟨h, rfl⟩
  · rw [hline, continues_append hkey] at h
    exact ⟨hkey, h⟩

theorem not_continues_of_mem_parts {line : LogicalLine} (h : continues line.text = false)
    (hpart : part ∈ line.parts) : continues part = false := by
  obtain ⟨hkey, hrest⟩ := not_continues_splitKey h
  rcases List.mem_pair.1 hpart with rfl | rfl
  · exact hkey
  · -- Blanks and a separator in front of the value do not count for its end.
    change continues (dropBlanks (dropSeparator (dropBlanks (splitKey line.text).2))) = false
    rw [continues_dropBlanks, continues_dropSeparator, continues_dropBlanks]
    exact hrest

theorem unescapeText_ok_iff {n : Nat} {s : String} :
    unescapeText n text = .ok s ↔ unescape text = .ok s.toList := by
  rw [unescapeText]
  cases unescape text with
  | error digits => simp
  | ok read =>
    rw [Except.ok.injEq, Except.ok.injEq]
    constructor
    · intro h
      rw [← h, String.toList_ofList]
    · intro h
      rw [h, String.ofList_toList]

theorem readEntry_ok_iff {line : LogicalLine} (h : continues line.text = false)
    (entry : String × String) : readEntry line = .ok entry ↔ line.ReadsAs entry := by
  have hkey : continues (splitEntry line.text).1 = false :=
    not_continues_of_mem_parts h List.mem_cons_self
  have hvalue : continues (splitEntry line.text).2 = false :=
    not_continues_of_mem_parts h (List.mem_cons_of_mem _ List.mem_cons_self)
  rw [LogicalLine.ReadsAs, ← unescape_ok_iff hkey, ← unescape_ok_iff hvalue,
    ← unescapeText_ok_iff (n := line.number),
    ← unescapeText_ok_iff (n := line.number), readEntry_eq]
  cases unescapeText line.number (splitEntry line.text).1 with
  | error failure => simp [bind, Except.bind]
  | ok key =>
    cases unescapeText line.number (splitEntry line.text).2 with
    | error failure => simp [bind, Except.bind]
    | ok value => simp [bind, Except.bind, Prod.ext_iff]

theorem not_continues_of_mem_entryLines {s : String} {line : LogicalLine}
    (h : line ∈ entryLines s) : continues line.text = false :=
  not_continues_of_mem_logicalLines settled_none h

theorem parse_ok_iff {s : String} {entries : Store String} :
    parse s = .ok entries ↔
      ∃ read, List.Forall₂ LogicalLine.ReadsAs (entryLines s) read ∧
        entries = Store.ofList read := by
  have hread (read : List (String × String)) : (entryLines s).mapM readEntry = .ok read ↔
      List.Forall₂ LogicalLine.ReadsAs (entryLines s) read := by
    rw [mapM_ok_iff]
    apply forall₂_congr_of_mem
    intro line hline
    exact readEntry_ok_iff (not_continues_of_mem_entryLines hline)
  simp only [← hread]
  rw [parse_eq]
  constructor
  · intro h
    obtain ⟨read, hmapM, rfl⟩ := map_eq_ok h
    exact ⟨read, hmapM, rfl⟩
  · rintro ⟨read, hmapM, rfl⟩
    rw [hmapM]
    rfl

/-- Neither the key nor the value of an entry ends in a backslash that stands alone, so reading its
escapes never gets to one at the end: it gets to the end with every character read, or it fails at an
escape with no code behind it. What a document gives is what its keys and values stand for, read to
their ends. -/
theorem parse_reads_whole_parts (s : String) :
    (∀ line ∈ entryLines s, ∀ part ∈ line.parts,
      continues part = false ∧ (∀ read, ¬ ReadsTo part read ['\\']) ∧
        ((∃ read, ReadsTo part read [] ∧ unescape part = .ok read) ∨
          ∃ read behind, ReadsTo part read ('\\' :: 'u' :: behind) ∧
            ¬ ReadsAsCode (behind.take 4) ∧ unescape part = .error (behind.take 4))) ∧
    ∀ entries, parse s = .ok entries ↔
      ∃ read, List.Forall₂ LogicalLine.ReadsAs (entryLines s) read ∧
        entries = Store.ofList read := by
  refine ⟨?_, fun _ => parse_ok_iff⟩
  intro line hline part hpart
  have hends := not_continues_of_mem_parts (not_continues_of_mem_entryLines hline) hpart
  exact ⟨hends, not_readsTo_backslash hends, unescape_ends hends⟩

/-- Of the backslashes that end its two lines, one each is no part of the entry; all others are read
in pairs, or with the code of a backslash. -/
theorem parse_reads_whole_parts_folder :
    entryLines "dir\\\\\\\n  \\\\=C:\\\\x\\u005c\\" =
        [⟨1, "dir\\\\\\\\=C:\\\\x\\u005c".toList⟩] ∧
      (∀ read, ¬ ReadsTo "dir\\\\\\\\".toList read ['\\']) ∧
      ReadsTo "C:\\\\x\\u005c".toList "C:\\x\\".toList [] ∧
      parse "dir\\\\\\\n  \\\\=C:\\\\x\\u005c\\" =
        .ok (Store.ofList [("dir\\\\", "C:\\x\\")]) := by
  have hlines : entryLines "dir\\\\\\\n  \\\\=C:\\\\x\\u005c\\" =
      [⟨1, "dir\\\\\\\\=C:\\\\x\\u005c".toList⟩] := by decide
  obtain ⟨hparts, hparse⟩ := parse_reads_whole_parts "dir\\\\\\\n  \\\\=C:\\\\x\\u005c\\"
  rw [hlines] at hparts hparse
  have hline := hparts _ List.mem_cons_self
  obtain ⟨hkey, hlone, -⟩ := hline "dir\\\\\\\\".toList (by decide)
  obtain ⟨hvalue, -, -⟩ := hline "C:\\\\x\\u005c".toList (by decide)
  have hreads : ReadsTo "C:\\\\x\\u005c".toList "C:\\x\\".toList [] :=
    (unescape_ok_iff hvalue).1 rfl
  refine ⟨hlines, hlone, hreads, (hparse _).2 ⟨_, ?_, rfl⟩⟩
  exact .cons ⟨(unescape_ok_iff hkey).1 rfl, hreads⟩ .nil

end Conform.Properties
