import Conform.Proofs.Properties.Codes
import Conform.Proofs.Properties.Reading
import Conform.Proofs.Store.Writes
import Conform.Proofs.Traversal

namespace Conform.Properties

variable {n : Nat} {opened : Option LogicalLine} {lines : List (List Char)}
  {before after : List LogicalLine} {line : LogicalLine} {failure : LoadFailure}

/-- The entries of a document as they are written. -/
def entryLines (text : String) : List LogicalLine := logicalLines 1 none (Text.lines text.toList)

/-- The key or the value of an entry has an escape with no code behind it. -/
def LogicalLine.HasMiscode (isCode : List Char → Prop) (line : LogicalLine)
    (digits : List Char) : Prop :=
  Properties.HasMiscode isCode (splitEntry line.text).1 digits ∨
    Properties.HasMiscode isCode (splitEntry line.text).2 digits

theorem readEntry_eq (line : LogicalLine) :
    readEntry line = unescapeText line.number (splitEntry line.text).1 >>= fun key =>
      unescapeText line.number (splitEntry line.text).2 >>= fun value => .ok (key, value) := rfl

theorem readEntry_cases (line : LogicalLine) :
    (∃ entry, readEntry line = .ok entry ∧ ∀ digits, ¬ line.HasMiscode ReadsAsCode digits) ∨
      ∃ digits, readEntry line = .error (.malformedEscape line.number (String.ofList digits)) ∧
        line.HasMiscode ReadsAsCode digits := by
  rw [readEntry_eq, unescapeText, unescapeText]
  rcases unescape_cases (splitEntry line.text).1 with ⟨key, hkey, hnone⟩ | ⟨digits, hkey, hsome⟩
  · rcases unescape_cases (splitEntry line.text).2 with
      ⟨value, hvalue, hnone'⟩ | ⟨digits, hvalue, hsome⟩
    · refine .inl ⟨(String.ofList key, String.ofList value), by rw [hkey, hvalue]; rfl, ?_⟩
      rintro digits (hmiscode | hmiscode)
      · exact hnone digits hmiscode
      · exact hnone' digits hmiscode
    · exact .inr ⟨digits, by rw [hkey, hvalue]; rfl, .inr hsome⟩
  · exact .inr ⟨digits, by rw [hkey]; rfl, .inl hsome⟩

theorem readEntry_ok {entry : String × String} (h : readEntry line = .ok entry)
    (digits : List Char) : ¬ line.HasMiscode ReadsAsCode digits := by
  rcases readEntry_cases line with ⟨_, -, hnone⟩ | ⟨_, herror, -⟩
  · exact hnone digits
  · rw [h] at herror
    cases herror

theorem readEntry_error (h : readEntry line = .error failure) :
    ∃ digits, failure = .malformedEscape line.number (String.ofList digits) ∧
      line.HasMiscode ReadsAsCode digits := by
  rcases readEntry_cases line with ⟨_, hread, -⟩ | ⟨digits, herror, hsome⟩
  · rw [h] at hread
    cases hread
  · rw [h] at herror
    exact ⟨digits, Except.error.inj herror, hsome⟩

/-- The entries are read one by one and then written into the store. -/
theorem readInto_eq (s : Store String) (lines : List LogicalLine) :
    readInto s lines = (lines.mapM readEntry).map s.insertAll := by
  induction lines generalizing s with
  | nil => rfl
  | cons line rest ih =>
    rw [readInto, List.mapM_cons]
    cases readEntry line with
    | error failure => rfl
    | ok entry =>
      change readInto (s.insert entry.1 entry.2) rest = _
      rw [ih]
      cases hrest : rest.mapM readEntry <;> rfl

theorem parse_eq (text : String) :
    parse text = ((entryLines text).mapM readEntry).map (∅ : Store String).insertAll :=
  readInto_eq ..

theorem parse_error {text : String} :
    parse text = .error failure ↔ (entryLines text).mapM readEntry = .error failure := by
  rw [parse_eq]
  cases (entryLines text).mapM readEntry <;> simp [Except.map]

/-- What a physical line does: it is left out, or it begins or continues a logical line, which ends
with it or stays open. -/
theorem logicalLines_step (n : Nat) (opened : Option LogicalLine) (raw : List Char) :
    (opened = none ∧
      ∀ back, logicalLines n opened (raw :: back) = logicalLines (n + 1) none back) ∨
    ∃ current : LogicalLine,
      (opened = none ∧ isIgnored (dropBlanks raw) = false ∧ current.number = n ∨
        ∃ first, opened = some first ∧ current.number = first.number) ∧
      ((∀ back, logicalLines n opened (raw :: back) =
          current :: logicalLines (n + 1) none back) ∨
        ∀ back, logicalLines n opened (raw :: back) =
          logicalLines (n + 1) (some current) back) := by
  by_cases hignored : opened = none ∧ isIgnored (current n opened raw).text = true
  · refine .inl ⟨hignored.1, fun back => ?_⟩
    rw [logicalLines_cons, step, if_pos hignored]
    rfl
  · have hcurrent : opened = none ∧ isIgnored (dropBlanks raw) = false ∧
          (current n opened raw).number = n ∨
        ∃ first, opened = some first ∧ (current n opened raw).number = first.number := by
      cases opened with
      | none => exact .inl ⟨rfl, by simpa [current] using hignored, rfl⟩
      | some first => exact .inr ⟨first, rfl, rfl⟩
    by_cases hcontinues : continues (current n opened raw).text = true
    · refine .inr ⟨⟨(current n opened raw).number, (current n opened raw).text.dropLast⟩,
        hcurrent, .inr fun back => ?_⟩
      rw [logicalLines_cons, step, if_neg hignored, if_pos hcontinues]
      rfl
    · refine .inr ⟨current n opened raw, hcurrent, .inl fun back => ?_⟩
      rw [logicalLines_cons, step, if_neg hignored, if_neg hcontinues]
      rfl

/-- A logical line begins at a physical line that is neither empty nor a comment and has its number;
the physical lines before this one make up the logical lines before. -/
def Begins (n : Nat) (opened : Option LogicalLine) (lines : List (List Char))
    (before : List LogicalLine) (line : LogicalLine) (after : List LogicalLine) : Prop :=
  ∃ front raw back, lines = front ++ raw :: back ∧ isIgnored (dropBlanks raw) = false ∧
    line.number = n + front.length ∧ logicalLines n opened front = before ∧
    logicalLines line.number none (raw :: back) = line :: after

theorem Begins.later {opened' : Option LogicalLine} {raw : List Char} (ended : List LogicalLine)
    (h : Begins (n + 1) opened' lines before line after)
    (hstep : ∀ back, logicalLines n opened (raw :: back) =
      ended ++ logicalLines (n + 1) opened' back) :
    Begins n opened (raw :: lines) (ended ++ before) line after := by
  obtain ⟨front, raw', back, rfl, hraw, hn, rfl, hrest⟩ := h
  refine ⟨raw :: front, raw', back, rfl, hraw, ?_, hstep front, hrest⟩
  rw [hn, List.length_cons, Nat.add_assoc, Nat.add_comm 1]

theorem begins_of_eq_append (h : logicalLines n opened lines = before ++ line :: after) :
    (∃ first, opened = some first ∧ before = [] ∧ line.number = first.number) ∨
      Begins n opened lines before line after := by
  induction lines generalizing n opened before with
  | nil =>
    cases opened with
    | none => cases before <;> cases h
    | some first =>
      cases before with
      | nil =>
        cases h
        exact .inl ⟨_, rfl, rfl, rfl⟩
      | cons b before => cases before <;> cases h
  | cons raw rest ih =>
    obtain ⟨rfl, hstep⟩ | ⟨current, hcurrent, hstep⟩ := logicalLines_step n opened raw
    · rw [hstep] at h
      obtain ⟨_, hopened, -⟩ | hbegins := ih h
      · cases hopened
      · exact .inr (hbegins.later [] hstep)
    · -- The line is the current one, which begins here or is the one open at the start.
      have hhere (hbefore : before = []) (hnumber : line.number = current.number) :
          (∃ first, opened = some first ∧ before = [] ∧ line.number = first.number) ∨
            Begins n opened (raw :: rest) before line after := by
        subst hbefore
        obtain ⟨rfl, hraw, hn⟩ | ⟨first, rfl, hfirst⟩ := hcurrent
        · have hline := hnumber.trans hn
          exact .inr ⟨[], raw, rest, rfl, hraw, hline, rfl, hline ▸ h⟩
        · exact .inl ⟨first, rfl, rfl, hnumber.trans hfirst⟩
      obtain hstep | hstep := hstep
      · cases before with
        | nil =>
          have hline := (List.cons.inj ((hstep rest).symm.trans h)).1
          exact hhere rfl (congrArg _ hline.symm)
        | cons b before =>
          obtain ⟨rfl, hrest⟩ := List.cons.inj ((hstep rest).symm.trans h)
          obtain ⟨_, hopened, -⟩ | hbegins := ih hrest
          · cases hopened
          · exact .inr (hbegins.later [current] hstep)
      · obtain ⟨_, hopened, hbefore, hnumber⟩ | hbegins := ih ((hstep rest).symm.trans h)
        · cases hopened
          exact hhere hbefore hnumber
        · exact .inr (hbegins.later [] hstep)

theorem readEntry_error_iff (line : LogicalLine) :
    (∃ failure, readEntry line = .error failure) ↔ ∃ digits, line.HasMiscode ReadsAsCode digits := by
  constructor
  · rintro ⟨failure, h⟩
    obtain ⟨digits, -, hmiscode⟩ := readEntry_error h
    exact ⟨digits, hmiscode⟩
  · rintro ⟨digits, hmiscode⟩
    cases hline : readEntry line with
    | error failure => exact ⟨failure, rfl⟩
    | ok entry => exact absurd hmiscode (readEntry_ok hline digits)

/-- Reading a document fails if an entry has an escape of a code with no code behind it, and
otherwise it gives a store. The failure shows what stands behind such an escape of the first such
entry, and the number of the line on which this entry begins. -/
theorem parse_fails_iff_miscode (text : String) :
    ((∃ failure, parse text = .error failure) ↔
        ∃ line ∈ entryLines text, ∃ digits, line.HasMiscode ReadsAsCode digits) ∧
      ((∃ entries, parse text = .ok entries) ↔
        ∀ line ∈ entryLines text, ∀ digits, ¬ line.HasMiscode ReadsAsCode digits) ∧
      ∀ failure, parse text = .error failure → ∃ before line after digits,
        entryLines text = before ++ line :: after ∧
        failure = .malformedEscape line.number (String.ofList digits) ∧
        line.HasMiscode ReadsAsCode digits ∧
        (∀ earlier ∈ before, ∀ digits, ¬ earlier.HasMiscode ReadsAsCode digits) ∧
        Begins 1 none (Text.lines text.toList) before line after := by
  have hfails : (∃ failure, parse text = .error failure) ↔
      ∃ line ∈ entryLines text, ∃ digits, line.HasMiscode ReadsAsCode digits := by
    simp only [← readEntry_error_iff, parse_error]
    constructor
    · rintro ⟨failure, h⟩
      obtain ⟨before, line, after, hlines, hline, -⟩ := mapM_error_iff.1 h
      exact ⟨line, by simp [hlines], failure, hline⟩
    · rintro ⟨line, hline, failure, h⟩
      exact mapM_error_of_mem hline h
  refine ⟨hfails, ?_, ?_⟩
  · have hreads : (∃ entries, parse text = .ok entries) ↔
        ¬ ∃ failure, parse text = .error failure := by
      cases parse text <;> simp
    rw [hreads, hfails]
    simp only [not_exists, not_and]
  · intro failure h
    obtain ⟨before, line, after, hlines, hline, hbefore⟩ := mapM_error_iff.1 (parse_error.1 h)
    obtain ⟨digits, hfailure, hmiscode⟩ := readEntry_error hline
    refine ⟨before, line, after, digits, hlines, hfailure, hmiscode, ?_, ?_⟩
    · intro earlier hearlier
      obtain ⟨entry, hentry⟩ := hbefore earlier hearlier
      exact readEntry_ok hentry
    · exact (begins_of_eq_append hlines).resolve_left (by simp)

/-- A plus sign and three digits are read as a code, which they are not. -/
theorem parse_reads_signed_code :
    (∃ line ∈ entryLines "k=\\u+041", line.HasMiscode IsCode ['+', '0', '4', '1']) ∧
      parse "k=\\u+041" = .ok ((∅ : Store String).insert "k" "A") := by
  have hlines : entryLines "k=\\u+041" = [⟨1, "k=\\u+041".toList⟩] := by decide
  refine ⟨⟨_, by rw [hlines]; exact List.mem_cons_self, .inr ⟨[], "+041".toList, ?_⟩⟩, rfl⟩
  refine ⟨?_, rfl, rfl, ?_⟩
  · decide
  · rintro ⟨-, hdigits, -⟩
    exact absurd (hdigits '+' List.mem_cons_self) (by decide)

end Conform.Properties
