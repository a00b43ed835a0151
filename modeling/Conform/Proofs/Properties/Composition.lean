import Conform.Proofs.Properties.Failure
import Conform.Proofs.Properties.Reading
import Conform.Proofs.Properties.RoundTrip
import Conform.Proofs.Store.Merge

namespace Conform

def LoadFailure.renumber (f : Nat → Nat) : LoadFailure → LoadFailure
  | malformedEscape line digits => malformedEscape (f line) digits
  | failure => failure

namespace Properties

theorem unescapeText_renumber (f : Nat → Nat) (line : Nat) (text : List Char) :
    unescapeText (f line) text = (unescapeText line text).mapError (·.renumber f) := by
  rw [unescapeText, unescapeText]
  cases unescape text <;> rfl

theorem readEntry_renumber (f : Nat → Nat) (line : LogicalLine) :
    readEntry (line.renumber f) = (readEntry line).mapError (·.renumber f) := by
  rw [readEntry_eq, readEntry_eq, LogicalLine.renumber, unescapeText_renumber,
    unescapeText_renumber]
  cases unescapeText line.number (splitEntry line.text).1 with
  | error failure => rfl
  | ok key => cases unescapeText line.number (splitEntry line.text).2 <;> rfl

theorem mapM_renumber (f : Nat → Nat) (lines : List LogicalLine) :
    (lines.map (·.renumber f)).mapM readEntry =
      (lines.mapM readEntry).mapError (·.renumber f) := by
  induction lines with
  | nil => rfl
  | cons line rest ih =>
    rw [List.map_cons, List.mapM_cons, List.mapM_cons, ih, readEntry_renumber]
    cases readEntry line with
    | error failure => rfl
    | ok entry => cases rest.mapM readEntry <;> rfl

/-- A text in which every line has ended, the last one without going on behind it. -/
def HasEnded (text : List Char) : Prop :=
  (∀ c ∈ text.getLast?, c = '\n') ∧ ∀ line ∈ (Text.lines text).getLast?, continues line = false

theorem entryLines_append {a : String} (h : HasEnded a.toList) (b : String) :
    entryLines (a ++ b) =
      entryLines a ++ (entryLines b).map (·.renumber (· + (Text.lines a.toList).length)) := by
  have hlater := logicalLines_renumber (n := 1) (f := (· + (Text.lines a.toList).length))
    (fun i => Nat.add_right_comm ..) none (Text.lines b.toList)
  rw [entryLines, String.toList_append, Text.lines_append h.1,
    logicalLines_append settled_none (fun _ => rfl) h.2]
  exact congrArg _ hlater

/-- A document behind one that has ended is read as it is alone, but for the numbers of its lines:
the first failure is that of the document, and its entries are written over those before. -/
theorem parse_append {a : String} (h : HasEnded a.toList) (b : String) :
    parse (a ++ b) = do
      let entries ← parse a
      let more ← (parse b).mapError (·.renumber (· + (Text.lines a.toList).length))
      return entries.merge more := by
  rw [parse_eq, parse_eq, parse_eq, entryLines_append h, List.mapM_append, mapM_renumber]
  cases (entryLines a).mapM readEntry with
  | error failure => rfl
  | ok entries =>
    cases (entryLines b).mapM readEntry with
    | error failure => rfl
    | ok more =>
      change Except.ok ((∅ : Store String).insertAll (entries ++ more)) =
        .ok (((∅ : Store String).insertAll entries).merge (Store.ofList more))
      rw [Store.merge_ofList, Store.insertAll_append]

theorem parse_append_ports :
    HasEnded "host=a\nport=1\\\r\n  2\n".toList ∧
      parse ("host=a\nport=1\\\r\n  2\n" ++ "user=x\nport=3") =
        .ok (Store.ofList [("host", "a"), ("port", "3"), ("user", "x")]) ∧
      parse ("host=a\nport=1\\\r\n  2\n" ++ "user=x\nport=\\u00g0") =
        .error (.malformedEscape 5 "00g0") := by
  have h : HasEnded "host=a\nport=1\\\r\n  2\n".toList := by
    constructor
    · rintro c ⟨⟩
      rfl
    · rintro line ⟨⟩
      rfl
  refine ⟨h, ?_, ?_⟩
  · rw [parse_append h]
    rfl
  · rw [parse_append h]
    rfl

section Continued

variable {line front gap back : List Char}

theorem ne_nil_of_isIgnored (h : isIgnored line = false) : line ≠ [] := by
  rintro rfl
  cases h

theorem isIgnored_append (h : isIgnored front = false) (back : List Char) :
    isIgnored (front ++ back) = false := by
  cases front with
  | nil => cases h
  | cons c front => exact h

theorem dropBlanks_append (h : dropBlanks front ≠ []) (back : List Char) :
    dropBlanks (front ++ back) = dropBlanks front ++ back := by
  rw [dropBlanks, List.dropWhile_append, if_neg]
  · rfl
  · rwa [List.isEmpty_iff]

theorem dropBlanks_gap (hgap : ∀ c ∈ gap, isBlank c = true)
    (hback : ∀ c ∈ back.head?, isBlank c = false) : dropBlanks (gap ++ back) = back := by
  rw [dropBlanks, List.dropWhile_append_of_pos hgap]
  cases back with
  | nil => rfl
  | cons c rest => exact dropBlanks_cons (hback c rfl) rest

theorem unbroken_of_blank (h : ∀ c ∈ gap, isBlank c = true) : Unbroken gap := by
  constructor
  · intro hmem
    cases h _ hmem
  · intro hmem
    cases h _ hmem

/-- A line that is broken off begins an entry, less the backslash. -/
theorem step_continued (hentry : isIgnored (dropBlanks front) = false)
    (heven : continues front = false) (n : Nat) :
    step n none (front ++ ['\\']) = (none, some ⟨n, dropBlanks front⟩) := by
  rw [step, current]
  simp only [dropBlanks_append (ne_nil_of_isIgnored hentry), isIgnored_append hentry,
    continues_concat, continues_dropBlanks, heven]
  simp

/-- The rest of a broken line does what the whole line does. -/
theorem step_continuation (hentry : isIgnored (dropBlanks front) = false)
    (hgap : ∀ c ∈ gap, isBlank c = true) (hback : ∀ c ∈ back.head?, isBlank c = false)
    (n m : Nat) :
    step m (some ⟨n, dropBlanks front⟩) (gap ++ back) = step n none (front ++ back) := by
  rw [step, step, current, current]
  simp only [dropBlanks_append (ne_nil_of_isIgnored hentry), dropBlanks_gap hgap hback,
    isIgnored_append hentry]
  simp

/-- The number of a line once the first line is broken in two. -/
def afterBreak (n : Nat) : Nat := if n = 1 then 1 else n + 1

theorem logicalLines_continued (hentry : isIgnored (dropBlanks front) = false)
    (heven : continues front = false) (hgap : ∀ c ∈ gap, isBlank c = true)
    (hback : ∀ c ∈ back.head?, isBlank c = false) (rest : List (List Char)) :
    logicalLines 1 none ((front ++ ['\\']) :: (gap ++ back) :: rest) =
      (logicalLines 1 none ((front ++ back) :: rest)).map (·.renumber afterBreak) := by
  have hone : afterBreak 1 = 1 := rfl
  have hlater : ∀ i, afterBreak (2 + i) = 3 + i := by
    intro i
    rw [afterBreak, if_neg (by omega)]
    omega
  -- The entry on the first line keeps its number, whether it ends there or not.
  have hfirst := step_renumber hone none (front ++ back)
  rw [Option.map_none] at hfirst
  rw [logicalLines_cons, step_continued hentry heven, logicalLines_cons,
    step_continuation hentry hgap hback 1 2, logicalLines_cons, List.map_append,
    ← logicalLines_renumber hlater, ← Option.toList_map]
  generalize step 1 none (front ++ back) = stepped at hfirst ⊢
  obtain ⟨ended, left⟩ := stepped
  obtain ⟨hended, hleft⟩ := Prod.mk.inj hfirst
  rw [← hended, ← hleft]
  rfl

theorem logicalLines_last {entry : LogicalLine} (hentry : continues entry.text = false)
    (hline : Unbroken line) (n : Nat) :
    logicalLines n (some entry) (Text.lines line) = logicalLines n (some entry) [line] := by
  by_cases hempty : line = []
  · have hcurrent : current n (some entry) [] = entry := by
      rw [current, dropBlanks, List.dropWhile_nil, List.append_nil]
    rw [hempty, logicalLines_cons, step, hcurrent, hentry]
    rfl
  · rw [Text.lines_of_not_mem hline.1 hempty]

end Continued

variable {x y w r : String}

theorem entryLines_continued (hx : Unbroken x.toList) (hy : Unbroken y.toList)
    (hentry : isIgnored (dropBlanks x.toList) = false) (heven : continues x.toList = false)
    (hgap : ∀ c ∈ w.toList, isBlank c = true) (hback : ∀ c ∈ y.toList.head?, isBlank c = false)
    (hr : ∀ c ∈ r.toList.head?, c = '\n') :
    entryLines (x ++ "\\\n" ++ w ++ y ++ r) =
      (entryLines (x ++ y ++ r)).map (·.renumber afterBreak) := by
  have htext : (x ++ "\\\n" ++ w ++ y ++ r).toList =
      (x.toList ++ ['\\']) ++ '\n' :: (w.toList ++ y.toList ++ r.toList) := by
    simp
  have hfirst : Unbroken (x.toList ++ ['\\']) := hx.append (by decide)
  have hrest : Unbroken (w.toList ++ y.toList) := (unbroken_of_blank hgap).append hy
  rw [entryLines, entryLines, htext, hfirst.lines_cons, String.toList_append,
    String.toList_append]
  cases hlist : r.toList with
  | nil =>
    have hwhole : x.toList ++ y.toList ≠ [] := by
      intro hnil
      rw [(List.append_eq_nil_iff.1 hnil).1] at hentry
      cases hentry
    have hsettled : continues (dropBlanks x.toList) = false := by
      rw [continues_dropBlanks, heven]
    rw [List.append_nil, List.append_nil, Text.lines_of_not_mem (hx.append hy).1 hwhole,
      ← logicalLines_continued hentry heven hgap hback [], logicalLines_cons, logicalLines_cons,
      step_continued hentry heven]
    exact congrArg _ (logicalLines_last hsettled hrest 2)
  | cons c rest =>
    have hc : c = '\n' := hr c (by rw [hlist]; rfl)
    rw [hc, hrest.lines_cons, (hx.append hy).lines_cons]
    exact logicalLines_continued hentry heven hgap hback _

/-- An entry reads the same whether its line is broken in two by a backslash or not, and so does the
document: with the same entries, or with the same failure, which names the line below if it is not
the one that is broken. The rest of the line may stand behind blanks; it begins with none itself. -/
theorem parse_continued (hx : Unbroken x.toList) (hy : Unbroken y.toList)
    (hentry : isIgnored (dropBlanks x.toList) = false) (heven : continues x.toList = false)
    (hgap : ∀ c ∈ w.toList, isBlank c = true) (hback : ∀ c ∈ y.toList.head?, isBlank c = false)
    (hr : ∀ c ∈ r.toList.head?, c = '\n') :
    (∀ entries, parse (x ++ "\\\n" ++ w ++ y ++ r) = .ok entries ↔
      parse (x ++ y ++ r) = .ok entries) ∧
    ∀ failure, parse (x ++ y ++ r) = .error failure →
      parse (x ++ "\\\n" ++ w ++ y ++ r) = .error (failure.renumber afterBreak) := by
  have hparse : parse (x ++ "\\\n" ++ w ++ y ++ r) =
      (parse (x ++ y ++ r)).mapError (·.renumber afterBreak) := by
    rw [parse_eq, parse_eq, entryLines_continued hx hy hentry heven hgap hback hr, mapM_renumber]
    cases (entryLines (x ++ y ++ r)).mapM readEntry <;> rfl
  rw [hparse]
  constructor
  · intro entries
    cases parse (x ++ y ++ r) with
    | error failure => exact iff_of_false (by rintro ⟨⟩) (by rintro ⟨⟩)
    | ok read => rfl
  · intro failure h
    rw [h]
    rfl

theorem parse_continued_escape :
    continues "\\u00".toList = false ∧
      parse ("\\u00" ++ "\\\n" ++ " \t" ++ "41=1\\" ++ "\n2\nport=80") =
        .ok (Store.ofList [("A", "12"), ("port", "80")]) := by
  have heven : continues "\\u00".toList = false := by decide
  have h := parse_continued (x := "\\u00") (y := "41=1\\") (w := " \t") (r := "\n2\nport=80")
    (by decide) (by decide) (by decide) heven (List.all_eq_true.1 rfl) (by rintro c ⟨⟩; rfl)
    (by rintro c ⟨⟩; rfl)
  exact ⟨heven, (h.1 _).2 rfl⟩

end Properties

end Conform
