import Conform.Text.Split

namespace Conform.Text

def dropReturn (line : List Char) : List Char :=
  if line.getLast? = some '\r' then line.dropLast else line

/-- The lines of a text in pieces between its line feeds. -/
def linesOfPieces : List (List Char) → List (List Char)
  | [] => []
  | [last] => if last.isEmpty then [] else [last]
  | piece :: rest => dropReturn piece :: linesOfPieces rest

def lines (text : List Char) : List (List Char) := linesOfPieces (pieces '\n' text)

theorem dropReturn_of_not_mem {line : List Char} (h : '\r' ∉ line) : dropReturn line = line := by
  rw [dropReturn, if_neg]
  exact fun hlast => h (List.mem_of_getLast? hlast)

theorem linesOfPieces_append (front : List (List Char)) {back : List (List Char)} (h : back ≠ []) :
    linesOfPieces (front ++ back) = front.map dropReturn ++ linesOfPieces back := by
  induction front with
  | nil => rfl
  | cons piece front ih =>
    rw [List.cons_append, linesOfPieces, ih]
    · rfl
    · exact fun hnil => h (List.append_eq_nil_iff.1 hnil).2

theorem lines_feed (front back : List Char) :
    lines (front ++ '\n' :: back) = (pieces '\n' front).map dropReturn ++ lines back := by
  rw [lines, lines, pieces_append_cons, linesOfPieces_append _ (pieces_ne_nil _ _)]

theorem lines_cons {line : List Char} (h : '\n' ∉ line) (rest : List Char) :
    lines (line ++ '\n' :: rest) = dropReturn line :: lines rest := by
  rw [lines_feed, pieces_of_not_mem h, List.map_singleton, List.singleton_append]

theorem lines_of_not_mem {line : List Char} (h : '\n' ∉ line) (hne : line ≠ []) :
    lines line = [line] := by
  rw [lines, pieces_of_not_mem h, linesOfPieces, if_neg (by simpa using hne)]

theorem lines_append {front : List Char} (h : ∀ c ∈ front.getLast?, c = '\n') (back : List Char) :
    lines (front ++ back) = lines front ++ lines back := by
  cases hlast : front.getLast? with
  | none =>
    rw [List.getLast?_eq_none_iff.1 hlast]
    rfl
  | some c =>
    obtain ⟨front, rfl⟩ := List.getLast?_eq_some_iff.1 hlast
    rw [h c hlast, List.append_assoc, List.singleton_append, lines_feed, lines_feed,
      List.append_assoc]
    rfl

end Conform.Text
