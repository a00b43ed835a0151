import Conform.Unicode.CaseFolding
import Conform.Unicode.CaseMapping

namespace Conform.Unicode.CaseChange

def singles (codes : List Nat) : Ranges := codes.map fun n => (n, n)

def lowercased : Ranges :=
  Ranges.normalize (singles (0x130 :: (CaseMapping.lowerRuns.flatMap Run.pairs).map (·.1)))

def uppercased : Ranges :=
  Ranges.normalize
    (singles ((CaseMapping.upperRuns.flatMap Run.pairs).map (·.1) ++
      CaseMapping.upperLong.map (·.1)))

/-- Title case is upper case except that a letter pair keeps its second letter small, and that
Georgian letters stay small. -/
def titlecased : Ranges :=
  Ranges.union (Table.ranges "1C4 1C7 1CA 1F1")
    (Ranges.difference uppercased
      (GeneralCategory.union [GeneralCategory.titlecaseLetter, "10D0-10FA 10FD-10FF"]))

def casemapped : Ranges := Ranges.union lowercased uppercased

def longFolding : String :=
  "DF 130 149 587 1E9A 1F80-1F87 1F90-1F97 1FA0-1FA7 1FB2-1FB4 1FB7 1FC2-1FC4 1FC7 1FF2-1FF4 1FF7
  FB00-FB06 FB13-FB17"

/-- Characters that fold to another one, but of which nothing folds once they are taken apart. -/
def foldedOnlyWhole : String := "1FBE 1FD3 1FE3"

/-- Folding counts after a character is taken apart. -/
def folded : Ranges :=
  Ranges.difference
    (Ranges.union (singles (CaseFolding.pairs.map (·.1))) (Table.ranges longFolding))
    (Table.ranges foldedOnlyWhole)

def byName? : (name : String) → Option Ranges
  | "changeswhenlowercased" | "cwl" => some lowercased
  | "changeswhenuppercased" | "cwu" => some uppercased
  | "changeswhentitlecased" | "cwt" => some titlecased
  | "changeswhencasemapped" | "cwcm" => some casemapped
  | "changeswhencasefolded" | "cwcf" => some folded
  | _ => none

end Conform.Unicode.CaseChange
