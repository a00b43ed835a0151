import Conform.Unicode.Age
import Conform.Unicode.CaseChange
import Conform.Unicode.ScriptExtension
import Conform.Unicode.TextBoundary

namespace Conform.Unicode.Property

def normalizeName (name : String) : String :=
  let plain (cs : List Char) : List Char :=
    (cs.filter fun c => c.toNat < 128 && c ∉ [' ', '_', '-']).map Char.toLower
  match name.toList with
  | i :: s :: rest =>
    if i ∈ ['i', 'I'] ∧ s ∈ ['s', 'S'] then
      let bare := plain rest
      String.ofList (if bare = ['c'] then ['i', 's', 'c'] else bare)
    else String.ofList (plain (i :: s :: rest))
  | short => String.ofList (plain short)

def generalCategory? (name : String) : Option Ranges :=
  let table (t : String) : Option Ranges := some (Ranges.normalize (Table.ranges t))
  match name with
  | "any" => some [(0, 0xD7FF), (0xE000, 0x10FFFF)]
  | "assigned" => some GeneralCategory.assigned
  | "ascii" => some [(0, 0x7F)]
  | "lu" | "uppercaseletter" => table GeneralCategory.uppercaseLetter
  | "ll" | "lowercaseletter" => table GeneralCategory.lowercaseLetter
  | "lt" | "titlecaseletter" => table GeneralCategory.titlecaseLetter
  | "lc" | "casedletter" => some GeneralCategory.casedLetter
  | "lm" | "modifierletter" => table GeneralCategory.modifierLetter
  | "lo" | "otherletter" => table GeneralCategory.otherLetter
  | "l" | "letter" => some GeneralCategory.letter
  | "mn" | "nonspacingmark" => table GeneralCategory.nonspacingMark
  | "mc" | "spacingmark" => table GeneralCategory.spacingMark
  | "me" | "enclosingmark" => table GeneralCategory.enclosingMark
  | "m" | "mark" | "combiningmark" => some GeneralCategory.mark
  | "nd" | "decimalnumber" | "digit" => table GeneralCategory.decimalNumber
  | "nl" | "letternumber" => table GeneralCategory.letterNumber
  | "no" | "othernumber" => table GeneralCategory.otherNumber
  | "n" | "number" => some GeneralCategory.number
  | "pc" | "connectorpunctuation" => table GeneralCategory.connectorPunctuation
  | "pd" | "dashpunctuation" => table GeneralCategory.dashPunctuation
  | "ps" | "openpunctuation" => table GeneralCategory.openPunctuation
  | "pe" | "closepunctuation" => table GeneralCategory.closePunctuation
  | "pi" | "initialpunctuation" => table GeneralCategory.initialPunctuation
  | "pf" | "finalpunctuation" => table GeneralCategory.finalPunctuation
  | "po" | "otherpunctuation" => table GeneralCategory.otherPunctuation
  | "p" | "punctuation" | "punct" => some GeneralCategory.punctuation
  | "sm" | "mathsymbol" => table GeneralCategory.mathSymbol
  | "sc" | "currencysymbol" => table GeneralCategory.currencySymbol
  | "sk" | "modifiersymbol" => table GeneralCategory.modifierSymbol
  | "so" | "othersymbol" => table GeneralCategory.otherSymbol
  | "s" | "symbol" => some GeneralCategory.symbol
  | "zs" | "spaceseparator" => table GeneralCategory.spaceSeparator
  | "zl" | "lineseparator" => table GeneralCategory.lineSeparator
  | "zp" | "paragraphseparator" => table GeneralCategory.paragraphSeparator
  | "z" | "separator" => some GeneralCategory.separator
  | "cc" | "control" | "cntrl" => table GeneralCategory.control
  | "cf" | "format" => table GeneralCategory.format
  | "co" | "privateuse" => table GeneralCategory.privateUse
  | "cn" | "unassigned" => some GeneralCategory.unassigned
  | "c" | "other" => some GeneralCategory.other
  | _ => none

def scriptRow? (name : String) : Option (List String × Ranges) :=
  (Script.table.find? (·.1.contains name)).map fun (names, table) =>
    (names, Ranges.normalize (Table.ranges table))

def script? (name : String) : Option Ranges := (scriptRow? name).map (·.2)

def scriptExtension? (name : String) : Option Ranges :=
  (scriptRow? name).map fun (names, own) => ScriptExtension.used names own

/-- Names of properties that take a value other than yes or no; they are no sets of characters. -/
def valuedNames : List String :=
  ["age", "generalcategory", "gc", "script", "scriptextensions", "scx", "block", "blk", "bidiclass",
    "bc", "canonicalcombiningclass", "ccc", "decompositiontype", "dt", "eastasianwidth", "ea",
    "graphemeclusterbreak", "gcb", "hangulsyllabletype", "hst", "joininggroup", "jg", "joiningtype",
    "jt", "linebreak", "lb", "numerictype", "nt", "numericvalue", "nv", "sentencebreak", "sb",
    "wordbreak", "wb", "name", "na"]

def named? (name : String) : Option Ranges :=
  let name := normalizeName name
  if name ∈ valuedNames then none
  else
    let binary :=
      if name ∈ ["sc", "cf", "lc"] then none
      else (BinaryProperty.byName? name).or (CaseChange.byName? name)
    binary.or ((generalCategory? name).or (script? name))

def valued? (property value : String) : Option Ranges :=
  let value := normalizeName value
  match normalizeName property with
  | "gc" | "generalcategory" => generalCategory? value
  | "sc" | "script" => script? value
  | "scx" | "scriptextensions" => scriptExtension? value
  | "age" => Age.asOf? value
  | "gcb" | "graphemeclusterbreak" => TextBoundary.cluster? value
  | "wb" | "wordbreak" => TextBoundary.word? value
  | "sb" | "sentencebreak" => TextBoundary.sentence? value
  | _ => none

end Conform.Unicode.Property
