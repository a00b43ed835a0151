import Conform.Value.Basic

namespace Conform.Value

mutual

def display : Value → String
  | null => "null"
  | flag b => if b then "true" else "false"
  | text s => s
  | integer n => String.ofList (Decimal.integerText n.toInt)
  | double x => x.text
  | decimal d => d.text
  | list items => "[" ++ displayItems items ++ "]"
  | map entries => "\x7b" ++ displayEntries entries ++ "\x7d"

def displayItems : List Value → String
  | [] => ""
  | [v] => v.display
  | v :: next :: more => v.display ++ ", " ++ displayItems (next :: more)

def displayEntries : List (String × Value) → String
  | [] => ""
  | [(k, v)] => k ++ "=" ++ v.display
  | (k, v) :: next :: more => k ++ "=" ++ v.display ++ ", " ++ displayEntries (next :: more)

end

mutual

/-- The text of a value in documents that hold nothing but text: nothing for null, the elements of
a list with commas between them, and all else as in messages. -/
def plainText : Value → String
  | null => ""
  | list items => plainItems items
  | v => v.display

def plainItems : List Value → String
  | [] => ""
  | [v] => v.plainText
  | v :: next :: more => v.plainText ++ "," ++ plainItems (next :: more)

end

end Conform.Value
