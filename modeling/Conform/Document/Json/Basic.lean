import Conform.Document.Nesting

namespace Conform

inductive Json where
  | null
  | flag (b : Bool)
  | number (text : String)
  | string (s : String)
  | array (items : List Json)
  /-- Members have distinct names. -/
  | object (members : List (String × Json))

instance : Inhabited Json := ⟨.null⟩

namespace Json

def integer? (text : List Char) : Option Int64 :=
  (NumberLiteral.readInteger? text).bind Integer.ofInt?

def double? (text : List Char) : Option Binary64 :=
  if text.any fun c => c = '.' || c = 'e' || c = 'E' then
    match NumberLiteral.read? text with
    | some l =>
      let x := Binary64.ofLiteral l
      if x.isFinite then some x else none
    | none => none
  else none

/-- The value of a number: an integer or a double if it fits, and a decimal otherwise. -/
def numberValue (literal : String) : Value :=
  let cs := literal.toList
  match integer? cs, double? cs, Decimal.ofChars? cs with
  | some n, _, _ => .integer n
  | none, some x, _ => .double x
  | none, none, some d => .decimal d
  | none, none, none => .null

mutual

def toValue : Json → Value
  | null => .null
  | flag b => .flag b
  | number literal => numberValue literal
  | string s => .text s
  | array items => .list (toValues items)
  | object members => .map (toEntries members)

def toValues : List Json → List Value
  | [] => []
  | j :: rest => j.toValue :: toValues rest

def toEntries : List (String × Json) → List (String × Value)
  | [] => []
  | (name, j) :: rest => (name, j.toValue) :: toEntries rest

end

/-- The power of ten of the leading digit from which on, and the one up to which, numbers are
written without exponent. -/
def positionalFrom : Int := -5

def positionalTo : Int := 16

def doubleText (negative : Bool) (exponent : Fin 2047) (fraction : Binary64.Fraction) : List Char :=
  let (digits, place) := Binary64.shortestDigits exponent fraction
  let ds := Nat.toDigits 10 digits
  let lead : Int := ds.length + place - 1
  Binary64.signText negative ++
    if digits = 0 ∨ (positionalFrom ≤ lead ∧ lead < positionalTo) then
      Binary64.positional digits place ++ if 0 ≤ place then ['.', '0'] else []
    else
      Decimal.scientificDigits ds ++ 'e' :: (if 0 ≤ lead then ['+'] else []) ++
        Decimal.integerText lead

def decimalText (d : Decimal) : String :=
  String.ofList (d.chars.map fun c => if c = 'E' then 'e' else c)

mutual

/-- The document of a value. JSON has no numbers that are not finite; they become null. -/
def ofValue : Value → Json
  | .null => null
  | .flag b => flag b
  | .text s => string s
  | .integer n => number (String.ofList (Decimal.integerText n.toInt))
  | .double (.finite negative e f) => number (String.ofList (doubleText negative e f))
  | .double _ => null
  | .decimal d => number (decimalText d)
  | .list items => array (ofValues items)
  | .map entries => object (ofEntries entries)

def ofValues : List Value → List Json
  | [] => []
  | v :: rest => ofValue v :: ofValues rest

def ofEntries : List (String × Value) → List (String × Json)
  | [] => []
  | (name, v) :: rest => (name, ofValue v) :: ofEntries rest

end

def isObject : Json → Bool
  | object _ => true
  | _ => false

def toConfig : Json → Config
  | object members => Nesting.flatten (toEntries members)
  | _ => ∅

def ofConfig (c : Config) : Json := object (ofEntries (Nesting.nest c))

end Json

end Conform
