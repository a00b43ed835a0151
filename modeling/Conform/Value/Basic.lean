import Conform.Number.Binary64
import Conform.Text.Blank

namespace Conform

/-- A configuration value. The entries of a map have distinct keys and keep their order. -/
inductive Value where
  | null
  | flag (b : Bool)
  | text (s : String)
  | integer (n : Int64)
  | double (x : Binary64)
  | decimal (d : Decimal)
  | list (items : List Value)
  | map (entries : List (String × Value))

instance : Inhabited Value := ⟨.null⟩

namespace Value

inductive Kind where
  | null | flag | text | integer | double | decimal | list | map
deriving DecidableEq

def kind : Value → Kind
  | null => .null
  | flag _ => .flag
  | text _ => .text
  | integer _ => .integer
  | double _ => .double
  | decimal _ => .decimal
  | list _ => .list
  | map _ => .map

def isNull : Value → Bool
  | null => true
  | _ => false

def isText : Value → Bool
  | text _ => true
  | _ => false

def isNumeric : Value → Bool
  | integer _ | double _ | decimal _ => true
  | _ => false

def isBlank : Value → Bool
  | text s => s.toList.all Text.isBlank
  | _ => false

def text? : Value → Option String
  | text s => some s
  | _ => none

def integer? : Value → Option Int64
  | integer n => some n
  | _ => none

def flag? : Value → Option Bool
  | flag b => some b
  | _ => none

def list? : Value → Option (List Value)
  | list items => some items
  | _ => none

/-- The exact decimal of a finite number; a double stands for its shortest text. -/
def toDecimal? : Value → Option Decimal
  | integer n => some (.ofInt n.toInt)
  | double x => x.toDecimal?
  | decimal d => some d
  | _ => none

def size? : Value → Option Nat
  | text s => some s.length
  | list items => some items.length
  | map entries => some entries.length
  | _ => none

/-- The number of significant fractional digits of a finite number. -/
def fractionDigits? (v : Value) : Option Nat :=
  v.toDecimal?.map Decimal.fractionDigits

def ofNat (n : Nat) : Value := integer (Int64.ofNat n)

end Value

end Conform
