namespace Conform.CreditCard

def isSeparator (c : Char) : Bool := c = ' ' || c = '-'

def digit? (c : Char) : Option Nat := if c.isDigit then some (c.toNat - 48) else none

def digits? (text : List Char) : Option (List Nat) :=
  (text.filter (!isSeparator ·)).mapM digit?

def doubled (d : Nat) : Nat := if 9 < 2 * d then 2 * d - 9 else 2 * d

/-- The sum of digits from the last one on, every second of them doubled. -/
def checksum : List Nat → Nat
  | [] => 0
  | [d] => d
  | d :: e :: rest => d + doubled e + checksum rest

def isNumber (text : List Char) : Bool :=
  match digits? text with
  | some digits =>
    13 ≤ digits.length && digits.length ≤ 19 && checksum digits.reverse % 10 == 0
  | none => false

end Conform.CreditCard
