import Conform.Number.Radix
import Conform.Text.Split

namespace Conform.Address

open Radix

/-- Reads a number: hexadecimal after `0x`, octal after `0`, and decimal otherwise. -/
def number? (text : List Char) : Option Nat :=
  let (base, digits) :=
    match text with
    | '0' :: 'x' :: rest => (16, rest)
    | '0' :: 'X' :: rest => (16, rest)
    | '0' :: d :: rest => (8, d :: rest)
    | _ => (10, text)
  if text.isEmpty ∨ !digits.all (isDigit base) then none else some (value base digits)

def parts (labels : List (List Char)) : List (List Char) :=
  if labels.getLast? = some [] then labels.dropLast else labels

def endsInNumber (labels : List (List Char)) : Bool :=
  match (parts labels).getLast? with
  | none => false
  | some last => (!last.isEmpty && last.all (isDigit 10)) || (number? last).isSome

/-- Reads an address of one to four numbers. The last number fills the bytes that the others leave
over. -/
def ipv4? (labels : List (List Char)) : Option Nat := do
  let numbers ← (parts labels).mapM number?
  let last ← numbers.getLast?
  let leading := numbers.dropLast
  let room := Nat.pow 256 (4 - leading.length)
  if numbers.length ≤ 4 ∧ leading.all (· ≤ 255) ∧ last < room then
    return leading.foldl (fun n b => 256 * n + b) 0 * room + last
  else none

def isByte (text : List Char) : Bool :=
  !text.isEmpty && text.all (isDigit 10) && value 10 text ≤ 255 &&
    (text.length = 1 || text.head? ≠ some '0')

def isPiece (text : List Char) : Bool :=
  !text.isEmpty && text.length ≤ 4 && text.all (isDigit 16)

/-- The number of 16-bit pieces that texts between colons stand for; four bytes between dots at the
end are two. -/
def pieceCount? (mayEndInBytes : Bool) : List (List Char) → Option Nat
  | [] => some 0
  | text :: rest =>
    if isPiece text then (pieceCount? mayEndInBytes rest).map (· + 1)
    else
      let bytes := Text.pieces '.' text
      if mayEndInBytes && rest.isEmpty && bytes.length = 4 && bytes.all isByte then some 2 else none

def splitGap? : List Char → Option (List Char × List Char)
  | ':' :: ':' :: rest => some ([], rest)
  | c :: rest => (splitGap? rest).map fun (before, after) => (c :: before, after)
  | [] => none

def colonPieces (text : List Char) : List (List Char) :=
  if text.isEmpty then [] else Text.pieces ':' text

def isIpv6 (text : List Char) : Bool :=
  match splitGap? text with
  | none => pieceCount? true (colonPieces text) == some 8
  | some (before, after) =>
    match pieceCount? false (colonPieces before), pieceCount? true (colonPieces after) with
    | some m, some n => m + n ≤ 7
    | _, _ => false

end Conform.Address
