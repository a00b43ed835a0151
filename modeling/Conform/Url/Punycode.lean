import Conform.Text.Split

namespace Conform.Punycode

def digit? (c : Char) : Option Nat :=
  if 'a' ≤ c ∧ c ≤ 'z' then some (c.toNat - 97)
  else if 'A' ≤ c ∧ c ≤ 'Z' then some (c.toNat - 65)
  else if '0' ≤ c ∧ c ≤ '9' then some (c.toNat - 48 + 26)
  else none

def threshold (place bias : Nat) : Nat :=
  if place ≤ bias then 1 else if bias + 26 ≤ place then 26 else place - bias

/-- Divides a distance until it is small; gives the bias by the number of divisions. -/
def settle (delta bias : Nat) : Nat :=
  if 455 < delta then settle (delta / 35) (bias + 36) else bias + 36 * delta / (delta + 38)
termination_by delta
decreasing_by omega

/-- The bias for the next number after a distance, given the length of the text so far. -/
def adapt (delta length : Nat) (first : Bool) : Nat :=
  let scaled := if first then delta / 700 else delta / 2
  settle (scaled + scaled / length) 0

structure State where
  codes : List Nat
  /-- The code point of the last character that was put in. -/
  code : Nat
  /-- Where the next character goes. -/
  index : Nat
  bias : Nat
  /-- The distance so far, the weight of the next digit, and its place; zero between numbers. -/
  delta : Nat
  weight : Nat
  place : Nat

namespace State

def limit : Nat := 0x100000000

def start (ascii : List Nat) : State := ⟨ascii, 128, 0, 72, 0, 1, 36⟩

def finish (st : State) (delta : Nat) : Option State :=
  let total := st.index + delta
  let length := st.codes.length + 1
  let code := st.code + total / length
  let index := total % length
  if limit ≤ total ∨ 0x110000 ≤ code ∨ (0xD800 ≤ code ∧ code < 0xE000) then none
  else
    some
      { codes := st.codes.take index ++ code :: st.codes.drop index
        code := code
        index := index + 1
        bias := adapt delta length (st.code = 128 && st.index = 0)
        delta := 0
        weight := 1
        place := 36 }

def step (st : State) (digit : Nat) : Option State :=
  let delta := st.delta + digit * st.weight
  let t := threshold st.place st.bias
  if limit ≤ delta then none
  else if digit < t then st.finish delta
  else some { st with delta := delta, weight := st.weight * (36 - t), place := st.place + 36 }

def run (st : State) : List Char → Option State
  | [] => if st.place = 36 then some st else none
  | c :: rest => do run (← st.step (← digit? c)) rest

end State

def split (text : List Char) : List Char × List Char :=
  let digits := (text.reverse.takeWhile (· ≠ '-')).reverse
  let ascii := text.take (text.length - digits.length - 1)
  if ascii.isEmpty then ([], text) else (ascii, digits)

def decode? (text : List Char) : Option (List Char) := do
  let (ascii, digits) := split text
  let st ← (State.start (ascii.map Char.toNat)).run digits
  return st.codes.map Char.ofNat

end Conform.Punycode
