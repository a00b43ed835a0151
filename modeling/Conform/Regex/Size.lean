import Conform.Regex.Pattern

/-!
How much memory the automata for a pattern take. An automaton reads bytes, so a set of characters
becomes a set of byte sequences. Two automata are built for each pattern, one for each direction,
and both have to stay below a limit.
-/

namespace Conform.Regex

open Unicode (Ranges)

namespace ByteSequence

def lengthEnds : List Nat := [0x7F, 0x7FF, 0xFFFF]

/-- Where a range has to be cut so that each part is a product of byte ranges: the last member of
the first part. -/
def cut? (lo hi : Nat) : Option Nat :=
  (lengthEnds.find? fun m => lo ≤ m && m < hi).or
    (if hi < 0x80 then none
    else
      [6, 12, 18].findSome? fun bits =>
        let block := Nat.pow 2 bits
        if lo / block = hi / block then none
        else if lo % block ≠ 0 then some (lo / block * block + (block - 1))
        else if hi % block ≠ block - 1 then some (hi / block * block - 1)
        else none)

def parts (lo hi : Nat) : List (Nat × Nat) :=
  match cut? lo hi with
  | none => [(lo, hi)]
  | some m =>
    if _ : lo ≤ m ∧ m < hi then parts lo m ++ parts (m + 1) hi else [(lo, hi)]
termination_by hi - lo

def encode (n : Nat) : List Nat :=
  if n < 0x80 then [n]
  else if n < 0x800 then [0xC0 + n / 64, 0x80 + n % 64]
  else if n < 0x10000 then [0xE0 + n / 4096, 0x80 + n / 64 % 64, 0x80 + n % 64]
  else [0xF0 + n / 262144, 0x80 + n / 4096 % 64, 0x80 + n / 64 % 64, 0x80 + n % 64]

/-- A set of characters as sequences of byte ranges, in order. -/
def ofRanges (set : Ranges) : List (List (Nat × Nat)) :=
  (Ranges.difference set []).flatMap fun (lo, hi) =>
    (parts lo hi).map fun (first, last) => (encode first).zip (encode last)

/-- Sequences by their first ranges: each first range with the rests of the sequences that begin
with it. Sequences with one first range stand together. -/
def branches : List (List (Nat × Nat)) → List ((Nat × Nat) × List (List (Nat × Nat)))
  | [] => []
  | [] :: more => branches more
  | (range :: rest) :: more =>
    match branches more with
    | (next, rests) :: others =>
      if next = range then (range, rest :: rests) :: others
      else (range, [rest]) :: (next, rests) :: others
    | [] => [(range, [rest])]

/-- The sets of rests that are left after some ranges of the sequences, `depth` ranges at most. -/
def rests : (depth : Nat) → List (List (Nat × Nat)) → List (List (List (Nat × Nat)))
  | 0, _ => []
  | depth + 1, sequences =>
    let next := (branches sequences).flatMap fun (_, rest) => rests depth rest
    if sequences = [[]] then [] else sequences :: next

/-- The number of beginnings of the sequences, `depth` ranges long at most. -/
def beginnings : (depth : Nat) → List (List (Nat × Nat)) → Nat
  | 0, _ => 0
  | depth + 1, sequences =>
    ((branches sequences).map fun (_, rest) => beginnings depth rest + 1).sum

/-- Words before, between and behind those that are empty; several of these at the start count as
one. -/
def betweenEnds (words : List (List Nat)) : List (List (List Nat)) :=
  match words with
  | [] :: rest => [] :: split (rest.dropWhile List.isEmpty)
  | words => split words
where
  split : List (List Nat) → List (List (List Nat))
    | [] => [[]]
    | [] :: rest => [] :: split rest
    | word :: rest =>
      match split rest with
      | first :: more => (word :: first) :: more
      | [] => [[word]]

def byFirst (words : List (List Nat)) : List (List (List Nat)) :=
  (words.filterMap List.head?).eraseDups.map fun byte =>
    words.filterMap fun word => if word.head? = some byte then some word.tail else none

end ByteSequence

inductive Direction where
  | forward
  | backward
deriving DecidableEq

namespace Automaton

/-- Bytes of a state, apart from what it leads to. -/
def state : Nat := 32

def branch : Nat := 4

def transition : Nat := 8

/-- A set of characters beyond ASCII. Forward, equal rests are built once; backward, equal
beginnings. -/
def wideSet (d : Direction) (set : Ranges) : Nat :=
  let sequences := ByteSequence.ofRanges set
  match d with
  | .forward =>
    let states := (ByteSequence.rests 4 sequences).eraseDups
    let transitions := states.foldl (fun n s => n + (ByteSequence.branches s).length) 0
    state * (states.length + 1) + transition * transitions
  | .backward =>
    state * (ByteSequence.beginnings 4 sequences + 2) + branch * sequences.length

def charSet (d : Direction) (set : Ranges) : Nat :=
  match set with
  | [] => state
  | [(lo, hi)] =>
    if lo = hi then state * (ByteSequence.encode lo).length
    else if hi < 0x80 then 2 * state + transition
    else wideSet d set
  | set => if CharClass.isAscii set then 2 * state + transition * set.length else wideSet d set

def reader (count : Nat) : Nat := if count = 1 then state else state + transition * count

/-- Bytes of a trie of words, down to a depth. From a node, words lead on in the order in which they
were put in, those before a word that ends there apart from those behind it. -/
def trie : (depth : Nat) → (words : List (List Nat)) → Nat
  | 0, _ => 0
  | depth + 1, words =>
    let chunks := (ByteSequence.betweenEnds words).map ByteSequence.byFirst
    let readers := chunks.filter (!·.isEmpty)
    let nodes := readers.flatten.filter (·.any (!·.isEmpty))
    state + branch * (readers.length + (chunks.length - 1)) +
      (readers.map fun chunk => reader chunk.length).sum + (nodes.map (trie depth)).sum

def fork : Nat := state + 2 * branch

def repetition (min : Nat) (max : Option Nat) (consumes : Bool) (sub : Nat) : Nat :=
  match min, max with
  | 0, some 1 => state + fork + sub
  | 0, none => if consumes then fork + sub else state + 2 * fork + sub
  | min, none => min * sub + fork
  | 0, some max => 2 * state + max * (fork + sub)
  | min, some max =>
    if min = max then min * sub else min * sub + state + (max - min) * (fork + sub)

def char? : Pattern → Option (List Nat)
  | .chars [(lo, hi)] => if lo = hi then some (ByteSequence.encode lo) else none
  | _ => none

def literal? : Pattern → Option (List Nat)
  | .concat parts => (parts.mapM char?).map List.flatten
  | p => char? p

/-- A choice between literals. Backward, they are read from their ends. -/
def literals (d : Direction) (words : List (List Nat)) : Nat :=
  let words := if d = .forward then words else words.map List.reverse
  state + trie (words.flatten.length + 1) words

mutual

/-- Bytes of the automaton for a pattern. Only the one that reads forward marks captures. -/
def size (d : Direction) : Pattern → Nat
  | .empty | .look _ => state
  | .chars set => charSet d set
  | .capture sub => size d sub + if d = .forward then 2 * state else 0
  | .repetition min max _ sub => repetition min max sub.consumes (size d sub)
  | .concat parts => sizes d parts
  | .alternation branches =>
    match branches.mapM literal? with
    | some words => literals d words
    | none => 2 * state + branch * branches.length + sizes d branches

def sizes (d : Direction) : List Pattern → Nat
  | [] => 0
  | p :: rest => size d p + sizes d rest

end

/-- Bytes of the states around every pattern: a search from any place, and the whole match. -/
def frame : Direction → Nat
  | .forward => 6 * state + transition + 2 * branch
  | .backward => 4 * state + transition + 2 * branch

def sizeLimit : Nat := 10 * 1024 * 1024

def fits (p : Pattern) : Bool :=
  [Direction.forward, .backward].all fun d => frame d + size d p ≤ sizeLimit

end Automaton

end Conform.Regex
