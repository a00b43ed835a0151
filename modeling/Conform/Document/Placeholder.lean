import Conform.Config
import Conform.Load.Failure
import Conform.Value.Text

/-!
Placeholders: `${name}` in a text stands for the value of an entry, first of the same document
and then of its surroundings. After a colon may follow a text for the case that there is no such
entry. What is substituted is expanded itself if it belongs to the same document.
-/

namespace Conform.Placeholder

/-- A part of a text: characters as they are, or a placeholder by the name of an entry and the text
in its place if there is none. -/
inductive Piece where
  | literal (text : List Char)
  | reference (name : String) (fallback? : Option (List Char))
deriving DecidableEq

def Piece.ofExpression (expression : List Char) : Piece :=
  match Text.splitFirst? ':' expression with
  | some (name, fallback) => reference (String.ofList (Text.trim name)) (some fallback)
  | none => reference (String.ofList (Text.trim expression)) none

def splitStart? : List Char → Option (List Char × List Char)
  | [] => none
  | [_] => none
  | c :: d :: rest =>
    if c = '$' ∧ d = '\x7b' then some ([], rest)
    else (splitStart? (d :: rest)).map fun (before, after) => (c :: before, after)

theorem splitStart?_length {text before after : List Char}
    (h : splitStart? text = some (before, after)) : after.length < text.length := by
  induction text generalizing before with
  | nil => simp [splitStart?] at h
  | cons c rest ih =>
    cases rest with
    | nil => simp [splitStart?] at h
    | cons d rest =>
      rw [splitStart?] at h
      split at h
      · simp only [Option.some.injEq, Prod.mk.injEq] at h
        simp only [← h.2, List.length_cons]
        omega
      · simp only [Option.map_eq_some_iff] at h
        obtain ⟨⟨b, a⟩, hs, heq⟩ := h
        simp only [Prod.mk.injEq] at heq
        rw [heq.2] at hs
        have := ih hs
        simp only [List.length_cons] at this ⊢
        omega

/-- The pieces of a text. A placeholder without end is kept with all that follows it. -/
def pieces (text : List Char) : List Piece :=
  match _ : splitStart? text with
  | none => [.literal text]
  | some (before, after) =>
    match _ : Text.splitFirst? '\x7d' after with
    | none => [.literal text]
    | some (expression, rest) => .literal before :: .ofExpression expression :: pieces rest
termination_by text.length
decreasing_by
  have h1 := splitStart?_length ‹splitStart? text = _›
  have h2 := congrArg List.length (Text.splitFirst?_eq_some ‹Text.splitFirst? _ after = _›).1
  simp only [List.length_append, List.length_cons] at h2
  omega

def unvisited (fragment : Config) (stack : List String) : List String :=
  fragment.keys.filter (· ∉ stack)

theorem unvisited_length_lt {fragment : Config} {stack : List String} {key : String}
    (hkey : key ∈ fragment.keys) (hstack : key ∉ stack) :
    (unvisited fragment (key :: stack)).length < (unvisited fragment stack).length := by
  have hsub : unvisited fragment (key :: stack) = (unvisited fragment stack).filter (· ≠ key) := by
    rw [unvisited, unvisited, List.filter_filter]
    exact List.filter_congr fun x _ => by simp [not_or]
  rw [hsub, List.length_filter_lt_length_iff_exists]
  exact ⟨key, by simp [unvisited, hkey, hstack], by simp⟩

mutual

/-- The text that pieces stand for. The stack holds the keys whose texts are being expanded, the
last one first; `origin` is the key that the expansion began with. -/
def expand (fragment context : Config) (origin : String) (stack : List String) :
    List Piece → Except LoadFailure (List Char)
  | [] => .ok []
  | .literal text :: rest =>
    match expand fragment context origin stack rest with
    | .ok more => .ok (text ++ more)
    | .error failure => .error failure
  | .reference name fallback? :: rest =>
    match lookup fragment context origin stack name fallback? with
    | .error failure => .error failure
    | .ok text =>
      match expand fragment context origin stack rest with
      | .ok more => .ok (text ++ more)
      | .error failure => .error failure
termination_by ps => ((unvisited fragment stack).length, ps.length + 1)

def lookup (fragment context : Config) (origin : String) (stack : List String) (name : String)
    (fallback? : Option (List Char)) : Except LoadFailure (List Char) :=
  if _ : name ∈ stack then .error (.placeholderCycle origin)
  else
    match _ : fragment.get? name with
    | some (.text text) => expand fragment context origin (name :: stack) (pieces text.toList)
    | some value => .ok value.plainText.toList
    | none =>
      match context.get? name, fallback? with
      | some value, _ => .ok value.plainText.toList
      | none, some fallback => .ok fallback
      | none, none => .error (.unresolvedPlaceholder origin name)
termination_by ((unvisited fragment stack).length, 0)
decreasing_by
  apply Prod.Lex.left
  exact unvisited_length_lt (Store.mem_keys_of_get? ‹fragment.get? name = _›) ‹name ∉ stack›

end

def resolveText (fragment context : Config) (key : String) (text : String) :
    Except LoadFailure String :=
  match expand fragment context key [key] (pieces text.toList) with
  | .ok text => .ok (String.ofList text)
  | .error failure => .error failure

mutual

def resolveValue (fragment context : Config) (key : String) : Value → Except LoadFailure Value
  | .text text => (resolveText fragment context key text).map .text
  | .list items => (resolveItems fragment context key items).map .list
  | value => .ok value

def resolveItems (fragment context : Config) (key : String) :
    List Value → Except LoadFailure (List Value)
  | [] => .ok []
  | item :: rest => do
    let item ← resolveValue fragment context key item
    return item :: (← resolveItems fragment context key rest)

end

mutual

def hasStart : Value → Bool
  | .text text => (splitStart? text.toList).isSome
  | .list items => someHasStart items
  | _ => false

def someHasStart : List Value → Bool
  | [] => false
  | item :: rest => hasStart item || someHasStart rest

end

def resolveEntries (fragment context : Config) :
    List (String × Value) → Except LoadFailure (List (String × Value))
  | [] => .ok []
  | (key, value) :: rest => do
    let value ← resolveValue fragment context key value
    return (key, value) :: (← resolveEntries fragment context rest)

/-- The document with all placeholders expanded. -/
def resolve (fragment context : Config) : Except LoadFailure Config :=
  if fragment.entries.any fun (_, value) => hasStart value then
    (resolveEntries fragment context fragment.entries).map Store.ofList
  else .ok fragment

end Conform.Placeholder
