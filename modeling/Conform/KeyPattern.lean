import Conform.Config

/-!
Key patterns: dotted keys in which `*` stands for one segment and `**` for one or more.
-/

namespace Conform

def segments (key : String) : List String :=
  (Text.pieces '.' key.toList).map String.ofList

def joinSegments (segments : List String) : String :=
  String.ofList (Text.joinWith ['.'] (segments.map String.toList))

theorem joinSegments_segments (key : String) : joinSegments (segments key) = key := by
  have h : ((Text.pieces '.' key.toList).map String.ofList).map String.toList =
      Text.pieces '.' key.toList := by
    simp [Function.comp_def]
  rw [joinSegments, segments, h, Text.joinWith_pieces, String.ofList_toList]

theorem segments_ne_nil (key : String) : segments key ≠ [] := by
  simp [segments, Text.pieces_ne_nil]

theorem segments_injective {key key' : String} (h : segments key = segments key') : key = key' := by
  rw [← joinSegments_segments key, h, joinSegments_segments]

namespace KeyPattern

inductive Error where
  | empty
  | emptySegment (index : Nat)
  /-- A segment that holds a wildcard and other characters. -/
  | partialWildcard (segment : String)
deriving DecidableEq

def Error.message : Error → String
  | empty => "key pattern is empty"
  | emptySegment index => "segment " ++ String.ofList (Nat.toDigits 10 index) ++ " is empty"
  | partialWildcard segment => "segment '" ++ segment ++ "' mixes a wildcard with literal text"

inductive Segment where
  | literal (text : String)
  /-- Any single segment. -/
  | any
  /-- One or more segments. -/
  | anyDeep
deriving DecidableEq

namespace Segment

def text : Segment → String
  | literal text => text
  | any => "*"
  | anyDeep => "**"

def isLiteral : Segment → Bool
  | literal _ => true
  | _ => false

def parse (index : Nat) (segment : String) : Except Error Segment :=
  if segment = "" then .error (.emptySegment index)
  else if segment = "*" then .ok any
  else if segment = "**" then .ok anyDeep
  else if '*' ∈ segment.toList then .error (.partialWildcard segment)
  else .ok (literal segment)

def parseAll : (index : Nat) → List String → Except Error (List Segment)
  | _, [] => .ok []
  | index, segment :: rest => do
    let first ← parse index segment
    let others ← parseAll (index + 1) rest
    return first :: others

end Segment

end KeyPattern

structure KeyPattern where
  text : String
  segments : List KeyPattern.Segment
deriving DecidableEq

namespace KeyPattern

def parse (text : String) : Except Error KeyPattern :=
  if text = "" then .error .empty
  else (Segment.parseAll 0 (Conform.segments text)).map (⟨text, ·⟩)

def isLiteral (p : KeyPattern) : Bool := p.segments.all Segment.isLiteral

/-- Whether a predicate holds of some proper tail of a list. -/
def onSomeTail (p : List String → Bool) : List String → Bool
  | [] => false
  | _ :: key => p key || onSomeTail p key

/-- Whether the segments of a key can be cut into blocks, one for each segment of the pattern. -/
def matchSegments : List Segment → List String → Bool
  | [], key => key.isEmpty
  | .literal text :: rest, key =>
    match key with
    | [] => false
    | segment :: key => segment = text && matchSegments rest key
  | .any :: rest, key =>
    match key with
    | [] => false
    | _ :: key => matchSegments rest key
  | .anyDeep :: rest, key => onSomeTail (matchSegments rest) key

def matchesKey (p : KeyPattern) (key : String) : Bool :=
  matchSegments p.segments (Conform.segments key)

/-- The keys that a pattern speaks about, with their values: its own key, present or not, for a
literal pattern, and otherwise the keys of the configuration that match, in order. -/
def targets (p : KeyPattern) (c : Config) : List (String × Value) :=
  if p.isLiteral then [(p.text, c.resolve p.text)]
  else c.entries.filter fun (key, _) => p.matchesKey key

end KeyPattern

end Conform
