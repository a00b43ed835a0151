import Conform.Document.Json.Basic
import Conform.Document.Json.Token

namespace Conform.Json

/-- What becomes of a member that an object names twice. -/
inductive Repetition where
  /-- It keeps its first place and its last value. -/
  | replaces
  | refused
deriving DecidableEq

namespace Reader

/-- An open array with its items in reverse, or an open object with the member that is being
read. -/
inductive Frame where
  | array (items : List Json)
  | object (members : List (String × Json)) (name : String)

inductive Expectation where
  | value
  /-- A value or the end of an array. -/
  | firstItem
  | member (members : List (String × Json))
  /-- A member or the end of an object. -/
  | firstMember
  | colon (members : List (String × Json)) (name : String)
  /-- The end of an array or object, or a comma, after a value. -/
  | after (value : Json)

structure State where
  stack : List Frame
  expects : Expectation

def nestingLimit : Nat := 127

def open? (st : State) (frame : Frame) (expects : Expectation) : Option State :=
  if st.stack.length < nestingLimit then some ⟨frame :: st.stack, expects⟩ else none

def startValue (st : State) : Token → Option State
  | .null => some { st with expects := .after .null }
  | .flag b => some { st with expects := .after (.flag b) }
  | .number literal => some { st with expects := .after (.number (String.ofList literal)) }
  | .text s => some { st with expects := .after (.string (String.ofList s)) }
  | .openArray => open? st (.array []) .firstItem
  | .openObject => open? st (.object [] "") .firstMember
  | _ => none

def close (st : State) (value : Json) : Option State :=
  some ⟨st.stack.tail, .after value⟩

def addMember (rep : Repetition) (members : List (String × Json)) (name : String) (value : Json) :
    Option (List (String × Json)) :=
  if rep = .refused ∧ members.any (·.1 = name) then none
  else some (Entries.put members name value)

def afterValue (rep : Repetition) (st : State) (value : Json) (token : Token) : Option State :=
  match st.stack, token with
  | .array items :: stack, .comma => some ⟨.array (value :: items) :: stack, .value⟩
  | .array items :: _, .closeArray => close st (.array (value :: items).reverse)
  | .object members name :: _, .comma => do
    return { st with expects := .member (← addMember rep members name value) }
  | .object members name :: _, .closeObject => do
    close st (.object (← addMember rep members name value))
  | _, _ => none

def step (rep : Repetition) (st : State) (token : Token) : Option State :=
  match st.expects, token with
  | .value, token => startValue st token
  | .firstItem, .closeArray => close st (.array [])
  | .firstItem, token => startValue st token
  | .firstMember, .closeObject => close st (.object [])
  | .firstMember, .text name => some { st with expects := .colon [] (String.ofList name) }
  | .member members, .text name => some { st with expects := .colon members (String.ofList name) }
  | .colon members name, .colon =>
    some ⟨.object members name :: st.stack.tail, .value⟩
  | .after value, token => afterValue rep st value token
  | _, _ => none

def run (rep : Repetition) (st : State) : List Token → Option Json
  | [] =>
    match st with
    | ⟨[], .after value⟩ => some value
    | _ => none
  | token :: rest =>
    match step rep st token with
    | some st => run rep st rest
    | none => none

end Reader

def parse? (text : String) (rep : Repetition := .replaces) : Option Json := do
  Reader.run rep ⟨[], .value⟩ (← Token.all? text.toList)

end Conform.Json
