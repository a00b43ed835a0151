import Conform.Config
import Conform.Rule.Bounds
import Conform.Rule.CreditCard
import Conform.Rule.Email
import Conform.Rule.FullMatch
import Conform.Url

namespace Conform

/-- A condition of the caller's own on a configuration, a key and its value. The value passes if the
result is the flag `true`. -/
abbrev Predicate := Config → String → Value → Value

structure Judge where
  name : String
  accepts : (expectation : Value) → Bool
  supports : (expectation value : Value) → Bool
  skipsNull : Bool
  skipsBlank : Bool
  check : (expectation : Value) → Config → (key : String) → (value : Value) → Bool

inductive Rule where
  | blank
  | nullable
  | email
  | url
  | creditCard
  | «matches»
  | inList
  | notEqual
  | min
  | max
  | range
  | minSize
  | maxSize
  | size
  | scale
  /-- Asks a predicate; without one no expectation is right. -/
  | validator (predicate? : Option Predicate)
  | custom (judge : Judge)

namespace Rule

def name : Rule → String
  | blank => "blank"
  | nullable => "nullable"
  | email => "email"
  | url => "url"
  | creditCard => "credit_card"
  | «matches» => "matches"
  | inList => "in_list"
  | notEqual => "not_equal"
  | min => "min"
  | max => "max"
  | range => "range"
  | minSize => "min_size"
  | maxSize => "max_size"
  | size => "size"
  | scale => "scale"
  | validator _ => "validator"
  | custom judge => judge.name

/-- Every built-in rule; the one that asks a predicate is without one. -/
def all : List Rule :=
  [blank, nullable, email, url, creditCard, «matches», inList, notEqual, min, max, range, minSize,
    maxSize, size, scale, validator none]

def ofName? (name : String) : Option Rule := all.find? (·.name = name)

def accepts (r : Rule) (expectation : Value) : Bool :=
  match r with
  | blank | nullable | email | url | creditCard => expectation.flag?.isSome
  | «matches» => expectation.text?.any fun pattern => (FullMatch.compile? pattern).isSome
  | inList => expectation.list?.any (!·.isEmpty)
  | notEqual => !expectation.isNull
  | min | max => Bounds.isBound expectation
  | range => (Bounds.range? expectation).isSome
  | minSize | maxSize | scale => (Bounds.size? expectation).isSome
  | size => (Bounds.sizes? expectation).isSome
  | validator predicate? => predicate?.isSome
  | custom judge => judge.accepts expectation

def supports (r : Rule) (expectation value : Value) : Bool :=
  match r with
  | blank | email | url | creditCard | «matches» => value.isText
  | nullable | inList | notEqual | validator _ => true
  | min | max => Bounds.sameFamily expectation value
  | range => (Bounds.range? expectation).any fun (lo, _) => Bounds.sameFamily lo value
  | minSize | maxSize | size => value.size?.isSome
  | scale => value.isNumeric
  | custom judge => judge.supports expectation value

def skipsNull : Rule → Bool
  | nullable => false
  | custom judge => judge.skipsNull
  | _ => true

def skipsBlank : Rule → Bool
  | blank => false
  | custom judge => judge.skipsBlank
  | _ => true

structure Subject where
  config : Config
  key : String
  value : Value

def hasForm (form : List Char → Bool) (expectation value : Value) : Bool :=
  expectation.flag? == some false || value.text?.any fun text => form text.toList

def check (r : Rule) (expectation : Value) (subject : Subject) : Bool :=
  let value := subject.value
  match r with
  | blank => expectation.flag? == some true || !value.isBlank
  | nullable => expectation.flag? == some true || !value.isNull
  | email => hasForm Email.isAddress expectation value
  | url => hasForm (fun text => (Url.parseHost? text).isSome) expectation value
  | creditCard => hasForm CreditCard.isNumber expectation value
  | «matches» =>
    match expectation, value with
    | .text pattern, .text text => FullMatch.test pattern text
    | _, _ => false
  | inList => expectation.list?.any fun items => items.any (·.same value)
  | notEqual => !value.same expectation
  | min => value.atLeast expectation
  | max => value.atMost expectation
  | range => (Bounds.range? expectation).any fun (lo, hi) => value.atLeast lo && value.atMost hi
  | minSize =>
    match value.size?, Bounds.size? expectation with
    | some n, some least => least ≤ n
    | _, _ => false
  | maxSize =>
    match value.size?, Bounds.size? expectation with
    | some n, some most => n ≤ most
    | _, _ => false
  | size =>
    match value.size?, Bounds.sizes? expectation with
    | some n, some (lo, hi) => lo ≤ n && n ≤ hi
    | _, _ => false
  | scale =>
    match value.fractionDigits?, Bounds.size? expectation with
    | some digits, some most => digits ≤ most
    | _, _ => false
  | validator predicate? =>
    match predicate? with
    | none => false
    | some predicate =>
      match predicate subject.config subject.key value with
      | .flag b => b
      | _ => false
  | custom judge => judge.check expectation subject.config subject.key value

/-- Whether a value satisfies the rule, with a tester that remembers the last pattern. -/
def checkWith (tester : FullMatch.Tester) (r : Rule) (expectation : Value) (subject : Subject) :
    Bool × FullMatch.Tester :=
  match r, expectation, subject.value with
  | «matches», .text pattern, .text text => tester.test pattern text
  | _, _, _ => (r.check expectation subject, tester)

def checkAll (r : Rule) : FullMatch.Tester → List (Value × Subject) → List Bool
  | _, [] => []
  | tester, (expectation, subject) :: rest =>
    let (passes, tester) := r.checkWith tester expectation subject
    passes :: checkAll r tester rest

end Rule

end Conform
