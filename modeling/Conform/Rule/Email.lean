import Conform.Text.Split

namespace Conform.Email

def isLocalChar (c : Char) : Bool :=
  c.isAlphanum ||
    c ∈ ['.', '!', '#', '$', '%', '&', '\'', '*', '+', '/', '=', '?', '^', '_', '\x60', '\x7b', '|',
      '\x7d', '~', '-']

/-- Letters, digits and hyphens, 63 at most, with no hyphen at either end. -/
def isLabel (label : List Char) : Bool :=
  label.length ≤ 63 && (label.all fun c => c.isAlphanum || c = '-') &&
    label.head?.any Char.isAlphanum && label.getLast?.any Char.isAlphanum

def isDomain (text : List Char) : Bool :=
  let labels := Text.pieces '.' text
  2 ≤ labels.length && labels.all isLabel

def isAddress (text : List Char) : Bool :=
  match Text.splitFirst? '@' text with
  | some (name, domain) => !name.isEmpty && name.all isLocalChar && isDomain domain
  | none => false

end Conform.Email
