namespace Conform

inductive LoadFailure where
  /-- The file is missing, is a directory, or holds no text. -/
  | unreadable (path : String)
  | malformedToml
  | malformedJson
  /-- The document is no object at its root. -/
  | rootNotObject (format : String)
  /-- An escape of a code point with the given characters in place of four digits. -/
  | malformedEscape (line : Nat) (digits : String)
  | unresolvedPlaceholder (key name : String)
  | placeholderCycle (key : String)
deriving DecidableEq

namespace LoadFailure

def message : LoadFailure → String
  | unreadable path => "failed to read " ++ path
  | malformedToml => "failed to parse TOML"
  | malformedJson => "failed to parse JSON"
  | rootNotObject format => format ++ " document root must be an object"
  | malformedEscape line digits =>
    "malformed properties at line " ++ String.ofList (Nat.toDigits 10 line) ++
      ": invalid unicode escape \\u" ++ digits
  | unresolvedPlaceholder key name =>
    "unresolved placeholder $\x7b" ++ name ++ "\x7d in '" ++ key ++ "'"
  | placeholderCycle key => "placeholder cycle while resolving '" ++ key ++ "'"

end LoadFailure

end Conform
