import Conform.Url.Address
import Conform.Url.Domain

namespace Conform.Url

inductive Host where
  /-- A domain name by its labels in Unicode. -/
  | domain (labels : List (List Char))
  | ipv4 (address : Nat)
  | ipv6 (text : List Char)
  /-- The host of a scheme whose hosts have no form of their own. -/
  | name (text : List Char)
deriving DecidableEq

inductive SchemeKind where
  | file
  /-- A network scheme, in which the host is never empty and a backslash is a slash. -/
  | network
  | other
deriving DecidableEq

namespace SchemeKind

def ofScheme (scheme : String) : SchemeKind :=
  if scheme = "file" then file
  else if scheme ∈ ["http", "https", "ws", "wss", "ftp"] then network
  else other

def endsAuthority (kind : SchemeKind) (c : Char) : Bool :=
  c = '/' || c = '?' || c = '#' || (c = '\\' && kind ≠ other)

end SchemeKind

def isSlash (c : Char) : Bool := c = '/' || c = '\\'

/-- A URL without control characters and spaces around it, and without tabs and line ends. -/
def strip (text : List Char) : List Char :=
  let isControl (c : Char) : Bool := c.toNat ≤ 0x20
  (Text.dropEndWhile isControl (text.dropWhile isControl)).filter fun c =>
    c ≠ '\t' && c ≠ '\n' && c ≠ '\r'

def isSchemeChar (c : Char) : Bool := c.isAlphanum || c = '+' || c = '-' || c = '.'

def scheme? (text : List Char) : Option (String × List Char) := do
  let (scheme, rest) ← Text.splitFirst? ':' text
  if scheme.head?.any Char.isAlpha && scheme.all isSchemeChar then
    return (String.ofList (scheme.map Char.toLower), rest)
  else none

/-- The bytes of a text after its percent escapes are read; what is no escape stays. -/
def unescape : List UInt8 → List UInt8
  | [] => []
  | 0x25 :: a :: b :: rest =>
    let digits := [Char.ofNat a.toNat, Char.ofNat b.toNat]
    if digits.all (Radix.isDigit 16) then UInt8.ofNat (Radix.value 16 digits) :: unescape rest
    else 0x25 :: unescape (a :: b :: rest)
  | byte :: rest => byte :: unescape rest

def percentDecode? (text : List Char) : Option (List Char) :=
  let bytes := unescape (String.ofList text).toUTF8.toList
  (String.fromUTF8? (ByteArray.mk bytes.toArray)).map String.toList

def bracketed? (text : List Char) : Option Host :=
  if text.getLast? = some ']' && Address.isIpv6 text.tail.dropLast then
    some (.ipv6 text.tail.dropLast)
  else none

def namedHost? (text : List Char) : Option Host :=
  if text.head? = some '[' then bracketed? text
  else do
    let labels ← Domain.labels? (← percentDecode? text)
    if labels = [[]] then none
    else if Address.endsInNumber labels then (Address.ipv4? labels).map .ipv4
    else return .domain labels

def isForbiddenInHost (c : Char) : Bool :=
  c ∈ ['\x00', '\t', '\n', '\r', ' ', '#', '/', ':', '<', '>', '?', '@', '[', '\\', ']', '^', '|']

/-- Reads a host; none if there is none or if it is malformed. -/
def host? (kind : SchemeKind) (text : List Char) : Option Host :=
  if text.isEmpty then none
  else if kind ≠ .other then namedHost? text
  else if text.head? = some '[' then bracketed? text
  else if text.any isForbiddenInHost then none
  else some (.name text)

/-- Splits a host from the port behind it: at the first colon outside square brackets. -/
def splitPort : (bracket : Bool) → List Char → List Char × Option (List Char)
  | _, [] => ([], none)
  | bracket, c :: rest =>
    if c = ':' ∧ bracket = false then ([], some rest)
    else
      let bracket := if c = '[' then true else if c = ']' then false else bracket
      let (host, port) := splitPort bracket rest
      (c :: host, port)

def isPort (text : List Char) : Bool :=
  let digits := text.takeWhile (· ≠ '\\')
  digits.all (Radix.isDigit 10) && Radix.value 10 digits < 65536

def afterCredentials (text : List Char) : List Char :=
  (text.reverse.takeWhile (· ≠ '@')).reverse

/-- The host in the part of a URL between its two slashes and its path. -/
def authorityHost? (kind : SchemeKind) (text : List Char) : Option Host :=
  let authority := text.takeWhile fun c => !kind.endsAuthority c
  let (host, port) := splitPort false (afterCredentials authority)
  if port.all isPort then host? kind host else none

/-- A letter and a colon or a bar: a drive, which is no host. -/
def isDrive : List Char → Bool
  | [c, d] => c.isAlpha && (d = ':' || d = '|')
  | _ => false

def pathSegments : List Char → List (List Char)
  | [] => [[]]
  | c :: rest =>
    if isSlash c then [] :: pathSegments rest
    else
      match pathSegments rest with
      | [] => [[c]]
      | segment :: more => (c :: segment) :: more

def isDots (count : Nat) (segment : List Char) : Bool :=
  match percentDecode? segment with
  | some text => text = List.replicate count '.'
  | none => false

/-- Whether the path begins with a drive once its dot segments are resolved; `depth` counts the
segments before. -/
def leadsToDrive : (depth : Nat) → List (List Char) → Bool
  | _, [] => false
  | depth, segment :: rest =>
    if isDots 2 segment then leadsToDrive (depth - 1) rest
    else if isDots 1 segment then leadsToDrive depth rest
    else (depth = 0 && isDrive segment) || leadsToDrive (depth + 1) rest

/-- The host of a file. It is dropped if it is the local one, or if the path begins with a drive. -/
def fileHost? (text : List Char) : Option Host :=
  match text with
  | a :: b :: rest =>
    if isSlash a && isSlash b then
      let name := rest.takeWhile fun c => !SchemeKind.file.endsAuthority c
      let path := (rest.drop name.length).takeWhile fun c => c ≠ '?' && c ≠ '#'
      if isDrive name then none
      else
        match host? .file name with
        | none => none
        | some host =>
          if host = .domain ["localhost".toList] ∨ leadsToDrive 0 (pathSegments path.tail) then none
          else some host
    else none
  | _ => none

/-- The host of an absolute URL; none if the text is no absolute URL, or one without host. -/
def parseHost? (text : List Char) : Option Host := do
  let (scheme, rest) ← scheme? (strip text)
  match SchemeKind.ofScheme scheme with
  | .file => fileHost? rest
  | .network => authorityHost? .network (rest.dropWhile isSlash)
  | .other => authorityHost? .other (← Text.stripPrefix? ['/', '/'] rest)

end Conform.Url
