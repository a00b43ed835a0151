import Conform.Document.Json.Reader
import Conform.Document.Placeholder
import Conform.Document.Profile
import Conform.Document.Properties
import Conform.Document.Toml.Reader
import Conform.Finding
import Conform.Load.FileTree

namespace Conform

/-- Makes the configuration of a source, given the selected profile and the configuration that
placeholders may refer to. -/
structure Factory where
  name : String
  supports : (path : String) → Bool
  create : FileTree → (path : String) → (profile : Option String) → (context : Config) →
    Except LoadFailure Config

namespace Factory

/-- The last name in a path, if it does not lead back. Slashes and single dots behind it do not
count. -/
def fileName? (path : String) : Option String :=
  match ((FileTree.parts path).filter fun p => p ≠ "" && p ≠ ".").getLast? with
  | some name => if name = ".." then none else some name
  | none => none

def extension? (path : String) : Option String := do
  let name ← fileName? path
  let (reversed, before) ← Text.splitFirst? '.' name.toList.reverse
  if before.isEmpty then none else return String.ofList reversed.reverse

def hasExtension (extension path : String) : Bool :=
  (extension? path).any fun e => e.toList.map Char.toLower = extension.toList

def readText (files : FileTree) (path : String) : Except LoadFailure String :=
  match files.readText? path with
  | some text => .ok text
  | none => .error (.unreadable path)

end Factory

/-- A format of documents, under a name that is the extension of its files too: how a text becomes
a configuration in which a profile is applied. -/
structure Format where
  name : String
  read : (text : String) → (profile : Option String) → Except LoadFailure Config

namespace Format

def properties : Format where
  name := "properties"
  read text profile :=
    (Properties.parse text).map fun entries =>
      Properties.toConfig (Profile.overlayMarked entries profile)

def toml : Format where
  name := "toml"
  read text profile :=
    match Toml.parse? text with
    | some document => .ok (Profile.overlay (Toml.toConfig document) profile)
    | none => .error .malformedToml

def json : Format where
  name := "json"
  read text profile :=
    match Json.parse? text with
    | some document =>
      if document.isObject then .ok (Profile.overlay document.toConfig profile)
      else .error (.rootNotObject "JSON")
    | none => .error .malformedJson

def fragment (format : Format) (files : FileTree) (path : String) (profile : Option String) :
    Except LoadFailure Config := do
  format.read (← Factory.readText files path) profile

end Format

namespace Factory

def ofFormat (format : Format) : Factory where
  name := format.name
  supports := hasExtension format.name
  create files path profile context := do
    Placeholder.resolve (← format.fragment files path profile) context

def properties : Factory := ofFormat .properties

def toml : Factory := ofFormat .toml

def json : Factory := ofFormat .json

end Factory

abbrev Registry := List Factory

namespace Registry

def default : Registry := [.properties, .toml, .json]

def resolve (r : Registry) (path : String) : Except Finding Factory :=
  match r.find? (·.supports path) with
  | some factory => .ok factory
  | none => .error (.noFactory path)

end Registry

end Conform
