import Conform.Store

/-!
Profiles: entries that count only where their profile is selected, and then replace the entries that
hold for all. In structured documents they stand in the section of their profile below `profiles`;
in properties documents their keys begin with `%` and the name of the profile.
-/

namespace Conform.Profile

variable {α : Type}

def isReserved (key : String) : Bool :=
  key = "profiles" || Text.startsWith "profiles." key

/-- The key that an entry of the selected profile has once the profile is applied. -/
def ownKey? (profile : Option String) (key : String) : Option String :=
  profile.bind fun name => Text.after? ("profiles." ++ name ++ ".") key

/-- The entries that hold for all, with those of the selected profile written over them. -/
def overlay (fragment : Store α) (profile : Option String) : Store α :=
  let base := fragment.entries.filter fun (key, _) => !isReserved key
  let own := fragment.entries.filterMap fun (key, value) =>
    if key = "profiles" then none else (ownKey? profile key).map (·, value)
  (Store.ofList base).merge (Store.ofList own)

/-- The profile and the key that follow the mark of profile entries in a properties document. -/
def splitMarked? (key : String) : Option (Option (String × String)) :=
  match key.toList with
  | '%' :: marked =>
    some <| (Text.splitFirst? '.' marked).map fun (name, own) =>
      (String.ofList name, String.ofList own)
  | _ => none

def overlayMarked (entries : Store α) (profile : Option String) : Store α :=
  let base := entries.entries.filter fun (key, _) => (splitMarked? key).isNone
  let own := entries.entries.filterMap fun (key, value) =>
    match splitMarked? key with
    | some (some (name, own)) => if some name = profile then some (own, value) else none
    | _ => none
  (Store.ofList base).insertAll own

end Conform.Profile
