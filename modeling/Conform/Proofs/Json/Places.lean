import Conform.Document.Json.Basic
import Conform.Proofs.Value.Parts

namespace Conform.Json

def at? : Json → (path : List Value.Step) → Option Json
  | document, [] => some document
  | array items, .element index :: path =>
    match items[index]? with
    | some item => at? item path
    | none => none
  | object members, .entry name :: path =>
    match members.lookup name with
    | some document => at? document path
    | none => none
  | _, _ :: _ => none

theorem toValues_eq_map (items : List Json) : toValues items = items.map toValue := by
  induction items with
  | nil => rfl
  | cons item rest ih => rw [toValues, ih, List.map_cons]

theorem toEntries_eq_map (members : List (String × Json)) :
    toEntries members = members.map fun member => (member.1, member.2.toValue) := by
  induction members with
  | nil => rfl
  | cons member rest ih => rw [toEntries, ih, List.map_cons]

theorem ofValues_eq_map (items : List Value) : ofValues items = items.map ofValue := by
  induction items with
  | nil => rfl
  | cons item rest ih => rw [ofValues, ih, List.map_cons]

theorem ofEntries_eq_map (entries : List (String × Value)) :
    ofEntries entries = entries.map fun entry => (entry.1, ofValue entry.2) := by
  induction entries with
  | nil => rfl
  | cons entry rest ih => rw [ofEntries, ih, List.map_cons]

theorem at?_toValue {document found : Json} {path : List Value.Step}
    (h : document.at? path = some found) : document.toValue.at? path = some found.toValue := by
  induction path generalizing document with
  | nil =>
    rw [at?] at h
    cases h
    rw [Value.at?]
  | cons step path ih =>
    rw [at?.eq_def] at h
    split at h
    next => contradiction
    next items index _ heq =>
      cases heq
      split at h
      next item hitem =>
        rw [toValue, toValues_eq_map, Value.at?, List.getElem?_map, hitem]
        exact ih h
      next => cases h
    next members name _ heq =>
      cases heq
      split at h
      next member hmember =>
        rw [toValue, toEntries_eq_map, Value.at?, Entries.lookup_map toValue, hmember]
        exact ih h
      next => cases h
    next => cases h

theorem at?_ofValue {value found : Value} {path : List Value.Step}
    (h : value.at? path = some found) : (ofValue value).at? path = some (ofValue found) := by
  induction path generalizing value with
  | nil =>
    rw [Value.at?] at h
    cases h
    rw [at?]
  | cons step path ih =>
    rw [Value.at?.eq_def] at h
    split at h
    next => contradiction
    next items index _ heq =>
      cases heq
      split at h
      next item hitem =>
        rw [ofValue, ofValues_eq_map, at?, List.getElem?_map, hitem]
        exact ih h
      next => cases h
    next entries name _ heq =>
      cases heq
      split at h
      next inner hinner =>
        rw [ofValue, ofEntries_eq_map, at?, Entries.lookup_map ofValue, hinner]
        exact ih h
      next => cases h
    next => cases h

end Conform.Json
