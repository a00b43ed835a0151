import Conform.Proofs.Store.Writes
import Conform.Value.Basic

namespace Conform.Value

/-- A step into a value: to an element of a list, or to an entry of a map. -/
inductive Step where
  | element (index : Nat)
  | entry (name : String)

/-- What stands at a place in a value. -/
def at? : Value → (path : List Step) → Option Value
  | value, [] => some value
  | .list items, .element index :: path =>
    match items[index]? with
    | some item => at? item path
    | none => none
  | .map entries, .entry name :: path =>
    match entries.lookup name with
    | some value => at? value path
    | none => none
  | _, _ :: _ => none

/-- Whatever holds of all that is neither list nor map, of a list as soon as it holds of its elements,
and of a map as soon as it holds of the values in it, holds of every value. -/
theorem induction {motive : Value → Prop}
    (leaf : ∀ value, value.kind ≠ .list → value.kind ≠ .map → motive value)
    (list : ∀ items, (∀ item ∈ items, motive item) → motive (.list items))
    (map : ∀ entries : List (String × Value), (∀ entry ∈ entries, motive entry.2) →
      motive (.map entries))
    (value : Value) : motive value := by
  cases value with
  | list items => exact list items fun item hi => induction leaf list map item
  | map entries => exact map entries fun entry he => induction leaf list map entry.2
  | _ => exact leaf _ (by simp [kind]) (by simp [kind])
termination_by sizeOf value
decreasing_by
  · have := List.sizeOf_lt_of_mem hi
    simp only [Value.list.sizeOf_spec]
    omega
  · have := List.sizeOf_lt_of_mem he
    obtain ⟨key, value⟩ := entry
    simp only [Value.map.sizeOf_spec, Prod.mk.sizeOf_spec] at this ⊢
    omega

variable {value part : Value} {items : List Value} {entries : List (String × Value)}
  {path : List Step} {P : Value → Prop}

theorem at?_list_element (items : List Value) (index : Nat) (path : List Step) :
    (list items).at? (.element index :: path) = items[index]?.bind (·.at? path) := by
  rw [at?]
  cases items[index]? <;> rfl

theorem at?_map_entry (entries : List (String × Value)) (name : String) (path : List Step) :
    (map entries).at? (.entry name :: path) = (entries.lookup name).bind (·.at? path) := by
  rw [at?]
  cases entries.lookup name <;> rfl

theorem at?_leaf (hlist : value.kind ≠ .list) (hmap : value.kind ≠ .map) (step : Step)
    (path : List Step) : value.at? (step :: path) = none := by
  cases value with
  | list items => exact absurd rfl hlist
  | map entries => exact absurd rfl hmap
  | _ => cases step <;> rfl

theorem at?_append (value : Value) (front back : List Step) :
    value.at? (front ++ back) = (value.at? front).bind (·.at? back) := by
  induction front generalizing value with
  | nil => rw [List.nil_append, at?, Option.bind_some]
  | cons step front ih =>
    rw [List.cons_append]
    cases value with
    | list items =>
      cases step with
      | element index => simp only [at?_list_element, Option.bind_assoc, ih]
      | entry name => rfl
    | map entries =>
      cases step with
      | element index => rfl
      | entry name => simp only [at?_map_entry, Option.bind_assoc, ih]
    | _ => cases step <;> rfl

/-- A property holds of a value and of all its parts. -/
def Everywhere (P : Value → Prop) (value : Value) : Prop :=
  ∀ path part, value.at? path = some part → P part

theorem everywhere_leaf (hlist : value.kind ≠ .list) (hmap : value.kind ≠ .map) :
    value.Everywhere P ↔ P value := by
  constructor
  · intro h
    exact h [] value (by rw [at?])
  · intro h path part hpart
    cases path with
    | nil =>
      rw [at?, Option.some_inj] at hpart
      exact hpart ▸ h
    | cons step path =>
      rw [at?_leaf hlist hmap] at hpart
      cases hpart

theorem everywhere_list :
    (list items).Everywhere P ↔ P (list items) ∧ ∀ item ∈ items, item.Everywhere P := by
  constructor
  · intro h
    refine ⟨h [] _ rfl, fun item hitem path part hpart => ?_⟩
    obtain ⟨index, hindex⟩ := List.mem_iff_getElem?.1 hitem
    apply h (.element index :: path) part
    rw [at?_list_element, hindex]
    exact hpart
  · rintro ⟨hself, hitems⟩ path part hpart
    match path with
    | [] =>
      cases hpart
      exact hself
    | .element index :: path =>
      rw [at?_list_element, Option.bind_eq_some_iff] at hpart
      obtain ⟨item, hindex, hpart⟩ := hpart
      exact hitems item (List.mem_of_getElem? hindex) path part hpart
    | .entry name :: path => cases hpart

theorem everywhere_map :
    (map entries).Everywhere P ↔
      P (map entries) ∧ ∀ name value, entries.lookup name = some value → value.Everywhere P := by
  constructor
  · intro h
    refine ⟨h [] _ rfl, fun name value hvalue path part hpart => ?_⟩
    apply h (.entry name :: path) part
    rw [at?_map_entry, hvalue]
    exact hpart
  · rintro ⟨hself, hvalues⟩ path part hpart
    match path with
    | [] =>
      cases hpart
      exact hself
    | .entry name :: path =>
      rw [at?_map_entry, Option.bind_eq_some_iff] at hpart
      obtain ⟨value, hvalue, hpart⟩ := hpart
      exact hvalues name value hvalue path part hpart
    | .element index :: path => cases hpart

/-- No double in the value is one that is no number. -/
def Definite (value : Value) : Prop := value.Everywhere (· ≠ double .nan)

def mapKeys : Value → List String
  | map entries => entries.map Prod.fst
  | _ => []

/-- The entries of every map in the value have distinct keys, without which they make no map. -/
def Keyed (value : Value) : Prop := value.Everywhere fun part => part.mapKeys.Nodup

theorem keyed_leaf (hlist : value.kind ≠ .list) (hmap : value.kind ≠ .map) : value.Keyed := by
  rw [Keyed, everywhere_leaf hlist hmap]
  cases value with
  | map entries => exact absurd rfl hmap
  | _ => exact List.nodup_nil

theorem definite_list : (list items).Definite ↔ ∀ item ∈ items, item.Definite := by
  simp [Definite, everywhere_list]

theorem keyed_list : (list items).Keyed ↔ ∀ item ∈ items, item.Keyed := by
  simp [Keyed, everywhere_list, mapKeys]

theorem keyed_map :
    (map entries).Keyed ↔ (entries.map Prod.fst).Nodup ∧ ∀ entry ∈ entries, entry.2.Keyed := by
  rw [Keyed, everywhere_map]
  exact and_congr_right fun hd => Entries.forall_lookup_iff hd

theorem definite_map (hd : (entries.map Prod.fst).Nodup) :
    (map entries).Definite ↔ ∀ entry ∈ entries, entry.2.Definite := by
  rw [Definite, everywhere_map, Entries.forall_lookup_iff hd]
  exact and_iff_right (by simp)

end Conform.Value
