import Conform.Document.Toml.Basic
import Conform.Proofs.Nesting.Flatten
import Conform.Proofs.Number.Written

namespace Conform

namespace Json

mutual

/-- No decimal and no double that is not finite, at any depth. -/
def holds : Value → Bool
  | .decimal _ => false
  | .double x => x.isFinite
  | .list items => holdsItems items
  | .map entries => holdsEntries entries
  | _ => true

def holdsItems : List Value → Bool
  | [] => true
  | v :: rest => holds v && holdsItems rest

def holdsEntries : List (String × Value) → Bool
  | [] => true
  | (_, v) :: rest => holds v && holdsEntries rest

end

theorem isMap_numberValue (literal : String) : (numberValue literal).isMap = false := by
  rw [numberValue]
  split <;> rfl

theorem toEntries_ofEntries (entries : List (String × Value)) :
    toEntries (ofEntries entries) = entries.map fun e => (e.1, (ofValue e.2).toValue) := by
  induction entries with
  | nil => rfl
  | cons e rest ih => rw [ofEntries, toEntries, ih, List.map_cons]

theorem toValue_ofValue_map (entries : List (String × Value)) :
    (ofValue (.map entries)).toValue =
      .map (entries.map fun e => (e.1, (ofValue e.2).toValue)) := by
  rw [ofValue, toValue, toEntries_ofEntries]

theorem isMap_toValue_ofValue {value : Value} (h : value.isMap = false) :
    ((ofValue value).toValue).isMap = false := by
  cases value with
  | map entries => cases h
  | integer n => exact isMap_numberValue _
  | decimal d => exact isMap_numberValue _
  | double x =>
    cases x with
    | finite negative e f => exact isMap_numberValue _
    | _ => rfl
  | _ => rfl

mutual

/-- What JSON can express comes back as it was. -/
theorem toValue_ofValue : ∀ value, holds value = true → (ofValue value).toValue = value
  | .null, _ | .flag _, _ | .text _, _ => rfl
  | .integer n, _ => by
    rw [ofValue, toValue, numberValue_integer]
  | .double (.finite negative e f), _ => by
    rw [ofValue, toValue, numberValue_double]
  | .list items, h => by
    rw [ofValue, toValue, toValues_ofValues items h]
  | .map entries, h => by
    rw [ofValue, toValue, toEntries_ofEntries_of_holds entries h]

theorem toValues_ofValues : ∀ items, holdsItems items = true → toValues (ofValues items) = items
  | [], _ => rfl
  | value :: rest, h => by
    rw [holdsItems, Bool.and_eq_true] at h
    rw [ofValues, toValues, toValue_ofValue value h.1, toValues_ofValues rest h.2]

theorem toEntries_ofEntries_of_holds :
    ∀ entries, holdsEntries entries = true → toEntries (ofEntries entries) = entries
  | [], _ => rfl
  | (name, value) :: rest, h => by
    rw [holdsEntries, Bool.and_eq_true] at h
    rw [ofEntries, toEntries, toValue_ofValue value h.1, toEntries_ofEntries_of_holds rest h.2]

end

theorem get?_toConfig_ofConfig {c : Config} (h : c.Nestable) (key : String) :
    (ofConfig c).toConfig.get? key =
      if c.Kept key then (c.get? key).map fun value => (ofValue value).toValue else none := by
  rw [ofConfig, toConfig, toEntries_ofEntries,
    Nesting.get?_flatten_map toValue_ofValue_map fun _ => isMap_toValue_ofValue,
    Nesting.get?_flatten_nest h]
  split <;> rfl

end Json

namespace Toml

mutual

/-- The value that a document holds for a value: empty text for null, and for a decimal the number
that its text reads as. -/
def normalize : Value → Value
  | .null => .text ""
  | .decimal d => .double ((Binary64.ofChars? d.chars).getD .nan)
  | .list items => .list (normalizeItems items)
  | .map entries => .map (normalizeEntries entries)
  | value => value

def normalizeItems : List Value → List Value
  | [] => []
  | value :: rest => normalize value :: normalizeItems rest

def normalizeEntries : List (String × Value) → List (String × Value)
  | [] => []
  | (name, value) :: rest => (name, normalize value) :: normalizeEntries rest

end

mutual

theorem toValue_ofValue : ∀ value, (ofValue value).toValue = normalize value
  | .null | .flag _ | .text _ | .integer _ | .double _ => rfl
  | .decimal d => by
    obtain ⟨x, hx⟩ := d.exists_ofChars?
    rw [ofValue, normalize, hx]
    rfl
  | .list items => by
    rw [ofValue, toValue, toValues_ofValues items, normalize]
  | .map entries => by
    rw [ofValue, toValue, toEntries_ofEntries entries, normalize]

theorem toValues_ofValues : ∀ items, toValues (ofValues items) = normalizeItems items
  | [] => rfl
  | value :: rest => by
    rw [ofValues, toValues, toValue_ofValue value, toValues_ofValues rest, normalizeItems]

theorem toEntries_ofEntries : ∀ entries, toEntries (ofEntries entries) = normalizeEntries entries
  | [] => rfl
  | (name, value) :: rest => by
    rw [ofEntries, toEntries, toValue_ofValue value, toEntries_ofEntries rest, normalizeEntries]

end

theorem normalizeEntries_eq_map (entries : List (String × Value)) :
    normalizeEntries entries = entries.map fun e => (e.1, normalize e.2) := by
  induction entries with
  | nil => rfl
  | cons e rest ih => rw [normalizeEntries, ih, List.map_cons]

theorem isMap_normalize {value : Value} (h : value.isMap = false) :
    (normalize value).isMap = false := by
  cases value with
  | map entries => cases h
  | _ => rfl

theorem get?_toConfig_ofConfig {c : Config} (h : c.Nestable) (key : String) :
    (toConfig (ofConfig c)).get? key =
      if c.Kept key then (c.get? key).map normalize else none := by
  have hmap : ∀ entries,
      normalize (.map entries) = .map (entries.map fun e => (e.1, normalize e.2)) :=
    fun entries => congrArg Value.map (normalizeEntries_eq_map entries)
  rw [ofConfig, toConfig, toEntries_ofEntries, normalizeEntries_eq_map,
    Nesting.get?_flatten_map hmap fun _ => isMap_normalize, Nesting.get?_flatten_nest h]
  split <;> rfl

end Toml

namespace Nesting

variable {c d : Config}

theorem get?_of_perm (hp : d.entries.Perm c.entries) (key : String) : d.get? key = c.get? key := by
  apply Option.ext
  intro value
  rw [Store.get?_eq_some_iff, Store.get?_eq_some_iff, hp.mem_iff]

theorem kept_of_perm (hp : d.entries.Perm c.entries) (key : String) : d.Kept key ↔ c.Kept key := by
  have hkeys : d.keys.Perm c.keys := hp.map Prod.fst
  constructor
  · intro h other ho
    exact h other (hkeys.mem_iff.2 ho)
  · intro h other ho
    exact h other (hkeys.mem_iff.1 ho)

theorem nestable_of_perm (hp : d.entries.Perm c.entries) (h : c.Nestable) : d.Nestable where
  undotted key hk := h.undotted key ((hp.map Prod.fst).mem_iff.1 hk)
  flat entry he := h.flat entry (hp.mem_iff.1 he)

/-- A configuration comes back from its documents without the keys that have other keys below them,
whatever the order of its entries: from JSON as it was, from TOML with its values normalized. -/
theorem documents_restore_config (h : c.Nestable) :
    ((∀ entry ∈ c.entries, Json.holds entry.2 = true) →
      ∀ key, (Json.ofConfig c).toConfig.get? key = if c.Kept key then c.get? key else none) ∧
    (∀ key, (Toml.toConfig (Toml.ofConfig c)).get? key =
      if c.Kept key then (c.get? key).map Toml.normalize else none) ∧
    (∀ number : Decimal, ∃ x, Binary64.ofChars? number.chars = some x ∧
      Toml.normalize (.decimal number) = .double x) ∧
    (∀ d : Config, d.entries.Perm c.entries → ∀ key,
      (Json.ofConfig d).toConfig.get? key = (Json.ofConfig c).toConfig.get? key ∧
      (Toml.toConfig (Toml.ofConfig d)).get? key = (Toml.toConfig (Toml.ofConfig c)).get? key) ∧
    ((∀ key ∈ c.keys, ∀ other ∈ c.keys, ¬ Extends other key) →
      ((∀ entry ∈ c.entries, Json.holds entry.2 = true) →
        ∀ key, (Json.ofConfig c).toConfig.get? key = c.get? key) ∧
      ∀ key, (Toml.toConfig (Toml.ofConfig c)).get? key = (c.get? key).map Toml.normalize) := by
  have hjson : (∀ entry ∈ c.entries, Json.holds entry.2 = true) →
      ∀ key, (Json.ofConfig c).toConfig.get? key = if c.Kept key then c.get? key else none := by
    intro hvalues key
    rw [Json.get?_toConfig_ofConfig h]
    cases hget : c.get? key with
    | none => simp
    | some value =>
      have hmem := Store.get?_eq_some_iff.1 hget
      rw [Option.map_some, Json.toValue_ofValue value (hvalues _ hmem)]
  have htoml := Toml.get?_toConfig_ofConfig h
  refine ⟨hjson, htoml, ?_, ?_, ?_⟩
  · intro number
    obtain ⟨x, hx⟩ := number.exists_ofChars?
    exact ⟨x, hx, by rw [Toml.normalize, hx, Option.getD_some]⟩
  · intro d hp key
    have hd := nestable_of_perm hp h
    rw [Json.get?_toConfig_ofConfig hd, Json.get?_toConfig_ofConfig h,
      Toml.get?_toConfig_ofConfig hd, htoml, get?_of_perm hp]
    simp only [kept_of_perm hp, and_self]
  · intro hfree
    have hkept : ∀ {α : Type} (f : Value → α) (key : String),
        (if c.Kept key then (c.get? key).map f else none) = (c.get? key).map f := by
      intro α f key
      split
      next => rfl
      next hnot =>
        rw [Store.get?_eq_none_iff.2 fun hk => hnot (hfree key hk), Option.map_none]
    refine ⟨fun hvalues key => ?_, fun key => (htoml key).trans (hkept _ key)⟩
    have hid := hkept id key
    rw [Option.map_id_fun, id] at hid
    exact (hjson hvalues key).trans hid

def server : Config where
  entries := [
    ("server.tls.ports", .list [.integer 443, .null, .double (Binary64.ofRatio true 1 2)]),
    ("name", .text "edge"), ("server", .flag true), ("server.tls", .null),
    ("servers", .list [.map [("ratio", .double (Binary64.ofRatio false 1 3))]]), ("", .flag false)]
  distinct := by decide

theorem documents_restore_server :
    server.Nestable ∧ (∀ entry ∈ server.entries, Json.holds entry.2 = true) ∧
      (Json.ofConfig server).toConfig.get? "server" = none ∧
      (Json.ofConfig server).toConfig.get? "server.tls.ports" =
        some (.list [.integer 443, .null, .double (Binary64.ofRatio true 1 2)]) ∧
      (Toml.toConfig (Toml.ofConfig server)).get? "server.tls" = none ∧
      (Toml.toConfig (Toml.ofConfig server)).get? "server.tls.ports" =
        some (.list [.integer 443, .text "", .double (Binary64.ofRatio true 1 2)]) := by
  have h : server.Nestable := ⟨by decide, by decide⟩
  have hvalues : ∀ entry ∈ server.entries, Json.holds entry.2 = true := by decide
  obtain ⟨hjson, htoml, -⟩ := documents_restore_config h
  refine ⟨h, hvalues, ?_, ?_, ?_, ?_⟩
  · rw [hjson hvalues, if_neg (by decide)]
  · rw [hjson hvalues, if_pos (by decide)]
    rfl
  · rw [htoml, if_neg (by decide)]
  · rw [htoml, if_pos (by decide)]
    rfl

end Nesting

end Conform
