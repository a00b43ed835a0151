import Conform.Text.Split

namespace Conform

namespace Entries

variable {α : Type}

/-- Replaces the value of a key in place, or appends the key. -/
def put : List (String × α) → String → α → List (String × α)
  | [], k, v => [(k, v)]
  | (k', v') :: rest, k, v => if k' = k then (k, v) :: rest else (k', v') :: put rest k v

theorem keys_put (entries : List (String × α)) (k : String) (v : α) :
    (put entries k v).map Prod.fst =
      if k ∈ entries.map Prod.fst then entries.map Prod.fst else entries.map Prod.fst ++ [k] := by
  induction entries with
  | nil => simp [put]
  | cons e rest ih =>
    obtain ⟨k', v'⟩ := e
    by_cases h : k' = k
    · simp [put, h]
    · have h' : k ≠ k' := fun e => h e.symm
      by_cases hm : k ∈ rest.map Prod.fst
      · rw [if_pos hm] at ih
        simp only [put, h, if_false, List.map_cons, ih]
        rw [if_pos (List.mem_cons_of_mem _ hm)]
      · rw [if_neg hm] at ih
        simp only [put, h, if_false, List.map_cons, ih]
        rw [if_neg (by simpa [h'] using hm)]
        rfl

theorem nodup_put {entries : List (String × α)} (h : (entries.map Prod.fst).Nodup) (k : String)
    (v : α) : ((put entries k v).map Prod.fst).Nodup := by
  rw [keys_put]
  split
  · exact h
  next hk =>
    rw [List.nodup_append]
    refine ⟨h, by simp, ?_⟩
    intro a ha b hb
    simp only [List.mem_singleton] at hb
    subst hb
    exact fun e => hk (e ▸ ha)

theorem lookup_put (entries : List (String × α)) (k j : String) (v : α) :
    (put entries k v).lookup j = if j = k then some v else entries.lookup j := by
  induction entries with
  | nil =>
    by_cases h : j = k
    · simp [put, h]
    · have hb : (j == k) = false := by simpa using h
      simp [put, List.lookup_cons, h, hb]
  | cons e rest ih =>
    obtain ⟨k', v'⟩ := e
    by_cases h : k' = k
    · subst h
      by_cases hj : j = k'
      · simp [put, hj]
      · have hb : (j == k') = false := by simpa using hj
        simp [put, List.lookup_cons, hj, hb]
    · by_cases hk : j = k'
      · subst hk
        simp [put, h]
      · have hb : (j == k') = false := by simpa using hk
        simp [put, h, List.lookup_cons, hb, ih]

end Entries

/-- A map from keys to values in the order of the keys' first writes. -/
structure Store (α : Type) where
  entries : List (String × α)
  distinct : (entries.map Prod.fst).Nodup

namespace Store

variable {α : Type}

def empty : Store α := ⟨[], by simp⟩

instance : Inhabited (Store α) := ⟨empty⟩

instance : EmptyCollection (Store α) := ⟨empty⟩

def keys (s : Store α) : List String := s.entries.map Prod.fst

def size (s : Store α) : Nat := s.entries.length

def isEmpty (s : Store α) : Bool := s.entries.isEmpty

def get? (s : Store α) (k : String) : Option α := s.entries.lookup k

def contains (s : Store α) (k : String) : Bool := (s.get? k).isSome

def insert (s : Store α) (k : String) (v : α) : Store α :=
  ⟨Entries.put s.entries k v, Entries.nodup_put s.distinct k v⟩

/-- Writes a value under a key; also gives the value that it replaced. -/
def exchange (s : Store α) (k : String) (v : α) : Option α × Store α :=
  (s.get? k, s.insert k v)

def insertAll (s : Store α) (entries : List (String × α)) : Store α :=
  entries.foldl (fun s e => s.insert e.1 e.2) s

def ofList (entries : List (String × α)) : Store α :=
  empty.insertAll entries

def merge (base overlay : Store α) : Store α :=
  base.insertAll overlay.entries

/-- The entries below a dotted key, with that key and the dot after it removed. Dots at the end of
the given key do not count. -/
def section? (within : String) (k : String) : Option String :=
  let lead := Text.dropEndWhile (· = '.') within.toList ++ ['.']
  (Text.stripPrefix? lead k.toList).map String.ofList

def subset (s : Store α) (within : String) : Store α :=
  ofList (s.entries.filterMap fun (k, v) => (section? within k).map (·, v))

def mapValues {β : Type} (f : String → α → β) (s : Store α) : Store β where
  entries := s.entries.map fun (k, v) => (k, f k v)
  distinct := by
    have h : (s.entries.map fun (k, v) => (k, f k v)).map Prod.fst = s.entries.map Prod.fst := by
      simp [Function.comp_def]
    rw [h]
    exact s.distinct

@[simp] theorem get?_insert (s : Store α) (k j : String) (v : α) :
    (s.insert k v).get? j = if j = k then some v else s.get? j :=
  Entries.lookup_put s.entries k j v

theorem keys_insert (s : Store α) (k : String) (v : α) :
    (s.insert k v).keys = if k ∈ s.keys then s.keys else s.keys ++ [k] :=
  Entries.keys_put s.entries k v

theorem mem_keys_of_get? {s : Store α} {k : String} {v : α} (h : s.get? k = some v) :
    k ∈ s.keys := by
  rw [get?, List.lookup_eq_some_iff] at h
  obtain ⟨before, after, heq, _⟩ := h
  simp [keys, heq]

end Store

end Conform
