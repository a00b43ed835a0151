import Mathlib.Data.Finset.Dedup
import Mathlib.Data.Finset.Card
import Conform.Proofs.Store.Section

namespace Conform

variable {α : Type}

def Entries.putAll (entries written : List (String × α)) : List (String × α) :=
  written.foldl (fun entries e => put entries e.1 e.2) entries

namespace Store

theorem entries_insertAll_eq (s : Store α) (written : List (String × α)) :
    (s.insertAll written).entries = Entries.putAll s.entries written := by
  induction written generalizing s with
  | nil => rfl
  | cons e rest ih => exact ih (s.insert e.1 e.2)

/-- The keys of a store are the keys written, in the order of their first writes, and under each of
them is the value of its last write. -/
structure Holds (s : Store α) (written : List (String × α)) : Prop where
  keys : s.keys = (written.map Prod.fst).eraseDups
  get? : ∀ key, s.get? key = written.reverse.lookup key
  size : s.size = (written.map Prod.fst).toFinset.card

theorem ofList_append (front back : List (String × α)) :
    ofList (front ++ back) = (ofList front).insertAll back :=
  insertAll_append empty front back

theorem keys_ofList (written : List (String × α)) :
    (ofList written).keys = (written.map Prod.fst).eraseDups := by
  induction written using List.reverseRecOn with
  | nil => rfl
  | append_singleton written e ih =>
    rw [ofList_append]
    change ((ofList written).insert e.1 e.2).keys = _
    rw [keys_insert, ih, List.map_append, List.eraseDups_append, List.map_singleton]
    by_cases hk : e.1 ∈ written.map Prod.fst
    · rw [if_pos (List.mem_eraseDups.2 hk)]
      simp [List.removeAll, hk]
    · rw [if_neg fun h => hk (List.mem_eraseDups.1 h)]
      simp [List.removeAll, hk, List.eraseDups_cons]

theorem get?_ofList (written : List (String × α)) (key : String) :
    (ofList written).get? key = written.reverse.lookup key := by
  induction written using List.reverseRecOn with
  | nil => rfl
  | append_singleton written e ih =>
    rw [ofList_append, List.reverse_append]
    change ((ofList written).insert e.1 e.2).get? key = (e :: written.reverse).lookup key
    rw [get?_insert, List.lookup_cons, ih]
    by_cases hk : key = e.1
    · rw [if_pos hk, beq_iff_eq.2 hk]
    · rw [if_neg hk, beq_false_of_ne hk]

theorem holds_ofList (written : List (String × α)) : (ofList written).Holds written where
  keys := keys_ofList written
  get? := get?_ofList written
  size := by
    have hset : (ofList written).keys.toFinset = (written.map Prod.fst).toFinset := by
      ext key
      rw [keys_ofList, List.mem_toFinset, List.mem_toFinset, List.mem_eraseDups]
    have hd : (ofList written).keys.Nodup := (ofList written).distinct
    rw [← hset, List.toFinset_card_of_nodup hd, Store.keys, List.length_map, Store.size]

end Store

/-- The steps by which a store came about. -/
inductive History (α : Type) where
  | empty
  | insert (h : History α) (key : String) (value : α)
  | extend (h : History α) (entries : List (String × α))
  | merge (h overlay : History α)
  | subset (h : History α) (within : String)

namespace History

def store : History α → Store α
  | empty => .empty
  | insert h key value => h.store.insert key value
  | extend h entries => h.store.insertAll entries
  | merge h overlay => h.store.merge overlay.store
  | subset h within => h.store.subset within

/-- The same steps on bare entries, of which nothing says that their keys are distinct. -/
def entries : History α → List (String × α)
  | empty => []
  | insert h key value => Entries.put h.entries key value
  | extend h entries => Entries.putAll h.entries entries
  | merge h overlay => Entries.putAll h.entries overlay.entries
  | subset h within => Entries.putAll [] (Entries.rename? (Store.section? within) h.entries)

/-- What was written, one after another. Of what was written before a section was taken, the section
has what lies below its key. -/
def written : History α → List (String × α)
  | empty => []
  | insert h key value => h.written ++ [(key, value)]
  | extend h entries => h.written ++ entries
  | merge h overlay => h.written ++ overlay.written
  | subset h within => Entries.rename? (Store.section? within) h.written

theorem entries_store (h : History α) : h.store.entries = h.entries := by
  induction h with
  | empty => rfl
  | insert h key value ih => exact congrArg (Entries.put · key value) ih
  | extend h entries ih => rw [store, Store.entries_insertAll_eq, ih, History.entries]
  | merge h overlay ih iho =>
    rw [store, Store.merge, Store.entries_insertAll_eq, ih, iho, History.entries]
  | subset h within ih =>
    rw [store, Store.subset, Store.ofList, Store.entries_insertAll_eq, ih]
    rfl

/-- A store is what is written into an empty one. -/
theorem store_eq_ofList (h : History α) : h.store = .ofList h.written := by
  induction h with
  | empty => rfl
  | insert h key value ih =>
    rw [store, ih, written, Store.ofList_append]
    rfl
  | extend h entries ih => rw [store, ih, written, Store.ofList_append]
  | merge h overlay ih iho =>
    rw [store, ih, iho, written, Store.merge_ofList, Store.ofList_append]
  | subset h within ih =>
    rw [store, ih, written, Store.ofList, Store.subset_insertAll]
    rfl

/-- After any history the keys are distinct, and the store holds what was written, whether the
writes that made an overlay are counted or the entries that it came to. A further write gives the
value of the last write of its key. -/
theorem store_holds_written (h : History α) :
    h.store.entries = h.entries ∧ (h.entries.map Prod.fst).Nodup ∧
    h.store.Holds h.written ∧
    (∀ overlay : Store α, (h.store.merge overlay).Holds (h.written ++ overlay.entries)) ∧
    ∀ key value, h.store.exchange key value =
      (h.written.reverse.lookup key, (h.insert key value).store) := by
  have hholds : h.store.Holds h.written := by
    rw [store_eq_ofList]
    exact Store.holds_ofList h.written
  refine ⟨h.entries_store, ?_, hholds, ?_, ?_⟩
  · rw [← h.entries_store]
    exact h.store.distinct
  · intro overlay
    rw [store_eq_ofList, Store.merge, ← Store.ofList_append]
    exact Store.holds_ofList _
  · intro key value
    rw [Store.exchange, hholds.get?, store]

end History

end Conform
