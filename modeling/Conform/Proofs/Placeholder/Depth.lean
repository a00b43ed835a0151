import Conform.Proofs.Placeholder.Machine
import Mathlib.Data.List.Perm.Subperm

namespace Conform.Placeholder

/-- The texts that are not finished, by their keys and what is still to be read of them. -/
def pending (frames : List Frame) : List (String × List Char) := frames.map fun f => (f.key, f.rest)

namespace State

/-- The number of look-ups that are under way. Every text above the first is read within one. -/
def lookups (s : State) : Nat :=
  match s.phase with
  | .seeking _ _ => s.frames.length - 1 + 1
  | _ => s.frames.length - 1

/-- What a step does to the texts that are not finished. -/
inductive Moves (fragment : Config) (s s' : State) : Prop
  | begin {key text : String} (hp : s.phase = .reading) (hf : s.frames = [])
      (ht : s.todo = (key, text) :: s'.todo) (h : pending s'.frames = [(key, text.toList)])
  | scan {f : Frame} {below : List Frame} {rest : List Char} (hp : s.phase = .reading)
      (hf : s.frames = f :: below) (hrest : rest.length < f.rest.length) (ht : s'.todo = s.todo)
      (h : pending s'.frames = (f.key, rest) :: pending below)
  | finish {f : Frame} {below : List Frame} (hp : s.phase = .reading) (hf : s.frames = f :: below)
      (ht : s'.todo = s.todo) (h : pending s'.frames = pending below)
  | enter {name text : String} {fallback? : Option (List Char)}
      (hp : s.phase = .seeking name fallback?) (hn : name ∉ s.stack)
      (hf : fragment.get? name = some (.text text)) (ht : s'.todo = s.todo)
      (h : pending s'.frames = (name, text.toList) :: pending s.frames)
  | stay (hp : s.phase = .reading → s.frames = []) (ht : s'.todo = s.todo)
      (h : pending s'.frames = pending s.frames)

theorem stack_eq_pending (s : State) : s.stack = (pending s.frames).map Prod.fst := by
  rw [stack, pending, List.map_map]
  rfl

theorem pending_deliver (s : State) (text : List Char) :
    pending (s.deliver text).frames = pending s.frames := by
  rw [deliver]
  split
  next h => rw [h]
  next h => rw [h]; rfl

theorem todo_deliver (s : State) (text : List Char) : (s.deliver text).todo = s.todo := by
  rw [deliver]
  split <;> rfl

section Moves

variable {fragment : Config} {s s' : State} {f : Frame} {below : List Frame} {name : String}
  {fallback? : Option (List Char)}

theorem Moves.shortens (hm : Moves fragment s s') (hphase : s.phase = .reading)
    (hframes : s.frames = f :: below) :
    pending s'.frames = pending below ∨
      ∃ rest, rest.length < f.rest.length ∧ pending s'.frames = (f.key, rest) :: pending below := by
  cases hm with
  | begin hp hf => cases hframes.symm.trans hf
  | scan hp hf hrest ht h =>
    cases hframes.symm.trans hf
    exact .inr ⟨_, hrest, h⟩
  | finish hp hf ht h =>
    cases hframes.symm.trans hf
    exact .inl h
  | enter hp => cases hphase.symm.trans hp
  | stay hp => cases hframes.symm.trans (hp hphase)

theorem Moves.keeps (hm : Moves fragment s s') (hphase : s.phase = .seeking name fallback?) :
    pending s'.frames = pending s.frames ∨
      ∃ text, fragment.get? name = some (.text text) ∧
        pending s'.frames = (name, text.toList) :: pending s.frames := by
  cases hm with
  | begin hp => cases hphase.symm.trans hp
  | scan hp => cases hphase.symm.trans hp
  | finish hp => cases hphase.symm.trans hp
  | enter hp hn hf ht h =>
    cases hphase.symm.trans hp
    exact .inr ⟨_, hf, h⟩
  | stay hp ht h => exact .inl h

end Moves

end State

variable {fragment context : Config} {s s' : State}

theorem moves_read (hp : s.phase = .reading) : State.Moves fragment s s.read := by
  rw [State.read]
  split
  next hf =>
    split
    next ht => exact .stay (fun _ => hf) rfl rfl
    next key text todo ht => exact .begin hp hf ht rfl
  next f below hf =>
    split
    next hfirst => exact .finish hp hf (State.todo_deliver ..) (State.pending_deliver ..)
    next found hfirst => exact .scan hp hf (first?_length hfirst) rfl rfl

theorem moves_seek {name : String} {fallback? : Option (List Char)}
    (hp : s.phase = .seeking name fallback?) :
    State.Moves fragment s (s.seek fragment context name fallback?) := by
  have hreading (h : s.phase = .reading) : s.frames = [] := by cases hp.symm.trans h
  rw [State.seek]
  split
  next => exact .stay hreading rfl rfl
  next hn =>
    split
    next text hf => exact .enter hp hn hf rfl rfl
    next => exact .stay hreading (State.todo_deliver ..) (State.pending_deliver ..)
    next =>
      split
      next => exact .stay hreading (State.todo_deliver ..) (State.pending_deliver ..)
      next => exact .stay hreading rfl rfl

theorem moves_next (fragment context : Config) (s : State) :
    State.Moves fragment s (next fragment context s) := by
  rw [next]
  split
  next hp => exact moves_read hp
  next hp => exact moves_seek hp
  next hp => exact .stay (fun h => by cases hp.symm.trans h) rfl rfl
  next hp => exact .stay (fun h => by cases hp.symm.trans h) rfl rfl

/-- Distinct keys of a document, the last of which was there first: all others hold text. -/
structure Nested (fragment : Config) (stack : List String) : Prop where
  distinct : stack.Nodup
  known : ∀ key ∈ stack, key ∈ fragment.keys
  texts : ∀ key ∈ stack.dropLast, ∃ text, fragment.get? key = some (.text text)

section Nested

variable {stack : List String} {key name text : String}

theorem nested_singleton (h : key ∈ fragment.keys) : Nested fragment [key] where
  distinct := List.nodup_cons.2 ⟨List.not_mem_nil, List.nodup_nil⟩
  known _ hk := List.mem_singleton.1 hk ▸ h
  texts := nofun

theorem Nested.tail (h : Nested fragment (key :: stack)) : Nested fragment stack where
  distinct := (List.nodup_cons.1 h.distinct).2
  known k hk := h.known k (List.mem_cons_of_mem _ hk)
  texts k hk := by
    apply h.texts
    cases stack with
    | nil => cases hk
    | cons => exact List.mem_cons_of_mem _ hk

theorem Nested.push (h : Nested fragment stack) (hn : name ∉ stack)
    (hf : fragment.get? name = some (.text text)) : Nested fragment (name :: stack) where
  distinct := List.nodup_cons.2 ⟨hn, h.distinct⟩
  known k hk := by
    rcases List.mem_cons.1 hk with rfl | hk
    · exact Store.mem_keys_of_get? hf
    · exact h.known k hk
  texts k hk := by
    cases stack with
    | nil => cases hk
    | cons =>
      rcases List.mem_cons.1 hk with rfl | hk
      · exact ⟨text, hf⟩
      · exact h.texts k hk

/-- There are no more such keys than texts in the document, and one. -/
theorem Nested.length_le (h : Nested fragment stack) :
    stack.length - 1 ≤ fragment.entries.countP (·.2.isText) := by
  have hsubset : stack.dropLast ⊆ (fragment.entries.filter (·.2.isText)).map Prod.fst := by
    intro key hkey
    obtain ⟨text, htext⟩ := h.texts key hkey
    refine List.mem_map.2 ⟨(key, .text text), List.mem_filter.2 ⟨?_, rfl⟩, rfl⟩
    exact Store.get?_eq_some_iff.1 htext
  have hdistinct : stack.dropLast.Nodup := h.distinct.sublist (List.dropLast_sublist stack)
  have hle := (List.subperm_of_subset hdistinct hsubset).length_le
  rwa [List.length_dropLast, List.length_map, ← List.countP_eq_length_filter] at hle

end Nested

/-- What every step of a run keeps: the keys on the stack are nested, and those to come are keys of
the document. -/
structure Kept (fragment : Config) (s : State) : Prop where
  nested : Nested fragment s.stack
  todo : ∀ e ∈ s.todo, e.1 ∈ fragment.keys

theorem kept_initial (fragment : Config) : Kept fragment (initial fragment) where
  nested := ⟨List.nodup_nil, nofun, nofun⟩
  todo e he := by
    obtain ⟨entry, hentry, htext⟩ := List.mem_flatMap.1 he
    obtain ⟨text, -, rfl⟩ := List.mem_map.1 htext
    exact List.mem_map_of_mem hentry

theorem Kept.step (h : Kept fragment s) (hm : State.Moves fragment s s') : Kept fragment s' := by
  obtain ⟨hnested, htodo⟩ := h
  rw [State.stack_eq_pending] at hnested
  cases hm with
  | @begin key text hp hf ht hs =>
    rw [ht] at htodo
    refine ⟨?_, fun e he => htodo e (List.mem_cons_of_mem _ he)⟩
    rw [State.stack_eq_pending, hs]
    exact nested_singleton (htodo (key, text) List.mem_cons_self)
  | scan hp hf hrest ht hs =>
    refine ⟨?_, ht ▸ htodo⟩
    rw [State.stack_eq_pending, hs]
    rwa [hf] at hnested
  | finish hp hf ht hs =>
    refine ⟨?_, ht ▸ htodo⟩
    rw [State.stack_eq_pending, hs]
    rw [hf] at hnested
    exact hnested.tail
  | enter hp hn hf ht hs =>
    refine ⟨?_, ht ▸ htodo⟩
    rw [State.stack_eq_pending] at hn ⊢
    rw [hs]
    exact hnested.push hn hf
  | stay hp ht hs =>
    refine ⟨?_, ht ▸ htodo⟩
    rwa [State.stack_eq_pending, hs]

theorem Kept.reaches (h : Kept fragment s) (hr : Reaches fragment context s s') :
    Kept fragment s' := by
  obtain ⟨n, rfl⟩ := hr
  induction n with
  | zero => exact h
  | succ n ih =>
    rw [Function.iterate_succ_apply']
    exact ih.step (moves_next fragment context _)

theorem Kept.lookups_le (h : Kept fragment s) :
    s.lookups ≤ fragment.entries.countP (·.2.isText) + 1 := by
  have hle := h.nested.length_le
  rw [State.stack, List.length_map] at hle
  rw [State.lookups]
  split <;> omega

/-- Resolving ends on every document: its steps lead to the texts of the resolved document or to its
failure. On the way there the keys on the stack are distinct keys of the document, look-ups are
nested at most once more than the document has texts, and of a text that is read less is left with
every step, while look-ups leave what is left as it is. -/
theorem resolve_ends_within_bounds (fragment context : Config) :
    EndsAs fragment context (initial fragment) (resolve fragment context) (fun resolved =>
      ⟨.resolved, [], [], (textsIn resolved.entries).map Prod.snd⟩) ∧
    ∀ s, Reaches fragment context (initial fragment) s →
      s.stack.Nodup ∧ (∀ key ∈ s.stack, key ∈ fragment.keys) ∧
      s.lookups ≤ fragment.entries.countP (·.2.isText) + 1 ∧
      (∀ f below, s.phase = .reading → s.frames = f :: below →
        pending (next fragment context s).frames = pending below ∨
        ∃ rest, rest.length < f.rest.length ∧
          pending (next fragment context s).frames = (f.key, rest) :: pending below) ∧
      (∀ name fallback?, s.phase = .seeking name fallback? →
        pending (next fragment context s).frames = pending s.frames ∨
        ∃ text, fragment.get? name = some (.text text) ∧
          pending (next fragment context s).frames = (name, text.toList) :: pending s.frames) := by
  refine ⟨endsAs_resolve fragment context, fun s hs => ?_⟩
  have hkept := (kept_initial fragment).reaches hs
  have hmoves := moves_next fragment context s
  exact ⟨hkept.nested.distinct, hkept.nested.known, hkept.lookups_le,
    fun f below => hmoves.shortens, fun name fallback? => hmoves.keeps⟩

end Conform.Placeholder
