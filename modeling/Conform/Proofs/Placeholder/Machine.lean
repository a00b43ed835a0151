import Conform.Proofs.Placeholder.Resolution
import Mathlib.Logic.Function.Iterate

namespace Conform.Placeholder

structure Found where
  before : List Char
  name : String
  fallback? : Option (List Char)
  rest : List Char

def first? (text : List Char) : Option Found :=
  match splitStart? text with
  | none => none
  | some (before, after) =>
    match Text.splitFirst? '\x7d' after with
    | none => none
    | some (expression, rest) =>
      match Text.splitFirst? ':' expression with
      | some (name, fallback) => some ⟨before, String.ofList (Text.trim name), some fallback, rest⟩
      | none => some ⟨before, String.ofList (Text.trim expression), none, rest⟩

theorem first?_length {text : List Char} {found : Found} (h : first? text = some found) :
    found.rest.length < text.length := by
  rw [first?] at h
  split at h
  next => cases h
  next before after hs =>
    split at h
    next => cases h
    next expression rest he =>
      have hrest : found.rest = rest := by
        split at h <;> cases h <;> rfl
      have hafter := splitStart?_length hs
      have hend := congrArg List.length (Text.splitFirst?_eq_some he).1
      simp only [List.length_append, List.length_cons] at hend
      rw [hrest]
      omega

theorem pieces_eq_first? (text : List Char) :
    pieces text =
      match first? text with
      | none => [.literal text]
      | some found =>
        .literal found.before :: .reference found.name found.fallback? :: pieces found.rest := by
  rw [pieces_eq, first?]
  cases splitStart? text with
  | none => rfl
  | some opened =>
    obtain ⟨before, after⟩ := opened
    dsimp only
    cases Text.splitFirst? '\x7d' after with
    | none => rfl
    | some closed =>
      obtain ⟨expression, rest⟩ := closed
      simp only [Piece.ofExpression]
      cases Text.splitFirst? ':' expression <;> rfl

/-- A text that is not finished: the key of its entry, what it has come to, and what is still to be
read of it. -/
structure Frame where
  key : String
  written : List Char
  rest : List Char

inductive Phase where
  | reading
  /-- A placeholder was read in the innermost text, and its name is being looked up. -/
  | seeking (name : String) (fallback? : Option (List Char))
  | resolved
  | failed (failure : LoadFailure)

/-- Where resolving has come to: the texts that are not finished, the innermost first, the texts to
come with the keys of their entries, and the resolved texts. -/
structure State where
  phase : Phase
  frames : List Frame
  todo : List (String × String)
  done : List String

namespace State

def stack (s : State) : List String := s.frames.map Frame.key

def origin (s : State) : String := s.stack.getLast?.getD ""

def deliver (s : State) (text : List Char) : State :=
  match s.frames with
  | [] => { s with phase := .reading, done := s.done ++ [String.ofList text] }
  | f :: below =>
    { s with phase := .reading, frames := { f with written := f.written ++ text } :: below }

/-- Reads up to the next placeholder, or to the end. -/
def read (s : State) : State :=
  match s.frames with
  | [] =>
    match s.todo with
    | [] => { s with phase := .resolved }
    | (key, text) :: todo => { s with frames := [⟨key, [], text.toList⟩], todo }
  | f :: below =>
    match first? f.rest with
    | none => { s with frames := below }.deliver (f.written ++ f.rest)
    | some found =>
      { s with
        phase := .seeking found.name found.fallback?
        frames := { f with written := f.written ++ found.before, rest := found.rest } :: below }

def seek (fragment context : Config) (name : String) (fallback? : Option (List Char))
    (s : State) : State :=
  if name ∈ s.stack then { s with phase := .failed (.placeholderCycle s.origin) }
  else
    match fragment.get? name with
    | some (.text text) =>
      { s with phase := .reading, frames := ⟨name, [], text.toList⟩ :: s.frames }
    | some value => s.deliver value.plainText.toList
    | none =>
      match outside? context name fallback? with
      | some text => s.deliver text
      | none => { s with phase := .failed (.unresolvedPlaceholder s.origin name) }

end State

def next (fragment context : Config) (s : State) : State :=
  match s.phase with
  | .reading => s.read
  | .seeking name fallback? => s.seek fragment context name fallback?
  | .resolved | .failed _ => s

mutual

/-- The texts of a value in which placeholders are filled, in order. -/
def texts : Value → List String
  | .text text => [text]
  | .list items => textsOf items
  | _ => []

def textsOf : List Value → List String
  | [] => []
  | item :: rest => texts item ++ textsOf rest

end

def textsIn (entries : List (String × Value)) : List (String × String) :=
  entries.flatMap fun e => (texts e.2).map (e.1, ·)

def initial (fragment : Config) : State := ⟨.reading, [], textsIn fragment.entries, []⟩

section Runs

variable {α β : Type} (fragment context : Config)

def Reaches (s s' : State) : Prop := ∃ n, (next fragment context)^[n] s = s'

/-- From a state on, steps lead to the state that belongs to a result, or to its failure. -/
def EndsAs (s : State) (result : Except LoadFailure α) (after : α → State) : Prop :=
  match result with
  | .ok a => Reaches fragment context s (after a)
  | .error failure => ∃ s', Reaches fragment context s s' ∧ s'.phase = .failed failure

variable {fragment context} {s s' s'' : State} {after : α → State}

theorem Reaches.refl (s : State) : Reaches fragment context s s := ⟨0, rfl⟩

theorem Reaches.step (s : State) : Reaches fragment context s (next fragment context s) := ⟨1, rfl⟩

theorem Reaches.trans (h : Reaches fragment context s s') (h' : Reaches fragment context s' s'') :
    Reaches fragment context s s'' := by
  obtain ⟨m, rfl⟩ := h
  obtain ⟨n, rfl⟩ := h'
  exact ⟨n + m, Function.iterate_add_apply _ n m s⟩

theorem Reaches.endsAs {result : Except LoadFailure α} (h : Reaches fragment context s s')
    (h' : EndsAs fragment context s' result after) : EndsAs fragment context s result after := by
  cases result with
  | ok a => exact h.trans h'
  | error failure =>
    obtain ⟨final, hfinal, hphase⟩ := h'
    exact ⟨final, h.trans hfinal, hphase⟩

theorem EndsAs.of_step {result : Except LoadFailure α}
    (h : EndsAs fragment context (next fragment context s) result after) :
    EndsAs fragment context s result after :=
  (Reaches.step s).endsAs h

theorem EndsAs.bind {result : Except LoadFailure α} {f : α → Except LoadFailure β}
    {after' : β → State} (h : EndsAs fragment context s result after)
    (h' : ∀ a, EndsAs fragment context (after a) (f a) after') :
    EndsAs fragment context s (result.bind f) after' := by
  cases result with
  | ok a => exact Reaches.endsAs h (h' a)
  | error failure => exact h

theorem EndsAs.map {result : Except LoadFailure α} {f : α → β} {after' : β → State}
    (h : EndsAs fragment context s result fun a => after' (f a)) :
    EndsAs fragment context s (result.map f) after' := by
  cases result <;> exact h

end Runs

section Adequacy

variable {fragment context : Config} {origin key name : String} {stack : List String}
  {fallback? : Option (List Char)} {ps : List Piece} {below : List Frame}
  {todo : List (String × String)} {done : List String}

/-- Once look-ups of the names in a text end as they should, reading the text does. -/
theorem endsAs_expand (rest written : List Char)
    (hseek : ∀ name fallback? written rest', .reference name fallback? ∈ pieces rest →
      EndsAs fragment context ⟨.seeking name fallback?, ⟨key, written, rest'⟩ :: below, todo, done⟩
        (lookup fragment context origin stack name fallback?)
        fun text => ⟨.reading, ⟨key, written ++ text, rest'⟩ :: below, todo, done⟩) :
    EndsAs fragment context ⟨.reading, ⟨key, written, rest⟩ :: below, todo, done⟩
      (expand fragment context origin stack (pieces rest))
      fun text => State.deliver ⟨.reading, below, todo, done⟩ (written ++ text) := by
  cases hfirst : first? rest with
  | none =>
    rw [pieces_eq_first?, hfirst, expand_literal, expand]
    apply EndsAs.of_step
    simp only [next, State.read, hfirst]
    simp only [Except.map, List.append_nil]
    exact .refl _
  | some found =>
    rw [pieces_eq_first?, hfirst] at hseek ⊢
    rw [expand_literal, expand_reference]
    apply EndsAs.of_step
    simp only [next, State.read, hfirst]
    apply EndsAs.map
    apply EndsAs.bind (hseek _ _ _ _ (by simp))
    intro text
    apply EndsAs.map
    have hrest := endsAs_expand found.rest (written ++ found.before ++ text)
      fun n f w r hp => hseek n f w r (by simp [hp])
    simpa only [List.append_assoc] using hrest
termination_by rest.length
decreasing_by exact first?_length hfirst

theorem endsAs_lookup (f : Frame) (hstack : f.key :: below.map Frame.key = stack)
    (horigin : stack.getLast? = some origin) :
    EndsAs fragment context ⟨.seeking name fallback?, f :: below, todo, done⟩
      (lookup fragment context origin stack name fallback?)
      fun text => ⟨.reading, { f with written := f.written ++ text } :: below, todo, done⟩ := by
  -- A text is read with its own key on the stack, which leaves fewer keys for the texts it names.
  induction stack, name using lookup_induction fragment generalizing f below fallback? with
  | step stack name ih =>
    apply EndsAs.of_step
    have hs : State.stack ⟨.seeking name fallback?, f :: below, todo, done⟩ = stack := hstack
    have ho : State.origin ⟨.seeking name fallback?, f :: below, todo, done⟩ = origin := by
      rw [State.origin, hs, horigin]
      rfl
    simp only [next, State.seek, hs, ho]
    by_cases hn : name ∈ stack
    · rw [lookup_of_mem hn, if_pos hn]
      exact ⟨_, .refl _, rfl⟩
    rw [if_neg hn]
    cases hf : fragment.get? name with
    | none =>
      rw [lookup_absent hn hf]
      cases outside? context name fallback? with
      | some text => exact .refl _
      | none => exact ⟨_, .refl _, rfl⟩
    | some value =>
      rcases value.text_or_not with ⟨t, rfl⟩ | hv
      · rw [lookup_text hn hf]
        have hkeys : name :: (f :: below).map Frame.key = name :: stack := congrArg _ hstack
        have hlast : (name :: stack).getLast? = some origin := by
          rw [List.getLast?_cons, horigin]
          rfl
        exact endsAs_expand t.toList [] fun next fallback? written rest hp =>
          ih t next fallback? hn hf hp ⟨name, written, rest⟩ hkeys hlast
      · rw [lookup_value hn hf hv]
        cases value with
        | text => cases hv
        | _ => exact .refl _

mutual

theorem endsAs_resolveValue (todo : List (String × String)) (done : List String) : ∀ value,
    EndsAs fragment context ⟨.reading, [], (texts value).map (key, ·) ++ todo, done⟩
      (resolveValue fragment context key value)
      fun value' => ⟨.reading, [], todo, done ++ texts value'⟩
  | .text text => by
    rw [resolveValue_text]
    apply EndsAs.of_step
    apply EndsAs.map
    exact endsAs_expand text.toList [] fun name fallback? written rest _ =>
      endsAs_lookup ⟨key, written, rest⟩ rfl rfl
  | .list items => by
    rw [resolveValue]
    exact EndsAs.map (endsAs_resolveItems todo done items)
  | .null | .flag _ | .integer _ | .double _ | .decimal _ | .map _ => by
    simp only [resolveValue, texts, EndsAs, List.append_nil]
    exact .refl _

theorem endsAs_resolveItems (todo : List (String × String)) (done : List String) : ∀ items,
    EndsAs fragment context ⟨.reading, [], (textsOf items).map (key, ·) ++ todo, done⟩
      (resolveItems fragment context key items)
      fun items' => ⟨.reading, [], todo, done ++ textsOf items'⟩
  | [] => by
    simp only [resolveItems, textsOf, EndsAs, List.append_nil]
    exact .refl _
  | item :: rest => by
    rw [resolveItems_cons, textsOf, List.map_append, List.append_assoc]
    apply (endsAs_resolveValue _ done item).bind
    intro item'
    apply EndsAs.map
    simpa only [textsOf, List.append_assoc] using
      endsAs_resolveItems todo (done ++ texts item') rest

end

theorem endsAs_resolveEntries (entries : List (String × Value)) (done : List String) :
    EndsAs fragment context ⟨.reading, [], textsIn entries, done⟩
      (resolveEntries fragment context entries)
      fun entries' => ⟨.reading, [], [], done ++ (textsIn entries').map Prod.snd⟩ := by
  induction entries generalizing done with
  | nil =>
    simp only [resolveEntries, textsIn, EndsAs, List.flatMap_nil, List.map_nil, List.append_nil]
    exact .refl _
  | cons e rest ih =>
    rw [resolveEntries_cons, textsIn, List.flatMap_cons]
    apply (endsAs_resolveValue _ done e.2).bind
    intro value'
    apply EndsAs.map
    simpa [textsIn, Function.comp_def] using ih (done ++ texts value')

/-- The steps come to an end: with the texts of the resolved document, or with its failure. -/
theorem endsAs_resolve (fragment context : Config) :
    EndsAs fragment context (initial fragment) (resolve fragment context) fun resolved =>
      ⟨.resolved, [], [], (textsIn resolved.entries).map Prod.snd⟩ := by
  have hentries := @endsAs_resolveEntries fragment context fragment.entries []
  rw [resolve_eq]
  apply EndsAs.map
  cases hr : resolveEntries fragment context fragment.entries with
  | error failure => rwa [hr] at hentries
  | ok entries' =>
    rw [hr] at hentries
    have hdistinct : (entries'.map Prod.fst).Nodup :=
      keys_of_resolved (forall₂_of_resolveEntries hr) ▸ fragment.distinct
    simp only [EndsAs, Store.entries_ofList hdistinct]
    exact Reaches.trans hentries (.step _)

end Adequacy

end Conform.Placeholder
