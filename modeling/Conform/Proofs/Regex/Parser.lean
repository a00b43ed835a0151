import Conform.Proofs.Regex.ClassParser
import Conform.Regex

namespace Conform.Regex

open Scan

namespace Parser

variable {pattern text text' : List Char} {st st' : State} {n : Nat}

/-- Reads the flags of a group without captures, or flags for the rest of the enclosing group. -/
def flagged (st : State) (text : List Char) : Option (State × List Char) :=
  match flags false .none text with
  | some (l, ':' :: rest) => some (st.enter (.plain l) (l.apply .ignoreBlanks st.free), rest)
  | some (l, ')' :: rest) =>
    if l.on.isEmpty ∧ l.off.isEmpty then none
    else some ({ st.push (.flags l) with free := l.apply .ignoreBlanks st.free }, rest)
  | _ => none

theorem openGroup_plain (h : (skip st.free text).head? ≠ some '?') :
    openGroup st text = some (st.enter .capture st.free, skip st.free text) := by
  rw [openGroup]
  split <;> simp_all

theorem openGroup_flagged {rest : List Char} (h : skip st.free text = '?' :: rest)
    (hP : ∀ more, rest ≠ 'P' :: '<' :: more) (hname : rest.head? ≠ some '<') :
    openGroup st text = flagged st rest := by
  rw [openGroup, h]
  split
  · simp_all
  · simp_all
  · simp_all
  · simp_all
  · next heq =>
    obtain ⟨-, rfl⟩ := List.cons.inj heq
    rfl
  · next hmark => exact absurd rfl (hmark rest)

theorem openGroup_named {rest : List Char} (h : skip st.free text = '?' :: '<' :: rest)
    (hahead : rest.head? ≠ some '=') (hnot : rest.head? ≠ some '!') :
    openGroup st text = openGroup.named st rest := by
  rw [openGroup, h]
  split
  · simp_all
  · simp_all
  · simp_all
  · simp_all
  · next hname heq => exact absurd (List.cons.inj heq).2.symm (hname rest)
  · next hmark => exact absurd rfl (hmark ('<' :: rest))

theorem flagged_alike (h : Ahead pattern text text') :
    Alike pattern (flagged st text) (flagged st text') := by
  rw [flagged, flagged]
  cases hflags : flags false .none text with
  | none => exact .of_none
  | some read =>
    obtain ⟨l, rest⟩ := read
    obtain ⟨rest', hflags', hrest⟩ := flags_alike false .none h _ _ hflags
    rw [hflags']
    cases rest with
    | nil => exact .of_none
    | cons c more =>
      obtain ⟨more', rfl, hmore⟩ := hrest.cons
      by_cases hcolon : c = ':'
      · subst hcolon
        exact .of_some hmore
      · by_cases hclose : c = ')'
        · subst hclose
          exact .ite (fun _ => .of_none) fun _ => .of_some hmore
        · split <;> simp_all [Alike.of_none]

theorem named_alike (h : Ahead pattern text text') :
    Alike pattern (openGroup.named st text) (openGroup.named st text') := by
  rw [openGroup.named, openGroup.named]
  cases hname : groupName text with
  | none => exact .of_none
  | some read =>
    obtain ⟨name, rest⟩ := read
    obtain ⟨rest', hname', hrest⟩ := groupName_alike h _ _ hname
    simp only [hname']
    exact .ite (fun _ => .of_none) fun _ => .of_some hrest

theorem openGroup_alike (h : Ahead pattern text text') :
    Alike pattern (openGroup st text) (openGroup st text') := by
  have hs := h.skip st.free
  by_cases hmark : (skip st.free text).head? = some '?'
  · obtain ⟨rest, htext⟩ := List.head?_eq_some_iff.1 hmark
    obtain ⟨rest', htext', hrest⟩ := (htext ▸ hs).cons
    by_cases hname : rest.head? = some '<'
    · obtain ⟨more, rfl⟩ := List.head?_eq_some_iff.1 hname
      obtain ⟨more', rfl, hmore⟩ := hrest.cons
      -- A look-around is refused however it goes on.
      by_cases hlook : more.head? = some '=' ∨ more.head? = some '!'
      · rcases hlook with hlook | hlook
        all_goals
          obtain ⟨look, rfl⟩ := List.head?_eq_some_iff.1 hlook
          rw [openGroup, htext]
          exact .of_none
      · rw [not_or] at hlook
        rw [openGroup_named htext hlook.1 hlook.2, openGroup_named htext'
          (fun h' => hlook.1 ((hmore.head?_iff (by decide)).1 h'))
          (fun h' => hlook.2 ((hmore.head?_iff (by decide)).1 h'))]
        exact named_alike hmore
    · have hname' : rest'.head? ≠ some '<' := fun h' =>
        hname ((hrest.head?_iff (by decide)).1 h')
      by_cases hP : ∃ more, rest = 'P' :: '<' :: more
      · obtain ⟨more, rfl⟩ := hP
        obtain ⟨_, rfl, hletter⟩ := hrest.cons
        obtain ⟨_, rfl, hmore⟩ := hletter.cons
        rw [openGroup, openGroup, htext, htext']
        exact named_alike hmore
      · have hP' : ∀ more, rest' ≠ 'P' :: '<' :: more := by
          rintro more rfl
          obtain ⟨_, rfl, hletter⟩ := hrest.of_cons (by decide)
          obtain ⟨_, rfl, -⟩ := hletter.of_cons (by decide)
          exact hP ⟨_, rfl⟩
        rw [openGroup_flagged htext (not_exists.1 hP) hname, openGroup_flagged htext' hP' hname']
        exact flagged_alike hrest
  · rw [openGroup_plain hmark,
      openGroup_plain fun h' => hmark ((hs.head?_iff (by decide)).1 h')]
    exact .of_some hs

theorem step_alike {c : Char} (h : Ahead pattern text text') :
    Alike pattern (step st c text) (step st c text') := by
  have hstate : ∀ {o : Option State} {rest rest'}, Ahead pattern rest rest' →
      Alike pattern (o.map (·, rest)) (o.map (·, rest')) := by
    intro o rest rest' hrest
    cases o with
    | none => exact .of_none
    | some st => exact .of_some hrest
  have hrepeated : ∀ {rest rest'}, Ahead pattern rest rest' → ∀ min max,
      Alike pattern ((st.repeat? min max (greed rest).1).map (·, (greed rest).2))
        ((st.repeat? min max (greed rest').1).map (·, (greed rest').2)) := by
    intro rest rest' hrest min max
    obtain ⟨more, hgreed, hmore⟩ := greed_alike hrest _ _ rfl
    rw [Option.some.inj hgreed]
    exact hstate hmore
  rw [step.eq_def, step.eq_def]
  split
  case h_8 =>
    cases hcounts : counts st.free text with
    | none => exact .of_none
    | some read =>
      obtain ⟨rest', hcounts', hrest⟩ := counts_alike h _ _ hcounts
      simp only [hcounts']
      exact hstate hrest
  all_goals
    first
    | exact .of_some h
    | exact openGroup_alike h
    | exact hstate h
    | exact hrepeated h _ _
    | exact (ClassParser.parse_alike h).map fun read => st.push (.bracketed read.1 read.2)
    | exact (escape_alike h).map fun p => st.push (primitive p)

/-- The same state inside further open groups. -/
def State.within (st : State) (outer : List Frame) : State :=
  { st with stack := st.stack ++ outer }

theorem State.leave?_within {outer : List Frame} (h : st.leave? = some st') :
    (st.within outer).leave? = some (st'.within outer) := by
  obtain ⟨stack, branches, parts, free, names⟩ := st
  cases stack with
  | nil => exact nomatch h
  | cons frame stack =>
    obtain rfl := Option.some.inj h
    rfl

theorem State.repeat?_within {outer : List Frame} {min : Nat} {max : Option Nat} {greedy : Bool} :
    (st.within outer).repeat? min max greedy =
      (st.repeat? min max greedy).map (·.within outer) := by
  obtain ⟨stack, branches, parts, free, names⟩ := st
  cases parts with
  | nil => rfl
  | cons last parts => cases h : last.isOperand <;> simp [State.within, State.repeat?, h]

theorem openGroup_within (outer : List Frame) :
    openGroup (st.within outer) text =
      (openGroup st text).map fun read => (read.1.within outer, read.2) := by
  have hnamed : ∀ rest, openGroup.named (st.within outer) rest =
      (openGroup.named st rest).map fun read => (read.1.within outer, read.2) := by
    intro rest
    rw [openGroup.named, openGroup.named]
    cases groupName rest with
    | none => rfl
    | some read => by_cases h : read.1 ∈ st.names <;> simp [State.within, State.enter, h]
  have hfree : (st.within outer).free = st.free := rfl
  rw [openGroup, openGroup, hfree]
  split
  · exact hnamed _
  · rfl
  · rfl
  · exact hnamed _
  · split
    · rfl
    · split <;> rfl
    · rfl
  · rfl

/-- A part that is read in a pattern alone is read in further groups. -/
theorem step_within {c : Char} {rest : List Char} (outer : List Frame)
    (h : step st c text = some (st', rest)) :
    step (st.within outer) c text = some (st'.within outer, rest) := by
  have hrepeat : ∀ {min max greedy rest₁},
      (st.repeat? min max greedy).map (·, rest₁) = some (st', rest) →
        ((st.within outer).repeat? min max greedy).map (·, rest₁) =
          some (st'.within outer, rest) := by
    intro min max greedy rest₁ h
    obtain ⟨st₁, hst₁, heq⟩ := Option.map_eq_some_iff.1 h
    obtain ⟨rfl, rfl⟩ := Prod.mk.inj heq
    rw [State.repeat?_within, hst₁]
    rfl
  have hpushed : ∀ {e : Expression}, some (st.push e, text) = some (st', rest) →
      some ((st.within outer).push e, text) = some (st'.within outer, rest) := by
    intro e h
    obtain ⟨rfl, rfl⟩ := Prod.mk.inj (Option.some.inj h)
    rfl
  have hfree : (st.within outer).free = st.free := rfl
  rw [step.eq_def] at h ⊢
  split at h
  case h_1 =>
    simp only [openGroup_within, h]
    rfl
  case h_2 =>
    obtain ⟨st₁, hst₁, heq⟩ := Option.map_eq_some_iff.1 h
    obtain ⟨rfl, rfl⟩ := Prod.mk.inj heq
    simp only [State.leave?_within hst₁]
    rfl
  case h_3 =>
    obtain ⟨rfl, rfl⟩ := Prod.mk.inj (Option.some.inj h)
    rfl
  case h_4 =>
    obtain ⟨read, hread, heq⟩ := Option.map_eq_some_iff.1 h
    obtain ⟨rfl, rfl⟩ := Prod.mk.inj heq
    simp only [hfree, hread]
    rfl
  case h_8 =>
    cases hcounts : counts st.free text with
    | none => simp [hcounts] at h
    | some read =>
      simp only [hcounts] at h
      simp only [hfree, hcounts]
      exact hrepeat h
  case h_9 =>
    obtain ⟨read, hread, heq⟩ := Option.map_eq_some_iff.1 h
    obtain ⟨rfl, rfl⟩ := Prod.mk.inj heq
    simp only [hfree, hread]
    rfl
  all_goals
    first
    | exact hrepeat h
    | exact hpushed h

theorem run_skip (h : skip st.free (skip st.free text) = skip st.free text) :
    run n st text = run n st (skip st.free text) := by
  cases n with
  | zero => rfl
  | succ n => rw [run, run, h]

/-- A pattern that is read alone is read with the closing behind it and inside further groups: the
same state is reached in fewer steps than were allowed, with nothing or the closing left. -/
theorem run_ahead (h : Ahead pattern text text') (hrun : run n st text = some st') :
    ∃ m < n, ∃ rest, Ahead pattern [] rest ∧ ∀ outer k,
      run (m + k) (st.within outer) text' = run k (st'.within outer) rest := by
  induction n generalizing st text text' with
  | zero => exact nomatch hrun
  | succ n ih =>
    have hs := h.skip st.free
    rw [run] at hrun
    cases htext : skip st.free text with
    | nil =>
      rw [htext] at hrun hs
      obtain rfl := Option.some.inj hrun
      refine ⟨0, Nat.succ_pos n, skip st.free text', hs, fun outer k => ?_⟩
      -- Only blanks are left before the end, and these may be skipped at once.
      have hagain : skip st.free (skip st.free text') = skip st.free text' := by
        rcases hs.nil with hnil | hclosing
        · rw [hnil, skip_nil]
        · rw [hclosing, skip_closing]
      rw [Nat.zero_add]
      exact run_skip hagain
    | cons c rest =>
      rw [htext] at hrun hs
      obtain ⟨rest', htext', hrest⟩ := hs.cons
      cases hstep : step st c rest with
      | none => simp [hstep] at hrun
      | some read =>
        obtain ⟨st₁, more⟩ := read
        obtain ⟨more', hstep', hmore⟩ := step_alike hrest _ _ hstep
        simp only [hstep] at hrun
        obtain ⟨m, hm, behind, hbehind, hreads⟩ := ih hmore hrun
        refine ⟨m + 1, Nat.succ_lt_succ hm, behind, hbehind, fun outer k => ?_⟩
        rw [Nat.add_right_comm, run, show (st.within outer).free = st.free from rfl, htext']
        simp only [step_within outer hstep', hreads outer k]

@[simp] theorem State.within_nil (st : State) : st.within [] = st := by
  simp [State.within]

def anchoredFrame : Frame := ⟨.plain .none, [], [.assertion .startLine], false⟩

theorem run_anchored (text : List Char) :
    run (n + 2) .start ('^' :: '(' :: '?' :: ':' :: text) =
      run n (State.start.within [anchoredFrame]) text := rfl

theorem run_nil : run (n + 1) st [] = some st := by
  rw [run, skip_nil]

theorem run_closing_of_nil (hstack : st.stack = []) : run (n + 1) st closing = none := by
  rw [run, skip_closing]
  simp [closing, step, State.leave?, hstack]

theorem run_closing (hstack : st.stack = []) :
    run (n + 3) (st.within [anchoredFrame]) closing =
      some ⟨[], [], [.assertion .endLine, .group (.plain .none) st.body, .assertion .startLine],
        false, st.names⟩ := by
  obtain ⟨stack, branches, parts, free, names⟩ := st
  obtain rfl : stack = [] := hstack
  rw [run, skip_closing]
  rfl

end Parser

namespace Expression

open Conform.Regex.Parser

variable {text : List Char} {e e' : Expression}

/-- An expression as one group between anchors. -/
def anchored (e : Expression) : Expression :=
  .concat [.assertion .startLine, .group (.plain .none) e, .assertion .endLine]

theorem depth_anchored : e.anchored.depth = e.depth + 2 := by
  simp [anchored, depth, depthAll]

theorem parse?_of_run {st : State} (h : run (text.length + 1) .start text = some st) :
    parse? text =
      if st.stack.isEmpty ∧ st.body.depth ≤ nestingLimit then some st.body else none := by
  rw [parse?, h]
  rfl

theorem parse?_eq_some_iff : parse? text = some e ↔
    ∃ st, run (text.length + 1) .start text = some st ∧ st.stack = [] ∧
      e.depth ≤ nestingLimit ∧ st.body = e := by
  constructor
  · intro h
    obtain ⟨st, hrun, -⟩ := Option.bind_eq_some_iff.1 h
    rw [parse?_of_run hrun] at h
    split at h
    · next hst =>
      obtain rfl := Option.some.inj h
      exact ⟨st, hrun, List.isEmpty_iff.1 hst.1, hst.2, rfl⟩
    · simp at h
  · rintro ⟨st, hrun, hstack, hdepth, rfl⟩
    rw [parse?_of_run hrun, if_pos ⟨List.isEmpty_iff.2 hstack, hdepth⟩]

/-- A comment at the end of the text takes in what is written behind it: a number sign stands on
its last line, and the closing of a group is not read. -/
def EndsInComment (text : List Char) : Prop :=
  NumberSignOnLastLine text ∧ parse? (text ++ closing) = parse? text

/-- What is well formed alone is well formed between anchors if its end is not that of a comment and
the group around it does not nest too deeply. -/
theorem parse?_anchored (h : parse? text = some e) :
    parse? ('^' :: '(' :: '?' :: ':' :: (text ++ closing)) = some e' ↔
      ¬ EndsInComment text ∧ e.depth + 2 ≤ nestingLimit ∧ e' = e.anchored := by
  obtain ⟨st, hrun, hstack, hdepth, rfl⟩ := parse?_eq_some_iff.1 h
  obtain ⟨m, hm, rest, hrest, hreads⟩ := run_ahead (.closed List.suffix_rfl) hrun
  obtain ⟨k, hk⟩ := Nat.exists_eq_add_of_le (Nat.le_of_lt_succ hm)
  -- The closing alone needs two steps of its own, the group around the pattern two more before it.
  have halone : run ((text ++ closing).length + 1) .start (text ++ closing) =
      run (k + 3) st rest := by
    rw [show (text ++ closing).length + 1 = m + (k + 3) by simp [closing]; omega]
    simpa using hreads [] (k + 3)
  have hgroup : run (('^' :: '(' :: '?' :: ':' :: (text ++ closing)).length + 1) .start
        ('^' :: '(' :: '?' :: ':' :: (text ++ closing)) =
      run (k + 5) (st.within [anchoredFrame]) rest := by
    rw [show ('^' :: '(' :: '?' :: ':' :: (text ++ closing)).length + 1 = m + (k + 5) + 2 by
      simp [closing]; omega, run_anchored, hreads]
  cases hrest with
  | swallowed hs hmark =>
    have hends : EndsInComment text := by
      refine ⟨hmark, ?_⟩
      rw [parse?_of_run (halone.trans run_nil), h, if_pos ⟨List.isEmpty_iff.2 hstack, hdepth⟩]
    rw [parse?_of_run (hgroup.trans run_nil)]
    simp [hends, State.within]
  | closed =>
    have hends : ¬ EndsInComment text := by
      rintro ⟨-, heq⟩
      obtain ⟨st', hrun', -⟩ := parse?_eq_some_iff.1 (heq.trans h)
      rw [halone, List.nil_append, run_closing_of_nil hstack] at hrun'
      cases hrun'
    rw [parse?_of_run (hgroup.trans (run_closing hstack))]
    have hbody : State.body ⟨[], [], [.assertion .endLine, .group (.plain .none) st.body,
        .assertion .startLine], false, st.names⟩ = st.body.anchored := rfl
    simp [hends, hbody, depth_anchored, eq_comm]

end Expression

end Conform.Regex
