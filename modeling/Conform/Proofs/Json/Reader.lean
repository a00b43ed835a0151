import Conform.Document.Json.Reader
import Conform.Proofs.Json.Places
import Conform.Proofs.Json.Token
import Conform.Proofs.Nesting.Path

namespace Conform.Json

/-- The text of every number in a document, at any depth, has a property. -/
def Numbers (P : String → Prop) (document : Json) : Prop :=
  ∀ path literal, document.at? path = some (number literal) → P literal

section Numbers

variable {P : String → Prop}

theorem numbers_leaf {document : Json} (ha : ∀ items, document ≠ array items)
    (ho : ∀ members, document ≠ object members)
    (h : ∀ literal, document = number literal → P literal) : document.Numbers P := by
  intro path literal hat
  rw [at?.eq_def] at hat
  split at hat
  next => exact h literal (Option.some.inj hat)
  next => exact absurd rfl (ha _)
  next => exact absurd rfl (ho _)
  next => cases hat

theorem numbers_array {items : List Json} (h : ∀ item ∈ items, item.Numbers P) :
    (array items).Numbers P := by
  intro path literal hat
  rw [at?.eq_def] at hat
  split at hat
  next => cases hat
  next items' index path heq =>
    cases heq
    split at hat
    next item hitem => exact h item (List.mem_of_getElem? hitem) path literal hat
    next => cases hat
  next heq => cases heq
  next => cases hat

theorem numbers_object {members : List (String × Json)} (h : ∀ member ∈ members, member.2.Numbers P) :
    (object members).Numbers P := by
  intro path literal hat
  rw [at?.eq_def] at hat
  split at hat
  next => cases hat
  next heq => cases heq
  next members' name path heq =>
    cases heq
    split at hat
    next document hmember =>
      obtain ⟨before, after, rfl, -⟩ := List.lookup_eq_some_iff.1 hmember
      exact h (name, document) (by simp) path literal hat
    next => cases hat
  next => cases hat

end Numbers

namespace Reader

def Frame.documents : Frame → List Json
  | .array items => items
  | .object members _ => members.map Prod.snd

def Expectation.documents : Expectation → List Json
  | .member members | .colon members _ => members.map Prod.snd
  | .after document => [document]
  | _ => []

structure State.Numbers (P : String → Prop) (st : State) : Prop where
  stack : ∀ frame ∈ st.stack, ∀ document ∈ frame.documents, document.Numbers P
  expects : ∀ document ∈ st.expects.documents, document.Numbers P

variable {P : String → Prop} {st st' : State} {document : Json}

theorem State.Numbers.startValue {token : Token} (hst : st.Numbers P)
    (htoken : ∀ text, token = .number text → P (String.ofList text))
    (h : startValue st token = some st') : st'.Numbers P := by
  have hafter (document : Json) (hd : document.Numbers P) :
      State.Numbers P { st with expects := .after document } :=
    ⟨hst.stack, fun _ hm => List.mem_singleton.1 hm ▸ hd⟩
  have hopen (frame : Frame) (hf : frame.documents = []) (expects : Expectation)
      (he : expects.documents = []) (h : open? st frame expects = some st') : st'.Numbers P := by
    rw [open?, Option.ite_none_right_eq_some] at h
    cases h.2
    refine ⟨List.forall_mem_cons.2 ⟨?_, hst.stack⟩, ?_⟩
    · rw [hf]
      exact nofun
    · rw [he]
      exact nofun
  cases token with
  | null | flag b | text s =>
    cases h
    exact hafter _ (numbers_leaf nofun nofun nofun)
  | number text =>
    cases h
    refine hafter _ (numbers_leaf nofun nofun fun literal heq => ?_)
    cases heq
    exact htoken text rfl
  | openArray => exact hopen _ rfl _ rfl h
  | openObject => exact hopen _ rfl _ rfl h
  | _ => cases h

theorem State.Numbers.close (hst : st.Numbers P) (hd : document.Numbers P)
    (h : close st document = some st') : st'.Numbers P := by
  cases h
  exact ⟨fun frame hf => hst.stack frame (List.mem_of_mem_tail hf),
    fun _ hm => List.mem_singleton.1 hm ▸ hd⟩

theorem numbers_addMember {rep : Repetition} {members members' : List (String × Json)}
    {name : String} (hms : ∀ member ∈ members.map Prod.snd, member.Numbers P)
    (hd : document.Numbers P) (h : addMember rep members name document = some members') :
    ∀ member ∈ members'.map Prod.snd, member.Numbers P := by
  rw [addMember, Option.ite_none_left_eq_some] at h
  cases h.2
  intro found hfound
  obtain ⟨member, hm, rfl⟩ := List.mem_map.1 hfound
  rcases Entries.mem_put hm with rfl | hm
  · exact hd
  · exact hms _ (List.mem_map_of_mem hm)

theorem State.Numbers.afterValue {rep : Repetition} {token : Token} (hst : st.Numbers P)
    (hd : document.Numbers P) (h : afterValue rep st document token = some st') :
    st'.Numbers P := by
  rw [Reader.afterValue.eq_def] at h
  split at h
  next items stack hstack =>
    cases h
    have hopen := List.forall_mem_cons.1 (hstack ▸ hst.stack)
    exact ⟨List.forall_mem_cons.2 ⟨List.forall_mem_cons.2 ⟨hd, hopen.1⟩, hopen.2⟩, nofun⟩
  next items stack hstack =>
    have hopen := List.forall_mem_cons.1 (hstack ▸ hst.stack)
    refine hst.close (numbers_array fun item hi => ?_) h
    rcases List.mem_cons.1 (List.mem_reverse.1 hi) with rfl | hi
    · exact hd
    · exact hopen.1 item hi
  next members name stack hstack =>
    have hopen := List.forall_mem_cons.1 (hstack ▸ hst.stack)
    obtain ⟨members', hadd, heq⟩ := Option.bind_eq_some_iff.1 h
    cases heq
    exact ⟨hst.stack, numbers_addMember hopen.1 hd hadd⟩
  next members name stack hstack =>
    have hopen := List.forall_mem_cons.1 (hstack ▸ hst.stack)
    obtain ⟨members', hadd, hclose⟩ := Option.bind_eq_some_iff.1 h
    refine hst.close (numbers_object fun member hm => ?_) hclose
    exact numbers_addMember hopen.1 hd hadd _ (List.mem_map_of_mem hm)
  next => cases h

theorem State.Numbers.step {rep : Repetition} {token : Token} (hst : st.Numbers P)
    (htoken : ∀ text, token = .number text → P (String.ofList text))
    (h : step rep st token = some st') : st'.Numbers P := by
  rw [Reader.step.eq_def] at h
  split at h
  next => exact hst.startValue htoken h
  next => exact hst.close (numbers_array (by simp)) h
  next => exact hst.startValue htoken h
  next => exact hst.close (numbers_object (by simp)) h
  next =>
    cases h
    exact ⟨hst.stack, nofun⟩
  next members name hexpects =>
    cases h
    have hms := hexpects ▸ hst.expects
    exact ⟨hst.stack, hms⟩
  next members name hexpects =>
    cases h
    have hms := hexpects ▸ hst.expects
    exact ⟨List.forall_mem_cons.2 ⟨hms, fun frame hf => hst.stack frame (List.mem_of_mem_tail hf)⟩,
      nofun⟩
  next token document hexpects =>
    have hd := hexpects ▸ hst.expects
    exact hst.afterValue (hd document (List.mem_singleton_self _)) h
  next => cases h

theorem numbers_of_run {rep : Repetition} {tokens : List Token} (hst : st.Numbers P)
    (htokens : ∀ text, .number text ∈ tokens → P (String.ofList text))
    (h : run rep st tokens = some document) : document.Numbers P := by
  induction tokens generalizing st with
  | nil =>
    rw [run.eq_def] at h
    dsimp only at h
    split at h
    next value =>
      cases h
      exact hst.expects document (List.mem_singleton_self _)
    next => cases h
  | cons token rest ih =>
    rw [run] at h
    split at h
    next st' hstep =>
      have hst' := hst.step (fun text heq => htokens text (heq ▸ List.mem_cons_self)) hstep
      exact ih hst' (fun text hm => htokens text (List.mem_cons_of_mem _ hm)) h
    next => cases h

end Reader

/-- At any depth of a document that was read, a number without an exponent was read from its
characters. -/
theorem exists_next_of_at? {source literal : String} {rep : Repetition} {document : Json}
    {path : List Value.Step} (h : parse? source rep = some document)
    (hat : document.at? path = some (number literal)) (hmark : 'e' ∉ literal.toList) :
    ∃ before rest, source.toList = before ++ (literal.toList ++ rest) ∧
      Token.next (literal.toList ++ rest) = some (.number literal.toList, rest) := by
  obtain ⟨tokens, htokens, hrun⟩ := Option.bind_eq_some_iff.1 h
  have hnumbers : document.Numbers fun literal => .number literal.toList ∈ tokens := by
    refine Reader.numbers_of_run ⟨by simp, by simp [Reader.Expectation.documents]⟩
      (fun text hm => ?_) hrun
    rwa [String.toList_ofList]
  exact Token.exists_next_number htokens (hnumbers path literal hat) hmark

mutual

def tokens : Json → List Token
  | null => [.null]
  | flag b => [.flag b]
  | number literal => [.number literal.toList]
  | string s => [.text s.toList]
  | array items => .openArray :: [.comma].intercalate (itemTokens items) ++ [.closeArray]
  | object members => .openObject :: [.comma].intercalate (memberTokens members) ++ [.closeObject]

def itemTokens : List Json → List (List Token)
  | [] => []
  | item :: rest => item.tokens :: itemTokens rest

def memberTokens : List (String × Json) → List (List Token)
  | [] => []
  | (name, document) :: rest =>
    (.text name.toList :: .colon :: document.tokens) :: memberTokens rest

end

/-- The members of every object have distinct names, and no more than so many arrays and objects are
within each other. -/
inductive Readable : (depth : Nat) → Json → Prop
  | leaf {depth : Nat} {document : Json} (ha : ∀ items, document ≠ array items)
      (ho : ∀ members, document ≠ object members) : Readable depth document
  | array {depth : Nat} {items : List Json} (h : ∀ item ∈ items, Readable depth item) :
      Readable (depth + 1) (array items)
  | object {depth : Nat} {members : List (String × Json)} (hd : (members.map Prod.fst).Nodup)
      (h : ∀ member ∈ members, Readable depth member.2) : Readable (depth + 1) (object members)

namespace Reader

variable {rep : Repetition} {stack : List Frame} {rest : List Token}

/-- After the tokens of a document, the document has been read. -/
def Reads (rep : Repetition) (stack : List Frame) (document : Json) : Prop :=
  ∀ expects rest, expects = .value ∨ expects = .firstItem →
    run rep ⟨stack, expects⟩ (document.tokens ++ rest) = run rep ⟨stack, .after document⟩ rest

theorem run_items {items acc : List Json} {item : Json} {expects : Expectation}
    (h : ∀ acc, ∀ document ∈ item :: items, Reads rep (.array acc :: stack) document)
    (he : expects = .value ∨ expects = .firstItem) :
    run rep ⟨.array acc :: stack, expects⟩
        ([.comma].intercalate (itemTokens (item :: items)) ++ .closeArray :: rest) =
      run rep ⟨stack, .after (.array (acc.reverse ++ item :: items))⟩ rest := by
  have hitem := h acc item List.mem_cons_self expects
  induction items generalizing acc item expects with
  | nil =>
    rw [itemTokens, itemTokens, List.intercalate_singleton, hitem _ he]
    change run rep ⟨stack, .after (.array (item :: acc).reverse)⟩ rest = _
    rw [List.reverse_cons]
  | cons next items ih =>
    have hrest : ∀ acc, ∀ document ∈ next :: items, Reads rep (.array acc :: stack) document :=
      fun acc document hd => h acc document (List.mem_cons_of_mem _ hd)
    rw [itemTokens, itemTokens, List.intercalate_cons_cons, List.append_assoc, List.append_assoc,
      hitem _ he]
    change run rep ⟨.array (item :: acc) :: stack, .value⟩
      ([.comma].intercalate (itemTokens (next :: items)) ++ .closeArray :: rest) = _
    rw [ih hrest (.inl rfl) (hrest _ next List.mem_cons_self _), List.reverse_cons,
      List.append_assoc]
    rfl

theorem addMember_of_not_mem {members : List (String × Json)} {name : String}
    (h : name ∉ members.map Prod.fst) (document : Json) :
    addMember rep members name document = some (members ++ [(name, document)]) := by
  have hany : members.any (·.1 = name) = false := by
    rw [List.any_eq_false]
    intro member hm heq
    exact h (List.mem_map.2 ⟨member, hm, of_decide_eq_true heq⟩)
  rw [addMember, hany, Entries.put_of_not_mem h]
  simp

section Member

variable {acc : List (String × Json)} {name : String} {document : Json}

theorem step_comma (h : name ∉ acc.map Prod.fst) :
    step rep ⟨.object acc name :: stack, .after document⟩ .comma =
      some ⟨.object acc name :: stack, .member (acc ++ [(name, document)])⟩ := by
  simp [step, afterValue, addMember_of_not_mem h]

theorem step_closeObject (h : name ∉ acc.map Prod.fst) :
    step rep ⟨.object acc name :: stack, .after document⟩ .closeObject =
      some ⟨stack, .after (.object (acc ++ [(name, document)]))⟩ := by
  simp [step, afterValue, addMember_of_not_mem h, close]

theorem run_member {expects : Expectation} (h : Reads rep (.object acc name :: stack) document)
    (he : expects = .member acc ∨ (expects = .firstMember ∧ acc = [])) (frame : Frame)
    (rest : List Token) :
    run rep ⟨frame :: stack, expects⟩ (.text name.toList :: .colon :: (document.tokens ++ rest)) =
      run rep ⟨.object acc name :: stack, .after document⟩ rest := by
  rw [← h .value rest (.inl rfl)]
  rcases he with rfl | ⟨rfl, rfl⟩
  · change run rep ⟨.object acc (String.ofList name.toList) :: stack, .value⟩ _ = _
    rw [String.ofList_toList]
  · change run rep ⟨.object [] (String.ofList name.toList) :: stack, .value⟩ _ = _
    rw [String.ofList_toList]

theorem not_mem_of_nodup {members : List (String × Json)}
    (hd : ((acc ++ (name, document) :: members).map Prod.fst).Nodup) : name ∉ acc.map Prod.fst := by
  rw [List.map_append, List.nodup_append] at hd
  exact fun hm => hd.2.2 name hm name List.mem_cons_self rfl

theorem run_members {members : List (String × Json)} {expects : Expectation} {frame : Frame}
    (hd : ((acc ++ (name, document) :: members).map Prod.fst).Nodup)
    (h : ∀ frame, ∀ member ∈ (name, document) :: members, Reads rep (frame :: stack) member.2)
    (he : expects = .member acc ∨ (expects = .firstMember ∧ acc = [])) :
    run rep ⟨frame :: stack, expects⟩
        ([.comma].intercalate (memberTokens ((name, document) :: members)) ++ .closeObject :: rest) =
      run rep ⟨stack, .after (.object (acc ++ (name, document) :: members))⟩ rest := by
  induction members generalizing acc name document expects frame with
  | nil =>
    rw [memberTokens, memberTokens, List.intercalate_singleton, List.cons_append, List.cons_append,
      run_member (h _ _ List.mem_cons_self) he, run, step_closeObject (not_mem_of_nodup hd)]
  | cons next members ih =>
    obtain ⟨nextName, nextDocument⟩ := next
    have hlater : ∀ frame, ∀ member ∈ (nextName, nextDocument) :: members,
        Reads rep (frame :: stack) member.2 :=
      fun frame member hm => h frame member (List.mem_cons_of_mem _ hm)
    have happend : acc ++ (name, document) :: (nextName, nextDocument) :: members =
        acc ++ [(name, document)] ++ (nextName, nextDocument) :: members := by
      rw [List.append_assoc]
      rfl
    rw [memberTokens, memberTokens, List.intercalate_cons_cons, List.append_assoc,
      List.append_assoc, List.cons_append, List.cons_append,
      run_member (h _ _ List.mem_cons_self) he, List.singleton_append, run,
      step_comma (not_mem_of_nodup hd)]
    rw [happend] at hd ⊢
    exact ih hd hlater (.inl rfl)

end Member

theorem run_startValue {expects : Expectation} (he : expects = .value ∨ expects = .firstItem)
    {token : Token} (h : startValue ⟨stack, expects⟩ token = some st) (ht : token ≠ .closeArray) :
    run rep ⟨stack, expects⟩ (token :: rest) = run rep st rest := by
  have hstep : step rep ⟨stack, expects⟩ token = startValue ⟨stack, expects⟩ token := by
    rcases he with rfl | rfl
    · rfl
    · cases token with
      | closeArray => exact absurd rfl ht
      | _ => rfl
  rw [run, hstep, h]

theorem reads_of_readable {depth : Nat} {document : Json} (h : Readable depth document)
    (hdepth : stack.length + depth ≤ nestingLimit) : Reads rep stack document := by
  intro expects rest he
  induction h generalizing stack expects rest with
  | @leaf depth document ha ho =>
    cases document with
    | array items => exact absurd rfl (ha items)
    | object members => exact absurd rfl (ho members)
    | number literal => exact run_startValue he (by rw [startValue, String.ofList_toList]) nofun
    | string s => exact run_startValue he (by rw [startValue, String.ofList_toList]) nofun
    | _ => exact run_startValue he rfl nofun
  | @array depth items h ih =>
    have hopen : startValue ⟨stack, expects⟩ .openArray = some ⟨.array [] :: stack, .firstItem⟩ :=
      if_pos (show stack.length < nestingLimit by omega)
    rw [tokens, List.append_assoc, List.cons_append, run_startValue he hopen nofun]
    cases items with
    | nil => rfl
    | cons item items =>
      refine run_items (fun acc document hd expects rest he => ?_) (.inr rfl)
      exact ih document hd (by rw [List.length_cons]; omega) _ _ he
  | @object depth members hd h ih =>
    have hopen : startValue ⟨stack, expects⟩ .openObject =
        some ⟨.object [] "" :: stack, .firstMember⟩ :=
      if_pos (show stack.length < nestingLimit by omega)
    rw [tokens, List.append_assoc, List.cons_append, run_startValue he hopen nofun]
    cases members with
    | nil => rfl
    | cons member members =>
      obtain ⟨name, document⟩ := member
      have hnames : (([] ++ (name, document) :: members).map Prod.fst).Nodup := hd
      refine run_members hnames (fun frame member hm expects rest he => ?_) (.inr ⟨rfl, rfl⟩)
      exact ih member hm (by rw [List.length_cons]; omega) _ _ he

end Reader

/-- A document is read from its tokens. -/
theorem parse?_of_tokens {source : String} {document : Json}
    (htokens : Token.all? source.toList = some document.tokens)
    (h : Readable Reader.nestingLimit document) (rep : Repetition) :
    parse? source rep = some document := by
  have hreads : Reader.Reads rep [] document := Reader.reads_of_readable h (by simp)
  have hrun := hreads .value [] (.inl rfl)
  rw [List.append_nil] at hrun
  rw [parse?, htokens]
  exact hrun

end Conform.Json
