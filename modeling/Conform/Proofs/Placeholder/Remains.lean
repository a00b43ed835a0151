import Conform.Proofs.Placeholder.Substitution

namespace Conform.Placeholder

/-- A part of a resolved text: characters outside the placeholders of a text of the document, or
what a placeholder became if it names no text of the document, that is the text of a value of the
document or of its surroundings, or the text in its place. -/
inductive Part where
  | written (text : List Char)
  | value (value : Value)
  | context (value : Value)
  | fallback (text : List Char)

def Part.text : Part → List Char
  | written text => text
  | value v => v.plainText.toList
  | context v => v.plainText.toList
  | fallback text => text

def joined (parts : List Part) : List Char := parts.flatMap Part.text

/-- The parts that pieces come to. A placeholder that names a text of the document comes to the parts
of that text. -/
inductive Assembled (fragment context : Config) : List Piece → List Part → Prop
  | nil : Assembled fragment context [] []
  | written {text : List Char} {ps : List Piece} {parts : List Part}
      (h : Assembled fragment context ps parts) :
      Assembled fragment context (.literal text :: ps) (.written text :: parts)
  | entry {name text : String} {fallback? : Option (List Char)} {ps : List Piece}
      {inner parts : List Part} (hf : fragment.get? name = some (.text text))
      (hi : Assembled fragment context (pieces text.toList) inner)
      (h : Assembled fragment context ps parts) :
      Assembled fragment context (.reference name fallback? :: ps) (inner ++ parts)
  | value {name : String} {value : Value} {fallback? : Option (List Char)} {ps : List Piece}
      {parts : List Part} (hf : fragment.get? name = some value) (hv : value.isText = false)
      (h : Assembled fragment context ps parts) :
      Assembled fragment context (.reference name fallback? :: ps) (.value value :: parts)
  | context {name : String} {value : Value} {fallback? : Option (List Char)} {ps : List Piece}
      {parts : List Part} (hf : fragment.get? name = none) (hc : context.get? name = some value)
      (h : Assembled fragment context ps parts) :
      Assembled fragment context (.reference name fallback? :: ps) (.context value :: parts)
  | fallback {name : String} {fallback : List Char} {ps : List Piece} {parts : List Part}
      (hf : fragment.get? name = none) (hc : context.get? name = none)
      (h : Assembled fragment context ps parts) :
      Assembled fragment context (.reference name (some fallback) :: ps)
        (.fallback fallback :: parts)

/-- A placeholder begins in a part, and ends there or in the rest of the text. -/
inductive Begins : Part → (rest : List Char) → Prop
  | unterminated {before after rest : List Char} (ha : '\x7d' ∉ after) (hr : '\x7d' ∈ rest) :
      Begins (.written (before ++ start ++ after)) rest
  | substituted {part : Part} {before after rest : List Char}
      (hp : ∀ text, part ≠ .written text) (ht : part.text = before ++ start ++ after)
      (hr : '\x7d' ∈ after ++ rest) : Begins part rest
  | seam {part : Part} {before after : List Char} (ht : part.text = before ++ ['$'])
      (hr : '\x7d' ∈ after) : Begins part ('\x7b' :: after)

/-- The parts of a text say where its placeholders begin. Of the text of a value of the document
nothing is said but that one can begin in it. -/
structure AccountFor (parts : List Part) (text : List Char) : Prop where
  text_eq : text = joined parts
  begins : HasPlaceholder text →
    ∃ before part after, parts = before ++ part :: after ∧ Begins part (joined after)
  remains : ∀ before part after, parts = before ++ part :: after → Begins part (joined after) →
    (∀ v, part ≠ .value v) → HasPlaceholder text

section Assembly

variable {fragment context : Config} {origin : String} {stack : List String} {name : String}
  {fallback? : Option (List Char)} {ps qs : List Piece} {parts more : List Part}
  {text : List Char}

theorem joined_cons (part : Part) (parts : List Part) :
    joined (part :: parts) = part.text ++ joined parts := List.flatMap_cons

theorem joined_append (parts more : List Part) :
    joined (parts ++ more) = joined parts ++ joined more := List.flatMap_append

theorem Assembled.append (h : Assembled fragment context ps parts)
    (h' : Assembled fragment context qs more) :
    Assembled fragment context (ps ++ qs) (parts ++ more) := by
  induction h with
  | nil => exact h'
  | written _ ih => exact .written ih
  | entry hf hi _ _ ih =>
    rw [List.append_assoc]
    exact .entry hf hi ih
  | value hf hv _ ih => exact .value hf hv ih
  | context hf hc _ ih => exact .context hf hc ih
  | fallback hf hc _ ih => exact .fallback hf hc ih

theorem assembled_of_fills {means : String → Option (List Char) → List Char → Prop}
    (h : Fills means ps text)
    (hm : ∀ name fallback? text, .reference name fallback? ∈ ps → means name fallback? text →
      ∃ parts, Assembled fragment context [.reference name fallback?] parts ∧ text = joined parts) :
    ∃ parts, Assembled fragment context ps parts ∧ text = joined parts := by
  induction h with
  | nil => exact ⟨[], .nil, rfl⟩
  | literal _ ih =>
    obtain ⟨parts, hparts, rfl⟩ := ih fun n f t hp => hm n f t (List.mem_cons_of_mem _ hp)
    exact ⟨_, .written hparts, (joined_cons (.written _) parts).symm⟩
  | reference hr _ ih =>
    obtain ⟨first, hfirst, rfl⟩ := hm _ _ _ List.mem_cons_self hr
    obtain ⟨parts, hparts, rfl⟩ := ih fun n f t hp => hm n f t (List.mem_cons_of_mem _ hp)
    exact ⟨_, hfirst.append hparts, (joined_append _ _).symm⟩

theorem assembled_of_lookup
    (h : lookup fragment context origin stack name fallback? = .ok text) :
    ∃ parts, Assembled fragment context [.reference name fallback?] parts ∧
      text = joined parts := by
  -- A text is expanded with its name on the stack: the induction is on the names not there yet.
  induction stack, name using lookup_induction fragment generalizing fallback? text with
  | step stack name ih =>
    have hn := not_mem_of_lookup h
    cases hf : fragment.get? name with
    | none =>
      rw [lookup_absent hn hf, outside?] at h
      cases hc : context.get? name with
      | some value =>
        rw [hc] at h
        cases h
        exact ⟨_, .context hf hc .nil, (List.append_nil _).symm⟩
      | none =>
        rw [hc] at h
        cases fallback? with
        | some fallback =>
          cases h
          exact ⟨_, .fallback hf hc .nil, (List.append_nil _).symm⟩
        | none => cases h
    | some value =>
      rcases value.text_or_not with ⟨t, rfl⟩ | hv
      · rw [lookup_text hn hf] at h
        obtain ⟨parts, hparts, rfl⟩ := assembled_of_fills (fills_of_expand h)
          fun next f _ hp hl => ih t next f hn hf hp hl
        exact ⟨_, .entry hf hparts .nil, by rw [List.append_nil]⟩
      · rw [lookup_value hn hf hv] at h
        cases h
        exact ⟨_, .value hf hv .nil, (List.append_nil _).symm⟩

theorem assembled_of_expand (h : expand fragment context origin stack ps = .ok text) :
    ∃ parts, Assembled fragment context ps parts ∧ text = joined parts :=
  assembled_of_fills (fills_of_expand h) fun _ _ _ _ => assembled_of_lookup

/-- Whatever holds of what stands outside the placeholders of every text holds of all written
parts. -/
theorem Assembled.written_not_hasPlaceholder (h : Assembled fragment context ps parts)
    (hp : ∀ text, .literal text ∈ ps → ¬ HasPlaceholder text) :
    ∀ text, .written text ∈ parts → ¬ HasPlaceholder text := by
  induction h with
  | nil => nofun
  | written _ ih =>
    intro text hm
    rcases List.mem_cons.1 hm with hm | hm
    · cases hm
      exact hp _ List.mem_cons_self
    · exact ih (fun t ht => hp t (List.mem_cons_of_mem _ ht)) text hm
  | entry _ _ _ ihi ih =>
    intro text hm
    rcases List.mem_append.1 hm with hm | hm
    · exact ihi (fun t => (scans_pieces _).not_hasPlaceholder) text hm
    · exact ih (fun t ht => hp t (List.mem_cons_of_mem _ ht)) text hm
  | value _ _ _ ih | context _ _ _ ih | fallback _ _ _ ih =>
    intro text hm
    rcases List.mem_cons.1 hm with hm | hm
    · cases hm
    · exact ih (fun t ht => hp t (List.mem_cons_of_mem _ ht)) text hm

theorem exists_source_of_resolveValue {value value' : Value} {key held : String}
    (h : resolveValue fragment context key value = .ok value') (ht : Holds value' held) :
    ∃ source, Holds value source ∧
      expand fragment context key [key] (pieces source.toList) = .ok held.toList := by
  induction value using Value.text_induction generalizing value' with
  | text source =>
    rw [resolveValue_text] at h
    obtain ⟨filled, he, rfl⟩ := map_eq_ok h
    cases ht
    exact ⟨source, .text, by rw [he, String.toList_ofList]⟩
  | list items ih =>
    rw [resolveValue_list] at h
    obtain ⟨items', hi, rfl⟩ := map_eq_ok h
    cases ht with
    | list hm ht =>
      obtain ⟨item, hitem, hv⟩ := forall₂_exists_of_mem (mapM_ok_iff.1 hi).flip hm
      obtain ⟨source, hs, he⟩ := ih item hitem hv ht
      exact ⟨source, .list hitem hs, he⟩
  | other value hv hl =>
    rw [resolveValue_other hv hl] at h
    cases h
    cases ht with
    | text => cases hv
    | list => cases hl

end Assembly

theorem begins_iff {part : Part} {rest : List Char}
    (h : ∀ text, part = .written text → ¬ HasPlaceholder text) :
    Begins part rest ↔
      (∃ before after, part.text = before ++ start ++ after ∧ '\x7d' ∈ after ++ rest) ∨
      ∃ before after, part.text = before ++ ['$'] ∧ rest = '\x7b' :: after ∧ '\x7d' ∈ after := by
  constructor
  · intro hb
    cases hb with
    | unterminated ha hr => exact .inl ⟨_, _, rfl, List.mem_append_right _ hr⟩
    | substituted hp ht hr => exact .inl ⟨_, _, ht, hr⟩
    | seam ht hr => exact .inr ⟨_, _, ht, rfl, hr⟩
  · rintro (⟨before, after, ht, hr⟩ | ⟨before, after, ht, rfl, hr⟩)
    · cases part with
      | written text =>
        have ha : '\x7d' ∉ after := fun ha => h text rfl ⟨before, after, ht, ha⟩
        cases ht
        exact .unterminated ha ((List.mem_append.1 hr).resolve_left ha)
      | _ => exact .substituted nofun ht hr
    · exact .seam ht hr

theorem hasPlaceholder_joined {parts : List Part}
    (h : ∀ text, .written text ∈ parts → ¬ HasPlaceholder text) :
    HasPlaceholder (joined parts) ↔
      ∃ before part after, parts = before ++ part :: after ∧ Begins part (joined after) := by
  induction parts with
  | nil =>
    refine iff_of_false (fun hj => ?_) ?_
    · cases hj.mem_end
    · rintro ⟨before, part, after, heq, -⟩
      simp at heq
  | cons part parts ih =>
    have hpart : Begins part (joined parts) ↔ _ :=
      begins_iff fun text ht => h text (ht ▸ List.mem_cons_self)
    -- Either it begins in the first part, at its seam included, or in what the others come to.
    rw [joined_cons, hasPlaceholder_append, ← or_assoc, ← hpart,
      ih fun text ht => h text (List.mem_cons_of_mem _ ht)]
    constructor
    · rintro (hb | ⟨before, next, after, rfl, hb⟩)
      · exact ⟨[], part, parts, rfl, hb⟩
      · exact ⟨part :: before, next, after, rfl, hb⟩
    · rintro ⟨before, next, after, heq, hb⟩
      cases before with
      | nil =>
        cases heq
        exact .inl hb
      | cons _ before =>
        cases heq
        exact .inr ⟨before, next, after, rfl, hb⟩

theorem Assembled.accountFor {fragment context : Config} {text source : List Char}
    {parts : List Part} (h : Assembled fragment context (pieces source) parts)
    (ht : text = joined parts) : AccountFor parts text := by
  have hiff := hasPlaceholder_joined
    (h.written_not_hasPlaceholder fun _ => (scans_pieces _).not_hasPlaceholder)
  rw [← ht] at hiff
  exact ⟨ht, hiff.1, fun before part after hsplit hb _ => hiff.2 ⟨before, part, after, hsplit, hb⟩⟩

/-- Where the placeholders of a resolved document come from, and that there is nothing more to
resolve once there are none. -/
theorem placeholders_of_resolve {fragment context resolved : Config}
    (h : resolve fragment context = .ok resolved) :
    (∀ key value text, resolved.get? key = some value → Holds value text →
      ∃ original source parts, fragment.get? key = some original ∧ Holds original source ∧
        Assembled fragment context (pieces source.toList) parts ∧ AccountFor parts text.toList) ∧
    ((∀ key value text, resolved.get? key = some value → Holds value text →
        ¬ HasPlaceholder text.toList) →
      ∀ context', resolve resolved context' = .ok resolved) := by
  refine ⟨?_, fun hnone context' => resolve_of_not_hasPlaceholder hnone⟩
  intro key value text hk ht
  have hkey : key ∈ fragment.keys := keys_of_resolve h ▸ Store.mem_keys_of_get? hk
  obtain ⟨original, ho⟩ := Store.mem_keys_iff.1 hkey
  obtain ⟨value', hk', hv⟩ := get?_of_resolve h ho
  cases hk.symm.trans hk'
  obtain ⟨source, hs, he⟩ := exists_source_of_resolveValue hv ht
  obtain ⟨parts, hparts, htext⟩ := assembled_of_expand he
  exact ⟨original, source, parts, ho, hs, hparts, hparts.accountFor htext⟩

/-- A text in the place of an entry that looks like a placeholder, and a map in a list. -/
def nested : Config := .ofList [("size", .text "$\x7bwidth:$\x7bheight\x7d\x7d"),
  ("height", .text "9"), ("rows", .list [.map [("cell", .text "$\x7bwidth:9\x7d")]])]

def unnested : Config := .ofList [("size", .text "$\x7bheight\x7d"), ("height", .text "9"),
  ("rows", .list [.map [("cell", .text "$\x7bwidth:9\x7d")]])]

def unnestedTwice : Config := .ofList [("size", .text "9"), ("height", .text "9"),
  ("rows", .list [.map [("cell", .text "$\x7bwidth:9\x7d")]])]

theorem placeholders_of_resolve_nested :
    resolve nested .empty = .ok unnested ∧
      unnested.get? "size" = some (.text "$\x7bheight\x7d") ∧
      ∃ original source parts, nested.get? "size" = some original ∧ Holds original source ∧
        Assembled nested .empty (pieces source.toList) parts ∧
        AccountFor parts "$\x7bheight\x7d".toList := by
  have hresolve : resolve nested .empty = .ok unnested := by cbv
  exact ⟨hresolve, rfl, (placeholders_of_resolve hresolve).1 "size" _ _ rfl .text⟩

theorem placeholders_remain_in_unnested :
    resolve nested .empty = .ok unnested ∧
      unnested.get? "size" = some (.text "$\x7bheight\x7d") ∧
      HasPlaceholder "$\x7bheight\x7d".toList ∧
      unnested.get? "rows" = some (.list [.map [("cell", .text "$\x7bwidth:9\x7d")]]) ∧
      HasPlaceholder "$\x7bwidth:9\x7d".toList ∧
      resolve unnested .empty = .ok unnestedTwice ∧
      unnestedTwice.get? "size" = some (.text "9") := by
  refine ⟨by cbv, rfl, ⟨[], "height\x7d".toList, rfl, ?_⟩, rfl, ⟨[], "width:9\x7d".toList, rfl, ?_⟩,
    by cbv, rfl⟩ <;> simp

end Conform.Placeholder
