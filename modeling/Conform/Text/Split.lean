namespace Conform.Text

/-- The pieces of a text between separators; a text without separator is its only piece. -/
def pieces (sep : Char) : List Char → List (List Char)
  | [] => [[]]
  | c :: rest =>
    if c = sep then [] :: pieces sep rest
    else
      match pieces sep rest with
      | [] => [[c]]
      | piece :: more => (c :: piece) :: more

/-- The pieces of a text between pairs of a mark, which are found from the left: the last mark of a
run of an odd number of them begins the next piece. -/
def piecesAtPairs (mark : Char) : List Char → List (List Char)
  | [] => [[]]
  | [c] => [[c]]
  | c :: d :: rest =>
    if c = mark ∧ d = mark then [] :: piecesAtPairs mark rest
    else
      match piecesAtPairs mark (d :: rest) with
      | [] => [[c]]
      | piece :: more => (c :: piece) :: more

def joinWith (sep : List Char) : List (List Char) → List Char
  | [] => []
  | [piece] => piece
  | piece :: next :: more => piece ++ sep ++ joinWith sep (next :: more)

def stripPrefix? : (lead text : List Char) → Option (List Char)
  | [], text => some text
  | _ :: _, [] => none
  | l :: lead, c :: text => if l = c then stripPrefix? lead text else none

def splitFirst? (mark : Char) : List Char → Option (List Char × List Char)
  | [] => none
  | c :: rest =>
    if c = mark then some ([], rest)
    else (splitFirst? mark rest).map fun (before, after) => (c :: before, after)

def dropEndWhile (p : Char → Bool) (text : List Char) : List Char :=
  (text.reverse.dropWhile p).reverse

theorem dropEndWhile_of_last {p : Char → Bool} {text : List Char}
    (h : ∀ c, text.getLast? = some c → p c = false) : dropEndWhile p text = text := by
  rw [← List.head?_reverse] at h
  have hkept : text.reverse.dropWhile p = text.reverse := by
    cases hr : text.reverse with
    | nil => rfl
    | cons c rest =>
      rw [hr] at h
      exact List.dropWhile_cons_of_neg (by simp [h c rfl])
  rw [dropEndWhile, hkept, List.reverse_reverse]

theorem dropEndWhile_append {p : Char → Bool} (front : List Char) {back : List Char} {c : Char}
    (hc : c ∈ back) (hp : p c = false) :
    dropEndWhile p (front ++ back) = front ++ dropEndWhile p back := by
  have hstop : ¬ (back.reverse.dropWhile p).isEmpty = true := by
    intro hempty
    have hall := back.reverse.takeWhile_append_dropWhile (p := p)
    rw [List.isEmpty_iff.1 hempty, List.append_nil] at hall
    have hpc := List.all_eq_true.1 (hall ▸ List.all_takeWhile) c (List.mem_reverse.2 hc)
    rw [hp] at hpc
    cases hpc
  rw [dropEndWhile, List.reverse_append, List.dropWhile_append, if_neg hstop, List.reverse_append,
    List.reverse_reverse, dropEndWhile]

theorem pieces_ne_nil (sep : Char) (text : List Char) : pieces sep text ≠ [] := by
  cases text with
  | nil => simp [pieces]
  | cons c rest =>
    rw [pieces]
    split
    · simp
    · split <;> simp

theorem joinWith_pieces (sep : Char) (text : List Char) :
    joinWith [sep] (pieces sep text) = text := by
  induction text with
  | nil => rfl
  | cons c rest ih =>
    rw [pieces]
    split
    next h =>
      subst h
      cases hp : pieces c rest with
      | nil => exact absurd hp (pieces_ne_nil c rest)
      | cons piece more => rw [joinWith, ← hp, ih]; rfl
    next h =>
      cases hp : pieces sep rest with
      | nil => exact absurd hp (pieces_ne_nil sep rest)
      | cons piece more =>
        rw [hp] at ih
        cases more with
        | nil => simpa [joinWith] using ih
        | cons next more => simpa [joinWith] using ih

theorem piecesAtPairs_ne_nil (mark : Char) (text : List Char) : piecesAtPairs mark text ≠ [] := by
  cases text with
  | nil => simp [piecesAtPairs]
  | cons c text =>
    cases text with
    | nil => simp [piecesAtPairs]
    | cons d rest =>
      rw [piecesAtPairs]
      split
      · simp
      · split <;> simp

theorem joinWith_piecesAtPairs (mark : Char) (text : List Char) :
    joinWith [mark, mark] (piecesAtPairs mark text) = text := by
  induction text using piecesAtPairs.induct mark with
  | case1 => rfl
  | case2 c => rfl
  | case3 c d rest h ih =>
    obtain ⟨rfl, rfl⟩ := h
    cases hp : piecesAtPairs d rest with
    | nil => exact absurd hp (piecesAtPairs_ne_nil d rest)
    | cons piece more =>
      rw [piecesAtPairs, if_pos ⟨rfl, rfl⟩, hp, joinWith, ← hp, ih]
      rfl
  | case4 c d rest h hp ih => exact absurd hp (piecesAtPairs_ne_nil mark _)
  | case5 c d rest h piece more hp ih =>
    rw [hp] at ih
    rw [piecesAtPairs, if_neg h, hp]
    cases more with
    | nil => simpa [joinWith] using ih
    | cons next more => simpa [joinWith] using ih

theorem pieces_append_cons (sep : Char) (text rest : List Char) :
    pieces sep (text ++ sep :: rest) = pieces sep text ++ pieces sep rest := by
  induction text with
  | nil => simp [pieces]
  | cons c text ih =>
    rw [List.cons_append, pieces, pieces, ih]
    split
    next => rfl
    next =>
      cases hp : pieces sep text with
      | nil => exact absurd hp (pieces_ne_nil sep text)
      | cons piece more => rfl

theorem joinWith_cons_append (sep piece next : List Char) (more : List (List Char)) :
    joinWith sep ((piece ++ sep ++ next) :: more) = joinWith sep (piece :: next :: more) := by
  cases more with
  | nil => rfl
  | cons third more => simp [joinWith]

theorem joinWith_append (sep : List Char) {front back : List (List Char)} (hf : front ≠ [])
    (hb : back ≠ []) :
    joinWith sep (front ++ back) = joinWith sep front ++ sep ++ joinWith sep back := by
  induction front with
  | nil => exact absurd rfl hf
  | cons piece front ih =>
    cases front with
    | nil =>
      cases back with
      | nil => exact absurd rfl hb
      | cons next back => rfl
    | cons next front =>
      have h := ih (by simp)
      simp only [List.cons_append, joinWith] at h ⊢
      simp [h]

theorem pieces_of_not_mem {sep : Char} {text : List Char} (h : sep ∉ text) :
    pieces sep text = [text] := by
  induction text with
  | nil => rfl
  | cons c text ih =>
    rw [List.mem_cons, not_or] at h
    rw [pieces, if_neg (Ne.symm h.1), ih h.2]

theorem stripPrefix?_eq_some_iff {lead text rest : List Char} :
    stripPrefix? lead text = some rest ↔ text = lead ++ rest := by
  induction lead generalizing text with
  | nil => simp [stripPrefix?]
  | cons l lead ih =>
    cases text with
    | nil => simp [stripPrefix?]
    | cons c text =>
      by_cases h : l = c
      · simp [stripPrefix?, h, ih]
      · simp [stripPrefix?, h, Ne.symm h]

theorem splitFirst?_eq_some {mark : Char} {text before after : List Char}
    (h : splitFirst? mark text = some (before, after)) :
    text = before ++ mark :: after ∧ mark ∉ before := by
  induction text generalizing before with
  | nil => simp [splitFirst?] at h
  | cons c rest ih =>
    by_cases hc : c = mark
    · simp [splitFirst?, hc] at h
      obtain ⟨rfl, rfl⟩ := h
      simp [hc]
    · simp only [splitFirst?, hc, if_false, Option.map_eq_some_iff] at h
      obtain ⟨⟨b, a⟩, hr, heq⟩ := h
      simp only [Prod.mk.injEq] at heq
      obtain ⟨rfl, rfl⟩ := heq
      obtain ⟨hrest, hmem⟩ := ih hr
      exact ⟨by rw [hrest]; rfl, by simp [hmem, Ne.symm hc]⟩

theorem splitFirst?_append {mark : Char} {before : List Char} (h : mark ∉ before)
    (after : List Char) : splitFirst? mark (before ++ mark :: after) = some (before, after) := by
  induction before with
  | nil => simp [splitFirst?]
  | cons c before ih =>
    rw [List.mem_cons, not_or] at h
    rw [List.cons_append, splitFirst?, if_neg (Ne.symm h.1), ih h.2]
    rfl

theorem splitFirst?_eq_none_iff {mark : Char} {text : List Char} :
    splitFirst? mark text = none ↔ mark ∉ text := by
  induction text with
  | nil => simp [splitFirst?]
  | cons c rest ih =>
    by_cases hc : c = mark
    · simp [splitFirst?, hc]
    · simp [splitFirst?, hc, Ne.symm hc, ih]

def startsWith (lead text : String) : Bool :=
  (stripPrefix? lead.toList text.toList).isSome

def after? (lead text : String) : Option String :=
  (stripPrefix? lead.toList text.toList).map String.ofList

theorem startsWith_iff {lead text : String} :
    startsWith lead text = true ↔ ∃ rest, text = lead ++ rest := by
  simp only [startsWith, Option.isSome_iff_exists, stripPrefix?_eq_some_iff]
  constructor
  · rintro ⟨rest, hrest⟩
    refine ⟨String.ofList rest, ?_⟩
    rw [← String.toList_inj, String.toList_append, String.toList_ofList, hrest]
  · rintro ⟨rest, rfl⟩
    exact ⟨rest.toList, String.toList_append⟩

theorem after?_eq_some_iff {lead text rest : String} :
    after? lead text = some rest ↔ text = lead ++ rest := by
  simp only [after?, Option.map_eq_some_iff, stripPrefix?_eq_some_iff]
  constructor
  · rintro ⟨cs, hcs, rfl⟩
    rw [← String.toList_inj, String.toList_append, String.toList_ofList, hcs]
  · rintro rfl
    exact ⟨rest.toList, String.toList_append, String.ofList_toList⟩

end Conform.Text
