import Mathlib.Data.List.Lex
import Mathlib.Data.String.Basic

namespace Conform.Text

def bytes (s : String) : List UInt8 := s.toUTF8.data.toList

/-- The order of texts by their bytes. -/
def BytesBefore (s t : String) : Prop := List.Lex (· < ·) (bytes s) (bytes t)

theorem bytes_eq (s : String) : bytes s = s.toList.flatMap String.utf8EncodeChar := by
  rw [bytes, String.toUTF8_eq_toByteArray, ← String.ofList_toList (s := s),
    String.toByteArray_ofList, List.utf8Encode, List.toList_data_toByteArray, String.toList_ofList]

theorem ofNat_lt_iff {m n : Nat} (hm : m < 256) (hn : n < 256) :
    UInt8.ofNat m < UInt8.ofNat n ↔ m < n := by
  rw [UInt8.lt_iff_toNat_lt, UInt8.toNat_ofNat', UInt8.toNat_ofNat', Nat.mod_eq_of_lt hm,
    Nat.mod_eq_of_lt hn]

theorem ofNat_eq_iff {m n : Nat} (hm : m < 256) (hn : n < 256) :
    UInt8.ofNat m = UInt8.ofNat n ↔ m = n := by
  rw [← UInt8.toNat_inj, UInt8.toNat_ofNat', UInt8.toNat_ofNat', Nat.mod_eq_of_lt hm,
    Nat.mod_eq_of_lt hn]

/-- The bytes of a character are its digits to the base 64, the first one with a mark for how many
there are. -/
theorem lex_encode_of_lt {c d : Char} (h : c < d) (xs ys : List UInt8) :
    List.Lex (· < ·) (String.utf8EncodeChar c ++ xs) (String.utf8EncodeChar d ++ ys) := by
  have hlt : c.val.toNat < d.val.toNat := h
  have hd : d.val.toNat < 0x110000 := d.valid.elim (fun hl => by omega) fun hr => hr.2
  simp only [String.utf8EncodeChar.eq_def]
  generalize c.val.toNat = m at *
  generalize d.val.toNat = n at *
  have hdiv (n : Nat) : n / 4096 = n / 64 / 64 ∧ n / 262144 = n / 64 / 64 / 64 := by
    rw [Nat.div_div_eq_div_mul, Nat.div_div_eq_div_mul]
    exact ⟨rfl, rfl⟩
  rw [(hdiv m).1, (hdiv m).2, (hdiv n).1, (hdiv n).2]
  split_ifs <;>
    simp (disch := omega) only [List.cons_append, List.cons_lex_cons_iff, ofNat_lt_iff,
      ofNat_eq_iff] <;>
    omega

theorem lex_flatMap_encode {cs ds : List Char} (h : List.Lex (· < ·) cs ds) :
    List.Lex (· < ·) (cs.flatMap String.utf8EncodeChar) (ds.flatMap String.utf8EncodeChar) := by
  induction h with
  | @nil c rest =>
    have hne : String.utf8EncodeChar c ≠ [] := by
      rw [← List.length_pos_iff, String.length_utf8EncodeChar]
      exact c.utf8Size_pos
    obtain ⟨b, bs, hb⟩ := List.exists_cons_of_ne_nil hne
    rw [List.flatMap_cons, hb]
    exact .nil
  | @cons c cs ds hrest ih =>
    rw [List.flatMap_cons, List.flatMap_cons]
    exact List.Lex.append_left _ ih _
  | @rel c cs d ds hcd =>
    rw [List.flatMap_cons, List.flatMap_cons]
    exact lex_encode_of_lt hcd _ _

theorem bytesBefore_of_lt {s t : String} (h : s < t) : BytesBefore s t := by
  rw [BytesBefore, bytes_eq, bytes_eq]
  exact lex_flatMap_encode (String.lt_iff_toList_lt.1 h)

theorem BytesBefore.asymm {s t : String} (h : BytesBefore s t) : ¬ BytesBefore t s := by
  intro hback
  exact List.lex_irrefl UInt8.lt_irrefl _ (List.lex_trans UInt8.lt_trans h hback)

theorem le_iff_eq_or_bytesBefore {s t : String} : s ≤ t ↔ t = s ∨ BytesBefore s t := by
  constructor
  · intro h
    rcases Std.le_iff_lt_or_eq.1 h with hlt | rfl
    · exact .inr (bytesBefore_of_lt hlt)
    · exact .inl rfl
  · rintro (rfl | h)
    · exact String.le_refl _
    · exact String.not_lt.1 fun hlt => h.asymm (bytesBefore_of_lt hlt)

end Conform.Text
