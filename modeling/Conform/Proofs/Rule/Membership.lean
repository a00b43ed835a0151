import Conform.Proofs.Value.Forms
import Conform.Rule

namespace Conform

namespace Rule

variable {expectation value : Value} {config : Config} {key : String}

theorem check_notEqual (expectation value : Value) (config : Config) (key : String) :
    notEqual.check expectation ⟨config, key, value⟩ = !value.same expectation := rfl

theorem check_inList (expectation value : Value) (config : Config) (key : String) :
    inList.check expectation ⟨config, key, value⟩ =
      expectation.list?.any fun items => items.any (·.same value) := rfl

theorem check_inList_single (other value : Value) (config : Config) (key : String) :
    inList.check (.list [other]) ⟨config, key, value⟩ = other.same value := by
  simp [check_inList, Value.list?]

end Rule

namespace Value

variable {a b c v w : Value}

/-- Equality by meaning is symmetric and transitive, and a value is the same as itself exactly if no
double in it is one that is no number. So a value is different from another exactly if it is none of
the list of this other alone. -/
theorem same_equivalence (ha : a.Keyed) (hb : b.Keyed) :
    a.same b = b.same a ∧ (a.same a = true ↔ a.Definite) ∧
    (a.same b = true → b.same c = true → a.same c = true) ∧
    ∀ config key, Rule.notEqual.check b ⟨config, key, a⟩ =
      !Rule.inList.check (.list [b]) ⟨config, key, a⟩ := by
  refine ⟨same_comm ha hb, same_self_iff ha, same_trans, fun config key => ?_⟩
  rw [Rule.check_notEqual, Rule.check_inList_single, same_comm ha hb]

def measured : Value :=
  .list [.double (.encode false 0x18000000000000 (-52)),
    .map [("unit", .text "m"), ("error", .null)]]

def reported : Value :=
  .list [.decimal ⟨150, 2⟩, .map [("error", .null), ("unit", .text "m")]]

theorem same_equivalence_measured :
    measured.Keyed ∧ reported.Keyed ∧ measured.Definite ∧ measured.same reported = true ∧
      reported.same measured = true ∧
      Rule.notEqual.check reported ⟨∅, "length", measured⟩ = false := by
  have hm : measured.Keyed := by
    simp (disch := decide) [measured, keyed_list, keyed_map, keyed_leaf]
  have hr : reported.Keyed := by
    simp (disch := decide) [reported, keyed_list, keyed_map, keyed_leaf]
  have hsame : measured.same reported = true := rfl
  obtain ⟨hcomm, hself, htrans, hrule⟩ := same_equivalence (c := measured) hm hr
  have hback : reported.same measured = true := hcomm ▸ hsame
  refine ⟨hm, hr, hself.1 (htrans hsame hback), hsame, hback, ?_⟩
  rw [hrule, Rule.check_inList_single, hback]
  rfl

theorem same_congr (hvw : v.same w = true) (hwv : w.same v = true) (a : Value) :
    a.same v = a.same w ∧ v.same a = w.same a := by
  constructor
  · exact Bool.eq_iff_iff.2 ⟨fun h => same_trans h hvw, fun h => same_trans h hwv⟩
  · exact Bool.eq_iff_iff.2 ⟨same_trans hwv, same_trans hvw⟩

/-- Two values get the same verdict from both rules, whatever is expected. -/
def SameVerdicts (v w : Value) : Prop :=
  ∀ expectation config key,
    Rule.inList.check expectation ⟨config, key, v⟩ =
      Rule.inList.check expectation ⟨config, key, w⟩ ∧
    Rule.notEqual.check expectation ⟨config, key, v⟩ =
      Rule.notEqual.check expectation ⟨config, key, w⟩

theorem sameVerdicts_iff (hv : v.Keyed) (hw : w.Keyed) (hd : v.Definite) :
    SameVerdicts v w ↔ v.same w = true := by
  constructor
  · intro h
    have hlist := (h (.list [v]) ∅ "").1
    rw [Rule.check_inList_single, Rule.check_inList_single, (same_self_iff hv).2 hd] at hlist
    exact hlist.symm
  · intro hvw expectation config key
    have hcongr := same_congr hvw (same_symm hv hw hvw)
    rw [Rule.check_inList, Rule.check_inList, Rule.check_notEqual, Rule.check_notEqual,
      (hcongr expectation).2]
    simp only [hcongr, and_self]

/-- A value of which numbers are replaced by equal ones of other forms is the same value, and gets
the same verdicts, exactly if the numbers in its maps keep their forms. -/
theorem renumbered_same_iff (h : Renumbered v w) (hk : v.Keyed) (hd : v.Definite) :
    (v.same w = true ↔ SameFormsAt InMap v w) ∧ (SameVerdicts v w ↔ SameFormsAt InMap v w) := by
  have hsame := h.same_iff hk hd
  exact ⟨hsame, (sameVerdicts_iff hk (h.keyed hk) hd).trans hsame⟩

def counted (number : Value) : Value := .list [number, .map [("port", .integer 1)]]

theorem renumbered_same_counted :
    Renumbered (counted (.integer 1)) (counted (.double (.finite false 1023 0))) ∧
      (counted (.integer 1)).Keyed ∧ (counted (.integer 1)).Definite ∧
      SameVerdicts (counted (.integer 1)) (counted (.double (.finite false 1023 0))) := by
  have hequal : EqualNumbers (.integer 1) (.double (.finite false 1023 0)) :=
    ⟨.ofInt 1, ⟨1, 0⟩, rfl, rfl, rfl⟩
  have h : Renumbered (counted (.integer 1)) (counted (.double (.finite false 1023 0))) := by
    refine .list rfl fun i v w hv hw => ?_
    match i with
    | 0 =>
      cases hv
      cases hw
      exact .number hequal
    | 1 =>
      cases hv
      cases hw
      exact .keep _
    | i + 2 => cases hv
  have hk : (counted (.integer 1)).Keyed := by
    simp (disch := decide) [counted, keyed_list, keyed_map, keyed_leaf]
  have hd : (counted (.integer 1)).Definite := (same_self_iff hk).1 rfl
  obtain ⟨hsame, hverdicts⟩ := renumbered_same_iff h hk hd
  exact ⟨h, hk, hd, hverdicts.2 (hsame.1 rfl)⟩

def listed (port : Value) : Value := .list [.map [("port", port)]]

/-- A number of another form makes a map another value. -/
theorem renumbered_differs_listed :
    Renumbered (listed (.integer 1)) (listed (.decimal ⟨10, 1⟩)) ∧
      (listed (.integer 1)).Keyed ∧ (listed (.integer 1)).Definite ∧
      (listed (.integer 1)).same (listed (.decimal ⟨10, 1⟩)) = false ∧
      ¬ SameVerdicts (listed (.integer 1)) (listed (.decimal ⟨10, 1⟩)) := by
  have hequal : EqualNumbers (.integer 1) (.decimal ⟨10, 1⟩) :=
    ⟨.ofInt 1, ⟨10, 1⟩, rfl, rfl, by norm_num [Decimal.value, Decimal.ofInt]⟩
  have hmaps : Renumbered (.map [("port", .integer 1)]) (.map [("port", .decimal ⟨10, 1⟩)]) := by
    refine .map rfl fun name v w hv hw => ?_
    rw [Entries.lookup_eq_some_iff (by simp), List.mem_singleton] at hv hw
    cases hv
    cases hw
    exact .number hequal
  have h : Renumbered (listed (.integer 1)) (listed (.decimal ⟨10, 1⟩)) := by
    refine .list rfl fun i v w hv hw => ?_
    cases i with
    | zero =>
      cases hv
      cases hw
      exact hmaps
    | succ i => cases hv
  have hk : (listed (.integer 1)).Keyed := by
    simp (disch := decide) [listed, keyed_list, keyed_map, keyed_leaf]
  refine ⟨h, hk, (same_self_iff hk).1 rfl, rfl, fun hverdicts => ?_⟩
  exact absurd (hverdicts (.list [listed (.integer 1)]) ∅ "ports").1 (by decide)

end Value

end Conform
