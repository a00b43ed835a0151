import Conform.Proofs.Store.Writes
import Conform.Proofs.Text.Bytes
import Conform.Settings

namespace Conform

namespace Settings

def Field.name : Field → String
  | strict => "VALIDATION__STRICT"
  | parallelism => "VALIDATION__PARALLELISM"
  | profile => "VALIDATION__PROFILE"
  | enabled => "LOGGING__ENABLED"
  | level => "LOGGING__LEVEL"
  | format => "LOGGING__FORMAT"

/-- The variable for a setting of a program. -/
def Field.variable (program : String) (f : Field) : String := program ++ "__" ++ f.name

inductive Misread (text : String) : Field → VariableProblem → Prop
  | strict (h : flagOfText? text = none) : Misread text .strict .notFlag
  | parallelism (h : countOfText? text = none) : Misread text .parallelism .notCount
  | enabled (h : flagOfText? text = none) : Misread text .enabled .notFlag
  | format (h : LogFormat.ofName? (Unicode.toLower text) = none) : Misread text .format .notFormat

/-- A variable begins as those of a program, and is for no setting or cannot be read as its
setting. -/
inductive Malformed (program : String) (env : Environment) (name : String) :
    VariableProblem → Prop
  | unknown {setting : String} (hn : name = program ++ "__" ++ setting) (h : name ∈ env.keys)
      (hf : ∀ f : Field, setting ≠ f.name) : Malformed program env name .unknownSetting
  | misread {f : Field} {text : String} {problem : VariableProblem}
      (hn : name = f.variable program) (h : env.get? name = some text)
      (hm : Misread text f problem) : Malformed program env name problem

/-- The settings with those that have a text replaced by what it reads as; no text at all clears the
profile. -/
def layered (s : Settings) (text? : Field → Option String) : Settings where
  validation :=
    { strict := ((text? .strict).bind flagOfText?).getD s.validation.strict
      parallelism := ((text? .parallelism).bind countOfText?).getD s.validation.parallelism
      profile :=
        ((text? .profile).map fun text => if text = "" then none else some text).getD
          s.validation.profile }
  logging :=
    { enabled := ((text? .enabled).bind flagOfText?).getD s.logging.enabled
      level := (text? .level).getD s.logging.level
      format :=
        ((text? .format).bind fun text => LogFormat.ofName? (Unicode.toLower text)).getD
          s.logging.format }

namespace Field

theorem ofName?_eq_some_iff {name : String} {f : Field} : ofName? name = some f ↔ name = f.name := by
  constructor
  · intro h
    have hparts := List.find?_some h
    rw [decide_eq_true_eq] at hparts
    have hjoin := Text.joinWith_piecesAtPairs '_' name.toList
    have hpieces : Text.piecesAtPairs '_' name.toList = f.parts.map String.toList := by
      rw [hparts, List.map_map]
      simp [Function.comp_def]
    rw [hpieces] at hjoin
    apply String.toList_injective
    rw [← hjoin]
    cases f <;> rfl
  · rintro rfl
    cases f <;> decide

theorem ofName?_eq_none_iff {name : String} : ofName? name = none ↔ ∀ f : Field, name ≠ f.name := by
  rw [Option.eq_none_iff_forall_ne_some]
  exact forall_congr' fun f => not_congr ofName?_eq_some_iff

theorem name_injective {f g : Field} (h : f.name = g.name) : f = g :=
  Option.some.inj ((ofName?_eq_some_iff.2 rfl).symm.trans (ofName?_eq_some_iff.2 h))

theorem variable_injective {program : String} {f g : Field}
    (h : f.variable program = g.variable program) : f = g :=
  name_injective ((String.append_right_inj _).1 h)

end Field

section Layer

variable {text : String} {f : Field}

@[simp] theorem layered_none (s : Settings) : s.layered (fun _ => none) = s := rfl

theorem layered_layered {lower upper : Field → Option String}
    (h : ∀ f, upper f = none ∨ lower f = none) (s : Settings) :
    (s.layered lower).layered upper = s.layered fun f => (upper f).or (lower f) := by
  have hread {α : Type} (f : Field) (read : Option String → α → α) (hnone : ∀ a, read none a = a)
      (a : α) : read (upper f) (read (lower f) a) = read ((upper f).or (lower f)) a := by
    rcases h f with hf | hf
    · rw [hf, hnone, Option.none_or]
    · rw [hf, hnone, Option.or_none]
  simp only [layered]
  congr 2
  · exact hread .strict (fun text? => (text?.bind flagOfText?).getD) (fun _ => rfl) _
  · exact hread .parallelism (fun text? => (text?.bind countOfText?).getD) (fun _ => rfl) _
  · exact hread .profile (fun text? => Option.getD (text?.map _)) (fun _ => rfl) _
  · exact hread .enabled (fun text? => (text?.bind flagOfText?).getD) (fun _ => rfl) _
  · exact hread .level Option.getD (fun _ => rfl) _
  · exact hread .format (fun text? => Option.getD (text?.bind _)) (fun _ => rfl) _

theorem assign_of_misread {problem : VariableProblem} (h : Misread text f problem) (s : Settings) :
    s.assign text f = .error problem := by
  cases h with
  | strict h | parallelism h | enabled h | format h => simp only [assign, h]

theorem assign_of_readable (h : ∀ problem, ¬ Misread text f problem) (s : Settings) :
    s.assign text f = .ok (s.layered fun g => if g = f then some text else none) := by
  cases f with
  | strict =>
    obtain ⟨b, hb⟩ := Option.ne_none_iff_exists'.1 fun hnone => h .notFlag (.strict hnone)
    simp [assign, layered, hb]
  | parallelism =>
    obtain ⟨n, hn⟩ := Option.ne_none_iff_exists'.1 fun hnone => h .notCount (.parallelism hnone)
    simp [assign, layered, hn]
  | profile => simp [assign, layered]
  | enabled =>
    obtain ⟨b, hb⟩ := Option.ne_none_iff_exists'.1 fun hnone => h .notFlag (.enabled hnone)
    simp [assign, layered, hb]
  | level => simp [assign, layered]
  | format =>
    obtain ⟨format, hformat⟩ :=
      Option.ne_none_iff_exists'.1 fun hnone => h .notFormat (.format hnone)
    simp [assign, layered, hformat]

end Layer

section Run

variable {program name : String} {env : Environment}

/-- The texts of those variables for settings that are among some names. -/
def textsAmong (program : String) (env : Environment) (names : List String) (f : Field) :
    Option String :=
  if f.variable program ∈ names then env.get? (f.variable program) else none

/-- What overriding settings by the variables of some names comes to: the first malformed one is the
failure; if there is none, the variables are a layer. -/
inductive Overridden (program : String) (env : Environment) (names : List String) (s : Settings) :
    Except SettingsFailure Settings → Prop
  | failed {name : String} {problem : VariableProblem} (hn : name ∈ names)
      (h : Malformed program env name problem)
      (hfirst : ∀ other ∈ names, ∀ q, Malformed program env other q → name ≤ other) :
      Overridden program env names s (.error (.malformedVariable name problem))
  | layered (h : ∀ name ∈ names, ∀ problem, ¬ Malformed program env name problem) :
      Overridden program env names s (.ok (s.layered (textsAmong program env names)))

namespace Malformed

variable {problem : VariableProblem}

theorem exists_setting (h : Malformed program env name problem) :
    ∃ setting, name = program ++ "__" ++ setting := by
  cases h with
  | unknown hn _ _ => exact ⟨_, hn⟩
  | misread hn _ _ => exact ⟨_, hn⟩

theorem mem_keys (h : Malformed program env name problem) : name ∈ env.keys := by
  cases h with
  | unknown _ hk _ => exact hk
  | misread _ hk _ => exact Store.mem_keys_of_get? hk

theorem misread_iff {f : Field} {text : String} (h : env.get? (f.variable program) = some text) :
    Malformed program env (f.variable program) problem ↔ Misread text f problem := by
  constructor
  · intro hm
    generalize hname : f.variable program = name at hm h
    cases hm with
    | unknown hn _ hf =>
      rw [← hname, Field.variable] at hn
      exact absurd ((String.append_right_inj _).1 hn).symm (hf f)
    | @misread g other _ hn hother hm =>
      cases Field.variable_injective (hname.trans hn)
      cases h.symm.trans hother
      exact hm
  · exact .misread rfl h

theorem unique {q : VariableProblem} (h : Malformed program env name problem)
    (hq : Malformed program env name q) : problem = q := by
  cases h with
  | @unknown setting hn hk hf =>
    cases hq with
    | unknown => rfl
    | @misread g _ _ hg _ _ =>
      rw [hn, Field.variable] at hg
      exact absurd ((String.append_right_inj _).1 hg) (hf g)
  | misread hn ht hm =>
    subst hn
    have hm' := (misread_iff ht).1 hq
    cases hm <;> cases hm' <;> rfl

end Malformed

theorem setting_iff {setting : String} :
    (Text.after? program name).bind (Text.after? "__") = some setting ↔
      name = program ++ "__" ++ setting := by
  simp only [Option.bind_eq_some_iff, Text.after?_eq_some_iff, exists_eq_right, String.append_assoc]

theorem textsAmong_variable (program : String) (env : Environment) (f : Field) :
    textsAmong program env [f.variable program] =
      fun g => if g = f then env.get? (f.variable program) else none := by
  funext g
  by_cases h : g = f
  · simp [textsAmong, h]
  · have hne : g.variable program ≠ f.variable program := fun he => h (Field.variable_injective he)
    simp [textsAmong, h, hne]

theorem textsAmong_cons (program : String) (env : Environment) (name : String)
    (rest : List String) : textsAmong program env (name :: rest) =
      fun f => (textsAmong program env rest f).or (textsAmong program env [name] f) := by
  funext f
  by_cases hrest : f.variable program ∈ rest
  · rw [textsAmong, if_pos (List.mem_cons_of_mem _ hrest), textsAmong, if_pos hrest, textsAmong]
    split
    · rw [Option.or_self]
    · rw [Option.or_none]
  · simp [textsAmong, hrest]

section Override

variable {setting text : String}

theorem override_of_other (h : ∀ setting, name ≠ program ++ "__" ++ setting) (s : Settings) :
    override program env s name = .ok s := by
  have hnone : (Text.after? program name).bind (Text.after? "__") = none := by
    rw [Option.eq_none_iff_forall_ne_some]
    exact fun setting hs => h setting (setting_iff.1 hs)
  rw [override, hnone]

theorem override_setting (hk : env.get? (program ++ "__" ++ setting) = some text) (s : Settings) :
    override program env s (program ++ "__" ++ setting) =
      match s.assignNamed setting text with
      | .ok s => .ok s
      | .error problem => .error (.malformedVariable (program ++ "__" ++ setting) problem) := by
  rw [override, setting_iff.2 rfl, hk]
  rfl

end Override

/-- Overriding by one variable fails if it is malformed, and is a layer otherwise. -/
theorem overridden_override (s : Settings) (hk : name ∈ env.keys) :
    Overridden program env [name] s (override program env s name) := by
  obtain ⟨text, htext⟩ := Store.mem_keys_iff.1 hk
  have hfailed {problem : VariableProblem} (hm : Malformed program env name problem) :
      Overridden program env [name] s (.error (.malformedVariable name problem)) := by
    refine .failed List.mem_cons_self hm fun other ho _ _ => ?_
    rw [List.mem_singleton.1 ho]
  have hlayered (hm : ∀ problem, ¬ Malformed program env name problem) :
      Overridden program env [name] s (.ok (s.layered (textsAmong program env [name]))) := by
    refine .layered fun other ho => ?_
    rwa [List.mem_singleton.1 ho]
  by_cases hother : ∀ setting, name ≠ program ++ "__" ++ setting
  · have htexts : textsAmong program env [name] = fun _ => none := by
      funext f
      exact if_neg fun hm => hother f.name (List.mem_singleton.1 hm).symm
    have hok := hlayered fun problem hm => hm.exists_setting.elim hother
    rw [htexts, layered_none] at hok
    rwa [override_of_other hother]
  · simp only [not_forall, not_not] at hother
    obtain ⟨setting, rfl⟩ := hother
    rw [override_setting htext, assignNamed]
    cases hf : Field.ofName? setting with
    | none => exact hfailed (.unknown rfl hk (Field.ofName?_eq_none_iff.1 hf))
    | some f =>
      obtain rfl := Field.ofName?_eq_some_iff.1 hf
      by_cases hm : ∃ problem, Misread text f problem
      · obtain ⟨problem, hm⟩ := hm
        simp only [assign_of_misread hm]
        exact hfailed (.misread rfl htext hm)
      · rw [not_exists] at hm
        have hok := hlayered fun problem h => hm problem ((Malformed.misread_iff htext).1 h)
        have htexts := textsAmong_variable program env f
        rw [Field.variable, htext] at htexts
        rw [htexts] at hok
        simpa only [assign_of_readable hm] using hok

theorem Overridden.cons {names : List String} {s : Settings}
    {result : Except SettingsFailure Settings} (hname : ∀ other ∈ names, name < other)
    (hfirst : ∀ problem, ¬ Malformed program env name problem)
    (h : Overridden program env names (s.layered (textsAmong program env [name])) result) :
    Overridden program env (name :: names) s result := by
  cases h with
  | failed hn hm hleast =>
    refine .failed (List.mem_cons_of_mem _ hn) hm fun other ho q hq => ?_
    rcases List.mem_cons.1 ho with rfl | ho
    · exact absurd hq (hfirst q)
    · exact hleast other ho q hq
  | layered hlater =>
    have hdisjoint (f : Field) : textsAmong program env names f = none ∨
        textsAmong program env [name] f = none := by
      by_cases hf : f.variable program ∈ names
      · refine .inr (if_neg fun hmem => ?_)
        exact Std.lt_irrefl (List.mem_singleton.1 hmem ▸ hname _ hf)
      · exact .inl (if_neg hf)
    rw [layered_layered hdisjoint, ← textsAmong_cons]
    exact .layered (List.forall_mem_cons.2 ⟨hfirst, hlater⟩)

/-- Variables in order override one after another as they would all at once. -/
theorem overridden_foldlM {names : List String} (hs : names.Pairwise (· < ·))
    (hk : ∀ name ∈ names, name ∈ env.keys) (s : Settings) :
    Overridden program env names s (names.foldlM (override program env) s) := by
  induction names generalizing s with
  | nil => exact .layered fun _ h => nomatch h
  | cons name rest ih =>
    obtain ⟨hbefore, hrest⟩ := List.pairwise_cons.1 hs
    obtain ⟨hname, hkeys⟩ := List.forall_mem_cons.1 hk
    have hstep : Overridden program env [name] s (override program env s name) :=
      overridden_override s hname
    rw [List.foldlM_cons]
    generalize override program env s name = result at hstep
    cases hstep with
    | @failed other problem ho hm _ =>
      obtain rfl := List.mem_singleton.1 ho
      refine .failed List.mem_cons_self hm fun other hmem _ _ => ?_
      rcases List.mem_cons.1 hmem with rfl | hmem
      · exact String.le_refl _
      · exact Std.le_of_lt (hbefore other hmem)
    | layered hfirst => exact (ih hrest hkeys _).cons hbefore (hfirst name List.mem_cons_self)

theorem overrideAll_cases (s : Settings) (program : String) (env : Environment) :
    (∃ name problem, Malformed program env name problem ∧
      (∀ other q, Malformed program env other q → name ≤ other) ∧
      s.overrideAll program env = .error (.malformedVariable name problem)) ∨
    ((∀ name problem, ¬ Malformed program env name problem) ∧
      s.overrideAll program env = .ok (s.layered fun f => env.get? (f.variable program))) := by
  let names := Text.sorted (env.keys.filter (Text.startsWith program))
  have hmem {name : String} : name ∈ names ↔ name ∈ env.keys ∧ Text.startsWith program name := by
    rw [Text.mem_sorted, List.mem_filter]
  have hmalformed {name : String} {problem : VariableProblem}
      (h : Malformed program env name problem) : name ∈ names := by
    obtain ⟨setting, hname⟩ := h.exists_setting
    refine hmem.2 ⟨h.mem_keys, Text.startsWith_iff.2 ⟨"__" ++ setting, ?_⟩⟩
    rw [hname, String.append_assoc]
  have htexts : textsAmong program env names = fun f => env.get? (f.variable program) := by
    funext f
    by_cases hf : f.variable program ∈ names
    · exact if_pos hf
    · have hkey : f.variable program ∉ env.keys := by
        intro hk
        refine hf (hmem.2 ⟨hk, Text.startsWith_iff.2 ⟨"__" ++ f.name, ?_⟩⟩)
        rw [Field.variable, String.append_assoc]
      rw [textsAmong, if_neg hf, Store.get?_eq_none_iff.2 hkey]
  have hrun : Overridden program env names s (s.overrideAll program env) :=
    overridden_foldlM (Text.pairwise_sorted _) (fun _ h => (hmem.1 h).1) s
  generalize s.overrideAll program env = result at hrun
  cases hrun with
  | failed hn h hfirst =>
    exact .inl ⟨_, _, h, fun other q hq => hfirst other (hmalformed hq) q hq, rfl⟩
  | layered h =>
    rw [htexts]
    exact .inr ⟨fun name problem hm => h name (hmalformed hm) problem hm, rfl⟩

example : Settings.default.overrideAll ""
      (.ofList [("__VALIDATION___STRICT", "1"), ("__VALIDATION__PARALLELISM", "-1")]) =
    .error (.malformedVariable "__VALIDATION__PARALLELISM" .notCount) := by decide +kernel

/-- Environments that agree on the variables of a program. -/
def Agree (program : String) (env env' : Environment) : Prop :=
  ∀ setting, env.get? (program ++ "__" ++ setting) = env'.get? (program ++ "__" ++ setting)

theorem Agree.symm {env' : Environment} (h : Agree program env env') : Agree program env' env :=
  fun setting => (h setting).symm

theorem Malformed.congr {env' : Environment} (hagree : Agree program env env')
    {problem : VariableProblem} (h : Malformed program env name problem) :
    Malformed program env' name problem := by
  cases h with
  | @unknown setting hn hk hf =>
    obtain ⟨text, htext⟩ := Store.mem_keys_iff.1 hk
    rw [hn, hagree, ← hn] at htext
    exact .unknown hn (Store.mem_keys_of_get? htext) hf
  | @misread f text _ hn ht hm =>
    rw [hn, Field.variable, hagree] at ht
    exact .misread hn (hn ▸ ht) hm

theorem overrideAll_congr {env' : Environment} (hagree : Agree program env env') (s : Settings) :
    s.overrideAll program env = s.overrideAll program env' := by
  rcases overrideAll_cases s program env with ⟨name, problem, hm, hfirst, heq⟩ | ⟨hnone, heq⟩
  · rcases overrideAll_cases s program env' with ⟨name', problem', hm', hfirst', heq'⟩ | ⟨hnone', _⟩
    · have hle : name ≤ name' := hfirst name' problem' (hm'.congr hagree.symm)
      have hle' : name' ≤ name := hfirst' name problem (hm.congr hagree)
      cases String.le_antisymm hle hle'
      cases hm.unique (hm'.congr hagree.symm)
      exact heq.trans heq'.symm
    · exact absurd (hm.congr hagree) (hnone' name problem)
  · rcases overrideAll_cases s program env' with ⟨name', problem', hm', _⟩ | ⟨_, heq'⟩
    · exact absurd (hm'.congr hagree.symm) (hnone name' problem')
    · have htexts : (fun f : Field => env.get? (f.variable program)) =
          fun f => env'.get? (f.variable program) := funext fun f => hagree f.name
      rw [heq, heq', htexts]

end Run

theorem failure?_ne_malformedVariable (s : Settings) (name : String) (problem : VariableProblem) :
    s.failure? ≠ some (.malformedVariable name problem) := by
  rw [failure?]
  split_ifs <;> simp

end Settings

namespace SettingsLoader

open Settings

theorem load_withProgram (l : SettingsLoader) (name : String) : (l.withProgram name).load =
    (l.settings.overrideAll (Unicode.toUpper name) l.environment).bind fun s =>
      s.failure?.elim (.ok s) .error := by
  rw [load]
  change (Settings.overrideAll _ _ _).bind _ = (Settings.overrideAll _ _ _).bind _
  congr 1
  funext s
  dsimp only
  cases s.failure? <;> rfl

theorem load_congr (l : SettingsLoader) (name : String) {env : Environment}
    (hagree : Agree (Unicode.toUpper name) env l.environment) :
    ({ l with environment := env }.withProgram name).load = (l.withProgram name).load := by
  rw [load_withProgram, load_withProgram, overrideAll_congr hagree]

theorem load_cases (l : SettingsLoader) (name : String) :
    let program := Unicode.toUpper name
    let layered := l.settings.layered fun f => l.environment.get? (f.variable program)
    (∃ first problem, Malformed program l.environment first problem ∧
      (∀ other q, Malformed program l.environment other q → first ≤ other) ∧
      (l.withProgram name).load = .error (.malformedVariable first problem)) ∨
    ((∀ v problem, ¬ Malformed program l.environment v problem) ∧
      (∀ v problem, (l.withProgram name).load ≠ .error (.malformedVariable v problem)) ∧
      (l.withProgram name).load = layered.failure?.elim (.ok layered) .error) := by
  intro program layered
  have hload := load_withProgram l name
  rcases overrideAll_cases l.settings program l.environment with
    ⟨first, problem, hm, hfirst, heq⟩ | ⟨hnone, heq⟩
  · rw [heq] at hload
    exact .inl ⟨first, problem, hm, hfirst, hload⟩
  · have hok : (l.withProgram name).load = layered.failure?.elim (.ok layered) .error := by
      rw [hload, heq]
      rfl
    refine .inr ⟨hnone, fun v problem => ?_, hok⟩
    rw [hok]
    cases hf : layered.failure? with
    | none => exact nofun
    | some failure =>
      rintro ⟨⟩
      exact failure?_ne_malformedVariable layered v problem hf

/-- With variables that override settings, loading fails for the first malformed variable in the
order of bytes; if there is none, the variables are a layer over the settings, which may then be out
of bounds. Variables of other programs, and the order of the environment, do not matter. -/
theorem load_overridden (l : SettingsLoader) (name : String) :
    let program := Unicode.toUpper name
    let result := (l.withProgram name).load
    let layered := l.settings.layered fun f => l.environment.get? (f.variable program)
    ((∃ v problem, result = .error (.malformedVariable v problem)) ↔
      ∃ v problem, Malformed program l.environment v problem) ∧
    (∀ v problem, result = .error (.malformedVariable v problem) ↔
      Malformed program l.environment v problem ∧
        ∀ w q, Malformed program l.environment w q → w = v ∨ Text.BytesBefore v w) ∧
    ((∀ v problem, ¬ Malformed program l.environment v problem) →
      result = layered.failure?.elim (.ok layered) .error) ∧
    (∀ env : Environment, Agree program env l.environment →
      ({ l with environment := env }.withProgram name).load = result) ∧
    ∀ env : Environment, env.entries.Perm l.environment.entries →
      ({ l with environment := env }.withProgram name).load = result := by
  intro program result layered
  have hagree : ∀ env : Environment, Agree program env l.environment →
      ({ l with environment := env }.withProgram name).load = result :=
    fun env h => load_congr l name h
  have hperm : ∀ env : Environment, env.entries.Perm l.environment.entries →
      ({ l with environment := env }.withProgram name).load = result :=
    fun env h => hagree env fun _ => Store.get?_eq_of_perm h _
  rcases load_cases l name with ⟨first, problem, hm, hfirst, herror⟩ | ⟨hnone, hno, hok⟩
  · refine ⟨⟨fun _ => ⟨first, problem, hm⟩, fun _ => ⟨first, problem, herror⟩⟩, ?_,
      fun hno => absurd hm (hno first problem), hagree, hperm⟩
    intro v p
    simp only [← Text.le_iff_eq_or_bytesBefore]
    constructor
    · intro h
      cases herror.symm.trans h
      exact ⟨hm, hfirst⟩
    · rintro ⟨hv, hleast⟩
      cases String.le_antisymm (hfirst v p hv) (hleast first problem hm)
      rw [hm.unique hv] at herror
      exact herror
  · refine ⟨?_, ?_, fun _ => hok, hagree, hperm⟩
    · exact ⟨fun ⟨v, p, h⟩ => absurd h (hno v p), fun ⟨v, p, h⟩ => absurd h (hnone v p)⟩
    · exact fun v p => ⟨fun h => absurd h (hno v p), fun h => absurd h.1 (hnone v p)⟩

/-- Variables of a program whose name is empty, and others that begin otherwise. -/
def site : SettingsLoader where
  settings := ⟨⟨true, 2, some "dev"⟩, ⟨false, "info", .json⟩⟩
  program := none
  environment := .ofList
    [("X__LOGGING__LEVEL", "debug"), ("__VALIDATION__PROFILE", ""), ("_LOGGING__LEVEL", "warn"),
      ("__VALIDATION__PARALLELISM", "+4")]

def siteVariables : Environment :=
  .ofList [("__VALIDATION__PROFILE", ""), ("__VALIDATION__PARALLELISM", "+4")]

def siteReversed : Environment := ⟨site.environment.entries.reverse, by decide +kernel⟩

def siteSettings : Settings := ⟨⟨true, 4, none⟩, ⟨false, "info", .json⟩⟩

theorem load_overridden_site :
    (∀ v problem, ¬ Malformed (Unicode.toUpper "") site.environment v problem) ∧
    Agree (Unicode.toUpper "") siteVariables site.environment ∧
    siteReversed.entries.Perm site.environment.entries ∧
    (site.withProgram "").load = .ok siteSettings ∧
    ({ site with environment := siteVariables }.withProgram "").load = .ok siteSettings ∧
    ({ site with environment := siteReversed }.withProgram "").load = .ok siteSettings := by
  obtain ⟨_, _, hload, hcongr, hperm⟩ := load_overridden site ""
  have hnone : ∀ v problem, ¬ Malformed (Unicode.toUpper "") site.environment v problem := by
    rcases overrideAll_cases site.settings (Unicode.toUpper "") site.environment with
      ⟨_, _, _, _, heq⟩ | ⟨hnone, _⟩
    · have hok : site.settings.overrideAll "" site.environment = .ok siteSettings := by
        decide +kernel
      cases hok.symm.trans heq
    · exact hnone
  have hagree : Agree (Unicode.toUpper "") siteVariables site.environment := by
    intro setting
    have hother (name : String) (h : Text.after? "__" name = none) :
        ("" ++ "__" ++ setting == name) = false := by
      apply beq_false_of_ne
      rintro rfl
      cases h.symm.trans (Text.after?_eq_some_iff.2 (by rw [String.empty_append]))
    have hsite : site.environment.entries =
        [("X__LOGGING__LEVEL", "debug"), ("__VALIDATION__PROFILE", ""), ("_LOGGING__LEVEL", "warn"),
          ("__VALIDATION__PARALLELISM", "+4")] := by decide +kernel
    have hvariables : siteVariables.entries =
        [("__VALIDATION__PROFILE", ""), ("__VALIDATION__PARALLELISM", "+4")] := by decide +kernel
    change siteVariables.get? ("" ++ "__" ++ setting) =
      site.environment.get? ("" ++ "__" ++ setting)
    simp only [Store.get?, hsite, hvariables, List.lookup_cons,
      hother "X__LOGGING__LEVEL" (by decide +kernel), hother "_LOGGING__LEVEL" (by decide +kernel)]
  have hreversed : siteReversed.entries.Perm site.environment.entries := List.reverse_perm _
  have hresult : (site.withProgram "").load = .ok siteSettings := (hload hnone).trans rfl
  exact ⟨hnone, hagree, hreversed, hresult, (hcongr _ hagree).trans hresult,
    (hperm _ hreversed).trans hresult⟩

end SettingsLoader

end Conform
