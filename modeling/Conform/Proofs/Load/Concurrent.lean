import Conform.Proofs.Load.Independence
import Conform.Proofs.Load.Schedule
import Conform.Run

namespace Conform.Loader

open Pool

variable {formats : List Format} {files : FileTree} {l : Loader}

theorem loadConcurrent_of_independent (hr : l.registry = formats.map Factory.ofFormat)
    (hi : Independent formats files l) : l.loadConcurrent files = l.load files := by
  rw [load_eq_foldl_results, results_of_independent hr hi, ← settled_start]
  rfl

/-- Every run of the tasks of independent sources can be brought to its end, and every end has the
outcome of loading the sources one after another. So have the reports. -/
theorem runs_end_as_load (hr : l.registry = formats.map Factory.ofFormat)
    (hi : Independent formats files l) :
    (∀ pool, Runs l files (start l) pool →
      (∃ final, Runs l files pool final ∧ final.IsFinished) ∧
        (pool.IsFinished → pool.outcome = l.load files ∧
          ∀ run : Run, run.loader = l → run.finish pool.outcome = run.execute files)) ∧
      l.loadConcurrent files = l.load files ∧
      ∀ run : Run, run.loader = l → run.executeConcurrent files = run.execute files := by
  have hload : l.loadConcurrent files = l.load files := loadConcurrent_of_independent hr hi
  refine ⟨?_, hload, ?_⟩
  · intro pool hruns
    refine ⟨exists_finished l files pool, ?_⟩
    intro hfinished
    have houtcome : pool.outcome = l.load files := (outcome_of_runs hruns hfinished).trans hload
    refine ⟨houtcome, ?_⟩
    rintro run rfl
    rw [houtcome]
    rfl
  · rintro run rfl
    rw [Run.executeConcurrent, Run.execute, hload]

/-- A loader of two files of properties and a file that no factory supports. -/
def shopFormats : List Format := [.properties, .toml, .json]

def shopFiles : FileTree := .ofList
  [("a.properties", .file "host=$\x7bapp\x7d.local".toUTF8),
    ("b.properties", .file "url=$\x7bapp\x7d\n%dev.url=$\x7bapp\x7d:$\x7bport:80\x7d".toUTF8)]

def shop : Loader :=
  ⟨.default, .ofList [("app", .text "shop")],
    [⟨"a.properties", none⟩, ⟨"notes.txt", none⟩, ⟨"b.properties", some "dev"⟩]⟩

theorem fragment?_properties {files : FileTree} {path text : String} {profile : Option String}
    {fragment : Config} (hp : Factory.hasExtension "properties" path = true)
    (ht : files.readText? path = some text)
    (hr : Format.properties.read text profile = .ok fragment) :
    (⟨path, profile⟩ : Source).fragment? shopFormats files = some fragment := by
  have hf : shopFormats.find? (fun format => Factory.hasExtension format.name path) =
      some .properties := List.find?_cons_of_pos hp
  have hread : Format.properties.fragment files path profile = .ok fragment := by
    rw [Format.fragment, Factory.readText, ht]
    exact hr
  have hsome : (⟨path, profile⟩ : Source).fragment? shopFormats files =
      (Format.properties.fragment files path profile).toOption := fragment?_some hf
  rw [hsome, hread]
  rfl

theorem shop_first : (⟨"a.properties", none⟩ : Source).fragment? shopFormats shopFiles =
    some (.ofList [("host", .text "$\x7bapp\x7d.local")]) :=
  fragment?_properties (by decide +kernel)
    (by decide +kernel : _ = some "host=$\x7bapp\x7d.local") rfl

theorem shop_last : (⟨"b.properties", some "dev"⟩ : Source).fragment? shopFormats shopFiles =
    some (.ofList [("url", .text "$\x7bapp\x7d:$\x7bport:80\x7d")]) :=
  fragment?_properties (by decide +kernel)
    (by decide +kernel : _ = some "url=$\x7bapp\x7d\n%dev.url=$\x7bapp\x7d:$\x7bport:80\x7d")
    rfl

theorem shop_between : (⟨"notes.txt", none⟩ : Source).fragment? shopFormats shopFiles = none := by
  have hf : shopFormats.find? (fun format => Factory.hasExtension format.name "notes.txt") = none :=
    List.find?_eq_none.2 (by decide +kernel)
  rw [Source.fragment?, hf]
  rfl

theorem shop_foreign {name : String}
    (h : Placeholder.Foreign (.ofList [("url", .text "$\x7bapp\x7d:$\x7bport:80\x7d")]) name) :
    name ≠ "host" := by
  obtain ⟨-, key, value, fallback?, hk, hr⟩ := h
  have he : (key, value) ∈ [("url", Value.text "$\x7bapp\x7d:$\x7bport:80\x7d")] :=
    Store.get?_eq_some_iff.1 hk
  rw [List.mem_singleton] at he
  cases he
  cases hr with
  | text hs hp =>
    have hpieces : Placeholder.pieces "$\x7bapp\x7d:$\x7bport:80\x7d".toList =
        [.literal [], .reference "app" none, .literal [':'], .reference "port" (some ['8', '0']),
          .literal []] := by decide +kernel
    rw [← hs.pieces_eq, hpieces] at hp
    rintro rfl
    simp at hp

theorem shop_independent : Independent shopFormats shopFiles shop := by
  apply independent_of_fragments rfl
  intro before source after fragment hsources hfragment name hname other hother fragment'
    hfragment'
  rcases before with _ | ⟨first, _ | ⟨second, _ | ⟨third, more⟩⟩⟩
  · cases hother
  · cases hsources
    rw [shop_between] at hfragment
    cases hfragment
  · cases hsources
    rw [shop_last] at hfragment
    cases hfragment
    rw [List.mem_cons, List.mem_singleton] at hother
    rcases hother with rfl | rfl
    · rw [shop_first] at hfragment'
      cases hfragment'
      intro hm
      exact shop_foreign hname (List.mem_singleton.1 hm)
    · rw [shop_between] at hfragment'
      cases hfragment'
  · simp [shop] at hsources

theorem runs_end_as_load_shop :
    shop.registry = shopFormats.map Factory.ofFormat ∧ Independent shopFormats shopFiles shop ∧
      (∀ pool, Runs shop shopFiles (start shop) pool →
        (∃ final, Runs shop shopFiles pool final ∧ final.IsFinished) ∧
          (pool.IsFinished → pool.outcome = shop.load shopFiles ∧
            ∀ run : Run, run.loader = shop →
              run.finish pool.outcome = run.execute shopFiles)) ∧
        shop.loadConcurrent shopFiles = shop.load shopFiles ∧
        ∀ run : Run, run.loader = shop →
          run.executeConcurrent shopFiles = run.execute shopFiles :=
  ⟨rfl, shop_independent, runs_end_as_load rfl shop_independent⟩

end Conform.Loader
