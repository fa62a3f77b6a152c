import VisitorHeader.Proofs.Files.Writing
import VisitorHeader.Proofs.Generator.Runs
import VisitorHeader.Proofs.Program.Loading
import VisitorHeader.Proofs.Settings.Layering

namespace VisitorHeader.Program

open CommandLine Settings

/-- A file of settings that the command line names has a key with an index out of reach, once the
keys that come before it in the walk have been merged into the defaults. -/
def Oversteps (w : Walk) (files : FileTree) (args : List String) : Prop :=
  ∃ o path entries, CommandLine.parse args = .ok (.generate o) ∧ o.config = some path ∧
    Source.collect files ⟨path, true⟩ = .ok entries ∧
    (defaults w).LayerOversteps (w.entries entries)

inductive Succeeds (w : Walk) (files : FileTree) : Request → String → FileTree → Prop
  | help : Succeeds w files .help helpText files
  | version : Succeeds w files .version versionText files
  | printed (o config source) (hout : o.stdout = true)
      (hload : (loader o).build w files = .ok config)
      (hread : files.readText config.paths.input = .ok source)
      (hnames : (NodeList.parse source).names ≠ []) :
      Succeeds w files (.generate o) (config.template.render (.parse source)) files
  | skipped (o config source) (hload : (loader o).build w files = .ok config)
      (hread : files.readText config.paths.input = .ok source)
      (hnames : (NodeList.parse source).names = []) :
      Succeeds w files (.generate o) "" files
  | written (o config source files') (hout : o.stdout = false)
      (hload : (loader o).build w files = .ok config)
      (hread : files.readText config.paths.input = .ok source)
      (hnames : (NodeList.parse source).names ≠ [])
      (hwrite : files.writeText config.paths.output (config.template.render (.parse source)) =
        .ok files') :
      Succeeds w files (.generate o) "" files'

inductive Fails (w : Walk) (files : FileTree) (o : Options) : GenerateError → Prop
  | unloaded (e) (hload : (loader o).build w files = .error (.error e)) :
      Fails w files o (.config e)
  | unread (config e) (hload : (loader o).build w files = .ok config)
      (hread : files.readText config.paths.input = .error e) :
      Fails w files o (.readInput config.paths.input e)
  | unwritten (config source e) (hout : o.stdout = false)
      (hload : (loader o).build w files = .ok config)
      (hread : files.readText config.paths.input = .ok source)
      (hnames : (NodeList.parse source).names ≠ [])
      (hwrite : files.writeText config.paths.output (config.template.render (.parse source)) =
        .error e) :
      Fails w files o (.writeOutput config.paths.output e)

/-- The ends that a process is to come to; `tell` is what records make of the error stream. -/
inductive Orderly (w : Walk) (files : FileTree) (args : List String)
    (tell : List Log.Record → String) : Exit → Prop
  | success (request out records files') (hargs : CommandLine.parse args = .ok request)
      (h : Succeeds w files request out files') :
      Orderly w files args tell ⟨0, out, tell records, files'⟩
  | failure (o records e) (hargs : CommandLine.parse args = .ok (.generate o))
      (h : Fails w files o e) :
      Orderly w files args tell ⟨1, "", tell records ++ errorText e.message, files⟩
  | usage (e) (hargs : CommandLine.parse args = .error e) :
      Orderly w files args tell ⟨2, "", tell [] ++ e.text, files⟩

def told (patterns : Log.Patterns) (logSpec : Option String) (records : List Log.Record) : String :=
  let (filter, errors) := Log.Filter.parse patterns (logSpec.getD defaultFilter)
  String.join (errors.map Log.SpecError.warning) ++ filter.lines records

variable {w : Walk} {files : FileTree} {args : List String} {o : Options} {config : Config}

theorem Orderly.prepend {tell : List Log.Record → String} {e : Exit}
    (h : Orderly w files args tell e) (first : String) :
    Orderly w files args (fun records => first ++ tell records)
      { e with stderr := first ++ e.stderr } := by
  cases h with
  | success request out records files' hargs h => exact .success request out records files' hargs h
  | failure o records e hargs h =>
      rw [← String.append_assoc]
      exact .failure o records e hargs h
  | usage e hargs =>
      rw [← String.append_assoc]
      exact .usage e hargs

variable (filter : Log.Filter)

theorem orderly_write (hargs : CommandLine.parse args = .ok (.generate o))
    (hout : o.stdout = false) (hload : (loader o).build w files = .ok config) :
    Orderly w files args filter.lines (write filter (.ofConfig config) files) := by
  have hrun := (Generator.ofConfig config).runs_run files
  unfold write
  generalize (Generator.ofConfig config).run files = r at hrun ⊢
  cases hrun with
  | unread e hread => exact .failure o [] _ hargs (.unread config e hload hread)
  | skipped source hread hnames =>
      exact .success _ _ _ _ hargs (.skipped o config source hload hread hnames)
  | unwritten source e hread hnames hwrite =>
      exact .failure o _ _ hargs (.unwritten config source e hout hload hread hnames hwrite)
  | written source files' hread hnames hwrite =>
      exact .success _ _ _ _ hargs
        (.written o config source files' hout hload hread hnames hwrite)

theorem orderly_print (hargs : CommandLine.parse args = .ok (.generate o))
    (hout : o.stdout = true) (hload : (loader o).build w files = .ok config) :
    Orderly w files args filter.lines (print filter (.ofConfig config) files) := by
  rw [print, Generator.renderOnly, NodeList.load]
  cases hread : files.readText (Generator.ofConfig config).input with
  | error e => exact .failure o [] _ hargs (.unread config e hload hread)
  | ok source =>
      by_cases hnames : (NodeList.parse source).names = []
      · simp only [NodeList.isEmpty, hnames]
        exact .success _ _ _ _ hargs (.skipped o config source hload hread hnames)
      · simp only [NodeList.isEmpty, List.isEmpty_iff, hnames]
        exact .success _ _ _ _ hargs (.printed o config source hout hload hread hnames)

theorem lines_nil_append (text : String) : filter.lines [] ++ text = text := by
  have h : filter.lines [] = "" := rfl
  rw [h, String.empty_append]

theorem orderly_refuse {e : LoadError} (hargs : CommandLine.parse args = .ok (.generate o))
    (hload : (loader o).build w files = .error (.error e)) :
    Orderly w files args filter.lines (refuse files (.error e)) := by
  have h : Orderly w files args filter.lines _ := .failure o [] _ hargs (.unloaded e hload)
  rw [lines_nil_append] at h
  exact h

theorem orderly_generate (h : ¬ Oversteps w files args)
    (hargs : CommandLine.parse args = .ok (.generate o)) :
    Orderly w files args filter.lines (generate w filter o files) := by
  rw [generate]
  cases hload : (loader o).build w files with
  | error failure =>
      rw [proceed]
      cases failure with
      | error e => exact orderly_refuse filter hargs hload
      | fault f =>
          obtain ⟨path, entries, ho⟩ := build_loader_fault_iff.mp ⟨f, hload⟩
          exact absurd ⟨o, path, entries, hargs, ho⟩ h
  | ok config =>
      rw [proceed]
      by_cases hout : o.stdout = true
      · rw [if_pos hout]
        exact orderly_print filter hargs hout hload
      · rw [if_neg hout]
        exact orderly_write filter hargs (Bool.eq_false_iff.mpr hout) hload

theorem orderly_answer (h : ¬ Oversteps w files args) :
    Orderly w files args filter.lines (answer w filter args files) := by
  rw [answer]
  cases hargs : CommandLine.parse args with
  | error e =>
      have h : Orderly w files args filter.lines _ := .usage e hargs
      rw [lines_nil_append] at h
      exact h
  | ok request =>
      cases request with
      | help => exact .success _ _ [] _ hargs .help
      | version => exact .success _ _ [] _ hargs .version
      | generate o => exact orderly_generate filter h hargs

theorem code_of_oversteps (h : Oversteps w files args) (patterns : Log.Patterns)
    (logSpec : Option String) : (run w patterns files args logSpec).code = 101 := by
  obtain ⟨o, path, entries, hargs, ho⟩ := h
  obtain ⟨f, hf⟩ := build_loader_fault_iff.mpr ⟨path, entries, ho⟩
  have hrefuse (filter : Log.Filter) : answer w filter args files = refuse files (.fault f) := by
    rw [answer, hargs]
    change generate w filter o files = _
    rw [generate, hf]
    rfl
  change (answer w _ args files).code = 101
  rw [hrefuse]
  rfl

/-- In whatever order its tables are walked, an index out of reach in a file of settings is all that
keeps a process from an orderly end. -/
theorem run_orderly_iff (w : Walk) (patterns : Log.Patterns) (files : FileTree)
    (args : List String) (logSpec : Option String) :
    (Orderly w files args (told patterns logSpec) (run w patterns files args logSpec) ↔
        ¬ Oversteps w files args) ∧
      (Oversteps w files args → (run w patterns files args logSpec).code = 101) := by
  refine ⟨⟨?_, ?_⟩, ?_⟩
  · intro h ho
    have hc := code_of_oversteps ho patterns logSpec
    -- no orderly end has this code
    generalize run w patterns files args logSpec = e at h hc
    cases h <;> cases hc
  · intro h
    exact (orderly_answer _ h).prepend _
  · intro h
    exact code_of_oversteps h patterns logSpec

def threeFromTheEnd : FileTree :=
  .flat [("c.toml", "\"header.includes[-3]\" = \"V\"\n"), ("NodesList.txt", "A\n")]

def thirdLayer : Layer := [("header.includes[-3]", .string "V")]

theorem collect_threeFromTheEnd :
    Source.collect threeFromTheEnd ⟨"c.toml", true⟩ = .ok thirdLayer :=
  Source.collect_of_chars "/w/c.toml" rfl rfl rfl

/-- The defaults have two includes, so that none of them is the third from the end. -/
theorem oversteps_threeFromTheEnd (w : Walk) :
    Oversteps w threeFromTheEnd ["--config", "c.toml"] := by
  have hentries : w.entries thirdLayer = thirdLayer := List.perm_singleton.mp (w.perm _)
  have hincludes : [Step.entry "header", .entry "includes"].foldl Value.behind (defaults w) =
      .array none [.string "ASTVisitor.h", .string "ASTNodes.h"] := by
    have h := Value.behind_of_field? (field?_defaults w .includes)
    exact h
  have hlacks : ([Step.entry "header", .entry "includes"].foldl Value.behind (defaults w)).Lacks
      (-3) := by
    rw [hincludes]
    exact .inl (by decide)
  have hparse : Key.parse "header.includes[-3]" =
      .ok ⟨"header", [.entry "includes", .element (-3)]⟩ := by rfl
  refine ⟨⟨none, none, some "c.toml", false⟩, "c.toml", _, by rfl, rfl,
    collect_threeFromTheEnd, ?_⟩
  rw [hentries]
  exact ⟨[], _, [], defaults w, rfl, rfl, _, hparse, _, -3, [], rfl, hlacks⟩

theorem run_threeFromTheEnd :
    (run .written .literal threeFromTheEnd ["--config", "c.toml"] none).code = 101 :=
  code_of_oversteps (oversteps_threeFromTheEnd .written) .literal none

end VisitorHeader.Program
