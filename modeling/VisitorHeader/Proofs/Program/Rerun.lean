import VisitorHeader.Proofs.Generator.Rerun
import VisitorHeader.Proofs.Program.Generating
import VisitorHeader.Proofs.Program.Loading
import VisitorHeader.Proofs.Settings.Layering

namespace VisitorHeader

namespace Program

open CommandLine Settings

/-- The header goes to no location that the path of the list leads to, or the path of the settings
with or without the extension. -/
def OutputApart (w : Walk) (files : FileTree) (args : List String) : Prop :=
  ∀ o config, CommandLine.parse args = .ok (.generate o) → (loader o).build w files = .ok config →
    ∀ path ∈ config.paths.input :: settingsPaths files args,
      ∀ l, files.destination config.paths.output = .ok l → ¬ files.LeadsTo path l

/-- Two processes that walk their tables in different orders make the same configuration of the
file that is named, or fail alike. -/
def SameSettings (w w' : Walk) (files : FileTree) (args : List String) : Prop :=
  ∀ o, CommandLine.parse args = .ok (.generate o) →
    (loader o).build w' files = (loader o).build w files

variable {w w' : Walk} {files : FileTree} {args : List String}

theorem SameSettings.refl (w : Walk) (files : FileTree) (args : List String) :
    SameSettings w w files args := fun _ _ => rfl

/-- The order of the walk does not show where every setting is of the kind that is asked for, and
has one spelling in each of its files. -/
theorem SameSettings.of_typed
    (h : ∀ o, CommandLine.parse args = .ok (.generate o) → (loader o).Typed files) :
    SameSettings w w' files args := by
  intro o hargs
  obtain ⟨c, hc, -⟩ := Loader.exists_build_eq_ok (h o hargs)
  rw [hc, hc]

theorem build_loader_put {l : Location} (hl : files.get? l ≠ some .directory)
    (content : ByteArray) {o : Options}
    (ho : ∀ place ∈ o.config.toList.flatMap (Source.places files), ¬ files.LeadsTo place l) :
    (loader o).build w (files.put l (.file content)) = (loader o).build w files := by
  have hlayers : (loader o).layers w (files.put l (.file content)) = (loader o).layers w files := by
    cases hc : o.config with
    | none => rw [layers_loader_of_none hc, layers_loader_of_none hc]
    | some path =>
        have hpath : ∀ place ∈ Source.places files path, ¬ files.LeadsTo place l := by
          intro place hplace
          apply ho
          simpa [hc] using hplace
        rw [layers_loader_of_some hc, layers_loader_of_some hc,
          Source.collect_put hl content hpath]
  rw [Loader.build, Loader.build, Loader.merged, Loader.merged, hlayers]

/-- What a run has written does not count as a setting. -/
theorem build_loader_run {o : Options} (g : Generator)
    (ho : ∀ place ∈ o.config.toList.flatMap (Source.places files),
      ∀ l, files.destination g.output = .ok l → ¬ files.LeadsTo place l) :
    (loader o).build w (g.run files).2 = (loader o).build w files := by
  rcases g.files_run files with hsame | ⟨l, content, hl, hput⟩
  · rw [hsame]
  · rw [hput]
    exact build_loader_put (FileTree.get?_destination hl) content fun place hplace =>
      ho place hplace l hl

theorem settingsPaths_of_generate {o : Options}
    (hargs : CommandLine.parse args = .ok (.generate o)) :
    settingsPaths files args = o.config.toList.flatMap (Source.places files) := by
  rw [settingsPaths, hargs]

theorem apart_of_destination {output : String} {paths : List String} {l : Location}
    (hout : files.destination output = .ok l) (h : ∀ path ∈ paths, ¬ files.LeadsTo path l) :
    ∀ path ∈ paths, ∀ l', files.destination output = .ok l' → ¬ files.LeadsTo path l' := by
  intro path hpath l' hl'
  obtain rfl := Except.ok.inj (hout.symm.trans hl')
  exact h path hpath

theorem OutputApart.of_build {o : Options} {config : Config}
    (hargs : CommandLine.parse args = .ok (.generate o))
    (hload : (loader o).build w files = .ok config)
    (h : ∀ path ∈ config.paths.input :: settingsPaths files args,
      ∀ l, files.destination config.paths.output = .ok l → ¬ files.LeadsTo path l) :
    OutputApart w files args := by
  intro o' config' hargs' hload'
  obtain rfl := Request.generate.inj (Except.ok.inj (hargs.symm.trans hargs'))
  obtain rfl := Except.ok.inj (hload.symm.trans hload')
  exact h

variable (filter : Log.Filter)

theorem generate_again {o : Options} (hargs : CommandLine.parse args = .ok (.generate o))
    (h : OutputApart w files args) (hsame : SameSettings w w' files args) :
    generate w' filter o (generate w filter o files).files = generate w filter o files := by
  have hload' := hsame o hargs
  cases hload : (loader o).build w files with
  | error failure =>
      rw [hload] at hload'
      rw [generate_of_error filter hload, files_refuse, generate_of_error filter hload']
  | ok config =>
      rw [hload] at hload'
      cases hout : o.stdout with
      | true =>
          rw [generate_of_printed filter hload hout, files_print,
            generate_of_printed filter hload' hout]
      | false =>
          have hapart := h o config hargs hload
          rw [settingsPaths_of_generate hargs] at hapart
          have hrun := Generator.run_run (Generator.ofConfig config) files
            (hapart _ List.mem_cons_self)
          have hsecond : (loader o).build w' ((Generator.ofConfig config).run files).2 =
              .ok config := by
            rw [build_loader_run, hload']
            exact fun place hplace => hapart place (List.mem_cons_of_mem _ hplace)
          rw [generate_of_written filter hload hout, files_write,
            generate_of_written filter hsecond hout, write, write, hrun]

theorem answer_again (h : OutputApart w files args) (hsame : SameSettings w w' files args) :
    answer w' filter args (answer w filter args files).files = answer w filter args files := by
  cases hargs : CommandLine.parse args with
  | error e => simp only [answer, hargs]
  | ok request =>
      cases request with
      | help | version => simp only [answer, hargs]
      | generate o =>
          rw [answer_of_generate filter hargs, answer_of_generate filter hargs]
          exact generate_again filter hargs h hsame

/-- A second run ends as the first did and changes nothing more, if it makes the same settings of
the command line, as it does whenever it walks its tables in the same order. -/
theorem run_again (h : OutputApart w files args) (hsame : SameSettings w w' files args)
    (patterns : Log.Patterns) (logSpec : Option String) :
    run w' patterns (run w patterns files args logSpec).files args logSpec =
      run w patterns files args logSpec := by
  unfold run
  obtain ⟨filter, errors⟩ := Log.Filter.parse patterns (logSpec.getD defaultFilter)
  simp only [answer_again filter h hsame]

def renamedOutput : FileTree :=
  .flat [("c.toml", "[paths]\noutput = \"out.h\"\n"), ("NodesList.txt", "A b\nB\n")]

def outputLayer : Layer := [("paths", .table (some "c.toml") [("output", .string "out.h")])]

theorem collect_renamedOutput : Source.collect renamedOutput ⟨"c", true⟩ = .ok outputLayer :=
  Source.collect_of_chars "/w/c.toml" rfl rfl rfl

theorem parse_configOption :
    CommandLine.parse ["--config", "c"] = .ok (.generate ⟨none, none, some "c", false⟩) := rfl

theorem typed_renamedOutput : (loader ⟨none, none, some "c", false⟩).Typed renamedOutput := by
  refine ⟨fun s hs => ?_, fun o ho => absurd ho List.not_mem_nil⟩
  obtain rfl := List.mem_singleton.mp hs
  exact ⟨outputLayer, collect_renamedOutput, by decide⟩

theorem build_renamedOutput (w : Walk) :
    (loader ⟨none, none, some "c", false⟩).build w renamedOutput =
      .ok { Config.standard with paths := ⟨"NodesList.txt", "out.h"⟩ } := by
  have hsources : (loader ⟨none, none, some "c", false⟩).sources = [⟨"c", true⟩] := rfl
  refine Loader.build_eq_ok typed_renamedOutput (fun f => ⟨none, ?_⟩) w
  rw [Loader.settled, hsources, last?_singleton,
    Source.gives_of_collect collect_renamedOutput]
  cases f <;> rfl

theorem outputApart_renamedOutput (w : Walk) : OutputApart w renamedOutput ["--config", "c"] := by
  have hout : renamedOutput.destination "out.h" = .ok ["w", "out.h"] := by rfl
  exact .of_build parse_configOption (build_renamedOutput w)
    (apart_of_destination hout (by decide))

theorem run_again_renamedOutput :
    OutputApart .written renamedOutput ["--config", "c"] ∧
      SameSettings .written .reversed renamedOutput ["--config", "c"] ∧
      (run .written .literal renamedOutput ["--config", "c"] none).files.isFile "out.h" ∧
      run .reversed .literal (run .written .literal renamedOutput ["--config", "c"] none).files
          ["--config", "c"] none =
        run .written .literal renamedOutput ["--config", "c"] none := by
  have hsame : SameSettings .written .reversed renamedOutput ["--config", "c"] := by
    apply SameSettings.of_typed
    intro o hargs
    obtain rfl := Request.generate.inj (Except.ok.inj (parse_configOption.symm.trans hargs))
    exact typed_renamedOutput
  have hapart := outputApart_renamedOutput .written
  refine ⟨hapart, hsame, ?_, run_again hapart hsame .literal none⟩
  rw [files_run, answer_of_generate _ parse_configOption,
    generate_of_written _ (build_renamedOutput .written) rfl, files_write]
  rfl

/-- The output is set twice, once through a key with a dot. What comes later in the walk counts, so
that two processes may write to different files. -/
def outputTwice : FileTree :=
  .flat [("c.toml", "paths = \x7b output = \"A.h\" \x7d\n\"paths.output\" = \"B.h\"\n"),
    ("NodesList.txt", "Node\n")]

def outputTwiceOptions : Options := ⟨none, none, some "c.toml", false⟩

theorem parse_outputTwice :
    CommandLine.parse ["--config", "c.toml"] = .ok (.generate outputTwiceOptions) := rfl

def outputTwiceLayer : Layer :=
  [("paths", .table (some "c.toml") [("output", .string "A.h")]), ("paths.output", .string "B.h")]

theorem collect_outputTwice : Source.collect outputTwice ⟨"c.toml", true⟩ = .ok outputTwiceLayer :=
  Source.collect_of_chars "/w/c.toml" rfl rfl rfl

def outputTo (path : String) : Config := { Config.standard with paths := ⟨"NodesList.txt", path⟩ }

theorem build_outputTwice {path : String}
    (h : ((Loader.addLayer w (defaults w) (.ok outputTwiceLayer)).toOption.bind
      fun v => (Config.decode w v).toOption) = some (outputTo path)) :
    (loader outputTwiceOptions).build w outputTwice = .ok (outputTo path) := by
  obtain ⟨v, hv, hc⟩ := Option.bind_eq_some_iff.mp h
  have hlayers : (loader outputTwiceOptions).layers w outputTwice = .ok v := by
    rw [layers_loader_of_some rfl, collect_outputTwice, eq_ok_of_toOption hv]
  have hoverrides : w.order (loader outputTwiceOptions).overrides = [] :=
    List.perm_nil.mp (w.perm _)
  have hmerged : (loader outputTwiceOptions).merged w outputTwice = .ok v := by
    apply Loader.merged_eq_ok hlayers
    rw [hoverrides]
    rfl
  exact (Loader.build_eq_ok_iff_decode hmerged).mpr (eq_ok_of_toOption hc)

theorem builds_outputTwice :
    (loader outputTwiceOptions).build .reversed outputTwice = .ok (outputTo "A.h") ∧
      (loader outputTwiceOptions).build .written outputTwice = .ok (outputTo "B.h") :=
  ⟨build_outputTwice (by decide +kernel), build_outputTwice (by decide +kernel)⟩

theorem apart_outputTwice {path : String} (h : path ∈ ["A.h", "B.h"]) :
    ∀ source ∈ "NodesList.txt" :: settingsPaths outputTwice ["--config", "c.toml"],
      ∀ l, outputTwice.destination path = .ok l → ¬ outputTwice.LeadsTo source l := by
  have hout : outputTwice.destination path = .ok ["w", path] := by
    rcases List.mem_pair.mp h with rfl | rfl <;> rfl
  have hapart : ∀ source ∈ "NodesList.txt" :: settingsPaths outputTwice ["--config", "c.toml"],
      ∀ path ∈ ["A.h", "B.h"], ¬ outputTwice.LeadsTo source ["w", path] := by decide
  exact apart_of_destination hout fun source hsource => hapart source hsource path h

theorem files_run_outputTwice {path : String} {files : FileTree}
    (h : (loader outputTwiceOptions).build w files = .ok (outputTo path)) :
    (run w .literal files ["--config", "c.toml"] none).files =
      ((Generator.ofConfig (outputTo path)).run files).2 := by
  rw [run_none, answer_of_generate _ parse_outputTwice, generate_of_written _ h rfl, files_write]

theorem run_outputTwice_ne :
    OutputApart .reversed outputTwice ["--config", "c.toml"] ∧
      OutputApart .written outputTwice ["--config", "c.toml"] ∧
      (run .reversed .literal outputTwice ["--config", "c.toml"] none).files.isFile "A.h" ∧
      ¬ (run .reversed .literal outputTwice ["--config", "c.toml"] none).files.isFile "B.h" ∧
      (run .written .literal (run .reversed .literal outputTwice ["--config", "c.toml"] none).files
        ["--config", "c.toml"] none).files.isFile "B.h" := by
  obtain ⟨hreversed, hwritten⟩ := builds_outputTwice
  have hfirst := apart_outputTwice (List.mem_pair.mpr (.inl rfl))
  have hother := apart_outputTwice (List.mem_pair.mpr (.inr rfl))
  have hsecond : (loader outputTwiceOptions).build .written
      ((Generator.ofConfig (outputTo "A.h")).run outputTwice).2 = .ok (outputTo "B.h") := by
    rw [build_loader_run, hwritten]
    exact fun place hplace => hfirst place (List.mem_cons_of_mem _ hplace)
  rw [files_run_outputTwice hreversed, files_run_outputTwice hsecond]
  exact ⟨.of_build parse_outputTwice hreversed hfirst,
    .of_build parse_outputTwice hwritten hother, by decide⟩

end Program

end VisitorHeader
