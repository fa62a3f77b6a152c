import VisitorHeader.Proofs.Files.Writing
import VisitorHeader.Proofs.Generator.Runs
import VisitorHeader.Proofs.Program.Generating
import VisitorHeader.Proofs.Program.Loading
import VisitorHeader.Proofs.Settings.Layering

namespace VisitorHeader.Program

open CommandLine Settings

theorem build_loader_of_none {o : Options} (hconfig : o.config = none) (w : Walk)
    (files : FileTree) : (loader o).build w files = .ok { Config.standard with paths :=
      ⟨o.input.getD Generator.standardInput, o.output.getD Generator.standardOutput⟩ } := by
  have hsources : (loader o).sources = [] := by
    rw [sources_loader, hconfig]
    rfl
  refine Loader.build_eq_ok ?_ ?_ w
  · constructor
    · rw [hsources]
      exact fun s hs => absurd hs List.not_mem_nil
    · intro e he
      rw [overrides_loader] at he
      rcases List.mem_append.mp he with he | he
      · obtain ⟨path, -, rfl⟩ := List.mem_map.mp he
        exact ⟨.input, rfl, rfl⟩
      · obtain ⟨path, -, rfl⟩ := List.mem_map.mp he
        exact ⟨.output, rfl, rfl⟩
  · intro f
    refine ⟨none, ?_⟩
    rw [Loader.settled, hsources, overrides_loader]
    cases o.input <;> cases o.output <;> cases f <;> rfl

def warningLine (message : String) : String :=
  "[WARN  visitorgen::generator] " ++ Log.Record.indented message ++ "\n"

/-- The warnings among some records, one after the other; `shown` is what the error stream makes of
a line. -/
def toldWarnings (shown : String → String) (records : List Log.Record) : String :=
  String.join ((records.filter (·.level = .warn)).map fun r => shown (warningLine r.message))

def ended (shown : String → String) (g : Generator) (files : FileTree) : Exit :=
  let (report, files) := g.run files
  match report.result with
  | .ok _ => ⟨0, "", toldWarnings shown report.records, files⟩
  | .error e => ⟨1, "", toldWarnings shown report.records ++ errorText e.message, files⟩

theorem line_eq {r : Log.Record} (hlevel : r.level = .warn)
    (htarget : r.target = Generator.target) :
    r.line = Terminal.plain (warningLine r.message) := by
  have hlabel : r.label = "WARN " := by
    unfold Log.Record.label
    rw [hlevel]
    decide
  have hfirst : "[" ++ r.label ++ " " ++ r.target ++ "] " = "[WARN  visitorgen::generator] " := by
    simp only [hlabel, htarget]
    decide
  exact congrArg (fun first => Terminal.plain (first ++ Log.Record.indented r.message ++ "\n")) hfirst

theorem lines_eq_toldWarnings {records : List Log.Record}
    (h : ∀ r ∈ records, Generator.Tells r) :
    Log.Filter.warnings.lines records = toldWarnings Terminal.plain records := by
  have hlines : (records.filter (·.level = .warn)).map Log.Record.line =
      (records.filter (·.level = .warn)).map fun r => Terminal.plain (warningLine r.message) := by
    apply List.map_congr_left
    intro r hr
    obtain ⟨hr, hlevel⟩ := List.mem_filter.mp hr
    have hwarn : r.level = .warn := by simpa using hlevel
    exact line_eq hwarn ((h r hr).2 hwarn)
  rw [Log.Filter.lines_warnings fun r hr => (h r hr).1, hlines, toldWarnings]

theorem write_warnings (g : Generator) (files : FileTree) :
    write .warnings g files = ended Terminal.plain g files := by
  have hrun := g.runs_run files
  rw [write, ended]
  generalize g.run files = r at hrun ⊢
  obtain ⟨⟨result, records⟩, files'⟩ := r
  have htold : _ = toldWarnings _ records := lines_eq_toldWarnings hrun.tells
  dsimp only
  cases result with
  | error e => rw [htold]
  | ok outcome =>
      cases outcome with
      | written path count =>
          dsimp only
          rw [Log.Filter.lines_concat_of_untold _ (Log.Filter.tells_warnings _), htold]
      | skipped input =>
          dsimp only
          rw [Log.Filter.lines_concat_of_untold _ (Log.Filter.tells_warnings _), htold]

theorem shown_warningLine {message : String} (h : Terminal.Shown message) :
    Terminal.Shown (warningLine message) := by
  have hfirst : Terminal.Shown "[WARN  visitorgen::generator] " := by decide
  have hlast : Terminal.Shown "\n" := by decide
  exact (hfirst.append (Log.Record.shown_indented h)).append hlast

theorem ended_plain {g : Generator} {files : FileTree}
    (h : ∀ r ∈ (g.run files).1.records, r.level = .warn → Terminal.Shown r.message) :
    ended Terminal.plain g files = ended id g files := by
  have htold : toldWarnings Terminal.plain (g.run files).1.records =
      toldWarnings id (g.run files).1.records := by
    apply congrArg String.join
    apply List.map_congr_left
    intro r hr
    obtain ⟨hr, hlevel⟩ := List.mem_filter.mp hr
    exact Terminal.plain_of_shown (shown_warningLine (h r hr (by simpa using hlevel)))
  simp only [ended, htold]

theorem answer_of_none (filter : Log.Filter) {args : List String} {i o : Option String}
    (hargs : CommandLine.parse args = .ok (.generate ⟨i, o, none, false⟩)) (w : Walk)
    (files : FileTree) : answer w filter args files = write filter
      (.ofPaths (i.getD Generator.standardInput) (o.getD Generator.standardOutput)) files := by
  rw [answer_of_generate filter hargs,
    generate_of_written filter (build_loader_of_none rfl w files) rfl]
  rfl

/-- Without a file of settings a process does what the generator for its paths does. -/
theorem run_of_none {args : List String} {i o : Option String}
    (hargs : CommandLine.parse args = .ok (.generate ⟨i, o, none, false⟩)) (w : Walk)
    (patterns : Log.Patterns) (files : FileTree) :
    let g : Generator := .ofPaths (i.getD Generator.standardInput) (o.getD Generator.standardOutput)
    run w patterns files args none = ended Terminal.plain g files ∧
      ((∀ r ∈ (g.run files).1.records, r.level = .warn → Terminal.Shown r.message) →
        run w patterns files args none = ended id g files) := by
  intro g
  have hrun : run w patterns files args none = ended Terminal.plain g files := by
    rw [run_none, answer_of_none _ hargs, write_warnings]
  exact ⟨hrun, fun hshown => hrun.trans (ended_plain hshown)⟩

def namesAlone : FileTree := .flat [("names", "A b\n")]

/-- There is a name to warn of, and no directory for the header. -/
theorem run_of_none_missingDirectory :
    run .written .literal namesAlone ["--input=names", "-o", "missing/out.h"] none =
        ended id (.ofPaths "names" "missing/out.h") namesAlone ∧
      (run .written .literal namesAlone ["--input=names", "-o", "missing/out.h"] none).stderr =
        "[WARN  visitorgen::generator] node name `A b` is not a valid C++ identifier\n" ++
        "error: cannot write header missing/out.h: No such file or directory (os error 2)\n" := by
  have hargs : CommandLine.parse ["--input=names", "-o", "missing/out.h"] =
      .ok (.generate ⟨some "names", some "missing/out.h", none, false⟩) := by rfl
  have hrun := (run_of_none hargs .written .literal namesAlone).2 (by decide)
  refine ⟨hrun, ?_⟩
  rw [hrun]
  decide +kernel

/-- The name holds a character that terminals take for a command. -/
def controlName : FileTree := .flat [("NodesList.txt", "A\x1cB")]

theorem run_controlName : CommandLine.parse [] = .ok (.generate ⟨none, none, none, false⟩) ∧
    (run .written .literal controlName [] none).stderr ≠
      (ended id (.ofPaths "NodesList.txt" "AllNodesVisitor.h") controlName).stderr := by
  refine ⟨rfl, ?_⟩
  rw [run_none, answer_of_none _ rfl, write_warnings]
  decide

end VisitorHeader.Program
