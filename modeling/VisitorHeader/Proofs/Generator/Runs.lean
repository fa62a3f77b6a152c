import VisitorHeader.Generator.Run

namespace VisitorHeader.Generator

variable (g : Generator) (files : FileTree)

section Equations

variable {files : FileTree} {source : String}

theorem run_of_unread {e : AccessError} (hread : files.readText g.input = .error e) :
    g.run files = (⟨.error (.readInput g.input e), []⟩, files) := by
  rw [run, NodeList.load, hread]

theorem run_of_empty (hread : files.readText g.input = .ok source)
    (hnames : (NodeList.parse source).names = []) :
    g.run files = (⟨.ok (.skipped g.input),
      [(NodeList.parse source).loaded g.input, emptyWarning g.input]⟩, files) := by
  rw [run, NodeList.load, hread]
  exact if_pos (NodeList.isEmpty_iff.2 hnames)

theorem run_of_unwritten {e : AccessError} (hread : files.readText g.input = .ok source)
    (hnames : (NodeList.parse source).names ≠ [])
    (hwrite : files.writeText g.output (g.template.render (.parse source)) = .error e) :
    g.run files = (⟨.error (.writeOutput g.output e), (NodeList.parse source).loaded g.input ::
      (NodeList.parse source).suspicious.map suspiciousWarning⟩, files) := by
  rw [run, NodeList.load, hread]
  simp only [mt NodeList.isEmpty_iff.1 hnames, hwrite]
  rfl

theorem run_of_written {files' : FileTree} (hread : files.readText g.input = .ok source)
    (hnames : (NodeList.parse source).names ≠ [])
    (hwrite : files.writeText g.output (g.template.render (.parse source)) = .ok files') :
    g.run files = (⟨.ok (.written g.output (NodeList.parse source).size),
      (NodeList.parse source).loaded g.input ::
        (NodeList.parse source).suspicious.map suspiciousWarning ++
          [writtenNotice g.output (NodeList.parse source).size]⟩, files') := by
  rw [run, NodeList.load, hread]
  simp only [mt NodeList.isEmpty_iff.1 hnames, hwrite]
  rfl

end Equations

inductive Runs : Report Outcome × FileTree → Prop
  | unread (e) (hread : files.readText g.input = .error e) :
      Runs (⟨.error (.readInput g.input e), []⟩, files)
  | skipped (source) (hread : files.readText g.input = .ok source)
      (hnames : (NodeList.parse source).names = []) :
      Runs (⟨.ok (.skipped g.input),
        [(NodeList.parse source).loaded g.input, emptyWarning g.input]⟩, files)
  | unwritten (source e) (hread : files.readText g.input = .ok source)
      (hnames : (NodeList.parse source).names ≠ [])
      (hwrite : files.writeText g.output (g.template.render (.parse source)) = .error e) :
      Runs (⟨.error (.writeOutput g.output e), (NodeList.parse source).loaded g.input ::
        (NodeList.parse source).suspicious.map suspiciousWarning⟩, files)
  | written (source files') (hread : files.readText g.input = .ok source)
      (hnames : (NodeList.parse source).names ≠ [])
      (hwrite : files.writeText g.output (g.template.render (.parse source)) = .ok files') :
      Runs (⟨.ok (.written g.output (NodeList.parse source).size),
        (NodeList.parse source).loaded g.input ::
          (NodeList.parse source).suspicious.map suspiciousWarning ++
            [writtenNotice g.output (NodeList.parse source).size]⟩, files')

theorem runs_run : g.Runs files (g.run files) := by
  cases hread : files.readText g.input with
  | error e =>
      rw [g.run_of_unread hread]
      exact .unread e hread
  | ok source =>
      by_cases hnames : (NodeList.parse source).names = []
      · rw [g.run_of_empty hread hnames]
        exact .skipped source hread hnames
      · cases hwrite : files.writeText g.output (g.template.render (.parse source)) with
        | error e =>
            rw [g.run_of_unwritten hread hnames hwrite]
            exact .unwritten source e hread hnames hwrite
        | ok files' =>
            rw [g.run_of_written hread hnames hwrite]
            exact .written source files' hread hnames hwrite

def Tells (r : Log.Record) : Prop := r.level ≠ .error ∧ (r.level = .warn → r.target = target)

theorem tells_loaded (l : NodeList) (path : String) : Tells (l.loaded path) := ⟨nofun, nofun⟩

theorem tells_suspicious (l : NodeList) : ∀ r ∈ l.suspicious.map suspiciousWarning, Tells r := by
  intro r hr
  obtain ⟨n, -, rfl⟩ := List.mem_map.mp hr
  exact ⟨nofun, fun _ => rfl⟩

theorem Runs.tells {g : Generator} {files : FileTree} {r : Report Outcome × FileTree}
    (h : g.Runs files r) : ∀ record ∈ r.1.records, Tells record := by
  cases h with
  | unread e => exact List.forall_mem_nil _
  | skipped source =>
      have hempty : Tells (emptyWarning g.input) := ⟨nofun, fun _ => rfl⟩
      simpa using ⟨tells_loaded _ _, hempty⟩
  | unwritten source e => exact List.forall_mem_cons.mpr ⟨tells_loaded _ _, tells_suspicious _⟩
  | written source files' =>
      have hwritten (count : Nat) : Tells (writtenNotice g.output count) := ⟨nofun, nofun⟩
      intro r hr
      rcases List.mem_append.mp hr with hr | hr
      · exact List.forall_mem_cons.mpr ⟨tells_loaded _ _, tells_suspicious _⟩ r hr
      · exact List.forall_mem_singleton.mpr (hwritten _) r hr

end VisitorHeader.Generator
