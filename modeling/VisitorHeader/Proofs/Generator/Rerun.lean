import VisitorHeader.Proofs.Files.Rereading
import VisitorHeader.Proofs.Generator.Runs

namespace VisitorHeader.Generator

variable (g : Generator) (files : FileTree)

/-- A run changes no file but the one that the output leads to. -/
theorem files_run : (g.run files).2 = files ∨
    ∃ l content, files.destination g.output = .ok l ∧
      (g.run files).2 = files.put l (.file content) := by
  have hr := g.runs_run files
  generalize g.run files = r at hr
  cases hr with
  | unread | skipped | unwritten => exact .inl rfl
  | written source files' hread hnames hwrite =>
      obtain ⟨l, hl, rfl⟩ := FileTree.exists_of_writeText hwrite
      exact .inr ⟨l, _, hl, rfl⟩

/-- A second run does what the first did, unless the first has written over the list. -/
theorem run_run (h : ∀ l, files.destination g.output = .ok l → ¬ files.LeadsTo g.input l) :
    g.run (g.run files).2 = g.run files := by
  have hr := g.runs_run files
  generalize hrun : g.run files = r at hr ⊢
  cases hr with
  | unread | skipped | unwritten => exact hrun
  | written source files' hread hnames hwrite =>
      apply run_of_written
      · obtain ⟨l, hl, rfl⟩ := FileTree.exists_of_writeText hwrite
        obtain ⟨m, content, hm⟩ := FileTree.exists_of_readText hread
        have hne : m ≠ l := by
          rintro rfl
          exact h m hl ⟨_, hm, rfl⟩
        rw [FileTree.readText_put (FileTree.get?_destination hl) _ hm hne, hread]
      · exact hnames
      · rw [FileTree.writeText_writeText hwrite, hwrite]

end VisitorHeader.Generator
