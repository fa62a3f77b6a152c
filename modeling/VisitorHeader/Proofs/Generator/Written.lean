import VisitorHeader.Proofs.Files.Writing
import VisitorHeader.Proofs.Generator.Runs
import VisitorHeader.Proofs.Header.Names
import VisitorHeader.Proofs.Node.Listing

namespace VisitorHeader

open Text

theorem NodeList.oneLine_parse (source : String) : (NodeList.parse source).OneLine := by
  intro n hn hc
  exact (isName_of_mem_parse hn).unbroken '\n' hc (by decide)

namespace Generator

/-- A header that was written lists the names of the input as it was before the run, in its stubs
and in its bases, and nowhere else does it look as if there were one. -/
theorem run_written_names {g : Generator} {files : FileTree} {path : String} {count : Nat}
    (ht : g.template.OneLine) (h : (g.run files).1.result = .ok (.written path count)) :
    ∃ source header, files.readText g.input = .ok source ∧
      (g.run files).2.readText path = .ok header ∧
      ((lines header).filterMap (inside? ("virtual void " ++ g.template.visitMethod ++ "(")
        " &node) override \x7b\x7d")).length = count ∧
      (lines header).filterMap (inside? ("virtual void " ++ g.template.visitMethod ++ "(")
        " &node) override \x7b\x7d") = (NodeList.parse source).names.map NodeName.text ∧
      (lines header).filter (startsWith "public ") =
        commaEnded ((NodeList.parse source).names.map fun n =>
          "public " ++ g.template.visitorInterface ++ "<" ++ n.text ++ ">") := by
  have hr := g.runs_run files
  generalize g.run files = r at h hr
  cases hr with
  | unread e => cases h
  | skipped source => cases h
  | unwritten source e => cases h
  | written source files' hread hnames hwrite =>
      obtain ⟨rfl, rfl⟩ := Outcome.written.inj (Except.ok.inj h)
      have hl := NodeList.oneLine_parse source
      have hs := Template.stub_names_render ht hl
      refine ⟨source, _, hread, FileTree.readText_writeText hwrite, ?_, hs,
        Template.base_lines_render ht hl⟩
      exact (congrArg List.length hs).trans (List.length_map _)

def bracedNames : String := "A> &node) override \x7b\x7d\r\nB,\rB,"

/-- One file is input and output, and the names hold pieces of stubs and bases. -/
theorem run_written_names_same_file :
    ((ofPaths "list" "./list").run (.flat [("list", bracedNames)])).1.result =
        .ok (.written "./list" 3) ∧
      ∃ header,
        ((ofPaths "list" "./list").run (.flat [("list", bracedNames)])).2.readText "./list" =
          .ok header ∧
        (lines header).filterMap (inside? "virtual void visit(" " &node) override \x7b\x7d") =
          ["A> &node) override \x7b\x7d", "B,", "B,"] := by
  have h : ((ofPaths "list" "./list").run (.flat [("list", bracedNames)])).1.result =
    .ok (.written "./list" 3) := by rfl
  obtain ⟨source, header, hs, hh, -, hn, -⟩ := run_written_names Template.oneLine_conventional h
  have hb : FileTree.readText (.flat [("list", bracedNames)]) "list" = .ok bracedNames := by rfl
  obtain rfl : source = bracedNames := Except.ok.inj (hs.symm.trans hb)
  exact ⟨h, header, hh, hn.trans (by decide)⟩

end Generator

end VisitorHeader
