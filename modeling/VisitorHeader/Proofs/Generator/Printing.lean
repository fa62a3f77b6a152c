import VisitorHeader.Generator.Run

namespace VisitorHeader.Generator

variable (g : Generator) {files : FileTree} {source : String}

theorem renderOnly_of_unread {e : AccessError} (hread : files.readText g.input = .error e) :
    g.renderOnly files = ⟨.error (.readInput g.input e), []⟩ := by
  rw [renderOnly, NodeList.load, hread]

theorem renderOnly_of_empty (hread : files.readText g.input = .ok source)
    (hnames : (NodeList.parse source).names = []) :
    g.renderOnly files =
      ⟨.ok none, [(NodeList.parse source).loaded g.input, emptyWarning g.input]⟩ := by
  rw [renderOnly, NodeList.load, hread]
  exact if_pos (NodeList.isEmpty_iff.2 hnames)

theorem renderOnly_of_names (hread : files.readText g.input = .ok source)
    (hnames : (NodeList.parse source).names ≠ []) :
    g.renderOnly files = ⟨.ok (some (g.template.render (.parse source))),
      (NodeList.parse source).loaded g.input ::
        (NodeList.parse source).suspicious.map suspiciousWarning⟩ := by
  rw [renderOnly, NodeList.load, hread]
  exact if_neg (mt NodeList.isEmpty_iff.1 hnames)

end VisitorHeader.Generator
