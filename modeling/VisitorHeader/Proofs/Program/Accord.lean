import VisitorHeader.Proofs.Files.Writing
import VisitorHeader.Proofs.Generator.Printing
import VisitorHeader.Proofs.Generator.Runs
import VisitorHeader.Proofs.Program.Generating

namespace VisitorHeader

theorem NodeList.load_of_error {files : FileTree} {path : String} {e : AccessError}
    (h : files.readText path = .error e) :
    (load files path).result = .error (.readInput path e) := by
  rw [load, h]

theorem NodeList.load_of_ok {files : FileTree} {path source : String}
    (h : files.readText path = .ok source) : (load files path).result = .ok (parse source) := by
  rw [load, h]

namespace Generator

variable (g : Generator) (files : FileTree)

inductive Beside : Except GenerateError NodeList → Report Outcome × FileTree →
    Report (Option String) → Prop
  | unread (e) : Beside (.error (.readInput g.input e)) (⟨.error (.readInput g.input e), []⟩, files)
      ⟨.error (.readInput g.input e), []⟩
  | skipped (l : NodeList) (hnames : l.names = []) : Beside (.ok l)
      (⟨.ok (.skipped g.input), [l.loaded g.input, emptyWarning g.input]⟩, files)
      ⟨.ok none, [l.loaded g.input, emptyWarning g.input]⟩
  | unwritten (l : NodeList) (e) (hnames : l.names ≠ []) : Beside (.ok l)
      (⟨.error (.writeOutput g.output e),
        l.loaded g.input :: l.suspicious.map suspiciousWarning⟩, files)
      ⟨.ok (some (g.template.render l)), l.loaded g.input :: l.suspicious.map suspiciousWarning⟩
  | written (l : NodeList) (files') (hnames : l.names ≠ [])
      (hheader : files'.readBytes g.output = .ok (g.template.render l).toUTF8) : Beside (.ok l)
      (⟨.ok (.written g.output l.size), l.loaded g.input :: l.suspicious.map suspiciousWarning ++
        [writtenNotice g.output l.size]⟩, files')
      ⟨.ok (some (g.template.render l)), l.loaded g.input :: l.suspicious.map suspiciousWarning⟩

theorem beside_run : g.Beside files (NodeList.load files g.input).result (g.run files)
    (g.renderOnly files) := by
  have hr := g.runs_run files
  generalize g.run files = r at hr ⊢
  cases hr with
  | unread e hread =>
      rw [NodeList.load_of_error hread, g.renderOnly_of_unread hread]
      exact .unread e
  | skipped source hread hnames =>
      rw [NodeList.load_of_ok hread, g.renderOnly_of_empty hread hnames]
      exact .skipped _ hnames
  | unwritten source e hread hnames hwrite =>
      rw [NodeList.load_of_ok hread, g.renderOnly_of_names hread hnames]
      exact .unwritten _ e hnames
  | written source files' hread hnames hwrite =>
      rw [NodeList.load_of_ok hread, g.renderOnly_of_names hread hnames]
      exact .written _ files' hnames (FileTree.readBytes_writeText hwrite)

def closing : Except GenerateError Outcome → List Log.Record
  | .ok (.written path count) => [writtenNotice path count]
  | _ => []

/-- What a run and a rendering have in common, in result, in files and in what they tell. A
rendering answers no files: where one is printed, they stay as they are. -/
structure Accord (loaded : Except GenerateError NodeList) (run : Report Outcome × FileTree)
    (rendering : Report (Option String)) : Prop where
  unread : ∀ path e, run.1.result = .error (.readInput path e) ↔
    rendering.result = .error (.readInput path e)
  skipped : (∃ path, run.1.result = .ok (.skipped path)) ↔ rendering.result = .ok none
  rendered : ((∃ path count, run.1.result = .ok (.written path count)) ∨
    ∃ path e, run.1.result = .error (.writeOutput path e)) ↔
      ∃ header, rendering.result = .ok (some header)
  written : ∀ path count, run.1.result = .ok (.written path count) →
    ∃ l header, loaded = .ok l ∧ count = l.names.length ∧
      rendering.result = .ok (some header) ∧ run.2.readBytes path = .ok header.toUTF8
  untouched : ∀ filter, (Program.print filter g files).files = files
  records_of_unread : ∀ e, loaded = .error e → rendering.records = []
  records_of_loaded : ∀ l, loaded = .ok l → rendering.records = l.loaded g.input ::
    if l.names = [] then [emptyWarning g.input]
    else (l.names.filter fun n => !n.isIdentifier).map suspiciousWarning
  records_of_run : run.1.records = rendering.records ++ closing run.1.result

variable {g files}

theorem Beside.accord {loaded : Except GenerateError NodeList} {run : Report Outcome × FileTree}
    {rendering : Report (Option String)} (h : g.Beside files loaded run rendering) :
    g.Accord files loaded run rendering where
  unread path e := by cases h <;> simp
  skipped := by cases h <;> simp
  rendered := by cases h <;> simp
  written path count hr := by
    cases h <;> cases hr
    exact ⟨_, _, rfl, rfl, rfl, ‹_›⟩
  untouched filter := Program.files_print filter g
  records_of_unread e he := by
    cases h <;> cases he
    rfl
  records_of_loaded l hl := by
    cases h with
    | unread => cases hl
    | skipped l' hnames =>
        obtain rfl := Except.ok.inj hl
        rw [if_pos hnames]
    | unwritten l' e hnames =>
        obtain rfl := Except.ok.inj hl
        rw [if_neg hnames]
        rfl
    | written l' files' hnames =>
        obtain rfl := Except.ok.inj hl
        rw [if_neg hnames]
        rfl
  records_of_run := by cases h <;> simp [closing]

variable (g files)

/-- A run does what a rendering does, and then writes what that has rendered. -/
theorem run_accord : g.Accord files (NodeList.load files g.input).result (g.run files)
    (g.renderOnly files) :=
  (g.beside_run files).accord

end Generator

end VisitorHeader
