import VisitorHeader.Proofs.Files.Reading
import VisitorHeader.Proofs.Files.Writing
import VisitorHeader.Proofs.Generator.Runs
import VisitorHeader.Proofs.Node.Listing

namespace VisitorHeader

open Text

namespace FileTree

variable {t t' : FileTree} {path : String}

theorem writeText_of_error {text : String} {e : AccessError} (h : t.destination path = .error e) :
    t.writeText path text = .error e := by
  rw [writeText, h]

theorem writeText_of_ok {l : Location} (text : String) (h : t.destination path = .ok l) :
    t.writeText path text = .ok (t.put l (.file text.toUTF8)) := by
  rw [writeText, h]

structure Wrote (before after : FileTree) (l : Location) (content : ByteArray) : Prop where
  file : after.get? l = some (.file content)
  others : ∀ m, m ≠ l → after.get? m = before.get? m
  directories : ∀ m, after.get? m = some .directory ↔ before.get? m = some .directory

theorem wrote_put {l : Location} (h : t.get? l ≠ some .directory) (content : ByteArray) :
    t.Wrote (t.put l (.file content)) l content where
  file := get?_put_self (ne_nil_of_get? h) _
  others m hm := get?_put_of_ne hm _
  directories m := by
    by_cases hm : m = l
    · subst hm
      rw [get?_put_self (ne_nil_of_get? h)]
      simp [h]
    · rw [get?_put_of_ne hm]

theorem Wrote.get?_eq {before : FileTree} {l : Location} {content : ByteArray}
    (h : before.Wrote t l content) (h' : before.Wrote t' l content) (m : Location) :
    t.get? m = t'.get? m := by
  by_cases hm : m = l
  · rw [hm, h.file, h'.file]
  · rw [h.others m hm, h'.others m hm]

end FileTree

namespace Generator

variable (g : Generator) (files : FileTree)

inductive Concludes : Except GenerateError Outcome → FileTree → Prop
  | unread (e) (hread : files.readBytes g.input = .error e) :
      Concludes (.error (.readInput g.input e)) files
  | undecoded (content) (hread : files.readBytes g.input = .ok content)
      (htext : ∀ source : String, content ≠ source.toUTF8) :
      Concludes (.error (.readInput g.input .notText)) files
  | skipped (source : String) (hread : files.readBytes g.input = .ok source.toUTF8)
      (hblank : Blank source.toList) : Concludes (.ok (.skipped g.input)) files
  | unopened (source : String) (e) (hread : files.readBytes g.input = .ok source.toUTF8)
      (hblank : ¬ Blank source.toList) (hopen : files.destination g.output = .error e) :
      Concludes (.error (.writeOutput g.output e)) files
  | written (source : String) (l after) (hread : files.readBytes g.input = .ok source.toUTF8)
      (hblank : ¬ Blank source.toList) (hopen : files.destination g.output = .ok l)
      (hpath : after.readBytes g.output = .ok (g.template.render (.parse source)).toUTF8)
      (hwrote : files.Wrote after l (g.template.render (.parse source)).toUTF8) :
      Concludes (.ok (.written g.output (NodeList.parse source).size)) after

theorem concludes_run : g.Concludes files (g.run files).1.result (g.run files).2 := by
  rcases files.readBytes_cases g.input with ⟨e, hread⟩ | ⟨source, hread⟩ | ⟨content, hread, htext⟩
  · rw [g.run_of_unread (FileTree.readText_of_error hread)]
    exact .unread e hread
  · have hsource := FileTree.readText_of_text hread
    by_cases hblank : Blank source.toList
    · rw [g.run_of_empty hsource ((NodeList.names_parse_eq_nil_iff source).2 hblank)]
      exact .skipped source hread hblank
    · have hnames := mt (NodeList.names_parse_eq_nil_iff source).1 hblank
      cases hopen : files.destination g.output with
      | error e =>
          rw [g.run_of_unwritten hsource hnames (FileTree.writeText_of_error hopen)]
          exact .unopened source e hread hblank hopen
      | ok l =>
          have hwrite := FileTree.writeText_of_ok (g.template.render (.parse source)) hopen
          rw [g.run_of_written hsource hnames hwrite]
          exact .written source l _ hread hblank hopen (FileTree.readBytes_writeText hwrite)
            (FileTree.wrote_put (FileTree.get?_destination hopen) _)
  · rw [g.run_of_unread (FileTree.readText_of_not_text hread htext)]
    exact .undecoded content hread htext

variable {g files}

theorem Concludes.eq_run {result : Except GenerateError Outcome} {after : FileTree}
    (h : g.Concludes files result after) :
    result = (g.run files).1.result ∧ ∀ l, after.get? l = (g.run files).2.get? l := by
  cases h with
  | unread e hread =>
      rw [g.run_of_unread (FileTree.readText_of_error hread)]
      exact ⟨rfl, fun _ => rfl⟩
  | undecoded content hread htext =>
      rw [g.run_of_unread (FileTree.readText_of_not_text hread htext)]
      exact ⟨rfl, fun _ => rfl⟩
  | skipped source hread hblank =>
      rw [g.run_of_empty (FileTree.readText_of_text hread)
        ((NodeList.names_parse_eq_nil_iff source).2 hblank)]
      exact ⟨rfl, fun _ => rfl⟩
  | unopened source e hread hblank hopen =>
      rw [g.run_of_unwritten (FileTree.readText_of_text hread)
        (mt (NodeList.names_parse_eq_nil_iff source).1 hblank) (FileTree.writeText_of_error hopen)]
      exact ⟨rfl, fun _ => rfl⟩
  | written source l after hread hblank hopen hpath hwrote =>
      rw [g.run_of_written (FileTree.readText_of_text hread)
        (mt (NodeList.names_parse_eq_nil_iff source).1 hblank) (FileTree.writeText_of_ok _ hopen)]
      exact ⟨rfl, hwrote.get?_eq (FileTree.wrote_put (FileTree.get?_destination hopen) _)⟩

variable (g files)

/-- The input and the output decide what a run comes to and what it leaves, in one way only. -/
theorem run_concludes : g.Concludes files (g.run files).1.result (g.run files).2 ∧
    ∀ result after, g.Concludes files result after →
      result = (g.run files).1.result ∧ ∀ l, after.get? l = (g.run files).2.get? l :=
  ⟨g.concludes_run files, fun _ _ h => h.eq_run⟩

end Generator

end VisitorHeader
