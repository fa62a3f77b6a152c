import Mathlib.Data.List.InsertIdx
import VisitorHeader.Proofs.Header.Lines

namespace VisitorHeader

open Text

namespace NodeList

def insert (l : NodeList) (i : Nat) (n : NodeName) : NodeList := ⟨l.names.insertIdx i n⟩

theorem exists_of_insert {l : NodeList} {i : Nat} (hi : i ≤ l.size) (n : NodeName) :
    ∃ ns ms, ns.length = i ∧ l = ⟨ns ++ ms⟩ ∧ l.insert i n = ⟨ns ++ n :: ms⟩ := by
  obtain ⟨ns, ms, hnames, hlength, hinsert⟩ := List.exists_of_modifyTailIdx (List.cons n) hi
  exact ⟨ns, ms, hlength, congrArg mk hnames, congrArg mk hinsert⟩

end NodeList

namespace Template

variable (t : Template)

def beforeBases : String := t.opening ++ "class " ++ t.className ++ " : "

def betweenLists : String :=
  "\n" ++ "\x7b\npublic:\n" ++ "virtual ~" ++ t.className ++ "() = default;\n"

def afterStubs : String := "\x7d;\n\x7d\n"

theorem render_eq_sections (l : NodeList) :
    t.render l = t.beforeBases ++ ",\n".intercalate (t.baseEntries l) ++ t.betweenLists ++
      ended (t.stubLines l) ++ afterStubs := by
  rw [ended_stubLines]
  simp only [render, beforeBases, betweenLists, afterStubs, String.append_assoc]

variable {t}

theorem baseEntries_append (ns ms : List NodeName) :
    ",\n".intercalate (t.baseEntries ⟨ns ++ ms⟩) =
      ",\n".intercalate (t.baseEntries ⟨ns⟩) ++
        String.join ((ms.map t.baseEntry).map (",\n" ++ ·)) := by
  rw [baseEntries, List.map_append, ← List.cons_append, intercalate_append _ (by simp)]
  rfl

/-- The comma in front of a new entry belongs to the line before it. -/
theorem baseEntries_insert (ns ms : List NodeName) (n : NodeName) :
    ",\n".intercalate (t.baseEntries ⟨ns ++ n :: ms⟩) =
      ",\n".intercalate (t.baseEntries ⟨ns⟩) ++ (",\n" ++ t.baseEntry n) ++
        String.join ((ms.map t.baseEntry).map (",\n" ++ ·)) := by
  rw [baseEntries_append, List.map_cons, List.map_cons, String.join_cons]
  simp only [String.append_assoc]

/-- The first stub takes the place of an empty line, any other one a line of its own. -/
theorem stubLines_insert (ns ms : List NodeName) (n : NodeName) :
    ∃ rest, ended (t.stubLines ⟨ns ++ ms⟩) = ended (ns.map t.visitStub) ++ rest ∧
      ended (t.stubLines ⟨ns ++ n :: ms⟩) = ended (ns.map t.visitStub) ++
        (t.visitStub n ++ if ns ++ ms = [] then "" else "\n") ++ rest := by
  have hinsert : t.stubLines ⟨ns ++ n :: ms⟩ = (ns ++ n :: ms).map t.visitStub :=
    if_neg (by simp)
  rw [hinsert, List.map_append, ended_append, List.map_cons, ended_cons]
  by_cases hempty : ns ++ ms = []
  · obtain ⟨rfl, rfl⟩ := List.append_eq_nil_iff.1 hempty
    refine ⟨"\n", rfl, ?_⟩
    simp
  · have hold : t.stubLines ⟨ns ++ ms⟩ = (ns ++ ms).map t.visitStub := if_neg hempty
    refine ⟨ended (ms.map t.visitStub), ?_, ?_⟩
    · rw [hold, List.map_append, ended_append]
    · rw [if_neg hempty]
      simp only [String.append_assoc]

variable {l : NodeList}

/-- A new name brings two pieces of text, its entry behind those of the names before it and its stub
behind theirs, and changes nothing else. -/
theorem render_insert {i : Nat} (hi : i ≤ l.size) (n : NodeName) :
    ∃ upper middle lower : String,
      upper = t.beforeBases ++ ",\n".intercalate ((t.baseEntries l).take (i + 1)) ∧
      upper ++ middle = t.beforeBases ++ ",\n".intercalate (t.baseEntries l) ++ t.betweenLists ++
        ended ((t.visitStubs l).take i) ∧
      t.render l = upper ++ middle ++ lower ∧
      t.render (l.insert i n) = upper ++ (",\n" ++ t.baseEntry n) ++ middle ++
        (t.visitStub n ++ if l.names = [] then "" else "\n") ++ lower := by
  obtain ⟨ns, ms, rfl, rfl, hinsert⟩ := NodeList.exists_of_insert hi n
  obtain ⟨rest, hold, hnew⟩ := stubLines_insert (t := t) ns ms n
  have hbases : (t.baseEntries ⟨ns ++ ms⟩).take (ns.length + 1) = t.baseEntries ⟨ns⟩ := by
    simp [baseEntries]
  have hstubs : (t.visitStubs ⟨ns ++ ms⟩).take ns.length = ns.map t.visitStub := by
    simp [visitStubs]
  refine ⟨t.beforeBases ++ ",\n".intercalate (t.baseEntries ⟨ns⟩),
    String.join ((ms.map t.baseEntry).map (",\n" ++ ·)) ++ t.betweenLists ++
      ended (ns.map t.visitStub), rest ++ afterStubs, ?_, ?_, ?_, ?_⟩
  · rw [hbases]
  · rw [hstubs, baseEntries_append]
    simp only [String.append_assoc]
  · rw [render_eq_sections, baseEntries_append, hold]
    simp only [String.append_assoc]
  · rw [hinsert, render_eq_sections, baseEntries_insert, hnew]
    simp only [String.append_assoc]

/-- A name that comes last, and holds marks of the template. -/
theorem render_insert_last : 2 ≤ (NodeList.parse "A\nB").size ∧
    ∃ upper middle lower : String,
      conventional.render (.parse "A\nB") = upper ++ middle ++ lower ∧
      conventional.render (.parse "A\nB\nC>,") = upper ++ (",\n" ++ "public Visitor<C>,>") ++ middle ++
        ("virtual void visit(C>, &node) override \x7b\x7d" ++ "\n") ++ lower := by
  have hsize : 2 ≤ (NodeList.parse "A\nB").size := by decide
  have hlist : (NodeList.parse "A\nB").insert 2 ⟨"C>,", by decide, by decide⟩ =
      .parse "A\nB\nC>," := by
    decide
  obtain ⟨upper, middle, lower, -, -, hold, hnew⟩ :=
    render_insert (t := conventional) hsize ⟨"C>,", by decide, by decide⟩
  rw [hlist] at hnew
  exact ⟨hsize, upper, middle, lower, hold, hnew⟩

end Template

end VisitorHeader
