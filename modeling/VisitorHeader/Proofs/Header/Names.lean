import VisitorHeader.Proofs.Header.Lines

namespace VisitorHeader.Template

open Text

variable (t : Template)

def otherStarts : List String :=
  ["#pragma once", "#include ", "namespace ", "class ", "\x7b", "public:", "virtual ~", "\x7d"]

theorem filter_headerLines {start : String} (h : ∀ s ∈ otherStarts, Apart start s) (l : NodeList) :
    (t.headerLines l).filter (startsWith start) =
      (t.baseLines l).filter (startsWith start) ++ (t.stubLines l).filter (startsWith start) := by
  have drop {s s' : String} (hs : s ∈ otherStarts) (h' : startsWith s s') :
      ¬ startsWith start s' := by
    rw [Bool.not_eq_true]
    exact startsWith_eq_false h' (h s hs)
  have includes : t.includeLines.filter (startsWith start) = [] :=
    List.filter_eq_nil_iff.2 fun s hs => drop (by decide) (t.startsWith_includeLines s hs)
  rw [headerLines, List.filter_cons_of_neg (drop (s := "#pragma once") (by decide) (by decide)),
    List.filter_append, includes, List.nil_append,
    List.filter_cons_of_neg (drop (by decide) t.startsWith_scopeLine), List.filter_append,
    List.filter_cons_of_neg (drop (s := "\x7b") (by decide) (by decide)),
    List.filter_cons_of_neg (drop (s := "public:") (by decide) (by decide)),
    List.filter_cons_of_neg (drop (by decide) t.startsWith_destructorLine), List.filter_append,
    List.filter_cons_of_neg (drop (s := "\x7d") (by decide) (by decide)),
    List.filter_cons_of_neg (drop (s := "\x7d") (by decide) (by decide)), List.filter_nil,
    List.append_nil]

theorem filter_public (l : NodeList) :
    (t.headerLines l).filter (startsWith "public ") = commaEnded (l.names.map t.baseEntry) := by
  have stubs : (t.stubLines l).filter (startsWith "public ") = [] := by
    refine filter_startsWith_eq_nil fun s hs => ?_
    rcases t.startsWith_stubLines hs with rfl | hs
    · decide
    · exact startsWith_eq_false hs (by decide)
  have noBase (comma : String) : ¬ startsWith "public " (t.classLine ++ comma) := by
    rw [Bool.not_eq_true]
    exact startsWith_eq_false (startsWith_append t.startsWith_classLine comma) (by decide)
  rw [t.filter_headerLines (by decide), stubs, List.append_nil, baseLines, commaEnded_cons,
    List.filter_cons_of_neg (noBase _), filter_commaEnded]
  exact List.forall_mem_map.2 fun n _ => t.startsWith_baseEntry n

theorem filter_virtual (l : NodeList) :
    (t.headerLines l).filter (startsWith "virtual void ") = t.visitStubs l := by
  have bases : (t.baseLines l).filter (startsWith "virtual void ") = [] := by
    refine filter_startsWith_eq_nil fun s hs => ?_
    rcases t.startsWith_baseLines hs with hs | hs
    · exact startsWith_eq_false hs (by decide)
    · exact startsWith_eq_false hs (by decide)
  rw [t.filter_headerLines (by decide), bases, List.nil_append, stubLines]
  split
  next h => simp [visitStubs, h, startsWith]
  next h =>
    refine List.filter_eq_self.2 (List.forall_mem_map.2 fun n _ => ?_)
    exact startsWith_append (startsWith_append t.startsWith_stubOpening _) _

theorem filterMap_visitStubs (l : NodeList) :
    (t.visitStubs l).filterMap (inside? t.stubOpening stubClosing) = l.names.map NodeName.text := by
  rw [visitStubs, List.filterMap_map, ← List.filterMap_eq_map]
  apply congrArg (List.filterMap · l.names)
  funext n
  exact inside?_append t.stubOpening n.text stubClosing

variable {t} {l : NodeList}

theorem stub_names_render (ht : t.OneLine) (hl : l.OneLine) :
    (lines (t.render l)).filterMap (inside? t.stubOpening stubClosing) =
      l.names.map NodeName.text := by
  rw [lines_render ht hl, ← filterMap_inside? t.startsWith_stubOpening, List.filter_append,
    filter_virtual, List.filter_cons_of_neg (by decide), List.filter_nil, List.append_nil,
    filterMap_visitStubs]

theorem base_lines_render (ht : t.OneLine) (hl : l.OneLine) :
    (lines (t.render l)).filter (startsWith "public ") = commaEnded (l.names.map t.baseEntry) := by
  rw [lines_render ht hl, List.filter_append, filter_public, List.filter_cons_of_neg (by decide),
    List.filter_nil, List.append_nil]

end VisitorHeader.Template
