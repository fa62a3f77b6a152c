import VisitorHeader.Header.Template
import VisitorHeader.Proofs.Text.Lines

namespace VisitorHeader

open Text

namespace Template

structure OneLine (t : Template) : Prop where
  includes : ∀ file ∈ t.includes, Text.OneLine file
  namespaceName : Text.OneLine t.namespaceName
  className : Text.OneLine t.className
  markerInterface : Text.OneLine t.markerInterface
  visitorInterface : Text.OneLine t.visitorInterface
  visitMethod : Text.OneLine t.visitMethod

theorem oneLine_conventional : conventional.OneLine := by
  constructor <;> decide

end Template

def NodeList.OneLine (l : NodeList) : Prop := ∀ n ∈ l.names, Text.OneLine n.text

instance (l : NodeList) : Decidable l.OneLine := inferInstanceAs (Decidable (∀ n ∈ l.names, _))

namespace Template

variable (t : Template)

def scopeLine : String := "namespace " ++ t.namespaceName ++ " \x7b"

def classLine : String := "class " ++ t.className ++ " : " ++ t.markerEntry

def destructorLine : String := "virtual ~" ++ t.className ++ "() = default;"

def stubOpening : String := "virtual void " ++ t.visitMethod ++ "("

def stubClosing : String := " &node) override \x7b\x7d"

def includeLines : List String := t.includes.map fun file => "#include \"" ++ file ++ "\""

def baseLines (l : NodeList) : List String := commaEnded (t.classLine :: l.names.map t.baseEntry)

def stubLines (l : NodeList) : List String :=
  if l.names = [] then [""] else t.visitStubs l

def headerLines (l : NodeList) : List String :=
  "#pragma once" :: (t.includeLines ++ t.scopeLine :: (t.baseLines l ++
    "\x7b" :: "public:" :: t.destructorLine :: (t.stubLines l ++ ["\x7d;", "\x7d"])))

theorem visitStub_eq (n : NodeName) : t.visitStub n = t.stubOpening ++ n.text ++ stubClosing := rfl

theorem ended_includeLines : ended t.includeLines = String.join (t.includes.map includeLine) := by
  rw [includeLines]
  induction t.includes with
  | nil => rfl
  | cons file files ih =>
      rw [List.map_cons, ended_cons, ih, List.map_cons, String.join_cons, includeLine]
      simp only [String.append_assoc]
      rfl

theorem ended_stubLines (l : NodeList) :
    ended (t.stubLines l) = "\n".intercalate (t.visitStubs l) ++ "\n" := by
  rw [stubLines]
  split
  next h => simp [visitStubs, h]
  next h => exact ended_eq_intercalate (by simpa [visitStubs] using h)

theorem ended_baseLines (l : NodeList) : ended (t.baseLines l) =
    "class " ++ t.className ++ " : " ++ ",\n".intercalate (t.baseEntries l) ++ "\n" := by
  rw [baseLines, ended_commaEnded, classLine, String.intercalate_cons_append, baseEntries]

theorem render_eq_ended (l : NodeList) : t.render l = ended (t.headerLines l) := by
  have ho : t.opening = "#pragma once\n" ++ String.join (t.includes.map includeLine) ++
      "namespace " ++ t.namespaceName ++ " \x7b\n" := rfl
  -- compared by characters, since the texts between the fields hold ends of lines
  rw [← String.toList_inj]
  simp [render, ho, headerLines, ended_includeLines, ended_baseLines, ended_stubLines, scopeLine,
    destructorLine]

theorem startsWith_includeLines : ∀ s ∈ t.includeLines, startsWith "#include " s := by
  refine List.forall_mem_map.2 fun file _ => ?_
  exact startsWith_append (startsWith_append (by decide) file) "\""

theorem startsWith_scopeLine : startsWith "namespace " t.scopeLine :=
  startsWith_append (startsWith_append_self _ _) _

theorem startsWith_classLine : startsWith "class " t.classLine :=
  startsWith_append (startsWith_append (startsWith_append_self _ _) _) _

theorem startsWith_baseEntry (n : NodeName) : startsWith "public " (t.baseEntry n) :=
  startsWith_append (startsWith_append (startsWith_append (startsWith_append_self _ _) _) _) _

theorem startsWith_baseLines {l : NodeList} {s : String} (hs : s ∈ t.baseLines l) :
    startsWith "class " s ∨ startsWith "public " s := by
  obtain ⟨s', hs', comma, -, rfl⟩ := exists_of_mem_commaEnded hs
  rcases List.mem_cons.1 hs' with rfl | hs'
  · exact .inl (startsWith_append t.startsWith_classLine comma)
  · obtain ⟨n, -, rfl⟩ := List.mem_map.1 hs'
    exact .inr (startsWith_append (t.startsWith_baseEntry n) comma)

theorem startsWith_destructorLine : startsWith "virtual ~" t.destructorLine :=
  startsWith_append (startsWith_append_self _ _) _

theorem startsWith_stubOpening : startsWith "virtual void " t.stubOpening :=
  startsWith_append (startsWith_append_self _ _) _

theorem startsWith_stubLines {l : NodeList} {s : String} (hs : s ∈ t.stubLines l) :
    s = "" ∨ startsWith "virtual void " s := by
  rw [stubLines] at hs
  split at hs
  · exact .inl (List.mem_singleton.1 hs)
  · obtain ⟨n, -, rfl⟩ := List.mem_map.1 hs
    exact .inr (startsWith_append (startsWith_append t.startsWith_stubOpening _) _)

variable {t}

theorem OneLine.headerLines (ht : t.OneLine) {l : NodeList} (hl : l.OneLine) :
    ∀ s ∈ t.headerLines l, Text.OneLine s := by
  have includes : ∀ s ∈ t.includeLines, Text.OneLine s := by
    refine List.forall_mem_map.2 fun file hfile => ?_
    exact (Text.OneLine.append (by decide) (ht.includes file hfile)).append (by decide)
  have bases : ∀ s ∈ t.baseLines l, Text.OneLine s := by
    refine oneLine_commaEnded (List.forall_mem_cons.2 ⟨?_, List.forall_mem_map.2 fun n hn => ?_⟩)
    · exact ((Text.OneLine.append (by decide) ht.className).append (by decide)).append
        (Text.OneLine.append (by decide) ht.markerInterface)
    · exact (((Text.OneLine.append (by decide) ht.visitorInterface).append (by decide)).append
        (hl n hn)).append (by decide)
  have stubs : ∀ s ∈ t.stubLines l, Text.OneLine s := by
    rw [stubLines]
    split
    next => decide
    next =>
      refine List.forall_mem_map.2 fun n hn => ?_
      exact (((Text.OneLine.append (by decide) ht.visitMethod).append (by decide)).append
        (hl n hn)).append (by decide)
  have scope : Text.OneLine t.scopeLine :=
    (Text.OneLine.append (by decide) ht.namespaceName).append (by decide)
  have destructor : Text.OneLine t.destructorLine :=
    (Text.OneLine.append (by decide) ht.className).append (by decide)
  simp only [Template.headerLines, List.forall_mem_cons, List.forall_mem_append]
  exact ⟨by decide, includes, scope, bases, by decide, by decide, destructor, stubs, by decide,
    by decide, by simp⟩

theorem lines_render (ht : t.OneLine) {l : NodeList} (hl : l.OneLine) :
    lines (t.render l) = t.headerLines l ++ [""] := by
  rw [render_eq_ended, lines_ended (ht.headerLines hl)]

end Template

end VisitorHeader
