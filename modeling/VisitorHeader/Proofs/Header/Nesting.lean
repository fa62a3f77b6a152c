import VisitorHeader.Proofs.Header.Lines
import VisitorHeader.Proofs.Node.Qualified
import VisitorHeader.Proofs.Text.Brackets

namespace VisitorHeader

open Text

namespace Identifier

theorem forall_mem_of_continues {cs : List Char} (h : continues cs) :
    ∀ c ∈ cs, Follows c ∨ c = ':' := by
  fun_induction continues cs with
  | case1 => simp
  | case2 c r ih =>
      rw [Bool.and_eq_true, isStart_iff] at h
      have colon : Follows ':' ∨ ':' = ':' := .inr rfl
      have hr := List.forall_mem_cons.2 ⟨.inl h.1.follows, ih h.2⟩
      exact List.forall_mem_cons.2 ⟨colon, List.forall_mem_cons.2 ⟨colon, hr⟩⟩
  | case3 c r hc ih =>
      rw [Bool.and_eq_true, isPart_iff] at h
      exact List.forall_mem_cons.2 ⟨.inl h.1, ih h.2⟩

theorem forall_mem_of_starts {cs : List Char} (h : starts cs) : ∀ c ∈ cs, Follows c ∨ c = ':' := by
  cases cs with
  | nil => cases h
  | cons c r =>
      rw [starts, Bool.and_eq_true, isStart_iff] at h
      exact List.forall_mem_cons.2 ⟨.inl h.1.follows, forall_mem_of_continues h.2⟩

theorem forall_mem_of_isQualified {cs : List Char} (h : isQualified cs) :
    ∀ c ∈ cs, Follows c ∨ c = ':' := by
  fun_cases isQualified cs with
  | case1 r =>
      have colon : Follows ':' ∨ ':' = ':' := .inr rfl
      exact List.forall_mem_cons.2 ⟨colon, List.forall_mem_cons.2 ⟨colon, forall_mem_of_starts h⟩⟩
  | case2 cs hcs =>
      rw [isQualified] at h
      · exact forall_mem_of_starts h
      · exact hcs

end Identifier

namespace NodeName

variable {n : NodeName} (h : n.isIdentifier)

include h

theorem unbracketed_of_isIdentifier : Unbracketed n.text.toList := by
  have hbrackets : brackets.all fun c => ¬ (Identifier.Follows c ∨ c = ':') := by decide
  intro c hc hbracket
  have hfollows := Identifier.forall_mem_of_isQualified h c hc
  exact of_decide_eq_true (List.all_eq_true.1 hbrackets c hbracket) hfollows

theorem oneLine_of_isIdentifier : OneLine n.text := by
  intro hfeed
  have feed : ¬ (Identifier.Follows '\n' ∨ '\n' = ':') := by decide
  exact feed (Identifier.forall_mem_of_isQualified h '\n' hfeed)

end NodeName

namespace Text

theorem nested_ended {ls : List String} (h : ∀ s ∈ ls, Nested s.toList) :
    Nested (ended ls).toList := by
  induction ls with
  | nil => exact .nil
  | cons s ls ih =>
      obtain ⟨hs, hls⟩ := List.forall_mem_cons.1 h
      have hfeed : Nested "\n".toList := Unbracketed.nested (by decide)
      rw [ended_cons, String.toList_append, String.toList_append]
      exact (hs.append hfeed).append (ih hls)

/-- All brackets are closed wherever a line ends in the text, or behind it. -/
def Level (s : String) : Prop := ∀ u v, s ++ "\n" = u ++ "\n" ++ v → Nested u.toList

/-- Lines may end in the first part only, and nothing is open there. -/
theorem level_append {first last : String} (hfirst : Unbracketed first.toList)
    (hlast : Nested last.toList) (hline : OneLine last) : Level (first ++ last) := by
  intro u v h
  rcases List.eq_nil_or_concat v.toList with hv | ⟨w, c, hv⟩
  · have hu : u = first ++ last := by
      rw [String.toList_eq_nil_iff.1 hv, String.append_empty, String.append_left_inj] at h
      exact h.symm
    rw [hu, String.toList_append]
    exact hfirst.nested.append hlast
  · -- the line end is not the one behind the text
    have hchars : first.toList ++ last.toList ++ ['\n'] = u.toList ++ '\n' :: w ++ [c] := by
      simpa [← String.toList_inj, hv] using h
    have hinner := List.append_inj_left' hchars rfl
    rcases List.append_eq_append_iff.1 hinner with ⟨as, -, hrest⟩ | ⟨as, hu, -⟩
    · exact absurd (by simp [hrest]) hline
    · exact Unbracketed.nested fun d hd => hfirst d (by simp [hu, hd])

theorem Level.nested {s : String} (h : Level s) : Nested s.toList :=
  h s "" (by rw [String.append_empty])

end Text

namespace Template

def texts (t : Template) : List String :=
  t.includes ++ [t.namespaceName, t.className, t.markerInterface, t.visitorInterface, t.visitMethod]

def Unbracketed (t : Template) : Prop := ∀ s ∈ t.texts, Text.Unbracketed s.toList

instance (t : Template) : Decidable t.Unbracketed := inferInstanceAs (Decidable (∀ s ∈ t.texts, _))

section

variable {t : Template} (ht : t.Unbracketed)

include ht

theorem Unbracketed.level_base {n : NodeName} (hn : n.isIdentifier) {comma : String}
    (hcomma : comma ∈ ["", ","]) : Level (t.baseEntry n ++ comma) := by
  have commas : ∀ comma ∈ ["", ","], Text.Unbracketed comma.toList ∧ Text.OneLine comma := by decide
  obtain ⟨hplain, hline⟩ := commas comma hcomma
  have hsplit : t.baseEntry n ++ comma =
      "public " ++ t.visitorInterface ++ ("<" ++ n.text ++ ">" ++ comma) := by
    simp only [baseEntry, String.append_assoc]
  rw [hsplit]
  refine level_append ?_ ?_ ?_
  · rw [String.toList_append]
    exact Text.Unbracketed.append (by decide) (ht t.visitorInterface (by simp [texts]))
  · have hpair := Nested.pair '<' '>' n.text.toList comma.toList (by decide)
      (n.unbracketed_of_isIdentifier hn).nested hplain.nested
    simpa using hpair
  · exact ((Text.OneLine.append (by decide) (n.oneLine_of_isIdentifier hn)).append
      (by decide)).append hline

theorem Unbracketed.level_visitStub {n : NodeName} (hn : n.isIdentifier) :
    Level (t.visitStub n) := by
  have hsplit : t.visitStub n =
      "virtual void " ++ t.visitMethod ++ ("(" ++ n.text ++ stubClosing) := by
    simp only [visitStub_eq, stubOpening, String.append_assoc]
  rw [hsplit]
  refine level_append ?_ ?_ ?_
  · rw [String.toList_append]
    exact Text.Unbracketed.append (by decide) (ht t.visitMethod (by simp [texts]))
  · have hnode : Text.Unbracketed (n.text.toList ++ " &node".toList) :=
      (n.unbracketed_of_isIdentifier hn).append (by decide)
    have hbody : Nested " override \x7b\x7d".toList := (nested_iff _).2 (by decide)
    have hpair := Nested.pair '(' ')' _ _ (by decide) hnode.nested hbody
    simpa [stubClosing] using hpair
  · exact (Text.OneLine.append (by decide) (n.oneLine_of_isIdentifier hn)).append (by decide)

variable {l : NodeList} (hl : l.suspicious = [])

include hl

omit ht in
theorem isIdentifier_of_suspicious : ∀ n ∈ l.names, n.isIdentifier := by
  intro n hn
  simpa using List.filter_eq_nil_iff.1 hl n hn

theorem Unbracketed.level_bases : ∀ s ∈ (t.baseLines l).tail, Level s := by
  intro s hs
  rw [baseLines, commaEnded_cons, List.tail_cons] at hs
  obtain ⟨base, hbase, comma, hcomma, rfl⟩ := exists_of_mem_commaEnded hs
  obtain ⟨n, hn, rfl⟩ := List.mem_map.1 hbase
  exact ht.level_base (isIdentifier_of_suspicious hl n hn) hcomma

theorem Unbracketed.level_stubLines : ∀ s ∈ t.stubLines l, Level s := by
  intro s hs
  rw [stubLines] at hs
  split at hs
  · rw [List.mem_singleton.1 hs]
    have hempty : Level ("" ++ "") := level_append (by decide) .nil (by decide)
    exact hempty
  · obtain ⟨n, hn, rfl⟩ := List.mem_map.1 hs
    exact ht.level_visitStub (isIdentifier_of_suspicious hl n hn)

theorem Unbracketed.nested_baseLines : Nested (ended (t.baseLines l)).toList := by
  have hplain : Text.Unbracketed t.classLine.toList := by
    simp only [classLine, markerEntry, String.toList_append]
    exact ((Text.Unbracketed.append (by decide) (ht t.className (by simp [texts]))).append
      (by decide)).append (Text.Unbracketed.append (by decide)
        (ht t.markerInterface (by simp [texts])))
  have hcomma : Text.Unbracketed ",".toList := by decide
  have hclass :
      Nested (t.classLine ++ if l.names.map t.baseEntry = [] then "" else ",").toList := by
    rw [String.toList_append]
    split
    · exact hplain.nested.append .nil
    · exact hplain.nested.append hcomma.nested
  have hbases := ht.level_bases hl
  rw [baseLines, commaEnded_cons, List.tail_cons] at hbases
  rw [baseLines, commaEnded_cons]
  exact nested_ended (List.forall_mem_cons.2 ⟨hclass, fun s hs => (hbases s hs).nested⟩)

theorem Unbracketed.nested_members :
    Nested (ended ("public:" :: t.destructorLine :: t.stubLines l)).toList := by
  have hname : Text.Unbracketed ("virtual ~" ++ t.className).toList := by
    rw [String.toList_append]
    exact Text.Unbracketed.append (by decide) (ht t.className (by simp [texts]))
  have hrest : Nested "() = default;".toList := (nested_iff _).2 (by decide)
  have hdestructor : Nested t.destructorLine.toList := by
    rw [destructorLine, String.toList_append]
    exact hname.nested.append hrest
  have hpublic : Nested "public:".toList := Text.Unbracketed.nested (by decide)
  exact nested_ended (List.forall_mem_cons.2 ⟨hpublic, List.forall_mem_cons.2
    ⟨hdestructor, fun s hs => (ht.level_stubLines hl s hs).nested⟩⟩)

omit hl in
theorem Unbracketed.nested_upper :
    Nested (ended ("#pragma once" :: t.includeLines) ++ "namespace " ++ t.namespaceName ++
      " ").toList := by
  have hpragma : Nested "#pragma once".toList := Text.Unbracketed.nested (by decide)
  have hincludes : ∀ s ∈ t.includeLines, Nested s.toList := by
    refine List.forall_mem_map.2 fun file hfile => ?_
    simp only [String.toList_append]
    exact ((Text.Unbracketed.append (by decide) (ht file (by simp [texts, hfile]))).append
      (by decide)).nested
  have hname : Nested t.namespaceName.toList := (ht t.namespaceName (by simp [texts])).nested
  have hlines := nested_ended (List.forall_mem_cons.2 ⟨hpragma, hincludes⟩)
  simp only [String.toList_append]
  exact ((hlines.append (Text.Unbracketed.nested (by decide))).append hname).append
    (Text.Unbracketed.nested (by decide))

theorem Unbracketed.nested_render : Nested (t.render l).toList := by
  have hrender : (t.render l).toList =
      (ended ("#pragma once" :: t.includeLines) ++ "namespace " ++ t.namespaceName ++ " ").toList ++
        '\x7b' :: ('\n' :: ((ended (t.baseLines l)).toList ++
          '\x7b' :: ('\n' :: (ended ("public:" :: t.destructorLine :: t.stubLines l)).toList ++
            '\x7d' :: [';', '\n'])) ++
          '\x7d' :: ['\n']) := by
    simp [render_eq_ended, headerLines, scopeLine]
  have hclass := Nested.pair '\x7b' '\x7d' _ [';', '\n'] (by decide)
    (.plain '\n' _ (by decide) (ht.nested_members hl)) (Text.Unbracketed.nested (by decide))
  have hscope := Nested.pair '\x7b' '\x7d' _ ['\n'] (by decide)
    (.plain '\n' _ (by decide) ((ht.nested_baseLines hl).append hclass))
    (Text.Unbracketed.nested (by decide))
  rw [hrender]
  exact ht.nested_upper.append hscope

/-- Without brackets of its own a template nests all brackets of a header of identifiers, and what
is open where a base or stub starts is open wherever a line ends in it. -/
theorem render_nested : Nested (t.render l).toList ∧
    ∀ before line after, t.headerLines l = before ++ line :: after →
      line ∈ (t.baseLines l).tail ∨ line ∈ t.stubLines l →
        t.render l = ended before ++ (line ++ "\n") ++ ended after ∧
          ∃ pending, nesting [] (ended before).toList = some pending ∧
            ∀ u v, line ++ "\n" = u ++ "\n" ++ v →
              nesting [] (ended before ++ u).toList = some pending := by
  have hnested := ht.nested_render hl
  refine ⟨hnested, fun before line after hlines hline => ?_⟩
  have hrender : t.render l = ended before ++ (line ++ "\n") ++ ended after := by
    rw [render_eq_ended, hlines, ended_append, ended_cons]
    simp only [String.append_assoc]
  have hlevel : Level line := hline.elim (ht.level_bases hl line) (ht.level_stubLines hl line)
  have hwhole := hnested.nesting_eq []
  rw [hrender, String.toList_append, nesting_append, String.toList_append, nesting_append] at hwhole
  obtain ⟨mid, hmid, -⟩ := Option.bind_eq_some_iff.1 hwhole
  obtain ⟨pending, hpending, -⟩ := Option.bind_eq_some_iff.1 hmid
  refine ⟨hrender, pending, hpending, fun u v huv => ?_⟩
  rw [String.toList_append, nesting_append, hpending, Option.bind_some, (hlevel u v huv).nesting_eq]

end

def wrapped : Template :=
  { conventional with visitorInterface := "Visitor\nOf", visitMethod := "\nvisit" }

theorem render_nested_wrapped :
    wrapped.Unbracketed ∧ (NodeList.parse "A\n::ast::B").suspicious = [] ∧
      Nested (wrapped.render (.parse "A\n::ast::B")).toList ∧
      ∃ before after,
        wrapped.headerLines (.parse "A\n::ast::B") = before ++ "public Visitor\nOf<A>," :: after ∧
          ∃ pending, nesting [] (ended before).toList = some pending ∧
            nesting [] (ended before ++ "public Visitor").toList = some pending := by
  have ht : wrapped.Unbracketed := by decide
  have hl : (NodeList.parse "A\n::ast::B").suspicious = [] := by decide
  obtain ⟨hnested, hlines⟩ := render_nested ht hl
  have hsplit : wrapped.headerLines (.parse "A\n::ast::B") =
      (wrapped.headerLines (.parse "A\n::ast::B")).take 5 ++ "public Visitor\nOf<A>," ::
        (wrapped.headerLines (.parse "A\n::ast::B")).drop 6 := by decide
  obtain ⟨-, pending, hpending, hends⟩ := hlines _ _ _ hsplit (.inl (by decide))
  have hopen := hends "public Visitor" "Of<A>,\n" (by decide)
  exact ⟨ht, hl, hnested, _, _, hsplit, pending, hpending, hopen⟩

end Template

end VisitorHeader
