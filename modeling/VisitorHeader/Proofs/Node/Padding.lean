import VisitorHeader.Generator.Run
import VisitorHeader.Proofs.Text.Trim

namespace VisitorHeader

open Text

namespace Text

theorem trim_append_append {u v : String} (hu : Blank u.toList) (hv : Blank v.toList) (s : String) :
    trim (u ++ s ++ v) = trim s := by
  rw [trim, String.toList_append, trimChars_append_right hv, String.toList_append,
    trimChars_append_left hu, trim]

theorem trim_eq_empty_iff (s : String) : trim s = "" ↔ Blank s.toList := by
  rw [← trimChars_eq_nil_iff, trim, ← String.toList_inj, String.toList_ofList, String.toList_empty]

end Text

namespace NodeName

variable {s : String} {n : NodeName}

theorem ofLine?_congr {s' : String} (h : trim s = trim s') : ofLine? s = ofLine? s' := by
  simp only [ofLine?, h]

theorem ofLine?_eq_none_iff (s : String) : ofLine? s = none ↔ Blank s.toList := by
  rw [← trim_eq_empty_iff]
  by_cases h : trim s = "" <;> simp [ofLine?, h]

theorem ofLine?_eq_some_iff (s : String) (n : NodeName) :
    ofLine? s = some n ↔
      ∃ u v : String, Blank u.toList ∧ Blank v.toList ∧ s = u ++ n.text ++ v := by
  constructor
  · intro h
    obtain ⟨u, v, hu, hv, hs⟩ := exists_padding s.toList
    refine ⟨.ofList u, .ofList v, ?_, ?_, ?_⟩
    · rwa [String.toList_ofList]
    · rwa [String.toList_ofList]
    · rw [text_eq_trim_of_ofLine? h, ← String.toList_inj, hs]
      simp [trim]
  · rintro ⟨u, v, hu, hv, rfl⟩
    rw [ofLine?_congr (trim_append_append hu hv n.text), ofLine?_text]

structure Kept (n : NodeName) : Prop where
  ne_empty : n.text ≠ ""
  unpadded : Unpadded n.text.toList
  again : ofLine? n.text = some n

theorem kept_of_ofLine? (h : ofLine? s = some n) : n.Kept where
  ne_empty he := by
    rw [text_eq_trim_of_ofLine? h, trim_eq_empty_iff, ← ofLine?_eq_none_iff, h] at he
    cases he
  unpadded := by
    rw [text_eq_trim_of_ofLine? h, trim, String.toList_ofList]
    exact unpadded_trimChars s.toList
  again := ofLine?_text n

end NodeName

namespace NodeList

inductive Built : NodeList → Prop
  | parsed (source : String) : Built (parse source)
  | loaded (files : FileTree) (path : String) (l) (h : (load files path).result = .ok l) : Built l
  | collected (ls : List String) : Built (ofLines ls)

theorem exists_parse_of_load {files : FileTree} {path : String} {l : NodeList}
    (h : (load files path).result = .ok l) : ∃ source, l = parse source := by
  rw [load] at h
  split at h
  next => cases h
  next source _ => exact ⟨source, (Except.ok.inj h).symm⟩

theorem exists_line_of_built {l : NodeList} (h : Built l) {n : NodeName} (hn : n ∈ l.names) :
    ∃ line, NodeName.ofLine? line = some n := by
  have collected {ls : List String} (hn : n ∈ ls.filterMap NodeName.ofLine?) :
      ∃ line, NodeName.ofLine? line = some n :=
    (List.mem_filterMap.mp hn).imp fun _ h => h.2
  cases h with
  | parsed source => exact collected hn
  | loaded files path _ hload =>
      obtain ⟨source, rfl⟩ := exists_parse_of_load hload
      exact collected hn
  | collected ls => exact collected hn

end NodeList

/-- A line names what is left of it without the blanks around it, and nothing if it is blank; what
is left is never empty and never padded, and names itself. -/
theorem NodeName.normal_form_of_line :
    (∀ s u v : String, Blank u.toList → Blank v.toList → ofLine? (u ++ s ++ v) = ofLine? s) ∧
      (∀ s : String, ofLine? s = none ↔ Blank s.toList) ∧
      (∀ (s : String) (n : NodeName), ofLine? s = some n ↔
        ∃ u v : String, Blank u.toList ∧ Blank v.toList ∧ s = u ++ n.text ++ v) ∧
      (∀ (s : String) (n : NodeName), ofLine? s = some n → n.Kept) ∧
      ∀ l : NodeList, l.Built → ∀ n ∈ l.names, n.Kept := by
  refine ⟨fun s u v hu hv => ?_, ofLine?_eq_none_iff, ofLine?_eq_some_iff,
    fun s n => kept_of_ofLine?, fun l hl n hn => ?_⟩
  · exact ofLine?_congr (trim_append_append hu hv s)
  · obtain ⟨line, hline⟩ := NodeList.exists_line_of_built hl hn
    exact kept_of_ofLine? hline

/-- Line ends and blanks beyond ASCII, around a text that holds both. -/
theorem NodeName.normal_form_of_line_lineSeparators :
    ∃ n : NodeName, ofLine? ("\u2029\r\n" ++ "A\n\u00a0B" ++ "\x0b\u3000") = some n ∧
      n.text = "A\n\u00a0B" ∧ n.Kept ∧ ofLine? "\u0085\u2009" = none := by
  obtain ⟨padding, blank, -, kept, -⟩ := normal_form_of_line
  have blanks (u : String) (h : trimChars u.toList = []) : Blank u.toList :=
    (trimChars_eq_nil_iff _).1 h
  have hpadding := padding "A\n\u00a0B" "\u2029\r\n" "\x0b\u3000" (blanks _ (by decide))
    (blanks _ (by decide))
  have hn : ofLine? "A\n\u00a0B" = some ⟨"A\n\u00a0B", by decide, by decide⟩ := by decide
  exact ⟨_, hpadding.trans hn, rfl, kept _ _ hn, (blank _).mpr (blanks _ (by decide))⟩

end VisitorHeader
