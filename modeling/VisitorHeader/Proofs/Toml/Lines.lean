import Mathlib.Algebra.BigOperators.Group.List.Basic
import VisitorHeader.Proofs.Toml.Writing

namespace VisitorHeader.Toml

inductive Datum where
  | text (s : String)
  | texts (ss : List String)

def Datum.value : Datum → Value
  | text s => .string s
  | texts ss => .array (ss.map .string)

inductive Line where
  | header (name : String)
  | pair (name : String) (d : Datum)

def Line.name : Line → String
  | header name | pair name _ => name

def Line.statement : Line → Statement
  | header name => .header ⟨[], name⟩
  | pair name d => .pair ⟨[], name⟩ d.value

namespace Spelling

def datum (w : Spelling) : Datum → List Char
  | .text s => w.quoted s
  | .texts ss => '[' :: (w.items ss ++ [']'])

def line (w : Spelling) : Line → List Char
  | .header name => '[' :: (name.toList ++ [']', '\n'])
  | .pair name d => name.toList ++ ' ' :: '=' :: ' ' :: (w.datum d ++ ['\n'])

def document (w : Spelling) (lines : List Line) : String := .ofList (lines.flatMap w.line)

theorem value?_datum (w : Spelling) (depth : Nat) (d : Datum) {rest : List Char}
    (hrest : rest.head? ≠ some quote) :
    value? (depth + 1) (w.datum d ++ rest) = some (d.value, rest) := by
  cases d with
  | text s => exact w.value?_quoted (depth + 1) s hrest
  | texts ss =>
      have hbound : ss.length < (w.items ss ++ ']' :: rest).length + 1 := by
        have := w.length_le_items ss
        simp only [List.length_append, List.length_cons]
        omega
      rw [datum, List.cons_append, List.append_assoc, List.singleton_append, value?,
        w.elements_items depth hbound (w.skipTrivia_items ss rest)]
      rfl

end Spelling

def isBareName (name : String) : Bool := !name.isEmpty && name.toList.all isBareKey

theorem ne_of_isBareKey {c d : Char} (hc : isBareKey c) (hd : ¬ isBareKey d) : c ≠ d := by
  rintro rfl
  exact hd hc

theorem skipSpace_of_isBareKey {c : Char} (h : isBareKey c) (cs : List Char) :
    skipSpace (c :: cs) = c :: cs := by
  have hspace : c ≠ ' ' := ne_of_isBareKey h (by decide)
  have htab : c ≠ '\t' := ne_of_isBareKey h (by decide)
  apply List.dropWhile_cons_of_neg
  simp [isSpace, hspace, htab]

section Bare

variable {name : String} {rest : List Char}

theorem all_of_isBareName (h : isBareName name) : ∀ c ∈ name.toList, isBareKey c := by
  rw [isBareName, Bool.and_eq_true, List.all_eq_true] at h
  exact h.2

theorem exists_of_isBareName (h : isBareName name) :
    ∃ c cs, name.toList = c :: cs ∧ isBareKey c := by
  cases hname : name.toList with
  | nil => simp [isBareName, ← String.toList_eq_nil_iff, hname] at h
  | cons c cs => exact ⟨c, cs, rfl, all_of_isBareName h c (by simp [hname])⟩

theorem simpleKey?_bare (h : isBareName name) (hrest : ∀ c ∈ rest.head?, ¬ isBareKey c) :
    simpleKey? (name.toList ++ rest) = some (name, rest) := by
  obtain ⟨c, cs, hname, hc⟩ := exists_of_isBareName h
  have hend : rest.takeWhile isBareKey = [] ∧ rest.dropWhile isBareKey = rest := by
    cases rest with
    | nil => exact ⟨rfl, rfl⟩
    | cons d ds => simp [hrest d rfl]
  have hbare : bareKey? (name.toList ++ rest) = some (name, rest) := by
    rw [bareKey?, List.takeWhile_append_of_pos (all_of_isBareName h),
      List.dropWhile_append_of_pos (all_of_isBareName h), hend.1, hend.2, List.append_nil,
      String.ofList_toList, hname]
    rfl
  rw [← hbare, hname, List.cons_append, simpleKey?]
  all_goals
    intro r hr
    exact ne_of_isBareKey hc (by decide) (List.cons.inj hr).1

theorem dottedKey?_bare (h : isBareName name) (hrest : ∀ c ∈ rest.head?, ¬ isBareKey c)
    (hdot : (skipSpace rest).head? ≠ some '.') (parts : Nat) :
    dottedKey? (parts + 1) (name.toList ++ rest) = some (⟨[], name⟩, skipSpace rest) := by
  have hblank : skipSpace (name.toList ++ rest) = name.toList ++ rest := by
    obtain ⟨c, cs, hname, hc⟩ := exists_of_isBareName h
    rw [hname]
    exact skipSpace_of_isBareKey hc (cs ++ rest)
  rw [dottedKey?, hblank, simpleKey?_bare h hrest]
  simp only [bind, Option.bind]
  split
  next hr => exact absurd (by rw [hr]; rfl) hdot
  next => rfl

end Bare

theorem statement?_header {cs r : List Char} {key : DottedKey} (hcs : cs.head? ≠ some '[')
    (h : dottedKey? depthLimit cs = some (key, ']' :: r)) :
    statement? ('[' :: cs) = some (.header key, r) := by
  unfold statement?
  split
  next hr => exact absurd (by rw [(List.cons.inj hr).2]; rfl) hcs
  next hr =>
    rw [← (List.cons.inj hr).2, h]
    rfl
  next hno => exact absurd rfl (hno cs)

theorem statement?_pair {cs r : List Char} {key : DottedKey} {v : Value}
    (hcs : cs.head? ≠ some '[') (h : pair (value? depthLimit) cs = some ((key, v), r)) :
    statement? cs = some (.pair key v, r) := by
  unfold statement?
  split
  next => exact absurd rfl hcs
  next => exact absurd rfl hcs
  next =>
    rw [h]
    rfl

namespace Spelling

variable (w : Spelling)

theorem pair_line {name : String} (h : isBareName name) (d : Datum) (rest : List Char) :
    pair (value? depthLimit) (w.line (.pair name d) ++ rest) =
      some ((⟨[], name⟩, d.value), '\n' :: rest) := by
  have hline : w.line (.pair name d) ++ rest =
      name.toList ++ ' ' :: '=' :: ' ' :: (w.datum d ++ '\n' :: rest) := by
    simp [line]
  have hblank : skipSpace (' ' :: (w.datum d ++ '\n' :: rest)) = w.datum d ++ '\n' :: rest := by
    cases d <;> rfl
  have hkey : dottedKey? depthLimit (w.line (.pair name d) ++ rest) =
      some (⟨[], name⟩, '=' :: ' ' :: (w.datum d ++ '\n' :: rest)) := by
    rw [hline]
    exact dottedKey?_bare h (by rintro c ⟨⟩; decide) (by simp [skipSpace, isSpace]) _
  have hvalue : value? depthLimit (w.datum d ++ '\n' :: rest) = some (d.value, '\n' :: rest) :=
    w.value?_datum _ d (by simp [quote])
  simp only [pair, hkey, hblank, hvalue, bind, Option.bind]
  rfl

theorem statement?_line {l : Line} (h : isBareName l.name) (rest : List Char) :
    statement? (w.line l ++ rest) = some (l.statement, '\n' :: rest) := by
  obtain ⟨c, cs, hname, hc⟩ := exists_of_isBareName h
  have hbracket : c ≠ '[' := ne_of_isBareKey hc (by decide)
  cases l with
  | header name =>
      have hkey : dottedKey? depthLimit (name.toList ++ ']' :: '\n' :: rest) =
          some (⟨[], name⟩, ']' :: '\n' :: rest) :=
        dottedKey?_bare h (by rintro c ⟨⟩; decide) (by simp [skipSpace, isSpace]) _
      have hhead : (name.toList ++ ']' :: '\n' :: rest).head? ≠ some '[' := by
        rw [show name.toList = c :: cs from hname]
        simpa using hbracket
      rw [line, List.cons_append, List.append_assoc]
      exact statement?_header hhead hkey
  | pair name d =>
      refine statement?_pair ?_ (w.pair_line h d rest)
      rw [line, show name.toList = c :: cs from hname]
      simpa using hbracket

theorem exists_line_cons {l : Line} (h : isBareName l.name) :
    ∃ c cs, w.line l = c :: cs ∧ (c = '[' ∨ isBareKey c) := by
  cases l with
  | header name => exact ⟨'[', _, rfl, .inl rfl⟩
  | pair name d =>
      obtain ⟨c, cs, hname, hc⟩ := exists_of_isBareName h
      exact ⟨c, _, congrArg (· ++ _) hname, .inr hc⟩

theorem statements_cons {c : Char} {cs rest : List Char} {s : Statement}
    (hc : c = '[' ∨ isBareKey c) (h : statement? (c :: cs) = some (s, '\n' :: rest)) (bound : Nat) :
    statements (bound + 1) (c :: cs) = (statements bound rest).map (s :: ·) := by
  have hblank : skipSpace (c :: cs) = c :: cs := by
    rcases hc with rfl | hc
    · rfl
    · exact skipSpace_of_isBareKey hc cs
  have hother : (c == '#' || c == '\n' || c == '\r') = false := by
    rcases hc with rfl | hc
    · rfl
    · have hcomment : c ≠ '#' := ne_of_isBareKey hc (by decide)
      have hnewline : c ≠ '\n' := ne_of_isBareKey hc (by decide)
      have hreturn : c ≠ '\r' := ne_of_isBareKey hc (by decide)
      simp [hcomment, hnewline, hreturn]
  have hend : lineEnd? ('\n' :: rest) = some rest := rfl
  simp only [statements, hblank, hother, h, hend, bind, Option.bind, Bool.false_eq_true, if_false]
  cases statements bound rest <;> rfl

theorem statements_lines {ls : List Line} (h : ∀ l ∈ ls, isBareName l.name) {bound : Nat}
    (hbound : ls.length ≤ bound) :
    statements bound (ls.flatMap w.line) = some (ls.map Line.statement) := by
  induction ls generalizing bound with
  | nil => cases bound <;> rfl
  | cons l ls ih =>
      obtain ⟨bound, rfl⟩ := Nat.exists_eq_add_one.mpr (Nat.zero_lt_of_lt hbound)
      have hl := h l (by simp)
      have hstatement := w.statement?_line hl (ls.flatMap w.line)
      obtain ⟨c, cs, hline, hc⟩ := w.exists_line_cons hl
      rw [hline, List.cons_append] at hstatement
      rw [List.flatMap_cons, hline, List.cons_append, statements_cons hc hstatement,
        ih (fun l' hl' => h l' (by simp [hl'])) (Nat.le_of_succ_le_succ hbound)]
      rfl

theorem length_le_flatMap_line {ls : List Line} (h : ∀ l ∈ ls, isBareName l.name) :
    ls.length ≤ (ls.flatMap w.line).length := by
  have hone : ∀ n ∈ ls.map fun l => (w.line l).length, 1 ≤ n := by
    intro n hn
    obtain ⟨l, hl, rfl⟩ := List.mem_map.mp hn
    obtain ⟨c, cs, hline, -⟩ := w.exists_line_cons (h l hl)
    simp [hline]
  simpa [List.length_flatMap] using List.length_le_sum_of_one_le _ hone

theorem skipByteOrderMark_lines {ls : List Line} (h : ∀ l ∈ ls, isBareName l.name) :
    skipByteOrderMark (ls.flatMap w.line) = ls.flatMap w.line := by
  cases ls with
  | nil => rfl
  | cons l ls =>
      obtain ⟨c, cs, hline, hc⟩ := w.exists_line_cons (h l (by simp))
      rw [List.flatMap_cons, hline, List.cons_append, skipByteOrderMark]
      intro r hr
      have hmark : c ≠ '\ufeff' := by
        rcases hc with rfl | hc
        · decide
        · exact ne_of_isBareKey hc (by decide)
      exact hmark (List.cons.inj hr).1

/-- A document is read back line by line. -/
theorem parse?_document {ls : List Line} (h : ∀ l ∈ ls, isBareName l.name) :
    parse? (w.document ls) = (assemble? (ls.map Line.statement)).map Table.values := by
  have hbound : ls.length ≤ (ls.flatMap w.line).length + 1 :=
    Nat.le_succ_of_le (w.length_le_flatMap_line h)
  rw [parse?, document, String.toList_ofList, parseChars?]
  simp only [w.skipByteOrderMark_lines h, w.statements_lines h hbound, bind, Option.bind]
  cases assemble? (ls.map Line.statement) <;> rfl

end Spelling

end VisitorHeader.Toml
