import Mathlib.Data.List.DropRight
import VisitorHeader.Text.Blank

namespace VisitorHeader.Text

def lines (text : String) : List String := (text.toList.splitOn '\n').map .ofList

def OneLine (s : String) : Prop := '\n' ∉ s.toList

instance (s : String) : Decidable (OneLine s) := inferInstanceAs (Decidable (_ ∉ _))

theorem OneLine.append {s s' : String} (h : OneLine s) (h' : OneLine s') : OneLine (s ++ s') := by
  rw [OneLine, String.toList_append, List.mem_append, not_or]
  exact ⟨h, h'⟩

def ended (ls : List String) : String := String.join (ls.map (· ++ "\n"))

@[simp] theorem ended_nil : ended [] = "" := String.join_nil

@[simp] theorem ended_cons (s : String) (ls : List String) :
    ended (s :: ls) = s ++ "\n" ++ ended ls := String.join_cons

@[simp] theorem ended_append (ls ls' : List String) :
    ended (ls ++ ls') = ended ls ++ ended ls' := by
  simp [ended]

theorem lines_ended {ls : List String} (h : ∀ s ∈ ls, OneLine s) :
    lines (ended ls) = ls ++ [""] := by
  induction ls with
  | nil => rfl
  | cons s ls ih =>
      have hs : OneLine s := h s (by simp)
      have hl := ih fun s' hs' => h s' (by simp [hs'])
      have hsplit : (ended (s :: ls)).toList.splitOn '\n' =
          s.toList :: (ended ls).toList.splitOn '\n' := by
        simp only [ended_cons, String.toList_append, List.append_assoc]
        exact List.splitOn_append_cons_self_of_not_mem hs _
      rw [lines, hsplit, List.map_cons, String.ofList_toList, List.cons_append, ← hl]
      rfl

theorem ended_injective {ls ls' : List String} (h : ∀ s ∈ ls, OneLine s)
    (h' : ∀ s ∈ ls', OneLine s) (he : ended ls = ended ls') : ls = ls' := by
  have hl : ls ++ [""] = ls' ++ [""] := by rw [← lines_ended h, ← lines_ended h', he]
  exact List.append_cancel_right hl

theorem ended_eq_intercalate {ls : List String} (h : ls ≠ []) :
    ended ls = "\n".intercalate ls ++ "\n" := by
  induction ls with
  | nil => exact absurd rfl h
  | cons s ls ih =>
      cases ls with
      | nil => simp
      | cons s' ls =>
          rw [ended_cons, ih (by simp), String.intercalate_cons_cons]
          simp only [String.append_assoc]

theorem intercalate_append (separator : String) {ls : List String} (h : ls ≠ [])
    (ls' : List String) :
    separator.intercalate (ls ++ ls') =
      separator.intercalate ls ++ String.join (ls'.map (separator ++ ·)) := by
  induction ls' generalizing ls with
  | nil => rw [List.append_nil, List.map_nil, String.join_nil, String.append_empty]
  | cons s ls' ih =>
      rw [← List.singleton_append, ← List.append_assoc, ih (by simp),
        String.intercalate_append_of_ne_nil h (by simp), String.intercalate_singleton,
        List.singleton_append, List.map_cons, String.join_cons]
      simp only [String.append_assoc]

def commaEnded : List String → List String
  | [] => []
  | [s] => [s]
  | s :: s' :: ls => (s ++ ",") :: commaEnded (s' :: ls)

theorem ended_commaEnded (s : String) (ls : List String) :
    ended (commaEnded (s :: ls)) = ",\n".intercalate (s :: ls) ++ "\n" := by
  induction ls generalizing s with
  | nil => simp [commaEnded]
  | cons s' ls ih =>
      rw [commaEnded, ended_cons, ih, String.intercalate_cons_cons]
      simp only [String.append_assoc]
      rfl

theorem commaEnded_cons (s : String) (ls : List String) :
    commaEnded (s :: ls) = (s ++ if ls = [] then "" else ",") :: commaEnded ls := by
  cases ls <;> simp [commaEnded]

theorem commaEnded_injective {ls ls' : List String} (h : commaEnded ls = commaEnded ls') :
    ls = ls' := by
  induction ls generalizing ls' with
  | nil =>
      cases ls' with
      | nil => rfl
      | cons s' ls' => simp [commaEnded, commaEnded_cons] at h
  | cons s ls ih =>
      cases ls' with
      | nil => simp [commaEnded, commaEnded_cons] at h
      | cons s' ls' =>
          rw [commaEnded_cons, commaEnded_cons, List.cons.injEq] at h
          obtain ⟨hs, hl⟩ := h
          obtain rfl := ih hl
          rw [String.append_left_inj] at hs
          rw [hs]

theorem exists_of_mem_commaEnded {x : String} {ls : List String} (h : x ∈ commaEnded ls) :
    ∃ s ∈ ls, ∃ comma ∈ ["", ","], x = s ++ comma := by
  induction ls with
  | nil => exact absurd h List.not_mem_nil
  | cons s ls ih =>
      rw [commaEnded_cons] at h
      rcases List.mem_cons.1 h with rfl | h
      · exact ⟨s, by simp, _, by split <;> decide, rfl⟩
      · obtain ⟨s', hs', comma, hcomma, rfl⟩ := ih h
        exact ⟨s', by simp [hs'], comma, hcomma, rfl⟩

theorem oneLine_commaEnded {ls : List String} (h : ∀ s ∈ ls, OneLine s) :
    ∀ s ∈ commaEnded ls, OneLine s := by
  have commas : ∀ comma ∈ ["", ","], OneLine comma := by decide
  intro x hx
  obtain ⟨s, hs, comma, hcomma, rfl⟩ := exists_of_mem_commaEnded hx
  exact (h s hs).append (commas comma hcomma)

def startsWith (start s : String) : Bool := start.toList.isPrefixOf s.toList

def endsWith (end_ s : String) : Bool := end_.toList.isSuffixOf s.toList

/-- What stands between an opening and a closing in a line that has both. -/
def inside? (opening closing line : String) : Option String :=
  if startsWith opening line && endsWith closing line then
    some (.ofList ((line.toList.drop opening.length).rdrop closing.length))
  else none

theorem startsWith_append_self (start s : String) : startsWith start (start ++ s) := by
  simp [startsWith]

theorem startsWith_append {start s : String} (h : startsWith start s) (s' : String) :
    startsWith start (s ++ s') := by
  rw [startsWith, List.isPrefixOf_iff_prefix] at h ⊢
  rw [String.toList_append]
  exact h.trans (List.prefix_append _ _)

theorem startsWith_trans {start s s' : String} (h : startsWith start s) (h' : startsWith s s') :
    startsWith start s' := by
  rw [startsWith, List.isPrefixOf_iff_prefix] at h h' ⊢
  exact h.trans h'

def Apart (start start' : String) : Prop :=
  startsWith start start' = false ∧ startsWith start' start = false

instance (start start' : String) : Decidable (Apart start start') :=
  inferInstanceAs (Decidable (_ ∧ _))

theorem startsWith_eq_false {start start' s : String} (h : startsWith start' s)
    (ha : Apart start start') : startsWith start s = false := by
  obtain ⟨hd, hd'⟩ := ha
  rw [Bool.eq_false_iff, ne_eq, startsWith, List.isPrefixOf_iff_prefix] at hd hd' ⊢
  rw [startsWith, List.isPrefixOf_iff_prefix] at h
  intro hp
  rcases List.prefix_or_prefix_of_prefix hp h with hs | hs
  · exact hd hs
  · exact hd' hs

theorem filter_startsWith_eq_nil {start : String} {ls : List String}
    (h : ∀ s ∈ ls, startsWith start s = false) : ls.filter (startsWith start) = [] :=
  List.filter_eq_nil_iff.2 fun s hs => by simp [h s hs]

theorem filterMap_inside? {start opening : String} (h : startsWith start opening)
    (closing : String) (ls : List String) :
    (ls.filter (startsWith start)).filterMap (inside? opening closing) =
      ls.filterMap (inside? opening closing) := by
  rw [List.filterMap_filter]
  congr 1
  funext s
  split
  next => rfl
  next hs =>
    have ho : startsWith opening s = false := by
      rw [Bool.eq_false_iff]
      exact fun ho => hs (startsWith_trans h ho)
    simp [inside?, ho]

theorem inside?_append (opening s closing : String) :
    inside? opening closing (opening ++ s ++ closing) = some s := by
  have ho : startsWith opening (opening ++ s ++ closing) := by
    rw [String.append_assoc]
    exact startsWith_append_self opening _
  have hc : endsWith closing (opening ++ s ++ closing) := by
    rw [endsWith, List.isSuffixOf_iff_suffix, String.toList_append]
    exact List.suffix_append _ _
  simp [inside?, ho, hc, String.length, List.rdrop]

theorem filter_commaEnded {start : String} {ls : List String} (h : ∀ s ∈ ls, startsWith start s) :
    (commaEnded ls).filter (startsWith start) = commaEnded ls := by
  induction ls with
  | nil => rfl
  | cons s ls ih =>
      rw [commaEnded_cons, List.filter_cons_of_pos (startsWith_append (h s (by simp)) _),
        ih fun s' hs' => h s' (by simp [hs'])]

end VisitorHeader.Text
