import Mathlib.Data.List.DropRight
import VisitorHeader.Text.Blank

namespace VisitorHeader.Text

def Blank (cs : List Char) : Prop := ∀ c ∈ cs, isBlank c

instance (cs : List Char) : Decidable (Blank cs) := inferInstanceAs (Decidable (∀ c ∈ cs, _))

structure Unpadded (cs : List Char) : Prop where
  first : ∀ c ∈ cs.head?, ¬ isBlank c
  last : ∀ c ∈ cs.getLast?, ¬ isBlank c

theorem Blank.of_append_left {u v : List Char} (h : Blank (u ++ v)) : Blank u :=
  fun c hc => h c (List.mem_append_left v hc)

theorem trimEnd_eq_rdropWhile (cs : List Char) : trimEnd cs = cs.rdropWhile isBlank := by
  induction cs with
  | nil => rfl
  | cons c r ih =>
      rw [trimEnd, ih]
      cases h : r.rdropWhile isBlank with
      | nil =>
          have hr : r.reverse.dropWhile isBlank = [] := List.reverse_eq_nil_iff.1 h
          by_cases hc : isBlank c <;> simp [List.rdropWhile, List.dropWhile_append, hc, hr]
      | cons d t =>
          have hne : ¬ ∀ d ∈ r, isBlank d := by
            intro hr
            rw [List.rdropWhile_eq_nil_iff.2 hr] at h
            cases h
          have he : (c :: r).rdropWhile isBlank = c :: r.rdropWhile isBlank := by
            simp [List.rdropWhile, List.dropWhile_append, hne]
          rw [he, h]

theorem trimEnd_append {cs v : List Char} (hv : Blank v) : trimEnd (cs ++ v) = trimEnd cs := by
  have h : ∀ c ∈ v.reverse, isBlank c := fun c hc => hv c (List.mem_reverse.1 hc)
  simp only [trimEnd_eq_rdropWhile, List.rdropWhile, List.reverse_append,
    List.dropWhile_append_of_pos h]

theorem trimChars_append_left {u cs : List Char} (hu : Blank u) :
    trimChars (u ++ cs) = trimChars cs := by
  rw [trimChars, trimChars, List.dropWhile_append_of_pos hu]

theorem trimChars_append_right {cs v : List Char} (hv : Blank v) :
    trimChars (cs ++ v) = trimChars cs := by
  rw [trimChars, trimChars, List.dropWhile_append]
  split
  next h =>
    rw [List.dropWhile_eq_nil_iff.2 hv, List.isEmpty_iff.1 h]
  next h => exact trimEnd_append hv

theorem trimChars_eq_nil_iff (cs : List Char) : trimChars cs = [] ↔ Blank cs := by
  constructor
  · intro h
    rw [trimChars, trimEnd_eq_rdropWhile, List.rdropWhile_eq_nil_iff] at h
    intro c hc
    rw [← List.takeWhile_append_dropWhile (p := isBlank) (l := cs)] at hc
    rcases List.mem_append.1 hc with hc | hc
    · exact List.mem_takeWhile_imp hc
    · exact h c hc
  · intro h
    rw [← List.append_nil cs, trimChars_append_left h]
    rfl

/-- Trimming takes blanks away and nothing else. -/
theorem exists_padding (cs : List Char) :
    ∃ u v, Blank u ∧ Blank v ∧ cs = u ++ trimChars cs ++ v := by
  refine ⟨cs.takeWhile isBlank, (cs.dropWhile isBlank).rtakeWhile isBlank, ?_, ?_, ?_⟩
  · intro c hc
    exact List.mem_takeWhile_imp hc
  · intro c hc
    exact List.mem_rtakeWhile_imp hc
  · rw [trimChars, trimEnd_eq_rdropWhile, List.append_assoc, List.rdropWhile_append_rtakeWhile,
      List.takeWhile_append_dropWhile]

theorem dropWhile_isBlank_eq_self_iff (cs : List Char) :
    cs.dropWhile isBlank = cs ↔ ∀ c ∈ cs.head?, ¬ isBlank c := by
  cases cs <;> simp [List.dropWhile_eq_self_iff]

theorem trimEnd_eq_self_iff (cs : List Char) :
    trimEnd cs = cs ↔ ∀ c ∈ cs.getLast?, ¬ isBlank c := by
  rw [trimEnd_eq_rdropWhile, List.rdropWhile_eq_self_iff]
  cases cs using List.reverseRecOn <;> simp

theorem trimChars_eq_self_iff (cs : List Char) : trimChars cs = cs ↔ Unpadded cs := by
  constructor
  · intro h
    have hd : cs.dropWhile isBlank = cs := by
      rw [← h]
      exact dropWhile_trimEnd (dropWhile_idem cs)
    rw [trimChars, hd] at h
    exact ⟨(dropWhile_isBlank_eq_self_iff cs).1 hd, (trimEnd_eq_self_iff cs).1 h⟩
  · intro h
    rw [trimChars, (dropWhile_isBlank_eq_self_iff cs).2 h.first, (trimEnd_eq_self_iff cs).2 h.last]

theorem unpadded_trimChars (cs : List Char) : Unpadded (trimChars cs) :=
  (trimChars_eq_self_iff _).1 (trimChars_idem cs)

end VisitorHeader.Text
