import VisitorHeader.Program

namespace VisitorHeader.Log.Filter

variable (f : Filter) (rs ss : List Record)

theorem lines_append : f.lines (rs ++ ss) = f.lines rs ++ f.lines ss := by
  rw [lines, lines, lines, List.filter_append, List.map_append, String.join_append]

theorem lines_concat_of_untold {f : Filter} {r : Record} (h : f.tells r = false) :
    f.lines (rs ++ [r]) = f.lines rs := by
  have hr : f.lines [r] = "" := by
    rw [lines, List.filter_cons_of_neg (by simp [h])]
    rfl
  rw [lines_append, hr, String.append_empty]

def warnings : Filter := ⟨[⟨none, some .warn⟩], none⟩

theorem parse_defaultFilter (patterns : Patterns) :
    parse patterns Program.defaultFilter = (warnings, []) := rfl

theorem tells_warnings (r : Record) :
    warnings.tells r = decide (r.level = .warn ∨ r.level = .error) := by
  obtain ⟨level, target, message⟩ := r
  cases level <;> rfl

theorem lines_warnings {rs : List Record} (h : ∀ r ∈ rs, r.level ≠ .error) :
    warnings.lines rs = String.join ((rs.filter (·.level = .warn)).map Record.line) := by
  have hfilter : rs.filter warnings.tells = rs.filter (·.level = .warn) := by
    apply List.filter_congr
    intro r hr
    rw [tells_warnings]
    simp [h r hr]
  rw [lines, hfilter]

end VisitorHeader.Log.Filter

namespace VisitorHeader

namespace Terminal

def Shown (s : String) : Prop := ∀ c ∈ s.toList, shows .ground c

instance (s : String) : Decidable (Shown s) := List.decidableBAll _ s.toList

theorem Shown.append {s t : String} (hs : Shown s) (ht : Shown t) : Shown (s ++ t) := by
  intro c hc
  rw [String.toList_append] at hc
  rcases List.mem_append.mp hc with hc | hc
  · exact hs c hc
  · exact ht c hc

theorem plain_of_shown {s : String} (h : Shown s) : plain s = s := by
  rw [plain, plainFrom_of_shows h, String.ofList_toList]

end Terminal

theorem Log.Record.shown_indented {message : String} (h : Terminal.Shown message) :
    Terminal.Shown (indented message) := by
  intro c hc
  rw [indented, String.toList_ofList] at hc
  obtain ⟨d, hd, hc⟩ := List.mem_flatMap.mp hc
  split at hc
  · rcases List.mem_cons.mp hc with rfl | hblank
    · rfl
    · obtain rfl := List.eq_of_mem_replicate hblank
      rfl
  · obtain rfl := List.mem_singleton.mp hc
    exact h c hd

end VisitorHeader
