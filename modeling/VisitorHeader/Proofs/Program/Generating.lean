import VisitorHeader.Proofs.Log.Warnings

namespace VisitorHeader.Program

open CommandLine Settings

variable {w : Walk} {files : FileTree} {args : List String} {o : Options} {config : Config}
  (filter : Log.Filter)

theorem files_run (w : Walk) (patterns : Log.Patterns) (files : FileTree) (args : List String)
    (logSpec : Option String) :
    (run w patterns files args logSpec).files =
      (answer w (Log.Filter.parse patterns (logSpec.getD defaultFilter)).1 args files).files := by
  unfold run
  obtain ⟨filter, errors⟩ := Log.Filter.parse patterns (logSpec.getD defaultFilter)
  rfl

/-- Where nothing is said of what to log, warnings are told. -/
theorem run_none (w : Walk) (patterns : Log.Patterns) (files : FileTree) (args : List String) :
    run w patterns files args none = answer w .warnings args files := by
  have hspec : Log.Filter.parse patterns ((none : Option String).getD defaultFilter) =
      (.warnings, []) := Log.Filter.parse_defaultFilter patterns
  have hjoin : String.join (([] : List Log.SpecError).map Log.SpecError.warning) = "" := rfl
  rw [run, hspec]
  simp only [hjoin, String.empty_append]

theorem answer_of_generate (hargs : CommandLine.parse args = .ok (.generate o)) (w : Walk)
    (files : FileTree) : answer w filter args files = generate w filter o files := by
  rw [answer, hargs]

theorem generate_of_error {failure : Failure} (h : (loader o).build w files = .error failure) :
    generate w filter o files = refuse files failure := by
  rw [generate, h]
  rfl

theorem generate_of_printed (h : (loader o).build w files = .ok config) (hout : o.stdout = true) :
    generate w filter o files = print filter (.ofConfig config) files := by
  rw [generate, h]
  exact if_pos hout

theorem generate_of_written (h : (loader o).build w files = .ok config) (hout : o.stdout = false) :
    generate w filter o files = write filter (.ofConfig config) files := by
  rw [generate, h]
  exact if_neg (by simp [hout])

theorem files_refuse (files : FileTree) (failure : Failure) :
    (refuse files failure).files = files := by
  cases failure <;> rfl

theorem files_print (g : Generator) : (print filter g files).files = files := by
  rw [print]
  split <;> rfl

theorem files_write (g : Generator) : (write filter g files).files = (g.run files).2 := by
  rw [write]
  obtain ⟨report, files'⟩ := g.run files
  dsimp only
  split <;> rfl

end VisitorHeader.Program
