import VisitorHeader.Program
import VisitorHeader.Proofs.Settings.Loading

namespace VisitorHeader.Program

open CommandLine Settings

theorem sources_loader (o : Options) :
    (loader o).sources = o.config.toList.map fun path => ⟨path, true⟩ := by
  obtain ⟨input, output, config, stdout⟩ := o
  cases input <;> cases output <;> cases config <;> rfl

theorem overrides_loader (o : Options) :
    (loader o).overrides =
      (o.input.toList.map fun path => (inputKey, .string path)) ++
        o.output.toList.map fun path => (outputKey, .string path) := by
  obtain ⟨input, output, config, stdout⟩ := o
  cases input <;> cases output <;> cases config <;> rfl

theorem layers_loader_of_none {o : Options} (h : o.config = none) (w : Walk) (files : FileTree) :
    (loader o).layers w files = .ok (defaults w) := by
  apply Loader.layers_of_sources_nil
  rw [sources_loader, h]
  rfl

theorem layers_loader_of_some {o : Options} {path : String} (h : o.config = some path)
    (w : Walk) (files : FileTree) : (loader o).layers w files =
      Loader.addLayer w (defaults w) (Source.collect files ⟨path, true⟩) := by
  apply Loader.layers_of_sources_singleton
  rw [sources_loader, h]
  rfl

theorem element_notMem_loader (o : Options) :
    ∀ e ∈ (loader o).overrides, ∀ i, Step.element i ∉ e.1.steps := by
  intro e he i
  rw [overrides_loader, List.mem_append] at he
  rcases he with he | he
  · obtain ⟨path, _, rfl⟩ := List.mem_map.mp he
    simp [inputKey]
  · obtain ⟨path, _, rfl⟩ := List.mem_map.mp he
    simp [outputKey]

/-- Of the settings on a command line only a file of settings can end in a fault. -/
theorem build_loader_fault_iff {w : Walk} {files : FileTree} {o : Options} :
    (∃ f, (loader o).build w files = .error (.fault f)) ↔
      ∃ path entries, o.config = some path ∧ Source.collect files ⟨path, true⟩ = .ok entries ∧
        (defaults w).LayerOversteps (w.entries entries) := by
  rw [Loader.build_fault_iff (element_notMem_loader o)]
  cases hpath : o.config with
  | none =>
      rw [layers_loader_of_none hpath]
      constructor
      · rintro ⟨f, h⟩
        cases h
      · rintro ⟨path, entries, h, _⟩
        cases h
  | some path =>
      rw [layers_loader_of_some hpath, Loader.addLayer_fault_iff]
      constructor
      · rintro ⟨entries, hentries, ho⟩
        exact ⟨path, entries, rfl, hentries, ho⟩
      · rintro ⟨path', entries, h, hentries, ho⟩
        cases h
        exact ⟨entries, hentries, ho⟩

end VisitorHeader.Program
