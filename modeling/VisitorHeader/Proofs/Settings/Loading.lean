import VisitorHeader.Proofs.Settings.Defaults
import VisitorHeader.Proofs.Settings.Overstep

namespace VisitorHeader.Settings.Loader

theorem addLayer_fault_iff (w : Walk) (v : Value) (layer : Except LoadError Layer) :
    (∃ f, addLayer w v layer = .error (.fault f)) ↔
      ∃ entries, layer = .ok entries ∧ v.LayerOversteps (w.entries entries) := by
  cases layer with
  | error e =>
      constructor
      · rintro ⟨f, h⟩
        cases h
      · rintro ⟨entries, h, _⟩
        cases h
  | ok entries =>
      have hv := v.assignAll_eq_error_iff (w.entries entries)
      constructor
      · rintro ⟨f, h⟩
        refine ⟨entries, rfl, hv.mp ⟨f, ?_⟩⟩
        rw [addLayer] at h
        cases ha : v.assignAll (w.entries entries) with
        | ok u =>
            rw [ha] at h
            cases h
        | error f' =>
            rw [ha] at h
            cases h
            rfl
      · rintro ⟨entries', h, ho⟩
        cases h
        obtain ⟨f, hf⟩ := hv.mpr ho
        refine ⟨f, ?_⟩
        rw [addLayer, hf]

variable {l : Loader} {w : Walk} {files : FileTree}

theorem forall_mem_order (w : Walk) {p : Key × Value → Prop} (h : ∀ o ∈ l.overrides, p o) :
    ∀ o ∈ w.order l.overrides, p o :=
  fun o ho => h o ((w.perm l.overrides).mem_iff.mp ho)

/-- Single settings whose keys have names alone always find a place. -/
theorem exists_overridden {os : List (Key × Value)} (h : ∀ o ∈ os, ∀ i, Step.element i ∉ o.1.steps)
    (w : Walk) (v : Value) : ∃ u, os.foldlM (addOverride w) v = .ok u := by
  cases hu : os.foldlM (addOverride w) v with
  | ok u => exact ⟨u, rfl⟩
  | error e =>
      -- the first setting to fail would have a key with an index
      obtain ⟨before, o, after, u, hl, _, he⟩ := foldlM_eq_error_iff.mp hu
      have hm : o ∈ os := by
        rw [hl]
        simp
      have ho : ¬ u.Oversteps (.entry o.1.name :: o.1.steps) := by
        apply Value.not_oversteps_of_no_element
        intro i hi
        exact h o hm i (by simpa using hi)
      unfold addOverride at he
      cases ha : u.assignKey o.1 (w.arrange o.2) with
      | ok v =>
          rw [ha] at he
          cases he
      | error f => exact absurd ((Value.assign_eq_error_iff _ _ _).mp ⟨f, ha⟩) ho

theorem layers_eq_foldlM (l : Loader) (w : Walk) (files : FileTree) :
    l.layers w files =
      l.sources.foldlM (fun v s => addLayer w v (s.collect files)) (defaults w) := by
  rw [layers, addLayer_defaultsText]
  rfl

theorem layers_of_sources_nil (h : l.sources = []) : l.layers w files = .ok (defaults w) := by
  rw [layers_eq_foldlM, h]
  rfl

theorem layers_of_sources_concat {l' : Loader} {v : Value} {s : Source}
    (hv : l.layers w files = .ok v) (h : l'.sources = l.sources ++ [s]) :
    l'.layers w files = addLayer w v (s.collect files) := by
  rw [layers_eq_foldlM, h, List.foldlM_append, ← layers_eq_foldlM, hv]
  change (addLayer w v (s.collect files) >>= pure) = _
  exact bind_pure _

theorem layers_of_sources_singleton {s : Source} (h : l.sources = [s]) :
    l.layers w files = addLayer w (defaults w) (s.collect files) :=
  layers_of_sources_concat (layers_of_sources_nil (l := new) rfl) h

theorem build_eq_error {e : Failure} (h : l.layers w files = .error e) :
    l.build w files = .error e := by
  rw [build, merged, h]
  rfl

theorem merged_eq_ok {v u : Value} (hv : l.layers w files = .ok v)
    (hu : (w.order l.overrides).foldlM (addOverride w) v = .ok u) : l.merged w files = .ok u := by
  rw [merged, hv]
  exact hu

theorem build_of_merged {u : Value} (hu : l.merged w files = .ok u) :
    l.build w files = (Config.decode w u).mapError .error := by
  rw [build, hu]
  simp only [bind, Except.bind]
  cases Config.decode w u <;> rfl

theorem build_eq_ok_iff_decode {u : Value} {c : Config} (hu : l.merged w files = .ok u) :
    l.build w files = .ok c ↔ Config.decode w u = .ok c := by
  rw [build_of_merged hu]
  cases Config.decode w u <;> simp [Except.mapError]

theorem build_eq_decode {v u : Value} (hv : l.layers w files = .ok v)
    (hu : (w.order l.overrides).foldlM (addOverride w) v = .ok u) :
    l.build w files = (Config.decode w u).mapError .error :=
  build_of_merged (merged_eq_ok hv hu)

theorem build_fault_iff (h : ∀ o ∈ l.overrides, ∀ i, Step.element i ∉ o.1.steps) :
    (∃ f, l.build w files = .error (.fault f)) ↔ ∃ f, l.layers w files = .error (.fault f) := by
  cases hl : l.layers w files with
  | error e =>
      rw [build_eq_error hl]
      simp only [Except.error.injEq]
  | ok v =>
      obtain ⟨u, hu⟩ := exists_overridden (forall_mem_order w h) w v
      rw [build_eq_decode hl hu]
      constructor
      · rintro ⟨f, hf⟩
        cases hd : Config.decode w u with
        | ok c =>
            rw [hd] at hf
            cases hf
        | error e =>
            rw [hd] at hf
            cases hf
      · rintro ⟨f, hf⟩
        cases hf

end VisitorHeader.Settings.Loader
