import VisitorHeader.Proofs.Settings.Precedence

namespace VisitorHeader.Settings.Loader

variable {calls : List Call} {files : FileTree}

def Hold (files : FileTree) (calls : List Call) (layers : List Layer) : Prop :=
  List.Forall₂ (fun s entries => s.collect files = .ok entries)
    (calls.filterMap Call.source?) layers

theorem Hold.winning_eq {layers : List Layer} (h : Hold files calls layers) (f : Field) :
    winning files calls f =
      ((last? (Call.gives f) calls).or (last? (Layer.field? · f) layers)).getD
        (Config.standard.setting none f) := by
  have hlast : last? (Source.gives files f) (calls.filterMap Call.source?) =
      last? (Layer.field? · f) layers := by
    rw [Hold] at h
    generalize calls.filterMap Call.source? = sources at h
    induction h with
    | nil => rfl
    | cons hcollect _ ih => rw [last?_cons, last?_cons, ih, Source.gives_of_collect hcollect]
  rw [winning, hlast]

theorem Hold.definite {layers : List Layer} (h : Hold files calls layers)
    (hdefinite : ∀ entries ∈ layers, Layer.Definite entries) :
    ∀ s ∈ calls.filterMap Call.source?, ∃ entries,
      s.collect files = .ok entries ∧ Layer.Definite entries := by
  rw [Hold] at h
  generalize calls.filterMap Call.source? = sources at h
  induction h with
  | nil => simp
  | cons hcollect _ ih =>
      obtain ⟨hfirst, hrest⟩ := List.forall_mem_cons.mp hdefinite
      exact List.forall_mem_cons.mpr ⟨⟨_, hcollect, hfirst⟩, ih hrest⟩

/-- Calls that give no field an empty table settle what wins among them. -/
theorem replay_definite
    (hoverrides : ∀ key x, .override key x ∈ calls → ∃ f : Field, key = f.path ∧ ¬ x.isEmptyTable)
    (hsources : ∀ s ∈ calls.filterMap Call.source?, ∃ entries,
      s.collect files = .ok entries ∧ Layer.Definite entries) :
    ∃ l, replay calls = .ok l ∧ l.Definite files ∧ l.settled files = winning files calls := by
  obtain ⟨l, hl, hgives, hfields⟩ := replay_of_fields (p := fun _ x => ¬ x.isEmptyTable) hoverrides
  have hls : l.sources = calls.filterMap Call.source? := sources_of_calls hl
  refine ⟨l, hl, ⟨hls ▸ hsources, hfields⟩, ?_⟩
  funext f
  rw [settled, hgives, hls, winning]

/-- Nothing below a winning setting can make up for it: there is a configuration exactly if all of
them can be read, and it is they that it holds. -/
theorem build_winning
    (hoverrides : ∀ key x, .override key x ∈ calls → ∃ f : Field, key = f.path ∧ ¬ x.isEmptyTable)
    (hsources : ∀ s ∈ calls.filterMap Call.source?, ∃ entries,
      s.collect files = .ok entries ∧ Layer.Definite entries) :
    ∃ l, replay calls = .ok l ∧ ∀ w,
      ((∃ c, l.build w files = .ok c) ↔ ∀ f : Field, f.takes (winning files calls f)) ∧
      (∀ c, l.build w files = .ok c ↔
        ∀ f, ∃ origin, f.read? (winning files calls f) = some (c.setting origin f)) ∧
      ∀ f : Field, ¬ f.takes (winning files calls f) →
        ∃ e, l.build w files = .error (.error e) := by
  obtain ⟨l, hl, hdefinite, hsettled⟩ := replay_definite hoverrides hsources
  refine ⟨l, hl, fun w => ?_⟩
  have hiff := exists_build_eq_ok_iff hdefinite w
  have hconfig (c : Config) := build_eq_ok_iff hdefinite w (c := c)
  rw [hsettled] at hiff
  simp only [hsettled] at hconfig
  refine ⟨hiff, hconfig, fun f hf => ?_⟩
  exact (build_cases hdefinite w).resolve_left fun hc => hf (hiff.mp hc f)

def kindFiles : FileTree :=
  .flat [("table.toml", "[class.name]\nx = 1\n"),
    ("scalars.toml", "[class]\nname = 7\n[header]\nincludes = [true, 2, \"x.h\"]\n")]

def tableLayer : Layer :=
  [("class", .table (some "table.toml")
    [("name", .table (some "table.toml") [("x", .integer 1)])])]

def scalarLayer : Layer :=
  [("class", .table (some "scalars.toml") [("name", .integer 7)]),
    ("header", .table (some "scalars.toml")
      [("includes", .array (some "scalars.toml") [.boolean true, .integer 2, .string "x.h"])])]

theorem collect_table : Source.collect kindFiles ⟨"table", true⟩ = .ok tableLayer :=
  Source.collect_of_chars "/w/table.toml" rfl rfl rfl

theorem collect_scalars : Source.collect kindFiles ⟨"scalars", true⟩ = .ok scalarLayer :=
  Source.collect_of_chars "/w/scalars.toml" rfl rfl rfl

def scalarsLast : List Call :=
  [.file "table", .override "paths.input" (.boolean true), .file "scalars"]

def tableLast : List Call := [.file "scalars", .file "table"]

def scalarConfig : Config where
  paths := ⟨"true", "AllNodesVisitor.h"⟩
  header := ⟨["true", "2", "x.h"], "Ryntra::Compiler"⟩
  visitorClass := ⟨"7", "IVisitor", "Visitor", "visit"⟩

theorem hold_scalarsLast : Hold kindFiles scalarsLast [tableLayer, scalarLayer] :=
  .cons collect_table (.cons collect_scalars .nil)

theorem hold_tableLast : Hold kindFiles tableLast [scalarLayer, tableLayer] :=
  .cons collect_scalars (.cons collect_table .nil)

theorem build_winning_kindFiles :
    (∃ l, replay scalarsLast = .ok l ∧ ∀ w, l.build w kindFiles = .ok scalarConfig) ∧
      ∃ l, replay tableLast = .ok l ∧ ∀ w, ∃ e, l.build w kindFiles = .error (.error e) := by
  have hoverrides : ∀ key x, .override key x ∈ scalarsLast →
      ∃ f : Field, key = f.path ∧ ¬ x.isEmptyTable := by
    intro key x h
    obtain ⟨rfl, rfl⟩ : key = "paths.input" ∧ x = .boolean true := by
      simpa [scalarsLast] using h
    exact ⟨.input, rfl, Bool.false_ne_true⟩
  have hnone : ∀ key x, .override key x ∈ tableLast →
      ∃ f : Field, key = f.path ∧ ¬ x.isEmptyTable := by
    simp [tableLast]
  obtain ⟨l, hl, h⟩ := build_winning hoverrides (hold_scalarsLast.definite (by decide))
  obtain ⟨l', hl', h'⟩ := build_winning hnone (hold_tableLast.definite (by decide))
  refine ⟨⟨l, hl, fun w => ((h w).2.1 scalarConfig).mpr fun f => ⟨some "scalars.toml", ?_⟩⟩,
    l', hl', fun w => (h' w).2.2 .className ?_⟩
  · rw [hold_scalarsLast.winning_eq]
    cases f <;> rfl
  · rw [hold_tableLast.winning_eq]
    exact Bool.false_ne_true

end VisitorHeader.Settings.Loader
