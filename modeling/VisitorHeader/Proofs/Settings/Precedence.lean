import Mathlib.Data.List.Induction
import VisitorHeader.Proofs.Files.Writing
import VisitorHeader.Proofs.Settings.Layering

namespace VisitorHeader.Settings

inductive Call where
  | file (path : String)
  | optionalFile (path : String)
  | override (key : String) (x : Value)

namespace Call

def source? : Call → Option Source
  | file path => some ⟨path, true⟩
  | optionalFile path => some ⟨path, false⟩
  | override .. => none

def gives (f : Field) : Call → Option Value
  | override key x => if key = f.path then some x else none
  | _ => none

end Call

namespace Loader

def call (l : Loader) : Call → Except LoadError Loader
  | .file path => .ok (l.withFile path)
  | .optionalFile path => .ok (l.withOptionalFile path)
  | .override key x => l.setOverride key x

def replay (calls : List Call) : Except LoadError Loader := calls.foldlM call new

/-- The last override of a field, else what the last file to name it says, else its default. -/
def winning (files : FileTree) (calls : List Call) (f : Field) : Value :=
  ((last? (Call.gives f) calls).or
    (last? (Source.gives files f) (calls.filterMap Call.source?))).getD
      (Config.standard.setting none f)

theorem last?_override (l : Loader) (key : Key) (x : Value) (f : Field) :
    last? (singleGives f) (l.override key x).overrides =
      (if key = f.key then some x else none).or (last? (singleGives f) l.overrides) := by
  rw [override, last?_append, last?_singleton, singleGives]
  by_cases hkey : key = f.key
  · rw [if_pos hkey, Option.some_or, Option.some_or]
  · -- what the override drops is of another field
    have hdropped : ∀ o : Key × Value, decide (o.1 ≠ key) = false → singleGives f o = none := by
      intro o ho
      obtain rfl : o.1 = key := by simpa using ho
      exact if_neg hkey
    rw [last?_filter hdropped]

theorem replay_append_singleton (calls : List Call) (c : Call) :
    replay (calls ++ [c]) = replay calls >>= fun l => l.call c := by
  rw [replay, List.foldlM_append]
  apply bind_congr
  intro l
  exact bind_pure (l.call c)

theorem exists_of_setOverride {l l' : Loader} {key : String} {x : Value}
    (h : l.setOverride key x = .ok l') : ∃ k, l' = l.override k x := by
  rw [setOverride] at h
  split at h
  next k _ => exact ⟨k, (Except.ok.inj h).symm⟩
  next => cases h

theorem sources_of_calls {calls : List Call} {l l' : Loader} (h : calls.foldlM call l = .ok l') :
    l'.sources = l.sources ++ calls.filterMap Call.source? := by
  induction calls generalizing l with
  | nil =>
      obtain rfl := Except.ok.inj h
      exact (List.append_nil _).symm
  | cons c calls ih =>
      rw [List.foldlM_cons] at h
      obtain ⟨next, hnext, hrest⟩ := exists_of_bind_eq_ok h
      rw [ih hrest]
      cases c with
      | file path | optionalFile path =>
          obtain rfl := Except.ok.inj hnext
          exact List.append_assoc _ _ _
      | override key x =>
          obtain ⟨k, rfl⟩ := exists_of_setOverride hnext
          rfl

/-- Calls that override nothing but fields make a loader; `p` is what is known of all overrides. -/
theorem replay_of_fields {calls : List Call} {p : Field → Value → Prop}
    (h : ∀ key x, .override key x ∈ calls → ∃ f : Field, key = f.path ∧ p f x) :
    ∃ l, replay calls = .ok l ∧
      (∀ f, last? (singleGives f) l.overrides = last? (Call.gives f) calls) ∧
      ∀ o ∈ l.overrides, ∃ f : Field, o.1 = f.key ∧ p f o.2 := by
  -- on the last call: what it adds comes after all that the calls before it have added
  induction calls using List.reverseRecOn with
  | nil => exact ⟨new, rfl, fun f => rfl, fun o ho => absurd ho List.not_mem_nil⟩
  | append_singleton calls c ih =>
      obtain ⟨l, hl, hgives, hfields⟩ := ih fun key x hx => h key x (by simp [hx])
      rw [replay_append_singleton, hl]
      simp only [last?_append, last?_singleton]
      cases c with
      | file path => exact ⟨l.withFile path, rfl, hgives, hfields⟩
      | optionalFile path => exact ⟨l.withOptionalFile path, rfl, hgives, hfields⟩
      | override key x =>
          obtain ⟨f, rfl, hx⟩ := h key x (by simp)
          refine ⟨l.override f.key x, ?_, fun g => ?_, ?_⟩
          · change l.setOverride f.path x = _
            rw [setOverride, f.parse_path]
          · rw [last?_override, hgives, Call.gives]
            by_cases hg : f = g
            · rw [if_pos (congrArg Field.key hg), if_pos (congrArg Field.path hg)]
            · rw [if_neg fun hkey => hg (Field.key_injective hkey),
                if_neg fun hpath => hg (Field.path_injective hpath)]
          · intro o ho
            rcases List.mem_append.mp ho with ho | ho
            · exact hfields o (List.mem_filter.mp ho).1
            · obtain rfl := List.mem_singleton.mp ho
              exact ⟨f, rfl, hx⟩

/-- Whatever the order of the calls and of the walk, every field of the configuration is the last
override of it, else what the last file to name it says, else its default. -/
theorem build_replay {calls : List Call} {files : FileTree}
    (hoverrides : ∀ key x, .override key x ∈ calls → ∃ f : Field, key = f.path ∧ f.accepts x)
    (hsources : ∀ s ∈ calls.filterMap Call.source?, ∃ entries,
      s.collect files = .ok entries ∧ Layer.Typed entries) :
    ∃ l c, replay calls = .ok l ∧ (∀ w, l.build w files = .ok c) ∧
      ∀ f, ∃ origin, winning files calls f = c.setting origin f := by
  obtain ⟨l, hl, hgives, hfields⟩ := replay_of_fields (p := fun f x => f.accepts x) hoverrides
  have hls : l.sources = calls.filterMap Call.source? := sources_of_calls hl
  rw [← hls] at hsources
  obtain ⟨c, hbuild, hc⟩ := exists_build_eq_ok ⟨hsources, hfields⟩
  have hwinning : l.settled files = winning files calls := by
    funext f
    rw [settled, hgives, hls, winning]
  rw [hwinning] at hc
  exact ⟨l, c, hl, hbuild, hc⟩

def twoFiles : FileTree :=
  .flat [("a.toml", "[Class]\nname = \"A\"\nvisit_method = \"a\"\n"),
    ("b.toml", "[class]\nvisit_method = \"b\"\n[header]\nincludes = [\"b.h\"]\n")]

def firstLayer : Layer :=
  [("Class", .table (some "a.toml") [("name", .string "A"), ("visit_method", .string "a")])]

def secondLayer : Layer :=
  [("class", .table (some "b.toml") [("visit_method", .string "b")]),
    ("header", .table (some "b.toml") [("includes", .array (some "b.toml") [.string "b.h"])])]

def interleavedCalls : List Call :=
  [.override "class.name" (.string "First"), .file "a", .override "class.name" (.string "Last"),
    .optionalFile "absent", .file "b.toml"]

theorem collect_first : Source.collect twoFiles ⟨"a", true⟩ = .ok firstLayer :=
  Source.collect_of_chars "/w/a.toml" rfl rfl rfl

theorem collect_absent : Source.collect twoFiles ⟨"absent", false⟩ = .ok [] :=
  Source.collect_of_absent (Source.find?_eq twoFiles "absent") false

theorem collect_second : Source.collect twoFiles ⟨"b.toml", true⟩ = .ok secondLayer :=
  Source.collect_of_chars "/w/b.toml" rfl rfl rfl

theorem winning_interleavedCalls (f : Field) :
    winning twoFiles interleavedCalls f =
      (last? (Call.gives f) interleavedCalls).getD ((last? (Layer.field? · f)
        [firstLayer, [], secondLayer]).getD (Config.standard.setting none f)) := by
  have hsources : interleavedCalls.filterMap Call.source? =
    [⟨"a", true⟩, ⟨"absent", false⟩, ⟨"b.toml", true⟩] := rfl
  rw [winning, hsources]
  simp only [last?_cons, Source.gives_of_collect collect_first,
    Source.gives_of_collect collect_absent, Source.gives_of_collect collect_second]
  cases last? (Call.gives f) interleavedCalls <;> rfl

theorem build_replay_interleavedCalls :
    ∃ l c, replay interleavedCalls = .ok l ∧ (∀ w, l.build w twoFiles = .ok c) ∧
      c.visitorClass.name = "Last" ∧ c.visitorClass.visitMethod = "b" ∧
      c.header.includes = ["b.h"] ∧ c.header.namespaceName = "Ryntra::Compiler" := by
  have hoverrides : ∀ key x, .override key x ∈ interleavedCalls →
      ∃ f : Field, key = f.path ∧ f.accepts x := by
    intro key x h
    simp only [interleavedCalls, List.mem_cons, Call.override.injEq, reduceCtorEq, false_or,
      List.not_mem_nil, or_false] at h
    rcases h with ⟨rfl, rfl⟩ | ⟨rfl, rfl⟩ <;> exact ⟨.className, rfl, rfl⟩
  have hsources : ∀ s ∈ interleavedCalls.filterMap Call.source?,
      ∃ entries, s.collect twoFiles = .ok entries ∧ Layer.Typed entries := by
    intro s hs
    simp only [interleavedCalls, List.filterMap_cons, Call.source?, List.filterMap_nil,
      List.mem_cons, List.not_mem_nil, or_false] at hs
    rcases hs with rfl | rfl | rfl
    · exact ⟨firstLayer, collect_first, by decide⟩
    · exact ⟨[], collect_absent, by decide⟩
    · exact ⟨secondLayer, collect_second, by decide⟩
  obtain ⟨l, c, hl, hc, hw⟩ := build_replay hoverrides hsources
  have text {f : Field} {s t : String} (hs : winning twoFiles interleavedCalls f = .string s)
      (ht : ∀ origin, c.setting origin f = .string t) : t = s := by
    obtain ⟨origin, h⟩ := hw f
    rw [hs, ht] at h
    exact (Value.string.inj h).symm
  have hincludes : c.header.includes = ["b.h"] := by
    obtain ⟨origin, h⟩ := hw .includes
    rw [winning_interleavedCalls] at h
    have hmap : c.header.includes.map Value.string = ["b.h"].map Value.string :=
      (Value.array.inj h).2.symm
    exact List.map_injective_iff.mpr (fun _ _ => Value.string.inj) hmap
  refine ⟨l, c, hl, hc, ?_, ?_, hincludes, ?_⟩
  · exact text (winning_interleavedCalls .className) fun _ => rfl
  · exact text (winning_interleavedCalls .visitMethod) fun _ => rfl
  · exact text (winning_interleavedCalls .namespaceName) fun _ => rfl

end Loader

end VisitorHeader.Settings
