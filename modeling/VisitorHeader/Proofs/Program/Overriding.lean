import VisitorHeader.Proofs.Program.Generating
import VisitorHeader.Proofs.Program.Loading
import VisitorHeader.Proofs.Settings.Precedence

namespace VisitorHeader.Settings

namespace Loader

/-- Single settings of fields always find a place, and the last of a field is what it then has. -/
theorem overridden_field? {os : List (Key × Value)} (h : ∀ o ∈ os, ∃ f : Field, o.1 = f.key)
    (w : Walk) (v : Value) :
    ∃ u, os.foldlM (addOverride w) v = .ok u ∧
      ∀ f x, last? (singleGives f) os = some x → f.accepts x → u.field? f = some x := by
  -- on the last setting: it hides what the earlier ones say of its field, and nothing else
  induction os using List.reverseRecOn with
  | nil => exact ⟨v, rfl, fun f x hx => by cases hx⟩
  | append_singleton os o ih =>
      obtain ⟨u, hu, hfields⟩ := ih fun o ho => h o (by simp [ho])
      obtain ⟨g, hg⟩ := h o (by simp)
      obtain ⟨key, y⟩ := o
      obtain rfl : key = g.key := hg
      refine ⟨u.setField g (w.arrange y), ?_, fun f x hx haccepts => ?_⟩
      · rw [List.foldlM_append, hu]
        change [(g.key, y)].foldlM (addOverride w) u = _
        rw [List.foldlM_cons, addOverride, Value.assignKey_field]
        rfl
      · rw [last?_append, last?_singleton, singleGives] at hx
        rw [Value.field?_setField]
        by_cases hfg : f = g
        · subst hfg
          rw [if_pos rfl, Option.some_or] at hx
          obtain rfl := Option.some.inj hx
          rw [if_pos rfl, w.arrange_of_accepts haccepts, Value.onto_of_accepts haccepts]
        · rw [if_neg fun hkey => hfg (Field.key_injective hkey).symm, Option.none_or] at hx
          rw [if_neg hfg, hfields f x hx haccepts]

variable {l : Loader} {w : Walk} {files : FileTree}

theorem exists_layers_of_build {c : Config} (h : l.build w files = .ok c) :
    ∃ v, l.layers w files = .ok v := by
  obtain ⟨u, hu, -⟩ := exists_of_bind_eq_ok h
  obtain ⟨v, hv, -⟩ := exists_of_bind_eq_ok hu
  exact ⟨v, hv⟩

theorem setting_of_overridden (hkeys : ∀ o ∈ l.overrides, ∃ f : Field, o.1 = f.key) {c : Config}
    (hc : l.build w files = .ok c) {f : Field} {x : Value}
    (hx : last? (singleGives f) l.overrides = some x) (haccepts : f.accepts x) :
    ∃ origin, x = c.setting origin f := by
  obtain ⟨v, hv⟩ := exists_layers_of_build hc
  obtain ⟨u, hu, hfields⟩ := overridden_field? (forall_mem_order w hkeys) w v
  rw [build_eq_decode hv hu] at hc
  rw [← last?_order_overrides l w] at hx
  cases hdecode : Config.decode w u with
  | error e =>
      rw [hdecode] at hc
      cases hc
  | ok c' =>
      rw [hdecode] at hc
      obtain rfl := Except.ok.inj hc
      exact Config.setting_of_decode hdecode (hfields f x hx haccepts) haccepts

theorem build_of_all_overridden (hkeys : ∀ o ∈ l.overrides, ∃ f : Field, o.1 = f.key) {v : Value}
    (hv : l.layers w files = .ok v)
    (h : ∀ f : Field, ∃ x, last? (singleGives f) l.overrides = some x ∧ f.accepts x) :
    ∃ c, l.build w files = .ok c := by
  obtain ⟨u, hu, hfields⟩ := overridden_field? (forall_mem_order w hkeys) w v
  simp only [← last?_order_overrides l w] at h
  choose settings hsettings haccepts using h
  obtain ⟨c, hc⟩ := Config.exists_setting haccepts
  refine ⟨c, build_of_fields (merged_eq_ok hv hu) fun f => ?_⟩
  obtain ⟨origin, hf⟩ := hc f
  exact ⟨origin, by rw [hfields f _ (hsettings f) (haccepts f), hf]⟩

end Loader

end VisitorHeader.Settings

namespace VisitorHeader.Program

open CommandLine Settings

theorem overrides_loader_of_paths {o : Options} {input output : String}
    (hinput : o.input = some input) (houtput : o.output = some output) :
    (loader o).overrides =
      [(Field.key .input, .string input), (Field.key .output, .string output)] := by
  rw [overrides_loader, hinput, houtput]
  rfl

/-- Given both paths, a file of settings has no say in what is read and what is written. -/
theorem generate_of_paths (filter : Log.Filter) {o : Options} {input output : String}
    (hinput : o.input = some input) (houtput : o.output = some output) (w : Walk)
    (files : FileTree) :
    (∃ failure, generate w filter o files = refuse files failure) ∨
      ∃ t : Template, generate w filter o files =
        if o.stdout then print filter ⟨input, output, t⟩ files
        else write filter ⟨input, output, t⟩ files := by
  cases hload : (loader o).build w files with
  | error failure => exact .inl ⟨failure, generate_of_error filter hload⟩
  | ok config =>
      have hoverrides := overrides_loader_of_paths hinput houtput
      have hkeys : ∀ e ∈ (loader o).overrides, ∃ f : Field, e.1 = f.key := by
        rw [hoverrides]
        simp
      have hi : Value.string input = .string config.paths.input := by
        obtain ⟨origin, h⟩ := Loader.setting_of_overridden hkeys hload (f := .input)
          (x := .string input) (by rw [hoverrides]; rfl) rfl
        exact h
      have ho : Value.string output = .string config.paths.output := by
        obtain ⟨origin, h⟩ := Loader.setting_of_overridden hkeys hload (f := .output)
          (x := .string output) (by rw [hoverrides]; rfl) rfl
        exact h
      obtain rfl := Value.string.inj hi
      obtain rfl := Value.string.inj ho
      refine .inr ⟨config.template, ?_⟩
      rw [generate, hload]
      rfl

/-- Whatever the files say and in whatever order the overrides are applied, the last override of a
field is what a configuration holds there, and there is a configuration if all are overridden. -/
theorem build_overridden {calls : List Call} (w : Walk) (files : FileTree)
    (hkeys : ∀ key x, .override key x ∈ calls → ∃ f : Field, key = f.path) :
    (∃ l, Loader.replay calls = .ok l ∧ ∀ v, l.layers w files = .ok v →
      ∀ l' : Loader, l'.sources = l.sources → l'.overrides.Perm l.overrides →
        (∀ c, l'.build w files = .ok c → ∀ f x, last? (Call.gives f) calls = some x → f.accepts x →
          ∃ origin, x = c.setting origin f) ∧
        ((∀ f : Field, ∃ x, last? (Call.gives f) calls = some x ∧ f.accepts x) →
          ∃ c, l'.build w files = .ok c)) ∧
      ∀ filter args o input output, CommandLine.parse args = .ok (.generate o) →
        o.input = some input → o.output = some output →
          (∃ failure, answer w filter args files = refuse files failure) ∨
            ∃ t : Template, answer w filter args files =
              if o.stdout then print filter ⟨input, output, t⟩ files
              else write filter ⟨input, output, t⟩ files := by
  refine ⟨?_, fun filter args o input output hargs hinput houtput => ?_⟩
  · obtain ⟨l, hl, hgives, hfields⟩ := Loader.replay_of_fields (p := fun _ _ => True)
      fun key x hx => (hkeys key x hx).imp fun f hf => ⟨hf, trivial⟩
    refine ⟨l, hl, fun v hv l' hsources hperm => ?_⟩
    have hlast (f : Field) : last? (singleGives f) l'.overrides = last? (Call.gives f) calls := by
      rw [last?_singleGives_of_perm hperm l.nodup, hgives]
    have hkeys' : ∀ o ∈ l'.overrides, ∃ f : Field, o.1 = f.key := fun o ho =>
      (hfields o (hperm.mem_iff.mp ho)).imp fun f hf => hf.1
    have hlayers : l'.layers w files = .ok v := by
      rw [Loader.layers, hsources]
      exact hv
    simp only [← hlast]
    exact ⟨fun c hc f x => Loader.setting_of_overridden hkeys' hc,
      Loader.build_of_all_overridden hkeys' hlayers⟩
  · rw [answer_of_generate filter hargs]
    exact generate_of_paths filter hinput houtput w files

def brokenSections : FileTree :=
  .flat [("odd.toml", "paths = 5\nheader = [true]\n\"class.name\" = \"c\"\n\"class[2]\" = \"d\"\n")]

def brokenLayer : Layer :=
  [("paths", .integer 5), ("header", .array (some "odd.toml") [.boolean true]),
    ("class.name", .string "c"), ("class[2]", .string "d")]

def mendingCalls : List Call :=
  [.override "class.name" (.integer 5), .override "paths.input" (.string "in"),
    .override "paths.output" (.string "out"), .file "odd.toml",
    .override "header.namespace" (.string "n"),
    .override "header.includes" (.array none [.string "a.h", .string "b.h"]),
    .override "class.visit_method" (.string "accept"), .override "class.name" (.string "C"),
    .override "class.visitor_interface" (.string "V"),
    .override "class.marker_interface" (.string "M")]

theorem collect_brokenSections :
    Source.collect brokenSections ⟨"odd.toml", true⟩ = .ok brokenLayer :=
  Source.collect_of_chars "/w/odd.toml" rfl rfl rfl

def brokenValue : Value :=
  .table none [("paths", .integer 5), ("header", .array (some "odd.toml") [.boolean true]),
    ("class", .array none [.nil, .nil, .string "d"])]

theorem addLayer_brokenLayer :
    Loader.addLayer .written (defaults .written) (.ok brokenLayer) = .ok brokenValue :=
  eq_ok_of_toOption (by decide +kernel)

def mended : Config where
  paths := ⟨"in", "out"⟩
  header := ⟨["a.h", "b.h"], "n"⟩
  visitorClass := ⟨"C", "M", "V", "accept"⟩

theorem last?_mendingCalls : ∀ f : Field,
    last? (Call.gives f) mendingCalls = some (mended.setting none f) ∧
      f.accepts (mended.setting none f) := by
  intro f
  cases f <;> exact ⟨rfl, rfl⟩

theorem sources_mendingCalls :
    (Loader.replay mendingCalls).map Loader.sources = .ok [⟨"odd.toml", true⟩] := rfl

theorem build_overridden_brokenSections :
    ∃ l c, Loader.replay mendingCalls = .ok l ∧
      l.layers .written brokenSections = .ok brokenValue ∧
      l.build .written brokenSections = .ok c ∧
      c.paths = ⟨"in", "out"⟩ ∧ c.visitorClass.name = "C" := by
  have hkeys : ∀ key x, .override key x ∈ mendingCalls → ∃ f : Field, key = f.path := by
    intro key x h
    simp only [mendingCalls, List.mem_cons, Call.override.injEq, reduceCtorEq, false_or,
      List.not_mem_nil, or_false] at h
    rcases h with ⟨rfl, -⟩ | ⟨rfl, -⟩ | ⟨rfl, -⟩ | ⟨rfl, -⟩ | ⟨rfl, -⟩ | ⟨rfl, -⟩ | ⟨rfl, -⟩ |
      ⟨rfl, -⟩ | ⟨rfl, -⟩
    exacts [⟨.className, rfl⟩, ⟨.input, rfl⟩, ⟨.output, rfl⟩, ⟨.namespaceName, rfl⟩,
      ⟨.includes, rfl⟩, ⟨.visitMethod, rfl⟩, ⟨.className, rfl⟩, ⟨.visitorInterface, rfl⟩,
      ⟨.markerInterface, rfl⟩]
  obtain ⟨⟨l, hl, h⟩, -⟩ := build_overridden .written brokenSections hkeys
  have hsources : l.sources = [⟨"odd.toml", true⟩] := by
    have hreplay := sources_mendingCalls
    rw [hl] at hreplay
    exact Except.ok.inj hreplay
  have hlayers : l.layers .written brokenSections = .ok brokenValue := by
    rw [Loader.layers_of_sources_singleton hsources, collect_brokenSections, addLayer_brokenLayer]
  obtain ⟨hsettings, hbuild⟩ := h brokenValue hlayers l rfl (.refl _)
  obtain ⟨c, hc⟩ := hbuild fun f => ⟨_, last?_mendingCalls f⟩
  have held (f : Field) : ∃ origin, mended.setting none f = c.setting origin f := by
    obtain ⟨hlast, haccepts⟩ := last?_mendingCalls f
    exact hsettings c hc f _ hlast haccepts
  obtain ⟨_, hinput⟩ := held .input
  obtain ⟨_, houtput⟩ := held .output
  obtain ⟨_, hname⟩ := held .className
  refine ⟨l, c, hl, hlayers, hc, ?_, (Value.string.inj hname).symm⟩
  have hi : "in" = c.paths.input := Value.string.inj hinput
  have ho : "out" = c.paths.output := Value.string.inj houtput
  rw [hi, ho]

end VisitorHeader.Program
