import VisitorHeader.Proofs.Settings.Decoding
import VisitorHeader.Proofs.Settings.Loading

namespace VisitorHeader.Settings

def Config.standard : Config where
  paths := ⟨"NodesList.txt", "AllNodesVisitor.h"⟩
  header := ⟨["ASTVisitor.h", "ASTNodes.h"], "Ryntra::Compiler"⟩
  visitorClass := ⟨"AllNodesVisitor", "IVisitor", "Visitor", "visit"⟩

theorem field?_defaultsLayer (f : Field) :
    Layer.field? defaultsLayer f = some (Config.standard.setting none f) := by
  cases f <;> rfl

theorem field?_defaults (w : Walk) (f : Field) :
    (defaults w).field? f = some (Config.standard.setting none f) := by
  have haccepts := Config.standard.accepts_setting none f
  rw [defaults, Layer.field?_putAll (w.tidy_entries tidy_defaultsLayer),
    w.field?_entries tidy_defaultsLayer, field?_defaultsLayer, Option.map_some,
    w.arrange_of_accepts haccepts]
  exact congrArg some (Value.onto_of_accepts haccepts _)

theorem Value.behind_of_field? {v x : Value} {f : Field} (h : v.field? f = some x) :
    [Step.entry f.layout.name, .entry f.name].foldl behind v = x := by
  obtain ⟨origin, entries, hsection, hfields⟩ := exists_section h
  have hx := (hfields f rfl).symm.trans h
  change ((Option.getD (v.get? (lowerName f.layout.name)) .nil).get?
    (lowerName f.name)).getD .nil = x
  rw [f.lowerName_section, f.lowerName_name, hsection, Option.getD_some]
  change (Entries.get? entries f.name).getD .nil = x
  rw [hx, Option.getD_some]

def last? {α β : Type} (gives : α → Option β) (history : List α) : Option β :=
  history.reverse.findSome? gives

section Last

variable {α β : Type} {gives : α → Option β}

theorem last?_append (first rest : List α) :
    last? gives (first ++ rest) = (last? gives rest).or (last? gives first) := by
  rw [last?, List.reverse_append, List.findSome?_append]
  rfl

theorem last?_singleton (a : α) : last? gives [a] = gives a := by
  rw [last?, List.reverse_singleton]
  cases h : gives a <;> simp [h]

theorem last?_cons (a : α) (rest : List α) :
    last? gives (a :: rest) = (last? gives rest).or (gives a) := by
  rw [← List.singleton_append, last?_append, last?_singleton]

theorem last?_filter {p : α → Bool} (h : ∀ a, p a = false → gives a = none) (history : List α) :
    last? gives (history.filter p) = last? gives history := by
  induction history with
  | nil => rfl
  | cons a rest ih =>
      cases hp : p a with
      | true => rw [List.filter_cons_of_pos hp, last?_cons, last?_cons, ih]
      | false => rw [List.filter_cons_of_neg (by simp [hp]), ih, last?_cons, h a hp, Option.or_none]

theorem last?_map {γ : Type} (g : β → γ) (history : List α) :
    last? (fun a => (gives a).map g) history = (last? gives history).map g := by
  induction history with
  | nil => rfl
  | cons a rest ih => rw [last?_cons, last?_cons, ih, Option.map_or]

theorem exists_of_last? {history : List α} {b : β} (h : last? gives history = some b) :
    ∃ a ∈ history, gives a = some b := by
  obtain ⟨a, ha, hb⟩ := List.exists_of_findSome?_eq_some h
  exact ⟨a, List.mem_reverse.mp ha, hb⟩

end Last

/-- If each step lets stand what it does not speak of, the last one to speak of a field counts.
`look` is what is looked at in a field. -/
theorem foldlM_field? {α β : Type} {look : Field → Value → Option β}
    {step : Value → α → Except Failure Value} {gives : Field → α → Option β} {xs : List α}
    (h : ∀ x ∈ xs, ∀ v, ∃ w, step v x = .ok w ∧ ∀ f, look f w = (gives f x).or (look f v))
    (v : Value) :
    ∃ w, xs.foldlM step v = .ok w ∧ ∀ f, look f w = (last? (gives f) xs).or (look f v) := by
  induction xs generalizing v with
  | nil => exact ⟨v, rfl, fun f => rfl⟩
  | cons x xs ih =>
      obtain ⟨u, hu, hfirst⟩ := h x (by simp) v
      obtain ⟨w, hw, hrest⟩ := ih (fun y hy => h y (by simp [hy])) u
      refine ⟨w, ?_, fun f => ?_⟩
      · rw [List.foldlM_cons, hu]
        exact hw
      · rw [hrest, hfirst, last?_cons, Option.or_assoc]

namespace Layer

structure Definite (entries : Layer) : Prop extends Tidy entries where
  field : ∀ f : Field, ∀ x ∈ field? entries f, ¬ x.isEmptyTable

structure Typed (entries : Layer) : Prop extends Tidy entries where
  field : ∀ f : Field, ∀ x ∈ field? entries f, f.accepts x

instance (entries : Layer) : Decidable (Definite entries) :=
  decidable_of_iff (Tidy entries ∧ ∀ f : Field, ∀ x ∈ field? entries f, ¬ x.isEmptyTable)
    ⟨fun h => ⟨h.1, h.2⟩, fun h => ⟨h.toTidy, h.field⟩⟩

instance (entries : Layer) : Decidable (Typed entries) :=
  decidable_of_iff (Tidy entries ∧ ∀ f : Field, ∀ x ∈ field? entries f, f.accepts x)
    ⟨fun h => ⟨h.1, h.2⟩, fun h => ⟨h.toTidy, h.field⟩⟩

theorem Typed.definite {entries : Layer} (h : Typed entries) : Definite entries :=
  ⟨h.toTidy, fun f x hx => Field.not_isEmptyTable_of_accepts (h.field f x hx)⟩

end Layer

def Value.reading? (f : Field) (v : Value) : Option (Option Value) := (v.field? f).map f.read?

def Source.gives (files : FileTree) (f : Field) (s : Source) : Option Value :=
  match s.collect files with
  | .ok entries => Layer.field? entries f
  | .error _ => none

theorem Source.gives_of_collect {files : FileTree} {s : Source} {entries : Layer}
    (h : s.collect files = .ok entries) (f : Field) : s.gives files f = Layer.field? entries f := by
  rw [gives, h]

def singleGives (f : Field) (o : Key × Value) : Option Value :=
  if o.1 = f.key then some o.2 else none

theorem singleGives_eq_some_iff {f : Field} {o : Key × Value} {x : Value} :
    singleGives f o = some x ↔ o = (f.key, x) := by
  obtain ⟨key, y⟩ := o
  simp [singleGives]

theorem last?_singleGives_iff {os : List (Key × Value)} (hkeys : (os.map Prod.fst).Nodup)
    {f : Field} {x : Value} : last? (singleGives f) os = some x ↔ (f.key, x) ∈ os := by
  constructor
  · intro h
    obtain ⟨o, ho, hx⟩ := exists_of_last? h
    rwa [singleGives_eq_some_iff.mp hx] at ho
  · intro h
    induction os with
    | nil => cases h
    | cons o os ih =>
        obtain ⟨hfirst, hrest⟩ := List.nodup_cons.mp hkeys
        rw [last?_cons]
        rcases List.mem_cons.mp h with rfl | h
        · -- no later setting has this key
          have hnone : last? (singleGives f) os = none := by
            cases hlast : last? (singleGives f) os with
            | none => rfl
            | some y =>
                obtain ⟨o, ho, hy⟩ := exists_of_last? hlast
                rw [singleGives_eq_some_iff.mp hy] at ho
                exact absurd (List.mem_map_of_mem (f := Prod.fst) ho) hfirst
          rw [hnone, Option.none_or, singleGives_eq_some_iff.mpr rfl]
        · rw [ih hrest h, Option.some_or]

theorem last?_singleGives_of_perm {os os' : List (Key × Value)} (h : os'.Perm os)
    (hkeys : (os.map Prod.fst).Nodup) (f : Field) :
    last? (singleGives f) os' = last? (singleGives f) os := by
  have hkeys' : (os'.map Prod.fst).Nodup := (h.map Prod.fst).nodup_iff.mpr hkeys
  apply Option.ext
  intro x
  rw [last?_singleGives_iff hkeys, last?_singleGives_iff hkeys', h.mem_iff]

namespace Loader

theorem addLayer_typed {entries : Layer} (h : Layer.Typed entries) (w : Walk) (v : Value) :
    ∃ u, addLayer w v (.ok entries) = .ok u ∧
      ∀ f, u.field? f = (Layer.field? entries f).or (v.field? f) := by
  have htidy := w.tidy_entries h.toTidy
  refine ⟨Value.putAll (w.entries entries) v, ?_, fun f => ?_⟩
  · rw [addLayer, Value.assignAll_eq_putAll htidy.entry]
  · rw [Layer.field?_putAll htidy, w.field?_entries h.toTidy]
    cases hx : Layer.field? entries f with
    | none => rfl
    | some x =>
        have haccepts := h.field f x hx
        rw [Option.map_some, w.arrange_of_accepts haccepts]
        exact congrArg some (Value.onto_of_accepts haccepts _)

theorem addLayer_definite {entries : Layer} (h : Layer.Definite entries) (w : Walk) (v : Value) :
    ∃ u, addLayer w v (.ok entries) = .ok u ∧
      ∀ f, u.reading? f = ((Layer.field? entries f).map f.read?).or (v.reading? f) := by
  have htidy := w.tidy_entries h.toTidy
  refine ⟨Value.putAll (w.entries entries) v, ?_, fun f => ?_⟩
  · rw [addLayer, Value.assignAll_eq_putAll htidy.entry]
  · rw [Value.reading?, Layer.field?_putAll htidy, w.field?_entries h.toTidy]
    cases hx : Layer.field? entries f with
    | none => rfl
    | some x =>
        exact congrArg some (w.read?_arrange_onto (h.field f x hx) _)

theorem addOverride_definite {f : Field} {x : Value} (h : ¬ x.isEmptyTable) (w : Walk) (v : Value) :
    ∃ u, addOverride w v (f.key, x) = .ok u ∧
      ∀ g, u.reading? g = ((singleGives g (f.key, x)).map g.read?).or (v.reading? g) := by
  refine ⟨v.setField f (w.arrange x), ?_, fun g => ?_⟩
  · rw [addOverride, Value.assignKey_field]
  · rw [Value.reading?, Value.field?_setField, singleGives]
    by_cases hg : g = f
    · rw [if_pos hg, if_pos (congrArg Field.key hg.symm)]
      exact congrArg some (w.read?_arrange_onto h _)
    · rw [if_neg hg, if_neg fun hkey => hg (Field.key_injective hkey).symm]
      rfl

structure Definite (l : Loader) (files : FileTree) : Prop where
  source : ∀ s ∈ l.sources, ∃ entries, s.collect files = .ok entries ∧ Layer.Definite entries
  single : ∀ o ∈ l.overrides, ∃ f : Field, o.1 = f.key ∧ ¬ o.2.isEmptyTable

structure Typed (l : Loader) (files : FileTree) : Prop where
  source : ∀ s ∈ l.sources, ∃ entries, s.collect files = .ok entries ∧ Layer.Typed entries
  single : ∀ o ∈ l.overrides, ∃ f : Field, o.1 = f.key ∧ f.accepts o.2

def settled (l : Loader) (files : FileTree) (f : Field) : Value :=
  ((last? (singleGives f) l.overrides).or (last? (Source.gives files f) l.sources)).getD
    (Config.standard.setting none f)

variable {l : Loader} {files : FileTree}

theorem last?_order_overrides (l : Loader) (w : Walk) (f : Field) :
    last? (singleGives f) (w.order l.overrides) = last? (singleGives f) l.overrides :=
  last?_singleGives_of_perm (w.perm l.overrides) l.nodup f

theorem merged_reading? (h : l.Definite files) (w : Walk) :
    ∃ u, l.merged w files = .ok u ∧ ∀ f, u.reading? f = some (f.read? (l.settled files f)) := by
  have layer : ∀ s ∈ l.sources, ∀ v, ∃ u, addLayer w v (s.collect files) = .ok u ∧
      ∀ f, u.reading? f = ((s.gives files f).map f.read?).or (v.reading? f) := by
    intro s hs v
    obtain ⟨entries, hcollect, hdefinite⟩ := h.source s hs
    simp only [hcollect, Source.gives_of_collect hcollect]
    exact addLayer_definite hdefinite w v
  have single : ∀ o ∈ w.order l.overrides, ∀ v, ∃ u, addOverride w v o = .ok u ∧
      ∀ f, u.reading? f = ((singleGives f o).map f.read?).or (v.reading? f) := by
    rintro ⟨key, x⟩ ho v
    obtain ⟨f, rfl, hx⟩ := forall_mem_order w h.single _ ho
    exact addOverride_definite hx w v
  obtain ⟨v, hv, hlayers⟩ := foldlM_field? layer (defaults w)
  obtain ⟨u, hu, hfields⟩ := foldlM_field? single v
  refine ⟨u, ?_, fun f => ?_⟩
  · exact merged_eq_ok ((l.layers_eq_foldlM w files).trans hv) hu
  · rw [hfields, hlayers, last?_map, last?_map, last?_order_overrides, Value.reading?,
      field?_defaults, ← Option.or_assoc, ← Option.map_or, settled]
    cases (last? (singleGives f) l.overrides).or (last? (Source.gives files f) l.sources) <;> rfl

/-- The configuration is what the settled settings are read as. -/
theorem build_eq_ok_iff (h : l.Definite files) (w : Walk) {c : Config} : l.build w files = .ok c ↔
    ∀ f, ∃ origin, f.read? (l.settled files f) = some (c.setting origin f) := by
  obtain ⟨u, hu, hreading⟩ := merged_reading? h w
  -- what was merged may differ from what is settled, but is read as the same
  have field (f : Field) : ∃ x, u.field? f = some x ∧ f.read? x = f.read? (l.settled files f) :=
    Option.map_eq_some_iff.mp (hreading f)
  rw [build_eq_ok_iff_decode hu]
  constructor
  · intro hc f
    obtain ⟨x, hx, hread⟩ := field f
    rw [← hread]
    exact Config.read?_of_decode hc hx
  · intro hc
    apply Config.decode_of_read
    intro f
    obtain ⟨x, hx, hread⟩ := field f
    obtain ⟨origin, hf⟩ := hc f
    exact ⟨origin, by rw [hx, Option.bind_some, hread, hf]⟩

theorem exists_build_eq_ok_iff (h : l.Definite files) (w : Walk) :
    (∃ c, l.build w files = .ok c) ↔ ∀ f : Field, f.takes (l.settled files f) := by
  constructor
  · rintro ⟨c, hc⟩ f
    obtain ⟨origin, hf⟩ := (build_eq_ok_iff h w).mp hc f
    rw [← Field.isSome_read?, hf]
    rfl
  · intro htakes
    have hread (f : Field) : ∃ y, f.read? (l.settled files f) = some y :=
      Option.isSome_iff_exists.mp ((f.isSome_read? _).trans (htakes f))
    choose settings hsettings using hread
    obtain ⟨c, hc⟩ := Config.exists_setting fun f => Field.accepts_of_read? (hsettings f)
    refine ⟨c, (build_eq_ok_iff h w).mpr fun f => ?_⟩
    obtain ⟨origin, hf⟩ := hc f
    exact ⟨origin, by rw [hsettings f, hf]⟩

/-- What is wrong with the settings shows when they are decoded. -/
theorem build_cases (h : l.Definite files) (w : Walk) :
    (∃ c, l.build w files = .ok c) ∨ ∃ e, l.build w files = .error (.error e) := by
  obtain ⟨u, hu, -⟩ := merged_reading? h w
  rw [build_of_merged hu]
  cases Config.decode w u with
  | error e => exact .inr ⟨e, rfl⟩
  | ok c => exact .inl ⟨c, rfl⟩

theorem Typed.definite (h : l.Typed files) : l.Definite files where
  source s hs := by
    obtain ⟨entries, hcollect, htyped⟩ := h.source s hs
    exact ⟨entries, hcollect, htyped.definite⟩
  single o ho := by
    obtain ⟨f, hkey, haccepts⟩ := h.single o ho
    exact ⟨f, hkey, Field.not_isEmptyTable_of_accepts haccepts⟩

theorem accepts_settled (h : l.Typed files) (f : Field) : f.accepts (l.settled files f) := by
  rw [settled]
  cases hs : last? (singleGives f) l.overrides with
  | some x =>
      obtain ⟨o, ho, hx⟩ := exists_of_last? hs
      obtain ⟨g, hkey, haccepts⟩ := h.single o ho
      rw [singleGives] at hx
      split at hx
      next hf =>
        obtain rfl := Field.key_injective (hkey.symm.trans hf)
        obtain rfl := Option.some.inj hx
        exact haccepts
      next => cases hx
  | none =>
      cases hl : last? (Source.gives files f) l.sources with
      | some x =>
          obtain ⟨s, hs, hx⟩ := exists_of_last? hl
          obtain ⟨entries, hcollect, htyped⟩ := h.source s hs
          rw [Source.gives_of_collect hcollect] at hx
          exact htyped.field f x hx
      | none => cases f <;> rfl

theorem build_of_fields {w : Walk} {c : Config} {u : Value} (hu : l.merged w files = .ok u)
    (h : ∀ f, ∃ origin, u.field? f = some (c.setting origin f)) : l.build w files = .ok c := by
  rw [build_eq_ok_iff_decode hu, Config.decode_eq_ok h]

theorem build_eq_ok {c : Config} (h : l.Typed files)
    (hc : ∀ f, ∃ origin, l.settled files f = c.setting origin f) (w : Walk) :
    l.build w files = .ok c := by
  refine (build_eq_ok_iff h.definite w).mpr fun f => ?_
  obtain ⟨origin, hf⟩ := hc f
  exact ⟨origin, by rw [hf, Field.read?_of_accepts (c.accepts_setting origin f)]⟩

theorem exists_build_eq_ok (h : l.Typed files) :
    ∃ c, (∀ w, l.build w files = .ok c) ∧
      ∀ f, ∃ origin, l.settled files f = c.setting origin f := by
  obtain ⟨c, hc⟩ := Config.exists_setting (accepts_settled h)
  exact ⟨c, build_eq_ok h hc, hc⟩

end Loader

end VisitorHeader.Settings
