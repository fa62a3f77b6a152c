import VisitorHeader.Proofs.Settings.Reading
import VisitorHeader.Settings.Walk

namespace VisitorHeader.Settings

namespace Layer

theorem Distinct.of_perm {entries entries' : Layer} (h : Distinct entries)
    (hperm : entries'.Perm entries) : Distinct entries' := by
  have hnames := hperm.map fun e => lowerName e.1
  exact hnames.nodup_iff.mpr h

theorem get?_of_perm {entries entries' : Layer} (hperm : entries.Perm entries')
    (h : Distinct entries) (name : String) : get? entries name = get? entries' name := by
  induction hperm with
  | nil => rfl
  | cons e _ ih =>
      obtain ⟨n, x⟩ := e
      rw [get?_cons, get?_cons, ih (List.nodup_cons.mp h).2]
  | swap e e' rest =>
      obtain ⟨m, x⟩ := e
      obtain ⟨n, y⟩ := e'
      have hne : lowerName n ≠ lowerName m := fun hnm =>
        (List.nodup_cons.mp h).1 (List.mem_cons.mpr (.inl hnm))
      rw [get?_cons, get?_cons, get?_cons, get?_cons]
      by_cases hm : lowerName m = name
      · rw [if_pos hm, if_neg fun hn => hne (hn.trans hm.symm), if_pos hm]
      · rw [if_neg hm, if_neg hm]
  | trans hfirst _ ih ih' => rw [ih h, ih' (h.of_perm hfirst.symm)]

theorem get?_map (g : Value → Value) (entries : Layer) (name : String) :
    get? (entries.map fun e => (e.1, g e.2)) name = (get? entries name).map g := by
  induction entries with
  | nil => rfl
  | cons e rest ih =>
      rw [List.map_cons, get?_cons, get?_cons, ih]
      split <;> rfl

end Layer

namespace Walk

open Layer

def reversed : Walk := ⟨List.reverse, List.reverse_perm⟩

variable (w : Walk) {entries : Layer}

theorem arrangeEach_eq_map (es : Layer) :
    w.arrangeEach es = es.map fun e => (e.1, w.arrange e.2) := by
  induction es with
  | nil => rfl
  | cons e rest ih => rw [arrangeEach, ih, List.map_cons]

theorem entries_perm (es : Layer) : (w.entries es).Perm (es.map fun e => (e.1, w.arrange e.2)) := by
  rw [← arrangeEach_eq_map]
  exact w.perm _

theorem distinct_map (h : Distinct entries) :
    Distinct (entries.map fun e => (e.1, w.arrange e.2)) := by
  rw [Distinct, List.map_map]
  exact h

theorem distinct_entries (h : Distinct entries) : Distinct (w.entries entries) :=
  (w.distinct_map h).of_perm (w.entries_perm entries)

theorem get?_entries (h : Distinct entries) (name : String) :
    get? (w.entries entries) name = (get? entries name).map w.arrange := by
  rw [get?_of_perm (w.entries_perm entries) (w.distinct_entries h), get?_map]

theorem isSection_arrange {v : Value} (h : isSection v) : isSection (w.arrange v) := by
  cases v with
  | table origin inner => exact decide_eq_true (w.distinct_entries (of_decide_eq_true h))
  | nil | boolean | integer | float | string | array => cases h

/-- A tidy layer stays one, in whatever order its tables are walked. -/
theorem tidy_entries (h : Tidy entries) : Tidy (w.entries entries) where
  entry e he := by
    obtain ⟨e', he', rfl⟩ := List.mem_map.mp ((w.entries_perm entries).mem_iff.mp he)
    exact h.entry e' he'
  distinct := w.distinct_entries h.distinct
  table f v hv := by
    rw [w.get?_entries h.distinct] at hv
    obtain ⟨v', hv', rfl⟩ := Option.map_eq_some_iff.mp hv
    exact w.isSection_arrange (h.table f v' hv')

/-- The order of the walk does not show in the fields of a tidy layer. -/
theorem field?_entries (h : Tidy entries) (f : Field) :
    field? (w.entries entries) f = (field? entries f).map w.arrange := by
  rw [field?, w.get?_entries h.distinct, field?]
  cases hs : get? entries f.layout.name with
  | none => rfl
  | some v =>
      cases v with
      | table origin inner =>
          exact w.get?_entries (of_decide_eq_true (h.table f _ hs)) f.name
      | nil | boolean | integer | float | string | array => rfl

theorem arrange_of_accepts {f : Field} {x : Value} (h : f.accepts x) : w.arrange x = x := by
  cases x with
  | table => cases f <;> cases h
  | nil | boolean | integer | float | string | array => rfl

theorem isEmptyTable_arrange (x : Value) : (w.arrange x).isEmptyTable = x.isEmptyTable := by
  cases x with
  | table origin inner =>
      have hlength : (w.entries inner).length = inner.length :=
        (w.entries_perm inner).length_eq.trans (List.length_map _)
      rw [Bool.eq_iff_iff]
      change (w.entries inner).isEmpty = true ↔ inner.isEmpty = true
      rw [List.isEmpty_iff_length_eq_zero, hlength, List.isEmpty_iff_length_eq_zero]
  | nil | boolean | integer | float | string | array => rfl

theorem read?_arrange (f : Field) (x : Value) : f.read? (w.arrange x) = f.read? x := by
  cases x with
  | table => exact (Field.read?_of_isTable rfl).trans (Field.read?_of_isTable rfl).symm
  | nil | boolean | integer | float | string | array => rfl

theorem read?_arrange_onto {f : Field} {x : Value} (h : ¬ x.isEmptyTable) (present : Option Value) :
    f.read? ((w.arrange x).onto present) = f.read? x := by
  rw [Field.read?_onto (by rwa [isEmptyTable_arrange]), read?_arrange]

end Walk

end VisitorHeader.Settings
