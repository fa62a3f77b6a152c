import VisitorHeader.Settings.Merge

namespace VisitorHeader.Settings

theorem exists_of_bind_eq_ok {α β ε : Type} {r : Except ε α} {f : α → Except ε β} {b : β}
    (h : (r >>= f) = .ok b) : ∃ a, r = .ok a ∧ f a = .ok b := by
  cases r with
  | error e => cases h
  | ok a => exact ⟨a, rfl, h⟩

abbrev Layer := List (String × Value)

namespace Layer

def get? (entries : Layer) (name : String) : Option Value :=
  (entries.find? fun e => lowerName e.1 = name).map Prod.snd

def Distinct (entries : Layer) : Prop := (entries.map fun e => lowerName e.1).Nodup

instance (entries : Layer) : Decidable (Distinct entries) :=
  inferInstanceAs (Decidable (_ : List _).Nodup)

@[simp] theorem get?_nil (name : String) : get? [] name = none := rfl

theorem get?_cons (n : String) (x : Value) (entries : Layer) (name : String) :
    get? ((n, x) :: entries) name = if lowerName n = name then some x else get? entries name := by
  by_cases h : lowerName n = name <;> simp [get?, h]

theorem get?_of_distinct {n : String} {x : Value} {entries : Layer}
    (h : Distinct ((n, x) :: entries)) : get? entries (lowerName n) = none := by
  have hn : lowerName n ∉ entries.map fun e => lowerName e.1 := (List.nodup_cons.mp h).1
  rw [get?, Option.map_eq_none_iff, List.find?_eq_none]
  intro e he hname
  exact hn (List.mem_map.mpr ⟨e, he, of_decide_eq_true hname⟩)

section Lower

variable {entries : Layer} (h : ∀ n ∈ entries.map Prod.fst, lowerName n = n)

include h

theorem get?_of_lower (name : String) : get? entries name = Entries.get? entries name := by
  induction entries with
  | nil => rfl
  | cons e rest ih =>
      obtain ⟨n, x⟩ := e
      have hn : lowerName n = n := h n (by simp)
      rw [get?_cons, Entries.get?_cons, hn, ih fun m hm => h m (by simp [hm])]
      simp only [eq_comm]

theorem distinct_of_lower (hnodup : (entries.map Prod.fst).Nodup) : Distinct entries := by
  have hnames : entries.map (fun e => lowerName e.1) = entries.map Prod.fst :=
    List.map_congr_left fun e he => h e.1 (List.mem_map_of_mem he)
  rw [Distinct, hnames]
  exact hnodup

end Lower

end Layer

namespace Value

@[simp] theorem get?_asTable (v : Value) (name : String) : v.asTable.get? name = v.get? name := by
  cases v <;> rfl

theorem get?_setEntry (v : Value) (name : String) (x : Value) (other : String) :
    (v.setEntry name x).get? other = if other = name then some x else v.get? other := by
  cases v with
  | table origin entries => exact Entries.get?_set entries name x other
  | nil | boolean | integer | float | string | array => exact Entries.get?_cons name x [] other

/-- What becomes of a setting that another one is put over: tables are merged. -/
def onto (x : Value) (present : Option Value) : Value :=
  match x with
  | .table _ incoming => putAll incoming (present.getD emptyTable)
  | x => x

theorem get?_put (name : String) (x v : Value) (other : String) :
    (put name x v).get? other =
      if other = lowerName name then some (x.onto (v.get? other)) else v.get? other := by
  cases x with
  | table origin incoming =>
      rw [put, get?_setEntry, get?_asTable, get?_asTable]
      split
      next h => rw [h, onto]
      next => rfl
  | nil | boolean | integer | float | string | array =>
      rw [put, get?_setEntry, get?_asTable]
      · rfl
      · intro origin incoming h
        cases h

/-- Merging a layer changes the entries that it names, and no others. -/
theorem get?_putAll {incoming : Layer} (h : Layer.Distinct incoming) (v : Value) (name : String) :
    (putAll incoming v).get? name =
      match Layer.get? incoming name with
      | some x => some (x.onto (v.get? name))
      | none => v.get? name := by
  induction incoming generalizing v with
  | nil => rfl
  | cons e rest ih =>
      obtain ⟨n, x⟩ := e
      rw [putAll, ih (List.nodup_cons.mp h).2, Layer.get?_cons, get?_put]
      by_cases hn : name = lowerName n
      · -- none of the later entries has this name
        subst hn
        rw [Layer.get?_of_distinct h, if_pos rfl, if_pos rfl]
      · rw [if_neg hn, if_neg (Ne.symm hn)]

end Value

namespace Key

def isPath (name : String) : Bool :=
  match parse name with
  | .ok key => !key.steps.isEmpty
  | .error _ => false

theorem eq_nil_of_parseSteps {bound : Nat} {cs : List Char} (h : parseSteps bound cs = .ok []) :
    cs = [] := by
  unfold parseSteps at h
  split at h
  next => rfl
  next => cases h
  next bound r =>
    split at h
    next => cases h
    next =>
      obtain ⟨rest, -, hrest⟩ := exists_of_bind_eq_ok h
      cases hrest
  next bound r =>
    obtain ⟨x, -, hx⟩ := exists_of_bind_eq_ok h
    obtain ⟨rest, -, hrest⟩ := exists_of_bind_eq_ok hx
    cases hrest
  next => cases h

theorem eq_of_parse {name : String} {key : Key} (h : parse name = .ok key)
    (hpath : ¬ isPath name) : key = ⟨name, []⟩ := by
  have hsteps : key.steps = [] := by simpa [isPath, h] using hpath
  rw [parse] at h
  split at h
  next => cases h
  next =>
    obtain ⟨steps, hs, hkey⟩ := exists_of_bind_eq_ok h
    obtain rfl := Except.ok.inj hkey
    obtain rfl : steps = [] := hsteps
    have hall : name.toList.takeWhile isNameChar = name.toList := by
      have hrest := eq_nil_of_parseSteps hs
      have happend := List.takeWhile_append_dropWhile (p := isNameChar) (l := name.toList)
      rwa [hrest, List.append_nil] at happend
    rw [hall, String.ofList_toList]

end Key

namespace Value

theorem assignNamed_of_not_isPath {name : String} (h : ¬ Key.isPath name) (v x : Value) :
    v.assignNamed name x = .ok (put name x v) := by
  rw [assignNamed]
  cases hkey : Key.parse name with
  | error e => rfl
  | ok key =>
      rw [Key.eq_of_parse hkey h]
      rfl

theorem assignAll_eq_putAll {entries : Layer} (h : ∀ e ∈ entries, ¬ Key.isPath e.1) (v : Value) :
    v.assignAll entries = .ok (putAll entries v) := by
  rw [assignAll]
  induction entries generalizing v with
  | nil => rfl
  | cons e rest ih =>
      rw [List.foldlM_cons, assignNamed_of_not_isPath (h e (by simp))]
      exact ih (fun e' he' => h e' (by simp [he'])) _

end Value

end VisitorHeader.Settings
