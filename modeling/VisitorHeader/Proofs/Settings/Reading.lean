import VisitorHeader.Proofs.Settings.Fields

namespace VisitorHeader.Settings

namespace Value

def isScalar : Value → Bool
  | .boolean _ | .integer _ | .float _ | .string _ => true
  | .nil | .array .. | .table .. => false

def isTable : Value → Bool
  | .table .. => true
  | _ => false

def isEmptyTable : Value → Bool
  | .table _ entries => entries.isEmpty
  | _ => false

def texts? : Value → Option (List String)
  | .array _ items => items.mapM text?
  | _ => none

theorem isSome_text? (v : Value) : v.text?.isSome = v.isScalar := by
  cases v <;> rfl

theorem isSome_mapM_text? (items : List Value) :
    (items.mapM text?).isSome = items.all isScalar := by
  induction items with
  | nil => rfl
  | cons v items ih =>
      rw [List.all_cons, ← ih, ← isSome_text?, List.mapM_cons]
      cases v.text? with
      | none => rfl
      | some s => cases items.mapM text? <;> rfl

theorem mapM_text?_string (ss : List String) : (ss.map string).mapM text? = some ss := by
  induction ss with
  | nil => rfl
  | cons s ss ih =>
      rw [List.map_cons, List.mapM_cons, ih]
      rfl

theorem exists_of_isText {v : Value} (h : v.isText) : ∃ s, v = .string s := by
  cases v with
  | string s => exact ⟨s, rfl⟩
  | nil | boolean | integer | float | array | table => cases h

theorem exists_of_all_isText {items : List Value} (h : items.all isText) :
    ∃ ss : List String, items = ss.map string := by
  induction items with
  | nil => exact ⟨[], rfl⟩
  | cons v items ih =>
      rw [List.all_cons, Bool.and_eq_true] at h
      obtain ⟨s, rfl⟩ := exists_of_isText h.1
      obtain ⟨ss, rfl⟩ := ih h.2
      exact ⟨s :: ss, rfl⟩

theorem all_isText_map (ss : List String) : (ss.map string).all isText := by
  rw [List.all_map, List.all_eq_true]
  intro s _
  rfl

theorem isTable_setEntry (v : Value) (name : String) (x : Value) :
    (v.setEntry name x).isTable := by
  cases v <;> rfl

theorem isTable_put (name : String) (x v : Value) : (put name x v).isTable := by
  cases x <;> exact isTable_setEntry _ _ _

theorem isTable_putAll (entries : Layer) {v : Value} (h : v.isTable) :
    (putAll entries v).isTable := by
  induction entries generalizing v with
  | nil => exact h
  | cons e entries ih => exact ih (isTable_put e.1 e.2 v)

theorem isTable_onto {origin : Option String} {entries : Layer} (h : entries ≠ [])
    (present : Option Value) : ((table origin entries).onto present).isTable := by
  cases entries with
  | nil => exact absurd rfl h
  | cons e entries => exact isTable_putAll entries (isTable_put e.1 e.2 _)

end Value

namespace Field

variable {f : Field} {x y : Value}

/-- What a field can be read from: anything that has a text, and for the includes an array. -/
def takes : Field → Value → Bool
  | includes, .array _ items => items.all Value.isScalar
  | includes, _ => false
  | _, v => v.isScalar

def read? : Field → Value → Option Value
  | includes, v => v.texts?.map fun ss => .array v.origin? (ss.map .string)
  | _, v => v.text?.map .string

theorem isSome_read? (f : Field) (x : Value) : (f.read? x).isSome = f.takes x := by
  cases f with
  | includes =>
      rw [read?, Option.isSome_map]
      cases x with
      | array origin items => exact Value.isSome_mapM_text? items
      | nil | boolean | integer | float | string | table => rfl
  | input | output | namespaceName | className | markerInterface | visitorInterface
  | visitMethod => exact Option.isSome_map.trans (Value.isSome_text? x)

theorem exists_of_accepts_includes (h : includes.accepts x) :
    ∃ (origin : Option String) (ss : List String), x = .array origin (ss.map .string) := by
  cases x with
  | array origin items =>
      obtain ⟨ss, rfl⟩ := Value.exists_of_all_isText h
      exact ⟨origin, ss, rfl⟩
  | nil | boolean | integer | float | string | table => cases h

theorem read?_of_accepts (h : f.accepts x) : f.read? x = some x := by
  cases f with
  | includes =>
      obtain ⟨origin, ss, rfl⟩ := exists_of_accepts_includes h
      rw [read?, Value.texts?, Value.mapM_text?_string]
      rfl
  | input | output | namespaceName | className | markerInterface | visitorInterface
  | visitMethod =>
      obtain ⟨s, rfl⟩ := Value.exists_of_isText h
      rfl

theorem accepts_of_read? (h : f.read? x = some y) : f.accepts y := by
  cases f with
  | includes =>
      obtain ⟨ss, -, rfl⟩ := Option.map_eq_some_iff.mp h
      exact Value.all_isText_map ss
  | input | output | namespaceName | className | markerInterface | visitorInterface
  | visitMethod =>
      obtain ⟨s, -, rfl⟩ := Option.map_eq_some_iff.mp h
      rfl

theorem read?_of_isTable (h : x.isTable) : f.read? x = none := by
  cases x with
  | table => cases f <;> rfl
  | nil | boolean | integer | float | string | array => cases h

/-- Only an empty table can take over what it is put over. -/
theorem read?_onto (h : ¬ x.isEmptyTable) (present : Option Value) :
    f.read? (x.onto present) = f.read? x := by
  cases x with
  | table origin entries =>
      have hne : entries ≠ [] := fun he => h (List.isEmpty_iff.mpr he)
      rw [read?_of_isTable (Value.isTable_onto hne present), read?_of_isTable rfl]
  | nil | boolean | integer | float | string | array => rfl

theorem not_isEmptyTable_of_accepts (h : f.accepts x) : ¬ x.isEmptyTable := by
  cases x with
  | table => cases f <;> cases h
  | nil | boolean | integer | float | string | array => exact Bool.false_ne_true

end Field

end VisitorHeader.Settings
