import VisitorHeader.Settings.Merge

namespace VisitorHeader.Settings

/-- A left fold fails as the first step does that fails. -/
theorem foldlM_eq_error_iff {α β ε : Type} {f : β → α → Except ε β} {xs : List α} {b : β} {e : ε} :
    xs.foldlM f b = .error e ↔
      ∃ before x after c, xs = before ++ x :: after ∧ before.foldlM f b = .ok c ∧
        f c x = .error e := by
  constructor
  · intro h
    induction xs generalizing b with
    | nil => cases h
    | cons x xs ih =>
        rw [List.foldlM_cons] at h
        cases hx : f b x with
        | error e' =>
            rw [hx] at h
            obtain rfl := Except.error.inj h
            exact ⟨[], x, xs, b, rfl, rfl, hx⟩
        | ok c =>
            rw [hx] at h
            obtain ⟨before, y, after, d, rfl, hd, hy⟩ := ih h
            refine ⟨x :: before, y, after, d, rfl, ?_, hy⟩
            rw [List.foldlM_cons, hx]
            exact hd
  · rintro ⟨before, x, after, c, rfl, hc, he⟩
    rw [List.foldlM_append, hc]
    change (x :: after).foldlM f c = _
    rw [List.foldlM_cons, he]
    rfl

namespace Value

def items : Value → List Value
  | .array _ items => items
  | _ => []

def place (index : Int) (size : Nat) : Nat :=
  if index < 0 then (index + size).toNat else index.toNat

def behind (v : Value) : Step → Value
  | .entry name => (v.get? (lowerName name)).getD .nil
  | .element i => v.items.getD (place i v.items.length) .nil

/-- The setting has no element at the index, and cannot be made to have one. -/
def Lacks (v : Value) (i : Int) : Prop := i + v.items.length < 0 ∨ capacity ≤ i

def Oversteps (v : Value) (steps : List Step) : Prop :=
  ∃ before i after, steps = before ++ .element i :: after ∧ (before.foldl behind v).Lacks i

theorem not_oversteps_of_no_element {v : Value} {steps : List Step}
    (h : ∀ i, Step.element i ∉ steps) : ¬ v.Oversteps steps := by
  rintro ⟨before, i, after, rfl, _⟩
  apply h i
  simp

theorem oversteps_entry (v : Value) (name : String) (rest : List Step) :
    v.Oversteps (.entry name :: rest) ↔ (v.behind (.entry name)).Oversteps rest := by
  constructor
  · rintro ⟨before, i, after, h, hi⟩
    cases before with
    | nil => cases h
    | cons s before =>
        cases h
        exact ⟨before, i, after, rfl, hi⟩
  · rintro ⟨before, i, after, rfl, hi⟩
    exact ⟨.entry name :: before, i, after, rfl, hi⟩

theorem oversteps_element (v : Value) (i : Int) (rest : List Step) :
    v.Oversteps (.element i :: rest) ↔
      v.Lacks i ∨ (v.behind (.element i)).Oversteps rest := by
  constructor
  · rintro ⟨before, j, after, h, hj⟩
    cases before with
    | nil =>
        cases h
        exact .inl hj
    | cons s before =>
        cases h
        exact .inr ⟨before, j, after, rfl, hj⟩
  · rintro (hi | ⟨before, j, after, rfl, hj⟩)
    · exact ⟨[], i, rest, rfl, hi⟩
    · exact ⟨.element i :: before, j, after, rfl, hj⟩

theorem position_of_lacks {v : Value} {i : Int} (h : v.Lacks i) :
    ∃ f, position i v.items.length = .error f := by
  unfold position
  split
  · exact ⟨_, rfl⟩
  · rename_i hstart
    rw [if_pos (h.resolve_left hstart)]
    exact ⟨_, rfl⟩

theorem position_of_not_lacks {v : Value} {i : Int} (h : ¬ v.Lacks i) :
    position i v.items.length = .ok (place i v.items.length) := by
  have hstart : ¬ i + v.items.length < 0 := fun hi => h (.inl hi)
  have hcapacity : ¬ (capacity : Int) ≤ i := fun hi => h (.inr hi)
  rw [position, if_neg hstart, if_neg hcapacity, place]
  split <;> rfl

theorem getD_append_replicate_nil (items : List Value) (n i : Nat) :
    (items ++ List.replicate n Value.nil).getD i .nil = items.getD i .nil := by
  simp only [List.getD_eq_getElem?_getD]
  rcases Nat.lt_or_ge i items.length with h | h
  · rw [List.getElem?_append_left h]
  · rw [List.getElem?_append_right h, List.getElem?_eq_none h, List.getElem?_replicate]
    split <;> rfl

theorem changeElement_of_lacks {v : Value} {i : Int} (h : v.Lacks i)
    (change : Value → Except Fault Value) : ∃ f, changeElement i change v = .error f := by
  obtain ⟨f, hf⟩ := position_of_lacks h
  refine ⟨f, ?_⟩
  cases v with
  | array origin items =>
      change position i items.length = .error f at hf
      rw [changeElement, hf]
      rfl
  | nil | boolean | integer | float | string | table =>
      change position i 0 = .error f at hf
      rw [changeElement, hf]
      · rfl
      · intro origin items h
        cases h

theorem changeElement_of_not_lacks {v : Value} {i : Int} (h : ¬ v.Lacks i)
    (change : Value → Except Fault Value) :
    ∃ restore : Value → Value,
      changeElement i change v = (change (v.behind (.element i))).map restore := by
  have hp := position_of_not_lacks h
  cases v with
  | array origin items =>
      change position i items.length = .ok (place i items.length) at hp
      refine ⟨fun x => .array origin ((items ++ List.replicate
        (place i items.length + 1 - items.length) Value.nil).set (place i items.length) x), ?_⟩
      -- the element that is changed was there before the filling, or else is nothing
      have hget := getD_append_replicate_nil items (place i items.length + 1 - items.length)
        (place i items.length)
      rw [changeElement, hp]
      change (change _ >>= fun x => _) = _
      rw [hget]
      rfl
  | nil | boolean | integer | float | string | table =>
      change position i 0 = .ok (place i 0) at hp
      refine ⟨fun x => .array none
        ((List.replicate (place i 0 + 1) Value.nil).set (place i 0) x), ?_⟩
      rw [changeElement, hp]
      · rfl
      · intro origin items h
        cases h

theorem map_eq_error_iff {α β ε : Type} (f : α → β) (r : Except ε α) :
    (∃ e, r.map f = .error e) ↔ ∃ e, r = .error e := by
  cases r with
  | error e => exact ⟨fun _ => ⟨e, rfl⟩, fun _ => ⟨e, rfl⟩⟩
  | ok a =>
      constructor
      · rintro ⟨e, h⟩
        cases h
      · rintro ⟨e, h⟩
        cases h

theorem assign_eq_error_iff (x : Value) (steps : List Step) (v : Value) :
    (∃ f, assign x steps v = .error f) ↔ v.Oversteps steps := by
  induction steps generalizing v with
  | nil =>
      constructor
      · rintro ⟨f, h⟩
        cases h
      · intro h
        exact absurd h (not_oversteps_of_no_element (by simp))
  | cons s rest ih =>
      cases s with
      | entry name =>
          rw [oversteps_entry, ← ih]
          cases rest with
          | nil =>
              -- the last step sets an entry of whatever is there
              constructor
              · rintro ⟨f, h⟩
                cases h
              · rintro ⟨f, h⟩
                cases h
          | cons s rest =>
              have hget : v.asTable.get? (lowerName name) = v.get? (lowerName name) := by
                cases v <;> rfl
              rw [assign, hget]
              · exact map_eq_error_iff _ _
              · intro h
                cases h
      | element i =>
          rw [oversteps_element, assign]
          by_cases h : v.Lacks i
          · exact ⟨fun _ => .inl h, fun _ => changeElement_of_lacks h _⟩
          · obtain ⟨restore, hr⟩ := changeElement_of_not_lacks h (assign x rest)
            rw [hr, map_eq_error_iff, ih, or_iff_right h]

def NameOversteps (v : Value) (name : String) : Prop :=
  ∃ key, Key.parse name = .ok key ∧ v.Oversteps (.entry key.name :: key.steps)

theorem assignNamed_eq_error_iff (v : Value) (name : String) (x : Value) :
    (∃ f, v.assignNamed name x = .error f) ↔ v.NameOversteps name := by
  unfold assignNamed NameOversteps
  cases hkey : Key.parse name with
  | error e =>
      constructor
      · rintro ⟨f, h⟩
        cases h
      · rintro ⟨key, h, _⟩
        cases h
  | ok key =>
      constructor
      · rintro ⟨f, h⟩
        exact ⟨key, rfl, (assign_eq_error_iff x _ v).mp ⟨f, h⟩⟩
      · rintro ⟨key, h, ho⟩
        cases h
        exact (assign_eq_error_iff x _ v).mpr ho

/-- One of the names of a layer oversteps in what the names before it have made of a setting. -/
def LayerOversteps (v : Value) (entries : List (String × Value)) : Prop :=
  ∃ before e after w, entries = before ++ e :: after ∧ v.assignAll before = .ok w ∧
    w.NameOversteps e.1

theorem assignAll_eq_error_iff (v : Value) (entries : List (String × Value)) :
    (∃ f, v.assignAll entries = .error f) ↔ v.LayerOversteps entries := by
  constructor
  · rintro ⟨f, h⟩
    obtain ⟨before, e, after, w, hentries, hw, he⟩ := foldlM_eq_error_iff.mp h
    exact ⟨before, e, after, w, hentries, hw, (assignNamed_eq_error_iff w e.1 e.2).mp ⟨f, he⟩⟩
  · rintro ⟨before, e, after, w, hentries, hw, he⟩
    obtain ⟨f, hf⟩ := (assignNamed_eq_error_iff w e.1 e.2).mpr he
    exact ⟨f, foldlM_eq_error_iff.mpr ⟨before, e, after, w, hentries, hw, hf⟩⟩

end Value

end VisitorHeader.Settings
