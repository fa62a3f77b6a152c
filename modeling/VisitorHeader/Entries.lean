namespace VisitorHeader

/-- Values under names. A name occurs once, at the place of its first setting. -/
abbrev Entries (α : Type) := List (String × α)

namespace Entries

variable {α : Type}

def get? (es : Entries α) (name : String) : Option α := es.lookup name

def set : Entries α → String → α → Entries α
  | [], name, a => [(name, a)]
  | (n, b) :: es, name, a => if n = name then (n, a) :: es else (n, b) :: set es name a

@[simp] theorem get?_nil (name : String) : get? ([] : Entries α) name = none := rfl

theorem get?_cons (n : String) (b : α) (es : Entries α) (name : String) :
    get? ((n, b) :: es) name = if name = n then some b else get? es name := by
  by_cases h : name = n
  · subst h; simp [get?]
  · have hb : (name == n) = false := by simpa using h
    simp [get?, List.lookup_cons, hb, h]

theorem get?_set (es : Entries α) (name : String) (a : α) (other : String) :
    (es.set name a).get? other = if other = name then some a else es.get? other := by
  induction es with
  | nil => simp [set, get?_cons]
  | cons e es ih =>
      obtain ⟨n, b⟩ := e
      by_cases hn : n = name
      · subst hn
        by_cases ho : other = n <;> simp [set, get?_cons, ho]
      · by_cases ho : other = n
        · subst ho; simp [set, get?_cons, hn]
        · simp [set, get?_cons, hn, ho, ih]

end Entries

end VisitorHeader
