namespace VisitorHeader

abbrev Location := List String

instance decidableEqContent : DecidableEq ByteArray := ByteArray.decEq

inductive Obstacle where
  | permission
  | device
deriving DecidableEq

/-- A blocked file is there, but cannot be opened, or else not be read or written once it is. -/
inductive Entry where
  | file (content : ByteArray)
  | blocked (obstacle : Obstacle)
  | directory
deriving DecidableEq

structure FileTree where
  entries : List (Location × Entry)
  workingDirectory : Location
deriving DecidableEq

namespace FileTree

def get? (t : FileTree) (l : Location) : Option Entry :=
  if l = [] then some .directory else t.entries.lookup l

def put (t : FileTree) (l : Location) (e : Entry) : FileTree :=
  { t with entries := (l, e) :: t.entries.filter (·.1 ≠ l) }

def discard (t : FileTree) (l : Location) : FileTree :=
  { t with entries := t.entries.filter fun x => !l.isPrefixOf x.1 }

def place (t : FileTree) (l : Location) (e : Entry) : FileTree :=
  let parents := (List.range l.length).map l.take
  (parents.foldl (fun t p => if (t.get? p).isSome then t else t.put p .directory) t).put l e

def below (t : FileTree) (l : Location) : List (Location × Entry) :=
  t.entries.filterMap fun x =>
    if l.isPrefixOf x.1 ∧ l.length < x.1.length then some (x.1.drop l.length, x.2) else none

theorem lookup_filter_ne {l l' : Location} (h : l' ≠ l) (es : List (Location × Entry)) :
    (es.filter (·.1 ≠ l)).lookup l' = es.lookup l' := by
  induction es with
  | nil => rfl
  | cons x es ih =>
      obtain ⟨k, e⟩ := x
      by_cases hk : k = l
      · subst hk
        have hb : (l' == k) = false := by simpa using h
        simpa [List.lookup_cons, hb] using ih
      · rw [List.filter_cons_of_pos (by simpa using hk)]
        simp only [List.lookup_cons, ih]

theorem get?_put_self {t : FileTree} {l : Location} (h : l ≠ []) (e : Entry) :
    (t.put l e).get? l = some e := by
  simp [get?, put, h]

theorem get?_put_of_ne {t : FileTree} {l l' : Location} (h : l' ≠ l) (e : Entry) :
    (t.put l e).get? l' = t.get? l' := by
  have hb : (l' == l) = false := by simpa using h
  simp only [get?, put, List.lookup_cons, hb, lookup_filter_ne h]

theorem put_put (t : FileTree) (l : Location) (e e' : Entry) :
    (t.put l e).put l e' = t.put l e' := by
  simp [put]

end FileTree

end VisitorHeader
