import VisitorHeader.Files.Access

namespace VisitorHeader

def Target.filled (l : Location) (content : ByteArray) : Target → Target
  | .file m old => if m = l then .file l content else .file m old
  | .blocked m obstacle => if m = l then .file l content else .blocked m obstacle
  | .directory m => .directory m
  | .vacant m => if m = l then .file l content else .vacant m

namespace FileTree

def flat (texts : List (String × String)) : FileTree where
  entries := (["w"], .directory) :: texts.map fun x => (["w", x.1], .file x.2.toUTF8)
  workingDirectory := ["w"]

variable {t t' : FileTree} {l : Location}

theorem ne_nil_of_get? (hl : t.get? l ≠ some .directory) : l ≠ [] := by
  rintro rfl
  exact hl rfl

theorem enter_put (hl : t.get? l ≠ some .directory) (content : ByteArray) (here : Location)
    (step : String) : (t.put l (.file content)).enter here step =
      (t.enter here step).map (Target.filled l content) := by
  rw [enter, enter]
  split
  · rfl
  split
  · rfl
  split
  · rfl
  by_cases hs : here ++ [step] = l
  · subst hs
    rw [get?_put_self (ne_nil_of_get? hl)]
    cases h : t.get? (here ++ [step]) with
    | none => simp [Except.map, Target.filled]
    | some e =>
        cases e with
        | file | blocked => simp [Except.map, Target.filled]
        | directory => exact absurd h hl
  · rw [get?_put_of_ne hs]
    cases t.get? (here ++ [step]) with
    | none => simp [Except.map, Target.filled, hs]
    | some e => cases e <;> simp [Except.map, Target.filled, hs]

theorem walk_put (hl : t.get? l ≠ some .directory) (content : ByteArray) {here : Location}
    {steps : List String} {target : Target} (h : t.walk here steps = .ok target) :
    (t.put l (.file content)).walk here steps = .ok (target.filled l content) := by
  induction steps generalizing here with
  | nil =>
      obtain rfl := Except.ok.inj h
      rfl
  | cons step rest ih =>
      cases rest with
      | nil => rw [walk, enter_put hl, show t.enter here step = .ok target from h, Except.map]
      | cons next rest =>
          rw [walk] at h ⊢
          · rw [enter_put hl]
            cases he : t.enter here step with
            | error e => simp [he] at h
            | ok found =>
                cases found with
                | file | blocked | vacant => simp [he] at h
                | directory m =>
                    rw [he] at h
                    exact ih h
          · simp
          · simp

theorem locate_put (hl : t.get? l ≠ some .directory) (content : ByteArray) {path : String}
    {target : Target} (h : t.locate path = .ok target) :
    (t.put l (.file content)).locate path = .ok (target.filled l content) := by
  rw [locate] at h ⊢
  cases hf : Path.fault? path with
  | some e => simp [hf] at h
  | none =>
      rw [hf] at h
      exact walk_put hl content h

def Holds (t : FileTree) : Target → Prop
  | .file l content => t.get? l = some (.file content)
  | .blocked l obstacle => t.get? l = some (.blocked obstacle)
  | .directory _ => True
  | .vacant l => t.get? l = none

theorem holds_enter {here : Location} {step : String} {target : Target}
    (h : t.enter here step = .ok target) : t.Holds target := by
  rw [enter] at h
  split at h
  · obtain rfl := Except.ok.inj h
    trivial
  split at h
  · obtain rfl := Except.ok.inj h
    trivial
  split at h
  · cases h
  · split at h
    next content hc =>
      obtain rfl := Except.ok.inj h
      exact hc
    next obstacle hb =>
      obtain rfl := Except.ok.inj h
      exact hb
    next hd =>
      obtain rfl := Except.ok.inj h
      trivial
    next hn =>
      obtain rfl := Except.ok.inj h
      exact hn

theorem holds_walk {here : Location} {steps : List String} {target : Target}
    (h : t.walk here steps = .ok target) : t.Holds target := by
  induction steps generalizing here with
  | nil =>
      obtain rfl := Except.ok.inj h
      trivial
  | cons step rest ih =>
      cases rest with
      | nil => exact holds_enter h
      | cons next rest =>
          rw [walk] at h
          · split at h
            next => exact ih h
            next => cases h
            next => cases h
            next => cases h
            next => cases h
          · simp

theorem holds_locate {path : String} {target : Target} (h : t.locate path = .ok target) :
    t.Holds target := by
  rw [locate] at h
  split at h
  · cases h
  · exact holds_walk h

/-- The place that a path gives for writing: there is a file, or nothing yet. -/
theorem locate_of_destination {path : String} (h : t.destination path = .ok l) :
    t.locate path = .ok (.vacant l) ∨ ∃ content, t.locate path = .ok (.file l content) := by
  rw [destination] at h
  split at h
  · cases h
  · split at h
    next m content hf =>
      obtain rfl := Except.ok.inj h
      exact .inr ⟨content, hf⟩
    next => cases h
    next m hv =>
      obtain rfl := Except.ok.inj h
      exact .inl hv
    next => cases h
    next => cases h

theorem get?_destination {path : String} (h : t.destination path = .ok l) :
    t.get? l ≠ some .directory := by
  rcases locate_of_destination h with hv | ⟨content, hf⟩
  · rw [show t.get? l = none from holds_locate hv]
    simp
  · rw [show t.get? l = some (.file content) from holds_locate hf]
    simp

theorem exists_of_writeText {path text : String} (h : t.writeText path text = .ok t') :
    ∃ l, t.destination path = .ok l ∧ t' = t.put l (.file text.toUTF8) := by
  rw [writeText] at h
  split at h
  next l hl => exact ⟨l, hl, (Except.ok.inj h).symm⟩
  next => cases h

theorem locate_put_destination {path : String} (h : t.destination path = .ok l)
    (content : ByteArray) :
    (t.put l (.file content)).locate path = .ok (.file l content) := by
  have hl := get?_destination h
  rcases locate_of_destination h with hv | ⟨old, hf⟩
  · simpa [Target.filled] using locate_put hl content hv
  · simpa [Target.filled] using locate_put hl content hf

/-- What is written under a path is read under it. -/
theorem readBytes_writeText {path text : String} (h : t.writeText path text = .ok t') :
    t'.readBytes path = .ok text.toUTF8 := by
  obtain ⟨l, hd, rfl⟩ := exists_of_writeText h
  rw [readBytes, locate_put_destination hd]

theorem readText_writeText {path text : String} (h : t.writeText path text = .ok t') :
    t'.readText path = .ok text := by
  rw [readText, readBytes_writeText h]
  exact decode_toUTF8 text

end FileTree

end VisitorHeader
