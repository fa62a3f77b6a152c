import VisitorHeader.Proofs.Files.Reading
import VisitorHeader.Proofs.Files.Writing

namespace VisitorHeader

def Target.location : Target → Location
  | .file l _ => l
  | .blocked l _ => l
  | .directory l => l
  | .vacant l => l

theorem Target.filled_of_ne {l : Location} {target : Target} (h : target.location ≠ l)
    (content : ByteArray) : target.filled l content = target := by
  cases target with
  | file | blocked | vacant => exact if_neg h
  | directory => rfl

namespace FileTree

/-- The path leads to a location, whether or not anything lies there yet. Paths that are written
differently may lead to one location. -/
def LeadsTo (t : FileTree) (path : String) (l : Location) : Prop :=
  ∃ target, t.locate path = .ok target ∧ target.location = l

instance (t : FileTree) (path : String) (l : Location) : Decidable (t.LeadsTo path l) :=
  decidable_of_iff ((t.locate path).toOption.map Target.location = some l) <| by
    rw [LeadsTo]
    cases t.locate path <;> simp [Except.toOption]

variable {t t' : FileTree} {l : Location}

/-- A new file opens no way that was closed, though it may be closed for another reason. -/
theorem walk_put_error (hl : t.get? l ≠ some .directory) (content : ByteArray) {here : Location}
    {steps : List String} {e : AccessError} (h : t.walk here steps = .error e) :
    ∃ e', (t.put l (.file content)).walk here steps = .error e' := by
  induction steps generalizing here with
  | nil => cases h
  | cons step rest ih =>
      cases rest with
      | nil =>
          refine ⟨e, ?_⟩
          rw [walk, enter_put hl, show t.enter here step = .error e from h, Except.map]
      | cons next rest =>
          rw [walk] at h ⊢
          · rw [enter_put hl]
            cases he : t.enter here step with
            | error e' => exact ⟨e', rfl⟩
            | ok found =>
                rw [he] at h
                cases found with
                | directory m => exact ih h
                | file m old | blocked m obstacle =>
                    by_cases hm : m = l
                    · exact ⟨.notADirectory, by simp [Except.map, Target.filled, hm]⟩
                    · exact ⟨.notADirectory, by simp [Except.map, Target.filled, hm]⟩
                | vacant m =>
                    by_cases hm : m = l
                    · exact ⟨.notADirectory, by simp [Except.map, Target.filled, hm]⟩
                    · exact ⟨.notFound, by simp [Except.map, Target.filled, hm]⟩
          · simp
          · simp

theorem locate_put_error (hl : t.get? l ≠ some .directory) (content : ByteArray) {path : String}
    {e : AccessError} (h : t.locate path = .error e) :
    ∃ e', (t.put l (.file content)).locate path = .error e' := by
  rw [locate] at h ⊢
  cases hf : Path.fault? path with
  | some e' => exact ⟨e', rfl⟩
  | none =>
      rw [hf] at h
      exact walk_put_error hl content h

theorem locate_put_of_ne (hl : t.get? l ≠ some .directory) (content : ByteArray) {path : String}
    {target : Target} (h : t.locate path = .ok target) (hne : target.location ≠ l) :
    (t.put l (.file content)).locate path = .ok target := by
  rw [locate_put hl content h, Target.filled_of_ne hne]

theorem isFile_put (hl : t.get? l ≠ some .directory) (content : ByteArray) {path : String}
    (h : ¬ t.LeadsTo path l) : (t.put l (.file content)).isFile path = t.isFile path := by
  rw [isFile, isFile]
  cases hp : t.locate path with
  | error e =>
      obtain ⟨e', he⟩ := locate_put_error hl content hp
      rw [he]
  | ok target => rw [locate_put_of_ne hl content hp fun hm => h ⟨target, hp, hm⟩]

theorem readText_put (hl : t.get? l ≠ some .directory) (content : ByteArray) {path : String}
    {target : Target} (h : t.locate path = .ok target) (hne : target.location ≠ l) :
    (t.put l (.file content)).readText path = t.readText path := by
  rw [readText, readText, readBytes, readBytes, locate_put_of_ne hl content h hne, h]

theorem exists_of_readText {path text : String} (h : t.readText path = .ok text) :
    ∃ m content, t.locate path = .ok (.file m content) := by
  rw [readText, readBytes] at h
  split at h
  next content hb =>
    split at hb
    next m old hp => exact ⟨m, old, hp⟩
    next => cases hb
    next => cases hb
    next => cases hb
    next => cases hb
  next => cases h

theorem namesDirectory_put (hl : t.get? l ≠ some .directory) (content : ByteArray) (path : String) :
    (t.put l (.file content)).namesDirectory path = t.namesDirectory path := by
  have hstart : (t.put l (.file content)).start path = t.start path := rfl
  rw [namesDirectory, namesDirectory, hstart]
  congr 1
  cases hw : t.walk (t.start path) (Path.steps path).dropLast with
  | error e =>
      obtain ⟨e', he⟩ := walk_put_error hl content hw
      rw [he]
  | ok target =>
      rw [walk_put hl content hw]
      cases target with
      | directory m => rfl
      | file m | blocked m | vacant m => by_cases hm : m = l <;> simp [Target.filled, hm]

theorem destination_put {path : String} (h : t.destination path = .ok l) (content : ByteArray) :
    (t.put l (.file content)).destination path = .ok l := by
  have hlocate := locate_put_destination h content
  have hnames := namesDirectory_put (get?_destination h) content path
  rw [destination] at h ⊢
  rw [hnames]
  split at h
  next => cases h
  next hn => rw [if_neg hn, hlocate]

/-- What was written under a path is gone when something else is. -/
theorem writeText_writeText {path text : String} (h : t.writeText path text = .ok t')
    (text' : String) : t'.writeText path text' = t.writeText path text' := by
  obtain ⟨l, hd, rfl⟩ := exists_of_writeText h
  rw [writeText, writeText, destination_put hd, hd]
  simp only [put_put]

end FileTree

end VisitorHeader
