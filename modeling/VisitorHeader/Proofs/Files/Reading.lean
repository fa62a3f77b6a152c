import VisitorHeader.Files.Access

namespace VisitorHeader.FileTree

variable {t : FileTree} {path : String}

theorem decode_of_not_text {content : ByteArray} (h : ∀ s : String, content ≠ s.toUTF8) :
    decode content = .error .notText := by
  rw [decode, String.fromUTF8?]
  split
  next s hs =>
    split at hs
    next hvalid => exact absurd rfl (h (String.fromUTF8 content hvalid))
    next => cases hs
  next => rfl

theorem readText_of_text {s : String} (h : t.readBytes path = .ok s.toUTF8) :
    t.readText path = .ok s := by
  rw [readText, h]
  exact decode_toUTF8 s

theorem readText_of_not_text {content : ByteArray} (h : t.readBytes path = .ok content)
    (htext : ∀ s : String, content ≠ s.toUTF8) : t.readText path = .error .notText := by
  rw [readText, h]
  exact decode_of_not_text htext

theorem readText_of_error {e : AccessError} (h : t.readBytes path = .error e) :
    t.readText path = .error e := by
  rw [readText, h]

theorem readBytes_cases (t : FileTree) (path : String) :
    (∃ e, t.readBytes path = .error e) ∨ (∃ s : String, t.readBytes path = .ok s.toUTF8) ∨
      ∃ content, t.readBytes path = .ok content ∧ ∀ s : String, content ≠ s.toUTF8 := by
  cases h : t.readBytes path with
  | error e => exact .inl ⟨e, rfl⟩
  | ok content =>
      by_cases hs : ∃ s : String, content = s.toUTF8
      · obtain ⟨s, rfl⟩ := hs
        exact .inr (.inl ⟨s, rfl⟩)
      · exact .inr (.inr ⟨content, rfl, fun s he => hs ⟨s, he⟩⟩)

theorem exists_of_isFile (h : t.isFile path) : ∃ target, t.locate path = .ok target := by
  rw [isFile] at h
  cases hp : t.locate path with
  | error e => simp [hp] at h
  | ok target => exact ⟨target, rfl⟩

end VisitorHeader.FileTree
