import VisitorHeader.Node.Identifier
import VisitorHeader.Text.Blank

namespace VisitorHeader

structure NodeName where
  text : String
  text_ne_empty : text ≠ ""
  trim_text : Text.trim text = text
deriving DecidableEq

namespace NodeName

def ofLine? (line : String) : Option NodeName :=
  if h : Text.trim line = "" then none else some ⟨Text.trim line, h, Text.trim_idem line⟩

def isIdentifier (n : NodeName) : Bool := Identifier.isQualified n.text.toList

instance : ToString NodeName := ⟨text⟩

@[ext] theorem ext {m n : NodeName} (h : m.text = n.text) : m = n := by
  cases m; cases n; simpa using h

theorem ofLine?_text (n : NodeName) : ofLine? n.text = some n := by
  simp [ofLine?, n.trim_text, n.text_ne_empty]

theorem text_eq_trim_of_ofLine? {line : String} {n : NodeName} (h : ofLine? line = some n) :
    n.text = Text.trim line := by
  by_cases ht : Text.trim line = ""
  · simp [ofLine?, ht] at h
  · simp [ofLine?, ht] at h; simp [← h]

end NodeName

end VisitorHeader
