import VisitorHeader.Settings.Value

namespace VisitorHeader.Settings

/-- The order in which a process comes by what it holds in tables. Names are hashed with keys that
are drawn anew in every process, so that any order can come up, and another one the next time. -/
structure Walk where
  order {α : Type} : List α → List α
  perm {α : Type} (xs : List α) : (order xs).Perm xs

namespace Walk

def written : Walk := ⟨id, .refl⟩

variable (w : Walk)

mutual
def arrange : Value → Value
  | .table origin entries => .table origin (w.order (arrangeEach entries))
  | v => v
def arrangeEach : List (String × Value) → List (String × Value)
  | [] => []
  | (name, v) :: rest => (name, arrange v) :: arrangeEach rest
end

def entries (es : List (String × Value)) : List (String × Value) := w.order (w.arrangeEach es)

end Walk

end VisitorHeader.Settings
