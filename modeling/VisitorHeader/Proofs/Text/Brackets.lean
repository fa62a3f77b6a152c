import Mathlib.Data.List.Basic

namespace VisitorHeader.Text

def bracketPairs : List (Char × Char) := [('(', ')'), ('\x7b', '\x7d'), ('<', '>'), ('[', ']')]

def brackets : List Char := bracketPairs.flatMap fun p => [p.1, p.2]

def Unbracketed (cs : List Char) : Prop := ∀ c ∈ cs, c ∉ brackets

instance (cs : List Char) : Decidable (Unbracketed cs) := List.decidableBAll _ cs

inductive Nested : List Char → Prop
  | nil : Nested []
  | plain (c cs) (hc : c ∉ brackets) (h : Nested cs) : Nested (c :: cs)
  | pair (opening closing inner rest) (hp : (opening, closing) ∈ bracketPairs)
      (hinner : Nested inner) (hrest : Nested rest) :
      Nested (opening :: (inner ++ closing :: rest))

/-- One character more. What is open is known by the brackets that are to close it, the innermost
first; a bracket may only close the innermost. -/
def enterChar (pending : List Char) (c : Char) : Option (List Char) :=
  match bracketPairs.lookup c with
  | some closing => some (closing :: pending)
  | none =>
    if c ∉ brackets then some pending
    else if pending.head? = some c then some pending.tail
    else none

def nesting (pending cs : List Char) : Option (List Char) := cs.foldlM enterChar pending

variable {pending : List Char}

theorem enterChar_plain {c : Char} (h : c ∉ brackets) : enterChar pending c = some pending := by
  have hlookup : bracketPairs.lookup c = none := by
    rw [List.lookup_eq_none_iff]
    intro p hp
    rw [bne_iff_ne]
    rintro rfl
    exact h (List.mem_flatMap.2 ⟨p, hp, by simp⟩)
  rw [enterChar, hlookup]
  exact if_pos h

theorem enterChar_opening {opening closing : Char} (h : (opening, closing) ∈ bracketPairs) :
    enterChar pending opening = some (closing :: pending) := by
  have hlookup : ∀ p ∈ bracketPairs, bracketPairs.lookup p.1 = some p.2 := by decide
  rw [enterChar, hlookup _ h]

theorem enterChar_closing {opening closing : Char} (h : (opening, closing) ∈ bracketPairs) :
    enterChar (closing :: pending) closing = some pending := by
  have hlookup : ∀ p ∈ bracketPairs, bracketPairs.lookup p.2 = none ∧ p.2 ∈ brackets := by decide
  obtain ⟨hnone, hmem⟩ := hlookup _ h
  rw [enterChar, hnone]
  simp [hmem]

theorem enterChar_cases {c : Char} {next : List Char} (h : enterChar pending c = some next) :
    (∃ closing, (c, closing) ∈ bracketPairs ∧ next = closing :: pending) ∨
      (c ∉ brackets ∧ next = pending) ∨ pending = c :: next := by
  rw [enterChar] at h
  split at h
  next closing hlookup =>
    obtain ⟨before, after, hpairs, -⟩ := List.lookup_eq_some_iff.1 hlookup
    exact .inl ⟨closing, hpairs ▸ by simp, (Option.some.inj h).symm⟩
  next =>
    split at h
    next hc => exact .inr (.inl ⟨hc, (Option.some.inj h).symm⟩)
    next =>
      split at h
      next hhead =>
        obtain rfl := Option.some.inj h
        exact .inr (.inr (List.eq_cons_of_mem_head? hhead))
      next => cases h

theorem nesting_cons (c : Char) (cs : List Char) :
    nesting pending (c :: cs) = (enterChar pending c).bind (nesting · cs) := List.foldlM_cons

theorem nesting_append (cs ds : List Char) :
    nesting pending (cs ++ ds) = (nesting pending cs).bind (nesting · ds) := List.foldlM_append

/-- A text that is nested leaves open what was open before it. -/
theorem Nested.nesting_eq {cs : List Char} (h : Nested cs) (pending : List Char) :
    nesting pending cs = some pending := by
  induction h generalizing pending with
  | nil => rfl
  | plain c cs hc _ ih => rw [nesting_cons, enterChar_plain hc, Option.bind_some, ih]
  | pair opening closing inner rest hp _ _ hinner hrest =>
      rw [nesting_cons, enterChar_opening hp, Option.bind_some, nesting_append, hinner,
        Option.bind_some, nesting_cons, enterChar_closing hp, Option.bind_some, hrest]

theorem Nested.append {cs ds : List Char} (hc : Nested cs) (hd : Nested ds) :
    Nested (cs ++ ds) := by
  induction hc with
  | nil => exact hd
  | plain c cs hc _ ih => exact .plain c _ hc ih
  | pair opening closing inner rest hp hinner _ _ hrest =>
      rw [List.cons_append, List.append_assoc, List.cons_append]
      exact .pair opening closing inner _ hp hinner hrest

theorem Unbracketed.nested {cs : List Char} (h : Unbracketed cs) : Nested cs := by
  induction cs with
  | nil => exact .nil
  | cons c cs ih =>
      obtain ⟨hc, hcs⟩ := List.forall_mem_cons.1 h
      exact .plain c cs hc (ih hcs)

theorem Unbracketed.append {cs ds : List Char} (hc : Unbracketed cs) (hd : Unbracketed ds) :
    Unbracketed (cs ++ ds) :=
  List.forall_mem_append.2 ⟨hc, hd⟩

def Completes : List Char → List Char → Prop
  | [], cs => Nested cs
  | closing :: pending, cs =>
    ∃ inner rest, cs = inner ++ closing :: rest ∧ Nested inner ∧ Completes pending rest

theorem Nested.completes {cs ds : List Char} (h : Nested cs) (hd : Completes pending ds) :
    Completes pending (cs ++ ds) := by
  cases pending with
  | nil => exact h.append hd
  | cons closing pending =>
      obtain ⟨inner, rest, rfl, hinner, hrest⟩ := hd
      exact ⟨cs ++ inner, rest, by rw [List.append_assoc], h.append hinner, hrest⟩

theorem completes_of_nesting {cs : List Char} (h : nesting pending cs = some []) :
    Completes pending cs := by
  induction cs generalizing pending with
  | nil =>
      obtain rfl := Option.some.inj h
      exact .nil
  | cons c cs ih =>
      rw [nesting_cons] at h
      obtain ⟨next, hnext, hrest⟩ := Option.bind_eq_some_iff.1 h
      have hcs := ih hrest
      rcases enterChar_cases hnext with ⟨closing, hp, rfl⟩ | ⟨hc, rfl⟩ | rfl
      · -- what the new bracket opens is closed where the rest closes its innermost
        obtain ⟨inner, rest, rfl, hinner, hrest⟩ := hcs
        have hpair : Nested (c :: (inner ++ [closing])) := .pair c closing inner [] hp hinner .nil
        rw [List.append_cons, ← List.cons_append]
        exact hpair.completes hrest
      · exact Nested.completes (.plain c [] hc .nil) hcs
      · exact ⟨[], cs, rfl, .nil, hcs⟩

/-- Keeping account of what is open decides whether a text is nested. -/
theorem nested_iff (cs : List Char) : Nested cs ↔ nesting [] cs = some [] :=
  ⟨fun h => h.nesting_eq [], fun h => completes_of_nesting h⟩

end VisitorHeader.Text
