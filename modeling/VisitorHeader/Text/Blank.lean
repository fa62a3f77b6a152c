namespace VisitorHeader.Text

abbrev Ranges := List (Nat × Nat)

def Ranges.has (rs : Ranges) (c : Char) : Bool :=
  rs.any fun r => r.1 ≤ c.toNat && c.toNat ≤ r.2

/-- The code points with the Unicode property White_Space. -/
def blankRanges : Ranges :=
  [(0x09, 0x0D), (0x20, 0x20), (0x85, 0x85), (0xA0, 0xA0), (0x1680, 0x1680), (0x2000, 0x200A),
    (0x2028, 0x2029), (0x202F, 0x202F), (0x205F, 0x205F), (0x3000, 0x3000)]

def isBlank (c : Char) : Bool := blankRanges.has c

def trimEnd : List Char → List Char
  | [] => []
  | c :: r =>
    match trimEnd r with
    | [] => if isBlank c then [] else [c]
    | d :: t => c :: d :: t

def trimChars (cs : List Char) : List Char := trimEnd (cs.dropWhile isBlank)

def trim (s : String) : String := .ofList (trimChars s.toList)

theorem trimEnd_idem (cs : List Char) : trimEnd (trimEnd cs) = trimEnd cs := by
  induction cs with
  | nil => rfl
  | cons c r ih =>
      cases h : trimEnd r with
      | nil => by_cases hc : isBlank c <;> simp [trimEnd, h, hc]
      | cons d t => rw [h] at ih; simp only [trimEnd, h] at ih ⊢; rw [ih]

theorem dropWhile_trimEnd {cs : List Char} (h : cs.dropWhile isBlank = cs) :
    (trimEnd cs).dropWhile isBlank = trimEnd cs := by
  cases cs with
  | nil => rfl
  | cons c r =>
      have hc : isBlank c = false := by
        by_cases hb : isBlank c
        · have := congrArg List.length h
          have hle := (List.dropWhile_sublist isBlank (l := r)).length_le
          simp [hb] at this
          omega
        · simpa using hb
      cases h' : trimEnd r <;> simp [trimEnd, h', hc]

theorem dropWhile_idem (cs : List Char) :
    (cs.dropWhile isBlank).dropWhile isBlank = cs.dropWhile isBlank := by
  induction cs with
  | nil => rfl
  | cons c r ih => by_cases h : isBlank c <;> simp [h, ih]

theorem trimChars_idem (cs : List Char) : trimChars (trimChars cs) = trimChars cs := by
  rw [trimChars, trimChars, dropWhile_trimEnd (dropWhile_idem cs), trimEnd_idem]

@[simp] theorem trim_idem (s : String) : trim (trim s) = trim s := by
  simp [trim, trimChars_idem]

end VisitorHeader.Text
