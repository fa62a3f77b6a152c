namespace VisitorHeader.Terminal

inductive Progress where
  | ground
  | escape
  | escapeIntermediate
  | control
  | device
  | deviceParameter
  | deviceIntermediate
  | string
  | command
deriving DecidableEq

def within (low high : Nat) (c : Char) : Bool := low ≤ c.toNat && c.toNat ≤ high

/-- The byte `9C` in the encoding of a character ends a control string. -/
def endsString (c : Char) : Bool :=
  (String.utf8EncodeChar c).contains 0x9C

def afterEscape (c : Char) : Progress :=
  if within 0x20 0x2F c then .escapeIntermediate
  else if c = '[' then .control
  else if c = ']' then .command
  else if c = 'P' then .device
  else if c = 'X' ∨ c = '^' ∨ c = '_' then .string
  else if within 0x30 0x7E c then .ground
  else .escape

def next (p : Progress) (c : Char) : Progress :=
  if c = '\x18' ∨ c = '\x1a' then .ground
  else if c = '\x1b' then .escape
  else
    match p with
    | .ground => .ground
    | .escape => afterEscape c
    | .escapeIntermediate => if within 0x30 0x7E c then .ground else p
    | .control => if within 0x40 0x7E c then .ground else p
    | .device =>
      if within 0x20 0x2F c then .deviceIntermediate
      else if within 0x30 0x3F c then .deviceParameter
      else if within 0x40 0x7E c then .string
      else p
    | .deviceParameter =>
      if within 0x20 0x2F c then .deviceIntermediate
      else if within 0x3C 0x7E c then .string
      else p
    | .deviceIntermediate => if within 0x30 0x7E c then .string else p
    | .string => if endsString c then .ground else p
    | .command => if c = '\x07' then .ground else p

def isBlankControl (c : Char) : Bool := c == '\t' || c == '\n' || c == '\x0c' || c == '\r'

def shows (p : Progress) (c : Char) : Bool :=
  match p with
  | .ground => isBlankControl c || 0x20 ≤ c.toNat && c != '\x7f'
  | .escape | .escapeIntermediate | .control => isBlankControl c
  | _ => false

/-- Once a character is shown the following ones are taken as text, until one is not shown; only
then an unfinished sequence goes on. -/
def plainFrom (showing : Bool) (p : Progress) : List Char → List Char
  | [] => []
  | c :: r =>
    if shows (if showing then .ground else p) c then
      c :: plainFrom true (if c.toNat < 0x80 then p else .ground) r
    else plainFrom false (next p c) r

def plain (s : String) : String := .ofList (plainFrom true .ground s.toList)

theorem plainFrom_of_shows {cs : List Char} (h : ∀ c ∈ cs, shows .ground c) :
    plainFrom true .ground cs = cs := by
  induction cs with
  | nil => rfl
  | cons c r ih =>
      have hc : shows .ground c := h c (by simp)
      simp [plainFrom, hc, ih fun d hd => h d (by simp [hd])]

end VisitorHeader.Terminal
