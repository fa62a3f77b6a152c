import VisitorHeader.Toml.Value

namespace VisitorHeader.Toml

def quote : Char := '\x22'

def apostrophe : Char := '\x27'

def isSpace (c : Char) : Bool := c == ' ' || c == '\t'

def isPlain (c : Char) : Bool := c == '\t' || 0x20 ≤ c.toNat && c != '\x7f'

def isBasic (c : Char) : Bool := isPlain c && c != quote && c != '\\'

def isLiteral (c : Char) : Bool := isPlain c && c != apostrophe

def isBareKey (c : Char) : Bool := c.isAlphanum || c == '_' || c == '-'

def skipSpace (cs : List Char) : List Char := cs.dropWhile isSpace

def newline? : List Char → Option (List Char)
  | '\n' :: r => some r
  | '\r' :: '\n' :: r => some r
  | _ => none

def skipComment : List Char → List Char
  | '#' :: r => r.dropWhile isPlain
  | cs => cs

def lineEnd? (cs : List Char) : Option (List Char) :=
  match skipComment (skipSpace cs) with
  | [] => some []
  | rest => newline? rest

def skipTrivia (inComment : Bool) : List Char → List Char
  | [] => []
  | c :: r =>
    if inComment && isPlain c then skipTrivia true r
    else if isSpace c || c == '\n' then skipTrivia false r
    else if c == '\r' && r.head? == some '\n' then skipTrivia false r
    else if c == '#' then skipTrivia true r
    else c :: r

def hexDigit? (c : Char) : Option Nat :=
  if c.isDigit then some (c.toNat - 48)
  else if 'a' ≤ c && c ≤ 'f' then some (c.toNat - 87)
  else if 'A' ≤ c && c ≤ 'F' then some (c.toNat - 55)
  else none

def hexNumber? (cs : List Char) : Option Nat :=
  cs.foldl (fun n c => do return 16 * (← n) + (← hexDigit? c)) (some 0)

def codePoint? (cs : List Char) : Option Char := do
  let n ← hexNumber? cs
  if n.isValidChar then some (Char.ofNat n) else none

def escape? (c : Char) : Option Char :=
  if c == 'b' then some '\x08'
  else if c == 't' then some '\t'
  else if c == 'n' then some '\n'
  else if c == 'f' then some '\x0c'
  else if c == 'r' then some '\r'
  else if c == '\\' || c == quote then some c
  else none

def basicTail : List Char → Option (List Char × List Char)
  | [] => none
  | '\\' :: 'u' :: a :: b :: c :: d :: r => do
    let x ← codePoint? [a, b, c, d]
    let (s, r) ← basicTail r
    return (x :: s, r)
  | '\\' :: 'U' :: a :: b :: c :: d :: e :: f :: g :: h :: r => do
    let x ← codePoint? [a, b, c, d, e, f, g, h]
    let (s, r) ← basicTail r
    return (x :: s, r)
  | '\\' :: c :: r => do
    let x ← escape? c
    let (s, r) ← basicTail r
    return (x :: s, r)
  | c :: r =>
    if c == quote then some ([], r)
    else if isBasic c then do
      let (s, r) ← basicTail r
      return (c :: s, r)
    else none

def literalTail : List Char → Option (List Char × List Char)
  | [] => none
  | c :: r =>
    if c == apostrophe then some ([], r)
    else if isLiteral c then do
      let (s, r) ← literalTail r
      return (c :: s, r)
    else none

/-- Three delimiters end a long string; up to two more before them belong to it. -/
def closing? (delimiter : Char) (cs : List Char) : Option (List Char × List Char) :=
  let run := (cs.takeWhile (· == delimiter)).length
  if run < 3 then none
  else
    let own := min (run - 3) 2
    some (List.replicate own delimiter, cs.drop (own + 3))

def endsLine (cs : List Char) : Bool := (newline? (skipSpace cs)).isSome

/-- The rest of a long string in quotes. After a backslash at the end of a line the blanks and line
ends that follow are skipped. -/
def longBasicTail (skipping : Bool) : List Char → Option (List Char × List Char)
  | [] => none
  | '\\' :: 'u' :: a :: b :: c :: d :: r => do
    let x ← codePoint? [a, b, c, d]
    let (s, r) ← longBasicTail false r
    return (x :: s, r)
  | '\\' :: 'U' :: a :: b :: c :: d :: e :: f :: g :: h :: r => do
    let x ← codePoint? [a, b, c, d, e, f, g, h]
    let (s, r) ← longBasicTail false r
    return (x :: s, r)
  | '\\' :: c :: r =>
    if endsLine (c :: r) then longBasicTail true r
    else do
      let x ← escape? c
      let (s, r) ← longBasicTail false r
      return (x :: s, r)
  | c :: r =>
    if skipping && (isSpace c || c == '\n' || c == '\r' && r.head? == some '\n') then
      longBasicTail true r
    else if c == quote then
      match closing? quote (c :: r) with
      | some end_ => some end_
      | none => do
        let (s, r) ← longBasicTail false r
        return (c :: s, r)
    else if c == '\r' && r.head? == some '\n' then longBasicTail false r
    else if isBasic c || c == '\n' then do
      let (s, r) ← longBasicTail false r
      return (c :: s, r)
    else none

def longLiteralTail : List Char → Option (List Char × List Char)
  | [] => none
  | c :: r =>
    if c == apostrophe then
      match closing? apostrophe (c :: r) with
      | some end_ => some end_
      | none => do
        let (s, r) ← longLiteralTail r
        return (c :: s, r)
    else if c == '\r' && r.head? == some '\n' then longLiteralTail r
    else if isLiteral c || c == '\n' then do
      let (s, r) ← longLiteralTail r
      return (c :: s, r)
    else none

def skipFirstLineEnd (cs : List Char) : List Char := (newline? cs).getD cs

def string? (cs : List Char) : Option (String × List Char) := do
  let (s, r) ← match cs with
    | '\x22' :: '\x22' :: '\x22' :: r => longBasicTail false (skipFirstLineEnd r)
    | '\x22' :: r => basicTail r
    | '\x27' :: '\x27' :: '\x27' :: r => longLiteralTail (skipFirstLineEnd r)
    | '\x27' :: r => literalTail r
    | _ => none
  return (.ofList s, r)

def bareKey? (cs : List Char) : Option (String × List Char) :=
  if (cs.takeWhile isBareKey).isEmpty then none
  else some (.ofList (cs.takeWhile isBareKey), cs.dropWhile isBareKey)

def simpleKey? (cs : List Char) : Option (String × List Char) :=
  match cs with
  | '\x22' :: r => (basicTail r).map fun (s, r) => (.ofList s, r)
  | '\x27' :: r => (literalTail r).map fun (s, r) => (.ofList s, r)
  | cs => bareKey? cs

def dottedKey? : Nat → List Char → Option (DottedKey × List Char)
  | 0, _ => none
  | parts + 1, cs => do
    let (first, r) ← simpleKey? (skipSpace cs)
    match skipSpace r with
    | '.' :: r => do
      let (key, r) ← dottedKey? parts r
      return (⟨first :: key.parents, key.name⟩, r)
    | r => return (⟨[], first⟩, r)

end VisitorHeader.Toml
