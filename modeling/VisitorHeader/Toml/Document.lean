import VisitorHeader.Toml.Scalar
import VisitorHeader.Toml.Table

namespace VisitorHeader.Toml

/-- How deep arrays and inline tables may be nested, and how many parts a key may have. -/
def depthLimit : Nat := 79

abbrev Reader (α : Type) := List Char → Option (α × List Char)

def elements (value : Reader Value) : Nat → Reader (List Value)
  | 0, _ => none
  | bound + 1, cs =>
    match skipTrivia false cs with
    | ']' :: r => some ([], r)
    | cs => do
      let (v, r) ← value cs
      match skipTrivia false r with
      | ',' :: r => do
        let (vs, r) ← elements value bound r
        return (v :: vs, r)
      | ']' :: r => return ([v], r)
      | _ => none

def pair (value : Reader Value) : Reader (DottedKey × Value) := fun cs => do
  let (key, r) ← dottedKey? depthLimit cs
  match r with
  | '=' :: r =>
    let (v, r) ← value (skipSpace r)
    return ((key, v), r)
  | _ => none

def inlinePairs (value : Reader Value) : Nat → Reader (List (DottedKey × Value))
  | 0, _ => none
  | bound + 1, cs => do
    let (p, r) ← pair value cs
    match skipSpace r with
    | ',' :: r => do
      let (ps, r) ← inlinePairs value bound r
      return (p :: ps, r)
    | '\x7d' :: r => return ([p], r)
    | _ => none

def tableOfPairs? (pairs : List (DottedKey × Value)) : Option Table :=
  pairs.foldlM (fun t p => t.addPair p.1 p.2) .explicit

def inlineTable (value : Reader Value) : Reader Value := fun cs =>
  match skipSpace cs with
  | '\x7d' :: r => some (.table [], r)
  | _ => do
    let (pairs, r) ← inlinePairs value cs.length cs
    let t ← tableOfPairs? pairs
    return (.table t.values, r)

def value? : Nat → Reader Value
  | depth, '[' :: r =>
    match depth with
    | 0 => none
    | depth + 1 => do
      let (vs, r) ← elements (value? depth) (r.length + 1) r
      return (.array vs, r)
  | depth, '\x7b' :: r =>
    match depth with
    | 0 => none
    | depth + 1 => inlineTable (value? depth) r
  | _, cs => scalar? cs

inductive Statement where
  | header (key : DottedKey)
  | elementHeader (key : DottedKey)
  | pair (key : DottedKey) (v : Value)

def statement? (cs : List Char) : Option (Statement × List Char) :=
  match cs with
  | '[' :: '[' :: r => do
    let (key, r) ← dottedKey? depthLimit r
    match r with
    | ']' :: ']' :: r => return (.elementHeader key, r)
    | _ => none
  | '[' :: r => do
    let (key, r) ← dottedKey? depthLimit r
    match r with
    | ']' :: r => return (.header key, r)
    | _ => none
  | cs => do
    let ((key, v), r) ← pair (value? depthLimit) cs
    return (.pair key v, r)

def statements : Nat → List Char → Option (List Statement)
  | 0, cs => if cs.isEmpty then some [] else none
  | bound + 1, cs =>
    match skipSpace cs with
    | [] => some []
    | c :: r =>
      if c == '#' || c == '\n' || c == '\r' then do
        let rest ← lineEnd? (c :: r)
        statements bound rest
      else do
        let (s, rest) ← statement? (c :: r)
        let rest ← lineEnd? rest
        return s :: (← statements bound rest)

structure Draft where
  root : Table
  current : List String

def Draft.add (d : Draft) : Statement → Option Draft
  | .header key => do return ⟨← d.root.openTable key, key.parents ++ [key.name]⟩
  | .elementHeader key => do return ⟨← d.root.openElement key, key.parents ++ [key.name]⟩
  | .pair key v => do return { d with root := ← d.root.addPairAt d.current key v }

def assemble? (ss : List Statement) : Option Table :=
  (ss.foldlM Draft.add ⟨.explicit, []⟩).map (·.root)

def skipByteOrderMark : List Char → List Char
  | '\ufeff' :: r => r
  | cs => cs

def parseChars? (cs : List Char) : Option (List (String × Value)) := do
  let cs := skipByteOrderMark cs
  let ss ← statements (cs.length + 1) cs
  let t ← assemble? ss
  return t.values

def parse? (text : String) : Option (List (String × Value)) := parseChars? text.toList

end VisitorHeader.Toml
