import VisitorHeader.Number.Digits

namespace VisitorHeader.Settings

/-- One step into a setting: to the entry of a table or to the element of an array, from the end if
the index is negative. -/
inductive Step where
  | entry (name : String)
  | element (index : Int)
deriving DecidableEq

structure Key where
  name : String
  steps : List Step
deriving DecidableEq

inductive KeyError where
  | noName
  | noStep
  | noDigits
  | indexTooGreat
deriving DecidableEq

def KeyError.message : KeyError → String
  | noName => "IsA"
  | noStep => "Char"
  | noDigits => "Digit"
  | indexTooGreat => "Map on Result"

namespace Key

def isNameChar (c : Char) : Bool := c.isAlphanum || c == ' ' || c == '_' || c == '-'

def isSpace (c : Char) : Bool := c == ' ' || c == '\t'

def index (cs : List Char) : Except KeyError (Int × List Char) :=
  let (negative, r) := match cs.dropWhile isSpace with
    | '-' :: r => (true, r)
    | r => (false, r)
  let ds := r.takeWhile Char.isDigit
  let n := Digits.signed negative (Digits.value ds)
  if ds.isEmpty then .error .noDigits
  else if !Digits.fitsWord n then .error .indexTooGreat
  else
    match (r.dropWhile Char.isDigit).dropWhile isSpace with
    | ']' :: r => .ok (n, r)
    | _ => .error .noStep

def parseSteps : Nat → List Char → Except KeyError (List Step)
  | _, [] => .ok []
  | 0, _ => .error .noStep
  | bound + 1, '.' :: r =>
    if (r.takeWhile isNameChar).isEmpty then .error .noStep
    else do
      let rest ← parseSteps bound (r.dropWhile isNameChar)
      return .entry (.ofList (r.takeWhile isNameChar)) :: rest
  | bound + 1, '[' :: r => do
    let (n, r) ← index r
    let rest ← parseSteps bound r
    return .element n :: rest
  | _, _ => .error .noStep

def parse (text : String) : Except KeyError Key :=
  let cs := text.toList
  let name := cs.takeWhile isNameChar
  if name.isEmpty then .error .noName
  else do return ⟨.ofList name, ← parseSteps cs.length (cs.dropWhile isNameChar)⟩

end Key

end VisitorHeader.Settings
