import VisitorHeader.Entries
import VisitorHeader.Settings.Key
import VisitorHeader.Settings.Value

namespace VisitorHeader.Settings

/-- Names are compared in lower case. The names that settings are read by are ASCII, and besides
`A` to `Z` only the Kelvin sign has a lower case in ASCII. -/
def lowerChar (c : Char) : Char := if c = '\u212a' then 'k' else c.toLower

def lowerName (name : String) : String := .ofList (name.toList.map lowerChar)

inductive Fault where
  | beforeStart (index : Int) (size : Nat)
  | beyondCapacity (index : Int)
deriving DecidableEq

def Fault.message : Fault → String
  | beforeStart index size =>
    "index " ++ toString index ++ " lies before the start of an array of " ++ toString size
  | beyondCapacity index => "an array cannot grow to index " ++ toString index

namespace Value

def asTable : Value → Value
  | .table origin entries => .table origin entries
  | _ => emptyTable

def entries : Value → List (String × Value)
  | .table _ entries => entries
  | _ => []

def get? (v : Value) (name : String) : Option Value :=
  match v with
  | .table _ entries => Entries.get? entries name
  | _ => none

def setEntry (v : Value) (name : String) (x : Value) : Value :=
  match v with
  | .table origin entries => .table origin (Entries.set entries name x)
  | _ => .table none [(name, x)]

mutual
/-- Sets an entry. A table is merged into what is there name by name, anything else takes its
place. -/
def put (name : String) : Value → Value → Value
  | .table _ incoming, target =>
    let target := target.asTable
    let present := (target.get? (lowerName name)).getD emptyTable
    target.setEntry (lowerName name) (putAll incoming present)
  | x, target => target.asTable.setEntry (lowerName name) x
def putAll : List (String × Value) → Value → Value
  | [], target => target
  | (name, x) :: rest, target => putAll rest (put name x target)
end

/-- What an array holds at most: its bytes are counted in a signed word, and a setting takes 96 of
them. Within this there is always memory for an array to grow. -/
def capacity : Nat := (Nat.pow 2 63 - 1) / 96

def position (index : Int) (size : Nat) : Except Fault Nat :=
  if index + size < 0 then .error (.beforeStart index size)
  else if capacity ≤ index then .error (.beyondCapacity index)
  else if index < 0 then .ok (index + size).toNat
  else .ok index.toNat

def changeElement (index : Int) (change : Value → Except Fault Value) :
    Value → Except Fault Value
  | .array origin items => do
    let i ← position index items.length
    let items := items ++ List.replicate (i + 1 - items.length) .nil
    let x ← change (items.getD i .nil)
    return .array origin (items.set i x)
  | _ => do
    let i ← position index 0
    let items := List.replicate (i + 1) .nil
    let x ← change .nil
    return .array none (items.set i x)

/-- Sets what lies behind the steps. Whatever has not the kind that a step asks for makes way. -/
def assign (x : Value) : List Step → Value → Except Fault Value
  | [], _ => .ok x
  | [.entry name], v => .ok (put name x v)
  | .entry name :: rest, v => do
    let v := v.asTable
    let inner ← assign x rest ((v.get? (lowerName name)).getD .nil)
    return v.setEntry (lowerName name) inner
  | .element i :: rest, v => changeElement i (assign x rest) v

def assignKey (v : Value) (key : Key) (x : Value) : Except Fault Value :=
  assign x (.entry key.name :: key.steps) v

/-- The topmost names of a layer are keys with steps, if they can be read as such. -/
def assignNamed (v : Value) (name : String) (x : Value) : Except Fault Value :=
  match Key.parse name with
  | .ok key => v.assignKey key x
  | .error _ => .ok (put name x v)

def assignAll (v : Value) (entries : List (String × Value)) : Except Fault Value :=
  entries.foldlM (fun v e => v.assignNamed e.1 e.2) v

end Value

end VisitorHeader.Settings
