import VisitorHeader.Entries
import VisitorHeader.Toml.Value

namespace VisitorHeader.Toml

/-- A table in the making. It is implicit as long as only longer keys have mentioned it, and
dotted if such a key stood before an equals sign. -/
structure TableOf (α : Type) where
  implicit : Bool
  dotted : Bool
  entries : List (String × α)

inductive Item where
  | value (v : Value)
  | table (t : TableOf Item)
  | tables (ts : List (TableOf Item))

abbrev Table := TableOf Item

namespace Table

def explicit : Table := ⟨false, false, []⟩

def get? (t : Table) (key : String) : Option Item := Entries.get? t.entries key

def set (t : Table) (key : String) (item : Item) : Table :=
  { t with entries := Entries.set t.entries key item }

/-- Applies a change to the table at a path. Tables on the way are made where they are missing, an
array of tables stands for its last element, and a dotted key enters no table that has a header
of its own. -/
def modifyAt (dotted : Bool) (change : Table → Option Table) :
    List String → Table → Option Table
  | [], t => change t
  | key :: path, t =>
    match t.get? key with
    | none => do
      let child ← modifyAt dotted change path ⟨true, dotted, []⟩
      return t.set key (.table child)
    | some (.value _) => none
    | some (.table child) =>
      if dotted && !child.implicit then none
      else do
        let child ← modifyAt dotted change path child
        return t.set key (.table child)
    | some (.tables ts) => do
      let last ← ts.getLast?
      let last ← modifyAt dotted change path last
      return t.set key (.tables (ts.dropLast ++ [last]))

/-- A name is given once, and never in a table that a header has made if the key has dots. -/
def addName (viaDots : Bool) (name : String) (v : Value) (t : Table) : Option Table :=
  if t.dotted != viaDots || (t.get? name).isSome then none
  else some (t.set name (.value v))

def addPair (key : DottedKey) (v : Value) (t : Table) : Option Table :=
  modifyAt true (addName (!key.parents.isEmpty) key.name v) key.parents t

def openTable (key : DottedKey) (t : Table) : Option Table :=
  modifyAt false (fun parent =>
    match parent.get? key.name with
    | none => some (parent.set key.name (.table explicit))
    | some (.table child) =>
      if child.implicit && !child.dotted then
        some (parent.set key.name (.table { child with implicit := false }))
      else none
    | some _ => none) key.parents t

def openElement (key : DottedKey) (t : Table) : Option Table :=
  modifyAt false (fun parent =>
    match parent.get? key.name with
    | none => some (parent.set key.name (.tables [explicit]))
    | some (.tables ts) => some (parent.set key.name (.tables (ts ++ [explicit])))
    | some _ => none) key.parents t

def addPairAt (path : List String) (key : DottedKey) (v : Value) (t : Table) : Option Table :=
  modifyAt false (addPair key v) path t

end Table

mutual
def Item.toValue : Item → Value
  | .value v => v
  | .table ⟨_, _, entries⟩ => .table (entryValues entries)
  | .tables ts => .array (tableValues ts)
def entryValues : List (String × Item) → List (String × Value)
  | [] => []
  | (key, item) :: rest => (key, item.toValue) :: entryValues rest
def tableValues : List (TableOf Item) → List Value
  | [] => []
  | ⟨_, _, entries⟩ :: rest => .table (entryValues entries) :: tableValues rest
end

def Table.values (t : Table) : List (String × Value) := entryValues t.entries

end VisitorHeader.Toml
