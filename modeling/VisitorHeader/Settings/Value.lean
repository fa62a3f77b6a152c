import VisitorHeader.Number.Shortest
import VisitorHeader.Text.Quoted
import VisitorHeader.Toml.Value

namespace VisitorHeader.Settings

inductive Value where
  | nil
  | boolean (b : Bool)
  | integer (n : Int)
  | float (x : Binary64)
  | string (s : String)
  | array (origin : Option String) (items : List Value)
  | table (origin : Option String) (entries : List (String × Value))
deriving Inhabited

namespace Value

def emptyTable : Value := .table none []

mutual
/-- A setting as it is written in a file. The name `$__toml_private_datetime`, which readers of TOML
keep for dates, is taken here for a name like any other. -/
def ofToml (origin : Option String) : Toml.Value → Value
  | .string s => .string s
  | .integer n => .integer n
  | .float x => .float x
  | .boolean b => .boolean b
  | .dateTime d => .string d.text
  | .array items => .array origin (itemsOfToml origin items)
  | .table entries => .table origin (entriesOfToml origin entries)
def itemsOfToml (origin : Option String) : List Toml.Value → List Value
  | [] => []
  | v :: rest => ofToml origin v :: itemsOfToml origin rest
def entriesOfToml (origin : Option String) : List (String × Toml.Value) → List (String × Value)
  | [] => []
  | (name, v) :: rest => (name, ofToml origin v) :: entriesOfToml origin rest
end

def origin? : Value → Option String
  | .array origin _ => origin
  | .table origin _ => origin
  | _ => none

def text? : Value → Option String
  | .boolean b => some (if b then "true" else "false")
  | .integer n => some (toString n)
  | .float x => some x.text
  | .string s => some s
  | .nil | .array .. | .table .. => none

def kind : Value → String
  | .nil => "unit value"
  | .boolean _ => "boolean"
  | .integer _ => "integer"
  | .float _ => "floating point"
  | .string _ => "string"
  | .array .. => "sequence"
  | .table .. => "map"

def description (v : Value) : String :=
  match v with
  | .string s => v.kind ++ " " ++ Text.quoted s
  | .float x => v.kind ++ " `" ++ x.textWithPoint ++ "`"
  | .boolean b => v.kind ++ " `" ++ (if b then "true" else "false") ++ "`"
  | .integer n => v.kind ++ " `" ++ toString n ++ "`"
  | .nil | .array .. | .table .. => v.kind

end Value

end VisitorHeader.Settings
