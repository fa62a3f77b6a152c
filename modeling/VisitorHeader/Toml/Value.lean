import VisitorHeader.Number.Binary64
import VisitorHeader.Toml.DateTime

namespace VisitorHeader.Toml

inductive Value where
  | string (s : String)
  | integer (n : Int)
  | float (x : Binary64)
  | boolean (b : Bool)
  | dateTime (d : DateTime)
  | array (items : List Value)
  | table (entries : List (String × Value))

structure DottedKey where
  parents : List String
  name : String
deriving DecidableEq

end VisitorHeader.Toml
