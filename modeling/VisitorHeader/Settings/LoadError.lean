import VisitorHeader.Files.Access
import VisitorHeader.Settings.Merge

namespace VisitorHeader.Settings

/-- Why settings cannot be loaded. What is wrong with a file that is no TOML is not told apart any
further than by the text of the file and where it lies. -/
inductive LoadError where
  | badKey (cause : KeyError)
  | fileNotFound (path : String)
  | fileUnreadable (cause : AccessError)
  | fileNotToml (origin : Option String) (text : String)
  | notText (found : Value) (key : String)
  | notASequence (found : Value)
  | notASection (found : Value) (shape : String)
  | tooFewFields (present : Nat) (shape : String) (wanted : Nat)
  | missingField (name : String)

namespace LoadError

def inOrigin : Option String → String
  | some origin => " in " ++ origin
  | none => ""

def message : LoadError → String
  | badKey cause => cause.message
  | fileNotFound path => "configuration file \"" ++ path ++ "\" not found"
  | fileUnreadable cause => cause.message
  | fileNotToml origin _ => "TOML parse error" ++ inOrigin origin
  | notText found key =>
    "invalid type: " ++ found.kind ++ ", expected a string for key `" ++ key ++ "`" ++
      inOrigin found.origin?
  | notASequence found => "invalid type: " ++ found.description ++ ", expected a sequence"
  | notASection found shape =>
    "invalid type: " ++ found.description ++ ", expected struct " ++ shape
  | tooFewFields present shape wanted =>
    "invalid length " ++ toString present ++ ", expected struct " ++ shape ++ " with " ++
      toString wanted ++ " elements"
  | missingField name => "missing field `" ++ name ++ "`"

end LoadError

inductive Failure where
  | error (e : LoadError)
  | fault (f : Fault)

end VisitorHeader.Settings
