import VisitorHeader.Text.Terminal

namespace VisitorHeader.Log

inductive Level where
  | error
  | warn
  | info
  | debug
  | trace
deriving DecidableEq

def Level.name : Level → String
  | error => "ERROR"
  | warn => "WARN"
  | info => "INFO"
  | debug => "DEBUG"
  | trace => "TRACE"

def Level.rank : Level → Nat
  | error => 1
  | warn => 2
  | info => 3
  | debug => 4
  | trace => 5

def Level.all : List Level := [.error, .warn, .info, .debug, .trace]

structure Record where
  level : Level
  target : String
  message : String
deriving DecidableEq

namespace Record

def label (r : Record) : String :=
  r.level.name ++ .ofList (List.replicate (5 - r.level.name.length) ' ')

def indented (message : String) : String :=
  .ofList (message.toList.flatMap fun c => if c = '\n' then '\n' :: List.replicate 4 ' ' else [c])

def line (r : Record) : String :=
  Terminal.plain ("[" ++ r.label ++ " " ++ r.target ++ "] " ++ indented r.message ++ "\n")

end Record

end VisitorHeader.Log
