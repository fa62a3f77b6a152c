namespace VisitorHeader.CommandLine

inductive ValueOption where
  | input
  | output
  | config
deriving DecidableEq

inductive Switch where
  | stdout
  | help
  | version
deriving DecidableEq

namespace ValueOption

def name : ValueOption → String
  | input => "input"
  | output => "output"
  | config => "config"

def letter : ValueOption → Char
  | input => 'i'
  | output => 'o'
  | config => 'c'

def all : List ValueOption := [input, output, config]

def usage (o : ValueOption) : String := "--" ++ o.name ++ " <" ++ o.name ++ ">"

end ValueOption

namespace Switch

def name : Switch → String
  | stdout => "stdout"
  | help => "help"
  | version => "version"

def letter? : Switch → Option Char
  | stdout => none
  | help => some 'h'
  | version => some 'V'

def all : List Switch := [stdout, help, version]

end Switch

structure Options where
  input : Option String
  output : Option String
  config : Option String
  stdout : Bool
deriving DecidableEq

namespace Options

def none : Options := ⟨.none, .none, .none, false⟩

def value? (o : Options) : ValueOption → Option String
  | .input => o.input
  | .output => o.output
  | .config => o.config

def setValue (o : Options) (v : String) : ValueOption → Options
  | .input => { o with input := some v }
  | .output => { o with output := some v }
  | .config => { o with config := some v }

end Options

inductive Request where
  | help
  | version
  | generate (options : Options)
deriving DecidableEq

inductive UsageError where
  | unexpectedArgument (arg : String)
  | missingValue (o : ValueOption)
  | repeatedOption (o : ValueOption)
  | repeatedStdout
  | unexpectedValue (value : String) (s : Switch)
deriving DecidableEq

inductive Argument where
  | long (name : String) (value : Option String)
  | short (letters : List Char)
  | separator
  | plain (text : String)
deriving DecidableEq

def Argument.ofText (text : String) : Argument :=
  match text.toList with
  | ['-', '-'] => .separator
  | '-' :: '-' :: r =>
    let name := r.takeWhile (· != '=')
    match r.dropWhile (· != '=') with
    | _ :: v => .long (.ofList name) (some (.ofList v))
    | [] => .long (.ofList name) none
  | '-' :: c :: r => .short (c :: r)
  | _ => .plain text

/-- The options read so far. An option that awaits its value, or has just got it, is settled when
the next one comes; until then a wrong argument counts for more than what is wrong with it. -/
structure Reading where
  options : Options
  pending : Option (ValueOption × Option String)
  separated : Bool

namespace Reading

def start : Reading := ⟨.none, none, false⟩

def give (r : Reading) (o : ValueOption) (v : String) : Except UsageError Reading :=
  if (r.options.value? o).isSome then .error (.repeatedOption o)
  else .ok { r with options := r.options.setValue v o }

def settle (r : Reading) : Except UsageError Reading :=
  match r.pending with
  | none => .ok r
  | some (o, none) => .error (.missingValue o)
  | some (o, some v) => { r with pending := none }.give o v

def option (r : Reading) (o : ValueOption) (attached : Option String) :
    Except UsageError Reading := do
  let r ← r.settle
  match attached with
  | some v => r.give o v
  | none => return { r with pending := some (o, none) }

def plain (r : Reading) (text : String) : Except UsageError Reading :=
  match r.pending with
  | some (o, none) => .ok { r with pending := some (o, some text) }
  | _ => .error (.unexpectedArgument text)

def switch (r : Reading) (s : Switch) : Except UsageError (Reading ⊕ Request) := do
  let r ← r.settle
  match s with
  | .help => return .inr .help
  | .version => return .inr .version
  | .stdout =>
    if r.options.stdout then .error .repeatedStdout
    else return .inl { r with options := { r.options with stdout := true } }

def long (r : Reading) (name : String) (value : Option String) :
    Except UsageError (Reading ⊕ Request) :=
  match ValueOption.all.find? (·.name = name), Switch.all.find? (·.name = name), value with
  | some o, _, v => (r.option o v).map .inl
  | none, some s, some v => .error (.unexpectedValue v s)
  | none, some s, none => r.switch s
  | none, none, _ => .error (.unexpectedArgument ("--" ++ name))

def attached : List Char → Option String
  | [] => none
  | '=' :: v => some (.ofList v)
  | v => some (.ofList v)

def short (r : Reading) (letters : List Char) : Except UsageError (Reading ⊕ Request) :=
  match letters with
  | [] => .ok (.inl r)
  | c :: rest =>
    match ValueOption.all.find? (·.letter = c), Switch.all.find? (·.letter? = some c) with
    | some o, _ => (r.option o (attached rest)).map .inl
    | none, some s => r.switch s
    | none, none => .error (.unexpectedArgument (.ofList ['-', c]))

def next (r : Reading) (text : String) : Except UsageError (Reading ⊕ Request) :=
  if r.separated then .error (.unexpectedArgument text)
  else
    match Argument.ofText text with
    | .long name value => r.long name value
    | .short letters => r.short letters
    | .separator => .ok (.inl { r with separated := true })
    | .plain text => (r.plain text).map .inl

def finish (r : Reading) : Except UsageError Request := do
  let r ← r.settle
  return .generate r.options

def all (r : Reading) : List String → Except UsageError Request
  | [] => r.finish
  | text :: rest =>
    match r.next text with
    | .error e => .error e
    | .ok (.inr request) => .ok request
    | .ok (.inl r) => all r rest

end Reading

def parse (args : List String) : Except UsageError Request := Reading.start.all args

end VisitorHeader.CommandLine
