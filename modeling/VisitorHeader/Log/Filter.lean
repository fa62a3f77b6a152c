import VisitorHeader.Log.Record
import VisitorHeader.Text.Blank

namespace VisitorHeader.Log

/-- What is told of targets that start with a text, or of all if none is given; `none` as level
tells nothing. -/
structure Directive where
  target : Option String
  level : Option Level
deriving DecidableEq

structure Filter where
  directives : List Directive
  wanted : Option (String → Bool)

/-- What regular expressions mean: which texts one of them occurs in, or what is wrong with it. The
engine for them is not part of the program. -/
abbrev Patterns := String → Except String (String → Bool)

inductive SpecError where
  | malformed (text : String)
  | tooManySlashes (text : String)
  | badPattern (cause : String)
deriving DecidableEq

def SpecError.message : SpecError → String
  | malformed text => "invalid logging spec '" ++ text ++ "'"
  | tooManySlashes text => "invalid logging spec '" ++ text ++ "' (too many '/'s)"
  | badPattern cause => "invalid regex filter - " ++ cause

def SpecError.warning (e : SpecError) : String := "warning: " ++ e.message ++ ", ignoring it\n"

def lowerCase (s : String) : String := .ofList (s.toList.map Char.toLower)

def level? (name : String) : Option (Option Level) :=
  if lowerCase name = "off" then some none
  else (Level.all.find? fun l => lowerCase l.name = lowerCase name).map some

def parts (separator : Char) (s : String) : List String :=
  (s.toList.splitOn separator).map .ofList

def occurs (part : List Char) : List Char → Bool
  | [] => part.isEmpty
  | c :: r => part.isPrefixOf (c :: r) || occurs part r

/-- Patterns in which every character stands for itself, where the program has a whole engine of
regular expressions. -/
def Patterns.literal : Patterns := fun part => .ok fun text => occurs part.toList text.toList

namespace Directive

def covers (d : Directive) (target : String) : Bool :=
  match d.target with
  | some t => t.toList.isPrefixOf target.toList
  | none => true

def allows (d : Directive) (l : Level) : Bool :=
  match d.level with
  | some most => l.rank ≤ most.rank
  | none => false

def length (d : Directive) : Nat := (d.target.map String.utf8ByteSize).getD 0

def parse (text : String) : Except SpecError Directive :=
  match parts '=' text with
  | [one] =>
    match level? one with
    | some l => .ok ⟨none, l⟩
    | none => .ok ⟨some one, some .trace⟩
  | [target, name] =>
    let name := Text.trim name
    if name = "" then .ok ⟨some target, some .trace⟩
    else
      match level? name with
      | some l => .ok ⟨some target, l⟩
      | none => .error (.malformed name)
  | _ => .error (.malformed text)

end Directive

namespace Filter

/-- Of two directives for one target the later one counts, in the place of the earlier. -/
def insert (ds : List Directive) (d : Directive) : List Directive :=
  if ds.any fun e => e.target = d.target then
    ds.map fun e => if e.target = d.target then d else e
  else ds ++ [d]

def readDirectives (text : String) : List (Except SpecError Directive) :=
  (((parts ',' text).map Text.trim).filter (· ≠ "")).map Directive.parse

def ofDirectives (ds : List Directive) (wanted : Option (String → Bool)) : Filter :=
  ⟨if ds.isEmpty then [⟨none, some .error⟩] else ds, wanted⟩

/-- Directives between commas; after a slash, a pattern that messages have to match. What cannot be
read is left out. -/
def parse (patterns : Patterns) (text : String) : Filter × List SpecError :=
  let read (directives : String) (wanted : Option (String → Bool)) : Filter × List SpecError :=
    let results := readDirectives directives
    let good := results.filterMap fun | .ok d => some d | .error _ => none
    let bad := results.filterMap fun | .ok _ => none | .error e => some e
    (ofDirectives (good.foldl insert []) wanted, bad)
  match parts '/' text with
  | [directives] => read directives none
  | [directives, pattern] =>
    match patterns pattern with
    | .ok wanted => read directives (some wanted)
    | .error cause =>
      let (filter, errors) := read directives none
      (filter, errors ++ [.badPattern cause])
  | _ => (ofDirectives [] none, [.tooManySlashes text])

def directiveFor (f : Filter) (target : String) : Option Directive :=
  f.directives.foldl (fun best d =>
    if d.covers target && (best.map Directive.length).getD 0 ≤ d.length then some d else best) none

def tells (f : Filter) (r : Record) : Bool :=
  (match f.directiveFor r.target with
    | some d => d.allows r.level
    | none => false) &&
  (match f.wanted with
    | some wanted => wanted r.message
    | none => true)

def lines (f : Filter) (rs : List Record) : String :=
  String.join ((rs.filter f.tells).map Record.line)

end Filter

end VisitorHeader.Log
