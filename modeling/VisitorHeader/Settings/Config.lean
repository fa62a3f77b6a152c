import VisitorHeader.Header.Template
import VisitorHeader.Settings.LoadError
import VisitorHeader.Settings.Walk

namespace VisitorHeader.Settings

structure PathSettings where
  input : String
  output : String
deriving DecidableEq

structure HeaderSettings where
  includes : List String
  namespaceName : String
deriving DecidableEq

structure ClassSettings where
  name : String
  markerInterface : String
  visitorInterface : String
  visitMethod : String
deriving DecidableEq

structure Config where
  paths : PathSettings
  header : HeaderSettings
  visitorClass : ClassSettings
deriving DecidableEq

def Config.template (c : Config) : Template where
  includes := c.header.includes
  namespaceName := c.header.namespaceName
  className := c.visitorClass.name
  markerInterface := c.visitorClass.markerInterface
  visitorInterface := c.visitorClass.visitorInterface
  visitMethod := c.visitorClass.visitMethod

structure Layout where
  name : String
  shape : String
  fields : List String
  lists : List String

def pathsLayout : Layout := ⟨"paths", "PathsConfig", ["input", "output"], []⟩

def headerLayout : Layout := ⟨"header", "HeaderConfig", ["includes", "namespace"], ["includes"]⟩

def classLayout : Layout :=
  ⟨"class", "ClassConfig", ["name", "marker_interface", "visitor_interface", "visit_method"], []⟩

inductive Fields where
  | named (entries : List (String × Value))
  | listed (items : List Value)

def elementKey (key : String) (i : Nat) : String := key ++ "[" ++ toString i ++ "]"

def decodeText (key : String) (v : Value) : Except LoadError String :=
  match v.text? with
  | some s => .ok s
  | none => .error (.notText v key)

def decodeTextsFrom (key : String) (i : Nat) : List Value → Except LoadError (List String)
  | [] => .ok []
  | v :: vs => do
    let s ← decodeText (elementKey key i) v
    let ss ← decodeTextsFrom key (i + 1) vs
    return s :: ss

def decodeTexts (key : String) : Value → Except LoadError (List String)
  | .array _ items => decodeTextsFrom key 0 items
  | v => .error (.notASequence v)

/-- The entries of a table are decoded in the order of the walk, so that the first to fail is the
one to be told of. Entries under other names are passed over. -/
def meet (w : Walk) (names : List String) (decode : Nat → Except LoadError Unit)
    (entries : List (String × Value)) : Except LoadError Unit :=
  forM (w.order entries) fun e => if e.1 ∈ names then decode (names.idxOf e.1) else .ok ()

namespace Layout

variable (w : Walk) (l : Layout)

def fieldsOf (v : Value) : Except LoadError Fields :=
  match v with
  | .table _ entries => .ok (.named entries)
  | .array _ items => .ok (.listed items)
  | v => .error (.notASection v l.shape)

/-- A field that is there is decoded; only a table may lack it for now. -/
def read {α : Type} (i : Nat) (decode : String → Value → Except LoadError α) :
    Fields → Except LoadError (Option α)
  | .named entries =>
    match Entries.get? entries (l.fields.getD i "") with
    | some v => (decode (l.name ++ "." ++ l.fields.getD i "") v).map some
    | none => .ok none
  | .listed items =>
    match items[i]? with
    | some v => (decode (elementKey l.name i) v).map some
    | none => .error (.tooFewFields items.length l.shape l.fields.length)

def probe (i : Nat) (fields : Fields) : Except LoadError Unit :=
  if l.fields.getD i "" ∈ l.lists then discard (l.read i decodeTexts fields)
  else discard (l.read i decodeText fields)

def meetFields : Fields → Except LoadError Unit
  | .named entries => meet w l.fields (fun i => l.probe i (.named entries)) entries
  | .listed _ => .ok ()

def require {α : Type} (i : Nat) : Option α → Except LoadError α
  | some a => .ok a
  | none => .error (.missingField (l.fields.getD i ""))

end Layout

variable (w : Walk)

def PathSettings.decode (v : Value) : Except LoadError PathSettings := do
  let l := pathsLayout
  let fields ← l.fieldsOf v
  l.meetFields w fields
  let input ← l.read 0 decodeText fields
  let output ← l.read 1 decodeText fields
  return ⟨← l.require 0 input, ← l.require 1 output⟩

def HeaderSettings.decode (v : Value) : Except LoadError HeaderSettings := do
  let l := headerLayout
  let fields ← l.fieldsOf v
  l.meetFields w fields
  let includes ← l.read 0 decodeTexts fields
  let namespaceName ← l.read 1 decodeText fields
  return ⟨← l.require 0 includes, ← l.require 1 namespaceName⟩

def ClassSettings.decode (v : Value) : Except LoadError ClassSettings := do
  let l := classLayout
  let fields ← l.fieldsOf v
  l.meetFields w fields
  let name ← l.read 0 decodeText fields
  let marker ← l.read 1 decodeText fields
  let visitor ← l.read 2 decodeText fields
  let method ← l.read 3 decodeText fields
  return ⟨← l.require 0 name, ← l.require 1 marker, ← l.require 2 visitor, ← l.require 3 method⟩

/-- A section that is there is decoded before one that is missing is missed. -/
def readSection {α : Type} (root : Value) (l : Layout) (decode : Value → Except LoadError α) :
    Except LoadError (Option α) :=
  match root.get? l.name with
  | some v => (decode v).map some
  | none => .ok none

def requireSection {α : Type} (l : Layout) : Option α → Except LoadError α
  | some a => .ok a
  | none => .error (.missingField l.name)

def sectionNames : List String := [pathsLayout.name, headerLayout.name, classLayout.name]

def Config.probe (root : Value) : Nat → Except LoadError Unit
  | 0 => discard (readSection root pathsLayout (PathSettings.decode w))
  | 1 => discard (readSection root headerLayout (HeaderSettings.decode w))
  | _ => discard (readSection root classLayout (ClassSettings.decode w))

def Config.decode (root : Value) : Except LoadError Config := do
  meet w sectionNames (probe w root) root.entries
  let paths ← readSection root pathsLayout (PathSettings.decode w)
  let header ← readSection root headerLayout (HeaderSettings.decode w)
  let visitorClass ← readSection root classLayout (ClassSettings.decode w)
  return ⟨← requireSection pathsLayout paths, ← requireSection headerLayout header,
    ← requireSection classLayout visitorClass⟩

end VisitorHeader.Settings
