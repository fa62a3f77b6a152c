import VisitorHeader.Files.Tree

namespace VisitorHeader

inductive AccessError where
  | notFound
  | notADirectory
  | isADirectory
  | nameTooLong
  | nulInPath
  | notText
  | blocked (obstacle : Obstacle)
deriving DecidableEq

def AccessError.message : AccessError → String
  | notFound => "No such file or directory (os error 2)"
  | notADirectory => "Not a directory (os error 20)"
  | isADirectory => "Is a directory (os error 21)"
  | nameTooLong => "File name too long (os error 36)"
  | nulInPath => "file name contained an unexpected NUL byte"
  | notText => "stream did not contain valid UTF-8"
  | blocked .permission => "Permission denied (os error 13)"
  | blocked .device => "Input/output error (os error 5)"

/-- Where a path leads. Nothing lies yet at a vacant location, but its directory exists. -/
inductive Target where
  | file (location : Location) (content : ByteArray)
  | blocked (location : Location) (obstacle : Obstacle)
  | directory (location : Location)
  | vacant (location : Location)
deriving DecidableEq

namespace Path

def longestName : Nat := 255

def longestPath : Nat := 4095

def steps (path : String) : List String :=
  ((path.toList.splitOn '/').filter (!·.isEmpty)).map .ofList

def isAbsolute (path : String) : Bool := path.toList.head? == some '/'

def endsInSlash (path : String) : Bool := path.toList.getLast? == some '/'

def fault? (path : String) : Option AccessError :=
  if path.toList.contains '\x00' then some .nulInPath
  else if path = "" then some .notFound
  else if longestPath < path.utf8ByteSize then some .nameTooLong
  else none

end Path

namespace FileTree

variable (t : FileTree)

def enter (here : Location) (step : String) : Except AccessError Target :=
  if step = "." then .ok (.directory here)
  else if step = ".." then .ok (.directory here.dropLast)
  else if Path.longestName < step.utf8ByteSize then .error .nameTooLong
  else
    match t.get? (here ++ [step]) with
    | some (.file content) => .ok (.file (here ++ [step]) content)
    | some (.blocked obstacle) => .ok (.blocked (here ++ [step]) obstacle)
    | some .directory => .ok (.directory (here ++ [step]))
    | none => .ok (.vacant (here ++ [step]))

def walk (here : Location) : List String → Except AccessError Target
  | [] => .ok (.directory here)
  | [step] => t.enter here step
  | step :: rest =>
    match t.enter here step with
    | .ok (.directory next) => walk next rest
    | .ok (.file ..) | .ok (.blocked ..) => .error .notADirectory
    | .ok (.vacant _) => .error .notFound
    | .error e => .error e

def start (path : String) : Location := if Path.isAbsolute path then [] else t.workingDirectory

/-- A slash at the end asks for a directory, as a last step `.` does. -/
def locate (path : String) : Except AccessError Target :=
  match Path.fault? path with
  | some e => .error e
  | none =>
    t.walk (t.start path) (Path.steps path ++ if Path.endsInSlash path then ["."] else [])

def isFile (path : String) : Bool :=
  match t.locate path with
  | .ok (.file ..) | .ok (.blocked ..) => true
  | _ => false

def readBytes (path : String) : Except AccessError ByteArray :=
  match t.locate path with
  | .ok (.file _ content) => .ok content
  | .ok (.blocked _ obstacle) => .error (.blocked obstacle)
  | .ok (.directory _) => .error .isADirectory
  | .ok (.vacant _) => .error .notFound
  | .error e => .error e

def decode (content : ByteArray) : Except AccessError String :=
  match String.fromUTF8? content with
  | some s => .ok s
  | none => .error .notText

def readText (path : String) : Except AccessError String :=
  match t.readBytes path with
  | .ok content => decode content
  | .error e => .error e

/-- A path that ends in a slash names a directory, whether it exists or not, if the directory
around it does. -/
def namesDirectory (path : String) : Bool :=
  Path.fault? path == none && Path.endsInSlash path &&
    match t.walk (t.start path) (Path.steps path).dropLast with
    | .ok (.directory _) => true
    | _ => false

def destination (path : String) : Except AccessError Location :=
  if t.namesDirectory path then .error .isADirectory
  else
    match t.locate path with
    | .ok (.file l _) => .ok l
    | .ok (.blocked _ obstacle) => .error (.blocked obstacle)
    | .ok (.vacant l) => .ok l
    | .ok (.directory _) => .error .isADirectory
    | .error e => .error e

def writeText (path text : String) : Except AccessError FileTree :=
  match t.destination path with
  | .ok l => .ok (t.put l (.file text.toUTF8))
  | .error e => .error e

theorem decode_toUTF8 (s : String) : decode s.toUTF8 = .ok s := by
  have h : String.fromUTF8? s.toUTF8 = some s := by
    rw [String.fromUTF8?, dif_pos (show s.toUTF8.IsValidUTF8 from s.isValidUTF8)]
    rfl
  rw [decode, h]

end FileTree

end VisitorHeader
