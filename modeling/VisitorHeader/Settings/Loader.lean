import VisitorHeader.Files.Access
import VisitorHeader.Settings.Config
import VisitorHeader.Toml.Document

namespace VisitorHeader.Settings

def defaultsText : String :=
  "[paths]\n" ++
  "input = \"NodesList.txt\"\n" ++
  "output = \"AllNodesVisitor.h\"\n\n" ++
  "[header]\n" ++
  "includes = [\"ASTVisitor.h\", \"ASTNodes.h\"]\n" ++
  "namespace = \"Ryntra::Compiler\"\n\n" ++
  "[class]\n" ++
  "name = \"AllNodesVisitor\"\n" ++
  "marker_interface = \"IVisitor\"\n" ++
  "visitor_interface = \"Visitor\"\n" ++
  "visit_method = \"visit\"\n"

structure Source where
  path : String
  required : Bool
deriving DecidableEq

namespace Source

def absolute (files : FileTree) (path : String) : String :=
  if Path.isAbsolute path then path
  else String.join (files.workingDirectory.map fun name => "/" ++ name) ++ "/" ++ path

/-- The reversed path without what comes after the last name. -/
def fromLastName : List Char → List Char
  | '/' :: cs => fromLastName cs
  | '.' :: '/' :: cs => fromLastName ('/' :: cs)
  | cs => cs

def withExtension? (path : String) : Option String :=
  match fromLastName path.toList.reverse with
  | [] | '.' :: '.' :: '/' :: _ => none
  | cs => some (.ofList (cs.reverse ++ ".toml".toList))

/-- Where a file is looked for: under its path, or else with the extension. -/
def places (files : FileTree) (path : String) : List String :=
  absolute files path :: (withExtension? (absolute files path)).toList

-- Left to itself, reduction would go into the characters of the path.
@[irreducible]
def find? (files : FileTree) (path : String) : Option String :=
  (places files path).find? files.isFile

theorem find?_eq (files : FileTree) (path : String) :
    find? files path = (places files path).find? files.isFile := by
  delta find?
  rfl

def names (path : String) : List String := (Path.steps path).filter (· ≠ ".")

def common : List String → List String → Nat
  | a :: as, b :: bs => if a = b then common as bs + 1 else 0
  | _, _ => 0

def origin (files : FileTree) (path : String) : String :=
  let shared := common (names path) files.workingDirectory
  "/".intercalate
    (List.replicate (files.workingDirectory.length - shared) ".." ++ (names path).drop shared)

def read (files : FileTree) (s : Source) : Except LoadError (String × String) :=
  match find? files s.path with
  | none => .error (.fileNotFound s.path)
  | some path =>
    match files.readText path with
    | .ok text => .ok (origin files path, text)
    | .error e => .error (.fileUnreadable e)

def entriesOf (origin : Option String) (text : String) :
    Except LoadError (List (String × Value)) :=
  match Toml.parse? text with
  | some entries => .ok (Value.entriesOfToml origin entries)
  | none => .error (.fileNotToml origin text)

def collect (files : FileTree) (s : Source) : Except LoadError (List (String × Value)) :=
  match s.read files with
  | .ok (origin, text) => entriesOf (some origin) text
  | .error e => if s.required then .error e else .ok []

end Source

theorem nodup_replace {os : List (Key × Value)} (h : (os.map Prod.fst).Nodup) (key : Key)
    (x : Value) : ((os.filter (·.1 ≠ key) ++ [(key, x)]).map Prod.fst).Nodup := by
  rw [List.map_append, List.map_singleton]
  refine List.nodup_append.mpr ⟨?_, List.pairwise_singleton _ _, ?_⟩
  · exact h.sublist (List.filter_sublist.map Prod.fst)
  · rintro k hk k' hk' rfl
    obtain rfl := List.mem_singleton.mp hk'
    obtain ⟨o, ho, rfl⟩ := List.mem_map.mp hk
    simpa using (List.mem_filter.mp ho).2

/-- Sources in the order of their adding, and single settings that go over all of them, no two of
them under one key. -/
structure Loader where
  sources : List Source
  overrides : List (Key × Value)
  nodup : (overrides.map Prod.fst).Nodup

namespace Loader

def ofSources (sources : List Source) : Loader := ⟨sources, [], List.nodup_nil⟩

def new : Loader := ofSources []

def withFile (l : Loader) (path : String) : Loader :=
  { l with sources := l.sources ++ [⟨path, true⟩] }

def withOptionalFile (l : Loader) (path : String) : Loader :=
  { l with sources := l.sources ++ [⟨path, false⟩] }

def override (l : Loader) (key : Key) (v : Value) : Loader where
  sources := l.sources
  overrides := l.overrides.filter (·.1 ≠ key) ++ [(key, v)]
  nodup := nodup_replace l.nodup key v

def setOverride (l : Loader) (key : String) (v : Value) : Except LoadError Loader :=
  match Key.parse key with
  | .ok key => .ok (l.override key v)
  | .error e => .error (.badKey e)

def addLayer (w : Walk) (v : Value) (layer : Except LoadError (List (String × Value))) :
    Except Failure Value :=
  match layer with
  | .error e => .error (.error e)
  | .ok entries =>
    match v.assignAll (w.entries entries) with
    | .ok v => .ok v
    | .error f => .error (.fault f)

def addOverride (w : Walk) (v : Value) (o : Key × Value) : Except Failure Value :=
  match v.assignKey o.1 (w.arrange o.2) with
  | .ok v => .ok v
  | .error f => .error (.fault f)

/-- All sources, from the defaults on, one over the other. That the topmost names are read as keys
once more when all is merged is left out: it shows where a name has a Kelvin sign, and nowhere
else. -/
def layers (l : Loader) (w : Walk) (files : FileTree) : Except Failure Value := do
  let base ← addLayer w .emptyTable (Source.entriesOf none defaultsText)
  l.sources.foldlM (fun v s => addLayer w v (s.collect files)) base

def merged (l : Loader) (w : Walk) (files : FileTree) : Except Failure Value := do
  let v ← l.layers w files
  (w.order l.overrides).foldlM (addOverride w) v

def build (l : Loader) (w : Walk) (files : FileTree) : Except Failure Config := do
  let v ← l.merged w files
  match Config.decode w v with
  | .ok c => .ok c
  | .error e => .error (.error e)

end Loader

end VisitorHeader.Settings
