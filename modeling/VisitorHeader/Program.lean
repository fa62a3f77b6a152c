import VisitorHeader.CommandLine.Usage
import VisitorHeader.Generator.Run
import VisitorHeader.Log.Filter

namespace VisitorHeader

open CommandLine Settings

structure Exit where
  code : Nat
  stdout : String
  stderr : String
  files : FileTree

namespace Program

def target : String := "gen_all_nodes_visitor"

def inputKey : Key := ⟨"paths", [.entry "input"]⟩

def outputKey : Key := ⟨"paths", [.entry "output"]⟩

def loader (o : Options) : Loader :=
  let l := match o.config with
    | some path => Loader.new.withFile path
    | none => Loader.new
  let l := match o.input with
    | some path => l.override inputKey (.string path)
    | none => l
  match o.output with
  | some path => l.override outputKey (.string path)
  | none => l

def generatedNotice (path : String) (count : Nat) : Log.Record where
  level := .info
  target := target
  message := "generated " ++ path ++ " (" ++ toString count ++ " nodes)"

def skippedNotice (input : String) : Log.Record where
  level := .debug
  target := target
  message := "skipped generation, " ++ input ++ " has no node names"

def errorText (message : String) : String := "error: " ++ message ++ "\n"

def defaultFilter : String := "warn"

def refuse (files : FileTree) : Failure → Exit
  | .error e => ⟨1, "", errorText (GenerateError.config e).message, files⟩
  | .fault f => ⟨101, "", f.message ++ "\n", files⟩

def write (filter : Log.Filter) (g : Generator) (files : FileTree) : Exit :=
  let (report, files) := g.run files
  match report.result with
  | .ok (.written path count) =>
    ⟨0, "", filter.lines (report.records ++ [generatedNotice path count]), files⟩
  | .ok (.skipped input) =>
    ⟨0, "", filter.lines (report.records ++ [skippedNotice input]), files⟩
  | .error e => ⟨1, "", filter.lines report.records ++ errorText e.message, files⟩

def print (filter : Log.Filter) (g : Generator) (files : FileTree) : Exit :=
  let report := g.renderOnly files
  match report.result with
  | .ok (some header) => ⟨0, header, filter.lines report.records, files⟩
  | .ok none => ⟨0, "", filter.lines report.records, files⟩
  | .error e => ⟨1, "", filter.lines report.records ++ errorText e.message, files⟩

def proceed (filter : Log.Filter) (o : Options) (files : FileTree) :
    Except Failure Config → Exit
  | .error failure => refuse files failure
  | .ok config =>
    if o.stdout then print filter (.ofConfig config) files
    else write filter (.ofConfig config) files

def generate (w : Walk) (filter : Log.Filter) (o : Options) (files : FileTree) : Exit :=
  proceed filter o files ((loader o).build w files)

def answer (w : Walk) (filter : Log.Filter) (args : List String) (files : FileTree) : Exit :=
  match CommandLine.parse args with
  | .error e => ⟨2, "", e.text, files⟩
  | .ok .help => ⟨0, helpText, "", files⟩
  | .ok .version => ⟨0, versionText, "", files⟩
  | .ok (.generate o) => generate w filter o files

/-- One process: the order in which it walks its tables, what regular expressions mean, the files of
the machine, the arguments, and the specification of what to log. -/
def run (w : Walk) (patterns : Log.Patterns) (files : FileTree) (args : List String)
    (logSpec : Option String) : Exit :=
  let (filter, errors) := Log.Filter.parse patterns (logSpec.getD defaultFilter)
  let exit := answer w filter args files
  { exit with stderr := String.join (errors.map Log.SpecError.warning) ++ exit.stderr }

def settingsPaths (files : FileTree) (args : List String) : List String :=
  match CommandLine.parse args with
  | .ok (.generate o) =>
    o.config.toList.flatMap (Source.places files)
  | _ => []

def workPaths (w : Walk) (files : FileTree) (args : List String) : List String :=
  match CommandLine.parse args with
  | .ok (.generate o) =>
    match (loader o).build w files with
    | .ok config => [config.paths.input, config.paths.output]
    | .error _ => []
  | _ => []

end Program

end VisitorHeader
