import VisitorHeader.Program

namespace VisitorHeader.Machine

def pathOf (l : Location) : String := "/" ++ "/".intercalate l

def obstacle : IO.Error → Obstacle
  | .permissionDenied .. => .permission
  | _ => .device

def captureEntry (files : FileTree) (l : Location) : IO FileTree := do
  let path := (← IO.currentDir) / pathOf l
  if ← path.isDir then return files.put l .directory
  else if ← path.pathExists then
    match ← (IO.FS.readBinFile path).toBaseIO with
    | .ok content => return files.put l (.file content)
    | .error e => return files.put l (.blocked (obstacle e))
  else return files

def capture (files : FileTree) (path : String) : IO FileTree := do
  let mut files := files
  let mut location := files.start path
  for step in Path.steps path do
    if step = ".." then location := location.dropLast
    else if step ≠ "." then
      location := location ++ [step]
      files ← captureEntry files location
  return files

def commit (before after : FileTree) : IO Unit := do
  for (l, e) in after.entries do
    if before.get? l ≠ some e then
      match e with
      | .file content => IO.FS.writeBinFile (pathOf l) content
      | .blocked _ | .directory => pure ()

end VisitorHeader.Machine

open VisitorHeader in
def main (args : List String) : IO UInt32 := do
  let here ← IO.currentDir
  let bare : FileTree := ⟨[], Path.steps here.toString⟩
  let known ← (Program.settingsPaths bare args).foldlM Machine.capture bare
  let files ← (Program.workPaths .written known args).foldlM Machine.capture known
  let exit := Program.run .written .literal files args (← IO.getEnv "RUST_LOG")
  Machine.commit files exit.files
  IO.print exit.stdout
  IO.eprint exit.stderr
  return exit.code.toUInt32
