import VisitorHeader.Generator.Error
import VisitorHeader.Log.Record

namespace VisitorHeader

structure Report (α : Type) where
  result : Except GenerateError α
  records : List Log.Record

def NodeList.target : String := "visitorgen::nodes"

def NodeList.loaded (l : NodeList) (path : String) : Log.Record where
  level := .debug
  target := target
  message := "loaded " ++ toString l.size ++ " node names from " ++ path

def NodeList.load (files : FileTree) (path : String) : Report NodeList :=
  match files.readText path with
  | .error e => ⟨.error (.readInput path e), []⟩
  | .ok text => ⟨.ok (parse text), [(parse text).loaded path]⟩

structure Generator where
  input : String
  output : String
  template : Template
deriving DecidableEq

inductive Outcome where
  | written (path : String) (nodeCount : Nat)
  | skipped (input : String)
deriving DecidableEq

namespace Generator

def ofPaths (input output : String) : Generator := ⟨input, output, .conventional⟩

def standardInput : String := "NodesList.txt"

def standardOutput : String := "AllNodesVisitor.h"

def standard : Generator := ofPaths standardInput standardOutput

def ofConfig (c : Settings.Config) : Generator := ⟨c.paths.input, c.paths.output, c.template⟩

def target : String := "visitorgen::generator"

def emptyWarning (path : String) : Log.Record where
  level := .warn
  target := target
  message := path ++ " is empty or cannot be properly read"

def suspiciousWarning (n : NodeName) : Log.Record where
  level := .warn
  target := target
  message := "node name `" ++ n.text ++ "` is not a valid C++ identifier"

def writtenNotice (path : String) (count : Nat) : Log.Record where
  level := .info
  target := target
  message := "wrote " ++ toString count ++ " visit stubs to " ++ path

variable (g : Generator)

def renderOnly (files : FileTree) : Report (Option String) :=
  let loading := NodeList.load files g.input
  match loading.result with
  | .error e => ⟨.error e, loading.records⟩
  | .ok l =>
    if l.isEmpty then ⟨.ok none, loading.records ++ [emptyWarning g.input]⟩
    else ⟨.ok (some (g.template.render l)), loading.records ++ l.suspicious.map suspiciousWarning⟩

def run (files : FileTree) : Report Outcome × FileTree :=
  let loading := NodeList.load files g.input
  match loading.result with
  | .error e => (⟨.error e, loading.records⟩, files)
  | .ok l =>
    if l.isEmpty then
      (⟨.ok (.skipped g.input), loading.records ++ [emptyWarning g.input]⟩, files)
    else
      let records := loading.records ++ l.suspicious.map suspiciousWarning
      match files.writeText g.output (g.template.render l) with
      | .error e => (⟨.error (.writeOutput g.output e), records⟩, files)
      | .ok files =>
        (⟨.ok (.written g.output l.size), records ++ [writtenNotice g.output l.size]⟩, files)

end Generator

end VisitorHeader
