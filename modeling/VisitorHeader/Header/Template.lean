import VisitorHeader.Node.List

namespace VisitorHeader

structure Template where
  includes : List String
  namespaceName : String
  className : String
  markerInterface : String
  visitorInterface : String
  visitMethod : String
deriving DecidableEq

namespace Template

def conventional : Template where
  includes := ["ASTVisitor.h", "ASTNodes.h"]
  namespaceName := "Ryntra::Compiler"
  className := "AllNodesVisitor"
  markerInterface := "IVisitor"
  visitorInterface := "Visitor"
  visitMethod := "visit"

instance : Inhabited Template := ⟨conventional⟩

variable (t : Template)

def markerEntry : String := "public " ++ t.markerInterface

def baseEntry (n : NodeName) : String := "public " ++ t.visitorInterface ++ "<" ++ n.text ++ ">"

def visitStub (n : NodeName) : String :=
  "virtual void " ++ t.visitMethod ++ "(" ++ n.text ++ " &node) override \x7b\x7d"

def includeLine (file : String) : String := "#include \"" ++ file ++ "\"\n"

def baseEntries (l : NodeList) : List String := t.markerEntry :: l.names.map t.baseEntry

def visitStubs (l : NodeList) : List String := l.names.map t.visitStub

def opening : String :=
  "#pragma once\n" ++ String.join (t.includes.map includeLine) ++
    "namespace " ++ t.namespaceName ++ " \x7b\n"

def render (l : NodeList) : String :=
  t.opening ++
    "class " ++ t.className ++ " : " ++ ",\n".intercalate (t.baseEntries l) ++ "\n" ++
    "\x7b\npublic:\n" ++
    "virtual ~" ++ t.className ++ "() = default;\n" ++
    "\n".intercalate (t.visitStubs l) ++ "\n" ++
    "\x7d;\n\x7d\n"

end Template

end VisitorHeader
