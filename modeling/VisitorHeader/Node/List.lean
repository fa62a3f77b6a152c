import VisitorHeader.Node.Name

namespace VisitorHeader

structure NodeList where
  names : List NodeName
deriving DecidableEq

namespace NodeList

def isLineEnd (c : Char) : Bool := c == '\n' || c == '\r'

def lines (source : String) : List String :=
  (source.toList.splitOnP isLineEnd).map .ofList

def parse (source : String) : NodeList := ⟨(lines source).filterMap NodeName.ofLine?⟩

def ofLines (ls : List String) : NodeList := ⟨ls.filterMap NodeName.ofLine?⟩

def size (l : NodeList) : Nat := l.names.length

def isEmpty (l : NodeList) : Bool := l.names.isEmpty

theorem isEmpty_iff {l : NodeList} : l.isEmpty = true ↔ l.names = [] := List.isEmpty_iff

def suspicious (l : NodeList) : List NodeName := l.names.filter (!·.isIdentifier)

end NodeList

end VisitorHeader
