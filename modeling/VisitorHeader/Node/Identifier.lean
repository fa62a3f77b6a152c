namespace VisitorHeader.Identifier

def isStart (c : Char) : Bool := c.isAlpha || c == '_'

def isPart (c : Char) : Bool := c.isAlphanum || c == '_'

def continues : List Char → Bool
  | [] => true
  | ':' :: ':' :: c :: r => isStart c && continues r
  | c :: r => isPart c && continues r

def starts : List Char → Bool
  | [] => false
  | c :: r => isStart c && continues r

/-- An identifier such as `ast::ExprNode`, with or without a leading `::`. Letters and digits are
the ASCII ones. -/
def isQualified : List Char → Bool
  | ':' :: ':' :: r => starts r
  | cs => starts cs

end VisitorHeader.Identifier
