import VisitorHeader.CommandLine.Options

namespace VisitorHeader.CommandLine

namespace Reading

variable (b : Bool) (r : Reading)

end Reading

variable {args : List String}

end VisitorHeader.CommandLine
