import VisitorHeader.Settings.Loader

namespace VisitorHeader

inductive GenerateError where
  | readInput (path : String) (cause : AccessError)
  | writeOutput (path : String) (cause : AccessError)
  | config (cause : Settings.LoadError)

namespace GenerateError

def message : GenerateError → String
  | readInput path cause => "cannot read node list " ++ path ++ ": " ++ cause.message
  | writeOutput path cause => "cannot write header " ++ path ++ ": " ++ cause.message
  | config cause => "invalid configuration: " ++ cause.message

end GenerateError

end VisitorHeader
