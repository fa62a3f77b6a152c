import VisitorHeader.CommandLine.Options
import VisitorHeader.Text.Terminal

namespace VisitorHeader.CommandLine

def helpText : String :=
  "Generate the all-nodes visitor header from a list of AST node names\n\n" ++
  "Usage: gen-all-nodes-visitor [OPTIONS]\n\n" ++
  "Options:\n" ++
  "  -i, --input <input>    Node list to read (default: NodesList.txt)\n" ++
  "  -o, --output <output>  Header to write (default: AllNodesVisitor.h)\n" ++
  "  -c, --config <config>  TOML file layered over the built-in defaults\n" ++
  "      --stdout           Print the header instead of writing the output file\n" ++
  "  -h, --help             Print help\n" ++
  "  -V, --version          Print version\n"

def versionText : String := "gen-all-nodes-visitor 0.1.0\n"

def colourEnd : String := "\x1b[0m"

namespace UsageError

/-- Where there is no terminal the code that ends a colour goes, and takes what is left of a control
sequence in the coloured text along. -/
def message : UsageError → String
  | unexpectedArgument arg => "unexpected argument '" ++ arg ++ colourEnd ++ "' found"
  | missingValue o => "a value is required for '" ++ o.usage ++ "' but none was supplied"
  | repeatedOption o => "the argument '" ++ o.usage ++ "' cannot be used multiple times"
  | repeatedStdout => "the argument '--stdout' cannot be used multiple times"
  | unexpectedValue value s =>
    "unexpected value '" ++ value ++ colourEnd ++ "' for '--" ++ s.name ++
      "' found; no more were expected"

def text (e : UsageError) : String :=
  Terminal.plain ("error: " ++ e.message ++ "\n\nFor more information, try '--help'.\n")

end UsageError

end VisitorHeader.CommandLine
