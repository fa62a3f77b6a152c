import VisitorHeader.Proofs.CommandLine.Stdout
import VisitorHeader.Proofs.Files.Writing
import VisitorHeader.Proofs.Generator.Printing
import VisitorHeader.Proofs.Generator.Runs
import VisitorHeader.Proofs.Program.Unconfigured

namespace VisitorHeader.Program

open CommandLine Settings

def outcome (w : Walk) (o : Options) (files : FileTree) :
    Except Failure (Except GenerateError Outcome) :=
  ((loader o).build w files).map fun config => ((Generator.ofConfig config).run files).1.result

variable {files : FileTree}

end VisitorHeader.Program
