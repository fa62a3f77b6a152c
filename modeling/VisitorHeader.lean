import VisitorHeader.Main
import VisitorHeader.Proofs.Header.Lines
import VisitorHeader.Proofs.Node.Listing
import VisitorHeader.Proofs.Header.Injective
import VisitorHeader.Proofs.Files.Writing
import VisitorHeader.Proofs.Header.Names
import VisitorHeader.Proofs.Generator.Runs
import VisitorHeader.Proofs.Generator.Written
import VisitorHeader.Proofs.Settings.Defaults
import VisitorHeader.Proofs.Settings.Overstep
import VisitorHeader.Proofs.Program.Loading
import VisitorHeader.Proofs.Program.Ending
import VisitorHeader.Proofs.Settings.Merging
import VisitorHeader.Proofs.Settings.Fields
import VisitorHeader.Proofs.Settings.Decoding
import VisitorHeader.Proofs.Settings.Layering
import VisitorHeader.Proofs.Settings.Precedence
import VisitorHeader.Proofs.Files.Rereading
import VisitorHeader.Proofs.Generator.Rerun
import VisitorHeader.Proofs.Program.Rerun
import VisitorHeader.Proofs.CommandLine.Stdout
import VisitorHeader.Proofs.Generator.Printing
import VisitorHeader.Proofs.Program.Printing
import VisitorHeader.Proofs.Program.Unconfigured
import VisitorHeader.Proofs.Program.Overriding
import VisitorHeader.Proofs.Settings.FirstFailure
import VisitorHeader.Proofs.CommandLine.Spelling
import VisitorHeader.Proofs.Settings.Roundtrip
import VisitorHeader.Proofs.Generator.Conclusion
import VisitorHeader.Proofs.Header.Insertion
import VisitorHeader.Proofs.Node.Qualified
import VisitorHeader.Proofs.Program.Accord
import VisitorHeader.Proofs.Node.Padding
import VisitorHeader.Proofs.Header.Nesting
import VisitorHeader.Proofs.Settings.Optional
import VisitorHeader.Proofs.Settings.Winning
