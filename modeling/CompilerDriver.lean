import CompilerDriver.Invocation
import CompilerDriver.Machine
import CompilerDriver.Main
import CompilerDriver.Proofs.Command
import CompilerDriver.Proofs.Invocation.Format
import CompilerDriver.Proofs.Invocation.Status
import CompilerDriver.Proofs.Options.Fallback
import CompilerDriver.Proofs.Options.Request
import CompilerDriver.Proofs.Options.RoundTrip
import CompilerDriver.Proofs.Path.Climbs
import CompilerDriver.Proofs.Report.Account
import CompilerDriver.Proofs.Report.Human
import CompilerDriver.Proofs.Run.Accounting
import CompilerDriver.Proofs.Run.Checked
import CompilerDriver.Proofs.Run.Frame
import CompilerDriver.Proofs.Run.Image
import CompilerDriver.Proofs.Run.Independence
import CompilerDriver.Proofs.Run.Jobs
import CompilerDriver.Proofs.Run.Output
import CompilerDriver.Proofs.Run.Policy
import CompilerDriver.Proofs.Run.Refusal
import CompilerDriver.Proofs.Template.Redirection
import CompilerDriver.Script
