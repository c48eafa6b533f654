import LineMachine.CommandLine.Run
import LineMachine.Config.Loader
import LineMachine.Definition.File
import LineMachine.Machine.Engine
import LineMachine.Machine.Inspect
import LineMachine.Main
import LineMachine.Pattern
import LineMachine.Proofs.Builtin.Failure
import LineMachine.Proofs.Builtin.Fault
import LineMachine.Proofs.Builtin.Frame
import LineMachine.Proofs.Definition.Append
import LineMachine.Proofs.Definition.Shadow
import LineMachine.Proofs.Machine.Recording
import LineMachine.Proofs.Machine.Safety
import LineMachine.Proofs.Machine.StackLog
import LineMachine.Proofs.Machine.Terminators
import LineMachine.Proofs.TableBuilder.Declared
import LineMachine.Proofs.TableBuilder.Rearranging
import LineMachine.Proofs.TableBuilder.Leniency
import LineMachine.Proofs.TableBuilder.Refusal
import LineMachine.Proofs.Builtin.Termination
import LineMachine.Proofs.Definition.RoundTrip
import LineMachine.Proofs.Builtin.Decodings
import LineMachine.Proofs.Builtin.Account
import LineMachine.Proofs.Definition.Outcome
import LineMachine.Proofs.Builtin.Amortised
import LineMachine.Proofs.Definition.CatchAll
import LineMachine.Proofs.Builtin.GroupText
import LineMachine.Proofs.CommandLine.TextReport
import LineMachine.Proofs.Config.Layering
import LineMachine.Proofs.CommandLine.Commands
import LineMachine.Proofs.Machine.Requirement
import LineMachine.Proofs.Text.Reader
import LineMachine.Proofs.Pattern
