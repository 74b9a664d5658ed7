import Watchdog.CommandLine.HelpText
import Watchdog.CommandLine.Invocation
import Watchdog.CommandLine.LogFilter
import Watchdog.CommandLine.Program
import Watchdog.CommandLine.RunArgs
import Watchdog.CommandLine.Scan
import Watchdog.CommandLine.Stop
import Watchdog.Duration
import Watchdog.Host.Behaviour
import Watchdog.Host.Execution
import Watchdog.Host.Files
import Watchdog.Host.Machine
import Watchdog.Host.Routine
import Watchdog.Host.Scene
import Watchdog.Host.Shell.Arithmetic
import Watchdog.Host.Shell.Builtins
import Watchdog.Host.Shell.Condition
import Watchdog.Host.Shell.Format
import Watchdog.Host.Shell.Programs
import Watchdog.Host.Shell.Run
import Watchdog.Host.Shell.Script
import Watchdog.Host.Shell.State
import Watchdog.Host.Shell.Words
import Watchdog.Host.Subject
import Watchdog.Launch.Backoff
import Watchdog.Launch.Handle
import Watchdog.Launch.Options
import Watchdog.Main
import Watchdog.Outcome.CrashSignature
import Watchdog.Outcome.FailCount
import Watchdog.Outcome.Failure
import Watchdog.Outcome.Verdict
import Watchdog.Proofs.Attempt.Deadline
import Watchdog.Proofs.Attempt.Events
import Watchdog.Proofs.Attempt.Frames
import Watchdog.Proofs.Attempt.History
import Watchdog.Proofs.Attempt.Output
import Watchdog.Proofs.Attempt.Passing
import Watchdog.Proofs.Attempt.Received
import Watchdog.Proofs.Attempt.Requests
import Watchdog.Proofs.Attempt.Settlement
import Watchdog.Proofs.Attempt.Timeliness
import Watchdog.Proofs.CommandLine.EnvFlags
import Watchdog.Proofs.CommandLine.OwnWords
import Watchdog.Proofs.CommandLine.RunWords
import Watchdog.Proofs.CommandLine.Scan
import Watchdog.Proofs.CommandLine.Spelling
import Watchdog.Proofs.Duration.Parts
import Watchdog.Proofs.Handle.Killing
import Watchdog.Proofs.Handle.Signals
import Watchdog.Proofs.Host.Schedule
import Watchdog.Proofs.Json.Layout
import Watchdog.Proofs.Json.Reader
import Watchdog.Proofs.Launch.Backoff
import Watchdog.Proofs.Launch.Environment
import Watchdog.Proofs.Outcome.CrashForms
import Watchdog.Proofs.Outcome.CrashMessage
import Watchdog.Proofs.Outcome.FailCount
import Watchdog.Proofs.Outcome.LaterOutput
import Watchdog.Proofs.Outcome.PanicHeader
import Watchdog.Proofs.Outcome.Screening
import Watchdog.Proofs.Outcome.Verdict
import Watchdog.Proofs.Report.Agreement
import Watchdog.Proofs.Report.Json
import Watchdog.Proofs.Report.Summary
import Watchdog.Proofs.Report.Tag
import Watchdog.Proofs.Report.TagMeaning
import Watchdog.Proofs.Run.Cleaning
import Watchdog.Proofs.Run.LogFiles
import Watchdog.Proofs.Runner.Backoff
import Watchdog.Proofs.Runner.Retries
import Watchdog.Proofs.Session.Calls
import Watchdog.Proofs.Session.History
import Watchdog.Proofs.Session.Report
import Watchdog.Proofs.StreamBuffer.Withholding
import Watchdog.Proofs.Text.Lowercase
import Watchdog.Proofs.Text.Search
import Watchdog.Proofs.Utf8.Check
import Watchdog.Proofs.Utf8.Front
import Watchdog.Proofs.Utf8.Lossy
import Watchdog.Report
import Watchdog.Run.Attempt
import Watchdog.Run.Delivery
import Watchdog.Run.Effect
import Watchdog.Run.LogFiles
import Watchdog.Run.Runner
import Watchdog.Session
import Watchdog.Session.Barrier
import Watchdog.Session.StreamBuffer
import Watchdog.System.Errno
import Watchdog.System.IoError
import Watchdog.System.Platform
import Watchdog.System.Signal
import Watchdog.Text.Blank
import Watchdog.Text.Digit
import Watchdog.Text.Hidden
import Watchdog.Text.Json
import Watchdog.Text.Lowercase
import Watchdog.Text.Lowercase.Table
import Watchdog.Text.Numeral
import Watchdog.Text.Quoted
import Watchdog.Text.Ranges
import Watchdog.Text.Search
import Watchdog.Text.Utf8
