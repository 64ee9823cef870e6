import Bootstrapper.Debugger.Tracer
import Bootstrapper.DemoHost
import Bootstrapper.Environment.ProcessTable
import Bootstrapper.Launch
import Bootstrapper.Main
import Bootstrapper.Module.Library
import Bootstrapper.Module.Sequence
import Bootstrapper.Module.Table
import Bootstrapper.Proofs.CommandLine.Written
import Bootstrapper.Proofs.Debugger.Tracer
import Bootstrapper.Proofs.Debugger.Wait
import Bootstrapper.Proofs.DemoHost
import Bootstrapper.Proofs.DemoHost.Status
import Bootstrapper.Proofs.Environment.Contract
import Bootstrapper.Proofs.Environment.ProcessTable
import Bootstrapper.Proofs.ExitStatus
import Bootstrapper.Proofs.Files.Tree
import Bootstrapper.Proofs.Handover
import Bootstrapper.Proofs.Json.RoundTrip
import Bootstrapper.Proofs.Module.Call
import Bootstrapper.Proofs.Module.Library
import Bootstrapper.Proofs.Module.Lifecycle
import Bootstrapper.Proofs.Module.Transparency
import Bootstrapper.Proofs.Path.Canonical
import Bootstrapper.Proofs.Path.Directory
import Bootstrapper.Proofs.Path.Equivalence
import Bootstrapper.Proofs.Path.Full
import Bootstrapper.Proofs.Path.Relative
import Bootstrapper.Proofs.Path.Scan
import Bootstrapper.Proofs.Path.Shown
import Bootstrapper.Proofs.Report
import Bootstrapper.Proofs.Startup.DataFlow
import Bootstrapper.Proofs.Startup.HostDirectory
import Bootstrapper.Proofs.Startup.Preparation
import Bootstrapper.Proofs.Startup.SearchPath
import Bootstrapper.Proofs.Startup.Tracing
import Bootstrapper.Proofs.Suite.Configuration
import Bootstrapper.Proofs.Suite.Genuine
import Bootstrapper.Proofs.Suite.Isolation
import Bootstrapper.Proofs.Suite.Launch
import Bootstrapper.Proofs.Suite.Options
import Bootstrapper.Proofs.Suite.Scenario
import Bootstrapper.Proofs.Suite.TraceEvents
import Bootstrapper.Proofs.Suite.Trial
import Bootstrapper.Proofs.Suite.WorkDirectory
import Bootstrapper.Proofs.Text.Hexadecimal
import Bootstrapper.Proofs.Text.Lines
import Bootstrapper.Proofs.Text.Lossy
import Bootstrapper.Proofs.Text.WellFormed
import Bootstrapper.Suite.Run
import Bootstrapper.Text.Utf8.Laws
