import TextGauge.CommandLine.Spelling
import TextGauge.Directory
import TextGauge.Json.Parser
import TextGauge.Main
import TextGauge.Proofs.Placeholder.Division
import TextGauge.Report.FromJson
import TextGauge.Session
import TextGauge.Settings.ToToml
import TextGauge.Proofs.Utf8
import TextGauge.Proofs.CommandLine.Items
import TextGauge.Proofs.CommandLine.RoundTrip
import TextGauge.Proofs.Toml.Literals
import TextGauge.Proofs.Toml.Lines
import TextGauge.Proofs.Toml.Building
import TextGauge.Proofs.Settings.Written
import TextGauge.Proofs.Settings.RoundTrip
import TextGauge.Proofs.Text.Measure
import TextGauge.Proofs.Run
import TextGauge.Proofs.Program.Contract
import TextGauge.Proofs.CommandLine.Recorded
import TextGauge.Proofs.CommandLine.Acceptance
import TextGauge.Proofs.Program.Agreement
import TextGauge.Proofs.Json.Literals
import TextGauge.Proofs.Json.RoundTrip
import TextGauge.Proofs.Report
import TextGauge.Proofs.Toml.Keys
import TextGauge.Proofs.Utf8.Order
import TextGauge.Proofs.Toml.Place
import TextGauge.Proofs.Settings.Schema
import TextGauge.Proofs.Settings.Acceptance
import TextGauge.Proofs.Report.Acceptance
import TextGauge.Proofs.Program.Modes
import TextGauge.Proofs.Report.Lines
import TextGauge.Proofs.Program.Log
import TextGauge.Proofs.Program.Terminated
import TextGauge.Proofs.Settings.Delivery
import TextGauge.Proofs.Environment
import TextGauge.Proofs.Program.Independence
import TextGauge.Proofs.Program.Levels
import TextGauge.Proofs.Text.Characters
import TextGauge.Proofs.Run.Exact
import TextGauge.Proofs.Text.Echo
import TextGauge.Proofs.Log.Lines
