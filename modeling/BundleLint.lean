import BundleLint.Check.Scripted
import BundleLint.Main
import BundleLint.Session
import BundleLint.Settings.Store
import BundleLint.Proofs.Suite.Blocks
import BundleLint.Proofs.FrontMatter.Partition
import BundleLint.Proofs.Check.Verdict
import BundleLint.Proofs.Yaml.Contained
import BundleLint.Proofs.Yaml.Lexer
import BundleLint.Proofs.Yaml.Compose
import BundleLint.Proofs.Yaml.Scalar
import BundleLint.Proofs.Yaml.Construct
import BundleLint.Proofs.FrontMatter.Rejection
import BundleLint.Proofs.Suite.Escape
import BundleLint.Proofs.Suite.Position
import BundleLint.Proofs.Check.Fault
import BundleLint.Proofs.Settings.Load
import BundleLint.Proofs.CommandLine.Verdict
import BundleLint.Proofs.Json.Quoted
import BundleLint.Proofs.Json.Writing
import BundleLint.Proofs.Report.Json
import BundleLint.Proofs.Suite.Ending
import BundleLint.Proofs.Settings.Store
import BundleLint.Proofs.Settings.Sources
import BundleLint.Proofs.CommandLine.Resolution
import BundleLint.Proofs.Suite.Selection
import BundleLint.Proofs.Text.Utf8
import BundleLint.Proofs.Suite.Encoding
import BundleLint.Proofs.Session.Isolation
import BundleLint.Proofs.CommandLine.Batch
import BundleLint.Proofs.Check.Defect
import BundleLint.Proofs.Check.Relevance
import BundleLint.Proofs.Check.Repair
import BundleLint.Proofs.Suite.Body
import BundleLint.Proofs.Path
import BundleLint.Proofs.Suite.Attribution
import BundleLint.Proofs.Settings.UnknownKeys
import BundleLint.Proofs.Settings.Names
import BundleLint.Proofs.Report.Views
import BundleLint.Proofs.Yaml.Account
import BundleLint.Proofs.Report.Lines
import BundleLint.Proofs.Report.Reading
