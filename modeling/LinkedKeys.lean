import LinkedKeys.Control.Rehearsal
import LinkedKeys.Main
import LinkedKeys.Program.World
import LinkedKeys.Proofs.Store.Serving
import LinkedKeys.Proofs.Control.Courses
import LinkedKeys.Proofs.Control.Agreement
import LinkedKeys.Proofs.Control.Linking
import LinkedKeys.Proofs.Control.Lifetimes
import LinkedKeys.Proofs.Control.Effects
import LinkedKeys.Proofs.Control.Stranding
import LinkedKeys.Proofs.Beside
import LinkedKeys.Proofs.Control.Reading
import LinkedKeys.Proofs.Control.Racing
import LinkedKeys.Proofs.Control.Fetches
import LinkedKeys.Proofs.Control.Renewal
import LinkedKeys.Proofs.Runs
import LinkedKeys.Proofs.Text.Lines
import LinkedKeys.Proofs.Files.Places
import LinkedKeys.Proofs.Store.Filed
import LinkedKeys.Proofs.Control.Filing
import LinkedKeys.Proofs.Program.Runs
import LinkedKeys.Proofs.Program.Unlinking
import LinkedKeys.Proofs.Control.Naming
import LinkedKeys.Proofs.Web.Answers
import LinkedKeys.Proofs.Program.Linking
import LinkedKeys.Proofs.Program.RoundTrip
import LinkedKeys.Proofs.Web.Authorities
import LinkedKeys.Proofs.Web.KeysUrl
import LinkedKeys.Proofs.Control.Hearing
import LinkedKeys.Proofs.Control.Confinement
import LinkedKeys.Proofs.Control.Screen
import LinkedKeys.Proofs.Control.Finishing
import LinkedKeys.Proofs.Program.Accord
import LinkedKeys.Proofs.Files.Making
import LinkedKeys.Proofs.Store.Simulation
import LinkedKeys.Proofs.Web.KeptHost
import LinkedKeys.Proofs.Control.Traces
import LinkedKeys.Proofs.Files.Replacing
import LinkedKeys.Proofs.Store.Framing
import LinkedKeys.Proofs.Program.Input
import LinkedKeys.Proofs.Control.Settling
import LinkedKeys.Proofs.Program.Servers
import LinkedKeys.Proofs.Program.Clicks
import LinkedKeys.Proofs.Program.Panels
import LinkedKeys.Proofs.Text.Fields
import LinkedKeys.Proofs.Digest.Base64
import LinkedKeys.Proofs.Keys.Reading
import LinkedKeys.Proofs.Keys.Fingerprints
import LinkedKeys.Proofs.Program.Listing
import LinkedKeys.Proofs.Settings.Precedence
import LinkedKeys.Proofs.Settings.Arguments
import LinkedKeys.Proofs.Settings.Documents
import LinkedKeys.Proofs.Program.Prompting
import LinkedKeys.Proofs.Report.Decoding
import LinkedKeys.Proofs.Program.Reporting
import LinkedKeys.Proofs.Toml.Places
import LinkedKeys.Proofs.Toml.Statements
import LinkedKeys.Proofs.Toml.Bounds
import LinkedKeys.Proofs.Settings.Acceptance
import LinkedKeys.Proofs.Toml.Integers
import LinkedKeys.Proofs.Toml.Quotations
import LinkedKeys.Proofs.Toml.QuotedLines
import LinkedKeys.Proofs.Toml.Names
import LinkedKeys.Proofs.Toml.Values
import LinkedKeys.Proofs.Toml.Lines
import LinkedKeys.Proofs.Settings.Writing
