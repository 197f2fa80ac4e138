import ClassScope.Main
import ClassScope.Proofs.Naming.Lookup
import ClassScope.Proofs.Naming.Passes
import ClassScope.Proofs.Naming.Pieces
import ClassScope.Proofs.Naming.Quotes
import ClassScope.Proofs.Naming.Calls
import ClassScope.Proofs.Naming.Selectors
import ClassScope.Proofs.Naming.ScriptNames
import ClassScope.Proofs.Naming.Markup
import ClassScope.Proofs.Naming.Stylesheet
import ClassScope.Proofs.Naming.Agreement
import ClassScope.Proofs.Build.Session
import ClassScope.Proofs.Build.ModuleOrder
import ClassScope.Proofs.Build.Calls
import ClassScope.Proofs.Build.Protocol
import ClassScope.Proofs.Build.Names
import ClassScope.Proofs.Build.Origin
import ClassScope.Proofs.Build.Agreement
import ClassScope.Proofs.File.Tree
import ClassScope.Proofs.File.Access
import ClassScope.Proofs.File.Writing
import ClassScope.Proofs.File.Listing
import ClassScope.Proofs.Command.Run
import ClassScope.Proofs.Command.Reading
import ClassScope.Proofs.Command.Change
import ClassScope.Proofs.Command.Modules
import ClassScope.Proofs.Command.BuildRun
import ClassScope.Proofs.Command.Rerun
import ClassScope.Proofs.Command.Failure
import ClassScope.Proofs.Command.Refinement
import ClassScope.Proofs.Naming.Composition
import ClassScope.Proofs.Naming.Insertion
import ClassScope.Proofs.Command.Frame
import ClassScope.Proofs.Command.Switch
import ClassScope.Proofs.Command.DryRun
import ClassScope.Proofs.Command.Restore
import ClassScope.Proofs.Naming.Recovery
import ClassScope.Proofs.Naming.Cuts
import ClassScope.Proofs.Naming.Independence
import ClassScope.Proofs.Audit.Calls
import ClassScope.Proofs.Naming.Quotations
import ClassScope.Proofs.Audit.Scan
import ClassScope.Proofs.Audit.Coverage
import ClassScope.Proofs.Html.Document
import ClassScope.Proofs.Html.Reading
import ClassScope.Proofs.Naming.Documents
import ClassScope.Proofs.Audit.Markup
import ClassScope.Proofs.Naming.IdLookups
import ClassScope.Proofs.Naming.Templates
import ClassScope.Proofs.Naming.Attributes
import ClassScope.Proofs.Site.Preview
import ClassScope.Proofs.Site.Manifest
import ClassScope.Proofs.Site.ManifestShapes
import ClassScope.Proofs.Json.Depth
import ClassScope.Proofs.Command.ManifestFile
import ClassScope.Proofs.Json.Strings
import ClassScope.Proofs.Json.RoundTrip
import ClassScope.Proofs.Site.NamingScript
import ClassScope.Proofs.File.Storage
import ClassScope.Proofs.Html.Acceptance
import ClassScope.Proofs.Audit.Report
import ClassScope.Proofs.Command.AuditRun
import ClassScope.Proofs.Command.Documents
import ClassScope.Proofs.Audit.Assignments
import ClassScope.Proofs.Build.EnvFile
import ClassScope.Proofs.Command.AuditRepeat
import ClassScope.Proofs.Command.Discovery
import ClassScope.Proofs.Command.Precedence
