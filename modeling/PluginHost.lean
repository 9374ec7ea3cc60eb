import PluginHost.Cache
import PluginHost.Decimal.Binary64
import PluginHost.Decimal.Reading
import PluginHost.Decimal.Shortest
import PluginHost.Definition
import PluginHost.Definition.Flat
import PluginHost.DirectorySet
import PluginHost.Discovery
import PluginHost.Discovery.Directory
import PluginHost.Discovery.Processed
import PluginHost.Discovery.Static
import PluginHost.Error
import PluginHost.Event
import PluginHost.Fault
import PluginHost.FileTree
import PluginHost.FileTree.Change
import PluginHost.FileTree.Sample
import PluginHost.Format
import PluginHost.Format.Document
import PluginHost.Keyed
import PluginHost.Keyed.Lemmas
import PluginHost.OsText
import PluginHost.Path
import PluginHost.Pattern
import PluginHost.Pattern.CharClass
import PluginHost.Pattern.Machine
import PluginHost.Pattern.Reading
import PluginHost.Plugin.Factory
import PluginHost.Plugin.Fallback
import PluginHost.Plugin.Manager
import PluginHost.Plugin.Sample
import PluginHost.Scan
import PluginHost.Proofs.Action
import PluginHost.Proofs.Discovery.Aggregation
import PluginHost.Proofs.Discovery.Contribution
import PluginHost.Settings
import PluginHost.Settings.Decoding
import PluginHost.Settings.Diagnostic
import PluginHost.Settings.Environment
import PluginHost.Settings.Hierarchy
import PluginHost.Settings.KeyLocation
import PluginHost.Settings.Tree
import PluginHost.Settings.Violation
import PluginHost.Text.Age
import PluginHost.Text.Blank
import PluginHost.Text.Break
import PluginHost.Text.CaseFolding
import PluginHost.Text.Category
import PluginHost.Text.CharSet
import PluginHost.Text.Property
import PluginHost.Text.Quoted
import PluginHost.Text.Reader
import PluginHost.Text.Script
import PluginHost.Text.Similarity
import PluginHost.Toml.Document
import PluginHost.Toml.Lexeme
import PluginHost.Toml.Number
import PluginHost.Toml.Value
import PluginHost.Value
import PluginHost.Yaml.Cursor
import PluginHost.Yaml.Document
import PluginHost.Yaml.Node
import PluginHost.Yaml.Property
import PluginHost.Yaml.Scalar
import PluginHost.Yaml.ScalarValue
import PluginHost.Yaml.Token
import PluginHost.Yaml.TokenStream
import PluginHost.Proofs.Discovery.Processing
import PluginHost.Proofs.Plugin.Creation
import PluginHost.Proofs.Cache.Key
import PluginHost.Proofs.Cache.Lookup
import PluginHost.Proofs.Cache.Namespace
import PluginHost.Proofs.Cache.Transparency
import PluginHost.Proofs.Cache.History
import PluginHost.Proofs.Cache.Provenance
import PluginHost.Proofs.Cache.Repetition
import PluginHost.Proofs.Cache.Race
import PluginHost.Proofs.Discovery.Memoization
import PluginHost.Proofs.Discovery.Expansion
import PluginHost.Proofs.OsText
import PluginHost.Proofs.Path
import PluginHost.Proofs.Walk
import PluginHost.Proofs.Scan.Sighting
import PluginHost.Proofs.Definition
import PluginHost.Proofs.DirectorySet
import PluginHost.Proofs.Discovery.Invariant
import PluginHost.Proofs.Plugin.Configured
import PluginHost.Proofs.FileTree.Removal
import PluginHost.Proofs.Cache.Removal
import PluginHost.Proofs.Plugin.Failure
import PluginHost.Proofs.Discovery.DerivedId
import PluginHost.Proofs.Discovery.ClearRace
import PluginHost.Proofs.Except
import PluginHost.Proofs.Definition.Flat
import PluginHost.Proofs.Text.Reader
import PluginHost.Proofs.Settings.Layering
import PluginHost.Proofs.Settings.Record
import PluginHost.Proofs.Settings.Sections
import PluginHost.Proofs.Toml.Distinct
import PluginHost.Proofs.Settings.Written
import PluginHost.Proofs.Settings.Hierarchy
import PluginHost.Proofs.Settings.Document
import PluginHost.Proofs.Settings.Defaults
import PluginHost.Proofs.Settings.Variables
import PluginHost.Proofs.Settings.Precedence
import PluginHost.Proofs.Settings.Naming
import PluginHost.Proofs.Configuration.Merge
import PluginHost.Proofs.Configuration.Repetition
import PluginHost.Proofs.Settings.Validity
import PluginHost.Proofs.Plugin.Planned
import PluginHost.Proofs.Text.Line
import PluginHost.Proofs.Settings.Section
import PluginHost.Proofs.Settings.KeyLocation
import PluginHost.Proofs.Discovery.Settled
import PluginHost.Proofs.Plugin.FirstAvailable
import PluginHost.Proofs.Discovery.Arrangement
import PluginHost.Proofs.Yaml.Line
import PluginHost.Proofs.Yaml.Plain
import PluginHost.Proofs.Yaml.Root
import PluginHost.Proofs.Yaml.Idle
import PluginHost.Proofs.Format.Idle
import PluginHost.Proofs.FileTree.Spelling
import PluginHost.Proofs.Cache.Batch
import PluginHost.Proofs.Settings.Report
import PluginHost.Proofs.Settings.RoundTrip
import PluginHost.Proofs.Settings.Strictness
import PluginHost.Proofs.Definition.Acceptance
import PluginHost.Proofs.Scan.WalkOrder
import PluginHost.Proofs.DirectorySet.Grouping
import PluginHost.Proofs.Log
import PluginHost.Proofs.Discovery.Override
import PluginHost.Proofs.Discovery.OverrideLog
import PluginHost.Proofs.Discovery.Lookups
