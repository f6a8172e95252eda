import Bindery.CommandLine.Arguments
import Bindery.CommandLine.Markup
import Bindery.CommandLine.Program
import Bindery.CommandLine.Style
import Bindery.Compression.Bits
import Bindery.Compression.Checksum
import Bindery.Compression.Inflate
import Bindery.Compression.PrefixCode
import Bindery.Data.Calendar
import Bindery.Data.Datum
import Bindery.Data.Json
import Bindery.Data.JsonBytes
import Bindery.Data.JsonText
import Bindery.Data.NumberText
import Bindery.Data.Toml.Document
import Bindery.Data.Toml.Scalar
import Bindery.Data.Toml.Table
import Bindery.Data.VariableFile
import Bindery.Data.Yaml.Node
import Bindery.Data.Yaml.Place
import Bindery.Data.Yaml.Scalar
import Bindery.Data.Yaml.ScalarText
import Bindery.Data.Yaml.Token
import Bindery.Data.Yaml.Value
import Bindery.Discovery.Candidates
import Bindery.Discovery.Catalogue
import Bindery.Discovery.Documents
import Bindery.Discovery.Listing
import Bindery.Failure
import Bindery.Failure.Report
import Bindery.Files.Changes
import Bindery.Files.Path
import Bindery.Files.Tree
import Bindery.Generation
import Bindery.Interruption
import Bindery.Main
import Bindery.Method.Arguments
import Bindery.Method.Basic
import Bindery.Method.Compile
import Bindery.Method.Documentation
import Bindery.Method.Placement
import Bindery.Name.Api
import Bindery.Name.Identifier
import Bindery.Name.Method
import Bindery.Name.Version
import Bindery.Network.ContentCoding
import Bindery.Network.Fetch
import Bindery.Network.FieldParameter
import Bindery.Network.Recorded
import Bindery.Network.Response
import Bindery.Network.Slots
import Bindery.Network.Status
import Bindery.Notice
import Bindery.Number.Binary64
import Bindery.Number.FloatText
import Bindery.Number.Shortest
import Bindery.Package.Emission
import Bindery.Package.IndexModule
import Bindery.Package.MethodSource
import Bindery.Package.Tree
import Bindery.Package.TypeHint
import Bindery.Package.VersionModule
import Bindery.Path.Template
import Bindery.Pattern.Basic
import Bindery.Pattern.Reader
import Bindery.Proofs.Data.Members
import Bindery.Proofs.Method.Arguments
import Bindery.Proofs.Method.Compatibility
import Bindery.Proofs.Method.FreshNames
import Bindery.Proofs.Method.Interpolation
import Bindery.Proofs.Method.Marks
import Bindery.Proofs.Method.Occupancy
import Bindery.Proofs.Method.PathBinding
import Bindery.Proofs.Method.Placement
import Bindery.Proofs.Method.Requests
import Bindery.Proofs.Method.Urls
import Bindery.Proofs.Path.Layout
import Bindery.Proofs.Path.Placeholders
import Bindery.Proofs.Path.Scan
import Bindery.Proofs.Path.Seats
import Bindery.Proofs.Source.Evaluation
import Bindery.Proofs.Source.Scopes
import Bindery.Schema.Checked
import Bindery.Schema.Document
import Bindery.Schema.Node
import Bindery.Session.Basic
import Bindery.Session.Exchange
import Bindery.Settings.Basic
import Bindery.Settings.Environment
import Bindery.Settings.Load
import Bindery.Settings.Options
import Bindery.Settings.Sources
import Bindery.Source.Basic
import Bindery.Source.Imports
import Bindery.Source.Legality
import Bindery.Source.Printer
import Bindery.Source.Shape
import Bindery.Text.Blank
import Bindery.Text.CellWidth
import Bindery.Text.CharTable
import Bindery.Text.Charset
import Bindery.Text.Charset.Big5
import Bindery.Text.Charset.Chinese
import Bindery.Text.Charset.CodePage
import Bindery.Text.Charset.Decoding
import Bindery.Text.Charset.Escapes
import Bindery.Text.Charset.Gb2312
import Bindery.Text.Charset.Grid
import Bindery.Text.Charset.Japanese
import Bindery.Text.Charset.JisX0208
import Bindery.Text.Charset.JisX0212
import Bindery.Text.Charset.JisX0213
import Bindery.Text.Charset.Korean
import Bindery.Text.Charset.KsX1001
import Bindery.Text.Charset.Punycode
import Bindery.Text.Charset.Seven
import Bindery.Text.Charset.Switching
import Bindery.Text.Charset.Unicode
import Bindery.Text.Decompose
import Bindery.Text.Digit
import Bindery.Text.Emoji
import Bindery.Text.Identifier
import Bindery.Text.LetterCase
import Bindery.Text.Printable
import Bindery.Text.Quoted
import Bindery.Text.Word
import Bindery.Proofs.Method.Calls
import Bindery.Proofs.Method.Compilation
import Bindery.Proofs.Method.Grouping
import Bindery.Proofs.Name.Identifiers
import Bindery.Proofs.Source.Names
import Bindery.Proofs.Source.Collected
import Bindery.Proofs.Package.VersionModules
import Bindery.Proofs.Package.Reachability
import Bindery.Proofs.Discovery.GatheredRuns
import Bindery.Proofs.Discovery.Editions
import Bindery.Proofs.Discovery.Records
import Bindery.Proofs.Discovery.BuiltTrees
import Bindery.Proofs.Files.Directories
import Bindery.Proofs.Package.Emission
import Bindery.Proofs.Package.StraightPaths
import Bindery.Proofs.Package.BuiltPackages
import Bindery.Proofs.Package.WrittenFiles
import Bindery.Proofs.Package.RootAgreement
import Bindery.Proofs.Session.Log
import Bindery.Proofs.Schema.ForeignMembers
import Bindery.Proofs.Discovery.Arrivals
import Bindery.Proofs.Discovery.FailedFetches
import Bindery.Proofs.Discovery.FailedRuns
import Bindery.Proofs.Discovery.FirstUsable
import Bindery.Proofs.Files.Confinement
import Bindery.Proofs.Package.Confinement
import Bindery.Proofs.Network.Slots
import Bindery.Proofs.Network.Schedules
import Bindery.Proofs.Data.Nesting
import Bindery.Proofs.Session.RequestShape
import Bindery.Proofs.Path.Templates
import Bindery.Proofs.Name.PlaceholderNames
import Bindery.Proofs.Method.UsableNames
import Bindery.Proofs.Package.DocumentedVerbs
import Bindery.Proofs.Method.UrlDefaults
import Bindery.Proofs.Data.Repetitions
import Bindery.Proofs.Discovery.Candidates
import Bindery.Proofs.Pattern.Ways
import Bindery.Proofs.Pattern.Languages
import Bindery.Proofs.Name.HostNames
import Bindery.Proofs.Discovery.HostLinks
import Bindery.Proofs.Schema.Readings
import Bindery.Proofs.Settings.Sources
import Bindery.Proofs.Settings.Loading
import Bindery.Proofs.Text.Joined
import Bindery.Proofs.Source.ImportCalls
import Bindery.Proofs.Method.Documentation
import Bindery.Proofs.Name.Projections
import Bindery.Proofs.Package.TypeHints
