import WebAccess.Cache
import WebAccess.Codec.Access
import WebAccess.Codec.Rdf
import WebAccess.Decimal.Layout
import WebAccess.Decimal.Numeral
import WebAccess.Decimal.Shortest
import WebAccess.Document.Decode
import WebAccess.Document.Json.Reader
import WebAccess.Document.Json.Scan
import WebAccess.Document.Json.Writer
import WebAccess.Document.Mistake
import WebAccess.Document.Toml.Reader
import WebAccess.Document.Toml.Scan
import WebAccess.Document.Toml.Table
import WebAccess.Document.Tree
import WebAccess.Duration
import WebAccess.Fault
import WebAccess.Identifier
import WebAccess.Mode
import WebAccess.NameSet
import WebAccess.Observed
import WebAccess.Rdf.Graph
import WebAccess.Rdf.Term
import WebAccess.Request
import WebAccess.Resolution
import WebAccess.Resource
import WebAccess.Rule
import WebAccess.Service
import WebAccess.Service.Description
import WebAccess.ServiceConfig
import WebAccess.Session
import WebAccess.Settings
import WebAccess.Settings.Codec
import WebAccess.Settings.Environment
import WebAccess.Settings.Error
import WebAccess.Settings.Loader
import WebAccess.Settings.Validation
import WebAccess.Settings.VariableFile
import WebAccess.Startup
import WebAccess.Store
import WebAccess.Store.Overlay
import WebAccess.Telemetry.Config
import WebAccess.Telemetry.Filter
import WebAccess.Telemetry.Installation
import WebAccess.Telemetry.Recorder
import WebAccess.Telemetry.SocketAddress
import WebAccess.Text.Alphanumeric
import WebAccess.Text.Blank
import WebAccess.Text.CodeRange
import WebAccess.Text.Digit
import WebAccess.Text.Hidden
import WebAccess.Text.Pieces
import WebAccess.Text.Quoted
import WebAccess.Text.UpperCase
import WebAccess.Vocabulary
import WebAccess.Proofs.Answers
import WebAccess.Proofs.Statements
import WebAccess.Proofs.Walk
import WebAccess.Proofs.Admission
import WebAccess.Proofs.CacheEntries
import WebAccess.Proofs.NearestRules
import WebAccess.Proofs.ServiceCalls
import WebAccess.Proofs.Delegation
import WebAccess.Proofs.Staleness
import WebAccess.Proofs.RootRules
import WebAccess.Proofs.RootLag
import WebAccess.Proofs.Identification
import WebAccess.Proofs.Administrators
import WebAccess.Proofs.RecordFields
import WebAccess.Proofs.SettingsItems
import WebAccess.Proofs.SettingsLayers
import WebAccess.Proofs.WalkPlaces
import WebAccess.Proofs.Failures
import WebAccess.Proofs.Unrelated
import WebAccess.Proofs.WalkEnd
import WebAccess.Proofs.PathCuts
import WebAccess.Proofs.PathRoots
import WebAccess.Proofs.CacheRun
import WebAccess.Proofs.CacheUse
import WebAccess.Proofs.RootEffect
import WebAccess.Proofs.ConfiguredRoot
import WebAccess.Proofs.AcceptedSettings
import WebAccess.Proofs.JsonText
import WebAccess.Proofs.ValueTexts
import WebAccess.Proofs.ByteOffsets
import WebAccess.Proofs.ParentChain
import WebAccess.Proofs.InstalledOnce
import WebAccess.Proofs.Rearranged
import WebAccess.Proofs.AddedStatements
import WebAccess.Proofs.TouchOrder
import WebAccess.Proofs.Retention
import WebAccess.Proofs.FailedCalls
import WebAccess.Proofs.GroupDocuments
import WebAccess.Proofs.VariableOrder
import WebAccess.Proofs.CacheAccounts
import WebAccess.Proofs.CountedNotes
import WebAccess.Proofs.Metrics
import WebAccess.Proofs.FirstOccurrences
import WebAccess.Proofs.GraphBuilding
import WebAccess.Proofs.ExtractedRules
import WebAccess.Proofs.KeyTexts
