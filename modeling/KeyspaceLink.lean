import KeyspaceLink.Access.Connection
import KeyspaceLink.Access.Database
import KeyspaceLink.Access.OptionValue
import KeyspaceLink.Access.Statement
import KeyspaceLink.Access.Unsupported
import KeyspaceLink.Bucket.Patch
import KeyspaceLink.Bucket.Settings
import KeyspaceLink.Catalog.Entries
import KeyspaceLink.Catalog.Index
import KeyspaceLink.Catalog.Info
import KeyspaceLink.Catalog.Like
import KeyspaceLink.Catalog.Listing
import KeyspaceLink.Catalog.Objects
import KeyspaceLink.Catalog.Query
import KeyspaceLink.Catalog.Regex
import KeyspaceLink.Catalog.Tree
import KeyspaceLink.Cluster.Call
import KeyspaceLink.Cluster.Exchange
import KeyspaceLink.Cluster.Open
import KeyspaceLink.Cluster.Pem
import KeyspaceLink.Cluster.Rest
import KeyspaceLink.Cluster.Transport
import KeyspaceLink.Cluster.Wire
import KeyspaceLink.Command.Basic
import KeyspaceLink.Command.Grammar
import KeyspaceLink.Command.Keyspace
import KeyspaceLink.Decimal.Notation
import KeyspaceLink.Decimal.Shortest
import KeyspaceLink.Duration
import KeyspaceLink.Failure
import KeyspaceLink.Json.Basic
import KeyspaceLink.Json.Number
import KeyspaceLink.Json.Outline
import KeyspaceLink.Json.Printer
import KeyspaceLink.Json.Refusal
import KeyspaceLink.Json.Relaxed
import KeyspaceLink.Link.Address
import KeyspaceLink.Link.Host
import KeyspaceLink.Link.HostCharacter
import KeyspaceLink.Link.HostName
import KeyspaceLink.Link.Options
import KeyspaceLink.Link.Parameters
import KeyspaceLink.Link.Property
import KeyspaceLink.Link.Punycode
import KeyspaceLink.Link.Url
import KeyspaceLink.Plan
import KeyspaceLink.Proofs.BatchedRows
import KeyspaceLink.Proofs.BucketPaths
import KeyspaceLink.Proofs.CatalogQueries
import KeyspaceLink.Proofs.ClosedSessions
import KeyspaceLink.Proofs.ClusterCalls
import KeyspaceLink.Proofs.ColumnFilter
import KeyspaceLink.Proofs.ColumnNames
import KeyspaceLink.Proofs.CommandDispatch
import KeyspaceLink.Proofs.CommandGrammars
import KeyspaceLink.Proofs.ConnectionRuns
import KeyspaceLink.Proofs.ConnectionString
import KeyspaceLink.Proofs.Conversation
import KeyspaceLink.Proofs.CreateBucket
import KeyspaceLink.Proofs.CreateBucketGrammar
import KeyspaceLink.Proofs.CursorRuns
import KeyspaceLink.Proofs.DatabaseSettings
import KeyspaceLink.Proofs.Delivery
import KeyspaceLink.Proofs.DescribedOptions
import KeyspaceLink.Proofs.DropBucket
import KeyspaceLink.Proofs.FieldNames
import KeyspaceLink.Proofs.ForwardedOptions
import KeyspaceLink.Proofs.GrammarReading
import KeyspaceLink.Proofs.HostLists
import KeyspaceLink.Proofs.IndexEntries
import KeyspaceLink.Proofs.IntegerCells
import KeyspaceLink.Proofs.IntegerOptions
import KeyspaceLink.Proofs.JsonGrammar
import KeyspaceLink.Proofs.JsonRange
import KeyspaceLink.Proofs.JsonText
import KeyspaceLink.Proofs.LikePatterns
import KeyspaceLink.Proofs.LinkSettings
import KeyspaceLink.Proofs.LinkTimeouts
import KeyspaceLink.Proofs.MendedText
import KeyspaceLink.Proofs.MergedColumns
import KeyspaceLink.Proofs.ObjectAdditions
import KeyspaceLink.Proofs.ObjectListing
import KeyspaceLink.Proofs.ObjectRows
import KeyspaceLink.Proofs.OptionSources
import KeyspaceLink.Proofs.Outcomes
import KeyspaceLink.Proofs.PercentEscapes
import KeyspaceLink.Proofs.PrintedHosts
import KeyspaceLink.Proofs.QuotedText
import KeyspaceLink.Proofs.ReadOnly
import KeyspaceLink.Proofs.Readiness
import KeyspaceLink.Proofs.Reading
import KeyspaceLink.Proofs.RegexMatches
import KeyspaceLink.Proofs.SamplingStatements
import KeyspaceLink.Proofs.Seeds
import KeyspaceLink.Proofs.SeriesCells
import KeyspaceLink.Proofs.ServerPaths
import KeyspaceLink.Proofs.SettingsBlock
import KeyspaceLink.Proofs.SettingsDocument
import KeyspaceLink.Proofs.StatementActs
import KeyspaceLink.Proofs.StatementRuns
import KeyspaceLink.Proofs.StatementTexts
import KeyspaceLink.Proofs.WaitTimes
import KeyspaceLink.Proofs.WireBodies
import KeyspaceLink.Proofs.Wording
import KeyspaceLink.Proofs.WrittenSpans
import KeyspaceLink.Rows.ColumnType
import KeyspaceLink.Rows.Cursor
import KeyspaceLink.Rows.Reader
import KeyspaceLink.Rows.Series
import KeyspaceLink.Rows.View
import KeyspaceLink.Sample.Collector
import KeyspaceLink.Sample.Sampler
import KeyspaceLink.Sample.Tag
import KeyspaceLink.Session.Basic
import KeyspaceLink.Session.CreateBucket
import KeyspaceLink.Session.Describe
import KeyspaceLink.Session.DropBucket
import KeyspaceLink.Session.Execute
import KeyspaceLink.Session.Keys
import KeyspaceLink.Session.Readiness
import KeyspaceLink.Text.Base64
import KeyspaceLink.Text.Blank
import KeyspaceLink.Text.Case
import KeyspaceLink.Text.Composition
import KeyspaceLink.Text.Digits
import KeyspaceLink.Text.Direction
import KeyspaceLink.Text.Formless
import KeyspaceLink.Text.Joining
import KeyspaceLink.Text.Mark
import KeyspaceLink.Text.NormalForm
import KeyspaceLink.Text.Octets
import KeyspaceLink.Text.Percent
import KeyspaceLink.Text.Quoted
import KeyspaceLink.Text.Split
import KeyspaceLink.Text.Table
