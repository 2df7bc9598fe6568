import ServiceClause.Main
import ServiceClause.Query.Base
import ServiceClause.Query.Template
import ServiceClause.Registry.Scripted
import ServiceClause.Remote.Script
import ServiceClause.Stream.Reference
import ServiceClause.Term.Tagged
import ServiceClause.Http.Domain
import ServiceClause.Proofs.Stream.Blocks
import ServiceClause.Proofs.Stream.Outlook
import ServiceClause.Proofs.Stream.Session
import ServiceClause.Proofs.Stream.Delivery
import ServiceClause.Proofs.Sequences
import ServiceClause.Proofs.Batch.Runs
import ServiceClause.Proofs.Rows
import ServiceClause.Proofs.Query.Sendable
import ServiceClause.Proofs.Batch.Silent
import ServiceClause.Proofs.Stream.Runs
import ServiceClause.Proofs.Stream.Silent
import ServiceClause.Proofs.Interleavings
import ServiceClause.Proofs.RowIndex
import ServiceClause.Proofs.Batch.Transparency
import ServiceClause.Proofs.Batch.InputBindings
import ServiceClause.Proofs.Stream.Acceptance
import ServiceClause.Proofs.Stream.Protocol
import ServiceClause.Proofs.Batch.Silencing
import ServiceClause.Proofs.Stream.Silencing
import ServiceClause.Proofs.Registry.Counts
import ServiceClause.Proofs.Registry.Conservation
import ServiceClause.Proofs.Batch.Cancellation
import ServiceClause.Proofs.Stream.Cancellation
import ServiceClause.Proofs.Registry.Races
import ServiceClause.Proofs.Registry.Contests
import ServiceClause.Proofs.Registry.Agreement
import ServiceClause.Proofs.Batch.IndexBinding
import ServiceClause.Proofs.Query.InlineReader
import ServiceClause.Proofs.Query.LexicalForms
import ServiceClause.Proofs.Query.InlineRoundTrip
import ServiceClause.Proofs.Json.RoundTrip
import ServiceClause.Proofs.Results.RoundTrip
import ServiceClause.Text.Regex
import ServiceClause.Proofs.Query.Pieces
import ServiceClause.Proofs.Query.Substitution
import ServiceClause.Proofs.Stream.Release
import ServiceClause.Proofs.Http.Requests
import ServiceClause.Proofs.Http.Lifecycle
import ServiceClause.Proofs.Http.Tiers
import ServiceClause.Proofs.Query.BaseDeclaration
import ServiceClause.Proofs.Query.Boundaries
import ServiceClause.Proofs.Query.Splicing
import ServiceClause.Proofs.Query.Values
import ServiceClause.Proofs.Query.Containment
import ServiceClause.Proofs.Query.Closing
import ServiceClause.Proofs.Batch.RowIndexName
import ServiceClause.Proofs.Batch.Retry
import ServiceClause.Proofs.Batch.Sent
import ServiceClause.Proofs.Batch.Lateness
import ServiceClause.Proofs.Http.Patience
import ServiceClause.Proofs.Joins.ByIndex
import ServiceClause.Proofs.Joins.CrossProduct
import ServiceClause.Proofs.Joins.SilencedPulls
import ServiceClause.Proofs.Hints
import ServiceClause.Proofs.Results.Decoding
import ServiceClause.Proofs.Merging
import ServiceClause.Proofs.RowHistories
import ServiceClause.Proofs.Report.SeparatedFields
import ServiceClause.Proofs.Config.RoundTrip
import ServiceClause.Proofs.CommandLine.Output
