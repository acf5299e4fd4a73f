import ListingAttributes.ProductKey
import ListingAttributes.Validation
import ListingAttributes.MemorySpeed
import ListingAttributes.Reply
import ListingAttributes.ExtractionError
import ListingAttributes.Generation.Scripted
import ListingAttributes.Generation.Adapter
import ListingAttributes.Prompt
import ListingAttributes.Settings.Pipeline
import ListingAttributes.Extraction.Backends
import ListingAttributes.Extraction.Operations
import ListingAttributes.Proofs.Json.Lookup
import ListingAttributes.Proofs.Json.Numbers
import ListingAttributes.Proofs.Json.Tokens
import ListingAttributes.Proofs.Json.RoundTrip
import ListingAttributes.Proofs.Json.Brackets
import ListingAttributes.Proofs.Records.Fields
import ListingAttributes.Proofs.Records.Validation
import ListingAttributes.Proofs.Numeric.Integers
import ListingAttributes.Proofs.Records.MemorySpeed
import ListingAttributes.Proofs.Records.CodeBlocks
import ListingAttributes.Proofs.Records.FenceLines
import ListingAttributes.Proofs.Records.Normalization
import ListingAttributes.Proofs.Records.Storage
import ListingAttributes.Proofs.Records.Replies
import ListingAttributes.Proofs.Records.Violations
import ListingAttributes.Proofs.Records.CutSpeeds
import ListingAttributes.Proofs.Records.SpeedRecovery
import ListingAttributes.Proofs.Generation.Histories
import ListingAttributes.Proofs.Extraction.Interleaving
import ListingAttributes.Proofs.Extraction.TwoStage
import ListingAttributes.Proofs.Extraction.FixedPoint
import ListingAttributes.Proofs.Keys.Separation
import ListingAttributes.Proofs.Keys.Grouping
import ListingAttributes.Proofs.Keys.Servers
import ListingAttributes.Proofs.Keys.BlankSpellings
import ListingAttributes.Proofs.Generation.Envelopes
import ListingAttributes.Proofs.Generation.Calls
import ListingAttributes.Proofs.Extraction.Providers
import ListingAttributes.Proofs.Extraction.Cancellation
import ListingAttributes.Proofs.Prompts.Layout
import ListingAttributes.Proofs.Extraction.Descriptions
import ListingAttributes.Proofs.Generation.RequestBodies
import ListingAttributes.Proofs.Generation.Outcomes
import ListingAttributes.Proofs.Settings.Addresses
import ListingAttributes.Proofs.Generation.UsageReports
import ListingAttributes.Proofs.Generation.Layouts
import ListingAttributes.Proofs.Extraction.Stages
import ListingAttributes.Proofs.Text.AsciiForms
import ListingAttributes.Proofs.Records.Phrases
import ListingAttributes.Proofs.Keys.Restyling
import ListingAttributes.Proofs.Toml.Numbers
import ListingAttributes.Proofs.Toml.Strings
import ListingAttributes.Proofs.Toml.Statements
import ListingAttributes.Proofs.Toml.Sections
import ListingAttributes.Proofs.Settings.RoundTrip
