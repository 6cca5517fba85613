import ResourceClient.Collection.Job
import ResourceClient.Collection.Listing
import ResourceClient.Collection.Search
import ResourceClient.Collection.Write
import ResourceClient.Config.Environment
import ResourceClient.Job.Timestamp
import ResourceClient.Resource.Asset
import ResourceClient.Server.Script
import ResourceClient.Proofs.Text.ByteOrder
import ResourceClient.Proofs.Text.CamelCase
import ResourceClient.Proofs.Json.RoundTrip
import ResourceClient.Proofs.Json.Members
import ResourceClient.Proofs.Wire.Builder
import ResourceClient.Proofs.Wire.Form
import ResourceClient.Proofs.Wire.Patch
import ResourceClient.Proofs.Wire.Update
import ResourceClient.Proofs.Retry.Law
import ResourceClient.Proofs.Retry.Reduction
import ResourceClient.Proofs.Retry.Arithmetic
import ResourceClient.Proofs.Http.Segment
import ResourceClient.Proofs.Dialogue.Schedule
import ResourceClient.Proofs.Dialogue.Totality
import ResourceClient.Proofs.Dialogue.Gather
import ResourceClient.Proofs.Dialogue.Worlds
import ResourceClient.Proofs.Dialogue.Requests
import ResourceClient.Proofs.Dialogue.Endings
import ResourceClient.Proofs.Bulk.Schedule
import ResourceClient.Proofs.Bulk.Fates
import ResourceClient.Proofs.Bulk.Compound
import ResourceClient.Proofs.Client.Request
import ResourceClient.Proofs.Client.History
import ResourceClient.Proofs.Job.Coherence
import ResourceClient.Proofs.Job.Polling
import ResourceClient.Proofs.Listing.Feed
import ResourceClient.Proofs.Listing.Refinement
import ResourceClient.Proofs.Listing.Draws
import ResourceClient.Proofs.Listing.Safety
import ResourceClient.Proofs.Listing.Chains
import ResourceClient.Proofs.Listing.Receipt
import ResourceClient.Proofs.Listing.Regrouping
import ResourceClient.Proofs.Listing.Laziness
import ResourceClient.Proofs.Listing.Completeness
import ResourceClient.Proofs.Listing.Parameters
import ResourceClient.Proofs.Collection.Chunking
import ResourceClient.Proofs.Collection.Report
import ResourceClient.Proofs.Collection.Replay
import ResourceClient.Proofs.Collection.Budgets
import ResourceClient.Proofs.Collection.Partitions
import ResourceClient.Proofs.Collection.Results
import ResourceClient.Proofs.Collection.WriteErrors
import ResourceClient.Proofs.Collection.Missing
import ResourceClient.Proofs.Collection.NotFound
import ResourceClient.Proofs.Collection.Calls
import ResourceClient.Proofs.Collection.Invalid
import ResourceClient.Proofs.Collection.Limits
import ResourceClient.Proofs.Collection.Identifiers
import ResourceClient.Proofs.Collection.CallerFields
