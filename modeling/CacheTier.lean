import CacheTier.Agenda
import CacheTier.Backoff
import CacheTier.Cache.Arena
import CacheTier.Cache.Block
import CacheTier.Cache.Counters
import CacheTier.Cache.Policy
import CacheTier.Cache.Policy.Lfu
import CacheTier.Cache.Policy.Lru
import CacheTier.Cache.Policy.Scripted
import CacheTier.Cache.PolicyKind
import CacheTier.Cache.Store
import CacheTier.Client
import CacheTier.Client.Rehearsal
import CacheTier.Client.Retry
import CacheTier.CommandLine
import CacheTier.CommandLine.Grammar
import CacheTier.Configuration
import CacheTier.Decimal.Reading
import CacheTier.Decimal.Shortest
import CacheTier.Digest.Md5
import CacheTier.Digest.Padding
import CacheTier.Digest.Placement
import CacheTier.Digest.Sha1
import CacheTier.Exposition
import CacheTier.FleetError
import CacheTier.Http.MediaType
import CacheTier.Http.Message
import CacheTier.Http.Status
import CacheTier.Json.Bytes
import CacheTier.Json.Doc
import CacheTier.Json.Number
import CacheTier.Json.Parser
import CacheTier.Json.Reading
import CacheTier.Json.Value
import CacheTier.Launch
import CacheTier.Main
import CacheTier.Net.SocketAddress
import CacheTier.NodeId
import CacheTier.Prober
import CacheTier.Prober.Cycle
import CacheTier.Prober.Endpoint
import CacheTier.Prober.Rehearsal
import CacheTier.Proofs.Cache.Arena
import CacheTier.Proofs.Cache.EvictionOrder
import CacheTier.Proofs.Cache.Faithful
import CacheTier.Proofs.Cache.KeyIndex
import CacheTier.Proofs.Cache.LeakFree
import CacheTier.Proofs.Cache.Lfu.Buckets
import CacheTier.Proofs.Cache.Lfu.FrequencyList
import CacheTier.Proofs.Cache.Lfu.Shelves
import CacheTier.Proofs.Cache.Lru
import CacheTier.Proofs.Cache.PolicyRun
import CacheTier.Proofs.Cache.SharedArena
import CacheTier.Proofs.Cache.Store.Accounting
import CacheTier.Proofs.Cache.Store.Budget
import CacheTier.Proofs.Cache.Store.History
import CacheTier.Proofs.Cache.Store.Hits
import CacheTier.Proofs.Cache.Store.InStep
import CacheTier.Proofs.Cache.Store.Insertion
import CacheTier.Proofs.Cache.Store.Run
import CacheTier.Proofs.Cache.Store.Totals
import CacheTier.Proofs.Client.Agreement
import CacheTier.Proofs.Client.Background
import CacheTier.Proofs.Client.ColdStart
import CacheTier.Proofs.Client.Copy
import CacheTier.Proofs.Client.Deliveries
import CacheTier.Proofs.Client.Flights
import CacheTier.Proofs.Client.Session
import CacheTier.Proofs.Client.Steps
import CacheTier.Proofs.Client.Timeline
import CacheTier.Proofs.Client.Turns
import CacheTier.Proofs.Client.Warm
import CacheTier.Proofs.Digest.Lines
import CacheTier.Proofs.Exposition
import CacheTier.Proofs.Json.Documents
import CacheTier.Proofs.Json.Numerals
import CacheTier.Proofs.Json.Rearranged
import CacheTier.Proofs.Json.Records
import CacheTier.Proofs.Json.Strings
import CacheTier.Proofs.NodeId
import CacheTier.Proofs.Prober.Conduct
import CacheTier.Proofs.Prober.Contacts
import CacheTier.Proofs.Prober.Cycle
import CacheTier.Proofs.Prober.Passes
import CacheTier.Proofs.Prober.Ranking
import CacheTier.Proofs.Prober.Reports
import CacheTier.Proofs.Prober.Setting
import CacheTier.Proofs.Prober.SingleFlight
import CacheTier.Proofs.Prober.Steps
import CacheTier.Proofs.Registry.Anchor
import CacheTier.Proofs.Registry.Checksum
import CacheTier.Proofs.Registry.Coherence
import CacheTier.Proofs.Registry.Ending
import CacheTier.Proofs.Registry.EventLog
import CacheTier.Proofs.Registry.Expiry
import CacheTier.Proofs.Registry.Feed
import CacheTier.Proofs.Registry.Pulses
import CacheTier.Proofs.Registry.Quotas
import CacheTier.Proofs.Registry.Steps
import CacheTier.Proofs.Registry.Totals
import CacheTier.Proofs.Rest.Deletion
import CacheTier.Proofs.Ring.Entries
import CacheTier.Proofs.Ring.Labels
import CacheTier.Proofs.Ring.Membership
import CacheTier.Proofs.Ring.Movement
import CacheTier.Proofs.Ring.Occupancy
import CacheTier.Proofs.Table
import CacheTier.Proofs.Text.Utf8
import CacheTier.Proofs.Totals
import CacheTier.Proofs.Transport.Notices
import CacheTier.Proofs.Transport.Reports
import CacheTier.Proofs.Transport.Withdrawal
import CacheTier.Proofs.Url.Paths
import CacheTier.Proofs.Url.Percent
import CacheTier.Proofs.Wire.Lossless
import CacheTier.Registry
import CacheTier.Registry.Event
import CacheTier.Registry.Feed
import CacheTier.Registry.Record
import CacheTier.RequestContext
import CacheTier.Rest.Answer
import CacheTier.Rest.NodeService
import CacheTier.Rest.RegistryService
import CacheTier.Ring
import CacheTier.Table
import CacheTier.Text.Blank
import CacheTier.Text.Hex
import CacheTier.Text.Inspection
import CacheTier.Text.LetterCase
import CacheTier.Text.LowerCase
import CacheTier.Text.Utf8
import CacheTier.Text.Visible
import CacheTier.Time.Calendar
import CacheTier.Time.Instant
import CacheTier.Time.Span
import CacheTier.Time.Timestamp
import CacheTier.Transport
import CacheTier.Transport.Exchange
import CacheTier.Transport.Rehearsal
import CacheTier.Url
import CacheTier.Url.Form
import CacheTier.Url.Percent
import CacheTier.Wire.Instant
import CacheTier.Wire.Message
import CacheTier.Wire.Registry
import CacheTier.Wire.Stats
