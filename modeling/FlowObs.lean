import FlowObs.Fold
import FlowObs.Persist.JournalRun
import FlowObs.Persist.Damage
import FlowObs.Engine.Reachable
import FlowObs.Engine.Journaled
import FlowObs.Engine.Reread
import FlowObs.Engine.Snapshot
import FlowObs.Engine.Untouched
import FlowObs.Engine.Failed
import FlowObs.Engine.Freeze
import FlowObs.Engine.Restart
import FlowObs.Engine.Coherent
import FlowObs.Engine.Totals
import FlowObs.Engine.Resumption
import FlowObs.Engine.Authority
import FlowObs.Capacity
import FlowObs.Advisory
import FlowObs.Engine.Query
import FlowObs.Persist.Buffered
import FlowObs.Persist.Writers
import FlowObs.Engine.Tables
import FlowObs.Engine.Identities
import FlowObs.Engine.Attribution
import FlowObs.Engine.Export
import FlowObs.Engine.Absent
import FlowObs.Engine.Names
import FlowObs.Persist.Log
import FlowObs.Engine.Registered
import FlowObs.Accumulator
import FlowObs.Retained
import FlowObs.Metered
import FlowObs.Agreement
import FlowObs.Window
import FlowObs.Bridge
import FlowObs.Engine.Bridge
import FlowObs.Engine.Bare
import FlowObs.Engine.Rebuilt
import FlowObs.Engine.Replayed
import FlowObs.Conflict
import FlowObs.Freshness
import FlowObs.Decision
import FlowObs.Engine.Settled
import FlowObs.Engine.Confirmed
import FlowObs.Engine.Pages
import FlowObs.Engine.Told
import FlowObs.Engine.Endpoints
import FlowObs.Engine.Durable
import FlowObs.Engine.Redelivered
import FlowObs.Lib.Canonical
import FlowObs.Persist.Spelling
import FlowObs.Engine.AsOf
import FlowObs.Engine.Tally
import FlowObs.Lib.LowerBound
import FlowObs.Engine.Generations
import FlowObs.Persist.Snapshots
import FlowObs.Persist.Position
import FlowObs.Persist.Batches
import FlowObs.Persist.Compaction
import FlowObs.Lib.Returns
import FlowObs.Persist.Keys
import FlowObs.Engine.Sources
import FlowObs.Engine.Throughput
import FlowObs.Engine.Shares
import FlowObs.TimeText
import FlowObs.Text.RoundTrip
import FlowObs.Text.Sources
import FlowObs.Text.Grammar
import FlowObs.Lib.Framing
import FlowObs.Wire.Frame
import FlowObs.Wire.Stream
import FlowObs.Engine.Reads
import FlowObs.Wire.Fields
import FlowObs.Wire.Requests
import FlowObs.Wire.Numbers
import FlowObs.Wire.FlowNames
import FlowObs.Arithmetic
import FlowObs.Lib.Ring
import FlowObs.History
import FlowObs.Lib.Crc
import FlowObs.Checksum
import FlowObs.Persist.HeaderCount
import FlowObs.Engine.Proportion
import FlowObs.Engine.Weights
import FlowObs.Lib.Json
import FlowObs.JsonWriter
import FlowObs.Engine.Summary
import FlowObs.LockOrder
import FlowObs.Lib.Locks
import FlowObs.Engine.Locking
import FlowObs.Lib.Waiters
import FlowObs.Engine.Workers
import FlowObs.Server.Handlers
import FlowObs.JsonDocument
import FlowObs.Engine.ExportJson
import FlowObs.Engine.ExportShown
import FlowObs.Lib.Csv
import FlowObs.Engine.ExportCsv
import FlowObs.Text.Script
import FlowObs.Engine.Script
import FlowObs.Engine.TickReport
import FlowObs.Server.Replies
import FlowObs.Server.Session
import FlowObs.Engine.Arrival
