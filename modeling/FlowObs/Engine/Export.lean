import FlowObs.Engine.Query

/-!
# Rendering

What is written of a reconciled flow: the calls of the JSON writer for a consumption (`writeConsumptionJson`) and a
row of the CSV table (`csvRow`), which also shows a throughput.
-/

namespace FlowObs

/-! ## JSON -/

/-- The calls of `json::Writer` that write accounting. -/
inductive JsonCall
  | beginObject | endObject | key (name : Str) | uint (value : UInt64) | bool (value : Bool) | null
deriving DecidableEq, Repr

/-- A counter of a consumption: `field`, or `field_null` when it is unsupported. -/
def writeCounter (name : Str) (unsupported : Bool) (value : UInt64) : List JsonCall :=
  if unsupported then [.key name, .null] else [.key name, .uint value]

/-- `write_consumption` of the JSON export. -/
def writeConsumptionJson (c : Consumption) (name : Str) : List JsonCall :=
  [.key name, .beginObject] ++ writeCounter (str "bytes") c.bytesUnsupported c.bytes
    ++ writeCounter (str "packets") c.packetsUnsupported c.packets
    ++ writeCounter (str "retransmissions") c.retransmissionsUnsupported c.retransmissions
    ++ [.key (str "unknown_intervals"), .uint c.unknownIntervals, .key (str "exact"), .bool c.isExact,
        .key (str "saturated"), .bool c.saturated, .endObject]

/-- The accounting of a generation: the four calls of `write_consumption` in `write_generation_json`. -/
def writeAccounting (v : GenerationView) : List JsonCall :=
  writeConsumptionJson v.forward (str "forward") ++ writeConsumptionJson v.reverse (str "reverse")
    ++ writeConsumptionJson v.aggregate (str "aggregate") ++ writeConsumptionJson v.total (str "total")

/-! ## Throughput -/

/-- `Throughput`. -/
structure Throughput where
  durationNanos : UInt64 := 0
  bytesPerSecondMilli : UInt64 := 0
  packetsPerSecondMilli : UInt64 := 0
  durationKnown : Bool := false
  saturated : Bool := false
deriving DecidableEq, Repr

/-- `compute_throughput`. -/
def computeThroughput (first last : Timestamp) (consumption : Consumption) : Throughput :=
  if !first.known || !last.known || last ≤ first then {}
  else
    let span := timeDifference last first
    if span ≤ Duration.zero then {}
    else
      let duration := span.nanos.toUInt64
      let bytes := checkedMulDiv consumption.bytes 1000000000000 duration
      let packets := checkedMulDiv consumption.packets 1000000000000 duration
      { durationKnown := true, durationNanos := duration, bytesPerSecondMilli := bytes.value
        packetsPerSecondMilli := packets.value, saturated := bytes.overflow || packets.overflow }

/-! ## CSV -/

/-- The `cell` lambda: a text in quotes, with its own quotes doubled. -/
def csvText (text : Str) : Str := [34] ++ text.flatMap (fun c => if c = 34 then [34, 34] else [c]) ++ [34]

/-- `yes_no`. -/
def yesNo (value : Bool) : Str := if value then str "yes" else str "no"

/-- The names of the columns. -/
def csvColumns : List Str :=
  [str "flow", str "key", str "state", str "cause", str "freshness", str "consistency", str "visibility",
    str "current_generation", str "revision", str "first_observed_at", str "last_observed_at", str "duration_ns",
    str "bytes", str "packets", str "retransmissions", str "unknown_intervals", str "total_exact",
    str "throughput_bytes_per_second_milli", str "restored"]

/-- The cells of a flow. -/
def csvRow (s : FlowSnapshot) : List Str :=
  let throughput := computeThroughput s.firstObservedAt s.lastObservedAt s.total
  [csvText s.id.toStr, csvText s.canonicalKey, csvText s.state.toStr, csvText s.cause.toStr, csvText s.freshness.toStr,
    csvText s.consistency.toStr, csvText s.visibility.toStr, decimal s.currentGeneration.value.toNat,
    decimal s.revision.value.toNat, decimalInt s.firstObservedAt.nanos.toInt, decimalInt s.lastObservedAt.nanos.toInt,
    decimal throughput.durationNanos.toNat, decimal s.total.bytes.toNat, decimal s.total.packets.toNat,
    decimal s.total.retransmissions.toNat, decimal s.total.unknownIntervals.toNat, yesNo s.total.isExact,
    decimal throughput.bytesPerSecondMilli.toNat, yesNo s.restoredFromJournal]

/-- A line of the table. -/
def csvLine (cells : List Str) : Str := (str ",").intercalate cells ++ [10]

/-- `render_csv`. -/
def renderCsv (result : QueryResult) : Str := csvLine csvColumns ++ result.flows.flatMap (fun s => csvLine (csvRow s))

example : csvText (str "a\"b") = str "\"a\"\"b\"" := by with_unfolding_all decide

end FlowObs
