import FlowObs.Observation

/-!
# Counter accounting

`CounterAccumulator` accounts one cumulative counter inside one interval: a value that grew adds its delta, a value
that shrank closes the interval and is never a negative delta. `Consumption` is what is reported.
-/

namespace FlowObs

/-- `CounterAccumulator::Outcome`. -/
inductive CounterOutcome
  | BaselineEstablished | Advanced | Unchanged | Regressed | Held | Saturated
deriving DecidableEq, Repr

/-- `CounterAccumulator`, which is its own `Snapshot`. -/
structure CounterAccumulator where
  baseline : Option UInt64 := none
  last : Option UInt64 := none
  accumulated : UInt64 := 0
  unknownIntervals : UInt64 := 0
  regressions : UInt64 := 0
  saturated : Bool := false
deriving DecidableEq, Repr, Inhabited

namespace CounterAccumulator

/-- `observe`. -/
def observe (a : CounterAccumulator) (value : UInt64) (treatRegressionAsReset : Bool) :
    CounterAccumulator × CounterOutcome :=
  if a.baseline.isNone then ({ a with baseline := some value, last := some value }, .BaselineEstablished)
  else
    let previous := a.last.getD 0
    if previous < value then
      let sum := checkedAdd a.accumulated (value - previous)
      if sum.overflow then
        ({ a with last := some value, saturated := true, accumulated := 0xFFFFFFFFFFFFFFFF }, .Saturated)
      else ({ a with last := some value, accumulated := sum.value }, .Advanced)
    else if value = previous then (a, .Unchanged)
    else if !treatRegressionAsReset then ({ a with regressions := a.regressions + 1 }, .Held)
    else
      ({ a with regressions := a.regressions + 1, unknownIntervals := a.unknownIntervals + 1,
                baseline := some value, last := some value }, .Regressed)

/-- `start_new_interval`. -/
def startNewInterval (a : CounterAccumulator) (baseline : Option UInt64) : CounterAccumulator :=
  { a with unknownIntervals := if a.last.isSome then a.unknownIntervals + 1 else a.unknownIntervals
           baseline := baseline, last := baseline }

end CounterAccumulator

/-- `DirectionalAccounting`. -/
structure DirectionalAccounting where
  bytes : CounterAccumulator := {}
  packets : CounterAccumulator := {}
  retransmissions : CounterAccumulator := {}
  bytesUnsupported : Bool := false
  packetsUnsupported : Bool := false
  retransmissionsUnsupported : Bool := false
deriving DecidableEq, Repr, Inhabited

namespace DirectionalAccounting

/-- `unknown_intervals`: one gap is one unknown interval of every tracked counter. -/
def unknownIntervals (d : DirectionalAccounting) : UInt64 :=
  max (max d.bytes.unknownIntervals d.packets.unknownIntervals) d.retransmissions.unknownIntervals

/-- The three counters start a new interval. -/
def breakInterval (d : DirectionalAccounting) : DirectionalAccounting :=
  { d with bytes := d.bytes.startNewInterval none, packets := d.packets.startNewInterval none
           retransmissions := d.retransmissions.startNewInterval none }

def saturated (d : DirectionalAccounting) : Bool :=
  d.bytes.saturated || d.packets.saturated || d.retransmissions.saturated

end DirectionalAccounting

/-- `Consumption`. -/
structure Consumption where
  bytes : UInt64 := 0
  packets : UInt64 := 0
  retransmissions : UInt64 := 0
  unknownIntervals : UInt64 := 0
  bytesUnsupported : Bool := false
  packetsUnsupported : Bool := false
  retransmissionsUnsupported : Bool := false
  saturated : Bool := false
deriving DecidableEq, Repr, Inhabited

/-- `is_exact`. -/
def Consumption.isExact (c : Consumption) : Bool := c.unknownIntervals == 0 && !c.saturated

/-- `to_consumption`. -/
def toConsumption (d : DirectionalAccounting) : Consumption where
  bytes := d.bytes.accumulated
  packets := d.packets.accumulated
  retransmissions := d.retransmissions.accumulated
  unknownIntervals := d.unknownIntervals
  bytesUnsupported := d.bytesUnsupported
  packetsUnsupported := d.packetsUnsupported
  retransmissionsUnsupported := d.retransmissionsUnsupported
  saturated := d.saturated

end FlowObs
