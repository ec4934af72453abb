import FlowObs.Engine.ExportShown
import FlowObs.Lib.Csv

/-!
# The CSV export

The table of `render_csv` is read back cell by cell, whatever the keys of the flows hold: a row for each flow behind
the names of the columns, with as many cells, and rows with the same cells are of flows that show the same
(`exportText_csv`).
-/

namespace FlowObs

open Csv (Cell)

/-! ## Cells -/

theorem plain_decimal (n : Nat) : ∀ c ∈ decimal n, Csv.isSpecial c = false := by
  intro c hc
  obtain ⟨hlow, -⟩ := decimal_digits c hc
  have hne : c ≠ 34 ∧ c ≠ 44 ∧ c ≠ 10 := by
    refine ⟨?_, ?_, ?_⟩ <;> rintro rfl <;> exact absurd hlow (by decide)
  simp [Csv.isSpecial, hne]

theorem plain_decimalInt (n : Int) : ∀ c ∈ decimalInt n, Csv.isSpecial c = false := by
  have hminus : ∀ c ∈ str "-", Csv.isSpecial c = false := by
    have hbytes : str "-" = [45] := by with_unfolding_all decide
    rw [hbytes]
    simp [Csv.isSpecial]
  intro c hc
  unfold decimalInt at hc
  split at hc
  · exact (List.mem_append.1 hc).elim (hminus c) (plain_decimal _ c)
  · exact plain_decimal _ c hc

theorem plain_yesNo (b : Bool) : ∀ c ∈ yesNo b, Csv.isSpecial c = false := by
  have hall : ((yesNo b).all fun c => !Csv.isSpecial c) = true := by cases b <;> with_unfolding_all decide
  simpa using hall

theorem plain_columns : ∀ name ∈ csvColumns, ∀ c ∈ name, Csv.isSpecial c = false := by
  have hall : (csvColumns.all fun name => name.all fun c => !Csv.isSpecial c) = true := by with_unfolding_all decide
  simpa using hall

/-- A number in a cell. -/
def numberCell (n : Nat) : Cell := .plain (decimal n) (plain_decimal n)

/-- An instant in a cell. -/
def instantCell (t : Timestamp) : Cell := .plain (decimalInt t.nanos.toInt) (plain_decimalInt t.nanos.toInt)

/-- A truth value in a cell. -/
def yesNoCell (b : Bool) : Cell := .plain (yesNo b) (plain_yesNo b)

/-- The cells of a flow. -/
def csvCells (s : FlowSnapshot) : List Cell :=
  let throughput := computeThroughput s.firstObservedAt s.lastObservedAt s.total
  [.quoted s.id.toStr, .quoted s.canonicalKey, .quoted s.state.toStr, .quoted s.cause.toStr, .quoted s.freshness.toStr,
    .quoted s.consistency.toStr, .quoted s.visibility.toStr, numberCell s.currentGeneration.value.toNat,
    numberCell s.revision.value.toNat, instantCell s.firstObservedAt, instantCell s.lastObservedAt,
    numberCell throughput.durationNanos.toNat, numberCell s.total.bytes.toNat, numberCell s.total.packets.toNat,
    numberCell s.total.retransmissions.toNat, numberCell s.total.unknownIntervals.toNat, yesNoCell s.total.isExact,
    numberCell throughput.bytesPerSecondMilli.toNat, yesNoCell s.restoredFromJournal]

/-- What the cells of a flow hold. -/
def csvValues (s : FlowSnapshot) : List Str := (csvCells s).map Cell.value

/-- The cells of the names. -/
def columnCells : List Cell := csvColumns.attach.map fun name => .plain name.1 (plain_columns name.1 name.2)

theorem csvRow_eq (s : FlowSnapshot) : csvRow s = (csvCells s).map Cell.text := rfl

theorem csvLine_eq (row : List Cell) : csvLine (row.map Cell.text) = Csv.line row := by
  have hcomma : str "," = [44] := by with_unfolding_all decide
  rw [csvLine, hcomma]
  rfl

/-- The table as it is read. -/
theorem renderCsv_eq (r : QueryResult) : renderCsv r = (columnCells :: r.flows.map csvCells).flatMap Csv.line := by
  have hcolumns : csvColumns = columnCells.map Cell.text := by
    simp [columnCells, Cell.text, Function.comp_def]
  rw [renderCsv, List.flatMap_cons, List.flatMap_map, ← csvLine_eq, ← hcolumns]
  exact congrArg _ (List.flatMap_congr fun s _ => by rw [csvRow_eq, csvLine_eq])

/-! ## What the cells show -/

/-- Two flows agree in what the table shows. -/
structure FlowSnapshot.SameRow (s s' : FlowSnapshot) : Prop where
  flow : s.id = s'.id ∧ s.canonicalKey = s'.canonicalKey
  state : s.state = s'.state ∧ s.cause = s'.cause
  evidence : s.freshness = s'.freshness ∧ s.consistency = s'.consistency ∧ s.visibility = s'.visibility
  generation : s.currentGeneration = s'.currentGeneration ∧ s.revision = s'.revision
  observed : s.firstObservedAt = s'.firstObservedAt ∧ s.lastObservedAt = s'.lastObservedAt
  counters : s.total.bytes = s'.total.bytes ∧ s.total.packets = s'.total.packets ∧
    s.total.retransmissions = s'.total.retransmissions ∧ s.total.unknownIntervals = s'.total.unknownIntervals
  total : s.total.isExact = s'.total.isExact
  restored : s.restoredFromJournal = s'.restoredFromJournal

theorem number_inj {a b : UInt64} : decimal a.toNat = decimal b.toNat ↔ a = b :=
  ⟨fun h => UInt64.toNat_inj.1 (decimal_inj h), fun h => by rw [h]⟩

theorem instantText_inj {a b : Int64} :
    decimalInt a.toInt = decimalInt b.toInt ↔ a = b := inj_of_parse Fo1.parseI64_decimalInt

theorem yesNo_inj {a b : Bool} : yesNo a = yesNo b ↔ a = b := by
  cases a <;> cases b <;> with_unfolding_all decide

/-- **Rows with the same cells show the same.** -/
theorem csvValues_inj {s s' : FlowSnapshot} (h : csvValues s = csvValues s') : s.SameRow s' := by
  simp only [csvValues, csvCells, numberCell, instantCell, yesNoCell, Cell.value, List.map_cons, List.map_nil,
    List.cons.injEq, number_inj, instantText_inj, yesNo_inj, Json.opaqueId_inj, Json.flowState_inj, Json.stateCause_inj,
    Json.freshness_inj, Json.consistency_inj, Json.visibility_inj, Json.numericId_inj, Json.instant_inj, and_true] at h
  obtain ⟨hid, hkey, hstate, hcause, hfreshness, hconsistency, hvisibility, hcurrent, hrevision, hfirst, hlast, -,
    hbytes, hpackets,
    hretransmissions, hunknown, hexact, -, hrestored⟩ := h
  exact ⟨⟨hid, hkey⟩, ⟨hstate, hcause⟩, ⟨hfreshness, hconsistency, hvisibility⟩, ⟨hcurrent, hrevision⟩, ⟨hfirst, hlast⟩,
    ⟨hbytes, hpackets, hretransmissions, hunknown⟩, hexact, hrestored⟩

namespace Engine

variable {e : Engine} {o : ExportOptions} {t : Str}

/-- **An export in CSV is a table that is read back**: a row of nineteen cells for each flow behind the names of the
columns, whatever bytes the keys hold, and flows with the same cells agree in all that the table shows. -/
theorem exportText_csv (hformat : o.format = .Csv) (h : e.exportText o = .ok t) :
    ∃ r, e.exportData o = .ok r ∧ Csv.read t = some (csvColumns :: r.flows.map csvValues) ∧
      (∀ s, (csvValues s).length = csvColumns.length) ∧ ∀ s s', csvValues s = csvValues s' → s.SameRow s' := by
  obtain ⟨r, hr, rfl⟩ := exportText_ok.1 h
  refine ⟨r, hr, ?_, fun s => rfl, fun s s' => csvValues_inj⟩
  have hrows : ∀ row ∈ columnCells :: r.flows.map csvCells, row ≠ [] := by
    simp [columnCells, csvColumns, csvCells]
  have hnames : columnCells.map Cell.value = csvColumns := by
    simp [columnCells, Cell.value, Function.comp_def]
  rw [renderExport, hformat]
  simp only [renderCsv_eq, Csv.read_table hrows, List.map_cons, hnames, List.map_map]
  rfl

theorem exportText_csv_reported : ∃ (t : Str) (r : QueryResult), reported.exportText { format := .Csv } = .ok t ∧
    Csv.read t = some (csvColumns :: r.flows.map csvValues) := by
  have hvalid : ({ format := .Csv } : ExportOptions).validate reported.config.limits reported.config.query =
      .ok () := by
    with_unfolding_all decide
  obtain ⟨r, hr, -⟩ := flows_exportData hvalid
  have ht : reported.exportText { format := .Csv } = .ok (renderExport { format := .Csv } r) :=
    exportText_ok.2 ⟨r, hr, rfl⟩
  obtain ⟨r', -, hread, -⟩ := exportText_csv rfl ht
  exact ⟨_, r', ht, hread⟩

end Engine

end FlowObs
