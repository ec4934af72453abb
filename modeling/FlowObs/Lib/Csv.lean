import Mathlib.Data.List.Basic
import Mathlib.Tactic.Common

/-!
# Tables of cells

Tables with one row a line, as texts of bytes: commas between the cells, and cells that may stand in quotes with their
own quotes doubled. A reader goes over the bytes once (`Reader.step`); a table that is written cell by cell, each in
quotes or without a comma, quote or line feed in it, is read back (`read_table`).
-/

namespace Csv

/-- A text. -/
abbrev Text := List UInt8

/-! ## Reading -/

/-- Where a reader stands: in front of a cell, in one without quotes, in quotes, behind a quote in quotes. -/
inductive Mode
  | fresh | plain | quoted | closed
deriving DecidableEq, Repr

/-- A reader: the rows and cells that are finished, and the cell that it stands in. -/
structure Reader where
  rows : List (List Text) := []
  row : List Text := []
  cell : Text := []
  mode : Mode := .fresh
deriving DecidableEq, Repr

namespace Reader

def push (s : Reader) (c : UInt8) (mode : Mode) : Reader := { s with cell := s.cell ++ [c], mode := mode }

def endCell (s : Reader) : Reader := { s with row := s.row ++ [s.cell], cell := [], mode := .fresh }

def endRow (s : Reader) : Reader := { rows := s.rows ++ [s.row ++ [s.cell]] }

/-- What may follow a cell: a comma or the end of the line. -/
def close (s : Reader) (c : UInt8) : Option Reader :=
  if c = 44 then some s.endCell else if c = 10 then some s.endRow else none

/-- The reader takes a byte, unless it does not belong there. -/
def step (s : Reader) (c : UInt8) : Option Reader :=
  match s.mode with
  | .fresh => if c = 34 then some { s with mode := .quoted } else (s.close c).or (some (s.push c .plain))
  | .plain => if c = 34 then none else (s.close c).or (some (s.push c .plain))
  | .quoted => some (if c = 34 then { s with mode := .closed } else s.push c .quoted)
  | .closed => if c = 34 then some (s.push c .quoted) else s.close c

/-- The reader takes a text. -/
def run (s : Reader) (t : Text) : Option Reader := t.foldlM step s

end Reader

/-- The rows of a table, each ended by a line feed. -/
def read (t : Text) : Option (List (List Text)) :=
  ((({} : Reader).run t).filter fun s => s.row = [] ∧ s.cell = [] ∧ s.mode = .fresh).map Reader.rows

/-! ## Writing -/

/-- A byte that a cell without quotes does not have. -/
def isSpecial (c : UInt8) : Bool := c == 34 || c == 44 || c == 10

/-- A cell that is written in quotes, or one that does not need them. -/
inductive Cell
  | quoted (t : Text)
  | plain (t : Text) (h : ∀ c ∈ t, isSpecial c = false)

namespace Cell

/-- What a cell holds. -/
def value : Cell → Text
  | quoted t => t
  | plain t _ => t

/-- A byte in quotes. -/
def double (c : UInt8) : Text := if c = 34 then [34, 34] else [c]

/-- How a cell is written. -/
def text : Cell → Text
  | quoted t => [34] ++ t.flatMap double ++ [34]
  | plain t _ => t

end Cell

/-- A row as a line. -/
def line (row : List Cell) : Text := [44].intercalate (row.map Cell.text) ++ [10]

/-! ## What is written is read -/

namespace Reader

variable {s : Reader}

@[simp] theorem run_nil : s.run [] = some s := rfl
@[simp] theorem run_cons (c : UInt8) (t : Text) : s.run (c :: t) = (s.step c).bind (·.run t) := rfl

theorem run_append (t u : Text) : s.run (t ++ u) = (s.run t).bind (·.run u) := List.foldlM_append

/-- Doubled bytes are taken in quotes. -/
theorem run_double (h : s.mode = .quoted) (t : Text) :
    s.run (t.flatMap Cell.double) = some { s with cell := s.cell ++ t } := by
  obtain ⟨rows, row, cell, mode⟩ := s
  obtain rfl : mode = .quoted := h
  induction t generalizing cell with
  | nil => simp
  | cons c t ih =>
    rw [List.flatMap_cons, run_append]
    have hbyte : ({ rows, row, cell, mode := .quoted } : Reader).run (Cell.double c) =
        some { rows, row, cell := cell ++ [c], mode := .quoted } := by
      unfold Cell.double
      split
      · rename_i hc
        rw [hc]
        rfl
      · rename_i hc
        simp [step, push, hc]
    rw [hbyte, Option.bind_some, ih]
    simp

/-- Bytes that are not special are taken without quotes. -/
theorem run_plain (h : s.mode = .fresh ∨ s.mode = .plain) (t : Text) (ht : ∀ c ∈ t, isSpecial c = false) :
    ∃ mode, (mode = .fresh ∨ mode = .plain) ∧ s.run t = some { s with cell := s.cell ++ t, mode := mode } := by
  induction t generalizing s with
  | nil => exact ⟨s.mode, h, by simp⟩
  | cons c t ih =>
    have hc : c ≠ 34 ∧ c ≠ 44 ∧ c ≠ 10 := by
      have hspecial := ht c List.mem_cons_self
      simpa [isSpecial, and_assoc] using hspecial
    have hstep : s.step c = some (s.push c .plain) := by
      rcases h with h | h <;> simp [step, close, h, hc]
    obtain ⟨mode, hmode, hrun⟩ := ih (s := s.push c .plain) (.inr rfl) fun d hd => ht d (List.mem_cons_of_mem _ hd)
    exact ⟨mode, hmode, by rw [run_cons, hstep, Option.bind_some, hrun]; simp [push]⟩

/-- **A cell is read**, and behind it stands what may follow one. -/
theorem run_cell (hcell : s.cell = []) (hmode : s.mode = .fresh) (c : Cell) :
    ∃ mode, mode ≠ .quoted ∧ s.run c.text = some { s with cell := c.value, mode := mode } := by
  cases c with
  | quoted t =>
    refine ⟨.closed, by simp, ?_⟩
    have hopen : s.step 34 = some { s with mode := .quoted } := by simp [step, hmode]
    rw [Cell.text, List.append_assoc, List.singleton_append, run_cons, hopen, Option.bind_some, run_append,
      run_double rfl, Option.bind_some]
    simp [step, hcell, Cell.value]
  | plain t ht =>
    obtain ⟨mode, hplain, hrun⟩ := run_plain (.inl hmode) t ht
    refine ⟨mode, ?_, ?_⟩
    · rcases hplain with rfl | rfl <;> simp
    · rw [Cell.text, hrun, hcell]
      rfl

theorem step_close {mode : Mode} (h : mode ≠ .quoted) (hs : s.mode = mode) {c : UInt8} (hc : c = 44 ∨ c = 10) :
    s.step c = s.close c := by
  have hne : c ≠ 34 := by rcases hc with rfl | rfl <;> decide
  have hsome : ∃ s', s.close c = some s' := by rcases hc with rfl | rfl <;> exact ⟨_, rfl⟩
  obtain ⟨s', hs'⟩ := hsome
  cases mode with
  | quoted => exact absurd rfl h
  | fresh | plain | closed => simp [step, hs, hne, hs']

/-- **A line is read as its row.** -/
theorem run_line (hcell : s.cell = []) (hmode : s.mode = .fresh) {row : List Cell} (hrow : row ≠ []) :
    s.run (line row) = some { rows := s.rows ++ [s.row ++ row.map Cell.value] } := by
  induction row generalizing s with
  | nil => exact absurd rfl hrow
  | cons c row ih =>
    obtain ⟨mode, hne, hrun⟩ := run_cell hcell hmode c
    cases row with
    | nil =>
      have hline : line [c] = c.text ++ [10] := by simp [line]
      rw [hline, run_append, hrun, Option.bind_some, run_cons, step_close hne rfl (.inr rfl)]
      rfl
    | cons c' row =>
      have hline : line (c :: c' :: row) = c.text ++ 44 :: line (c' :: row) := by simp [line, List.intercalate]
      rw [hline, run_append, hrun, Option.bind_some, run_cons, step_close hne rfl (.inl rfl)]
      have hrest := ih (s := { s with row := s.row ++ [c.value], cell := [], mode := .fresh })
        rfl rfl (List.cons_ne_nil c' row)
      simpa [close, endCell] using hrest

end Reader

/-- **A table is read back.** -/
theorem read_table {rows : List (List Cell)} (h : ∀ row ∈ rows, row ≠ []) :
    read (rows.flatMap line) = some (rows.map (List.map Cell.value)) := by
  have hrun : ∀ done : List (List Text), ({ rows := done } : Reader).run (rows.flatMap line) =
      some { rows := done ++ rows.map (List.map Cell.value) } := by
    induction rows with
    | nil => simp
    | cons row rows ih =>
      intro done
      rw [List.flatMap_cons, Reader.run_append, Reader.run_line rfl rfl (h row List.mem_cons_self), Option.bind_some,
        ih fun r hr => h r (List.mem_cons_of_mem _ hr)]
      simp
  have hall := hrun []
  rw [List.nil_append] at hall
  simp [read, hall]

end Csv
