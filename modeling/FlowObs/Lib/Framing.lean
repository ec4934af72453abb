import Mathlib.Data.List.Basic
import Mathlib.Tactic.Common

/-!
# Streams that arrive in pieces, and the frames on them

A stream is read from the pieces in which it arrives, of which a read gives at most one (`Arrivals`); what is left is
always a suffix of the whole (`next_eq_some`). A decoder of one frame takes the frames off the front of a text until
it fails: `Decodes` says which frames, and with what failure, and every text decodes when each frame makes it shorter
(`decodes_exists`).
-/

namespace Framing

universe u v w

/-! ## Arrivals -/

/-- A stream in the pieces in which it arrives; none of them is empty. -/
structure Arrivals (β : Type u) where
  pieces : List (List β)
  filled : ∀ piece ∈ pieces, piece ≠ []

namespace Arrivals

variable {β : Type u}

/-- The whole stream. -/
def all (s : Arrivals β) : List β := s.pieces.flatten

/-- What one read of at most `n` gives: a piece, or as much of it as was asked for. -/
def next (n : Nat) : Arrivals β → Option (List β × Arrivals β)
  | ⟨[], _⟩ => none
  | ⟨piece :: pieces, filled⟩ =>
    if h : n < piece.length then
      some (piece.take n, ⟨piece.drop n :: pieces, by
        refine List.forall_mem_cons.2 ⟨?_, (List.forall_mem_cons.1 filled).2⟩
        simpa using h⟩)
    else some (piece, ⟨pieces, (List.forall_mem_cons.1 filled).2⟩)

theorem next_eq_none {n : Nat} {s : Arrivals β} : s.next n = none ↔ s.all = [] := by
  obtain ⟨pieces, filled⟩ := s
  cases pieces with
  | nil => simp [next, all]
  | cons piece pieces =>
    have hne : piece ≠ [] := filled piece List.mem_cons_self
    simp only [next, all, List.flatten_cons, List.append_eq_nil_iff, hne, false_and, iff_false]
    split <;> simp

/-- **A read takes something off the front**, and not more than was asked for. -/
theorem next_eq_some {n : Nat} (hn : 0 < n) {s s' : Arrivals β} {got : List β} (h : s.next n = some (got, s')) :
    0 < got.length ∧ got.length ≤ n ∧ s.all = got ++ s'.all := by
  obtain ⟨pieces, filled⟩ := s
  cases pieces with
  | nil => cases h
  | cons piece pieces =>
    have hpos : 0 < piece.length := List.length_pos_of_ne_nil (filled piece List.mem_cons_self)
    simp only [next] at h
    split at h
    · rename_i hlt
      cases h
      refine ⟨?_, ?_, ?_⟩
      · rw [List.length_take]
        omega
      · rw [List.length_take]
        omega
      · simp [all, ← List.append_assoc]
    · rename_i hge
      cases h
      exact ⟨hpos, by omega, by simp [all]⟩

end Arrivals

/-! ## Frames -/

section Decoding

variable {β : Type u} {α : Type v} {ε : Type w}

/-- The frames on the front of a text, and the failure that ends them. -/
inductive Decodes (decode : List β → Except ε (α × List β)) : List β → List α → ε → Prop
  | stop {text : List β} {e : ε} : decode text = .error e → Decodes decode text [] e
  | frame {text rest : List β} {a : α} {frames : List α} {e : ε} : decode text = .ok (a, rest) →
  Decodes decode rest frames e →
      Decodes decode text (a :: frames) e

variable {decode : List β → Except ε (α × List β)}

/-- Every text decodes when each frame takes something off the front. -/
theorem decodes_exists (hless : ∀ text a rest, decode text = .ok (a, rest) → rest.length < text.length)
    (text : List β) :
    ∃ frames e, Decodes decode text frames e := by
  induction hsize : text.length using Nat.strongRecOn generalizing text with
  | ind size ih =>
    cases hdecode : decode text with
    | error e => exact ⟨[], e, .stop hdecode⟩
    | ok p =>
      obtain ⟨a, rest⟩ := p
      have hlt := hless text a rest hdecode
      obtain ⟨frames, e, hrest⟩ := ih rest.length (by omega) rest rfl
      exact ⟨a :: frames, e, .frame hdecode hrest⟩

end Decoding

end Framing
