import Mathlib.Data.List.MinMax
import Mathlib.Tactic.Common

/-!
# Ranked locks

Threads hold locks, shared or exclusive, and may wait for one more. A request is granted when nobody is in its way
(`grantable`); a shared request also gives way to an exclusive one that waits, so that locks that prefer writers are
covered. Where every thread waits only for a lock that ranks above all it holds, somebody can always go on
(`exists_unblocked`).
-/

namespace FlowObs.Locks

/-- How a lock is held. -/
inductive Mode
  | shared | exclusive
deriving DecidableEq, Repr

variable {L : Type}

/-- What a thread holds and the lock it waits for. -/
structure Holder (L : Type) where
  held : List (L × Mode) := []
  wants : Option (L × Mode) := none

variable [DecidableEq L]

/-- A request that nobody is in the way of. -/
def grantable (ts : List (Holder L)) (l : L) : Mode → Bool
  | .exclusive => ts.all fun t => t.held.all fun h => h.1 ≠ l
  | .shared => ts.all fun t => (t.held.all fun h => h ≠ (l, .exclusive)) && decide (t.wants ≠ some (l, .exclusive))

/-- A thread waits only for a lock that ranks above all it holds. -/
def Holder.Ordered (rank : L → Nat) (t : Holder L) : Prop :=
  ∀ w, t.wants = some w → ∀ h ∈ t.held, rank h.1 < rank w.1

/-- A thread that holds a lock and waits for none, or that waits for one which it can have. -/
def Holder.Unblocked (ts : List (Holder L)) (t : Holder L) : Prop :=
  (t.wants = none ∧ t.held ≠ []) ∨ ∃ w, t.wants = some w ∧ grantable ts w.1 w.2 = true

variable {rank : L → Nat} {ts : List (Holder L)}

/-- A lock that nobody holds can be had by one of those who wait for it. -/
theorem exists_grantable_of_free {t : Holder L} (ht : t ∈ ts) {w : L × Mode} (hw : t.wants = some w)
    (hfree : ∀ u ∈ ts, ∀ h ∈ u.held, h.1 ≠ w.1) : ∃ u ∈ ts, ∃ w, u.wants = some w ∧ grantable ts w.1 w.2 = true := by
  by_cases hex : ∃ u ∈ ts, u.wants = some (w.1, .exclusive)
  · -- an exclusive request only needs the lock to be free
    obtain ⟨u, hu, huw⟩ := hex
    refine ⟨u, hu, _, huw, ?_⟩
    simpa [grantable] using hfree
  · refine ⟨t, ht, w, hw, ?_⟩
    obtain ⟨l, m⟩ := w
    cases m with
    | exclusive => exact absurd ⟨t, ht, hw⟩ hex
    | shared =>
      simp only [grantable, List.all_eq_true, Bool.and_eq_true, decide_eq_true_eq]
      refine fun u hu => ⟨fun h hh heq => hfree u hu h hh (by rw [heq]), fun heq => hex ⟨u, hu, heq⟩⟩

/-- **Ranked locks never deadlock**: where somebody waits, somebody can go on. -/
theorem exists_unblocked (hord : ∀ t ∈ ts, t.Ordered rank) {t : Holder L} (ht : t ∈ ts) (hw : t.wants ≠ none) :
    ∃ u ∈ ts, u.Unblocked ts := by
  -- the lock of the highest rank that is waited for
  have hne : ts.filterMap (·.wants) ≠ [] := by
    obtain ⟨w, hw⟩ := Option.ne_none_iff_exists'.1 hw
    exact List.ne_nil_of_mem (List.mem_filterMap.2 ⟨t, ht, hw⟩)
  obtain ⟨top, htop⟩ := Option.ne_none_iff_exists'.1 (mt List.argmax_eq_none.1 hne : List.argmax (rank ·.1) _ ≠ none)
  obtain ⟨v, hv, hvw⟩ := List.mem_filterMap.1 (List.argmax_mem htop)
  have hmax : ∀ u ∈ ts, ∀ w, u.wants = some w → rank w.1 ≤ rank top.1 := fun u hu w huw =>
    List.le_of_mem_argmax (f := (rank ·.1)) (List.mem_filterMap.2 ⟨u, hu, huw⟩) htop
  by_cases hheld : ∃ u ∈ ts, ∃ h ∈ u.held, h.1 = top.1
  · -- who holds it waits for no lock, since none above it is waited for
    obtain ⟨u, hu, h, hh, heq⟩ := hheld
    refine ⟨u, hu, .inl ⟨Option.eq_none_iff_forall_not_mem.2 fun w huw => ?_, List.ne_nil_of_mem hh⟩⟩
    have habove := hord u hu w huw h hh
    have hbelow := hmax u hu w huw
    rw [heq] at habove
    omega
  · have hfree : ∀ u ∈ ts, ∀ h ∈ u.held, h.1 ≠ top.1 := fun u hu h hh heq => hheld ⟨u, hu, h, hh, heq⟩
    obtain ⟨u, hu, hgrant⟩ := exists_grantable_of_free hv hvw hfree
    exact ⟨u, hu, .inr hgrant⟩

end FlowObs.Locks
