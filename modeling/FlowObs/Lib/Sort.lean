import Mathlib.Data.List.Sort
import Mathlib.Order.Lattice

/-!
# Stable sorting and running maxima

Facts about lists that a stable sort by a total preorder and a running maximum obey: sorting commutes with filtering
(`filter_insertionSort`), and a running maximum depends neither on the order (`runningMax_perm`) nor on elements it
has seen before (`runningMax_absorb`).
-/

namespace FlowObs

variable {α β : Type}

/-! ## Sorting -/

section Sorting

variable {r : α → α → Prop} [DecidableRel r] [IsTrans α r] (p : α → Bool)

theorem filter_orderedInsert {a : α} : ∀ {l : List α}, l.Pairwise r →
    (l.orderedInsert r a).filter p = if p a then (l.filter p).orderedInsert r a else l.filter p
  | [], _ => by cases h : p a <;> simp [h]
  | b :: l, hs => by
    obtain ⟨hb, hl⟩ := List.pairwise_cons.1 hs
    by_cases hab : r a b
    · -- the element goes in front of all that is left, filtered or not
      have hfront : ∀ c ∈ (b :: l).filter p, r a c := by
        intro c hc
        rcases List.mem_cons.1 (List.mem_of_mem_filter hc) with rfl | hc
        · exact hab
        · exact IsTrans.trans _ _ _ hab (hb c hc)
      rw [List.orderedInsert_cons_of_le r l hab]
      cases h : p a with
      | false => simp [List.filter_cons, h]
      | true =>
        rw [List.filter_cons_of_pos h, if_pos rfl]
        cases hf : (b :: l).filter p with
        | nil => rfl
        | cons c rest => rw [List.orderedInsert_cons_of_le r rest (hfront c (by rw [hf]; exact List.mem_cons_self))]
    · rw [List.orderedInsert_of_not_le r l hab, List.filter_cons, filter_orderedInsert hl, List.filter_cons]
      cases p a with
      | false => rfl
      | true =>
        cases p b with
        | false => rfl
        | true => simp [List.orderedInsert_of_not_le r _ hab]

/-- **A stable sort commutes with a filter.** -/
theorem filter_insertionSort [Std.Total r] (l : List α) :
    (l.insertionSort r).filter p = (l.filter p).insertionSort r := by
  induction l with
  | nil => rfl
  | cons a l ih =>
    rw [List.insertionSort_cons, filter_orderedInsert p (List.pairwise_insertionSort r l), ih, List.filter_cons]
    cases p a <;> rfl

end Sorting

/-! ## Running maxima -/

section Maxima

variable [LinearOrder β] (f : α → β)

/-- The running maximum of a list, from a start. -/
def runningMax (start : β) (l : List α) : β := l.foldl (fun t a => if t < f a then f a else t) start

theorem runningMax_cons (start : β) (a : α) (l : List α) :
    runningMax f start (a :: l) = runningMax f (max start (f a)) l := by
  unfold runningMax
  rw [List.foldl_cons, max_def_lt]

/-- **The order of a list does not matter to its running maximum.** -/
theorem runningMax_perm {l l' : List α} (h : l.Perm l') (start : β) : runningMax f start l = runningMax f start l' := by
  induction h generalizing start with
  | nil => rfl
  | cons a _ ih => rw [runningMax_cons, runningMax_cons, ih]
  | swap a b l => rw [runningMax_cons, runningMax_cons, runningMax_cons, runningMax_cons, sup_right_comm]
  | trans _ _ ih ih' => rw [ih, ih']

theorem le_runningMax (start : β) (l : List α) :
    start ≤ runningMax f start l ∧ ∀ a ∈ l, f a ≤ runningMax f start l := by
  induction l generalizing start with
  | nil => exact ⟨le_rfl, fun a ha => absurd ha List.not_mem_nil⟩
  | cons a l ih =>
    obtain ⟨hstart, hmem⟩ := ih (max start (f a))
    rw [runningMax_cons]
    refine ⟨(le_max_left _ _).trans hstart, fun b hb => ?_⟩
    rcases List.mem_cons.1 hb with rfl | hb
    · exact (le_max_right _ _).trans hstart
    · exact hmem b hb

/-- Elements that lie below the start leave it. -/
theorem runningMax_of_le {start : β} {l : List α} (h : ∀ a ∈ l, f a ≤ start) : runningMax f start l = start := by
  induction l with
  | nil => rfl
  | cons a l ih =>
    rw [runningMax_cons, max_eq_left (h a List.mem_cons_self)]
    exact ih fun b hb => h b (List.mem_cons_of_mem _ hb)

/-- A running maximum goes on over elements it has seen. -/
theorem runningMax_absorb (start : β) {l l' : List α} (h : ∀ a ∈ l', a ∈ l) :
    runningMax f (runningMax f start l) l' = runningMax f start l :=
  runningMax_of_le f fun a ha => (le_runningMax f start l).2 a (h a ha)

end Maxima

end FlowObs
