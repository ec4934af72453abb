import FlowObs.Lib.SortedVec

/-!
# Binary search

`lowerBound p l` halves a range of `l` until it is empty, as `std::lower_bound` does. Where `p` holds of an initial
segment of the list, the search ends behind it (`lowerBound_eq`). On a sorted vector that is where `SortedVec` looks
for a key and where it puts one: an element that is obtained at its lower bound, or inserted there, makes the vector
of `set` (`toList_set_obtained`).
-/

namespace FlowObs

variable {α κ : Type}

/-- Of the `count` elements from `first` on, the first that `p` does not hold of. -/
def lowerBoundFrom (p : α → Bool) (l : List α) (first count : Nat) : Nat :=
  if count = 0 then first
  else
    if (l[first + count / 2]?).any p then lowerBoundFrom p l (first + count / 2 + 1) (count - count / 2 - 1)
    else lowerBoundFrom p l first (count / 2)
termination_by count

/-- `std::lower_bound`, by a predicate. -/
def lowerBound (p : α → Bool) (l : List α) : Nat := lowerBoundFrom p l 0 l.length

/-- The search ends behind the elements that `p` holds of, wherever it starts around their end. -/
theorem lowerBoundFrom_eq {p : α → Bool} {l : List α} {n : Nat} (hn : ∀ i, (l[i]?).any p = decide (i < n))
    (first count : Nat)
    (hfirst : first ≤ n) (hlast : n ≤ first + count) : lowerBoundFrom p l first count = n := by
  induction count using Nat.strong_induction_on generalizing first with
  | _ count ih =>
    unfold lowerBoundFrom
    by_cases hcount : count = 0
    · rw [if_pos hcount]
      omega
    · rw [if_neg hcount, hn]
      by_cases hhalf : first + count / 2 < n
      · rw [if_pos (decide_eq_true hhalf)]
        exact ih _ (by omega) _ (by omega) (by omega)
      · rw [if_neg (by simpa using hhalf)]
        exact ih _ (by omega) _ hfirst (by omega)

/-- **Binary search ends behind the initial segment that `p` holds of.** -/
theorem lowerBound_eq {p : α → Bool} {l : List α} {n : Nat} (hn : ∀ i, (l[i]?).any p = decide (i < n)) :
    lowerBound p l = n := by
  refine lowerBoundFrom_eq hn 0 l.length (Nat.zero_le n) ?_
  by_contra h
  have hpast := hn l.length
  rw [List.getElem?_eq_none le_rfl] at hpast
  simp only [Option.any_none] at hpast
  have := of_decide_eq_false hpast.symm
  omega

namespace SortedVec

variable [LinearOrder κ] {key : α → κ}

/-- In a sorted list the keys below another make an initial segment. -/
theorem any_getElem?_lt {k : κ} {l : List α} (hs : l.Pairwise (fun a b => key a < key b)) (i : Nat) :
    (l[i]?).any (fun a => decide (key a < k)) = decide (i < (l.takeWhile (fun a => decide (key a < k))).length) := by
  induction l generalizing i with
  | nil => rfl
  | cons b l ih =>
    obtain ⟨hb, hl⟩ := List.pairwise_cons.1 hs
    rw [List.takeWhile_cons]
    by_cases hlt : key b < k
    · rw [if_pos (decide_eq_true hlt)]
      cases i with
      | zero => simp [hlt]
      | succ i => simpa using ih hl i
    · rw [if_neg (by simpa using hlt)]
      cases i with
      | zero => simpa using hlt
      | succ i =>
        cases hi : l[i]? with
        | none => simp [hi]
        | some c =>
          have hbc := hb c (List.mem_of_getElem? hi)
          have hck : ¬ key c < k := fun h => hlt (hbc.trans h)
          simpa [hi] using hck

/-- The lower bound of a key in a sorted vector. -/
def position (v : SortedVec key) (k : κ) : Nat := lowerBound (fun a => decide (key a < k)) v.toList

theorem position_eq (v : SortedVec key) (k : κ) :
    v.position k = (v.toList.takeWhile (fun a => decide (key a < k))).length :=
  lowerBound_eq (any_getElem?_lt v.sorted)

theorem search_eq_getElem? (k : κ) (l : List α) : search key k l
    = (l[(l.takeWhile (fun a => decide (key a < k))).length]?).filter (fun a => decide (key a = k)) := by
  induction l with
  | nil => rfl
  | cons b l ih =>
    rw [search, List.takeWhile_cons]
    by_cases hlt : key b < k
    · rw [if_pos hlt, if_pos (decide_eq_true hlt), List.length_cons, List.getElem?_cons_succ, ih]
    · have hat : (if decide (key b < k) = true then b :: l.takeWhile (fun a => decide (key a < k)) else []) = [] :=
        if_neg (by simpa using hlt)
      rw [if_neg hlt, hat, List.length_nil, List.getElem?_cons_zero, Option.filter_some]
      simp only [decide_eq_true_eq]

theorem place_eq_insertIdx {a : α} {l : List α} (h : search key (key a) l = none) :
    place key a l = l.insertIdx (l.takeWhile (fun b => decide (key b < key a))).length a := by
  induction l with
  | nil => rfl
  | cons b l ih =>
    rw [search] at h
    rw [place, List.takeWhile_cons]
    by_cases hlt : key b < key a
    · rw [if_pos hlt] at h
      rw [if_pos hlt, if_pos (decide_eq_true hlt), List.length_cons, List.insertIdx_succ_cons, ih h]
    · have hne : key b ≠ key a := by
        intro heq
        simp [heq] at h
      rw [if_neg hlt, if_neg hne, if_neg (by simpa using hlt)]
      rfl

/-- **An element is found at the lower bound of its key**, when it is there. -/
theorem find?_eq_position (v : SortedVec key) (k : κ) :
    v.find? k = (v.toList[v.position k]?).filter (fun a => decide (key a = k)) := by
  rw [position_eq]
  exact search_eq_getElem? k v.toList

/-- **Obtaining an element**: it stays where it is at its lower bound, or a new one is inserted there. -/
theorem toList_set_obtained (v : SortedVec key) (new : α) [∀ a : α, Decidable (key a = key new)] :
    (v.set ((v.find? (key new)).getD new)).toList =
    if (v.toList[v.position (key new)]?).any (fun a => decide (key a = key new)) then v.toList
    else v.toList.insertIdx (v.position (key new)) new := by
  have hfound := find?_eq_position v (key new)
  cases hf : v.find? (key new) with
  | some a =>
    rw [hf, eq_comm, Option.filter_eq_some_iff] at hfound
    rw [if_pos, Option.getD_some, set_self]
    · rw [find?_key hf, hf]
    · rw [hfound.1]
      exact decide_eq_true (find?_key hf)
  | none =>
    have hnot : ¬ (v.toList[v.position (key new)]?).any (fun a => decide (key a = key new)) = true := by
      intro hany
      obtain ⟨a, ha, hkey⟩ := (Option.any_eq_true _ _).1 hany
      rw [hf, ha, eq_comm, Option.filter_eq_none_iff] at hfound
      have hsame : key a = key new := @of_decide_eq_true _ (_) hkey
      exact hfound a rfl (@decide_eq_true _ (_) hsame)
    rw [if_neg hnot, Option.getD_none, position_eq]
    exact place_eq_insertIdx hf

end SortedVec

end FlowObs
