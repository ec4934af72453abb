import Mathlib.Tactic.Common
import Mathlib.Order.Lattice
import Mathlib.Data.List.Sort

/-!
# Vectors kept sorted by a key

`SortedVec key` is a vector whose elements are strictly ascending in `key`, the representation of a finite map that is
searched and extended at its lower bound. The order is a field, so that no operation can break it. Search (`find?`)
is determined by membership (`find?_eq_some`), every operation has a lookup lemma (`find?_set`, `find?_erase`,
`find?_map`, `find?_rebuild`), and a vector is determined by its lookups (`ext_find?`) or by its elements in any order
(`ext_perm`).
-/

namespace FlowObs

/-- A vector in strictly ascending order of `key`. -/
structure SortedVec {α κ : Type} [LinearOrder κ] (key : α → κ) where
  toList : List α
  sorted : toList.Pairwise (fun a b => key a < key b)

namespace SortedVec

variable {α κ : Type} [LinearOrder κ] {key : α → κ}

instance [DecidableEq α] : DecidableEq (SortedVec key) := fun v w =>
  decidable_of_iff (v.toList = w.toList) (by cases v; cases w; simp)

instance [Repr α] : Repr (SortedVec key) := ⟨fun v p => reprPrec v.toList p⟩

/-- The empty vector. -/
def empty : SortedVec key := ⟨[], .nil⟩

instance : Inhabited (SortedVec key) := ⟨empty⟩
instance : EmptyCollection (SortedVec key) := ⟨empty⟩

@[ext] theorem ext {v w : SortedVec key} (h : v.toList = w.toList) : v = w := by
  cases v; cases w; simp_all

/-! ## Search -/

/-- The element at the lower bound of `k`, when it has that key. -/
def search (key : α → κ) (k : κ) : List α → Option α
  | [] => none
  | b :: l => if key b < k then search key k l else if key b = k then some b else none

theorem search_eq_some {k : κ} {a : α} : ∀ {l : List α}, l.Pairwise (fun a b => key a < key b) →
    (search key k l = some a ↔ a ∈ l ∧ key a = k)
  | [], _ => by simp [search]
  | b :: l, hs => by
    have hb := (List.pairwise_cons.1 hs).1
    simp only [search, List.mem_cons]
    split
    · rw [search_eq_some (List.pairwise_cons.1 hs).2]
      grind
    · have hl : ∀ c ∈ l, key c ≠ k := fun c hc he => by
        have := hb c hc
        exact absurd (he ▸ this) ‹¬ key b < k›
      split <;> grind

/-- The element with key `k`. -/
def find? (v : SortedVec key) (k : κ) : Option α := search key k v.toList

/-- **Search is membership.** -/
theorem find?_eq_some {v : SortedVec key} {k : κ} {a : α} : v.find? k = some a ↔ a ∈ v.toList ∧ key a = k :=
  search_eq_some v.sorted

theorem find?_mem {v : SortedVec key} {k : κ} {a : α} (h : v.find? k = some a) : a ∈ v.toList := (find?_eq_some.1 h).1

theorem find?_key {v : SortedVec key} {k : κ} {a : α} (h : v.find? k = some a) : key a = k := (find?_eq_some.1 h).2

theorem find?_of_mem {v : SortedVec key} {a : α} (h : a ∈ v.toList) : v.find? (key a) = some a :=
  find?_eq_some.2 ⟨h, rfl⟩

theorem find?_eq_none {v : SortedVec key} {k : κ} : v.find? k = none ↔ ∀ a ∈ v.toList, key a ≠ k := by
  rw [← Option.not_isSome_iff_eq_none, Option.isSome_iff_exists]
  simp only [find?_eq_some, not_exists, not_and]

@[simp] theorem find?_empty (k : κ) : (empty : SortedVec key).find? k = none := rfl
@[simp] theorem toList_empty : (empty : SortedVec key).toList = [] := rfl
@[simp] theorem emptyCollection_eq : (∅ : SortedVec key) = empty := rfl

theorem filter_search {k : κ} [∀ a : α, Decidable (key a = k)] : ∀ {l : List α}, l.Pairwise (fun a b => key a < key b) →
    l.filter (fun a => decide (key a = k)) = (search key k l).toList
  | [], _ => rfl
  | b :: l, hs => by
    obtain ⟨hb, hl⟩ := List.pairwise_cons.1 hs
    have hpast : ¬ key b < k → l.filter (fun a => decide (key a = k)) = [] := by
      intro h
      refine List.filter_eq_nil_iff.2 fun a ha he => h ?_
      rw [← of_decide_eq_true he]
      exact hb a ha
    unfold search
    by_cases hlt : key b < k
    · rw [if_pos hlt, List.filter_cons_of_neg (by simp [ne_of_lt hlt]), filter_search hl]
    · rw [if_neg hlt, List.filter_cons, hpast hlt]
      by_cases heq : key b = k <;> simp [heq]

/-- The elements with a key are the one that is found, if any. -/
theorem filter_key (v : SortedVec key) (k : κ) [∀ a : α, Decidable (key a = k)] :
    v.toList.filter (fun a => decide (key a = k)) = (v.find? k).toList :=
  filter_search v.sorted

/-- Elements with equal keys are equal. -/
theorem eq_of_key {v : SortedVec key} {a b : α} (ha : a ∈ v.toList) (hb : b ∈ v.toList) (h : key a = key b) :
    a = b := by
  have := find?_of_mem ha
  rw [h, find?_of_mem hb] at this
  exact (Option.some.inj this).symm

theorem nodup (v : SortedVec key) : v.toList.Nodup := by
  refine v.sorted.imp ?_
  rintro a b h rfl
  exact lt_irrefl _ h

/-- No key occurs twice. -/
theorem nodup_keys (v : SortedVec key) : (v.toList.map key).Nodup := by
  rw [List.Nodup, List.pairwise_map]
  exact v.sorted.imp ne_of_lt

/-- The same elements in any order make the same vector. -/
theorem ext_perm {v w : SortedVec key} (h : v.toList.Perm w.toList) : v = w := by
  have hanti : ∀ a b, a ∈ v.toList → b ∈ w.toList → key a < key b → key b < key a → a = b := by
    intro a b _ _ hab hba
    exact absurd (lt_trans hab hba) (lt_irrefl _)
  exact ext (List.Perm.eq_of_pairwise hanti v.sorted w.sorted h)

theorem ext_mem {v w : SortedVec key} (h : ∀ a, a ∈ v.toList ↔ a ∈ w.toList) : v = w :=
  ext_perm ((List.perm_ext_iff_of_nodup v.nodup w.nodup).2 h)

/-- **A vector is determined by its lookups.** -/
theorem ext_find? {v w : SortedVec key} (h : ∀ k, v.find? k = w.find? k) : v = w := by
  refine ext_mem fun a => ⟨fun ha => ?_, fun ha => ?_⟩
  · exact find?_mem (h (key a) ▸ find?_of_mem ha)
  · exact find?_mem (h (key a) ▸ find?_of_mem ha)

/-! ## Insertion and replacement -/

/-- Put `a` at the lower bound of its key: before what follows, or in the place of the element that has its key. -/
def place (key : α → κ) (a : α) : List α → List α
  | [] => [a]
  | b :: l => if key b < key a then b :: place key a l else if key b = key a then a :: l else a :: b :: l

theorem mem_place {a b : α} : ∀ {l : List α}, l.Pairwise (fun a b => key a < key b) →
    (b ∈ place key a l ↔ b = a ∨ (b ∈ l ∧ key b ≠ key a))
  | [], _ => by simp [place]
  | c :: l, hs => by
    have hc := (List.pairwise_cons.1 hs).1
    simp only [place]
    split
    · rw [List.mem_cons, mem_place (List.pairwise_cons.1 hs).2, List.mem_cons]
      have hne : key c ≠ key a := ne_of_lt ‹_›
      grind
    · split
      · have : ∀ d ∈ l, key d ≠ key a :=
          fun d hd he => absurd (hc d hd) (by rw [he, ← ‹key c = key a›]; exact lt_irrefl _)
        grind
      · have hac : key a < key c := lt_of_le_of_ne (not_lt.1 ‹_›) (Ne.symm ‹_›)
        have : ∀ d ∈ l, key d ≠ key a := fun d hd => ne_of_gt (lt_trans hac (hc d hd))
        grind

theorem place_sorted {a : α} : ∀ {l : List α}, l.Pairwise (fun a b => key a < key b) →
    (place key a l).Pairwise (fun a b => key a < key b)
  | [], _ => by simp [place]
  | c :: l, hs => by
    obtain ⟨hc, hl⟩ := List.pairwise_cons.1 hs
    simp only [place]
    split
    · refine List.pairwise_cons.2 ⟨fun d hd => ?_, place_sorted hl⟩
      rcases (mem_place hl).1 hd with rfl | hd
      · assumption
      · exact hc d hd.1
    · split
      · exact List.pairwise_cons.2 ⟨fun d hd => ‹key c = key a› ▸ hc d hd, hl⟩
      · have hac : key a < key c := lt_of_le_of_ne (not_lt.1 ‹_›) (Ne.symm ‹_›)
        refine List.pairwise_cons.2 ⟨fun d hd => ?_, hs⟩
        rcases List.mem_cons.1 hd with rfl | hd
        · exact hac
        · exact lt_trans hac (hc d hd)

/-- Insert or replace the element with the key of `a`. -/
def set (v : SortedVec key) (a : α) : SortedVec key := ⟨place key a v.toList, place_sorted v.sorted⟩

theorem mem_set {v : SortedVec key} {a b : α} :
    b ∈ (v.set a).toList ↔ b = a ∨ (b ∈ v.toList ∧ key b ≠ key a) := mem_place v.sorted

theorem mem_set_self (v : SortedVec key) (a : α) : a ∈ (v.set a).toList := mem_set.2 (.inl rfl)

/-- **Lookup after `set`.** -/
theorem find?_set (v : SortedVec key) (a : α) (k : κ) [Decidable (key a = k)] :
    (v.set a).find? k = if key a = k then some a else v.find? k := by
  split
  · rename_i h
    exact find?_eq_some.2 ⟨mem_set_self v a, h⟩
  · rename_i h
    cases hf : v.find? k with
    | some b =>
      obtain ⟨hb, rfl⟩ := find?_eq_some.1 hf
      exact find?_eq_some.2 ⟨mem_set.2 (.inr ⟨hb, Ne.symm h⟩), rfl⟩
    | none =>
      refine find?_eq_none.2 fun b hb => ?_
      rcases mem_set.1 hb with rfl | ⟨hb, -⟩
      · exact h
      · exact find?_eq_none.1 hf b hb

@[simp] theorem find?_set_self (v : SortedVec key) (a : α) : (v.set a).find? (key a) = some a := by simp [find?_set]

theorem find?_set_of_ne (v : SortedVec key) {a : α} {k : κ} (h : key a ≠ k) : (v.set a).find? k = v.find? k := by
  simp [find?_set, h]

/-- An element past all others goes to the end. -/
theorem toList_set_of_lt {v : SortedVec key} {a : α} (h : ∀ b ∈ v.toList, key b < key a) :
    (v.set a).toList = v.toList ++ [a] := by
  have hsorted : (v.toList ++ [a]).Pairwise (fun a b => key a < key b) := by
    refine List.pairwise_append.2 ⟨v.sorted, List.pairwise_singleton _ _, fun b hb c hc => ?_⟩
    rw [List.mem_singleton.1 hc]
    exact h b hb
  have hset : v.set a = ⟨v.toList ++ [a], hsorted⟩ := by
    refine ext_mem fun b => ?_
    simp only [mem_set, List.mem_append, List.mem_singleton]
    have hne : b ∈ v.toList → key b ≠ key a := fun hb => ne_of_lt (h b hb)
    constructor
    · rintro (rfl | ⟨hb, -⟩)
      · exact .inr rfl
      · exact .inl hb
    · rintro (hb | rfl)
      · exact .inr ⟨hb, hne hb⟩
      · exact .inl rfl
  rw [hset]

/-- Setting a new key adds one element. -/
theorem perm_set {v : SortedVec key} {a : α} (h : v.find? (key a) = none) : (v.set a).toList.Perm (a :: v.toList) := by
  have hn : (a :: v.toList).Nodup := List.nodup_cons.2 ⟨fun ha => find?_eq_none.1 h a ha rfl, v.nodup⟩
  refine (List.perm_ext_iff_of_nodup (nodup _) hn).2 fun b => ?_
  rw [mem_set, List.mem_cons]
  have := find?_eq_none.1 h
  grind

theorem length_set_of_none {v : SortedVec key} {a : α} (h : v.find? (key a) = none) :
    (v.set a).toList.length = v.toList.length + 1 := by rw [(perm_set h).length_eq]; rfl

theorem length_place {a b : α} : ∀ {l : List α}, search key (key a) l = some b →
    (place key a l).length = l.length
  | [], h => by simp [search] at h
  | c :: l, h => by
    simp only [search] at h
    simp only [place]
    split at h
    · rw [if_pos ‹_›, List.length_cons, List.length_cons, length_place h]
    · split at h
      · rw [if_neg ‹_›, if_pos ‹_›]; rfl
      · cases h

/-- Setting a key that is present keeps the length. -/
theorem length_set_of_some {v : SortedVec key} {a b : α} (h : v.find? (key a) = some b) :
    (v.set a).toList.length = v.toList.length := length_place h

/-! ## Removal and maps -/

/-- Remove the element with key `k`. -/
def erase (v : SortedVec key) (k : κ) : SortedVec key := ⟨v.toList.filter (fun a => key a ≠ k), v.sorted.filter _⟩

theorem mem_erase {v : SortedVec key} {k : κ} {a : α} : a ∈ (v.erase k).toList ↔ a ∈ v.toList ∧ key a ≠ k := by
  simp [erase]

theorem find?_erase (v : SortedVec key) (k k' : κ) [Decidable (k = k')] :
    (v.erase k).find? k' = if k = k' then none else v.find? k' := by
  split
  · rename_i h
    exact find?_eq_none.2 fun a ha => h ▸ (mem_erase.1 ha).2
  · rename_i h
    cases hf : v.find? k' with
    | some b =>
      obtain ⟨hb, rfl⟩ := find?_eq_some.1 hf
      exact find?_eq_some.2 ⟨mem_erase.2 ⟨hb, Ne.symm h⟩, rfl⟩
    | none => exact find?_eq_none.2 fun a ha => find?_eq_none.1 hf a (mem_erase.1 ha).1

theorem length_erase_le (v : SortedVec key) (k : κ) : (v.erase k).toList.length ≤ v.toList.length :=
  List.length_filter_le _ _

/-- Removing a key that is present makes room. -/
theorem length_erase_lt {v : SortedVec key} {a : α} (h : a ∈ v.toList) :
    (v.erase (key a)).toList.length < v.toList.length :=
  List.length_filter_lt_length_iff_exists.2 ⟨a, h, by simp⟩

/-- Replace every element by one with the same key. -/
def map (v : SortedVec key) (f : α → α) (hf : ∀ a, key (f a) = key a) : SortedVec key :=
  ⟨v.toList.map f, List.pairwise_map.2 (v.sorted.imp fun h => by rwa [hf, hf])⟩

@[simp] theorem toList_map (v : SortedVec key) (f : α → α) (hf : ∀ a, key (f a) = key a) :
    (v.map f hf).toList = v.toList.map f := rfl

theorem find?_map (v : SortedVec key) (f : α → α) (hf : ∀ a, key (f a) = key a) (k : κ) :
    (v.map f hf).find? k = (v.find? k).map f := by
  cases h : v.find? k with
  | some a =>
    obtain ⟨ha, rfl⟩ := find?_eq_some.1 h
    exact find?_eq_some.2 ⟨List.mem_map_of_mem ha, hf a⟩
  | none =>
    refine find?_eq_none.2 fun b hb => ?_
    obtain ⟨a, ha, rfl⟩ := List.mem_map.1 hb
    rw [hf]
    exact find?_eq_none.1 h a ha

theorem map_set (v : SortedVec key) (f : α → α) (hf : ∀ a, key (f a) = key a) (a : α) :
    (v.set a).map f hf = (v.map f hf).set (f a) := by
  classical
  refine ext_find? fun k => ?_
  rw [find?_map, find?_set, find?_set, find?_map, hf]
  split <;> rfl

/-- Setting what is there changes nothing. -/
theorem set_self {v : SortedVec key} {a : α} (h : v.find? (key a) = some a) : v.set a = v := by
  classical
  refine ext_find? fun k => ?_
  rw [find?_set]
  split
  · rename_i hk
    rw [← hk, h]
  · rfl

/-- Elements with different keys are set in any order. -/
theorem set_comm (v : SortedVec key) {a b : α} (h : key a ≠ key b) : (v.set a).set b = (v.set b).set a := by
  classical
  refine ext_find? fun k => ?_
  rw [find?_set, find?_set, find?_set, find?_set]
  split
  · rename_i hk
    rw [if_neg fun ha => h (ha.trans hk.symm)]
  · rfl

/-- Setting another element under a key that is there replaces the one. -/
theorem toList_set_of_some {v : SortedVec key} {a b : α} (h : v.find? (key a) = some b)
    [∀ x : α, Decidable (key x = key a)] :
    (v.set a).toList = v.toList.map (fun x => if key x = key a then a else x) := by
  classical
  have hf : ∀ x, key (if key x = key a then a else x) = key x := by
    intro x
    split
    · rename_i hx
      exact hx.symm
    · rfl
  have hset : v.set a = v.map (fun x => if key x = key a then a else x) hf := by
    refine ext_find? fun k => ?_
    rw [find?_set, find?_map]
    split
    · rename_i hk
      rw [← hk, h, Option.map_some, if_pos (find?_key h)]
    · rename_i hk
      cases hx : v.find? k with
      | none => rfl
      | some x => rw [Option.map_some, if_neg (by rw [find?_key hx]; exact fun he => hk he.symm)]
  rw [hset, toList_map]

/-- Setting the images of a list that ascends in the key, one after the other. -/
theorem find?_foldl_set {β : Type} {key' : β → κ} (f : α → β) (hf : ∀ a, key' (f a) = key a) (k : κ) {l : List α}
    (hs : l.Pairwise (fun a b => key a < key b)) (w : SortedVec key') :
    (l.foldl (fun w a => w.set (f a)) w).find? k = ((search key k l).map f).or (w.find? k) := by
  induction l generalizing w with
  | nil => rfl
  | cons a l ih =>
    obtain ⟨ha, hs⟩ := List.pairwise_cons.1 hs
    rw [List.foldl_cons, ih hs, find?_set, hf, search]
    cases hk : search key k l with
    | some b =>
      obtain ⟨hb, rfl⟩ := (search_eq_some hs).1 hk
      rw [if_pos (ha b hb)]
      rfl
    | none =>
      by_cases hak : key a = k
      · simp [hak]
      · simp [hak]

/-- What setting the images of a list leaves was there or is one of the images. -/
theorem mem_foldl_set {β : Type} {key' : β → κ} {f : α → β} {b : β} {l : List α} {w : SortedVec key'}
    (h : b ∈ (l.foldl (fun w a => w.set (f a)) w).toList) : b ∈ w.toList ∨ ∃ a ∈ l, b = f a := by
  induction l generalizing w with
  | nil => exact .inl h
  | cons a l ih =>
    rcases ih h with h | ⟨a', ha', rfl⟩
    · rcases mem_set.1 h with rfl | ⟨h, -⟩
      · exact .inr ⟨a, List.mem_cons_self, rfl⟩
      · exact .inl h
    · exact .inr ⟨a', List.mem_cons_of_mem _ ha', rfl⟩

theorem foldl_set_ne_nil {β : Type} {key' : β → κ} (f : α → β) {l : List α} (h : l ≠ []) (w : SortedVec key') :
    (l.foldl (fun w a => w.set (f a)) w).toList ≠ [] := by
  obtain ⟨l, a, rfl⟩ := (List.eq_nil_or_concat l).resolve_left h
  have hlast := mem_set_self (l.foldl (fun w a => w.set (f a)) w) (f a)
  rw [List.concat_eq_append, List.foldl_append]
  exact List.ne_nil_of_mem hlast

/-- Setting a list of elements adds at most that many. -/
theorem length_foldl_set_le {β : Type} {key' : β → κ} (f : α → β) (l : List α) (w : SortedVec key') :
    (l.foldl (fun w a => w.set (f a)) w).toList.length ≤ w.toList.length + l.length := by
  induction l generalizing w with
  | nil => exact le_rfl
  | cons a l ih =>
    have hone : (w.set (f a)).toList.length ≤ w.toList.length + 1 := by
      cases hf : w.find? (key' (f a)) with
      | none => rw [length_set_of_none hf]
      | some b =>
        rw [length_set_of_some hf]
        omega
    have hrest := ih (w.set (f a))
    rw [List.foldl_cons, List.length_cons]
    omega

/-- Elements that come in ascending order are appended. -/
theorem toList_foldl_set {β : Type} {key' : β → κ} (f : α → β) {l : List α} {w : SortedVec key'}
    (hl : (l.map f).Pairwise (fun a b => key' a < key' b)) (hw : ∀ b ∈ w.toList, ∀ a ∈ l, key' b < key' (f a)) :
    (l.foldl (fun w a => w.set (f a)) w).toList = w.toList ++ l.map f := by
  induction l generalizing w with
  | nil => exact (List.append_nil _).symm
  | cons a l ih =>
    obtain ⟨ha, hl⟩ := List.pairwise_cons.1 hl
    have hset : (w.set (f a)).toList = w.toList ++ [f a] := toList_set_of_lt fun b hb => hw b hb a List.mem_cons_self
    rw [List.foldl_cons, ih hl, hset, List.append_assoc, List.map_cons, List.singleton_append]
    intro b hb c hc
    rw [hset, List.mem_append, List.mem_singleton] at hb
    rcases hb with hb | rfl
    · exact hw b hb c (List.mem_cons_of_mem _ hc)
    · exact ha (f c) (List.mem_map_of_mem hc)

/-- **A vector rebuilt from the images of its elements** has the images of its lookups. -/
theorem find?_rebuild {β : Type} {key' : β → κ} (v : SortedVec key) (f : α → β) (hf : ∀ a, key' (f a) = key a) (k : κ) :
    (v.toList.foldl (fun w a => w.set (f a)) (∅ : SortedVec key')).find? k = (v.find? k).map f := by
  rw [find?_foldl_set f hf k v.sorted, emptyCollection_eq, find?_empty, Option.or_none]
  rfl

/-- The vector without its first `n` elements. -/
def drop (v : SortedVec key) (n : Nat) : SortedVec key := ⟨v.toList.drop n, v.sorted.sublist (List.drop_sublist _ _)⟩

@[simp] theorem toList_drop (v : SortedVec key) (n : Nat) : (v.drop n).toList = v.toList.drop n := rfl

end SortedVec

end FlowObs
