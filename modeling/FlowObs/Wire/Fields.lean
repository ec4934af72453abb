import FlowObs.Lib.Decimal
import FlowObs.Semantics
import Mathlib.Data.List.Dedup
import Mathlib.Data.List.Induction
import Mathlib.Data.List.Perm.Subperm

/-!
# The fields of a request

`parse_fields`, `FieldMap` and `parse_identity` of `transport.cpp`: a payload is split at blanks and line ends, and
each word is a field `key=value`, of which the last one of a key counts. What a payload says is told from its words
alone: which payloads are read (`parseFields_accepts`), and the value that a field has then (`get?_parseFields`).
-/

namespace FlowObs.Wire

open Decimal

/-! ## The code -/

/-- A byte between two fields. -/
def isSpace (c : UInt8) : Bool := c == 32 || c == 10 || c == 13 || c == 9

/-- The words of a payload. -/
def words (text : Str) : List Str := (text.splitOnP isSpace).filter (· ≠ [])

/-- `FieldMap`: one value for a key. -/
structure FieldMap where
  fields : List (Str × Str)
  distinct : (fields.map Prod.fst).Nodup

/-- A value without the quotes around it. -/
def unquoted (value : Str) : Str :=
  if 2 ≤ value.length ∧ value.head? = some 34 ∧ value.getLast? = some 34 then value.tail.dropLast else value

/-- A word as a key and a value; the key is not empty. -/
def splitField (token : Str) : Option (Str × Str) :=
  match token.dropWhile (· != 61) with
  | [] => none
  | _ :: value => if token.takeWhile (· != 61) = [] then none else some (token.takeWhile (· != 61), unquoted value)

/-- The loop of `FieldMap::number`. -/
def numberFrom (fallback value : UInt64) : Str → UInt64
  | [] => value
  | c :: text => if c < 48 ∨ 57 < c then fallback else numberFrom fallback (value * 10 + (c - 48).toUInt64) text

namespace FieldMap

def empty : FieldMap := ⟨[], .nil⟩

/-- `find`. -/
def get? (m : FieldMap) (key : Str) : Option Str := (m.fields.find? (fun f => f.1 = key)).map (·.2)

/-- `fields[key] = value`. -/
def set (m : FieldMap) (key value : Str) : FieldMap where
  fields := (key, value) :: m.fields.filter (fun f => f.1 ≠ key)
  distinct := by
    rw [List.map_cons, List.nodup_cons]
    refine ⟨by simp, ?_⟩
    exact m.distinct.sublist (List.Sublist.map _ List.filter_sublist)

/-- `flag`. -/
def flag (m : FieldMap) (key : Str) (fallback : Bool) : Bool :=
  match m.get? key with
  | none => fallback
  | some value => value = str "1" || value = str "true" || value = str "yes"

/-- `number`. -/
def number (m : FieldMap) (key : Str) (fallback : UInt64) : UInt64 :=
  match m.get? key with
  | none => fallback
  | some text => numberFrom fallback 0 text

end FieldMap

/-- One word of `parse_fields`. -/
def addField (maxFields : Nat) (out : FieldMap) (token : Str) : Except Error FieldMap :=
  match splitField token with
  | none => .error (invalidArgument "expected key=value")
  | some (key, value) =>
    if out.fields.length ≥ maxFields then .error (limitExceeded "too many request fields") else .ok (out.set key value)

/-- `parse_fields`. -/
def parseFields (text : Str) (maxFields : Nat) : Except Error FieldMap :=
  (words text).foldlM (addField maxFields) .empty

/-- `parse_hex16`. -/
def parseHex16 (text : Str) : Option UInt64 :=
  if text.length ≠ 16 then none
  else text.foldlM (fun value c => (hexValue c).map fun digit => (value <<< 4) ||| digit) 0

/-- `parse_identity`. -/
def parseIdentity (text : Str) : Except Error FlowId :=
  if text = [] then .error (invalidArgument "identity text is empty")
  else if text.head? = some 64 then
    match parseHex16 text.tail with
    | none => .error (invalidArgument "identity is not 16 hex digits")
    | some raw => .ok ⟨raw⟩
  else .ok (makeId .flow text)

/-! ## Words -/

@[simp] theorem words_nil : words [] = [] := rfl

theorem words_append {sep : UInt8} (hsep : isSpace sep = true) (xs ys : Str) :
    words (xs ++ sep :: ys) = words xs ++ words ys := by
  unfold words
  rw [List.splitOnP_append_cons xs ys hsep, List.filter_append]

theorem words_singleton {w : Str} (hne : w ≠ []) (h : ∀ c ∈ w, isSpace c = false) : words w = [w] := by
  unfold words
  rw [List.splitOnP_eq_singleton h]
  simp [hne]

/-- There are no spaces in a word. -/
theorem isSpace_words {text w : Str} (h : w ∈ words text) : ∀ c ∈ w, isSpace c = false := by
  have hpieces : ∀ w ∈ text.splitOnP isSpace, ∀ c ∈ w, isSpace c = false := by
    clear h
    induction text with
    | nil => simp
    | cons d text ih =>
      rw [List.splitOnP_cons_eq_if_modifyHead]
      split
      · simpa using ih
      · rename_i hd
        cases hsplit : text.splitOnP isSpace with
        | nil => simp
        | cons piece pieces =>
          rw [hsplit, List.forall_mem_cons] at ih
          rw [List.modifyHead_cons, List.forall_mem_cons, List.forall_mem_cons]
          exact ⟨⟨by simpa using hd, ih.1⟩, ih.2⟩
  exact hpieces w (List.mem_filter.1 h).1

/-! ## Maps -/

namespace FieldMap

@[simp] theorem get?_empty (key : Str) : empty.get? key = none := rfl

theorem get?_set (m : FieldMap) (key value name : Str) :
    (m.set key value).get? name = if key = name then some value else m.get? name := by
  unfold get? set
  rw [List.find?_cons]
  by_cases h : key = name
  · simp [h]
  · have hkeep : ∀ f : Str × Str, (f.1 ≠ key ∧ f.1 = name) = (f.1 = name) := by
      intro f
      rw [eq_iff_iff, and_iff_right_iff_imp]
      rintro rfl
      exact Ne.symm h
    simp only [h, decide_false, if_false, List.find?_filter, decide_eq_true_eq, hkeep]

theorem isSome_get? {m : FieldMap} {key : Str} : (m.get? key).isSome = true ↔ key ∈ m.fields.map Prod.fst := by
  simp [get?, List.find?_isSome]

end FieldMap

/-! ## What a payload says -/

/-- The fields among words. -/
def fieldsOf (ws : List Str) : List (Str × Str) := ws.filterMap splitField

/-- The value of the last field of a key. -/
def lastField (ws : List Str) (name : Str) : Option Str := ((fieldsOf ws).reverse.find? (fun f => f.1 = name)).map (·.2)

/-- How many different keys there are among words. -/
def keyCount (ws : List Str) : Nat := ((fieldsOf ws).map Prod.fst).dedup.length

/-- Words that are all fields, with room for the last one. -/
structure Readable (maxFields : Nat) (ws : List Str) : Prop where
  fields : ∀ w ∈ ws, (splitField w).isSome = true
  room : ws ≠ [] → keyCount ws.dropLast < maxFields

theorem fieldsOf_concat {ws : List Str} {w key value : Str} (h : splitField w = some (key, value)) :
    fieldsOf (ws ++ [w]) = fieldsOf ws ++ [(key, value)] := by
  simp [fieldsOf, h]

theorem lastField_concat {ws : List Str} {w key value : Str} (h : splitField w = some (key, value)) (name : Str) :
    lastField (ws ++ [w]) name = if key = name then some value else lastField ws name := by
  unfold lastField
  rw [fieldsOf_concat h, List.reverse_append, List.reverse_singleton, List.singleton_append, List.find?_cons]
  by_cases hkey : key = name <;> simp [hkey]

theorem isSome_lastField {ws : List Str} {name : Str} :
    (lastField ws name).isSome = true ↔ name ∈ (fieldsOf ws).map Prod.fst := by
  simp [lastField, List.find?_isSome]

theorem keyCount_concat_le (ws : List Str) (w : Str) : keyCount ws ≤ keyCount (ws ++ [w]) := by
  unfold keyCount fieldsOf
  rw [List.filterMap_append, List.map_append]
  refine List.Subperm.length_le (List.subperm_of_subset (List.nodup_dedup _) fun k hk => ?_)
  rw [List.mem_dedup] at hk ⊢
  exact List.mem_append_left _ hk

/-- A map whose values are the last ones has as many fields as there are keys. -/
theorem length_fields {m : FieldMap} {ws : List Str} (h : ∀ name, m.get? name = lastField ws name) :
    m.fields.length = keyCount ws := by
  have hperm : (m.fields.map Prod.fst).Perm ((fieldsOf ws).map Prod.fst).dedup := by
    refine (List.perm_ext_iff_of_nodup m.distinct (List.nodup_dedup _)).2 fun name => ?_
    rw [List.mem_dedup, ← isSome_lastField, ← h name, FieldMap.isSome_get?]
  rw [← List.length_map Prod.fst, hperm.length_eq, keyCount]

theorem addField_ok {maxFields : Nat} {m m' : FieldMap} {w : Str} :
    addField maxFields m w = .ok m' ↔ ∃ key value, splitField w = some (key, value) ∧ m.fields.length < maxFields ∧
      m' = m.set key value := by
  unfold addField
  cases splitField w with
  | none => simp
  | some p =>
    obtain ⟨key, value⟩ := p
    dsimp only
    by_cases hfull : m.fields.length ≥ maxFields
    · rw [if_pos hfull]
      simp only [reduceCtorEq, Option.some.injEq, Prod.mk.injEq, false_iff, not_exists]
      rintro _ _ ⟨-, hroom, -⟩
      omega
    · rw [if_neg hfull]
      simp [Nat.lt_of_not_le hfull, eq_comm]

theorem get?_foldlM {maxFields : Nat} {ws : List Str} {m : FieldMap}
    (h : ws.foldlM (addField maxFields) .empty = .ok m) :
    ∀ name, m.get? name = lastField ws name := by
  induction ws using List.reverseRecOn generalizing m with
  | nil =>
    cases h
    exact fun _ => rfl
  | append_singleton ws w ih =>
    rw [List.foldlM_append, bind_ok] at h
    obtain ⟨m₁, h₁, h⟩ := h
    rw [List.foldlM_cons, bind_ok] at h
    obtain ⟨m₂, h₂, h⟩ := h
    cases h
    obtain ⟨key, value, hsplit, -, rfl⟩ := addField_ok.1 h₂
    intro name
    rw [FieldMap.get?_set, lastField_concat hsplit, ih h₁]

theorem foldlM_accepts {maxFields : Nat} {ws : List Str} :
    (∃ m, ws.foldlM (addField maxFields) .empty = .ok m) ↔ Readable maxFields ws := by
  induction ws using List.reverseRecOn with
  | nil => exact ⟨fun _ => ⟨by simp, by simp⟩, fun _ => ⟨_, rfl⟩⟩
  | append_singleton ws w ih =>
    rw [List.foldlM_append]
    constructor
    · rintro ⟨m, h⟩
      obtain ⟨m₁, h₁, h⟩ := bind_ok.1 h
      rw [List.foldlM_cons, bind_ok] at h
      obtain ⟨m₂, h₂, -⟩ := h
      obtain ⟨key, value, hsplit, hroom, -⟩ := addField_ok.1 h₂
      rw [length_fields (get?_foldlM h₁)] at hroom
      refine ⟨?_, fun _ => by rwa [List.dropLast_concat]⟩
      intro u hu
      rcases List.mem_append.1 hu with hu | hu
      · exact (ih.1 ⟨m₁, h₁⟩).fields u hu
      · rw [List.mem_singleton.1 hu, hsplit]
        rfl
    · intro h
      have hroom := h.room (by simp)
      rw [List.dropLast_concat] at hroom
      have hbefore : Readable maxFields ws := by
        refine ⟨fun u hu => h.fields u (List.mem_append_left _ hu), fun hne => ?_⟩
        have hle := keyCount_concat_le ws.dropLast (ws.getLast hne)
        rw [List.dropLast_append_getLast] at hle
        omega
      obtain ⟨m₁, h₁⟩ := ih.2 hbefore
      obtain ⟨⟨key, value⟩, hsplit⟩ := Option.isSome_iff_exists.1 (h.fields w (by simp))
      rw [← length_fields (get?_foldlM h₁)] at hroom
      have hlast := addField_ok.2 ⟨key, value, hsplit, hroom, rfl⟩
      refine ⟨m₁.set key value, ?_⟩
      rw [h₁, ok_bind, List.foldlM_cons, hlast]
      rfl

/-- **The value of a field is that of the last one.** -/
theorem get?_parseFields {text : Str} {maxFields : Nat} {m : FieldMap} (h : parseFields text maxFields = .ok m)
    (name : Str) :
    m.get? name = lastField (words text) name := get?_foldlM h name

/-- **The payloads that are read.** -/
theorem parseFields_accepts {text : Str} {maxFields : Nat} :
    (∃ m, parseFields text maxFields = .ok m) ↔ Readable maxFields (words text) := foldlM_accepts

theorem not_readable {text : Str} {maxFields : Nat} {complaint : Error}
    (h : parseFields text maxFields = .error complaint) :
    ¬ Readable maxFields (words text) := by
  rw [← parseFields_accepts, h]
  rintro ⟨_, ⟨⟩⟩

/-! ## Numbers -/

/-- What is left of a text as a number: its value modulo 64 bits, or the fallback. -/
def numberLeft (fallback : UInt64) (text : Str) : Nat :=
  if ∀ c ∈ text, isDigit c = true then value text % 2 ^ 64 else fallback.toNat

/-- **What `FieldMap::number` makes of a text.** -/
theorem toNat_numberFrom (fallback : UInt64) (text : Str) :
    (numberFrom fallback 0 text).toNat = numberLeft fallback text := by
  -- the accumulator is the value so far, modulo 64 bits
  have hgeneral : ∀ (v : UInt64) (n : Nat), n % 2 ^ 64 = v.toNat → (numberFrom fallback v text).toNat =
      if ∀ c ∈ text, isDigit c = true then valueFrom n text % 2 ^ 64 else fallback.toNat := by
    induction text with
    | nil =>
      intro v n hn
      simpa [numberFrom] using hn.symm
    | cons c text ih =>
      intro v n hn
      have h48 : (48 : UInt8).toNat = 48 := rfl
      have h57 : (57 : UInt8).toNat = 57 := rfl
      have hten : (10 : UInt64).toNat = 10 := rfl
      rw [numberFrom]
      by_cases hc : isDigit c = true
      · have hrange := isDigit_iff.1 hc
        have hnext : (n * 10 + (c.toNat - 48)) % 2 ^ 64 = (v * 10 + (c - 48).toUInt64).toNat := by
          rw [UInt64.toNat_add, UInt64.toNat_mul, toNat_digitByte hc, hten]
          omega
        rw [if_neg (by rw [UInt8.lt_iff_toNat_lt, UInt8.lt_iff_toNat_lt, h48, h57]; omega), ih _ _ hnext,
          valueFrom_cons]
        simp [hc]
      · have hout : c < 48 ∨ 57 < c := by
          rw [UInt8.lt_iff_toNat_lt, UInt8.lt_iff_toNat_lt, h48, h57]
          rw [isDigit_iff] at hc
          omega
        rw [if_pos hout, if_neg fun hall => hc (hall c List.mem_cons_self)]
  exact hgeneral 0 0 rfl

end FlowObs.Wire
