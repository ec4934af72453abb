import FlowObs.Lib.Decimal

/-!
# JSON texts

The grammar of RFC 8259 over bytes, for texts whose numbers are integers: white space (`Ws`), the characters of a
string with their escapes (`readChar`, `unescape`), integers (`Numeral`), and the texts of a value, an element list
and a member list (`Spells`). No text is a text of two values (`Text.unique`), so that a text which is shown to be one
of a value says that value and no other to every reader of the grammar.
-/

namespace FlowObs.Json

/-! ## Values -/

/-- A JSON value. The names and the texts are strings of bytes, the members of an object stand in the order of the
text. -/
inductive Value
  | null
  | bool (b : Bool)
  | num (n : Int)
  | str (s : List UInt8)
  | arr (elements : List Value)
  | obj (members : List (List UInt8 × Value))

/-! ## White space -/

/-- A byte of white space: a space, a tab, a line feed or a carriage return. -/
def isWs (c : UInt8) : Bool := c == 32 || c == 9 || c == 10 || c == 13

/-- White space. -/
def Ws (w : List UInt8) : Prop := ∀ c ∈ w, isWs c = true

theorem Ws.nil : Ws [] := fun _ h => nomatch h

theorem Ws.append {v w : List UInt8} (hv : Ws v) (hw : Ws w) : Ws (v ++ w) := by
  intro c hc
  rcases List.mem_append.1 hc with hc | hc
  · exact hv c hc
  · exact hw c hc

/-- The first run of bytes of a class is read in one way. -/
theorem span_unique {p : UInt8 → Bool} {v w t u : List UInt8} (hv : ∀ c ∈ v, p c = true) (hw : ∀ c ∈ w, p c = true)
    (ht : ∀ c ∈ t.head?, p c = false) (hu : ∀ c ∈ u.head?, p c = false) (heq : v ++ t = w ++ u) : v = w ∧ t = u := by
  have hstop : ∀ {l : List UInt8}, (∀ c ∈ l.head?, p c = false) → l.takeWhile p = [] := by
    intro l hl
    cases l with
    | nil => rfl
    | cons c l => rw [List.takeWhile_cons, hl c rfl, if_neg Bool.false_ne_true]
  have hspan := congrArg (List.takeWhile p) heq
  rw [List.takeWhile_append_of_pos hv, List.takeWhile_append_of_pos hw, hstop ht, hstop hu, List.append_nil,
    List.append_nil] at hspan
  rw [hspan] at heq
  exact ⟨hspan, List.append_cancel_left heq⟩

/-! ## Strings -/

/-- The number that a hexadecimal digit is. -/
def hexValue (c : UInt8) : Option Nat :=
  if 48 ≤ c ∧ c ≤ 57 then some (c.toNat - 48)
  else if 97 ≤ c ∧ c ≤ 102 then some (c.toNat - 87)
  else if 65 ≤ c ∧ c ≤ 70 then some (c.toNat - 55)
  else none

/-- Four hexadecimal digits, and what follows them. -/
def readHex4 : List UInt8 → Option (Nat × List UInt8)
  | a :: b :: c :: d :: rest => do
    let a ← hexValue a
    let b ← hexValue b
    let c ← hexValue c
    let d ← hexValue d
    some (((a * 16 + b) * 16 + c) * 16 + d, rest)
  | _ => none

/-- The UTF-8 bytes of a code point. -/
def utf8 (n : Nat) : List UInt8 :=
  if n < 0x80 then [UInt8.ofNat n]
  else if n < 0x800 then [UInt8.ofNat (0xC0 + n / 0x40), UInt8.ofNat (0x80 + n % 0x40)]
  else if n < 0x10000 then
    [UInt8.ofNat (0xE0 + n / 0x1000), UInt8.ofNat (0x80 + n / 0x40 % 0x40), UInt8.ofNat (0x80 + n % 0x40)]
  else
    [UInt8.ofNat (0xF0 + n / 0x40000), UInt8.ofNat (0x80 + n / 0x1000 % 0x40), UInt8.ofNat (0x80 + n / 0x40 % 0x40),
      UInt8.ofNat (0x80 + n % 0x40)]

/-- The escapes of one letter: the quote, the backslash, the slash, and `b`, `f`, `n`, `r`, `t`. -/
def shortEscape (e : UInt8) : Option UInt8 :=
  if e = 34 ∨ e = 92 ∨ e = 47 then some e
  else if e = 98 then some 8
  else if e = 102 then some 12
  else if e = 110 then some 10
  else if e = 114 then some 13
  else if e = 116 then some 9
  else none

/-- What follows `\u`: the digits of a code point, or those of a high surrogate with a low one behind it. -/
def readUnicode (t : List UInt8) : Option (List UInt8 × List UInt8) := do
  let (n, rest) ← readHex4 t
  if n < 0xD800 ∨ 0xDFFF < n then some (utf8 n, rest)
  else if n ≤ 0xDBFF ∧ rest.take 2 = [92, 117] then do
    let (m, rest) ← readHex4 (rest.drop 2)
    if 0xDC00 ≤ m ∧ m ≤ 0xDFFF then some (utf8 (0x10000 + (n - 0xD800) * 0x400 + (m - 0xDC00)), rest) else none
  else none

/-- One character of a string: the bytes that it stands for, and what follows it. A quote ends the string, and a
control character cannot stand in it. -/
def readChar : List UInt8 → Option (List UInt8 × List UInt8)
  | [] => none
  | c :: rest =>
    if c = 34 ∨ c < 32 then none
    else if c ≠ 92 then some ([c], rest)
    else match rest with
      | [] => none
      | e :: rest =>
        match shortEscape e with
        | some b => some ([b], rest)
        | none => if e = 117 then readUnicode rest else none

theorem readHex4_eq_some {t rest : List UInt8} {n : Nat} (h : readHex4 t = some (n, rest)) :
    ∃ digits, t = digits ++ rest ∧ ∀ l, readHex4 (digits ++ l) = some (n, l) := by
  match t, h with
  | a :: b :: c :: d :: l, h =>
    simp only [readHex4, Option.bind_eq_bind, Option.bind_eq_some_iff, Option.some.injEq, Prod.mk.injEq] at h
    obtain ⟨x, hx, y, hy, z, hz, w, hw, hn, rfl⟩ := h
    refine ⟨[a, b, c, d], rfl, fun m => ?_⟩
    simp only [readHex4, List.cons_append, List.nil_append, Option.bind_eq_bind, hx, hy, hz, hw, Option.bind_some, hn]
  | [], h | [_], h | [_, _], h | [_, _, _], h => cases h

theorem readUnicode_eq_some {t rest s : List UInt8} (h : readUnicode t = some (s, rest)) :
    ∃ spelling, t = spelling ++ rest ∧ ∀ l, readUnicode (spelling ++ l) = some (s, l) := by
  simp only [readUnicode, Option.bind_eq_bind, Option.bind_eq_some_iff, Prod.exists] at h
  obtain ⟨n, after, hn, h⟩ := h
  obtain ⟨digits, rfl, hdigits⟩ := readHex4_eq_some hn
  split at h
  · rename_i hplain
    obtain ⟨hs, rfl⟩ := Prod.mk.inj (Option.some.inj h)
    refine ⟨digits, rfl, fun l => ?_⟩
    simp only [readUnicode, hdigits l, Option.bind_eq_bind, Option.bind_some, if_pos hplain, hs]
  · rename_i hplain
    split at h
    · rename_i hhigh
      simp only [Option.bind_eq_some_iff, Prod.exists] at h
      obtain ⟨m, last, hm, h⟩ := h
      obtain ⟨low, hlow, hreads⟩ := readHex4_eq_some hm
      have hafter : after = 92 :: 117 :: (low ++ last) := by
        rw [← hlow, ← List.take_append_drop 2 after, hhigh.2]
        rfl
      split at h
      · rename_i hrange
        obtain ⟨hs, rfl⟩ := Prod.mk.inj (Option.some.inj h)
        refine ⟨digits ++ 92 :: 117 :: low, by rw [hafter]; simp, fun l => ?_⟩
        have hpair : n ≤ 0xDBFF ∧ (92 :: 117 :: (low ++ l)).take 2 = [92, 117] := ⟨hhigh.1, rfl⟩
        simp only [readUnicode, List.append_assoc, List.cons_append, hdigits, Option.bind_eq_bind, Option.bind_some,
          if_neg hplain, if_pos hpair, List.drop_succ_cons, List.drop_zero, hreads l, if_pos hrange, hs]
      · cases h
    · cases h

/-- **A character is read from its own bytes**: what follows it has no part in it. -/
theorem readChar_eq_some {t rest s : List UInt8} (h : readChar t = some (s, rest)) :
    ∃ c spelling, t = c :: spelling ++ rest ∧ c ≠ 34 ∧ ∀ l, readChar (c :: spelling ++ l) = some (s, l) := by
  match t, h with
  | c :: after, h =>
    simp only [readChar] at h
    split at h
    · cases h
    · rename_i hc
      have hquote : c ≠ 34 := fun heq => hc (Or.inl heq)
      split at h
      · rename_i hplain
        obtain ⟨rfl, rfl⟩ := Prod.mk.inj (Option.some.inj h)
        exact ⟨c, [], rfl, hquote, fun l => by simp [readChar, hc, hplain]⟩
      · rename_i hback
        match after, h with
        | e :: after, h =>
          simp only at h
          split at h
          · rename_i b hb
            obtain ⟨hs, rfl⟩ := Prod.mk.inj (Option.some.inj h)
            exact ⟨c, [e], rfl, hquote, fun l => by simp [readChar, hc, hback, hb, hs]⟩
          · rename_i hshort
            split at h
            · rename_i hu
              subst hu
              obtain ⟨spelling, hspelling, hreads⟩ := readUnicode_eq_some h
              refine ⟨c, 117 :: spelling, by rw [hspelling]; rfl, hquote, fun l => ?_⟩
              simp [readChar, hc, hback, hshort, hreads l]
            · cases h

theorem length_readChar {t rest s : List UInt8} (h : readChar t = some (s, rest)) : rest.length < t.length := by
  obtain ⟨c, spelling, rfl, -, -⟩ := readChar_eq_some h
  simp only [List.cons_append, List.length_cons, List.length_append]
  omega

/-- The bytes that the text between the quotes of a string stands for, when it is one. -/
def unescape (t : List UInt8) : Option (List UInt8) :=
  if t = [] then some []
  else match _h : readChar t with
    | none => none
    | some (s, rest) => (unescape rest).map (s ++ ·)
termination_by t.length
decreasing_by exact length_readChar (by assumption)

@[simp] theorem unescape_nil : unescape [] = some [] := by
  rw [unescape, if_pos rfl]

/-- A text that is not empty stands for its first character and the rest. -/
theorem unescape_eq {t : List UInt8} (h : t ≠ []) :
    unescape t = (readChar t).bind fun p => (unescape p.2).map (p.1 ++ ·) := by
  rw [unescape, if_neg h]
  split
  · rename_i hread
    rw [hread, Option.bind_none]
  · rename_i s rest hread
    rw [hread, Option.bind_some]

theorem unescape_of_readChar {t s rest : List UInt8} (h : readChar t = some (s, rest)) :
    unescape t = (unescape rest).map (s ++ ·) := by
  have hne : t ≠ [] := fun heq => by rw [heq] at h; cases h
  rw [unescape_eq hne, h, Option.bind_some]

theorem unescape_cases {t s : List UInt8} (h : unescape t = some s) :
    (t = [] ∧ s = []) ∨ ∃ c spelling rest b s', t = c :: spelling ++ rest ∧ c ≠ 34 ∧
      (∀ l, readChar (c :: spelling ++ l) = some (b, l)) ∧ unescape rest = some s' ∧ s = b ++ s' := by
  by_cases hnil : t = []
  · rw [hnil, unescape_nil] at h
    exact Or.inl ⟨hnil, (Option.some.inj h).symm⟩
  · rw [unescape_eq hnil] at h
    simp only [Option.bind_eq_some_iff, Option.map_eq_some_iff, Prod.exists] at h
    obtain ⟨b, rest, hread, s', hs', rfl⟩ := h
    obtain ⟨c, spelling, rfl, hc, hreads⟩ := readChar_eq_some hread
    exact Or.inr ⟨c, spelling, rest, b, s', rfl, hc, hreads, hs', rfl⟩

/-- **The closing quote is found in one way.** -/
theorem unescape_split {t u s s' l m : List UInt8} (ht : unescape t = some s) (hu : unescape u = some s')
    (heq : t ++ 34 :: l = u ++ 34 :: m) : t = u ∧ s = s' := by
  induction hlen : t.length using Nat.strong_induction_on generalizing t u s s' with
  | _ n ih =>
    rcases unescape_cases ht with ⟨rfl, rfl⟩ | ⟨c, spelling, rest, b, v, rfl, hc, hreads, hv, rfl⟩ <;>
      rcases unescape_cases hu with ⟨rfl, rfl⟩ | ⟨c', spelling', rest', b', v', rfl, hc', hreads', hv', rfl⟩
    · exact ⟨rfl, rfl⟩
    · exact absurd (List.cons.inj heq).1.symm hc'
    · exact absurd (List.cons.inj heq).1 hc
    · have hsame : some (b, rest ++ 34 :: l) = some (b', rest' ++ 34 :: m) := by
        rw [← hreads, ← hreads', ← List.append_assoc, ← List.append_assoc, heq]
      obtain ⟨hb, hrest⟩ := Prod.mk.inj (Option.some.inj hsame)
      have hshort : rest.length < n := by
        rw [← hlen, List.length_append, List.length_cons]
        omega
      obtain ⟨hrests, hvv⟩ := ih rest.length hshort hv hv' hrest rfl
      rw [hrests] at heq hrest
      have hlm : l = m := (List.cons.inj (List.append_cancel_left hrest)).2
      rw [hlm] at heq
      exact ⟨by rw [hrests]; exact List.append_cancel_right heq, by rw [hb, hvv]⟩

/-! ## Integers -/

/-- The digits of an integer: no leading zero. -/
def Digits (t : List UInt8) : Prop := t ≠ [] ∧ (∀ c ∈ t, Decimal.isDigit c = true) ∧ (t.head? = some 48 → t = [48])

/-- The text of an integer. -/
inductive Numeral : Int → List UInt8 → Prop
  | digits {t : List UInt8} (h : Digits t) : Numeral (Decimal.value t) t
  | minus {t : List UInt8} (h : Digits t) : Numeral (-Decimal.value t) (45 :: t)

/-- What may follow a number that ends here. -/
def Stops (r : List UInt8) : Prop := ∀ c ∈ r.head?, Decimal.isDigit c = false

/-- The digits of a number have no leading zero. -/
theorem digits_digits (n : Nat) : Digits (Decimal.digits n) := by
  refine ⟨Decimal.digits_ne_nil n, Decimal.isDigit_digits, ?_⟩
  induction n using Nat.strong_induction_on with
  | _ n ih =>
    intro h
    rw [Decimal.digits_eq] at h ⊢
    by_cases hn : n < 10
    · rw [if_pos hn] at h ⊢
      exact congrArg (fun c => [c]) (Option.some.inj h)
    · have hhead : (Decimal.digits (n / 10)).head? = some 48 := by
        obtain ⟨c, l, htenth⟩ := List.exists_cons_of_ne_nil (Decimal.digits_ne_nil (n / 10))
        rw [if_neg hn, htenth] at h
        rwa [htenth]
      -- a tenth that is written `0` is none
      have hzero := congrArg Decimal.value (ih (n / 10) (by omega) hhead)
      rw [Decimal.value_digits] at hzero
      have hvalue : Decimal.value [48] = 0 := rfl
      omega

/-- An integer is a text of its own. -/
theorem numeral_natCast (n : Nat) : Numeral n (Decimal.digits n) := by
  have h := Numeral.digits (digits_digits n)
  rwa [Decimal.value_digits] at h

theorem numeral_neg (n : Nat) : Numeral (-n) (45 :: Decimal.digits n) := by
  have h := Numeral.minus (digits_digits n)
  rwa [Decimal.value_digits] at h

/-- What the first byte of an integer is. -/
theorem Numeral.head {n : Int} {t : List UInt8} (h : Numeral n t) :
    ∃ c l, t = c :: l ∧ (c = 45 ∨ Decimal.isDigit c = true) := by
  cases h with
  | digits h =>
    obtain ⟨c, l, rfl⟩ := List.exists_cons_of_ne_nil h.1
    exact ⟨c, l, rfl, Or.inr (h.2.1 c List.mem_cons_self)⟩
  | minus h => exact ⟨45, _, rfl, Or.inl rfl⟩

/-- The end of an integer is found in one way. -/
theorem Numeral.split {m n : Int} {t u l r : List UInt8} (ht : Numeral m t) (hu : Numeral n u) (hl : Stops l)
    (hr : Stops r)
    (heq : t ++ l = u ++ r) : m = n ∧ t = u := by
  have hminus : ∀ {v w k : List UInt8}, Digits v → v ++ w ≠ 45 :: k := by
    intro v w k hv hcons
    obtain ⟨c, l, rfl⟩ := List.exists_cons_of_ne_nil hv.1
    have hdigit := hv.2.1 c List.mem_cons_self
    rw [(List.cons.inj hcons).1] at hdigit
    cases hdigit
  cases ht with
  | digits ht =>
    cases hu with
    | digits hu =>
      obtain ⟨rfl, -⟩ := span_unique ht.2.1 hu.2.1 hl hr heq
      exact ⟨rfl, rfl⟩
    | minus hu => exact (hminus ht heq).elim
  | minus ht =>
    cases hu with
    | digits hu => exact (hminus hu heq.symm).elim
    | minus hu =>
      obtain ⟨rfl, -⟩ := span_unique ht.2.1 hu.2.1 hl hr (List.cons.inj heq).2
      exact ⟨rfl, rfl⟩

/-! ## The grammar -/

/-- What a piece of a text says: the nonterminals of the grammar, each with its meaning. -/
inductive Part
  | value (v : Value)
  | element (v : Value)
  | elements (vs : List Value)
  | member (m : List UInt8 × Value)
  | members (ms : List (List UInt8 × Value))

/-- The texts of a part. An element is a value with white space around it. -/
inductive Spells : Part → List UInt8 → Prop
  | litNull : Spells (.value .null) [110, 117, 108, 108]
  | litTrue : Spells (.value (.bool true)) [116, 114, 117, 101]
  | litFalse : Spells (.value (.bool false)) [102, 97, 108, 115, 101]
  | num {n : Int} {t : List UInt8} (h : Numeral n t) : Spells (.value (.num n)) t
  | str {s t : List UInt8} (h : unescape t = some s) : Spells (.value (.str s)) (34 :: t ++ [34])
  | emptyArr {w : List UInt8} (h : Ws w) : Spells (.value (.arr [])) (91 :: w ++ [93])
  | arr {vs : List Value} {t : List UInt8} (h : Spells (.elements vs) t) : Spells (.value (.arr vs)) (91 :: t ++ [93])
  | emptyObj {w : List UInt8} (h : Ws w) : Spells (.value (.obj [])) (123 :: w ++ [125])
  | obj {ms : List (List UInt8 × Value)} {t : List UInt8} (h : Spells (.members ms) t) :
    Spells (.value (.obj ms)) (123 :: t ++ [125])
  | element {v : Value} {a t b : List UInt8} (ha : Ws a) (h : Spells (.value v) t) (hb : Ws b) :
    Spells (.element v) (a ++ t ++ b)
  | lastElement {v : Value} {t : List UInt8} (h : Spells (.element v) t) : Spells (.elements [v]) t
  | elements {v : Value} {vs : List Value} {t u : List UInt8} (h : Spells (.element v) t)
    (hs : Spells (.elements vs) u) :
    Spells (.elements (v :: vs)) (t ++ 44 :: u)
  | member {s : List UInt8} {v : Value} {a n b t : List UInt8} (ha : Ws a) (hn : unescape n = some s) (hb : Ws b)
    (h : Spells (.element v) t) : Spells (.member (s, v)) (a ++ 34 :: n ++ 34 :: b ++ 58 :: t)
  | lastMember {m : List UInt8 × Value} {t : List UInt8} (h : Spells (.member m) t) : Spells (.members [m]) t
  | members {m : List UInt8 × Value} {ms : List (List UInt8 × Value)} {t u : List UInt8} (h : Spells (.member m) t)
    (hs : Spells (.members ms) u) : Spells (.members (m :: ms)) (t ++ 44 :: u)

/-- A JSON text of a value. -/
def Text (t : List UInt8) (v : Value) : Prop := Spells (.element v) t

/-! ## One value for each text -/

/-- The first byte of a value, where the minus sign stands for all that an integer begins with. -/
def Value.lead : Value → UInt8
  | .null => 110
  | .bool true => 116
  | .bool false => 102
  | .num _ => 45
  | .str _ => 34
  | .arr _ => 91
  | .obj _ => 123

/-- A byte, with the minus sign for a digit. -/
def leadOf (c : UInt8) : UInt8 := if Decimal.isDigit c then 45 else c

theorem leadOf_minus {c : UInt8} (h : c = 45 ∨ Decimal.isDigit c = true) : leadOf c = 45 := by
  unfold leadOf
  rcases h with rfl | h
  · rfl
  · rw [if_pos h]

/-- The first byte of a value tells its shape. -/
theorem Spells.lead {v : Value} {t : List UInt8} (h : Spells (.value v) t) : ∃ c l, t = c :: l ∧ leadOf c = v.lead := by
  cases h with
  | litNull | litTrue | litFalse | str _ | emptyArr _ | arr _ | emptyObj _ | obj _ => exact ⟨_, _, rfl, rfl⟩
  | num h =>
    obtain ⟨c, l, rfl, hc⟩ := h.head
    exact ⟨c, l, rfl, leadOf_minus hc⟩

theorem Spells.lead_eq {v w : Value} {t u l r : List UInt8} (ht : Spells (.value v) t) (hu : Spells (.value w) u)
    (heq : t ++ l = u ++ r) : v.lead = w.lead := by
  obtain ⟨c, m, rfl, hc⟩ := ht.lead
  obtain ⟨d, n, rfl, hd⟩ := hu.lead
  rw [← hc, ← hd, (List.cons.inj heq).1]

theorem Value.lead_mem (v : Value) : v.lead ∈ [110, 116, 102, 45, 34, 91, 123] := by
  cases v with
  | bool b => cases b <;> simp [Value.lead]
  | _ => simp [Value.lead]

/-- No value begins with white space or with a closing bracket. -/
theorem solid_of_leadOf {c : UInt8} {v : Value} (h : leadOf c = v.lead) : isWs c = false ∧ c ≠ 93 ∧ c ≠ 125 := by
  have hmem := v.lead_mem
  rw [← h] at hmem
  refine ⟨?_, ?_, ?_⟩
  · by_contra hws
    simp only [isWs, Bool.not_eq_false, Bool.or_eq_true, beq_iff_eq] at hws
    rcases hws with ((rfl | rfl) | rfl) | rfl <;> exact absurd hmem (by decide)
  · rintro rfl
    exact absurd hmem (by decide)
  · rintro rfl
    exact absurd hmem (by decide)

/-- A text that begins, behind white space, with a byte that closes nothing. -/
def Opens (t : List UInt8) : Prop := ∃ w c l, Ws w ∧ t = w ++ c :: l ∧ isWs c = false ∧ c ≠ 93 ∧ c ≠ 125

theorem Opens.append {t : List UInt8} (h : Opens t) (u : List UInt8) : Opens (t ++ u) := by
  obtain ⟨w, c, l, hw, rfl, hc⟩ := h
  exact ⟨w, c, l ++ u, hw, by rw [List.append_assoc, List.cons_append], hc⟩

theorem Opens.space {a t : List UInt8} (ha : Ws a) (h : Opens t) : Opens (a ++ t) := by
  obtain ⟨w, c, l, hw, rfl, hc⟩ := h
  exact ⟨a ++ w, c, l, ha.append hw, (List.append_assoc _ _ _).symm, hc⟩

theorem Spells.opens_value {v : Value} {t : List UInt8} (h : Spells (.value v) t) : Opens t := by
  obtain ⟨c, l, rfl, hc⟩ := h.lead
  exact ⟨[], c, l, Ws.nil, rfl, solid_of_leadOf hc⟩

/-- Every part opens. -/
theorem Spells.opens {p : Part} {t : List UInt8} (h : Spells p t) : Opens t := by
  induction h with
  | litNull => exact Spells.litNull.opens_value
  | litTrue => exact Spells.litTrue.opens_value
  | litFalse => exact Spells.litFalse.opens_value
  | num h => exact (Spells.num h).opens_value
  | str h => exact (Spells.str h).opens_value
  | emptyArr h => exact (Spells.emptyArr h).opens_value
  | arr h _ => exact (Spells.arr h).opens_value
  | emptyObj h => exact (Spells.emptyObj h).opens_value
  | obj h _ => exact (Spells.obj h).opens_value
  | element ha _ _ ih => exact (Opens.space ha ih).append _
  | lastElement _ ih | lastMember _ ih => exact ih
  | elements _ _ ih _ | members _ _ ih _ => exact ih.append _
  | member ha _ _ _ _ => exact Opens.append (Opens.append ⟨_, 34, _, ha, rfl, rfl, by decide, by decide⟩ _) _

/-- What opens is not the white space before a closing bracket. -/
theorem Opens.ne_close {t w l r : List UInt8} {c : UInt8} (ht : Opens t) (hw : Ws w) (hc : c = 93 ∨ c = 125) :
    t ++ l ≠ w ++ c :: r := by
  intro heq
  obtain ⟨v, d, m, hv, rfl, hd, hsquare, hcurly⟩ := ht
  have hclose : isWs c = false := by rcases hc with rfl | rfl <;> rfl
  have hspan := span_unique hv hw (t := d :: m ++ l) (u := c :: r) (by simpa using hd) (by simpa using hclose)
    (by simpa using heq)
  have hdc : d = c := (List.cons.inj hspan.2).1
  rcases hc with rfl | rfl
  · exact hsquare hdc
  · exact hcurly hdc

/-- Two parts of one nonterminal. -/
def Part.Same : Part → Part → Prop
  | .value _, .value _ | .element _, .element _ | .elements _, .elements _ | .member _, .member _ | .members _,
  .members _ => True
  | _, _ => False

/-- What may follow an element that ends here. -/
def Ends (r : List UInt8) : Prop := ∀ c ∈ r.head?, isWs c = false ∧ Decimal.isDigit c = false

/-- What may follow a part that ends here. -/
def Part.Before : Part → List UInt8 → Prop
  | .value _, r => Stops r
  | .element _, r | .member _, r => Ends r
  | .elements _, r | .members _, r => Ends r ∧ r.head? ≠ some 44

theorem Ends.of_cons {c : UInt8} {r : List UInt8} (hws : isWs c = false) (hdigit : Decimal.isDigit c = false) :
    Ends (c :: r) := by
  intro d hd
  rw [← Option.some.inj hd]
  exact ⟨hws, hdigit⟩

/-- White space ends a number. -/
theorem Ends.stops {w r : List UInt8} (hw : Ws w) (hr : Ends r) : Stops (w ++ r) := by
  intro c hc
  cases w with
  | nil => exact (hr c hc).2
  | cons d w =>
    have hws := hw d List.mem_cons_self
    rw [Option.some.inj hc] at hws
    simp only [isWs, Bool.or_eq_true, beq_iff_eq] at hws
    rcases hws with ((rfl | rfl) | rfl) | rfl <;> rfl

theorem Spells.same_value {v : Value} {q : Part} {t u l r : List UInt8} (ht : Spells (.value v) t) (hu : Spells q u)
    (hsame : (Part.value v).Same q) (heq : t ++ l = u ++ r) : ∃ w, q = .value w ∧ v.lead = w.lead := by
  cases q with
  | value w => exact ⟨w, rfl, ht.lead_eq hu heq⟩
  | _ => exact hsame.elim

theorem Spells.head_solid {v : Value} {t : List UInt8} (h : Spells (.value v) t) (l : List UInt8) :
    ∀ c ∈ (t ++ l).head?, isWs c = false := by
  obtain ⟨c, m, rfl, hc⟩ := h.lead
  intro d hd
  rw [← Option.some.inj hd]
  exact (solid_of_leadOf hc).1

/-- What stands before a closing bracket ends there. -/
theorem close_before {c : UInt8} (r : List UInt8) (hc : c = 93 ∨ c = 125) :
    Ends (c :: r) ∧ (c :: r).head? ≠ some 44 := by
  rcases hc with rfl | rfl
  · exact ⟨Ends.of_cons rfl rfl, by simp⟩
  · exact ⟨Ends.of_cons rfl rfl, by simp⟩

theorem comma_ends {r : List UInt8} : Ends (44 :: r) := Ends.of_cons rfl rfl

/-- A text of a part that no other part of the kind has, whatever may follow. -/
def Sole (p : Part) (t : List UInt8) : Prop :=
  ∀ {q : Part} {u r r' : List UInt8}, Spells q u → p.Same q → p.Before r → q.Before r' →
  t ++ r = u ++ r' → p = q ∧ t = u

namespace Sole

theorem litNull : Sole (.value .null) [110, 117, 108, 108] := by
  intro q u r r' hu hsame _ _ heq
  obtain ⟨w, rfl, hlead⟩ := Spells.litNull.same_value hu hsame heq
  cases hu with
  | litNull => exact ⟨rfl, rfl⟩
  | _ => simp [Value.lead] at hlead

theorem litTrue : Sole (.value (.bool true)) [116, 114, 117, 101] := by
  intro q u r r' hu hsame _ _ heq
  obtain ⟨w, rfl, hlead⟩ := Spells.litTrue.same_value hu hsame heq
  cases hu with
  | litTrue => exact ⟨rfl, rfl⟩
  | _ => simp [Value.lead] at hlead

theorem litFalse : Sole (.value (.bool false)) [102, 97, 108, 115, 101] := by
  intro q u r r' hu hsame _ _ heq
  obtain ⟨w, rfl, hlead⟩ := Spells.litFalse.same_value hu hsame heq
  cases hu with
  | litFalse => exact ⟨rfl, rfl⟩
  | _ => simp [Value.lead] at hlead

theorem num {n : Int} {t : List UInt8} (h : Numeral n t) : Sole (.value (.num n)) t := by
  intro q u r r' hu hsame hr hr' heq
  obtain ⟨w, rfl, hlead⟩ := (Spells.num h).same_value hu hsame heq
  cases hu with
  | num h' =>
    obtain ⟨rfl, rfl⟩ := h.split h' hr hr' heq
    exact ⟨rfl, rfl⟩
  | _ => simp [Value.lead] at hlead

theorem str {s t : List UInt8} (h : unescape t = some s) : Sole (.value (.str s)) (34 :: t ++ [34]) := by
  intro q u r r' hu hsame _ _ heq
  obtain ⟨w, rfl, hlead⟩ := (Spells.str h).same_value hu hsame heq
  cases hu with
  | str h' =>
    obtain ⟨rfl, rfl⟩ := unescape_split h h' (l := r) (m := r') (by simpa using heq)
    exact ⟨rfl, rfl⟩
  | _ => simp [Value.lead] at hlead

theorem emptyArr {w : List UInt8} (h : Ws w) : Sole (.value (.arr [])) (91 :: w ++ [93]) := by
  intro q u r r' hu hsame _ _ heq
  obtain ⟨w, rfl, hlead⟩ := (Spells.emptyArr h).same_value hu hsame heq
  cases hu with
  | emptyArr h' =>
    obtain ⟨rfl,
      -⟩ := span_unique h h' (t := 93 :: r) (u := 93 :: r') (by simp [isWs]) (by simp [isWs]) (by simpa using heq)
    exact ⟨rfl, rfl⟩
  | arr h' => exact (h'.opens.ne_close h (Or.inl rfl) (l := 93 :: r') (r := r) (by simpa using heq.symm)).elim
  | _ => simp [Value.lead] at hlead

theorem arr {vs : List Value} {t : List UInt8} (h : Spells (.elements vs) t) (ih : Sole (.elements vs) t) :
    Sole (.value (.arr vs)) (91 :: t ++ [93]) := by
  intro q u r r' hu hsame _ _ heq
  obtain ⟨w, rfl, hlead⟩ := (Spells.arr h).same_value hu hsame heq
  cases hu with
  | emptyArr h' => exact (h.opens.ne_close h' (Or.inl rfl) (l := 93 :: r) (r := r') (by simpa using heq)).elim
  | arr h' =>
    obtain ⟨hvs, rfl⟩ := ih h' trivial (close_before r (Or.inl rfl)) (close_before r' (Or.inl rfl)) (by simpa using heq)
    obtain rfl := Part.elements.inj hvs
    exact ⟨rfl, rfl⟩
  | _ => simp [Value.lead] at hlead

theorem emptyObj {w : List UInt8} (h : Ws w) : Sole (.value (.obj [])) (123 :: w ++ [125]) := by
  intro q u r r' hu hsame _ _ heq
  obtain ⟨w, rfl, hlead⟩ := (Spells.emptyObj h).same_value hu hsame heq
  cases hu with
  | emptyObj h' =>
    obtain ⟨rfl,
      -⟩ := span_unique h h' (t := 125 :: r) (u := 125 :: r') (by simp [isWs]) (by simp [isWs]) (by simpa using heq)
    exact ⟨rfl, rfl⟩
  | obj h' => exact (h'.opens.ne_close h (Or.inr rfl) (l := 125 :: r') (r := r) (by simpa using heq.symm)).elim
  | _ => simp [Value.lead] at hlead

theorem obj {ms : List (List UInt8 × Value)} {t : List UInt8} (h : Spells (.members ms) t) (ih : Sole (.members ms) t) :
    Sole (.value (.obj ms)) (123 :: t ++ [125]) := by
  intro q u r r' hu hsame _ _ heq
  obtain ⟨w, rfl, hlead⟩ := (Spells.obj h).same_value hu hsame heq
  cases hu with
  | emptyObj h' => exact (h.opens.ne_close h' (Or.inr rfl) (l := 125 :: r) (r := r') (by simpa using heq)).elim
  | obj h' =>
    obtain ⟨hms, rfl⟩ := ih h' trivial (close_before r (Or.inr rfl)) (close_before r' (Or.inr rfl)) (by simpa using heq)
    obtain rfl := Part.members.inj hms
    exact ⟨rfl, rfl⟩
  | _ => simp [Value.lead] at hlead

theorem element {v : Value} {a t b : List UInt8} (ha : Ws a) (h : Spells (.value v) t) (hb : Ws b) (ih : Sole
    (.value v) t) : Sole (.element v) (a ++ t ++ b) := by
  intro q u r r' hu hsame hr hr' heq
  cases hu with
  | element ha' h' hb' =>
    simp only [List.append_assoc] at heq
    obtain ⟨rfl, hvalue⟩ := span_unique ha ha' (h.head_solid _) (h'.head_solid _) heq
    obtain ⟨hv, rfl⟩ := ih h' trivial (hr.stops hb) (hr'.stops hb') hvalue
    obtain rfl := Part.value.inj hv
    have hspace := List.append_cancel_left hvalue
    obtain ⟨rfl, -⟩ := span_unique hb hb' (fun c hc => (hr c hc).1) (fun c hc => (hr' c hc).1) hspace
    exact ⟨rfl, rfl⟩
  | _ => exact hsame.elim

theorem lastElement {v : Value} {t : List UInt8} (ih : Sole (.element v) t) : Sole (.elements [v]) t := by
  intro q u r r' hu hsame hr hr' heq
  cases hu with
  | lastElement h' =>
    obtain ⟨hv, rfl⟩ := ih h' trivial hr.1 hr'.1 heq
    obtain rfl := Part.element.inj hv
    exact ⟨rfl, rfl⟩
  | elements h' hs' =>
    rw [List.append_assoc, List.cons_append] at heq
    obtain ⟨-, rfl⟩ := ih h' trivial hr.1 comma_ends heq
    exact (hr.2 (by rw [List.append_cancel_left heq]; rfl)).elim
  | _ => exact hsame.elim

theorem elements {v : Value} {vs : List Value} {t u : List UInt8} (ih : Sole (.element v) t) (ihs : Sole
    (.elements vs) u) : Sole (.elements (v :: vs)) (t ++ 44 :: u) := by
  intro q w r r' hu hsame hr hr' heq
  rw [List.append_assoc, List.cons_append] at heq
  cases hu with
  | lastElement h' =>
    obtain ⟨-, rfl⟩ := ih h' trivial comma_ends hr'.1 heq
    exact (hr'.2 (by rw [← List.append_cancel_left heq]; rfl)).elim
  | elements h' hs' =>
    rw [List.append_assoc, List.cons_append] at heq
    obtain ⟨hv, rfl⟩ := ih h' trivial comma_ends comma_ends heq
    obtain rfl := Part.element.inj hv
    obtain ⟨hvs, rfl⟩ := ihs hs' trivial hr hr' (List.cons.inj (List.append_cancel_left heq)).2
    obtain rfl := Part.elements.inj hvs
    exact ⟨rfl, rfl⟩
  | _ => exact hsame.elim

theorem member {s : List UInt8} {v : Value} {a n b t : List UInt8} (ha : Ws a) (hn : unescape n = some s)
    (hb : Ws b) (ih : Sole (.element v) t) : Sole (.member (s, v)) (a ++ 34 :: n ++ 34 :: b ++ 58 :: t) := by
  intro q u r r' hu hsame hr hr' heq
  cases hu with
  | member ha' hn' hb' h' =>
    simp only [List.append_assoc, List.cons_append] at heq
    obtain ⟨rfl, hquote⟩ := span_unique ha ha' (by simp [isWs]) (by simp [isWs]) heq
    have hname := (List.cons.inj hquote).2
    obtain ⟨rfl, rfl⟩ := unescape_split hn hn' hname
    have hcolon := (List.cons.inj (List.append_cancel_left hname)).2
    obtain ⟨rfl, hvalue⟩ := span_unique hb hb' (by simp [isWs]) (by simp [isWs]) hcolon
    obtain ⟨hv, rfl⟩ := ih h' trivial hr hr' (List.cons.inj hvalue).2
    obtain rfl := Part.element.inj hv
    exact ⟨rfl, rfl⟩
  | _ => exact hsame.elim

theorem lastMember {m : List UInt8 × Value} {t : List UInt8} (ih : Sole (.member m) t) : Sole (.members [m]) t := by
  intro q u r r' hu hsame hr hr' heq
  cases hu with
  | lastMember h' =>
    obtain ⟨hm, rfl⟩ := ih h' trivial hr.1 hr'.1 heq
    obtain rfl := Part.member.inj hm
    exact ⟨rfl, rfl⟩
  | members h' hs' =>
    rw [List.append_assoc, List.cons_append] at heq
    obtain ⟨-, rfl⟩ := ih h' trivial hr.1 comma_ends heq
    exact (hr.2 (by rw [List.append_cancel_left heq]; rfl)).elim
  | _ => exact hsame.elim

theorem members {m : List UInt8 × Value} {ms : List (List UInt8 × Value)} {t u : List UInt8} (ih : Sole
    (.member m) t) (ihs : Sole (.members ms) u) : Sole (.members (m :: ms)) (t ++ 44 :: u) := by
  intro q w r r' hu hsame hr hr' heq
  rw [List.append_assoc, List.cons_append] at heq
  cases hu with
  | lastMember h' =>
    obtain ⟨-, rfl⟩ := ih h' trivial comma_ends hr'.1 heq
    exact (hr'.2 (by rw [← List.append_cancel_left heq]; rfl)).elim
  | members h' hs' =>
    rw [List.append_assoc, List.cons_append] at heq
    obtain ⟨hm, rfl⟩ := ih h' trivial comma_ends comma_ends heq
    obtain rfl := Part.member.inj hm
    obtain ⟨hms, rfl⟩ := ihs hs' trivial hr hr' (List.cons.inj (List.append_cancel_left heq)).2
    obtain rfl := Part.members.inj hms
    exact ⟨rfl, rfl⟩
  | _ => exact hsame.elim

end Sole

/-- **A text is a text of one part**, whatever may follow it. -/
theorem Spells.unique {p : Part} {t : List UInt8} (h : Spells p t) : Sole p t := by
  induction h with
  | litNull => exact Sole.litNull
  | litTrue => exact Sole.litTrue
  | litFalse => exact Sole.litFalse
  | num h => exact Sole.num h
  | str h => exact Sole.str h
  | emptyArr h => exact Sole.emptyArr h
  | arr h ih => exact Sole.arr h ih
  | emptyObj h => exact Sole.emptyObj h
  | obj h ih => exact Sole.obj h ih
  | element ha h hb ih => exact Sole.element ha h hb ih
  | lastElement _ ih => exact Sole.lastElement ih
  | elements _ _ ih ihs => exact Sole.elements ih ihs
  | member ha hn hb _ ih => exact Sole.member ha hn hb ih
  | lastMember _ ih => exact Sole.lastMember ih
  | members _ _ ih ihs => exact Sole.members ih ihs

/-- **A text is a JSON text of one value.** -/
theorem Text.unique {t : List UInt8} {v w : Value} (hv : Text t v) (hw : Text t w) : v = w := by
  have hend : Ends [] := fun c hc => by cases hc
  exact Part.element.inj (Spells.unique hv hw trivial hend hend rfl).1

/-! ## Building texts -/

/-- White space behind a part that may end with white space belongs to it. -/
theorem Spells.space {p : Part} {t w : List UInt8} (h : Spells p t) (hw : Ws w) (hp : ∀ v, p ≠ .value v) :
    Spells p (t ++ w) := by
  induction h with
  | element ha h hb _ =>
    rw [List.append_assoc]
    exact Spells.element ha h (hb.append hw)
  | lastElement _ ih => exact Spells.lastElement (ih nofun)
  | elements h _ _ ih =>
    rw [List.append_assoc, List.cons_append]
    exact Spells.elements h (ih nofun)
  | member ha hn hb _ ih =>
    have h := Spells.member ha hn hb (ih nofun)
    simpa using h
  | lastMember _ ih => exact Spells.lastMember (ih nofun)
  | members h _ _ ih =>
    rw [List.append_assoc, List.cons_append]
    exact Spells.members h (ih nofun)
  | _ => exact absurd rfl (hp _)

/-- White space before an element belongs to it. -/
theorem Spells.indented {v : Value} {w t : List UInt8} (hw : Ws w) (h : Spells (.element v) t) :
    Spells (.element v) (w ++ t) := by
  cases h with
  | element ha h hb =>
    rw [← List.append_assoc, ← List.append_assoc]
    exact Spells.element (hw.append ha) h hb

/-- A value is an element, with white space before it. -/
theorem Spells.behind {v : Value} {w t : List UInt8} (hw : Ws w) (h : Spells (.value v) t) :
    Spells (.element v) (w ++ t) := by
  have helement := Spells.element hw h Ws.nil
  rwa [List.append_nil] at helement

end FlowObs.Json
