import FlowObs.Engine.Export
import FlowObs.Lib.Json

/-!
# The JSON writer

`json::escape` and `json::Writer` of `export_json.cpp`. A properly nested sequence of calls says a value tree
(`Nested`), and what the writer has put out at its end is a JSON text of that tree and of no other, in the compact
form and in the pretty one (`written_text`). Of the state of the writer only `need_comma_` decides this: depth and
stack put out white space.
-/

namespace FlowObs.Json

/-! ## Escaping -/

/-- A digit of `%x`. -/
def hexDigit (n : Nat) : UInt8 := if n < 10 then UInt8.ofNat (48 + n) else UInt8.ofNat (87 + n)

/-- What `escape` appends for a byte: the two-letter escapes, `\u%04x` for the other control characters, else the
byte. -/
def escapeByte (raw : UInt8) : Str :=
  if raw = 34 then [92, 34]
  else if raw = 92 then [92, 92]
  else if raw = 8 then [92, 98]
  else if raw = 12 then [92, 102]
  else if raw = 10 then [92, 110]
  else if raw = 13 then [92, 114]
  else if raw = 9 then [92, 116]
  else if raw < 0x20 then [92, 117, 48, 48, hexDigit (raw.toNat / 16), hexDigit (raw.toNat % 16)]
  else [raw]

/-- `escape`. -/
def escape (input : Str) : Str := input.flatMap escapeByte

/-! ## The writer -/

/-- `Writer`. The last entry of `stack_` stands first. -/
structure Writer where
  out : Str := []
  pretty : Bool := true
  depth : Int32 := 0
  needComma : Bool := false
  stack : List Bool := []
deriving DecidableEq, Repr

namespace Writer

/-- `out_.append(text)`. -/
def append (w : Writer) (text : Str) : Writer := { w with out := w.out ++ text }

/-- `Writer::indent`. -/
def indent (w : Writer) : Writer :=
  if !w.pretty then w else w.append ([10] ++ (List.replicate w.depth.toInt.toNat [32, 32]).flatten)

/-- `Writer::separate`. -/
def separate (w : Writer) : Writer :=
  let w := if w.needComma then w.append [44] else w
  let w := if w.depth > 0 then w.indent else w
  { w with needComma := true }

/-- `begin_object` and `begin_array` with their bracket. -/
def beginWith (bracket : UInt8) (w : Writer) : Writer :=
  let w := w.separate.append [bracket]
  { w with depth := w.depth + 1, needComma := false, stack := false :: w.stack }

/-- `end_object` and `end_array` with their bracket. -/
def endWith (bracket : UInt8) (w : Writer) : Writer :=
  let hadContent := w.stack.head?.getD false
  let w := { w with stack := w.stack.tail, depth := w.depth - 1 }
  let w := if hadContent then w.indent else w
  { w.append [bracket] with needComma := true }

/-- `Writer::begin_object`. -/
def beginObject (w : Writer) : Writer := w.beginWith 123
/-- `Writer::end_object`. -/
def endObject (w : Writer) : Writer := w.endWith 125
/-- `Writer::begin_array`. -/
def beginArray (w : Writer) : Writer := w.beginWith 91
/-- `Writer::end_array`. -/
def endArray (w : Writer) : Writer := w.endWith 93

/-- `Writer::key`. -/
def key (w : Writer) (name : Str) : Writer :=
  let w := w.separate.append ([34] ++ escape name ++ [34, 58])
  let w := if w.pretty then w.append [32] else w
  { w with needComma := false, stack := match w.stack with | [] => [] | _ :: rest => true :: rest }

/-- `Writer::value_string`. -/
def valueString (w : Writer) (value : Str) : Writer := w.separate.append ([34] ++ escape value ++ [34])
/-- `Writer::value_uint`. -/
def valueUint (w : Writer) (value : UInt64) : Writer := w.separate.append (decimal value.toNat)
/-- `Writer::value_int`. -/
def valueInt (w : Writer) (value : Int64) : Writer := w.separate.append (decimalInt value.toInt)
/-- `Writer::value_bool`. -/
def valueBool (w : Writer) (value : Bool) : Writer := w.separate.append (if value then str "true" else str "false")
/-- `Writer::value_null`. -/
def valueNull (w : Writer) : Writer := w.separate.append (str "null")

/-- The decimal places of `value_ratio`. -/
def places (denominator : UInt64) : Nat → UInt64 → Str
  | 0, _ => []
  | n + 1, remainder =>
    let scaled := checkedMul remainder 10
    if scaled.overflow then 48 :: places denominator n 0
    else (48 + scaled.value / denominator).toUInt8 :: places denominator n (scaled.value % denominator)

/-- The text of `value_ratio`. -/
def ratioText (numerator denominator : UInt64) (scale : UInt32) : Str :=
  decimal (numerator / denominator).toNat ++ [46] ++ places denominator scale.toNat (numerator % denominator)

/-- `Writer::value_ratio`. -/
def valueRatio (w : Writer) (numerator denominator : UInt64) (scale : UInt32) : Writer :=
  if denominator = 0 then w.valueNull else w.valueString (ratioText numerator denominator scale)

end Writer

/-! ## Calls -/

/-- What the calls `value_string` to `value_ratio` and the overloads of `field` are given. -/
inductive Scalar
  | string (value : Str)
  | uint (value : UInt64)
  | int (value : Int64)
  | bool (value : Bool)
  | null
  | ratio (numerator denominator : UInt64) (scale : UInt32)
deriving DecidableEq, Repr

/-- The calls of a writer. `field` is each of the overloads of that name, `field_null` and `field_ratio`. -/
inductive Call
  | beginObject
  | endObject
  | beginArray
  | endArray
  | key (name : Str)
  | value (s : Scalar)
  | field (name : Str) (s : Scalar)
deriving DecidableEq, Repr

namespace Writer

/-- The call that writes a value. -/
def value (w : Writer) : Scalar → Writer
  | .string value => w.valueString value
  | .uint value => w.valueUint value
  | .int value => w.valueInt value
  | .bool value => w.valueBool value
  | .null => w.valueNull
  | .ratio numerator denominator scale => w.valueRatio numerator denominator scale

/-- `Writer::field`, `field_null` and `field_ratio`: a key and its value. -/
def field (w : Writer) (name : Str) (s : Scalar) : Writer := (w.key name).value s

/-- One call. -/
def call (w : Writer) : Call → Writer
  | .beginObject => w.beginObject
  | .endObject => w.endObject
  | .beginArray => w.beginArray
  | .endArray => w.endArray
  | .key name => w.key name
  | .value s => w.value s
  | .field name s => w.field name s

/-- A sequence of calls. -/
def run (w : Writer) (calls : List Call) : Writer := calls.foldl call w

end Writer

/-- `str()` of a new writer after a sequence of calls. -/
def written (pretty : Bool) (calls : List Call) : Str := (({ pretty := pretty } : Writer).run calls).out

/-! ## Properly nested sequences -/

/-- What a scalar says. -/
def Scalar.tree : Scalar → Value
  | .string value => .str value
  | .uint value => .num value.toNat
  | .int value => .num value.toInt
  | .bool value => .bool value
  | .null => .null
  | .ratio numerator denominator scale =>
    if denominator = 0 then .null else .str (Writer.ratioText numerator denominator scale)

/-- **The properly nested sequences of calls**, with what they say: each value a scalar or the calls between a `begin`
and its `end`, each member of an object a key and one value. -/
inductive Nested : Part → List Call → Prop
  | scalar (s : Scalar) : Nested (.element s.tree) [.value s]
  | emptyArray : Nested (.element (.arr [])) [.beginArray, .endArray]
  | array {vs : List Value} {calls : List Call} (h : Nested (.elements vs) calls) :
    Nested (.element (.arr vs)) (.beginArray :: calls ++ [.endArray])
  | emptyObject : Nested (.element (.obj [])) [.beginObject, .endObject]
  | object {ms : List (Str × Value)} {calls : List Call} (h : Nested (.members ms) calls) :
    Nested (.element (.obj ms)) (.beginObject :: calls ++ [.endObject])
  | lastElement {v : Value} {calls : List Call} (h : Nested (.element v) calls) : Nested (.elements [v]) calls
  | elements {v : Value} {vs : List Value} {calls rest : List Call} (h : Nested (.element v) calls)
    (hs : Nested (.elements vs) rest) : Nested (.elements (v :: vs)) (calls ++ rest)
  | member (name : Str) {v : Value} {calls : List Call} (h : Nested (.element v) calls) :
    Nested (.member (name, v)) (.key name :: calls)
  | field (name : Str) (s : Scalar) : Nested (.member (name, s.tree)) [.field name s]
  | lastMember {m : Str × Value} {calls : List Call} (h : Nested (.member m) calls) : Nested (.members [m]) calls
  | members {m : Str × Value} {ms : List (Str × Value)} {calls rest : List Call} (h : Nested (.member m) calls)
    (hs : Nested (.members ms) rest) : Nested (.members (m :: ms)) (calls ++ rest)

/-! ## What is escaped is read back -/

theorem hexValue_hexDigit {n : Nat} (h : n < 16) : hexValue (hexDigit n) = some n := by
  interval_cases n <;> rfl

/-- The four digits of a control character. -/
theorem readUnicode_control {raw : UInt8} (h : raw < 0x20) (l : Str) :
    readUnicode (48 :: 48 :: hexDigit (raw.toNat / 16) :: hexDigit (raw.toNat % 16) :: l) = some ([raw], l) := by
  have hraw : raw.toNat < 32 := h
  have hzero : hexValue 48 = some 0 := rfl
  have hvalue : ((0 * 16 + 0) * 16 + raw.toNat / 16) * 16 + raw.toNat % 16 = raw.toNat := by omega
  have hbytes : utf8 raw.toNat = [raw] := by rw [utf8, if_pos (by omega), UInt8.ofNat_toNat]
  simp only [readUnicode, readHex4, hzero, hexValue_hexDigit (show raw.toNat / 16 < 16 by omega),
    hexValue_hexDigit (show raw.toNat % 16 < 16 by omega), Option.bind_eq_bind, Option.bind_some, hvalue]
  rw [if_pos (Or.inl (by omega)), hbytes]

/-- An escaped byte is read as that byte. -/
theorem readChar_escapeByte (raw : UInt8) (l : Str) : readChar (escapeByte raw ++ l) = some ([raw], l) := by
  unfold escapeByte
  split_ifs with hquote hback hb hf hn hr ht hcontrol
  · subst hquote; rfl
  · subst hback; rfl
  · subst hb; rfl
  · subst hf; rfl
  · subst hn; rfl
  · subst hr; rfl
  · subst ht; rfl
  · exact readUnicode_control hcontrol l
  · simp [readChar, hquote, hback, hcontrol]

/-- **An escaped string is unescaped to itself.** -/
theorem unescape_escape (s : Str) : unescape (escape s) = some s := by
  induction s with
  | nil => exact unescape_nil
  | cons c s ih =>
    have hcons : escape (c :: s) = escapeByte c ++ escape s := List.flatMap_cons
    rw [hcons, unescape_of_readChar (readChar_escapeByte c _), ih]
    rfl

/-! ## One call -/

namespace Writer

/-- The comma that the next call puts out. -/
def comma (w : Writer) : Str := if w.needComma then [44] else []

@[simp] theorem append_out (w : Writer) (text : Str) : (w.append text).out = w.out ++ text := rfl
@[simp] theorem append_needComma (w : Writer) (text : Str) : (w.append text).needComma = w.needComma := rfl

/-- The indentation is white space. -/
theorem ws_indentation (n : Nat) : Ws ([10] ++ (List.replicate n [32, 32]).flatten) := by
  intro c hc
  simp only [List.mem_append, List.mem_singleton, List.mem_flatten, List.mem_replicate] at hc
  rcases hc with rfl | ⟨l, ⟨-, rfl⟩, hc⟩
  · rfl
  · simp only [List.mem_cons, List.not_mem_nil, or_false, or_self] at hc
    rw [hc]
    rfl

/-- `indent` puts out white space. -/
theorem indent_spec (w : Writer) : ∃ s, Ws s ∧ w.indent.out = w.out ++ s := by
  unfold indent
  split
  · exact ⟨[], Ws.nil, (List.append_nil _).symm⟩
  · exact ⟨_, ws_indentation _, rfl⟩

theorem indent_if_spec (b : Prop) [Decidable b] (w : Writer) :
    ∃ s, Ws s ∧ (if b then w.indent else w).out = w.out ++ s := by
  split
  · exact w.indent_spec
  · exact ⟨[], Ws.nil, (List.append_nil _).symm⟩

/-- `separate` puts out the comma that is due and white space. -/
theorem separate_spec (w : Writer) :
    ∃ s, Ws s ∧ w.separate.out = w.out ++ w.comma ++ s ∧ w.separate.needComma = true := by
  have hcomma : (if w.needComma then w.append [44] else w).out = w.out ++ w.comma := by
    unfold comma
    split
    · rfl
    · rw [List.append_nil]
  obtain ⟨s, hs, hout⟩ := indent_if_spec ((if w.needComma then w.append [44] else w).depth > 0)
    (if w.needComma then w.append [44] else w)
  exact ⟨s, hs, by rw [← hcomma]; exact hout, rfl⟩

/-- A part has been written: its text stands behind the comma that was due, and the next call needs one. -/
def Wrote (p : Part) (w w' : Writer) : Prop := ∃ t, Spells p t ∧ w'.out = w.out ++ w.comma ++ t ∧ w'.needComma = true

/-- What is appended behind `separate`. -/
theorem wrote_append {w : Writer} {v : Value} {t : Str} (h : Spells (.value v) t) :
    Wrote (.element v) w (w.separate.append t) := by
  obtain ⟨s, hs, hout, hneed⟩ := w.separate_spec
  refine ⟨s ++ t, h.behind hs, ?_, hneed⟩
  rw [append_out, hout, List.append_assoc _ s t]

theorem wrote_string (w : Writer) (s : Str) : Wrote (.element (.str s)) w (w.valueString s) :=
  wrote_append (Spells.str (unescape_escape s))

theorem wrote_uint (w : Writer) (n : UInt64) : Wrote (.element (.num n.toNat)) w (w.valueUint n) :=
  wrote_append (Spells.num (numeral_natCast n.toNat))

theorem literals : str "null" = [110, 117, 108, 108] ∧ str "true" = [116, 114, 117, 101] ∧
    str "false" = [102, 97, 108, 115, 101] ∧ str "-" = [45] := by
  with_unfolding_all decide

theorem numeral_decimalInt (n : Int) : Numeral n (decimalInt n) := by
  unfold decimalInt
  split
  · have habs : -(n.natAbs : Int) = n := by omega
    have h := numeral_neg n.natAbs
    rw [habs] at h
    rw [literals.2.2.2]
    exact h
  · have habs : (n.natAbs : Int) = n := by omega
    have h := numeral_natCast n.natAbs
    rw [habs] at h
    exact h

theorem wrote_null (w : Writer) : Wrote (.element .null) w w.valueNull := by
  refine wrote_append ?_
  rw [literals.1]
  exact Spells.litNull

theorem wrote_bool (w : Writer) (b : Bool) : Wrote (.element (.bool b)) w (w.valueBool b) := by
  refine wrote_append ?_
  cases b with
  | true =>
    rw [if_pos rfl, literals.2.1]
    exact Spells.litTrue
  | false =>
    rw [if_neg Bool.false_ne_true, literals.2.2.1]
    exact Spells.litFalse

/-- **A scalar is written as what it says.** -/
theorem wrote_value (w : Writer) (s : Scalar) : Wrote (.element s.tree) w (w.value s) := by
  cases s with
  | string s => exact w.wrote_string s
  | uint n => exact w.wrote_uint n
  | int n => exact wrote_append (Spells.num (numeral_decimalInt n.toInt))
  | bool b => exact w.wrote_bool b
  | null => exact w.wrote_null
  | ratio numerator denominator scale =>
    simp only [Scalar.tree, value, valueRatio]
    split
    · exact w.wrote_null
    · exact w.wrote_string _

/-- `begin_object` and `begin_array`: the bracket stands behind the comma, and no comma follows it. -/
theorem begin_spec (bracket : UInt8) (w : Writer) :
    ∃ s, Ws s ∧ (w.beginWith bracket).out = w.out ++ w.comma ++ s ++ [bracket] ∧ (w.beginWith bracket).comma = [] := by
  obtain ⟨s, hs, hout, -⟩ := w.separate_spec
  refine ⟨s, hs, ?_, rfl⟩
  rw [← hout]
  rfl

/-- `end_object` and `end_array`. -/
theorem end_spec (bracket : UInt8) (w : Writer) :
    ∃ s, Ws s ∧ (w.endWith bracket).out = w.out ++ s ++ [bracket] ∧ (w.endWith bracket).needComma = true := by
  obtain ⟨s, hs, hout⟩ := indent_if_spec
      (w.stack.head?.getD false = true) { w with stack := w.stack.tail, depth := w.depth - 1 }
  exact ⟨s, hs, congrArg (· ++ [bracket]) hout, rfl⟩

/-- `key`: the name stands behind the comma, and its value needs none. -/
theorem key_spec (w : Writer) (name : Str) :
    ∃ s s', Ws s ∧ Ws s' ∧ (w.key name).out = w.out ++ w.comma ++ (s ++ 34 :: escape name ++ 34 :: [] ++ 58 :: s') ∧
      (w.key name).comma = [] := by
  obtain ⟨s, hs, hout, -⟩ := w.separate_spec
  have hpad : ∀ v : Writer, ∃ s, Ws s ∧ (if v.pretty then v.append [32] else v).out = v.out ++ s := by
    intro v
    split
    · exact ⟨[32], by simp [Ws, isWs], rfl⟩
    · exact ⟨[], Ws.nil, (List.append_nil _).symm⟩
  obtain ⟨s', hs', hpadded⟩ := hpad (w.separate.append ([34] ++ escape name ++ [34, 58]))
  refine ⟨s, s', hs, hs', hpadded.trans ?_, rfl⟩
  simp [hout]

/-! ## A sequence of calls -/

@[simp] theorem run_nil (w : Writer) : w.run [] = w := rfl
@[simp] theorem run_cons (w : Writer) (c : Call) (calls : List Call) : w.run (c :: calls) = (w.call c).run calls := rfl

theorem run_append (w : Writer) (calls rest : List Call) :
    w.run (calls ++ rest) = (w.run calls).run rest := List.foldl_append

/-- An array or an object without content. -/
theorem wrote_empty {v : Value} {l r : UInt8} (h : ∀ {s : Str}, Ws s → Spells (.value v) (l :: s ++ [r])) (w : Writer) :
    Wrote (.element v) w ((w.beginWith l).endWith r) := by
  obtain ⟨s, hs, hopen, hcomma⟩ := begin_spec l w
  obtain ⟨s', hs', hclose, hneed⟩ := end_spec r (w.beginWith l)
  exact ⟨s ++ (l :: s' ++ [r]), (h hs').behind hs, by simp [hclose, hopen], hneed⟩

/-- Content between brackets: the white space before the closing bracket belongs to the content. -/
theorem wrote_between {v : Value} {p : Part} {l r : UInt8}
    (h : ∀ {t : Str}, Spells p t → Spells (.value v) (l :: t ++ [r]))
    (hp : ∀ v, p ≠ .value v) {w w' : Writer} (hw : Wrote p (w.beginWith l) w') : Wrote (.element v) w
      (w'.endWith r) := by
  obtain ⟨s, hs, hopen, hcomma⟩ := begin_spec l w
  obtain ⟨t, ht, hout, -⟩ := hw
  obtain ⟨s', hs', hclose, hneed⟩ := end_spec r w'
  refine ⟨s ++ (l :: (t ++ s') ++ [r]), (h (ht.space hs' hp)).behind hs, ?_, hneed⟩
  rw [hclose, hout, hopen, hcomma]
  simp

/-- One part after another: the second one brings the comma. -/
theorem wrote_more {p q : Part} {w w' w'' : Writer}
    (h : ∀ {t u : Str}, Spells p t → Spells q u → Spells r (t ++ 44 :: u))
    (hp : Wrote p w w') (hq : Wrote q w' w'') : Wrote r w w'' := by
  obtain ⟨t, ht, hout, hneed⟩ := hp
  obtain ⟨u, hu, hout', hneed'⟩ := hq
  refine ⟨t ++ 44 :: u, h ht hu, ?_, hneed'⟩
  rw [hout', hout, comma, comma, hneed]
  simp

/-- A key and what follows it. -/
theorem wrote_member (name : Str) {v : Value} {w w' : Writer} (h : Wrote (.element v) (w.key name) w') :
    Wrote (.member (name, v)) w w' := by
  obtain ⟨s, s', hs, hs', hkey, hcomma⟩ := w.key_spec name
  obtain ⟨t, ht, hout, hneed⟩ := h
  have hmember := Spells.member hs (unescape_escape name) Ws.nil (ht.indented hs')
  refine ⟨s ++ 34 :: escape name ++ 34 :: [] ++ 58 :: (s' ++ t), hmember, ?_, hneed⟩
  rw [hout, hkey, hcomma]
  simp

/-- **What a properly nested sequence of calls writes**: a text of the tree that it says, from every state of the
writer. -/
theorem run_nested {p : Part} {calls : List Call} (h : Nested p calls) : ∀ w : Writer, Wrote p w (w.run calls) := by
  induction h with
  | scalar s => exact fun w => w.wrote_value s
  | emptyArray => exact wrote_empty Spells.emptyArr
  | array _ ih =>
    intro w
    rw [List.cons_append, run_cons, run_append]
    exact wrote_between Spells.arr nofun (ih _)
  | emptyObject => exact wrote_empty Spells.emptyObj
  | object _ ih =>
    intro w
    rw [List.cons_append, run_cons, run_append]
    exact wrote_between Spells.obj nofun (ih _)
  | lastElement _ ih =>
    intro w
    obtain ⟨t, ht, hout⟩ := ih w
    exact ⟨t, Spells.lastElement ht, hout⟩
  | elements _ _ ih ihs =>
    intro w
    rw [run_append]
    exact wrote_more Spells.elements (ih w) (ihs _)
  | member name _ ih => exact fun w => wrote_member name (ih _)
  | field name s => exact fun w => wrote_member name (wrote_value _ s)
  | lastMember _ ih =>
    intro w
    obtain ⟨t, ht, hout⟩ := ih w
    exact ⟨t, Spells.lastMember ht, hout⟩
  | members _ _ ih ihs =>
    intro w
    rw [run_append]
    exact wrote_more Spells.members (ih w) (ihs _)

end Writer

/-- The output of a sequence of calls is a text of what the sequence says. -/
theorem text_written {v : Value} {calls : List Call} (h : Nested (.element v) calls) (pretty : Bool) :
    Text (written pretty calls) v := by
  obtain ⟨t, ht, hout, -⟩ := Writer.run_nested h { pretty := pretty }
  rw [written, hout]
  exact ht

/-- **The compact output and the pretty one are JSON texts of the tree which the calls say, and of no other; and an
escaped string is unescaped to itself.** -/
theorem written_text {v : Value} {calls : List Call} (h : Nested (.element v) calls) :
    Text (written false calls) v ∧ Text (written true calls) v ∧ (∀ pretty w, Text (written pretty calls) w → w = v) ∧
      ∀ s, unescape (escape s) = some s :=
  ⟨text_written h false, text_written h true, fun pretty _ hw => Text.unique hw (text_written h pretty),
    unescape_escape⟩

/-- An array in an object. -/
theorem written_text_sample :
    Text (written true [.beginObject, .field (str "a") (.uint 7), .key (str "d"), .beginArray, .value .null,
      .endArray, .endObject])
      (.obj [(str "a", .num 7), (str "d", .arr [.null])]) :=
  (written_text (Nested.object (Nested.members (Nested.field (str "a") (.uint 7))
    (Nested.lastMember (Nested.member (str "d") (Nested.array (Nested.lastElement (Nested.scalar .null)))))))).2.1

example : written true [.beginArray, .value (.uint 7), .beginObject, .endObject, .endArray] =
    [91, 10, 32, 32, 55, 44, 10, 32, 32, 123, 125, 93] := by decide

/-! ## The calls of the export -/

/-- The call of the writer. -/
def ofJsonCall : JsonCall → Call
  | .beginObject => .beginObject
  | .endObject => .endObject
  | .key name => .key name
  | .uint value => .value (.uint value)
  | .bool value => .value (.bool value)
  | .null => .value .null

end FlowObs.Json
