import FlowObs.Text.Line

/-!
# Lines that are put together from fields

A text of fields, each behind a space and with a value that is plain or quoted, is read as exactly these fields
(`Spells`), and a line that begins with a word and goes on with fields is the record of that word
(`parseLine_spelled`). Neither runs the tokenizer: the spellings are laid out as tokens.
-/

namespace FlowObs.Fo1

open Decimal

/-! ## Written values -/

/-- A byte of a value that needs no quotes. -/
def isPlain (c : UInt8) : Bool := !isBlank c && c != 34 && c != 13 && c != 10

/-- A text that is read as a value. -/
inductive Written : Str → Str → Prop
  | plain {value : Str} : (∀ c ∈ value, isPlain c = true) → Written value value
  | quoted (value : Str) : Written (appendQuoted value) value

theorem isPlain_digit {c : UInt8} (h : isDigit c = true) : isPlain c = true := by
  have hrange := isDigit_iff.1 h
  have h32 : (32 : UInt8).toNat = 32 := rfl
  have h9 : (9 : UInt8).toNat = 9 := rfl
  have h34 : (34 : UInt8).toNat = 34 := rfl
  have h13 : (13 : UInt8).toNat = 13 := rfl
  have h10 : (10 : UInt8).toNat = 10 := rfl
  simp only [isPlain, isBlank, Bool.and_eq_true, Bool.not_eq_true', Bool.or_eq_false_iff, beq_eq_false_iff_ne,
    bne_iff_ne, ne_eq, ← UInt8.toNat_inj, h32, h9, h34, h13, h10]
  omega

theorem isPlain_decimal {n : Nat} :
    ∀ c ∈ decimal n, isPlain c = true := fun c hc => isPlain_digit (isDigit_decimal c hc)

theorem isPlain_decimalInt {n : Int} : ∀ c ∈ decimalInt n, isPlain c = true := by
  have hminus : ∀ c ∈ str "-", isPlain c = true := List.all_eq_true.1 (by with_unfolding_all decide)
  intro c hc
  unfold decimalInt at hc
  split at hc
  · rcases List.mem_append.1 hc with hc | hc
    · exact hminus c hc
    · exact isPlain_decimal c hc
  · exact isPlain_decimal c hc

theorem isPlain_optionalText (n : Option UInt64) :
    ∀ c ∈ optionalText (fun v => decimal v.toNat) n, isPlain c = true := by
  cases n with
  | none => exact List.all_eq_true.1 (by with_unfolding_all decide)
  | some v => exact isPlain_decimal

theorem isPlain_hops (hops : List UInt64) : ∀ c ∈ formatHops hops, isPlain c = true := by
  have hcomma : ∀ c ∈ str ",", isPlain c = true := List.all_eq_true.1 (by with_unfolding_all decide)
  unfold formatHops
  induction hops with
  | nil => simp
  | cons u hops ih =>
    cases hops with
    | nil =>
      intro c hc
      exact isPlain_decimal c (by simpa using hc)
    | cons v hops =>
      intro c hc
      rw [List.map_cons, List.map_cons, List.intersperse_cons_cons, List.flatten_cons, List.flatten_cons] at hc
      rcases List.mem_append.1 hc with hc | hc
      · exact isPlain_decimal c hc
      · rcases List.mem_append.1 hc with hc | hc
        · exact hcomma c hc
        · exact ih c hc

theorem isPlain_hex16 (id : UInt64) : ∀ c ∈ hex16 id, isPlain c = true := by
  have hdigit : ∀ a < 16, isPlain (kHexDigits (UInt64.ofNat a)) = true := by decide
  intro c hc
  obtain ⟨shift, -, rfl⟩ := List.mem_map.1 hc
  have hlt : ((id >>> shift) &&& 0xF).toNat < 16 := by
    rw [UInt64.toNat_and]
    exact Nat.lt_of_le_of_lt Nat.and_le_right (by decide)
  have hplain := hdigit _ hlt
  rwa [UInt64.ofNat_toNat] at hplain

/-- The names of the enumerations, the flags and the lists of capabilities are plain. -/
theorem isPlain_names : (∀ k : ObservationKind, k.name.all isPlain = true) ∧
    (∀ d : Direction, d.name.all isPlain = true) ∧
    (∀ e : Evidence, e.name.all isPlain = true) ∧ (∀ b : Bool, (str (if b then "1" else "0")).all isPlain = true) ∧
    ∀ a b d e f g : Bool, (formatCapabilities ⟨a, b, d, e, f, g⟩).all isPlain = true := by
  refine ⟨fun k => ?_, fun d => ?_, fun e => ?_, fun b => ?_, ?_⟩
  · cases k <;> with_unfolding_all decide
  · cases d <;> with_unfolding_all decide
  · cases e <;> with_unfolding_all decide
  · cases b <;> with_unfolding_all decide
  · with_unfolding_all decide

theorem isPlain_kind (kind : ObservationKind) :
    ∀ c ∈ kind.name, isPlain c = true := List.all_eq_true.1 (isPlain_names.1 kind)
theorem isPlain_direction (direction : Direction) : ∀ c ∈ direction.name, isPlain c = true :=
  List.all_eq_true.1 (isPlain_names.2.1 direction)
theorem isPlain_evidence (evidence : Evidence) : ∀ c ∈ evidence.name, isPlain c = true :=
  List.all_eq_true.1 (isPlain_names.2.2.1 evidence)
theorem isPlain_flag (b : Bool) : ∀ c ∈ str (if b then "1" else "0"), isPlain c = true :=
  List.all_eq_true.1 (isPlain_names.2.2.2.1 b)
theorem isPlain_capabilities (c : SourceCapabilities) : ∀ b ∈ formatCapabilities c, isPlain b = true :=
  List.all_eq_true.1 (isPlain_names.2.2.2.2 c.assertsCompletion c.assertsReset c.assertsPath c.assertsQueue
    c.assertsCounters
    c.authoritativeIdentity)

/-- What an identity is read back as: its key, or the raw form as a key. -/
def idText (key : Str) (id : UInt64) : Str := if key ≠ [] then key else [64] ++ hex16 id

theorem Written.id (key : Str) (id : UInt64) : Written (appendIdOrKey key id) (idText key id) := by
  unfold appendIdOrKey idText
  by_cases h : key ≠ []
  · rw [if_pos h, if_pos h]
    exact .quoted key
  · rw [if_neg h, if_neg h]
    refine .plain fun c hc => ?_
    rcases List.mem_append.1 hc with hc | hc
    · rw [List.mem_singleton.1 hc]
      rfl
    · exact isPlain_hex16 id c hc

/-! ## Fields as tokens -/

/-- A text behind a token that is read as fields with values. -/
def Spells (size : Nat) (text : Str) (fields : List (Str × Str)) : Prop :=
  Ends text ∧ ∃ ts, Laid size text ts ∧ (∀ t ∈ ts, t.hasValue = true) ∧ ts.map (fun t => (t.key, t.value)) = fields

theorem Spells.nil (size : Nat) : Spells size [] [] := ⟨Ends.nil, [], .nil (by simp), by simp, rfl⟩

/-- **A field in front of fields.** -/
theorem Spells.cons {size : Nat} {name written value rest : Str} {fields : List (Str × Str)}
    (hname : ∀ c ∈ name, isKeyByte c = true) (hvalue : Written written value) (h : Spells size rest fields) :
    Spells size (field name written ++ rest) ((name, value) :: fields) := by
  obtain ⟨hends, ts, hlaid, hall, hmap⟩ := h
  have hgap : ∀ c ∈ ([32] : Str), isBlank c = true := by simp [isBlank]
  have hblank : Ends (field name written ++ rest) := Ends.blank (c := 32) (by decide)
  refine ⟨hblank, ?_⟩
  -- the spelling is the same in both cases; only the kind of the token differs
  have hcons : ∀ t : Token, t.Formed → t.hasValue = true → t.key = name → t.value = value →
    t.spelling = name ++ 61 :: written →
      t.column = size - (t.spelling ++ rest).length → ∃ ts, Laid size (Fo1.field name written ++ rest) ts ∧
        (∀ t ∈ ts, t.hasValue = true) ∧ ts.map (fun t => (t.key, t.value)) = (name, value) :: fields := by
    intro t hformed hsome hkey hval hspell hcolumn
    refine ⟨t :: ts, ?_, by simpa [hsome] using hall, by simp [hkey, hval, hmap]⟩
    have h := Laid.cons hgap hformed hcolumn (fun _ => hends) hlaid
    rw [hspell] at h
    simpa [Fo1.field] using h
  cases hvalue with
  | plain hplain =>
    have hbare : (∀ c ∈ written, isBlank c = false) ∧ written.head? ≠ some 34 := by
      refine ⟨fun c hc => ?_, fun hq => absurd (hplain 34 (List.mem_of_mem_head? hq)) (by decide)⟩
      have hp := hplain c hc
      simp only [isPlain, Bool.and_eq_true, Bool.not_eq_true'] at hp
      exact hp.1.1.1
    exact hcons ⟨name, written, false, true, size - (name ++ 61 :: written ++ rest).length⟩
      ⟨hname, nofun, fun _ _ => hbare⟩
      rfl rfl rfl rfl rfl
  | quoted =>
    exact hcons ⟨name, value, true, true, size - (name ++ 61 :: appendQuoted value ++ rest).length⟩
      ⟨hname, nofun, nofun⟩
      rfl rfl rfl rfl rfl

/-! ## The end of the line -/

/-- A text that `parse_line` does not trim. -/
def Untrimmed (text : Str) : Prop := ∀ c, text.getLast? = some c → (c == 13 || c == 10) = false

theorem Untrimmed.append {a b : Str} (ha : Untrimmed a) (hb : Untrimmed b) : Untrimmed (a ++ b) := by
  intro c hc
  rw [List.getLast?_append] at hc
  cases hlast : b.getLast? with
  | none => exact ha c (by simpa [hlast] using hc)
  | some d =>
    obtain rfl : d = c := by simpa [hlast] using hc
    exact hb d hlast

/-- What counts is what stands last. -/
theorem Untrimmed.append_right {a b : Str} (hne : b ≠ []) (hb : Untrimmed b) : Untrimmed (a ++ b) := by
  intro c hc
  rw [List.getLast?_append, Option.or_of_isSome (by simpa using hne)] at hc
  exact hb c hc

theorem Untrimmed.of_forall {text : Str} (h : ∀ c ∈ text, (c == 13 || c == 10) = false) : Untrimmed text :=
  fun c hc => h c (List.mem_of_getLast? hc)

theorem Untrimmed.concat {text : Str} {c : UInt8} (h : (c == 13 || c == 10) = false) : Untrimmed (text ++ [c]) := by
  intro d hd
  rw [List.getLast?_concat] at hd
  rwa [← Option.some.inj hd]

theorem trimmed_eq {text : Str} (h : Untrimmed text) : trimmed text = text := by
  unfold trimmed
  have hdrop := (@span_eq (fun c => c == 13 || c == 10) [] text.reverse (by simp)
    (fun c hc => h c (by rwa [List.head?_reverse] at hc))).2
  rw [List.nil_append] at hdrop
  rw [hdrop, List.reverse_reverse]

theorem Written.untrimmed {written value : Str} (h : Written written value) : Untrimmed written := by
  cases h with
  | plain hplain =>
    refine .of_forall fun c hc => ?_
    have hp := hplain c hc
    simp only [isPlain, Bool.and_eq_true, bne_iff_ne, ne_eq] at hp
    simp [hp]
  | quoted => exact Untrimmed.concat (by decide)

theorem untrimmed_field {name written value : Str} (h : Written written value) : Untrimmed (field name written) :=
  Untrimmed.append (Untrimmed.concat (by decide)) h.untrimmed

/-! ## The line -/

/-- **A line of a word and fields** is the record of its tokens. -/
theorem parseLine_spelled {word text : Str} {fields : List (Str × Str)} {c : UInt8} (lineNumber : Nat)
    (hword : ∀ c ∈ word, isKeyByte c = true) (hhead : word.head? = some c) (hc : c ≠ 35)
    (hspells : Spells (word ++ text).length text fields) (htrim : Untrimmed (word ++ text))
      (hlen : fields.length < 64) :
    ∃ ts : List Token, (∀ t ∈ ts, t.hasValue = true) ∧ ts.map (fun t => (t.key, t.value)) = fields ∧
      parseLine (word ++ text) lineNumber = (readRecord lineNumber word ts).mapError
        fun message => ⟨.InvalidArgument, atLine lineNumber message⟩ := by
  obtain ⟨hends, ts, hlaid, hall, hmap⟩ := hspells
  refine ⟨ts, hall, hmap, ?_⟩
  have hcount : ts.length = fields.length := by rw [← hmap, List.length_map]
  have hne : word ≠ [] := by
    rintro rfl
    simp at hhead
  let t : Token := ⟨word, [], false, false, (word ++ text).length - (word ++ text).length⟩
  have hspelling : t.spelling = word := by simp [t, Token.spelling]
  have hline : Laid (word ++ text).length (word ++ text) (t :: ts) := by
    have hgap : ∀ c ∈ ([] : Str), isBlank c = true := by simp
    have hformed : t.Formed := ⟨hword, fun _ => ⟨hne, rfl, rfl⟩, fun hvalued => absurd hvalued Bool.false_ne_true⟩
    have hcons := Laid.cons hgap hformed (by rw [hspelling]) (fun _ => hends) hlaid
    rwa [hspelling] at hcons
  have htokens : tokenize (word ++ text) 64 = .ok (t :: ts) :=
    tokenizeFrom_eq_ok.2 ⟨hline, by simp only [List.length_cons]; omega⟩
  have hfirst : (word ++ text).head? = some c := by rw [List.head?_append, hhead]; rfl
  have hblank : isBlank c = false := (isKeyByte_iff.1 (hword c (List.mem_of_mem_head? hhead))).2
  have hdrop : (word ++ text).dropWhile isBlank = word ++ text :=
    (@span_eq isBlank [] (word ++ text) (by simp) (fun d hd => by rw [hfirst] at hd; rwa [← Option.some.inj hd])).2
  unfold parseLine
  rw [trimmed_eq htrim, hdrop]
  dsimp only
  rw [if_neg (by rw [hfirst]; simp [hne, hc]), htokens]

/-- The version that is written is the one that is expected. -/
theorem expectVersion_cons {t : Token} (ts : List Token) (hkey : t.key = str "v")
    (hvalue : t.value = decimal kTextObservationVersion.toNat) : expectVersion (t :: ts) = .ok ts := by
  simp [expectVersion, hkey, hvalue]

end FlowObs.Fo1
