import FlowObs.Semantics
import Mathlib.Data.List.TakeWhile

/-!
# The tokens of an FO1 line

`tokenize` of `textproto.cpp`: a line is a sequence of tokens `key`, `key=value` or `key="value"`, with blanks between
them. What it reads is the relation `Laid`: gaps of blanks and the spellings of tokens, where only a quoted value may
be followed at once by the next token (`tokenizeFrom_eq_ok`). A text that is put together from spellings is therefore
read back without running the tokenizer on it.
-/

namespace FlowObs.Fo1

/-! ## The code -/

/-- `Token`. -/
structure Token where
  key : Str
  value : Str := []
  quoted : Bool := false
  hasValue : Bool := false
  column : Nat := 0
deriving DecidableEq, Repr

/-- A space or a tab. -/
def isBlank (c : UInt8) : Bool := c == 32 || c == 9

/-- A byte of a key. -/
def isKeyByte (c : UInt8) : Bool := c != 61 && !isBlank c

/-- A quoted value behind its opening quote, and what follows the closing one. -/
def readQuoted : Str → Except Error (Str × Str)
  | [] => .error (invalidArgument "FO1 line has an unterminated quoted value")
  | [c] => if c = 34 then .ok ([], []) else .error (invalidArgument "FO1 line has an unterminated quoted value")
  | c :: next :: rest =>
    if c = 92 then
      if next = 34 ∨ next = 92 then (readQuoted rest).map (fun p => (next :: p.1, p.2))
      else .error (invalidArgument "FO1 line has an unsupported escape sequence")
    else if c = 34 then .ok ([], next :: rest)
    else (readQuoted (next :: rest)).map (fun p => (c :: p.1, p.2))

/-- One token, and what follows it. -/
def readToken (column : Nat) (line : Str) : Except Error (Token × Str) :=
  let key := line.takeWhile isKeyByte
  match line.dropWhile isKeyByte with
  | [] => .ok (⟨key, [], false, false, column⟩, [])
  | c :: rest =>
    if c = 61 then
      if rest.head? = some 34 then do
        let (value, rest) ← readQuoted rest.tail
        .ok (⟨key, value, true, true, column⟩, rest)
      else .ok (⟨key, rest.takeWhile (fun c => !isBlank c), false, true, column⟩, rest.dropWhile (fun c => !isBlank c))
    else .ok (⟨key, [], false, false, column⟩, c :: rest)

/-- The loop of `tokenize` with room for so many tokens, at the end of a line of `size` bytes. -/
def tokenizeFrom (size : Nat) : Nat → Str → Except Error (List Token)
  | 0, line =>
    if line.dropWhile isBlank = [] then .ok []
    else .error (limitExceeded "FO1 line has more tokens than the configured bound")
  | room + 1, line =>
    if line.dropWhile isBlank = [] then .ok []
    else do
      let (token, rest) ← readToken (size - (line.dropWhile isBlank).length) (line.dropWhile isBlank)
      let tokens ← tokenizeFrom size room rest
      .ok (token :: tokens)

/-- `tokenize`. -/
def tokenize (line : Str) (maxTokens : Nat) : Except Error (List Token) := tokenizeFrom line.length maxTokens line

/-- The bytes of a value between its quotes. -/
def escaped (value : Str) : Str := value.flatMap (fun c => if c = 34 ∨ c = 92 then [92, c] else [c])

/-- `append_quoted`. -/
def appendQuoted (value : Str) : Str := [34] ++ escaped value ++ [34]

/-! ## Quoted values -/

@[simp] theorem escaped_nil : escaped [] = [] := rfl

theorem escaped_cons (c : UInt8) (value : Str) :
    escaped (c :: value) = (if c = 34 ∨ c = 92 then [92, c] else [c]) ++ escaped value := rfl

/-- A value without quotes and backslashes is spelled as it is. -/
theorem escaped_plain {value : Str} (h : ∀ c ∈ value, c ≠ 34 ∧ c ≠ 92) : escaped value = value := by
  induction value with
  | nil => rfl
  | cons c value ih =>
    have hc := h c List.mem_cons_self
    rw [escaped_cons, if_neg (by simp [hc]), ih fun d hd => h d (List.mem_cons_of_mem _ hd)]
    rfl

theorem length_le_escaped (value : Str) : value.length ≤ (escaped value).length := by
  induction value with
  | nil => simp
  | cons c value ih =>
    rw [escaped_cons]
    split <;> simp <;> omega

/-- Each quote and each backslash makes the spelling longer. -/
theorem length_lt_escaped {value : Str} {c : UInt8} (hc : c = 34 ∨ c = 92) (h : c ∈ value) :
    value.length < (escaped value).length := by
  induction value with
  | nil => simp at h
  | cons d value ih =>
    have hle := length_le_escaped value
    rw [escaped_cons]
    rcases List.mem_cons.1 h with rfl | h
    · rw [if_pos hc]
      simp
      omega
    · have hlt := ih h
      split <;> simp <;> omega

theorem readQuoted_escaped (value rest : Str) : readQuoted (escaped value ++ 34 :: rest) = .ok (value, rest) := by
  induction value with
  | nil => cases rest <;> simp [readQuoted]
  | cons c value ih =>
    rw [escaped_cons]
    by_cases hc : c = 34 ∨ c = 92
    · rw [if_pos hc]
      simp [readQuoted, hc, ih, Except.map]
    · rw [if_neg hc]
      rw [not_or] at hc
      cases h : escaped value ++ 34 :: rest with
      | nil => simp at h
      | cons d tail =>
        rw [h] at ih
        simp [readQuoted, hc, h, ih, Except.map]

/-- **A quoted value is read exactly from its escaped spelling.** -/
theorem readQuoted_eq_ok {text value rest : Str} :
    readQuoted text = .ok (value, rest) ↔ text = escaped value ++ 34 :: rest := by
  constructor
  · intro h
    induction text using readQuoted.induct generalizing value with
    | case1 => simp [readQuoted] at h
    | case2 => simp_all [readQuoted]
    | case3 => simp_all [readQuoted]
    | case4 next tail hnext ih =>
      simp only [readQuoted, if_true, if_pos hnext] at h
      obtain ⟨⟨v, r⟩, hv, heq⟩ := map_ok.1 h
      simp only [Prod.mk.injEq] at heq
      obtain ⟨rfl, rfl⟩ := heq
      rw [ih hv, escaped_cons, if_pos hnext]
      rfl
    | case5 => simp_all [readQuoted]
    | case6 => simp_all [readQuoted]
    | case7 c next tail hslash hquote ih =>
      simp only [readQuoted, if_neg hslash, if_neg hquote] at h
      obtain ⟨⟨v, r⟩, hv, heq⟩ := map_ok.1 h
      simp only [Prod.mk.injEq] at heq
      obtain ⟨rfl, rfl⟩ := heq
      rw [ih hv, escaped_cons, if_neg (by tauto)]
      rfl
  · rintro rfl
    exact readQuoted_escaped value rest

/-! ## Single tokens -/

/-- The text of a token. -/
def Token.spelling (t : Token) : Str :=
  t.key ++ if t.hasValue then 61 :: (if t.quoted then appendQuoted t.value else t.value) else []

/-- What a token can be: the bytes of its key and of a bare value. -/
structure Token.Formed (t : Token) : Prop where
  key : ∀ c ∈ t.key, isKeyByte c = true
  word : t.hasValue = false → t.key ≠ [] ∧ t.value = [] ∧ t.quoted = false
  bare : t.hasValue = true → t.quoted = false → (∀ c ∈ t.value, isBlank c = false) ∧ t.value.head? ≠ some 34

/-- Where a token ends that is not quoted: a blank or the end of the line. -/
def Ends (rest : Str) : Prop := ∀ c, rest.head? = some c → isBlank c = true

theorem Ends.nil : Ends [] := fun _ h => by cases h

theorem Ends.blank {c : UInt8} {rest : Str} (h : isBlank c = true) : Ends (c :: rest) := by
  intro d hd
  obtain rfl := Option.some.inj hd
  exact h

/-- A run of bytes up to the first one of another kind. -/
theorem span_eq {p : UInt8 → Bool} {l m : Str} (hl : ∀ c ∈ l, p c = true) (hm : ∀ c, m.head? = some c → p c = false) :
    (l ++ m).takeWhile p = l ∧ (l ++ m).dropWhile p = m := by
  have htake : m.takeWhile p = [] := by
    cases m with
    | nil => rfl
    | cons c m => rw [List.takeWhile_cons, hm c rfl]; rfl
  have hdrop : m.dropWhile p = m := by
    cases m with
    | nil => rfl
    | cons c m => rw [List.dropWhile_cons, hm c rfl]; rfl
  rw [List.takeWhile_append_of_pos hl, List.dropWhile_append_of_pos hl, htake, hdrop, List.append_nil]
  exact ⟨rfl, rfl⟩

/-- Where a run ends. -/
theorem head_dropWhile {p : UInt8 → Bool} {l : Str} {c : UInt8} (h : (l.dropWhile p).head? = some c) : p c = false := by
  induction l with
  | nil => simp at h
  | cons d l ih =>
    rw [List.dropWhile_cons] at h
    split at h
    · exact ih h
    · simp_all

theorem isKeyByte_iff {c : UInt8} : isKeyByte c = true ↔ c ≠ 61 ∧ isBlank c = false := by
  simp [isKeyByte]

/-- A token begins with a byte that is not blank. -/
theorem Token.Formed.head {t : Token} (h : t.Formed) (rest : Str) :
    ∃ c, (t.spelling ++ rest).head? = some c ∧ isBlank c = false := by
  cases hkey : t.key with
  | nil =>
    have hvalue : t.hasValue = true := by
      by_contra hno
      exact (h.word (by simpa using hno)).1 hkey
    exact ⟨61, by simp [Token.spelling, hkey, hvalue], by decide⟩
  | cons c key =>
    exact ⟨c, by simp [Token.spelling, hkey], (isKeyByte_iff.1 (h.key c (by simp [hkey]))).2⟩

/-- **What `readToken` reads at a byte that is not blank.** -/
theorem readToken_eq_ok {column : Nat} {line rest : Str} {t : Token}
    (hline : ∃ c, line.head? = some c ∧ isBlank c = false) :
    readToken column line = .ok (t, rest) ↔
      t.column = column ∧ t.Formed ∧ line = t.spelling ++ rest ∧ (t.quoted = false → Ends rest) := by
  constructor
  · intro h
    have hkey : ∀ c ∈ line.takeWhile isKeyByte, isKeyByte c = true := fun c => List.mem_takeWhile_imp
    have hsplit := List.takeWhile_append_dropWhile (p := isKeyByte) (l := line)
    have hstop := fun c => head_dropWhile (p := isKeyByte) (l := line) (c := c)
    unfold readToken at h
    generalize line.takeWhile isKeyByte = key at *
    cases hrest : line.dropWhile isKeyByte with
    | nil =>
      simp only [hrest, Except.ok.injEq, Prod.mk.injEq] at h hsplit
      obtain ⟨rfl, rfl⟩ := h
      rw [List.append_nil] at hsplit
      have hne : key ≠ [] := by
        rintro rfl
        simp [← hsplit] at hline
      exact ⟨rfl, ⟨hkey, fun _ => ⟨hne, rfl, rfl⟩, nofun⟩, by simp [Token.spelling, hsplit], fun _ => Ends.nil⟩
    | cons c tail =>
      have hc := hstop c (by rw [hrest]; rfl)
      simp only [hrest] at h hsplit
      by_cases hequal : c = 61
      · subst hequal
        rw [if_pos rfl] at h
        by_cases hquote : tail.head? = some 34
        · rw [if_pos hquote, bind_ok] at h
          obtain ⟨⟨value, after⟩, hread, h⟩ := h
          simp only [Except.ok.injEq, Prod.mk.injEq] at h
          obtain ⟨rfl, rfl⟩ := h
          rw [readQuoted_eq_ok] at hread
          have htail : tail = 34 :: tail.tail := by
            cases tail with
            | nil => simp at hquote
            | cons d tail => simpa using hquote
          refine ⟨rfl, ⟨hkey, nofun, nofun⟩, ?_, nofun⟩
          rw [← hsplit, htail, hread]
          simp [Token.spelling, appendQuoted]
        · rw [if_neg hquote] at h
          simp only [Except.ok.injEq, Prod.mk.injEq] at h
          obtain ⟨rfl, rfl⟩ := h
          have hvalue : ∀ c ∈ tail.takeWhile (fun c => !isBlank c), isBlank c = false := by
            intro c hc
            simpa using List.mem_takeWhile_imp hc
          have hhead : (tail.takeWhile (fun c => !isBlank c)).head? ≠ some 34 := by
            intro h
            apply hquote
            cases tail with
            | nil => simp at h
            | cons d tail =>
              rw [List.takeWhile_cons] at h
              split at h <;> simp_all
          have hends : Ends (tail.dropWhile (fun c => !isBlank c)) := by
            intro c hc
            simpa using head_dropWhile hc
          refine ⟨rfl, ⟨hkey, nofun, fun _ _ => ⟨hvalue, hhead⟩⟩, ?_, fun _ => hends⟩
          rw [← hsplit]
          simp [Token.spelling]
      · rw [if_neg hequal] at h
        simp only [Except.ok.injEq, Prod.mk.injEq] at h
        obtain ⟨rfl, rfl⟩ := h
        have hblank : isBlank c = true := by
          simpa [isKeyByte, hequal] using hc
        have hne : key ≠ [] := by
          rintro rfl
          obtain ⟨d, hd, hd'⟩ := hline
          simp [← hsplit] at hd
          subst hd
          rw [hblank] at hd'
          cases hd'
        exact ⟨rfl, ⟨hkey, fun _ => ⟨hne, rfl, rfl⟩, nofun⟩, by simp [Token.spelling, hsplit],
          fun _ => Ends.blank hblank⟩
  · rintro ⟨rfl, hformed, rfl, hends⟩
    obtain ⟨key, value, quoted, hasValue, column⟩ := t
    have hkey : ∀ c ∈ key, isKeyByte c = true := hformed.key
    have hequal : isKeyByte 61 = false := by decide
    unfold readToken Token.spelling
    cases hasValue with
    | false =>
      obtain ⟨-, rfl, rfl⟩ := hformed.word rfl
      obtain ⟨htake, hdrop⟩ := span_eq (l := key) (m := rest) hkey (fun c hc => by
        have := hends rfl c hc
        simp [isKeyByte, this])
      simp only [Bool.false_eq_true, if_false, List.append_nil, htake, hdrop]
      cases rest with
      | nil => rfl
      | cons c rest =>
        have hc : c ≠ 61 := by
          rintro rfl
          exact absurd (hends rfl 61 rfl) (by decide)
        simp [hc]
    | true =>
      cases quoted with
      | true =>
        obtain ⟨htake, hdrop⟩ := span_eq (l := key) (m := 61 :: (appendQuoted value ++ rest)) hkey (fun c hc => by
          simp at hc
          simpa [← hc] using hequal)
        simp only [if_true, List.append_assoc, List.cons_append, htake, hdrop]
        simp [appendQuoted, readQuoted_escaped]
      | false =>
        obtain ⟨hvalue, hhead⟩ := hformed.bare rfl rfl
        obtain ⟨htake, hdrop⟩ := span_eq (l := key) (m := 61 :: (value ++ rest)) hkey (fun c hc => by
          simp at hc
          simpa [← hc] using hequal)
        obtain ⟨htake', hdrop'⟩ := span_eq (p := fun c => !isBlank c) (l := value) (m := rest)
          (fun c hc => by simp [hvalue c hc]) (fun c hc => by simp [hends rfl c hc])
        have hquote : (value ++ rest).head? ≠ some 34 := by
          intro h
          cases value with
          | nil => exact absurd (hends rfl 34 h) (by decide)
          | cons c value => exact hhead h
        simp only [Bool.false_eq_true, if_true, if_false, List.append_assoc, List.cons_append, htake, hdrop, htake',
          hdrop', if_neg hquote]

/-! ## Lines -/

/-- **A line as tokens**: gaps of blanks between the spellings of tokens, each at its column of a line of `size`
bytes. -/
inductive Laid (size : Nat) : Str → List Token → Prop
  | nil {gap : Str} : (∀ c ∈ gap, isBlank c = true) → Laid size gap []
  | cons {gap rest : Str} {t : Token} {ts : List Token} : (∀ c ∈ gap, isBlank c = true) → t.Formed →
      t.column = size - (t.spelling ++ rest).length → (t.quoted = false → Ends rest) → Laid size rest ts →
      Laid size (gap ++ (t.spelling ++ rest)) (t :: ts)

theorem Laid.blank {size : Nat} {text : Str} (h : Laid size text []) : ∀ c ∈ text, isBlank c = true := by
  cases h with
  | nil hgap => exact hgap

theorem Laid.uncons {size : Nat} {text : Str} {t : Token} {ts : List Token} (h : Laid size text (t :: ts)) :
    ∃ gap rest, text = gap ++ (t.spelling ++ rest) ∧ (∀ c ∈ gap, isBlank c = true) ∧ t.Formed ∧
      t.column = size - (t.spelling ++ rest).length ∧ (t.quoted = false → Ends rest) ∧ Laid size rest ts := by
  cases h with
  | cons hgap hformed hcolumn hends hrest => exact ⟨_, _, rfl, hgap, hformed, hcolumn, hends, hrest⟩

/-- A token is formed, and stands in the text. -/
theorem Laid.occurs {size : Nat} {text : Str} {ts : List Token} (h : Laid size text ts) :
    ∀ t ∈ ts, t.Formed ∧ ∃ a b, text = a ++ (t.spelling ++ b) := by
  induction h with
  | nil => simp
  | @cons gap rest t ts hgap hformed hcolumn hends hlaid ih =>
    refine List.forall_mem_cons.2 ⟨⟨hformed, gap, rest, rfl⟩, fun t' ht' => ?_⟩
    obtain ⟨hformed', a, b, hab⟩ := ih t' ht'
    exact ⟨hformed', gap ++ (t.spelling ++ a), b, by rw [hab]; simp⟩

/-- **`tokenize` reads the lines that are laid out as tokens.** -/
theorem tokenizeFrom_eq_ok {size room : Nat} {line : Str} {ts : List Token} :
    tokenizeFrom size room line = .ok ts ↔ Laid size line ts ∧ ts.length ≤ room := by
  constructor
  · intro h
    induction room generalizing line ts with
    | zero =>
      unfold tokenizeFrom at h
      split at h
      · rename_i hblank
        obtain rfl := Except.ok.inj h
        exact ⟨.nil (by simpa using hblank), le_rfl⟩
      · cases h
    | succ room ih =>
      unfold tokenizeFrom at h
      split at h
      · rename_i hblank
        obtain rfl := Except.ok.inj h
        exact ⟨.nil (by simpa using hblank), Nat.zero_le _⟩
      · rename_i hsome
        obtain ⟨⟨t, rest⟩, hread, h⟩ := bind_ok.1 h
        obtain ⟨ts', hrest, h⟩ := bind_ok.1 h
        obtain rfl := Except.ok.inj h
        obtain ⟨hlaid, hlen⟩ := ih hrest
        have hgap : ∀ c ∈ line.takeWhile isBlank, isBlank c = true := fun c => List.mem_takeWhile_imp
        have hsplit := List.takeWhile_append_dropWhile (p := isBlank) (l := line)
        have hhead : ∃ c, (line.dropWhile isBlank).head? = some c ∧ isBlank c = false := by
          obtain ⟨c, tail, hc⟩ := List.exists_cons_of_ne_nil hsome
          exact ⟨c, by rw [hc]; rfl, head_dropWhile (by rw [hc]; rfl)⟩
        obtain ⟨hcolumn, hformed, hspell, hends⟩ := (readToken_eq_ok hhead).1 hread
        rw [hspell] at hcolumn hsplit
        rw [← hsplit]
        exact ⟨.cons hgap hformed hcolumn hends hlaid, Nat.succ_le_succ hlen⟩
  · rintro ⟨hlaid, hlen⟩
    induction hlaid generalizing room with
    | nil hgap =>
      have hblank : ∀ gap : Str, (∀ c ∈ gap, isBlank c = true) → gap.dropWhile isBlank = [] := by simp
      cases room <;> rw [tokenizeFrom, if_pos (hblank _ hgap)]
    | @cons gap rest t ts hgap hformed hcolumn hends hlaid ih =>
      obtain ⟨c, hc, hnot⟩ := hformed.head rest
      have hdrop := (span_eq (p := isBlank) hgap (m := t.spelling ++ rest) (fun d hd => by
        rw [hc] at hd
        rw [← Option.some.inj hd, hnot])).2
      cases room with
      | zero => simp at hlen
      | succ room =>
        have hread := (readToken_eq_ok ⟨c, hc, hnot⟩).2 ⟨hcolumn, hformed, rfl, hends⟩
        rw [tokenizeFrom, hdrop, if_neg (by intro h; simp [h] at hc), hread]
        simp [ih (Nat.le_of_succ_le_succ hlen)]

end FlowObs.Fo1
