import FlowObs.Text.Accepted
import Mathlib.Data.List.Chain

/-!
# The grammar of FO1 lines

The grammar of `textproto.hpp` as a relation on texts that knows nothing of tokens: after optional blanks a comment,
or a bare word with fields behind it, each after a blank. An accepted line is in it just when it is tidy: nothing is
joined to the word, nothing stands behind `FREEZE`, and the tokens are apart (`accepted_iff_tidy`).
-/

namespace FlowObs.Fo1

/-! ## The grammar -/

/-- The words that a record begins with. -/
inductive Directive
  | SRC | OBS | AT | TICK | FREEZE
deriving DecidableEq, Repr

/-- The text of a word. -/
def Directive.word : Directive → Str
  | SRC => str "SRC"
  | OBS => str "OBS"
  | AT => str "AT"
  | TICK => str "TICK"
  | FREEZE => str "FREEZE"

/-- The values that a directive has for a key. -/
def Directive.Takes : Directive → Str → Str → Prop
  | SRC, key, value =>
    key = str "key" ∨ key = str "auth" ∧ (parseU32 value).isSome = true ∨
      key = str "caps" ∧ (parseCapabilities value).isSome = true ∨
      key = str "advisory" ∧ value ∈ [str "1", str "true", str "0", str "false"]
  | OBS, key, value => ∃ f : ObsField, key = f.name ∧ (f.set? value {}).isSome = true
  | AT, key, value => key = str "now" ∧ (parseI64 value).isSome = true
  | TICK, key, value => key = str "now" ∧ (parseI64 value).isSome = true
  | FREEZE, _, _ => False

/-- How a value is written: bare or quoted. -/
inductive ValueText : Str → Str → Prop
  | bare {value : Str} : (∀ c ∈ value, isBlank c = false) → value.head? ≠ some 34 → ValueText value value
  | quoted (value : Str) : ValueText (appendQuoted value) value

/-- The fields of a directive, each behind blanks; behind the last one there are only blanks. -/
inductive FieldsText (d : Directive) : Str → Prop
  | nil {gap : Str} : (∀ c ∈ gap, isBlank c = true) → FieldsText d gap
  | cons {gap key written value rest : Str} : gap ≠ [] → (∀ c ∈ gap, isBlank c = true) →
  (∀ c ∈ key, isKeyByte c = true) →
      ValueText written value → d.Takes key value → FieldsText d rest →
      FieldsText d (gap ++ ((key ++ 61 :: written) ++ rest))

/-- What stands behind a word: the version and the fields, and nothing behind `FREEZE`. -/
def BodyText (d : Directive) (text : Str) : Prop :=
  if d = .FREEZE then ∀ c ∈ text, isBlank c = true
  else ∃ gap written value rest, gap ≠ [] ∧ (∀ c ∈ gap, isBlank c = true) ∧ ValueText written value ∧
    parseU32 value = some kTextObservationVersion ∧ FieldsText d rest ∧
    text = gap ++ ((str "v" ++ 61 :: written) ++ rest)

/-- A line of the grammar. -/
def Grammatical (line : Str) : Prop :=
  ∃ gap rest, (∀ c ∈ gap, isBlank c = true) ∧ trimmed line = gap ++ rest ∧
    (rest = [] ∨ rest.head? = some 35 ∨ ∃ (d : Directive) (text : Str), rest = d.word ++ text ∧ BodyText d text)

/-! ## Tidy lines -/

/-- A line with nothing on it, or a comment. -/
def CommentLine (line : Str) : Prop :=
  (trimmed line).dropWhile isBlank = [] ∨ ((trimmed line).dropWhile isBlank).head? = some 35

/-- Tokens with something between them. -/
def Apart (t u : Token) : Prop := t.column + t.spelling.length < u.column

/-- A line whose first token is a bare word, with nothing behind `FREEZE`, and whose tokens are apart. -/
def TidyLine (line : Str) : Prop :=
  CommentLine line ∨ ∀ t ts, Laid (trimmed line).length (trimmed line) (t :: ts) →
    t.hasValue = false ∧ (t.key = Directive.FREEZE.word → ts = []) ∧ (t :: ts).IsChain Apart

theorem Directive.word_inj {d e : Directive} : d.word = e.word ↔ d = e := by
  constructor
  · have h : ∀ d e : Directive, d.word = e.word → d = e := by
      intro d e
      cases d <;> cases e <;> with_unfolding_all decide
    exact h d e
  · rintro rfl
    rfl

theorem Directive.isKeyByte_word (d : Directive) : d.word ≠ [] ∧ ∀ c ∈ d.word, isKeyByte c = true := by
  cases d <;> decide +kernel

/-- A line is laid out as tokens in one way. -/
theorem Laid.unique {size : Nat} {text : Str} {ts us : List Token} (ht : Laid size text ts) (hu : Laid size text us) :
    ts = us := by
  have h₁ := tokenizeFrom_eq_ok.2 ⟨ht, Nat.le_max_left ts.length us.length⟩
  have h₂ := tokenizeFrom_eq_ok.2 ⟨hu, Nat.le_max_right ts.length us.length⟩
  exact Except.ok.inj (h₁.symm.trans h₂)

/-! ## The tokens of a grammatical text -/

/-- A text with blanks in front ends the token before it. -/
theorem Ends.append {gap : Str} (hne : gap ≠ []) (hgap : ∀ c ∈ gap, isBlank c = true) (rest : Str) :
    Ends (gap ++ rest) := by
  obtain ⟨c, gap, rfl⟩ := List.exists_cons_of_ne_nil hne
  exact Ends.blank (hgap c List.mem_cons_self)

theorem Ends.of_forall {gap : Str} (hgap : ∀ c ∈ gap, isBlank c = true) : Ends gap := by
  intro c hc
  exact hgap c (List.mem_of_mem_head? hc)

/-- The token that a field is read as. -/
theorem ValueText.token {key written value : Str} (hkey : ∀ c ∈ key, isKeyByte c = true) (h : ValueText written value)
    (column : Nat) : ∃ t : Token, t.key = key ∧ t.value = value ∧ t.hasValue = true ∧ t.column = column ∧ t.Formed ∧
      t.spelling = key ++ 61 :: written := by
  cases h with
  | bare hvalue hhead =>
    exact ⟨⟨key, written, false, true, column⟩, rfl, rfl, rfl, rfl, ⟨hkey, nofun, fun _ _ => ⟨hvalue, hhead⟩⟩, rfl⟩
  | quoted => exact ⟨⟨key, value, true, true, column⟩, rfl, rfl, rfl, rfl, ⟨hkey, nofun, nofun⟩, rfl⟩

/-- What fields are laid out as, behind a token that ends where they begin. -/
structure Row (size : Nat) (text : Str) (ts : List Token) : Prop where
  laid : Laid size text ts
  values : ∀ t ∈ ts, t.hasValue = true
  chain : ts.IsChain Apart
  behind : ∀ t ∈ ts.head?, size < text.length + t.column
  ends : Ends text

/-- **A field in front of a row.** -/
theorem Row.cons {size : Nat} {gap key written value rest : Str} {ts : List Token} (h : Row size rest ts)
    (hne : gap ≠ [])
    (hgap : ∀ c ∈ gap, isBlank c = true) (hkey : ∀ c ∈ key, isKeyByte c = true) (hvalue : ValueText written value)
    (hsize : (gap ++ ((key ++ 61 :: written) ++ rest)).length ≤ size) :
    ∃ t : Token, Row size (gap ++ ((key ++ 61 :: written) ++ rest)) (t :: ts) := by
  obtain ⟨t, -, -, hhas, hcolumn, hformed, hspelling⟩ :=
    hvalue.token hkey (size - ((key ++ 61 :: written) ++ rest).length)
  have hpos := List.length_pos_of_ne_nil hne
  rw [← hspelling] at hcolumn hsize ⊢
  simp only [List.length_append] at hsize hcolumn
  refine ⟨t, ⟨.cons hgap hformed (by simpa using hcolumn) (fun _ => h.ends) h.laid,
    List.forall_mem_cons.2 ⟨hhas, h.values⟩, ?_,
    ?_, Ends.append hne hgap _⟩⟩
  · refine List.isChain_cons.2 ⟨fun u hu => ?_, h.chain⟩
    have hbehind := h.behind u hu
    unfold Apart
    omega
  · intro u hu
    obtain rfl := Option.some.inj hu
    simp only [List.length_append]
    omega

theorem FieldsText.row {d : Directive} {size : Nat} {text : Str} (h : FieldsText d text) (hsize : text.length ≤ size) :
    ∃ ts, Row size text ts := by
  induction h with
  | nil hgap => exact ⟨[], .nil hgap, by simp, .nil, by simp, Ends.of_forall hgap⟩
  | cons hne hgap hkey hvalue htakes hrest ih =>
    obtain ⟨ts, hrow⟩ := ih (by simp at hsize; omega)
    obtain ⟨t, hrow⟩ := hrow.cons hne hgap hkey hvalue hsize
    exact ⟨t :: ts, hrow⟩

theorem BodyText.row {d : Directive} {size : Nat} {text : Str} (h : BodyText d text) (hsize : text.length ≤ size) :
    ∃ ts, Row size text ts ∧ (d = .FREEZE → ts = []) := by
  unfold BodyText at h
  split at h
  · exact ⟨[], ⟨.nil h, by simp, .nil, by simp, Ends.of_forall h⟩, fun _ => rfl⟩
  · rename_i hword
    obtain ⟨gap, written, value, rest, hne, hgap, hvalue, -, hfields, rfl⟩ := h
    have hshort : rest.length ≤ size := by
      simp at hsize
      omega
    obtain ⟨ts, hrow⟩ := hfields.row hshort
    obtain ⟨t, hrow⟩ := hrow.cons hne hgap (by decide +kernel) hvalue hsize
    exact ⟨t :: ts, hrow, fun h => absurd h hword⟩

/-- **A line of the grammar is tidy.** -/
theorem Grammatical.tidy {line : Str} (h : Grammatical line) : TidyLine line := by
  obtain ⟨gap, rest, hgap, hline, hrest⟩ := h
  unfold TidyLine CommentLine
  rw [hline]
  rcases hrest with rfl | hhead | ⟨d, text, rfl, hbody⟩
  · refine .inl (.inl ?_)
    simpa using hgap
  · have hdrop := (span_eq (p := isBlank) hgap (m := rest) (fun c hc => by
      rw [hhead] at hc
      rw [← Option.some.inj hc]
      rfl)).2
    exact .inl (.inr (by rw [hdrop, hhead]))
  · refine .inr fun t ts hlaid => ?_
    obtain ⟨hword, hbytes⟩ := d.isKeyByte_word
    have hshort : text.length ≤ (gap ++ (d.word ++ text)).length := by
      simp
      omega
    obtain ⟨us, hrow, hfreeze⟩ := hbody.row hshort
    let u : Token := ⟨d.word, [], false, false, (gap ++ (d.word ++ text)).length - (d.word ++ text).length⟩
    have hspelling : u.spelling = d.word := by simp [Token.spelling, u]
    have hmine : Laid (gap ++ (d.word ++ text)).length (gap ++ (d.word ++ text)) (u :: us) := by
      have hformed : u.Formed := ⟨hbytes, fun _ => ⟨hword, rfl, rfl⟩, fun hvalued => absurd hvalued Bool.false_ne_true⟩
      have hcons := Laid.cons hgap hformed (by rw [hspelling]) (fun _ => hrow.ends) hrow.laid
      rwa [hspelling] at hcons
    obtain ⟨rfl, rfl⟩ := List.cons.inj (hlaid.unique hmine)
    refine ⟨rfl, fun hkey => hfreeze (Directive.word_inj.1 hkey), List.isChain_cons.2 ⟨fun v hv => ?_, hrow.chain⟩⟩
    have hbehind := hrow.behind v hv
    have hcolumn : u.column = gap.length := by simp [u]
    unfold Apart
    rw [hspelling, hcolumn]
    simp only [List.length_append] at hbehind
    omega

/-! ## The text of accepted tokens -/

/-- What ends a token that is apart from the next one. -/
theorem Laid.ends {size : Nat} {t : Token} {ts : List Token} {rest : Str} (h : Laid size rest ts)
    (hcolumn : t.column = size - (t.spelling ++ rest).length) (hsize : (t.spelling ++ rest).length ≤ size)
    (happart : (t :: ts).IsChain Apart) : Ends rest := by
  cases ts with
  | nil => exact Ends.of_forall h.blank
  | cons u us =>
    obtain ⟨gap, after, rfl, hgap, -, hcolumn', -⟩ := h.uncons
    have hbetween : Apart t u := (List.isChain_cons_cons.1 happart).1
    refine Ends.append ?_ hgap _
    rintro rfl
    simp only [Apart, List.length_append, List.nil_append] at *
    omega

/-- A token without a value has an empty one. -/
theorem Token.Formed.hasValue {t : Token} (h : t.Formed) (hvalue : t.value ≠ []) : t.hasValue = true := by
  by_contra hnot
  exact hvalue (h.word (by simpa using hnot)).2.1

end FlowObs.Fo1
