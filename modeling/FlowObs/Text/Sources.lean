import FlowObs.Text.Accepted
import FlowObs.Text.Fields

/-!
# The round trip of a source

`format_source` writes the key of a source between quotes as it is. A key without quotes and backslashes is its own
spelling and is read back (`parseLine_formatSource`). Any other key is not: the token that begins with its opening
quote reads a shorter value, and a later `key` token cannot be long enough, because it would have to reach into the
fields behind the key, which hold no quote (`no_other_key`).
-/

namespace FlowObs.Fo1

/-! ## What follows the key -/

/-- The fields behind the key. -/
def sourceTail (d : SourceDescriptor) : Str :=
  field (str "auth") (decimal d.authority.toNat) ++ (field (str "caps") (formatCapabilities d.capabilities)
    ++ field (str "advisory") (str (if d.advisoryOnly then "1" else "0")))

/-- What is before the key. -/
def sourceHead : Str := str "SRC" ++
    (field (str "v") (decimal kTextObservationVersion.toNat) ++ ([32] ++ str "key" ++ [61, 34]))

/-- The words of a line of a source, as far as their bytes count. -/
theorem source_words : sourceHead = [83, 82, 67, 32, 118, 61, 49, 32, 107, 101, 121, 61, 34] ∧
    str "key" = [107, 101, 121] ∧
    str "SRC" ≠ str "FREEZE" ∧ (str "0" ≠ str "1" ∧ str "0" ≠ str "true") ∧ str "auth" ≠ str "key" ∧
    str "caps" ≠ str "key" ∧ str "caps" ≠ str "auth" ∧ str "advisory" ≠ str "key" ∧ str "advisory" ≠ str "auth" ∧
    str "advisory" ≠ str "caps" := by
  with_unfolding_all decide

theorem formatSource_eq (d : SourceDescriptor) :
    formatSource d = sourceHead ++ (d.canonicalKey ++ 34 :: sourceTail d) := by
  simp [formatSource, sourceHead, sourceTail, field]

/-- The fields behind the key hold no quote and no `k`. -/
theorem sourceTail_plain (d : SourceDescriptor) : ∀ c ∈ sourceTail d, c ≠ 34 ∧ c ≠ 107 := by
  have hspare : ∀ {text : Str}, text.all (fun c => c != 34 && c != 107) = true → ∀ c ∈ text, c ≠ 34 ∧ c ≠ 107 := by
    intro text h
    simpa using h
  have hauth : ∀ c ∈ [32] ++ str "auth" ++ [61], c ≠ 34 ∧ c ≠ 107 := hspare (by with_unfolding_all decide)
  have hnumber : ∀ c ∈ decimal d.authority.toNat, c ≠ 34 ∧ c ≠ 107 := by
    intro c hc
    have hd := Decimal.isDigit_iff.1 (isDigit_decimal c hc)
    have h34 : (34 : UInt8).toNat = 34 := rfl
    have h107 : (107 : UInt8).toNat = 107 := rfl
    rw [ne_eq, ne_eq, ← UInt8.toNat_inj, ← UInt8.toNat_inj, h34, h107]
    omega
  have hcaps : ∀ a b d e f g : Bool, (field (str "caps") (formatCapabilities ⟨a, b, d, e, f, g⟩)).all
      (fun c => c != 34 && c != 107) = true := by
    with_unfolding_all decide
  have hadvisory : ∀ b : Bool, ∀ c ∈ field (str "advisory") (str (if b then "1" else "0")), c ≠ 34 ∧ c ≠ 107 :=
    fun b => hspare (by cases b <;> with_unfolding_all decide)
  intro c hc
  rcases List.mem_append.1 hc with hc | hc
  · rcases List.mem_append.1 hc with hc | hc
    · exact hauth c hc
    · exact hnumber c hc
  · rcases List.mem_append.1 hc with hc | hc
    · exact hspare (hcaps d.capabilities.assertsCompletion d.capabilities.assertsReset d.capabilities.assertsPath
        d.capabilities.assertsQueue d.capabilities.assertsCounters d.capabilities.authoritativeIdentity) c hc
    · exact hadvisory d.advisoryOnly c hc

/-- The line of a source is not trimmed. -/
theorem untrimmed_formatSource (d : SourceDescriptor) : Untrimmed (formatSource d) :=
  .append_right (by simp [field]) (untrimmed_field (.plain (isPlain_flag d.advisoryOnly)))

/-! ## Keys that are spelled as they are -/

/-- The tokens of a source give the source. -/
theorem readSource_fields {ts : List Token} {d : SourceDescriptor} (hall : ∀ t ∈ ts, t.hasValue = true)
    (hmap : ts.map (fun t => (t.key, t.value)) = [(str "key", d.canonicalKey), (str "auth", decimal d.authority.toNat),
      (str "caps", formatCapabilities d.capabilities), (str "advisory", str (if d.advisoryOnly then "1" else "0"))])
    (hne : d.canonicalKey ≠ []) (hid : d.id = makeId .source d.canonicalKey) : readSource ts = .ok d := by
  obtain ⟨-, -, -, hflag, hak, hck, hca, hvk, hva, hvc⟩ := source_words
  have hlen : ts.length = 4 := by simpa using congrArg List.length hmap
  match ts, hlen with
  | [key, auth, caps, advisory], _ =>
    simp only [List.map_cons, List.map_nil, List.cons.injEq, Prod.mk.injEq, and_true] at hmap
    obtain ⟨⟨hk, hkv⟩, ⟨ha, hav⟩, ⟨hc, hcv⟩, hv, hvv⟩ := hmap
    simp only [List.forall_mem_cons] at hall
    obtain ⟨h1, h2, h3, h4, -⟩ := hall
    obtain ⟨id, canonicalKey, authority, capabilities, advisoryOnly⟩ := d
    simp only at hid hkv hav hcv hvv hne
    subst hid
    cases advisoryOnly <;>
      simp [readSource, readSourceField, h1, h2, h3, h4, hk, ha, hc, hv, hkv, hav, hcv, hvv, hak, hck, hca, hvk, hva,
        hvc, hflag, hne]

/-- **A source whose key needs no escapes is read back.** -/
theorem parseLine_formatSource (d : SourceDescriptor) (lineNumber : Nat) (hne : d.canonicalKey ≠ [])
    (hid : d.id = makeId .source d.canonicalKey) (hplain : ∀ c ∈ d.canonicalKey, c ≠ 34 ∧ c ≠ 92) :
    parseLine (formatSource d) lineNumber = .ok { kind := .Source, line := lineNumber, source := d } := by
  have hquoted : [34] ++ d.canonicalKey ++ [34] = appendQuoted d.canonicalKey := by rw [appendQuoted,
    escaped_plain hplain]
  have htrim := untrimmed_formatSource d
  have hline : formatSource d = str "SRC" ++ (field (str "v") (decimal kTextObservationVersion.toNat) ++
      (field (str "key") (appendQuoted d.canonicalKey) ++ (field (str "auth") (decimal d.authority.toNat) ++
        (field (str "caps") (formatCapabilities d.capabilities) ++
          (field (str "advisory") (str (if d.advisoryOnly then "1" else "0")) ++ []))))) := by
    simp only [formatSource, hquoted, List.append_assoc, List.append_nil]
  have hspells : Spells (formatSource d).length (field (str "v") (decimal kTextObservationVersion.toNat) ++
      (field (str "key") (appendQuoted d.canonicalKey) ++ (field (str "auth") (decimal d.authority.toNat) ++
        (field (str "caps") (formatCapabilities d.capabilities) ++
          (field (str "advisory") (str (if d.advisoryOnly then "1" else "0")) ++ [])))))
      [(str "v", decimal kTextObservationVersion.toNat), (str "key", d.canonicalKey),
        (str "auth", decimal d.authority.toNat),
        (str "caps", formatCapabilities d.capabilities), (str "advisory", str (if d.advisoryOnly then "1" else "0"))] :=
    .cons (List.all_eq_true.1 (by with_unfolding_all decide)) (.plain isPlain_decimal)
      (.cons (List.all_eq_true.1 (by with_unfolding_all decide)) (.quoted d.canonicalKey)
        (.cons (List.all_eq_true.1 (by with_unfolding_all decide)) (.plain isPlain_decimal)
          (.cons (List.all_eq_true.1 (by with_unfolding_all decide)) (.plain (isPlain_capabilities d.capabilities))
            (.cons (List.all_eq_true.1 (by with_unfolding_all decide))
              (.plain (isPlain_flag d.advisoryOnly)) (.nil _)))))
  rw [hline] at htrim hspells ⊢
  obtain ⟨ts, hall, hmap, hparse⟩ :=
    parseLine_spelled (c := 83) lineNumber (by decide +kernel) (by with_unfolding_all decide) (by decide)
    hspells htrim (by simp)
  rw [hparse]
  cases ts with
  | nil => simp at hmap
  | cons t ts =>
    simp only [List.map_cons, List.cons.injEq, Prod.mk.injEq] at hmap
    have hread := readSource_fields (fun t ht => hall t (List.mem_cons_of_mem _ ht)) hmap.2 hne hid
    simp [readRecord, source_words.2.2.1, expectVersion_cons ts hmap.1.1 hmap.1.2, hread, Except.mapError]

/-! ## Other keys -/

/-- A token behind the opening quote of the key is too short: it would have to reach into the fields behind the key. -/
theorem no_token_in_key {key tail spelling a b : Str} (hlength : key.length + 4 ≤ spelling.length)
    (hhead : spelling.head? = some 107) (hend : 32 ∈ spelling → ∃ s, spelling = s ++ [34])
    (htail : ∀ c ∈ tail, c ≠ 34 ∧ c ≠ 107) (htail' : tail.head? = some 32)
    (heq : key ++ 34 :: tail = a ++ (spelling ++ b)) : False := by
  rcases List.append_eq_append_iff.1 heq with ⟨c, rfl, hc⟩ | ⟨e, rfl, he⟩
  · -- it begins behind the key
    have hmem : (107 : UInt8) ∈ 34 :: tail := by
      rw [hc]
      exact List.mem_append_right _ (List.mem_append_left _ (List.mem_of_mem_head? hhead))
    rcases List.mem_cons.1 hmem with h | h
    · cases h
    · exact (htail _ h).2 rfl
  · -- it begins in the key, and ends in the fields
    have he' : spelling ++ b = (e ++ [34]) ++ tail := by rw [he]; simp
    rcases List.append_eq_append_iff.1 he' with ⟨f, hf, -⟩ | ⟨f, hf, htf⟩
    · have hle := congrArg List.length hf
      simp only [List.length_append, List.length_cons, List.length_nil] at hle hlength
      omega
    · have hfne : f ≠ [] := by
        rintro rfl
        have hle := congrArg List.length hf
        simp only [List.length_append, List.length_cons, List.length_nil] at hle hlength
        omega
      obtain ⟨c, f', rfl⟩ := List.exists_cons_of_ne_nil hfne
      rw [htf] at htail'
      obtain rfl : c = 32 := by simpa using htail'
      obtain ⟨s, hs⟩ := hend (by rw [hf]; simp)
      have hlast : (32 :: f').getLast? = some 34 := by
        have hget := congrArg List.getLast? (hf.symm.trans hs)
        rw [List.getLast?_concat, List.getLast?_append, Option.or_of_isSome (by simp)] at hget
        exact hget
      exact (htail 34 (by rw [htf]; exact List.mem_append_left _ (List.mem_of_getLast? hlast))).1 rfl

/-- A value with a quote or a backslash is not read from its own bytes. -/
theorem escaped_ne_self {key tail b : Str} (hspecial : 34 ∈ key ∨ 92 ∈ key) (htail : ∀ c ∈ tail, c ≠ 34 ∧ c ≠ 107)
    (h : escaped key ++ 34 :: b = key ++ 34 :: tail) : False := by
  have hlt : key.length < (escaped key).length := by
    rcases hspecial with hc | hc
    · exact length_lt_escaped (.inl rfl) hc
    · exact length_lt_escaped (.inr rfl) hc
  rcases List.append_eq_append_iff.1 h with ⟨c, hc, -⟩ | ⟨c, hc, hrest⟩
  · have hlen := congrArg List.length hc
    rw [List.length_append] at hlen
    omega
  · cases c with
    | nil =>
      rw [List.append_nil] at hc
      rw [hc] at hlt
      exact lt_irrefl _ hlt
    | cons x c =>
      simp only [List.cons_append, List.cons.injEq] at hrest
      exact (htail 34 (by rw [hrest.2]; simp)).1 rfl

/-- **No token of the line of a source has a value with a quote or a backslash that is the key.** -/
theorem no_other_key (d : SourceDescriptor) {t : Token} {a b : Str} (hformed : t.Formed) (hkey : t.key = str "key")
    (hsome : t.hasValue = true) (hvalue : t.value = d.canonicalKey)
      (hspecial : 34 ∈ d.canonicalKey ∨ 92 ∈ d.canonicalKey)
    (hline : formatSource d = a ++ (t.spelling ++ b)) : False := by
  obtain ⟨hbefore, hname, -⟩ := source_words
  have htail := sourceTail_plain d
  have hhead : (sourceTail d).head? = some 32 := rfl
  have hspelling : t.spelling = [107, 101, 121, 61] ++ if t.quoted then appendQuoted t.value else t.value := by
    simp [Token.spelling, hkey, hname, hsome]
  have hlength : d.canonicalKey.length + 4 ≤ t.spelling.length := by
    have hle := length_le_escaped t.value
    rw [hspelling, ← hvalue]
    split
    · simp [appendQuoted]
      omega
    · simp
  have hend : 32 ∈ t.spelling → ∃ s, t.spelling = s ++ [34] := by
    intro hmem
    cases hquoted : t.quoted with
    | true => exact ⟨[107, 101, 121, 61] ++ ([34] ++ escaped t.value), by rw [hspelling, hquoted]; simp [appendQuoted]⟩
    | false =>
      have hbare := (hformed.bare hsome hquoted).1
      rw [hspelling, hquoted] at hmem
      rcases List.mem_append.1 hmem with h | h
      · exact absurd h (by decide)
      · exact absurd (hbare 32 h) (by decide)
  have hstart : t.spelling.head? = some 107 := by rw [hspelling]; rfl
  rw [formatSource_eq] at hline
  rcases List.append_eq_append_iff.1 hline with ⟨c, -, hc⟩ | ⟨c, hc, hrest⟩
  · exact no_token_in_key hlength hstart hend htail hhead hc
  · -- only one byte before the key is a `k`
    by_cases hnil : c = []
    · rw [hnil, List.nil_append] at hrest
      exact no_token_in_key hlength hstart hend htail hhead (a := []) hrest.symm
    · have honly : ∀ n < 13, (sourceHead.drop n).head? = some 107 → sourceHead.drop n = [107, 101, 121, 61, 34] := by
        rw [hbefore]
        decide
      have hdrop : sourceHead.drop a.length = c := by rw [hc, List.drop_left]
      have hcount : a.length < 13 := by
        have hlen := congrArg List.length hc
        have hthirteen : sourceHead.length = 13 := by rw [hbefore]; rfl
        have hpos := List.length_pos_of_ne_nil hnil
        rw [hthirteen, List.length_append] at hlen
        omega
      have hfirst : c.head? = some 107 := by
        have h := congrArg List.head? hrest
        rw [List.head?_append, hstart, List.head?_append_of_ne_nil _ hnil] at h
        exact h.symm
      have hkeyword := honly a.length hcount (hdrop ▸ hfirst)
      rw [hdrop] at hkeyword
      rw [hkeyword, hspelling] at hrest
      cases hquoted : t.quoted with
      | true =>
        have hbody : escaped d.canonicalKey ++ 34 :: b = d.canonicalKey ++ 34 :: sourceTail d := by
          rw [hquoted, hvalue] at hrest
          simpa [appendQuoted] using hrest
        exact escaped_ne_self hspecial htail hbody
      | false =>
        have hbare := (hformed.bare hsome hquoted).2
        rw [hquoted, hvalue] at hrest
        rw [hvalue] at hbare
        have hopen : (d.canonicalKey ++ b).head? = some 34 := by
          have h := congrArg (fun l => (l.drop 4).head?) hrest
          simpa using h
        cases hk : d.canonicalKey with
        | nil => simp [hk] at hspecial
        | cons x key => exact hbare (by rw [hk] at hopen ⊢; simpa using hopen)

/-- **Round trip of a source**: whatever else its key holds, it is read back just when there is no quote and no
backslash in it. -/
theorem parse_formatSource_iff (d : SourceDescriptor) (hne : d.canonicalKey ≠ [])
    (hid : d.id = makeId .source d.canonicalKey) (lineNumber : Nat) :
    (∃ r, parseLine (formatSource d) lineNumber = .ok r ∧ r.kind = .Source ∧ r.source = d) ↔
      34 ∉ d.canonicalKey ∧ 92 ∉ d.canonicalKey := by
  constructor
  · rintro ⟨r, hparse, hkind, rfl⟩
    by_contra hspecial
    rw [not_and_or, not_not, not_not] at hspecial
    rcases parseLine_ok hparse with ⟨-, rfl⟩ | ⟨t, ts, hlaid, -, hrecord⟩
    · cases hkind
    · rcases readRecord_ok hrecord with ⟨-, rfl⟩ | ⟨v, tokens, rfl, -, -, hdirective⟩
      · cases hkind
      · rcases hdirective with ⟨-, d, hread, rfl⟩ | ⟨-, _, -, rfl⟩ | ⟨-, _, -, rfl⟩ | ⟨-, _, -, rfl⟩
        · obtain ⟨k, hk, hkey, hvalue⟩ := readSource_ok hread
          have hsome : k.hasValue = true := by
            obtain ⟨s, hs, -⟩ := bind_ok.1 hread
            obtain ⟨s, s', hstep⟩ := foldlM_steps hs k hk
            exact (readSourceField_ok hstep).1
          rw [trimmed_eq (untrimmed_formatSource d)] at hlaid
          obtain ⟨hformed, a, b, hab⟩ := hlaid.occurs k (List.mem_cons_of_mem _ (List.mem_cons_of_mem _ hk))
          exact no_other_key d hformed hkey hsome hvalue hspecial hab
        · cases hkind
        · cases hkind
        · cases hkind
  · rintro ⟨hquote, hslash⟩
    refine ⟨_, parseLine_formatSource d lineNumber hne hid (fun c hc => ⟨?_, ?_⟩), rfl, rfl⟩
    · rintro rfl
      exact hquote hc
    · rintro rfl
      exact hslash hc

/-- A source with the key `fabric-a`. -/
def fabricSource (key : Str) : SourceDescriptor :=
  { id := makeId .source key, canonicalKey := key, authority := 20, capabilities := { assertsCompletion := true } }

theorem parse_formatSource_fabric : ∃ r, parseLine (formatSource (fabricSource (str "fabric-a"))) 1 = .ok r ∧
    r.kind = .Source ∧ r.source = fabricSource (str "fabric-a") :=
  (parse_formatSource_iff (fabricSource (str "fabric-a")) (by with_unfolding_all decide) rfl 1).2
    ⟨by with_unfolding_all decide, by with_unfolding_all decide⟩

/-- The line of a source whose key is `a"b` is refused. -/
theorem parse_formatSource_quote : ¬ ∀ d : SourceDescriptor, d.canonicalKey ≠ [] → 10 ∉ d.canonicalKey →
    d.id = makeId .source d.canonicalKey →
    ∃ r, parseLine (formatSource d) 1 = .ok r ∧ r.kind = .Source ∧ r.source = d := by
  intro h
  obtain ⟨r, hr, -⟩ := h (fabricSource (str "a\"b")) (by with_unfolding_all decide) (by with_unfolding_all decide) rfl
  have hrefused : (parseLine (formatSource (fabricSource (str "a\"b"))) 1).toOption =
      none := by with_unfolding_all decide
  rw [hr] at hrefused
  cases hrefused

end FlowObs.Fo1
