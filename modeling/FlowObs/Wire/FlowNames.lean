import FlowObs.Text.Accepted
import FlowObs.Wire.Requests

/-!
# The flow that a request names

A request payload may give a flow in the quoted form of an FO1 line. It is split at spaces before the quotes are taken
off, keeps the escapes, and takes a leading `@` for a raw identity: it names the flow of the line for plain keys, and
else only where the identity of another text is the same (`request_names_flow_iff`).
-/

namespace FlowObs.Wire

open Fo1 (escaped appendQuoted escaped_nil escaped_cons escaped_plain length_lt_escaped)

/-! ## The flow of a request -/

/-- The flow that a request names. -/
def Request.flow? : Request → Option FlowId
  | .query options => options.query.flow
  | .explain flow | .history flow _ | .attribution flow _ => some flow
  | .tick _ => none

/-- How many fields a payload may have. -/
def RequestKind.maxFields : RequestKind → Nat
  | .Query => 32
  | .Explain | .History | .Attribution => 8
  | .Tick => 4

/-- The filter on the state, which a query reads before its flow. -/
def StateKnown (kind : RequestKind) (payload : Str) : Prop :=
  kind = .Query → ∀ text, lastField (words payload) (str "state") = some text → (parseFlowState text).isSome = true

theorem parseIdentity_eq_ok {text : Str} {flow : FlowId} : parseIdentity text = .ok flow ↔
    text ≠ [] ∧ if text.head? = some 64 then parseHex16 text.tail = some flow.value else makeId .flow text = flow := by
  unfold parseIdentity
  by_cases hnil : text = []
  · simp [hnil]
  · rw [if_neg hnil]
    simp only [hnil, not_false_eq_true, ne_eq, true_and]
    split
    · cases parseHex16 text.tail <;> simp [OpaqueId.ext_iff]
    · simp

/-- **The flow that a payload is read to name.** -/
theorem decodes_flow {now : Timestamp} {kind : RequestKind} (hkind : kind ≠ .Tick) {payload : Str} {flow : FlowId} :
    (∃ request, decodeRequest now kind payload = .ok request ∧ request.flow? = some flow) ↔
      Readable kind.maxFields (words payload) ∧ StateKnown kind payload ∧
        ∃ text, lastField (words payload) (str "flow") = some text ∧ parseIdentity text = .ok flow := by
  have hnamed : ∀ (missing : Str) (f : FieldMap × FlowId → Request), (∀ p, (f p).flow? = some p.2) →
      ((∃ request, (decodeNamed missing payload).map f = .ok request ∧ request.flow? = some flow) ↔
        Readable 8 (words payload) ∧ ∃ text, lastField (words payload) (str "flow") = some text ∧
        parseIdentity text = .ok flow) := by
    intro missing f hf
    constructor
    · rintro ⟨request, hrequest, hflow⟩
      obtain ⟨p, hp, rfl⟩ := map_ok.1 hrequest
      obtain ⟨hparse, text, hlast, hid⟩ := decodeNamed_ok.1 hp
      rw [hf p] at hflow
      exact ⟨parseFields_accepts.1 ⟨_, hparse⟩, text, hlast, by rw [hid, Option.some.inj hflow]⟩
    · rintro ⟨hreadable, text, hlast, hid⟩
      obtain ⟨m, hparse⟩ := parseFields_accepts.2 hreadable
      have hp : decodeNamed missing payload = .ok (m, flow) := decodeNamed_ok.2 ⟨hparse, text, hlast, hid⟩
      exact ⟨f (m, flow), map_ok.2 ⟨_, hp, rfl⟩, hf _⟩
  cases kind with
  | Tick => exact absurd rfl hkind
  | Explain =>
    have h := hnamed (str "explain requires flow=<identity>") (fun p => .explain p.2) fun _ => rfl
    simpa [StateKnown, RequestKind.maxFields, decodeRequest] using h
  | History =>
    have h := hnamed (str "history requires flow=<identity>")
      (fun p => .history p.2 (p.1.number (str "limit") 64)) fun _ => rfl
    simpa [StateKnown, RequestKind.maxFields, decodeRequest] using h
  | Attribution =>
    have h := hnamed (str "attribution requires flow=<identity>")
      (fun p => .attribution p.2 ⟨p.1.number (str "generation") 0⟩)
      fun _ => rfl
    simpa [StateKnown, RequestKind.maxFields, decodeRequest] using h
  | Query =>
    unfold decodeRequest decodeQuery
    dsimp only [RequestKind.maxFields]
    cases hparse : parseFields payload 32 with
    | error err =>
      have hnot := not_readable hparse
      simp [hnot]
    | ok m =>
      have hreadable : Readable 32 (words payload) := parseFields_accepts.1 ⟨m, hparse⟩
      have hstates : StateKnown .Query payload ↔ ∃ state, decodeState m = .ok state := by
        rw [decodeState_ok hparse]
        simp [StateKnown]
      simp only [hreadable, hstates, true_and]
      constructor
      · rintro ⟨request, hrequest, hflow⟩
        obtain ⟨state, hstate, hrequest⟩ := bind_ok.1 hrequest
        obtain ⟨id?, hid?, hrequest⟩ := bind_ok.1 hrequest
        cases hrequest
        rcases (decodeFlow_eq hparse).1 hid? with ⟨-, rfl⟩ | ⟨text, id, hlast, hid, rfl⟩
        · cases hflow
        · cases hflow
          exact ⟨⟨state, hstate⟩, text, hlast, hid⟩
      · rintro ⟨⟨state, hstate⟩, text, hlast, hid⟩
        have hflow := (decodeFlow_eq hparse).2 (.inr ⟨text, flow, hlast, hid, rfl⟩)
        exact ⟨_, bind_ok.2 ⟨state, hstate, bind_ok.2 ⟨some flow, hflow, rfl⟩⟩, rfl⟩

/-! ## Fields in payloads -/

theorem fieldsOf_append (ws us : List Str) : fieldsOf (ws ++ us) = fieldsOf ws ++ fieldsOf us := List.filterMap_append

/-- Fields of other keys do not count. -/
theorem lastField_append_of_ne {ws us : List Str} {name : Str}
    (h : ∀ w ∈ us, ∀ key value, splitField w = some (key, value) → key ≠ name) : lastField (ws ++ us) name =
    lastField ws name := by
  have hnone : (fieldsOf us).reverse.find? (fun f => f.1 = name) = none := by
    rw [List.find?_eq_none]
    intro f hf
    obtain ⟨w, hw, hsplit⟩ := List.mem_filterMap.1 (List.mem_reverse.1 hf)
    simpa using h w hw f.1 f.2 hsplit
  unfold lastField
  rw [fieldsOf_append, List.reverse_append, List.find?_append, hnone, Option.none_or]

/-- The last field of a key is a word. -/
theorem lastField_mem {ws : List Str} {name value : Str} (h : lastField ws name = some value) :
    ∃ w ∈ ws, splitField w = some (name, value) := by
  obtain ⟨⟨key, value'⟩, hfind, rfl⟩ := Option.map_eq_some_iff.1 h
  have hkey : key = name := by simpa using List.find?_some hfind
  obtain ⟨w, hw, hsplit⟩ := List.mem_filterMap.1 (List.mem_reverse.1 (List.mem_of_find?_eq_some hfind))
  exact ⟨w, hw, by rw [hsplit, hkey]⟩

/-- The bytes of a value stand in its word. -/
theorem mem_splitField {w key value : Str} (h : splitField w = some (key, value)) : ∀ c ∈ value, c ∈ w := by
  unfold splitField at h
  split at h
  · cases h
  · rename_i d rest hdrop
    have hrest : ∀ c ∈ rest, c ∈ w := by
      intro c hc
      have hmem : c ∈ w.dropWhile (· != 61) := by
        rw [hdrop]
        exact List.mem_cons_of_mem _ hc
      exact (List.dropWhile_sublist _).mem hmem
    split at h
    · cases h
    · cases h
      intro c hc
      refine hrest c ?_
      unfold unquoted at hc
      split at hc
      · exact List.mem_of_mem_tail ((List.dropLast_sublist _).mem hc)
      · exact hc

/-- The count of keys is at most that of the words. -/
theorem keyCount_le (ws : List Str) : keyCount ws ≤ ws.length := by
  refine (List.dedup_sublist _).length_le.trans ?_
  rw [List.length_map]
  exact List.length_filterMap_le _ _

/-! ## The quoted form -/

/-- The field `flow` with a key in quotes. -/
def flowField (key : Str) : Str := str "flow=" ++ appendQuoted key

/-- A key that is the same without quotes and escapes, and is not taken for a raw identity. -/
structure PlainKey (key : Str) : Prop where
  nonempty : key ≠ []
  named : key.head? ≠ some 64
  plain : ∀ c ∈ key, isSpace c = false ∧ c ≠ 34 ∧ c ≠ 92

/-- Text around a field: other fields, separated from it, for which there is room. -/
structure Surroundings (kind : RequestKind) (before after : Str) : Prop where
  front : before = [] ∨ ∃ text sep, before = text ++ [sep] ∧ isSpace sep = true
  back : after = [] ∨ ∃ sep text, after = sep :: text ∧ isSpace sep = true
  fields : ∀ w ∈ words before ++ words after, ∃ key value, splitField w = some (key, value) ∧ key ≠ str "flow" ∧
    (kind = .Query → key = str "state" → (parseFlowState value).isSome = true)
  room : (words before ++ words after).length < kind.maxFields

/-- What stands in the quotes is the key or the backslash of an escape. -/
theorem mem_escaped {key : Str} {c : UInt8} (h : c ∈ escaped key) : c ∈ key ∨ c = 92 := by
  induction key with
  | nil => simp at h
  | cons d key ih =>
    rw [escaped_cons] at h
    rcases List.mem_append.1 h with h | h
    · split at h
      · rcases List.mem_cons.1 h with rfl | h
        · exact .inr rfl
        · exact .inl (by rw [List.mem_singleton.1 h]; exact List.mem_cons_self)
      · exact .inl (by rw [List.mem_singleton.1 h]; exact List.mem_cons_self)
    · rcases ih h with h | h
      · exact .inl (List.mem_cons_of_mem _ h)
      · exact .inr h

/-- **The value of a quoted field is the escaped key.** -/
theorem splitField_flowField (key : Str) : splitField (flowField key) = some (str "flow", escaped key) := by
  have hname : str "flow=" = str "flow" ++ [61] := by with_unfolding_all decide
  have hkey : ∀ c ∈ str "flow", (c != 61) = true := List.all_eq_true.1 (by with_unfolding_all decide)
  have hne : str "flow" ≠ [] := by with_unfolding_all decide
  obtain ⟨htake, hdrop⟩ := @Fo1.span_eq (· != 61) (str "flow") (61 :: appendQuoted key) hkey (fun c hc => by
    rw [← Option.some.inj hc]
    rfl)
  have hline : flowField key = str "flow" ++ 61 :: appendQuoted key := by simp [flowField, hname]
  have hvalue : unquoted (appendQuoted key) = escaped key := by
    unfold unquoted appendQuoted
    rw [if_pos ⟨by simp, by simp, List.getLast?_concat⟩]
    simp
  rw [splitField, hline, hdrop, htake]
  dsimp only
  rw [if_neg hne, hvalue]

/-- A key without spaces is one word. -/
theorem words_flowField {key : Str} (h : ∀ c ∈ key, isSpace c = false) : words (flowField key) = [flowField key] := by
  have hname : ∀ c ∈ str "flow=", isSpace c = false := by
    have h : (str "flow=").all (fun c => !isSpace c) = true := by with_unfolding_all decide
    simpa using h
  refine words_singleton (by simp [flowField, appendQuoted]) fun c hc => ?_
  simp only [flowField, appendQuoted, List.mem_append, List.mem_singleton] at hc
  rcases hc with hc | (rfl | hc) | rfl
  · exact hname c hc
  · rfl
  · rcases mem_escaped hc with hc | rfl
    · exact h c hc
    · rfl
  · rfl

/-- The words of a payload around a text. -/
theorem words_surrounded {kind : RequestKind} {before after : Str} (hs : Surroundings kind before after) (text : Str) :
    words (before ++ (text ++ after)) = words before ++ (words text ++ words after) := by
  have hafter : words (text ++ after) = words text ++ words after := by
    rcases hs.back with rfl | ⟨sep, rest, rfl, hsep⟩
    · simp
    · have hrest := words_append hsep [] rest
      rw [List.nil_append, words_nil, List.nil_append] at hrest
      rw [words_append hsep, hrest]
  rcases hs.front with rfl | ⟨rest, sep, rfl, hsep⟩
  · rw [List.nil_append, words_nil, List.nil_append, hafter]
  · have hrest := words_append hsep rest []
    rw [words_nil, List.append_nil] at hrest
    rw [List.append_assoc, List.singleton_append, words_append hsep, hafter, hrest]

section Quoted

variable {kind : RequestKind} {before after key : Str}

/-- **A key without spaces is read as what stands in the quotes.** -/
theorem flow_unspaced (hs : Surroundings kind before after) (hspaces : ∀ c ∈ key, isSpace c = false) :
    Readable kind.maxFields (words (before ++ (flowField key ++ after))) ∧
    StateKnown kind (before ++ (flowField key ++ after)) ∧
      lastField (words (before ++ (flowField key ++ after))) (str "flow") = some (escaped key) := by
  have hstate : str "flow" ≠ str "state" := by with_unfolding_all decide
  have hsplit := splitField_flowField key
  have hwords : words (before ++ (flowField key ++ after)) = words before ++ [flowField key] ++ words after := by
    rw [words_surrounded hs, words_flowField hspaces, List.append_assoc]
  rw [StateKnown, hwords]
  refine ⟨⟨fun w hw => ?_, fun _ => ?_⟩, fun hquery text hlast => ?_, ?_⟩
  · simp only [List.mem_append, List.mem_singleton] at hw
    rcases hw with (hw | rfl) | hw
    · obtain ⟨_, _, hfield, -⟩ := hs.fields w (List.mem_append_left _ hw)
      rw [hfield]
      rfl
    · rw [hsplit]
      rfl
    · obtain ⟨_, _, hfield, -⟩ := hs.fields w (List.mem_append_right _ hw)
      rw [hfield]
      rfl
  · have hroom := hs.room
    have hle := keyCount_le (words before ++ [flowField key] ++ words after).dropLast
    simp only [List.length_dropLast, List.length_append, List.length_singleton] at hle hroom
    omega
  · obtain ⟨w, hw, hfield⟩ := lastField_mem hlast
    simp only [List.mem_append, List.mem_singleton] at hw
    have hother : ∀ w ∈ words before ++ words after, splitField w = some (str "state", text) →
        (parseFlowState text).isSome = true := by
      intro w hw hfield
      obtain ⟨_, _, hfield', -, hknown⟩ := hs.fields w hw
      rw [hfield'] at hfield
      cases hfield
      exact hknown hquery rfl
    rcases hw with (hw | rfl) | hw
    · exact hother w (List.mem_append_left _ hw) hfield
    · rw [hsplit] at hfield
      exact absurd (congrArg Prod.fst (Option.some.inj hfield)) hstate
    · exact hother w (List.mem_append_right _ hw) hfield
  · rw [lastField_append_of_ne, lastField_concat hsplit, if_pos rfl]
    intro w hw name value hfield
    obtain ⟨_, _, hfield', hne, -⟩ := hs.fields w (List.mem_append_right _ hw)
    rw [hfield'] at hfield
    cases hfield
    exact hne

/-- The identity of another text than the key happens to be that of the key: of the text that the last field `flow`
among the words of the payload has, or of the digits behind its `@`. -/
def Coincides (kind : RequestKind) (payload key : Str) : Prop :=
  Readable kind.maxFields (words payload) ∧ StateKnown kind payload ∧
    ∃ text, lastField (words payload) (str "flow") = some text ∧ text ≠ [] ∧
      if text.head? = some 64 then parseHex16 text.tail = some (makeId .flow key).value
      else text ≠ key ∧ makeId .flow text = makeId .flow key

/-- **A quoted key names its flow** just when it is plain, or by a coincidence. -/
theorem names_flow_iff (now : Timestamp) (hkind : kind ≠ .Tick) (hs : Surroundings kind before after) :
    (∃ request, decodeRequest now kind (before ++ (flowField key ++ after)) = .ok request ∧
      request.flow? = some (makeId .flow key)) ↔
      PlainKey key ∨ Coincides kind (before ++ (flowField key ++ after)) key := by
  rw [decodes_flow hkind]
  constructor
  · rintro ⟨hreadable, hstate, text, hlast, hid⟩
    obtain ⟨hne, hid⟩ := parseIdentity_eq_ok.1 hid
    by_cases hhead : text.head? = some 64
    · rw [if_pos hhead] at hid
      exact .inr ⟨hreadable, hstate, text, hlast, hne, by rwa [if_pos hhead]⟩
    · rw [if_neg hhead] at hid
      by_cases hsame : text = key
      · subst hsame
        obtain ⟨w, hw, hfield⟩ := lastField_mem hlast
        have hspaces : ∀ c ∈ text, isSpace c = false := fun c hc => isSpace_words hw c (mem_splitField hfield c hc)
        have hescaped : escaped text = text := by
          have hread := (flow_unspaced hs hspaces).2.2
          rw [hlast] at hread
          exact (Option.some.inj hread).symm
        -- an escape would make what stands in the quotes longer
        have hshort : ∀ c ∈ text, ¬ (c = 34 ∨ c = 92) := by
          intro c hc hquote
          have hlt := length_lt_escaped hquote hc
          rw [hescaped] at hlt
          exact absurd hlt (Nat.lt_irrefl _)
        exact .inl ⟨hne, hhead, fun c hc => ⟨hspaces c hc, not_or.1 (hshort c hc)⟩⟩
      · exact .inr ⟨hreadable, hstate, text, hlast, hne, by rw [if_neg hhead]; exact ⟨hsame, hid⟩⟩
  · rintro (hplain | ⟨hreadable, hstate, text, hlast, hne, hid⟩)
    · obtain ⟨hreadable, hstate, hlast⟩ := flow_unspaced hs fun c hc => (hplain.plain c hc).1
      rw [escaped_plain fun c hc => (hplain.plain c hc).2] at hlast
      refine ⟨hreadable, hstate, key, hlast, parseIdentity_eq_ok.2 ⟨hplain.nonempty, ?_⟩⟩
      rw [if_neg hplain.named]
    · refine ⟨hreadable, hstate, text, hlast, parseIdentity_eq_ok.2 ⟨hne, ?_⟩⟩
      by_cases hhead : text.head? = some 64
      · rw [if_pos hhead] at hid ⊢
        exact hid
      · rw [if_neg hhead] at hid ⊢
        exact hid.2

end Quoted

/-! ## Requests and evidence -/

/-- **A request names the flow of an observation** by its key in quotes just when the key is plain, or by a
coincidence. -/
theorem request_names_flow_iff {line : Str} {lineNumber : Nat} {r : Fo1.Record}
    (h : Fo1.parseLine line lineNumber = .ok r)
    (hobs : r.kind = .Observation) {kind : RequestKind} (hkind : kind ≠ .Tick) {before after : Str}
    (hs : Surroundings kind before after) (now : Timestamp) :
    (∃ request, decodeRequest now kind (before ++ (flowField r.observation.subject.flowKey ++ after)) = .ok request ∧
      request.flow? = some r.observation.subject.flow) ↔
      PlainKey r.observation.subject.flowKey ∨
        Coincides kind (before ++ (flowField r.observation.subject.flowKey ++ after))
          r.observation.subject.flowKey := by
  rw [(Fo1.parseLine_observation h hobs).2.1]
  exact names_flow_iff now hkind hs

/-- A line of evidence about a flow. -/
def evidenceLine (key : Str) : Str :=
  str "OBS v=1 src=\"s\" inc=1 epoch=1 rev=1 seq=1 " ++ flowField key ++
  str " gen=1 obs=5 kind=open dir=forward ev=complete"

theorem evidenceLine_accepted {key : Str} (h : ((Fo1.parseLine (evidenceLine key) 1).toOption.map fun r =>
    (r.kind == .Observation && r.observation.subject.flowKey == key)) = some true) :
    ∃ r, Fo1.parseLine (evidenceLine key) 1 = .ok r ∧ r.kind = .Observation ∧ r.observation.subject.flowKey = key := by
  cases hline : Fo1.parseLine (evidenceLine key) 1 with
  | error err =>
    rw [hline] at h
    cases h
  | ok r =>
    rw [hline] at h
    simpa [Except.toOption] using h

theorem surrounded_alone : Surroundings .Explain [] [] := ⟨.inl rfl, .inl rfl, by simp, by decide⟩

theorem request_names_flow_iff_plain : ∃ r, Fo1.parseLine (evidenceLine (str "tenant-7/flow-1")) 1 = .ok r ∧
    ∃ request, decodeRequest ⟨0⟩ .Explain ([] ++ (flowField r.observation.subject.flowKey ++ [])) = .ok request ∧
      request.flow? = some r.observation.subject.flow := by
  obtain ⟨r, hr, hobs, hkey⟩ := @evidenceLine_accepted (str "tenant-7/flow-1") (by with_unfolding_all decide)
  have hplain : PlainKey (str "tenant-7/flow-1") := by constructor <;> decide +kernel
  exact ⟨r, hr, (request_names_flow_iff hr hobs (by decide) surrounded_alone ⟨0⟩).2 (.inl (hkey ▸ hplain))⟩

/-- A key with a space is cut at it. -/
theorem request_names_flow_spaced :
    ¬ ∀ (line : Str) (lineNumber : Nat) (r : Fo1.Record), Fo1.parseLine line lineNumber = .ok r →
    r.kind = .Observation → ∀ kind : RequestKind, kind ≠ .Tick → ∀ before after : Str, Surroundings kind before after →
      ∀ now : Timestamp, ∃ request, decodeRequest now kind
        (before ++ (flowField r.observation.subject.flowKey ++ after)) = .ok request ∧
        request.flow? = some r.observation.subject.flow := by
  intro hall
  obtain ⟨r, hr, hobs, hkey⟩ := @evidenceLine_accepted (str "tenant 7") (by with_unfolding_all decide)
  obtain ⟨request, hrequest, -⟩ := hall _ 1 r hr hobs .Explain (by decide) [] [] surrounded_alone ⟨0⟩
  rw [hkey, List.nil_append, List.append_nil] at hrequest
  have hrefused : (decodeRequest ⟨0⟩ .Explain (flowField (str "tenant 7"))).toOption =
      none := by with_unfolding_all decide
  rw [hrequest] at hrefused
  cases hrefused

end FlowObs.Wire
