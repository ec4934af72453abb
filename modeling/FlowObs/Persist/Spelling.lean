import FlowObs.Persist.ObsCodec
import FlowObs.Lib.Canonical

/-!
# One spelling of an observation

Every reader of the observation codec is canonical: flags are zero or one, a value that is absent leaves nothing
behind its flag, a count says how many items follow. So the bytes that are decoded are the ones that are encoded again
(`spells_decodeObservation`), and together with reading back, encoding and decoding are inverse to each other on what
the decoder accepts (`observation_codec_canonical`).
-/

namespace FlowObs

open Binary

/-! ## Fields -/

theorem spells_readCapabilities : Spells readCapabilities writeCapabilities := by
  refine spells_bind spells_readBoolean fun _ => spells_bind spells_readBoolean fun _ => ?_
  refine spells_bind spells_readBoolean fun _ => spells_bind spells_readBoolean fun _ => ?_
  refine spells_bind spells_readBoolean fun _ => spells_bind spells_readBoolean fun _ => consumes_pure ?_
  simp [writeCapabilities]

theorem spells_readId (d : IdDomain) : Spells (readId d) putId := spells_readU64.map fun _ => rfl
theorem spells_readNum (d : NumDomain) : Spells (readNum d) putNum := spells_readU64.map fun _ => rfl
theorem spells_readTime : Spells readTime putTime := spells_readI64.map fun _ => rfl
theorem spells_readDuration : Spells readDuration putDuration := spells_readI64.map fun _ => rfl

/-- A byte that names a value of a table is the position of that value. -/
theorem toU8_of_getElem? {α : Type} {values : List α} {toU8 : α → UInt8} {b : UInt8} {a : α}
    (h : ∀ i (hi : i < values.length), toU8 values[i] = UInt8.ofNat i) (hb : values[b.toNat]? = some a) :
    toU8 a = b := by
  obtain ⟨hi, rfl⟩ := List.getElem?_eq_some_iff.1 hb
  rw [h b.toNat hi, UInt8.ofNat_toNat]

theorem spells_readKind : Spells (readEnum ObservationKind.ofU8?) (fun k => u8 k.toU8) :=
  spells_readEnum fun _ _ => toU8_of_getElem? (by decide)
theorem spells_readDirection : Spells (readEnum Direction.ofU8?) (fun k => u8 k.toU8) :=
  spells_readEnum fun _ _ => toU8_of_getElem? (by decide)
theorem spells_readEvidence : Spells (readEnum Evidence.ofU8?) (fun k => u8 k.toU8) :=
  spells_readEnum fun _ _ => toU8_of_getElem? (by decide)

/-! ## Observations -/

theorem spells_readKey : Spells readKey putKey := by
  refine spells_bind (spells_readId _) fun _ => spells_bind (spells_readNum _) fun _ => ?_
  refine spells_bind (spells_readNum _) fun _ => spells_bind (spells_readNum _) fun _ => ?_
  refine spells_bind (spells_readNum _) fun _ => consumes_pure ?_
  simp [putKey]

theorem spells_readSubjectIds : Spells readSubjectIds putSubjectIds := by
  refine spells_bind (spells_readId _) fun _ => spells_bind (spells_readNum _) fun _ => ?_
  refine spells_bind (spells_readId _) fun _ => spells_bind (spells_readId _) fun _ => ?_
  refine spells_bind (spells_readOptional (spells_readId _)) fun _ =>
    spells_bind (spells_readOptional (spells_readId _)) fun _ => ?_
  refine spells_bind (spells_readOptional (spells_readId _)) fun _ => ?_
  refine spells_bind (spells_readOptional (spells_readNum _)) fun _ => consumes_pure ?_
  simp [putSubjectIds]

/-- The capacities and the keys are added to a subject whose identities stay. -/
theorem consumes_readSubjectKeys (limits : Limits) (ids : ObservationSubject) : Consumes (readSubjectKeys limits ids)
    (fun s used => putSubjectIds s = putSubjectIds ids ∧ used = putSubjectKeys s) := by
  refine spells_bind (spells_readList spells_readU64 _) fun _ => spells_bind (spells_readBlob _) fun _ => ?_
  refine spells_bind (spells_readBlob _) fun _ => spells_bind (spells_readBlob _) fun _ => ?_
  refine spells_bind (spells_readBlob _) fun _ => spells_bind (spells_readBlob _) fun _ => ?_
  refine spells_bind (spells_readBlob _) fun _ => consumes_pure ⟨rfl, ?_⟩
  simp [putSubjectKeys]

/-- What an observation says is added to one whose version, key, capabilities and subject stay. -/
theorem consumes_readContent (o : Observation) :
    Consumes (readContent o) (fun o' used => o'.schemaVersion = o.schemaVersion ∧
    o'.key = o.key ∧ o'.capabilities = o.capabilities ∧ o'.subject = o.subject ∧ used = putContent o') := by
  have hcount : Spells (readOptional readU64) (optional u64) := spells_readOptional spells_readU64
  have hduration : Spells (readOptional readDuration) (optional putDuration) := spells_readOptional spells_readDuration
  refine spells_bind spells_readTime fun _ => spells_bind spells_readTime fun _ => ?_
  refine spells_bind spells_readKind fun _ => spells_bind spells_readDirection fun _ => ?_
  refine spells_bind spells_readEvidence fun _ => spells_bind hcount fun _ => spells_bind hcount fun _ => ?_
  refine spells_bind hcount fun _ => spells_bind hduration fun _ => spells_bind hduration fun _ => ?_
  refine consumes_pure ⟨rfl, rfl, rfl, rfl, ?_⟩
  simp [putContent]

/-- **The decoder takes nothing but what the encoder writes.** -/
theorem spells_decodeObservation (limits : Limits) : Spells (decodeObservation limits) encodeObservation := by
  refine spells_bind spells_readU32 fun version => spells_bind spells_readKey fun key => ?_
  refine spells_bind spells_readCapabilities fun capabilities => spells_bind spells_readSubjectIds fun ids => ?_
  refine consumes_bind (consumes_readSubjectKeys limits ids) ?_
  rintro subject _ ⟨hids, rfl⟩
  refine (consumes_readContent _).mono ?_
  rintro o _ ⟨hversion, hkey, hcapabilities, hsubject, rfl⟩
  simp [encodeObservation, hversion, hkey, hcapabilities, hsubject, hids]

/-- **Encoding and decoding are inverse to each other**, but for the source's canonical key, which is not written: an
observation within the bounds is decoded from its encoding, and bytes that are decoded to their end are the encoding
of what they give. So no two payloads decode to one observation. -/
theorem observation_codec_canonical {limits : Limits} (hv : limits.validate = .ok ()) :
    (∀ o : Observation, o.Decodable limits →
      (decodeObservation limits).run (encodeObservation o) = some ({ o with sourceKey := [] }, [])) ∧
    (∀ bytes o, (decodeObservation limits).run bytes = some (o, []) → encodeObservation o = bytes) ∧
    ∀ bytes bytes' o, (decodeObservation limits).run bytes = some (o, []) →
      (decodeObservation limits).run bytes' = some (o, []) → bytes = bytes' := by
  refine ⟨fun o ho => ?_, fun bytes o hr => ?_, fun bytes bytes' o hr hr' => ?_⟩
  · have hwidth := (Limits.valid_of_validate hv).lt_width.1
    exact (decodeObservation_encode_iff hwidth).2 ho
  · have hbytes := (spells_decodeObservation limits).eq hr
    rw [hbytes, List.append_nil]
  · exact (spells_decodeObservation limits).injective hr hr'

/-- An observation with a byte counter and a queue. -/
def queuedSample : Observation where
  key := { source := ⟨7⟩, incarnation := ⟨1⟩, epoch := ⟨1⟩, revision := ⟨3⟩, sequence := ⟨3⟩ }
  subject := { flow := flowIdFromKey (str "f"), generation := ⟨1⟩, flowKey := str "f", queue := some ⟨9⟩, queueKey := str "q" }
  observedAt := ⟨900⟩
  receivedAt := ⟨950⟩
  kind := .Sample
  evidence := .Complete
  direction := .Forward
  counters := { bytes := some 10 }

theorem observation_codec_canonical_queued :
    (decodeObservation {}).run (encodeObservation queuedSample) = some (queuedSample, []) ∧
      ∀ bytes, (decodeObservation {}).run bytes = some (queuedSample, []) → encodeObservation queuedSample = bytes := by
  obtain ⟨hread, hspell, -⟩ := @observation_codec_canonical {} (by decide)
  refine ⟨hread queuedSample ?_, fun bytes => hspell bytes queuedSample⟩
  constructor <;> with_unfolding_all decide

end FlowObs
