import FlowObs.Text.Line

/-!
# What an accepted line is

The inversion lemmas of `parse_line`: what the tokens of a line are when it is accepted, directive by directive, and
what the identities of an observation are that a line gives.
-/

namespace FlowObs.Fo1

/-! ## Fields -/

theorem lookup_eq_some {α : Type} {table : List α} {name : α → Str} {text : Str} {a : α}
    (h : lookup table name text = some a) : name a = text := by
  have hfound := List.find?_some h
  simpa using hfound

/-- A field of an observation that was read. -/
theorem readObsField_ok {s s' : ObsState} {t : Token} (h : readObsField s t = .ok s') :
    t.hasValue = true ∧ ∃ f o, t.key = f.name ∧ f.set? t.value s.observation = some o ∧ s' = s.note f o := by
  unfold readObsField at h
  split at h
  · cases h
  · rename_i hvalue
    split at h
    · cases h
    · rename_i f hlookup
      obtain ⟨o, hset, h⟩ := bind_ok.1 h
      cases h
      exact ⟨by simpa using hvalue, f, o, (lookup_eq_some hlookup).symm, orFail_eq_ok.1 hset, rfl⟩

/-- A field of a source that was read. -/
theorem readSourceField_ok {s s' : SourceState} {t : Token} (h : readSourceField s t = .ok s') : t.hasValue = true ∧
    (t.key = str "key" ∧ s'.descriptor.canonicalKey = t.value ∧ s'.haveKey = true ∨
      (t.key = str "auth" ∨ t.key = str "caps" ∨ t.key = str "advisory") ∧
        s'.descriptor.canonicalKey = s.descriptor.canonicalKey ∧ s'.haveKey = s.haveKey) := by
  unfold readSourceField at h
  split at h
  · cases h
  · rename_i hvalue
    refine ⟨by simpa using hvalue, ?_⟩
    split at h
    · rename_i hkey
      cases h
      exact .inl ⟨hkey, rfl, rfl⟩
    · split at h
      · rename_i hkey
        obtain ⟨a, -, h⟩ := bind_ok.1 h
        cases h
        exact .inr ⟨.inl hkey, rfl, rfl⟩
      · split at h
        · rename_i hkey
          obtain ⟨c, -, h⟩ := bind_ok.1 h
          cases h
          exact .inr ⟨.inr (.inl hkey), rfl, rfl⟩
        · split at h
          · rename_i hkey
            refine .inr ⟨.inr (.inr hkey), ?_⟩
            split at h
            · cases h
              exact ⟨rfl, rfl⟩
            · split at h
              · cases h
                exact ⟨rfl, rfl⟩
              · cases h
          · cases h

theorem expectVersion_ok {tokens tokens' : List Token} (h : expectVersion tokens = .ok tokens') :
    ∃ t, tokens = t :: tokens' ∧ t.key = str "v" ∧ parseU32 t.value = some kTextObservationVersion := by
  cases tokens with
  | nil => cases h
  | cons t tokens =>
    rw [expectVersion] at h
    split at h
    · cases h
    · rename_i hkey
      obtain ⟨v, hparse, h⟩ := bind_ok.1 h
      split at h
      · cases h
      · rename_i hv
        cases h
        exact ⟨t, rfl, not_not.1 hkey, by rw [orFail_eq_ok.1 hparse, not_not.1 hv]⟩

/-! ## Records -/

/-- An observation that a line gives. -/
theorem readObs_ok {tokens : List Token} {o : Observation} (h : readObs tokens = .ok o) :
    ∃ s : ObsState, tokens.foldlM readObsField {} = .ok s ∧ s.observation = o ∧ s.haveFlow = true ∧
      o.key.incarnation.valid = true ∧ o.subject.generation.valid = true := by
  obtain ⟨s, hs, h⟩ := bind_ok.1 h
  split at h
  · cases h
  split at h
  · cases h
  rename_i hflow
  split at h
  · cases h
  split at h
  · cases h
  split at h
  · cases h
  rename_i hinc
  split at h
  · cases h
  rename_i hgen
  cases h
  exact ⟨s, hs, rfl, by simpa using hflow, by simpa using hinc, by simpa using hgen⟩

/-- The key of a source is the value of one of its `key` tokens. -/
theorem readSource_ok {tokens : List Token} {d : SourceDescriptor} (h : readSource tokens = .ok d) :
    ∃ t ∈ tokens, t.key = str "key" ∧ t.value = d.canonicalKey := by
  obtain ⟨s, hs, h⟩ := bind_ok.1 h
  split at h
  · cases h
  · rename_i hkey
    cases h
    have hinv : s.haveKey = true → ∃ t ∈ tokens, t.key = str "key" ∧ t.value = s.descriptor.canonicalKey := by
      refine foldlM_ok (P := fun s => s.haveKey = true → ∃ t ∈ tokens, t.key = str "key" ∧
        t.value = s.descriptor.canonicalKey)
        (fun t ht s s' hstep hs hhave => ?_) hs nofun
      rcases (readSourceField_ok hstep).2 with ⟨hkey, hvalue, -⟩ | ⟨-, hsame, hflag⟩
      · exact ⟨t, ht, hkey, hvalue.symm⟩
      · rw [hflag] at hhave
        rw [hsame]
        exact hs hhave
    exact hinv (by simp at hkey; exact hkey.1)

/-- **An accepted line**: a comment, or one that is laid out as a directive with tokens that give its record. -/
theorem parseLine_ok {line : Str} {lineNumber : Nat} {r : Record} (h : parseLine line lineNumber = .ok r) :
    (((trimmed line).dropWhile isBlank = [] ∨ ((trimmed line).dropWhile isBlank).head? = some 35) ∧
      r = { line := lineNumber }) ∨
      ∃ t ts, Laid (trimmed line).length (trimmed line) (t :: ts) ∧ ts.length < 64 ∧
      readRecord lineNumber t.key ts = .ok r := by
  unfold parseLine at h
  dsimp only at h
  split at h
  · rename_i hcomment
    cases h
    exact .inl ⟨hcomment, rfl⟩
  · rename_i hsome
    split at h
    · cases h
    · rename_i hnone
      -- a line with something on it has a token
      obtain ⟨hlaid, -⟩ := tokenizeFrom_eq_ok.1 hnone
      exact absurd (.inl (by simpa using hlaid.blank)) hsome
    · rename_i t ts htokens
      obtain ⟨hlaid, hlen⟩ := tokenizeFrom_eq_ok.1 htokens
      refine .inr ⟨t, ts, hlaid, hlen, ?_⟩
      cases hrecord : readRecord lineNumber t.key ts with
      | error e => rw [hrecord] at h; cases h
      | ok r' => rw [hrecord] at h; cases h; rfl

/-- What the record of a directive is read from. -/
theorem readRecord_ok {lineNumber : Nat} {directive : Str} {tokens : List Token} {r : Record}
    (h : readRecord lineNumber directive tokens = .ok r) :
    directive = str "FREEZE" ∧ r = { kind := .Freeze, line := lineNumber } ∨
      ∃ t tokens', tokens = t :: tokens' ∧ t.key = str "v" ∧ parseU32 t.value = some kTextObservationVersion ∧
        ((directive = str "SRC" ∧ ∃ d, readSource tokens' = .ok d ∧
          r = { kind := .Source, line := lineNumber, source := d }) ∨
          (directive = str "AT" ∧ ∃ now, readAt tokens' = .ok now ∧
            r = { kind := .At, line := lineNumber, now := now }) ∨
          (directive = str "TICK" ∧ ∃ now, readTick tokens' = .ok now ∧
            r = { kind := .Tick, line := lineNumber, now := now }) ∨
          (directive = str "OBS" ∧ ∃ o, readObs tokens' = .ok o ∧
            r = { kind := .Observation, line := lineNumber, observation := o })) := by
  unfold readRecord at h
  split at h
  · rename_i hword
    cases h
    exact .inl ⟨hword, rfl⟩
  · refine .inr ?_
    split at h
    · rename_i hword
      obtain ⟨tokens', hversion, h⟩ := bind_ok.1 h
      obtain ⟨d, hd, h⟩ := bind_ok.1 h
      cases h
      obtain ⟨t, ht, hkey, hv⟩ := expectVersion_ok hversion
      exact ⟨t, tokens', ht, hkey, hv, .inl ⟨hword, d, hd, rfl⟩⟩
    · split at h
      · rename_i hword
        obtain ⟨tokens', hversion, h⟩ := bind_ok.1 h
        obtain ⟨now, hnow, h⟩ := bind_ok.1 h
        cases h
        obtain ⟨t, ht, hkey, hv⟩ := expectVersion_ok hversion
        exact ⟨t, tokens', ht, hkey, hv, .inr (.inl ⟨hword, now, hnow, rfl⟩)⟩
      · split at h
        · rename_i hword
          obtain ⟨tokens', hversion, h⟩ := bind_ok.1 h
          obtain ⟨now, hnow, h⟩ := bind_ok.1 h
          cases h
          obtain ⟨t, ht, hkey, hv⟩ := expectVersion_ok hversion
          exact ⟨t, tokens', ht, hkey, hv, .inr (.inr (.inl ⟨hword, now, hnow, rfl⟩))⟩
        · split at h
          · rename_i hword
            obtain ⟨tokens', hversion, h⟩ := bind_ok.1 h
            obtain ⟨o, ho, h⟩ := bind_ok.1 h
            cases h
            obtain ⟨t, ht, hkey, hv⟩ := expectVersion_ok hversion
            exact ⟨t, tokens', ht, hkey, hv, .inr (.inr (.inr ⟨hword, o, ho, rfl⟩))⟩
          · cases h

/-! ## The identities of an observation -/

/-- The identities that the fields of a line give: each is that of its key, when there is one. -/
structure Named (o : Observation) : Prop where
  sourceKey : o.sourceKey = []
  endpoint : o.subject.endpoint = default ∧ o.subject.endpointKey = [] ∨
    o.subject.endpoint = makeId .endpoint o.subject.endpointKey
  peer : o.subject.peerEndpoint = default ∧ o.subject.peerEndpointKey = [] ∨
    o.subject.peerEndpoint = makeId .endpoint o.subject.peerEndpointKey
  path : o.subject.path = none ∧ o.subject.pathKey = [] ∨ o.subject.path = some (makeId .path o.subject.pathKey)
  queue : o.subject.queue = none ∧ o.subject.queueKey = [] ∨ o.subject.queue = some (makeId .queue o.subject.queueKey)
  link : o.subject.link = none ∧ o.subject.linkKey = [] ∨ o.subject.link = some (makeId .link o.subject.linkKey)

/-- **A field keeps the identities those of their keys.** -/
theorem Named.set? {f : ObsField} {v : Str} {o o' : Observation} (h : f.set? v o = some o') (hn : Named o) :
    Named o' := by
  obtain ⟨hsource, hep, hpeer, hpath, hqueue, hlink⟩ := hn
  cases f <;> simp only [ObsField.set?, Option.some.injEq, Option.map_eq_some_iff] at h
  all_goals obtain ⟨_, -, rfl⟩ := h
  case ep => exact ⟨hsource, .inr rfl, hpeer, hpath, hqueue, hlink⟩
  case peer => exact ⟨hsource, hep, .inr rfl, hpath, hqueue, hlink⟩
  case path => exact ⟨hsource, hep, hpeer, .inr rfl, hqueue, hlink⟩
  case queue => exact ⟨hsource, hep, hpeer, hpath, .inr rfl, hlink⟩
  case link => exact ⟨hsource, hep, hpeer, hpath, hqueue, .inr rfl⟩
  all_goals exact ⟨hsource, hep, hpeer, hpath, hqueue, hlink⟩

/-- The flow is that of its key once there was one. -/
theorem flow_set? {f : ObsField} {v : Str} {o o' : Observation} (h : f.set? v o = some o') :
    (f = .flow ∧ o'.subject.flow = makeId .flow o'.subject.flowKey) ∨
      f ≠ .flow ∧ o'.subject.flow = o.subject.flow ∧ o'.subject.flowKey = o.subject.flowKey := by
  cases f <;> simp only [ObsField.set?, Option.some.injEq, Option.map_eq_some_iff] at h
  all_goals obtain ⟨_, -, rfl⟩ := h
  case flow => exact .inl ⟨rfl, rfl⟩
  all_goals exact .inr ⟨by decide, rfl, rfl⟩

/-- **The observation of an accepted line.** -/
theorem parseLine_observation {line : Str} {lineNumber : Nat} {r : Record} (h : parseLine line lineNumber = .ok r)
    (hkind : r.kind = .Observation) : Named r.observation ∧
      r.observation.subject.flow = makeId .flow r.observation.subject.flowKey ∧
      r.observation.key.incarnation.valid = true ∧
      r.observation.subject.generation.valid = true := by
  rcases parseLine_ok h with ⟨-, rfl⟩ | ⟨t, ts, -, -, hrecord⟩
  · cases hkind
  · rcases readRecord_ok hrecord with ⟨-, rfl⟩ | ⟨_, tokens, -, -, -, hdirective⟩
    · cases hkind
    · rcases hdirective with ⟨-, _, -, rfl⟩ | ⟨-, _, -, rfl⟩ | ⟨-, _, -, rfl⟩ | ⟨-, o, hobs, rfl⟩
      · cases hkind
      · cases hkind
      · cases hkind
      · obtain ⟨s, hs, hso, hflow, hinc, hgen⟩ := readObs_ok hobs
        subst hso
        have hinv := foldlM_ok (P := fun s => Named s.observation ∧
            (s.haveFlow = true → s.observation.subject.flow = makeId .flow s.observation.subject.flowKey))
          (fun t _ s s' hstep hs => by
            obtain ⟨-, f, o, -, hset, rfl⟩ := readObsField_ok hstep
            refine ⟨hs.1.set? hset, fun hhave => ?_⟩
            rcases flow_set? hset with ⟨-, heq⟩ | ⟨hne, hflow, hkey⟩
            · exact heq
            · have hbefore : s.haveFlow = true := by simpa [ObsState.note, hne] using hhave
              exact (hflow.trans (hs.2 hbefore)).trans (congrArg (makeId .flow) hkey.symm))
          hs ⟨⟨rfl, .inl ⟨rfl, rfl⟩, .inl ⟨rfl, rfl⟩, .inl ⟨rfl, rfl⟩, .inl ⟨rfl, rfl⟩, .inl ⟨rfl, rfl⟩⟩, nofun⟩
        exact ⟨hinv.1, hinv.2 hflow, hinc, hgen⟩

end FlowObs.Fo1
