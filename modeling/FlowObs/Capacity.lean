import FlowObs.Fold

/-!
# The capacity of a ledger does not show

A ledger that is over its capacity folds its lowest entries into the prefix. While the observations of a source come
in ascending order none of them falls into the folded region, and what the ledger has taken is what it was given
(`Ascended.insert`, `Ascended.insertAll`). Prefix and entries then fold to the fold of all that was accepted, whatever
the capacity (`capacity_does_not_show`).
-/

namespace FlowObs

/-- `set_counter_policy`. -/
def SourceLedger.setCounterPolicy (l : SourceLedger) (policy : CounterPolicy) : SourceLedger :=
  { l with counterPolicy := policy }

/-- The ledger after a sequence of insertions. -/
def SourceLedger.insertAll (l : SourceLedger) (arrivals : List Observation) : SourceLedger :=
  arrivals.foldl (fun l obs => (l.insert obs).1) l

/-- The observations of a sequence that the ledger accepts. -/
def SourceLedger.accepted (l : SourceLedger) : List Observation → List Observation
  | [] => []
  | obs :: arrivals =>
    if (l.insert obs).2.kind = .Accepted then obs :: (l.insert obs).1.accepted arrivals
    else (l.insert obs).1.accepted arrivals

/-- What a view shows of a fold: its accounting, declared terminal, coverage, correlation and instants. -/
structure SourceView.Shows (v : SourceView) (s : FoldState) : Prop where
  forward : v.forward = s.forward ∧ v.forwardTotals = toConsumption s.forward
  reverse : v.reverse = s.reverse ∧ v.reverseTotals = toConsumption s.reverse
  aggregate : v.aggregate = s.aggregate ∧ v.aggregateTotals = toConsumption s.aggregate
  declaredTerminal : v.declaredTerminal = s.declaredTerminal
  declaredCause : v.declaredCause = s.declaredCause
  coverage : v.coverage = s.coverage
  endpoints : v.endpointA = s.endpointA ∧ v.endpointB = s.endpointB
  path : v.path = s.path
  links : v.links = s.links
  queues : v.queues = s.queues ∧ v.hasQueue = s.hasQueue
  hopCapacityUnits : v.hopCapacityUnits = s.hopCapacityUnits
  observed : v.firstObservedAt = s.firstObservedAt ∧ v.lastObservedAt = s.lastObservedAt
  lastReceivedAt : v.lastReceivedAt = s.lastReceivedAt
  lastProgressAt : v.lastProgressAt = s.lastProgressAt

/-! ## Taking what ascends -/

/-- A ledger that has taken observations in ascending order, and refused none as folded or stored before. -/
structure SourceLedger.Ascended (l : SourceLedger) (taken : List Observation) : Prop where
  took : l.Took taken
  bound : l.prefixState.foldedObservations = 0 ∨ ∃ obs ∈ taken, l.prefixState.foldedBound = obs.canonicalKey
  total : l.totalAccepted = UInt64.ofNat taken.length
  suppressed : l.duplicatesSuppressed = 0
  conflicts : l.contentConflicts = 0

/-- The bound of the folded region is the key of the entry that was folded last. -/
theorem foldedBound_foldEntry (policy : CounterPolicy) (s : FoldState) (obs : Observation) :
    (SourceLedger.foldEntry policy s obs).foldedBound = obs.canonicalKey := by
  have hmark : ∀ (s : FoldState) (key : CanonicalKey),
      (s.foldMark key).foldedIncarnation = key.incarnation ∧ (s.foldMark key).foldedEpoch = key.epoch := by
    intro s key
    unfold FoldState.foldMark
    by_cases h : s.foldedIncarnation ≠ key.incarnation ∨ s.foldedEpoch ≠ key.epoch
    · rw [if_pos h]
      exact ⟨rfl, rfl⟩
    · rw [if_neg h]
      replace h : s.foldedIncarnation = key.incarnation ∧ s.foldedEpoch = key.epoch := by simpa using h
      simp only
      split
      · exact h
      · split <;> exact h
  obtain ⟨hincarnation, hepoch⟩ := hmark (applyObservation policy s obs) obs.canonicalKey
  unfold SourceLedger.foldEntry FoldState.foldedBound
  rw [hincarnation, hepoch]
  rfl

/-- Folding entries out leaves the bound where it was or moves it to one of them. -/
theorem SourceLedger.foldedBound_foldOut (l : SourceLedger) (n : Nat) :
    (l.foldOut n).prefixState = l.prefixState ∨
      ∃ obs ∈ l.entries.toList, (l.foldOut n).prefixState.foldedBound = obs.canonicalKey := by
  rcases List.eq_nil_or_concat (l.entries.toList.take n) with hnil | ⟨first, last, hlast⟩
  · left
    unfold foldOut
    rw [hnil]
    simp
  · right
    have hmem : last ∈ l.entries.toList := List.mem_of_mem_take (i := n) (by rw [hlast]; simp)
    refine ⟨last, hmem, ?_⟩
    unfold foldOut
    rw [hlast, List.concat_eq_append, List.foldl_append]
    exact foldedBound_foldEntry l.counterPolicy _ last

theorem SourceLedger.ascended_start (source : SourceId) (generation : FlowGeneration) (capacity : Nat)
    (policy : CounterPolicy) : ((configure source generation capacity).setCounterPolicy policy).Ascended [] :=
  ⟨⟨[], rfl, rfl⟩, .inl rfl, rfl, rfl, rfl⟩

namespace SourceLedger.Ascended

variable {l : SourceLedger} {taken : List Observation} {obs : Observation}

/-- What lies past everything that was taken lies neither in the folded region nor under a retained key. -/
theorem fresh (h : l.Ascended taken) (habove : ∀ o ∈ taken, o.canonicalKey < obs.canonicalKey) :
    l.insideFolded obs = false ∧ ∀ o ∈ l.entries.toList, o.canonicalKey < obs.canonicalKey := by
  obtain ⟨folded, htaken, -⟩ := h.took
  constructor
  · unfold insideFolded
    rcases h.bound with hzero | ⟨o, ho, hbound⟩
    · rw [hzero]
      rfl
    · rw [hbound, canonicalLess_iff.2 (habove o ho)]
      simp
  · intro o ho
    exact habove o (by rw [htaken]; exact List.mem_append_right _ ho)

/-- **An observation past everything that was taken is accepted**, and is what was taken last. -/
theorem insert (h : l.Ascended taken) (hb : l.belongs obs = .ok ())
    (habove : ∀ o ∈ taken, o.canonicalKey < obs.canonicalKey) :
    (l.insert obs).2.kind = .Accepted ∧ (l.insert obs).1.Ascended (taken ++ [obs]) := by
  obtain ⟨hinside, hentries⟩ := h.fresh habove
  have hfind : l.entries.find? obs.canonicalKey = none :=
    SortedVec.find?_eq_none.2 fun o ho => ne_of_lt (hentries o ho)
  let grown : SourceLedger := { l with entries := l.entries.set obs, totalAccepted := l.totalAccepted + 1 }
  have hinsert : l.insert obs = (grown.compactEntries.1,
      { kind := .Accepted, code := .Ok, folded := grown.compactEntries.2 }) := by
    unfold SourceLedger.insert
    simp only [hb, hinside, Bool.false_eq_true, if_false, hfind]
    rfl
  rw [hinsert]
  refine ⟨rfl, ?_⟩
  obtain ⟨n, hn⟩ : ∃ n, grown.compactEntries.1 = grown.foldOut n := ⟨_, compactEntries_foldOut grown⟩
  rw [hn]
  obtain ⟨folded, htaken, hstart⟩ := h.took
  have htook : grown.Took (taken ++ [obs]) := by
    have hset : grown.entries.toList = l.entries.toList ++ [obs] := SortedVec.toList_set_of_lt hentries
    exact ⟨folded, by rw [hset, htaken, List.append_assoc], hstart⟩
  refine ⟨htook.foldOut n, ?_, ?_, h.suppressed, h.conflicts⟩
  · rcases grown.foldedBound_foldOut n with hsame | ⟨o, ho, hbound⟩
    · rw [hsame]
      exact h.bound.imp id fun ⟨o, ho, hbound⟩ => ⟨o, List.mem_append_left _ ho, hbound⟩
    · obtain ⟨folded', htaken', -⟩ := htook
      exact .inr ⟨o, by rw [htaken']; exact List.mem_append_right _ ho, hbound⟩
  · have htotal : l.totalAccepted + 1 = UInt64.ofNat (taken ++ [obs]).length := by
      rw [h.total, List.length_append]
      simp
    exact htotal

/-- What is not of the ledger is refused. -/
theorem insert_foreign {detail : Str} (hb : l.belongs obs = .error detail) :
    (l.insert obs).2.kind = .Refused ∧ (l.insert obs).1 = l := by
  unfold SourceLedger.insert
  simp [hb]

/-- **A ledger takes a sequence that ascends.** It accepts what is its own of it, whatever its capacity. -/
theorem insertAll {arrivals : List Observation} (h : l.Ascended taken)
    (hascending : arrivals.Pairwise (fun a b => a.canonicalKey < b.canonicalKey))
    (habove : ∀ o ∈ taken, ∀ obs ∈ arrivals, o.canonicalKey < obs.canonicalKey) :
    l.accepted arrivals = arrivals.filter (fun obs => l.belongs obs = .ok ()) ∧
      (l.insertAll arrivals).Ascended (taken ++ l.accepted arrivals) := by
  induction arrivals generalizing l taken with
  | nil =>
    refine ⟨rfl, ?_⟩
    show l.Ascended (taken ++ [])
    rw [List.append_nil]
    exact h
  | cons obs arrivals ih =>
    obtain ⟨hfirst, hrest⟩ := List.pairwise_cons.1 hascending
    have hsource := l.insert_source obs
    have hbelongs : ∀ o, (l.insert obs).1.belongs o = l.belongs o := by
      intro o
      unfold belongs
      rw [hsource.1, hsource.2.1]
    cases hb : l.belongs obs with
    | error detail =>
      obtain ⟨hkind, hsame⟩ := insert_foreign hb
      have hskip : l.accepted (obs :: arrivals) = l.accepted arrivals := by
        rw [accepted, hkind, if_neg (by decide), hsame]
      have hgo : l.insertAll (obs :: arrivals) = l.insertAll arrivals := by
        unfold SourceLedger.insertAll
        rw [List.foldl_cons, hsame]
      obtain ⟨haccepted, hafter⟩ := ih h hrest (fun o ho o' ho' => habove o ho o' (List.mem_cons_of_mem _ ho'))
      rw [hskip, hgo, List.filter_cons, hb, if_neg (by simp)]
      exact ⟨haccepted, hafter⟩
    | ok _ =>
      obtain ⟨hkind, hnext⟩ := h.insert hb (fun o ho => habove o ho obs List.mem_cons_self)
      have htakes : l.accepted (obs :: arrivals) = obs :: (l.insert obs).1.accepted arrivals := by
        rw [accepted, if_pos hkind]
      obtain ⟨haccepted, hafter⟩ := ih hnext hrest (by
        intro o ho o' ho'
        rcases List.mem_append.1 ho with ho | ho
        · exact habove o ho o' (List.mem_cons_of_mem _ ho')
        · rw [List.mem_singleton.1 ho]
          exact hfirst o' ho')
      rw [htakes, List.filter_cons, hb, if_pos (by simp)]
      simp only [hbelongs] at haccepted
      rw [List.append_assoc] at hafter
      exact ⟨by rw [haccepted], hafter⟩

end SourceLedger.Ascended

/-! ## The fold of what was taken -/

/-- **A ledger folds to the fold of all that it has taken**, up to the marks of the folded region. -/
theorem SourceLedger.Took.unmark_foldAll {l : SourceLedger} {taken : List Observation} (h : l.Took taken) :
    (l.foldAll l.counterPolicy).unmark = (taken.foldl (applyObservation l.counterPolicy) {}).unmark := by
  obtain ⟨folded, rfl, hstart⟩ := h
  have hfolded : (folded.foldl (foldEntry l.counterPolicy) {}).erase false
      = (folded.foldl (applyObservation l.counterPolicy) {}).erase false :=
    erase_foldl false l.counterPolicy (erase_foldEntry false l.counterPolicy)
      (erase_applyObservation false l.counterPolicy) folded rfl
  unfold SourceLedger.foldAll
  rw [List.foldl_append, hstart]
  exact erase_foldl false l.counterPolicy (erase_applyObservation false l.counterPolicy)
    (erase_applyObservation false l.counterPolicy) l.entries.toList hfolded

/-- Only a terminal state is ever declared by a fold. -/
theorem isTerminal_of_foldl {policy : CounterPolicy} (taken : List Observation) :
    ((taken.foldl (applyObservation policy) {}).declaredTerminal.filter isTerminal)
      = (taken.foldl (applyObservation policy) {}).declaredTerminal := by
  cases hdeclared : (taken.foldl (applyObservation policy) {}).declaredTerminal with
  | none => rfl
  | some declared =>
    have hstep : DeclaresAlike (applyObservation policy) := declaredTerminal_applyObservation policy
    rcases declaredTerminal_foldl hstep taken hdeclared with h | ⟨obs, -, hkind⟩
    · cases h
    · have hterminal : isTerminal declared = true := by
        cases hk : obs.kind <;> rw [hk] at hkind <;> simp [ObservationKind.declares] at hkind <;> rw [← hkind] <;> rfl
      simp [Option.filter, hterminal]

/-! ## Two capacities -/

/-- A ledger of a source in a generation under a counter policy, after a sequence of insertions. -/
def SourceLedger.filled (source : SourceId) (generation : FlowGeneration) (policy : CounterPolicy)
    (arrivals : List Observation) (capacity : Nat) : SourceLedger :=
  ((configure source generation capacity).setCounterPolicy policy).insertAll arrivals

section Filled

variable {source : SourceId} {generation : FlowGeneration} {policy : CounterPolicy} {arrivals : List Observation}

/-- Insertions keep whose ledger it is. -/
theorem insertAll_source (l : SourceLedger) (arrivals : List Observation) :
    (l.insertAll arrivals).source = l.source ∧ (l.insertAll arrivals).generation = l.generation ∧
      (l.insertAll arrivals).counterPolicy = l.counterPolicy ∧ (l.insertAll arrivals).capacity = l.capacity := by
  induction arrivals generalizing l with
  | nil => exact ⟨rfl, rfl, rfl, rfl⟩
  | cons obs arrivals ih =>
    obtain ⟨hsource, hgeneration, hpolicy, hcapacity⟩ := l.insert_source obs
    obtain ⟨hsource', hgeneration', hpolicy', hcapacity'⟩ := ih (l.insert obs).1
    exact ⟨hsource'.trans hsource, hgeneration'.trans hgeneration, hpolicy'.trans hpolicy, hcapacity'.trans hcapacity⟩

/-- **What a filled ledger folds to**: the fold of what it accepted, which is what was its own. -/
theorem filled_folds (hascending : arrivals.Pairwise (fun a b => a.canonicalKey < b.canonicalKey)) (capacity : Nat) :
    let start := (SourceLedger.configure source generation capacity).setCounterPolicy policy
    let ledger := SourceLedger.filled source generation policy arrivals capacity
    start.accepted arrivals = arrivals.filter (fun obs => start.belongs obs = .ok ()) ∧
      ledger.Ascended (start.accepted arrivals) ∧
      (ledger.foldAll policy).unmark = ((start.accepted arrivals).foldl (applyObservation policy) {}).unmark ∧
      ledger.foldedState.toFoldState.unmark =
      ((start.accepted arrivals).foldl (applyObservation policy) {}).unmark := by
  intro start ledger
  have hstart : start.Ascended [] := SourceLedger.ascended_start source generation capacity policy
  obtain ⟨haccepted, hafter⟩ := hstart.insertAll hascending (fun o ho => absurd ho List.not_mem_nil)
  rw [List.nil_append] at hafter
  have hpolicy : ledger.counterPolicy = policy := (insertAll_source start arrivals).2.2.1
  have hfold := hafter.took.unmark_foldAll
  have hpersisted := unmark_foldedState ledger
  have hledger : start.insertAll arrivals = ledger := rfl
  rw [hledger] at hfold
  rw [hpolicy] at hfold hpersisted
  exact ⟨haccepted, hafter, hfold, hpersisted ▸ hfold⟩

/-- A view shows what it is folded from. -/
theorem shows_foldSourceView {ledger : SourceLedger} {taken : List Observation} (descriptor : SourceDescriptor)
    (ctx : FreshnessContext)
    (h : (ledger.foldAll policy).unmark = (taken.foldl (applyObservation policy) {}).unmark) :
    (foldSourceView ledger descriptor ctx policy).Shows (taken.foldl (applyObservation policy) {}) := by
  have hfield : ∀ {α : Type} (field : FoldState → α), (∀ s, field s.unmark = field s) →
      field (ledger.foldAll policy) = field (taken.foldl (applyObservation policy) {}) := by
    intro α field hsame
    rw [← hsame, h, hsame]
  have hforward := hfield FoldState.forward (fun _ => rfl)
  have hreverse := hfield FoldState.reverse (fun _ => rfl)
  have haggregate := hfield FoldState.aggregate (fun _ => rfl)
  have hdeclared := hfield (fun s => s.declaredTerminal.filter isTerminal) (fun _ => rfl)
  exact {
    forward := ⟨hforward, congrArg toConsumption hforward⟩
    reverse := ⟨hreverse, congrArg toConsumption hreverse⟩
    aggregate := ⟨haggregate, congrArg toConsumption haggregate⟩
    declaredTerminal := hdeclared.trans (isTerminal_of_foldl taken)
    declaredCause := hfield FoldState.declaredCause (fun _ => rfl)
    coverage := hfield FoldState.coverage (fun _ => rfl)
    endpoints := ⟨hfield FoldState.endpointA (fun _ => rfl), hfield FoldState.endpointB (fun _ => rfl)⟩
    path := hfield FoldState.path (fun _ => rfl)
    links := hfield FoldState.links (fun _ => rfl)
    queues := ⟨hfield FoldState.queues (fun _ => rfl), hfield FoldState.hasQueue (fun _ => rfl)⟩
    hopCapacityUnits := hfield FoldState.hopCapacityUnits (fun _ => rfl)
    observed := ⟨hfield FoldState.firstObservedAt (fun _ => rfl), hfield FoldState.lastObservedAt (fun _ => rfl)⟩
    lastReceivedAt := hfield FoldState.lastReceivedAt (fun _ => rfl)
    lastProgressAt := hfield FoldState.lastProgressAt (fun _ => rfl) }

/-- A view reads a fold without the marks, and of the ledger only whose it is and what it counts. -/
theorem foldSourceView_congr {l l' : SourceLedger} (descriptor : SourceDescriptor) (ctx : FreshnessContext)
    (hsource : l.source = l'.source) (hfold : (l.foldAll policy).unmark = (l'.foldAll policy).unmark)
    (htotal : l.totalAccepted = l'.totalAccepted) (hsuppressed : l.duplicatesSuppressed = l'.duplicatesSuppressed)
    (hconflicts : l.contentConflicts = l'.contentConflicts) :
    { foldSourceView l descriptor ctx policy with droppedObservations := 0 }
      = { foldSourceView l' descriptor ctx policy with droppedObservations := 0 } := by
  let ofFold (s : FoldState) : SourceView :=
    { foldSourceView { l with prefixState := ⟨s, 0⟩, entries := ∅ } descriptor ctx policy
    with droppedObservations := 0 }
  have hl : ({ foldSourceView l descriptor ctx policy with droppedObservations := 0 } : SourceView)
      = ofFold (l.foldAll policy).unmark := rfl
  have hl' : ({ foldSourceView l' descriptor ctx policy with droppedObservations := 0 } : SourceView)
      = ofFold (l'.foldAll policy).unmark := by
    simp only [ofFold, foldSourceView, hsource, htotal, hsuppressed, hconflicts]
    rfl
  rw [hl, hl', hfold]

/-- **The capacity of a ledger does not show.** For observations that come in ascending order, ledgers of any two
capacities accept the same ones, all that are theirs. Folded under the policy of the ledgers, the views of the two are
alike but for the number of folded observations, and they show the fold of what was accepted. What the ledgers persist
is that fold too, up to the marks of the folded region. -/
theorem capacity_does_not_show (hascending : arrivals.Pairwise (fun a b => a.canonicalKey < b.canonicalKey))
    (descriptor : SourceDescriptor) (ctx : FreshnessContext) (c₁ c₂ : Nat) :
    let accepted := fun c => ((SourceLedger.configure source generation c).setCounterPolicy policy).accepted arrivals
    let ledger := fun c => SourceLedger.filled source generation policy arrivals c
    let view := fun c => foldSourceView (ledger c) descriptor ctx policy
    let whole := (accepted c₁).foldl (applyObservation policy) {}
    (∀ c ∈ [c₁, c₂], accepted c = arrivals.filter (fun obs =>
        (SourceLedger.configure source generation c).belongs obs = .ok ())) ∧ accepted c₁ = accepted c₂ ∧
      { view c₁ with droppedObservations := 0 } = { view c₂ with droppedObservations := 0 } ∧
      (∀ c ∈ [c₁, c₂], (view c).Shows whole ∧ (ledger c).foldedState.toFoldState.unmark = whole.unmark) := by
  intro accepted ledger view whole
  have hfolds := @filled_folds source generation policy arrivals hascending
  have hsame : ∀ c, accepted c = accepted c₁ := by
    intro c
    exact (hfolds c).1.trans (hfolds c₁).1.symm
  have hwhole : ∀ c, ((ledger c).foldAll policy).unmark = whole.unmark := by
    intro c
    have hfold := (hfolds c).2.2.1
    rwa [show SourceLedger.accepted _ arrivals = accepted c from rfl, hsame c] at hfold
  have hcounts : ∀ c, (ledger c).totalAccepted = UInt64.ofNat (accepted c₁).length ∧
      (ledger c).duplicatesSuppressed = 0 ∧ (ledger c).contentConflicts = 0 ∧ (ledger c).source = source := by
    intro c
    have hascended := (hfolds c).2.1
    refine ⟨hsame c ▸ hascended.total, hascended.suppressed, hascended.conflicts, ?_⟩
    exact (insertAll_source _ arrivals).1
  refine ⟨fun c _ => (hfolds c).1, (hsame c₂).symm, ?_, fun c _ => ⟨shows_foldSourceView descriptor ctx (hwhole c), ?_⟩⟩
  · obtain ⟨ht₁, hs₁, hc₁, hl₁⟩ := hcounts c₁
    obtain ⟨ht₂, hs₂, hc₂, hl₂⟩ := hcounts c₂
    exact foldSourceView_congr descriptor ctx (hl₁.trans hl₂.symm) ((hwhole c₁).trans (hwhole c₂).symm)
      (ht₁.trans ht₂.symm) (hs₁.trans hs₂.symm) (hc₁.trans hc₂.symm)
  · have hpersisted := (hfolds c).2.2.2
    rwa [show SourceLedger.accepted _ arrivals = accepted c from rfl, hsame c] at hpersisted

end Filled

/-- A reading of a byte counter, of the source 1 in a generation of the flow 7. -/
def byteReading (revision bytes : UInt64) : Observation :=
  { key := { source := ⟨1⟩, incarnation := ⟨1⟩, epoch := ⟨1⟩, revision := ⟨revision⟩, sequence := ⟨revision⟩ }
    subject := { flow := ⟨7⟩, generation := ⟨1⟩ }
    direction := .Forward
    counters := { bytes := some bytes } }

theorem capacity_does_not_show_readings :
    let arrivals := [byteReading 1 10, byteReading 2 25, byteReading 3 5]
    let start := fun c => (SourceLedger.configure ⟨1⟩ ⟨⟨7⟩, ⟨1⟩⟩ c).setCounterPolicy {}
    let ledger := fun c => SourceLedger.filled ⟨1⟩ ⟨⟨7⟩, ⟨1⟩⟩ {} arrivals c
    let view := fun c => foldSourceView (ledger c) {} {} {}
    let whole := ((start 1).accepted arrivals).foldl (applyObservation {}) {}
    (∀ c ∈ [1, 3], (start c).accepted arrivals = arrivals.filter (fun obs =>
        (SourceLedger.configure ⟨1⟩ ⟨⟨7⟩, ⟨1⟩⟩ c).belongs obs = .ok ())) ∧
      (start 1).accepted arrivals = (start 3).accepted arrivals ∧
      { view 1 with droppedObservations := 0 } = { view 3 with droppedObservations := 0 } ∧
      (∀ c ∈ [1, 3], (view c).Shows whole ∧ (ledger c).foldedState.toFoldState.unmark = whole.unmark) :=
  capacity_does_not_show (by decide) {} {} 1 3

end FlowObs
