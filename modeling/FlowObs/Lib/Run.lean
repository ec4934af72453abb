import Mathlib.Tactic.Common
import Mathlib.Data.List.Chain

/-!
# Runs of a transition function

A run is a list of inputs fed one after the other to a total step function (`exec`). `Along step cond s l` says that
every step of the run from `s` meets `cond` in the state it is taken from. What one step preserves a run preserves
(`Along.invariant`, and in both directions `forall_prefix_iff`), and what relates one step of two systems relates their
runs (`Along.simulation`). Where a step goes through states of its own, `trail passes step s l` lists them all, and what
relates each to the next is carried along (`isChain_trail`, `forall_of_isChain`, `isChain_of_carried`).
-/

namespace FlowObs.Run

variable {σ τ ι : Type}

/-- The state after a run. -/
def exec (step : σ → ι → σ) (s : σ) (l : List ι) : σ := l.foldl step s

@[simp] theorem exec_nil (step : σ → ι → σ) (s : σ) : exec step s [] = s := rfl
@[simp] theorem exec_cons (step : σ → ι → σ) (s : σ) (i : ι) (l : List ι) :
    exec step s (i :: l) = exec step (step s i) l := rfl
theorem exec_append (step : σ → ι → σ) (s : σ) (l m : List ι) :
    exec step s (l ++ m) = exec step (exec step s l) m := List.foldl_append

/-- Every step of the run meets `cond` in the state it is taken from. -/
def Along (step : σ → ι → σ) (cond : σ → ι → Prop) : σ → List ι → Prop
  | _, [] => True
  | s, i :: l => cond s i ∧ Along step cond (step s i) l

variable {step : σ → ι → σ} {cond cond' : σ → ι → Prop}

instance decidableAlong [∀ s i, Decidable (cond s i)] : ∀ (s : σ) (l : List ι), Decidable (Along step cond s l)
  | _, [] => isTrue trivial
  | s, i :: l => @instDecidableAnd _ _ _ (decidableAlong (step s i) l)

theorem along_append : ∀ {s : σ} {l m : List ι},
    Along step cond s (l ++ m) ↔ Along step cond s l ∧ Along step cond (exec step s l) m
  | _, [], _ => by simp [Along]
  | s, i :: l, m => by simp [Along, along_append (l := l), and_assoc]

/-- A condition on the inputs alone holds along a run of inputs that meet it. -/
theorem along_of_forall : ∀ {s : σ} {l : List ι}, (∀ i ∈ l, ∀ s, cond s i) → Along step cond s l
  | _, [], _ => trivial
  | s, i :: _, h => ⟨h i List.mem_cons_self s, along_of_forall fun j hj => h j (List.mem_cons_of_mem _ hj)⟩

/-- A condition that follows from an invariant and another condition holds along the run too. -/
theorem Along.strengthen {P : σ → Prop} (hstep : ∀ s i, P s → cond s i → P (step s i))
    (h : ∀ s i, P s → cond s i → cond' s i) : ∀ {s : σ} {l : List ι}, P s → Along step cond s l → Along step cond' s l
  | _, [], _, _ => trivial
  | s, i :: _, hs, hl => ⟨h s i hs hl.1, Along.strengthen hstep h (hstep s i hs hl.1) hl.2⟩

/-- **What a step preserves, a run preserves.** -/
theorem Along.invariant {P : σ → Prop} (hstep : ∀ s i, P s → cond s i → P (step s i)) :
    ∀ {s : σ} {l : List ι}, P s → Along step cond s l → P (exec step s l)
  | _, [], hs, _ => hs
  | s, i :: l, hs, hl => Along.invariant (s := step s i) (l := l) hstep (hstep s i hs hl.1) hl.2

/-- **A property holds in every state of a run exactly when each step meets the condition**, where the condition
carries an invariant on that gives the property, and a step that keeps the property meets it. -/
theorem forall_prefix_iff {P Q : σ → Prop} (hholds : ∀ s, Q s → P s) (hkeeps : ∀ s i, Q s → cond s i → Q (step s i))
    (hneeds : ∀ s i, Q s → P (step s i) → cond s i) : ∀ {s : σ} {l : List ι}, Q s →
      ((∀ before, before <+: l → P (exec step s before)) ↔ Along step cond s l)
  | s, [], hs => ⟨fun _ => trivial, fun _ before hb => by rw [List.prefix_nil.1 hb]; exact hholds s hs⟩
  | s, i :: l, hs => by
    constructor
    · intro h
      have hi : cond s i := hneeds s i hs (h [i] ⟨l, rfl⟩)
      refine ⟨hi, (forall_prefix_iff hholds hkeeps hneeds (hkeeps s i hs hi)).1 fun before hb => ?_⟩
      exact h (i :: before) ((List.prefix_cons_inj i).2 hb)
    · rintro ⟨hi, hl⟩ before hb
      cases before with
      | nil => exact hholds s hs
      | cons j before =>
        obtain ⟨rfl, hrest⟩ := List.cons_prefix_cons.1 hb
        exact (forall_prefix_iff hholds hkeeps hneeds (hkeeps s _ hs hi)).2 hl before hrest

/-- A run without a condition. -/
theorem invariant {P : σ → Prop} (hstep : ∀ s i, P s → P (step s i)) {s : σ} (l : List ι) (hs : P s) :
    P (exec step s l) := by
  induction l generalizing s with
  | nil => exact hs
  | cons i l ih => exact ih (hstep s i hs)

/-- **What relates the steps of two systems relates their runs.** -/
theorem Along.simulation {step' : τ → ι → τ} {R : σ → τ → Prop}
    (hstep : ∀ s t i, R s t → cond s i → R (step s i) (step' t i)) :
    ∀ {s : σ} {t : τ} {l : List ι}, R s t → Along step cond s l → R (exec step s l) (exec step' t l)
  | _, _, [], hr, _ => hr
  | s, t, i :: l, hr, hl =>
    Along.simulation (s := step s i) (t := step' t i) (l := l) hstep (hstep s t i hr hl.1) hl.2

/-! ## The states in between -/

/-- All the states that a run goes through after `s`, where a step goes through the states of `passes`. -/
def trail (passes : σ → ι → List σ) (step : σ → ι → σ) : σ → List ι → List σ
  | _, [] => []
  | s, i :: l => passes s i ++ trail passes step (step s i) l

variable {passes : σ → ι → List σ} {R : σ → σ → Prop}

theorem isChain_trail (hlast : ∀ s i, (passes s i).getLast? = some (step s i))
    (hpasses : ∀ s i, (s :: passes s i).IsChain R) : ∀ (s : σ) (l : List ι), (s :: trail passes step s l).IsChain R
  | s, [] => .singleton s
  | s, i :: l => by
    have ih := isChain_trail hlast hpasses (step s i) l
    rw [trail, ← List.cons_append]
    refine List.isChain_append.2 ⟨hpasses s i, ih.tail, fun x hx y hy => ?_⟩
    rw [List.getLast?_cons, hlast s i] at hx
    cases hx
    exact ih.rel_head? hy

/-- **What carries over along a relation holds in every state of a chain**, as long as the states meet `Q`. -/
theorem forall_of_isChain {P Q : σ → Prop} (hstep : ∀ s t, R s t → P s → Q t → P t) :
    ∀ {s : σ} {l : List σ}, (s :: l).IsChain R → P s → (∀ t ∈ l, Q t) → ∀ t ∈ l, P t
  | _, [], _, _, _ => fun _ h => nomatch h
  | s, t :: l, hc, hs, hq => by
    obtain ⟨hr, hc⟩ := List.isChain_cons_cons.1 hc
    have ht := hstep s t hr hs (hq t List.mem_cons_self)
    intro u hu
    rcases List.mem_cons.1 hu with rfl | hu
    · exact ht
    · exact forall_of_isChain hstep hc ht (fun v hv => hq v (List.mem_cons_of_mem _ hv)) u hu

/-- **A property that each state of a chain hands on**, where the next is related to it in its turn. -/
theorem isChain_of_carried {P : σ → Prop} : ∀ {s : σ} {l : List σ}, (s :: l).IsChain (fun s t => P s → P t ∧ R s t) →
    P s → (s :: l).IsChain R ∧ ∀ t ∈ s :: l, P t
  | s, [], _, hs => ⟨.singleton s, fun t ht => List.mem_singleton.1 ht ▸ hs⟩
  | s, t :: l, hc, hs => by
    obtain ⟨hr, hc⟩ := List.isChain_cons_cons.1 hc
    obtain ⟨ht, hst⟩ := hr hs
    obtain ⟨hchain, hall⟩ := isChain_of_carried hc ht
    refine ⟨List.isChain_cons_cons.2 ⟨hst, hchain⟩, fun u hu => ?_⟩
    rcases List.mem_cons.1 hu with rfl | hu
    · exact hs
    · exact hall u hu

end FlowObs.Run
