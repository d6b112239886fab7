/-
  File:      EsbCore/Lib/Machine.lean
  Subject:   MACHINES THAT TAKE EVENTS AND EMIT OUTPUTS, and what holds along their runs.

  A library on its own: arbitrary states, events and outputs, no program.

  * `Machine`, `after`, `emitted` -- a machine, the state it is in after a list of events, and
    everything it has emitted by then;
  * `history_inv` -- the rule every run lemma uses: a relation between the events taken, the
    state and the outputs holds along the run when one event keeps it;
  * `after_append_rel` -- what every step leaves as it is, a whole run does;
  * `simulation` -- one machine follows another when it does so over one event;
  * `noted` -- what an observer has written down by then;
  * `forall_prefix_iff` -- "at every moment of a run" and a condition on the run as a whole.
-/
import Mathlib.Data.List.Infix

namespace Lib

/-- A machine: how it starts, and what one event makes of a state. -/
structure Machine (σ ε ω : Type) where
  start : σ × List ω
  step : σ → ε → σ × List ω

namespace Machine

variable {σ ε ω : Type} (M : Machine σ ε ω)

/-! ## 1. Runs -/

/-- The run from a state with some outputs made already. -/
def runFrom : σ × List ω → List ε → σ × List ω
  | r, [] => r
  | (s, os), e :: es => runFrom ((M.step s e).1, os ++ (M.step s e).2) es

/-- The state after a list of events. -/
def after (es : List ε) : σ := (M.runFrom M.start es).1

/-- Everything emitted by then, in order. -/
def emitted (es : List ε) : List ω := (M.runFrom M.start es).2

theorem runFrom_concat (r : σ × List ω) (es : List ε) (e : ε) :
    M.runFrom r (es ++ [e]) =
      ((M.step (M.runFrom r es).1 e).1, (M.runFrom r es).2 ++ (M.step (M.runFrom r es).1 e).2) := by
  induction es generalizing r with
  | nil => rfl
  | cons a es ih => exact ih _

@[simp] theorem after_nil : M.after [] = M.start.1 := rfl

@[simp] theorem emitted_nil : M.emitted [] = M.start.2 := rfl

/-- One more event is one step from where the run stands. -/
theorem after_concat (es : List ε) (e : ε) :
    M.after (es ++ [e]) = (M.step (M.after es) e).1 := by
  unfold after
  rw [runFrom_concat]

/-- One more event adds what its step emits. -/
theorem emitted_concat (es : List ε) (e : ε) :
    M.emitted (es ++ [e]) = M.emitted es ++ (M.step (M.after es) e).2 := by
  unfold emitted after
  rw [runFrom_concat]

/-! ## 2. Invariants -/

/-- **The history rule.** What relates the events taken, the state and the outputs holds after
    every run once it holds at the start and one event keeps it. -/
theorem history_inv {I : List ε → σ → List ω → Prop} (h0 : I [] M.start.1 M.start.2)
    (hs : ∀ es s os e, I es s os → I (es ++ [e]) (M.step s e).1 (os ++ (M.step s e).2)) :
    ∀ es, I es (M.after es) (M.emitted es) := by
  intro es
  induction es using List.reverseRecOn with
  | nil => exact h0
  | append_singleton es e ih =>
    rw [after_concat, emitted_concat]
    exact hs es _ _ e ih

/-- The state rule: the case in which only the state matters. -/
theorem state_inv {P : σ → Prop} (h0 : P M.start.1) (hs : ∀ s e, P s → P (M.step s e).1) :
    ∀ es, P (M.after es) :=
  M.history_inv (I := fun _ s _ => P s) h0 fun _ s _ e h => hs s e h

/-- **The rule of what stays.** A relation in which every step leaves a state that runs lead to,
    relates each state of a run to all that come after it. -/
theorem after_append_rel {P : σ → Prop} {R : σ → σ → Prop} (hP : ∀ es, P (M.after es))
    (hrefl : ∀ s, R s s) (htrans : ∀ s t u, R s t → R t u → R s u)
    (hs : ∀ s e, P s → R s (M.step s e).1) (es more : List ε) :
    R (M.after es) (M.after (es ++ more)) := by
  induction more using List.reverseRecOn with
  | nil =>
    rw [List.append_nil]
    exact hrefl _
  | append_singleton more e ih =>
    rw [← List.append_assoc, after_concat]
    exact htrans _ _ _ ih (hs _ e (hP (es ++ more)))

/-- **The simulation rule.** `N` follows `M`, event by event along `f`, with the states related
    and the same observations of the outputs, once it does so at the start and over one event. -/
theorem simulation {σ' ε' ω' ρ : Type} {M : Machine σ ε ω} {N : Machine σ' ε' ω'}
    {R : σ → σ' → Prop} {f : ε → ε'} {g : ω → Option ρ} {h : ω' → ρ}
    (h0 : R M.start.1 N.start.1) (ho : M.start.2.filterMap g = N.start.2.map h)
    (hs : ∀ s t e, R s t → R (M.step s e).1 (N.step t (f e)).1 ∧
      (M.step s e).2.filterMap g = (N.step t (f e)).2.map h) (es : List ε) :
    R (M.after es) (N.after (es.map f)) ∧
      (M.emitted es).filterMap g = (N.emitted (es.map f)).map h := by
  refine M.history_inv (I := fun es s os => R s (N.after (es.map f)) ∧
    os.filterMap g = (N.emitted (es.map f)).map h) ⟨h0, ho⟩ ?_ es
  rintro es s os e ⟨hR, hos⟩
  obtain ⟨hR', hos'⟩ := hs s _ e hR
  rw [List.map_append, List.map_singleton, after_concat, emitted_concat, List.filterMap_append,
    List.map_append, hos, hos']
  exact ⟨hR', rfl⟩

/-! ## 3. Notes -/

/-- The machine with an observer, who notes something of an event by the state it meets. -/
def watch {ν : Type} (note : σ → ε → Option ν) : Machine σ ε ν :=
  ⟨(M.start.1, []), fun s e => ((M.step s e).1, (note s e).toList)⟩

/-- What the observer has noted by the end of a run. -/
def noted {ν : Type} (note : σ → ε → Option ν) (es : List ε) : List ν := (M.watch note).emitted es

/-- The observer changes nothing. -/
theorem after_watch {ν : Type} (note : σ → ε → Option ν) (es : List ε) :
    (M.watch note).after es = M.after es := by
  induction es using List.reverseRecOn with
  | nil => rfl
  | append_singleton es e ih =>
    rw [after_concat, after_concat, ih]
    rfl

@[simp] theorem noted_nil {ν : Type} (note : σ → ε → Option ν) : M.noted note [] = [] := rfl

/-- One more event adds what is noted of it. -/
theorem noted_concat {ν : Type} (note : σ → ε → Option ν) (es : List ε) (e : ε) :
    M.noted note (es ++ [e]) = M.noted note es ++ (note (M.after es) e).toList := by
  unfold noted
  rw [emitted_concat, after_watch]
  rfl

end Machine

/-! ## 4. At every moment of a run -/

/-- What holds at a moment exactly under a condition that passes to earlier moments holds at
    every moment of a run exactly under the condition on the run. -/
theorem forall_prefix_iff {ε : Type} {P Q : List ε → Prop} (hPQ : ∀ es, P es ↔ Q es)
    (hQ : ∀ p es : List ε, p <+: es → Q es → Q p) (es : List ε) :
    (∀ p, p <+: es → P p) ↔ Q es :=
  ⟨fun h => (hPQ es).mp (h es List.prefix_rfl), fun h p hp => (hPQ p).mpr (hQ p es hp h)⟩

/-- Every event of a longer run is right exactly when those before and the last one are. -/
theorem forall_steps_concat_iff {ε : Type} {Q : List ε → ε → Prop} (es : List ε) (a : ε) :
    (∀ p e, p ++ [e] <+: es ++ [a] → Q p e) ↔ (∀ p e, p ++ [e] <+: es → Q p e) ∧ Q es a := by
  constructor
  · intro h
    exact ⟨fun p e hp => h p e (hp.trans (List.prefix_append es [a])), h es a List.prefix_rfl⟩
  · intro h p e hp
    rcases List.prefix_concat_iff.mp hp with he | hp
    · obtain ⟨hpe, hae⟩ := List.append_inj' he rfl
      rw [hpe, List.singleton_inj.mp hae]
      exact h.2
    · exact h.1 p e hp

/-- A moment of a run and the event that follows it, by their number. -/
theorem exists_take_of_prefix {ε : Type} {p es : List ε} {e : ε} (h : p ++ [e] <+: es) :
    ∃ i, i < es.length ∧ p = es.take i ∧ es[i]? = some e := by
  obtain ⟨more, rfl⟩ := h
  refine ⟨p.length, ?_, ?_, ?_⟩
  · rw [List.length_append, List.length_append, List.length_singleton]
    omega
  · rw [List.append_assoc, List.take_left]
  · rw [List.append_assoc, List.getElem?_append_right le_rfl, Nat.sub_self]
    rfl

/-- There is no event in an empty run. -/
theorem forall_steps_nil {ε : Type} {Q : List ε → ε → Prop} (p : List ε) (e : ε)
    (hp : p ++ [e] <+: []) : Q p e := by
  have hl := hp.length_le
  rw [List.length_append] at hl
  exact absurd hl (Nat.not_succ_le_zero _)

/-- What holds at the start, and after one event more exactly when that event is right, holds at
    every moment of a run exactly when every event of the run is right. -/
theorem forall_prefix_iff_steps {ε : Type} {P : List ε → Prop} {Q : List ε → ε → Prop}
    (h0 : P []) (hs : ∀ p e, P p → (P (p ++ [e]) ↔ Q p e)) (es : List ε) :
    (∀ p, p <+: es → P p) ↔ ∀ p e, p ++ [e] <+: es → Q p e := by
  constructor
  · intro h p e hp
    exact (hs p e (h p ((List.prefix_append p [e]).trans hp))).mp (h _ hp)
  · intro h p hp
    induction p using List.reverseRecOn with
    | nil => exact h0
    | append_singleton p e ih =>
      have hP := ih ((List.prefix_append p [e]).trans hp)
      exact (hs p e hP).mpr (h p e hp)

end Lib
