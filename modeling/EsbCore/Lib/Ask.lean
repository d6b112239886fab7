/-
  File:      EsbCore/Lib/Ask.lean
  Subject:   ASKING WITH A TIME LIMIT: a request, perhaps an answer, and what is left to the asker.

  A library on its own: arbitrary answers, no program. The request reaches the responder, the
  responder's answer reaches the asker and the limit passes, in any order and any number of times;
  the first of an answer and the limit decides. An answer is handed on as it is: there is none
  that stands for a failure of the responder or wraps another.

  * `ask` -- the exchange as a machine, `answer` being what the responder sends, if anything;
  * `InTime` -- the order of events leaves room for an answer before the limit;
  * `ask_after` -- the outcome of every order of events, in these terms.
-/
import EsbCore.Lib.Machine
import Mathlib.Data.List.TakeWhile

namespace Lib

/-! ## 1. The exchange -/

inductive AskEvent where
  | deliver
  | arrive
  | limit
  deriving DecidableEq, Repr

inductive Outcome (ρ : Type) where
  | reply (answer : ρ)
  | timedOut
  deriving DecidableEq, Repr

/-- Whether the responder has handled the request, and what the asker is left with. -/
structure Ask (ρ : Type) where
  handled : Bool
  outcome : Option (Outcome ρ)

variable {ρ : Type}

/-- What decides an exchange stands. -/
def Ask.decide (a : Ask ρ) (o : Outcome ρ) : Ask ρ := { a with outcome := a.outcome.or (some o) }

/-- One event; the responder sends `answer` when it handles the request. -/
def Ask.step (answer : Option ρ) (a : Ask ρ) : AskEvent → Ask ρ
  | .deliver => { a with handled := true }
  | .arrive =>
    if a.handled then
      match answer with
      | some v => a.decide (.reply v)
      | none => a
    else a
  | .limit => a.decide .timedOut

/-- The exchange from the request on. -/
def ask (answer : Option ρ) : Machine (Ask ρ) AskEvent Unit where
  start := (⟨false, none⟩, [])
  step a e := (a.step answer e, [])

/-- What comes before the limit. -/
def beforeLimit (es : List AskEvent) : List AskEvent := es.takeWhile (· ≠ .limit)

/-- Before the limit the request is delivered and an answer to it would arrive. -/
def InTime (es : List AskEvent) : Prop := List.Sublist [.deliver, .arrive] (beforeLimit es)

instance (es : List AskEvent) : Decidable (InTime es) :=
  inferInstanceAs (Decidable (List.Sublist _ _))

/-! ## 2. One more event -/

theorem beforeLimit_of_notMem {es : List AskEvent} (h : AskEvent.limit ∉ es) :
    beforeLimit es = es :=
  List.takeWhile_eq_self_iff.mpr fun _ he => decide_eq_true (ne_of_mem_of_not_mem he h)

/-- After the limit nothing comes before it any more. -/
theorem beforeLimit_concat_of_mem {es : List AskEvent} (h : AskEvent.limit ∈ es) (e : AskEvent) :
    beforeLimit (es ++ [e]) = beforeLimit es := by
  unfold beforeLimit
  rw [List.takeWhile_append, if_neg]
  intro hl
  have hall := List.takeWhile_eq_self_iff.mp ((List.takeWhile_prefix _).eq_of_length hl)
  exact absurd rfl (of_decide_eq_true (hall _ h))

theorem beforeLimit_concat_limit {es : List AskEvent} (h : AskEvent.limit ∉ es) :
    beforeLimit (es ++ [.limit]) = es := by
  unfold beforeLimit
  rw [List.takeWhile_append_of_pos fun _ he => decide_eq_true (ne_of_mem_of_not_mem he h)]
  simp

theorem pair_sublist_concat {a b : AskEvent} {es : List AskEvent} {e : AskEvent} :
    List.Sublist [a, b] (es ++ [e]) ↔ List.Sublist [a, b] es ∨ e = b ∧ a ∈ es := by
  rw [← List.reverse_sublist, List.reverse_append]
  show List.Sublist [b, a] (e :: es.reverse) ↔ _
  rw [List.sublist_cons_iff]
  constructor
  · intro h
    rcases h with h | ⟨r, hr, hs⟩
    · exact .inl (List.reverse_sublist.mp h)
    · obtain ⟨hb, ha⟩ := List.cons.inj hr
      subst ha
      exact .inr ⟨hb.symm, List.mem_reverse.mp (List.singleton_sublist.mp hs)⟩
  · intro h
    rcases h with h | ⟨hb, ha⟩
    · exact .inl (List.reverse_sublist.mpr h)
    · exact .inr ⟨[a], by rw [hb], List.singleton_sublist.mpr (List.mem_reverse.mpr ha)⟩

/-- The limit changes nothing in what came in time. -/
theorem inTime_concat_limit (es : List AskEvent) : InTime (es ++ [.limit]) ↔ InTime es := by
  unfold InTime
  by_cases h : AskEvent.limit ∈ es
  · rw [beforeLimit_concat_of_mem h]
  · rw [beforeLimit_concat_limit h, beforeLimit_of_notMem h]

/-- A delivery alone brings no answer. -/
theorem inTime_concat_deliver (es : List AskEvent) : InTime (es ++ [.deliver]) ↔ InTime es := by
  unfold InTime
  by_cases h : AskEvent.limit ∈ es
  · rw [beforeLimit_concat_of_mem h]
  · rw [beforeLimit_of_notMem h, beforeLimit_of_notMem (by simpa using h), pair_sublist_concat]
    simp

/-- Before the limit an answer can arrive exactly when the request was delivered. -/
theorem inTime_concat_arrive {es : List AskEvent} (h : AskEvent.limit ∉ es) :
    InTime (es ++ [.arrive]) ↔ AskEvent.deliver ∈ es := by
  unfold InTime
  rw [beforeLimit_of_notMem (by simpa using h), pair_sublist_concat]
  refine ⟨fun h => ?_, fun h => .inr ⟨rfl, h⟩⟩
  rcases h with h | ⟨-, h⟩
  · exact h.subset List.mem_cons_self
  · exact h

theorem inTime_concat_of_mem {es : List AskEvent} (h : AskEvent.limit ∈ es) (e : AskEvent) :
    InTime (es ++ [e]) ↔ InTime es := by
  unfold InTime
  rw [beforeLimit_concat_of_mem h]

/-! ## 3. The outcome -/

/-- The outcome the events come to. -/
def outcomeOf (answer : Option ρ) (es : List AskEvent) : Option (Outcome ρ) :=
  match if InTime es then answer else none with
  | some v => some (.reply v)
  | none => if AskEvent.limit ∈ es then some .timedOut else none

theorem InTime.delivered {es : List AskEvent} (h : InTime es) : AskEvent.deliver ∈ es :=
  (List.takeWhile_prefix _).subset (List.Sublist.subset h List.mem_cons_self)

/-- Where nothing is answered, only the limit ends it. -/
theorem outcomeOf_none (es : List AskEvent) :
    outcomeOf (none : Option ρ) es = if AskEvent.limit ∈ es then some .timedOut else none := by
  simp [outcomeOf]

/-- A reply is the answer. -/
theorem answer_of_reply {answer : Option ρ} {es : List AskEvent} {v : ρ}
    (h : outcomeOf answer es = some (.reply v)) : answer = some v := by
  unfold outcomeOf at h
  split at h
  · rename_i w hw
    obtain ⟨-, ha⟩ := Option.ite_none_right_eq_some.mp hw
    rw [ha, Outcome.reply.inj (Option.some.inj h)]
  · split at h <;> cases h

/-- As long as the request is not delivered, the answer to it does not matter. -/
theorem outcomeOf_of_notMem {es : List AskEvent} (h : AskEvent.deliver ∉ es)
    (answer answer' : Option ρ) : outcomeOf answer es = outcomeOf answer' es := by
  unfold outcomeOf
  rw [if_neg fun ht => h (InTime.delivered ht), if_neg fun ht => h (InTime.delivered ht)]

/-- One more event, in terms of what the events come to. -/
theorem outcomeOf_concat (answer : Option ρ) (es : List AskEvent) (e : AskEvent) :
    outcomeOf answer (es ++ [e]) =
      (Ask.step answer ⟨decide (AskEvent.deliver ∈ es), outcomeOf answer es⟩ e).outcome := by
  cases e with
  | deliver =>
    show _ = outcomeOf answer es
    unfold outcomeOf
    simp [inTime_concat_deliver]
  | limit =>
    unfold outcomeOf
    simp only [inTime_concat_limit, Ask.step, Ask.decide]
    by_cases ht : InTime es
    · cases answer <;> by_cases hl : AskEvent.limit ∈ es <;> simp [ht, hl]
    · by_cases hl : AskEvent.limit ∈ es <;> simp [ht, hl]
  | arrive =>
    by_cases hl : AskEvent.limit ∈ es
    · -- decided already, one way or the other
      unfold outcomeOf
      simp only [inTime_concat_of_mem hl, Ask.step, Ask.decide]
      by_cases hd : AskEvent.deliver ∈ es
      · cases answer <;> by_cases ht : InTime es <;> simp [hd, ht, hl]
      · have ht : ¬ InTime es := fun ht => hd ht.delivered
        cases answer <;> simp [hd, ht, hl]
    · unfold outcomeOf
      simp only [inTime_concat_arrive hl, Ask.step, Ask.decide]
      by_cases hd : AskEvent.deliver ∈ es
      · cases answer <;> by_cases ht : InTime es <;> simp [hd, ht, hl]
      · have ht : ¬ InTime es := fun ht => hd ht.delivered
        cases answer <;> simp [hd, ht, hl]

/-- One event touches `handled` only when it is the delivery. -/
theorem handled_step (answer : Option ρ) (a : Ask ρ) (e : AskEvent) :
    (a.step answer e).handled = (a.handled || decide (e = .deliver)) := by
  cases e with
  | deliver => simp [Ask.step]
  | limit => simp [Ask.step, Ask.decide]
  | arrive =>
    unfold Ask.step
    cases h : a.handled <;> cases answer <;> simp [h, Ask.decide]

/-- **An answer that can arrive in time is the outcome; else the limit is, once it has passed.** -/
theorem ask_after (answer : Option ρ) (es : List AskEvent) :
    (ask answer).after es = ⟨decide (AskEvent.deliver ∈ es), outcomeOf answer es⟩ := by
  refine (ask answer).history_inv
    (I := fun es a _ => a = ⟨decide (AskEvent.deliver ∈ es), outcomeOf answer es⟩) rfl ?_ es
  intro es a os e h
  have hh : (a.step answer e).handled = decide (AskEvent.deliver ∈ es ++ [e]) := by
    rw [handled_step, h]
    simp [eq_comm]
  show a.step answer e = _
  rw [outcomeOf_concat, ← h, ← hh]

end Lib
