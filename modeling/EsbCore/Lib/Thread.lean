/-
  File:      EsbCore/Lib/Thread.lean
  Subject:   ONE THREAD AMONG ITS SURROUNDINGS: statements in their order, anything in between.

  A library on its own: arbitrary statements, worlds, effects and exceptions, no program. A thread
  has a list of statements to take, one at a time, and between two of them the surroundings may
  change the world they share. An exception ends the thread, and nothing else.

  * `Thread`, `Thread.machine` -- statements, surroundings, and their runs in every order;
  * `done_append_todo` -- what is done and what is to come is the program, at every moment;
  * `thread_inv` -- the rule every run lemma uses, with a case for each kind of turn;
  * `over_of_turns` -- a thread with enough turns comes to an end, and `never_throws` -- not by an
    exception when no next statement throws;
  * `filterMap_emitted` -- what an observer sees of the statements, in their order;
  * `append_eq_flatMap` -- where a program made of blocks stands.
-/
import EsbCore.Lib.Actor

namespace Lib

/-! ## 1. The machine -/

/-- What a statement does to the world, and what the surroundings do to it. -/
structure Thread (α σ κ ω χ : Type) where
  exec : α → σ → Reaction σ ω χ
  other : κ → σ → σ × List ω

/-- How far a thread is: the statements that have returned, those to come, the first of which is
    the one that threw, and the world. -/
structure Progress (α σ χ : Type) where
  done : List α
  todo : List α
  thrown : Option χ
  world : σ

/-- Whose turn it is. -/
inductive Turn (κ : Type) where
  | thread
  | other (k : κ)
  deriving DecidableEq

/-- The thread has come to an end. -/
def Progress.Over {α σ χ : Type} (p : Progress α σ χ) : Prop := p.todo = [] ∨ p.thrown ≠ none

namespace Thread

variable {α σ κ ω χ : Type} (T : Thread α σ κ ω χ)

/-- The next statement, which returns or throws. -/
def take (p : Progress α σ χ) (a : α) (rest : List α) : Progress α σ χ × List ω :=
  match (T.exec a p.world).thrown with
  | none => (⟨p.done ++ [a], rest, none, (T.exec a p.world).self⟩, (T.exec a p.world).sent)
  | some e => (⟨p.done, a :: rest, some e, (T.exec a p.world).self⟩, (T.exec a p.world).sent)

/-- The runs of a program; a thread that is over has no more turns. -/
def machine (program : List α) (s : σ) : Machine (Progress α σ χ) (Turn κ) ω where
  start := (⟨[], program, none, s⟩, [])
  step p t :=
    match t, p.thrown, p.todo with
    | .other k, _, _ => ({ p with world := (T.other k p.world).1 }, (T.other k p.world).2)
    | .thread, none, a :: rest => T.take p a rest
    | .thread, _, _ => (p, [])

variable {T}

theorem take_returned {p : Progress α σ χ} {a : α} (h : (T.exec a p.world).thrown = none)
    (rest : List α) : T.take p a rest =
      (⟨p.done ++ [a], rest, none, (T.exec a p.world).self⟩, (T.exec a p.world).sent) := by
  unfold take
  rw [h]

theorem take_thrown {p : Progress α σ χ} {a : α} {e : χ} (h : (T.exec a p.world).thrown = some e)
    (rest : List α) : T.take p a rest =
      (⟨p.done, a :: rest, some e, (T.exec a p.world).self⟩, (T.exec a p.world).sent) := by
  unfold take
  rw [h]

/-! ## 2. Runs -/

/-- **The rule.** What relates the turns, the progress and the outputs holds after every run once
    it holds at the start and every kind of turn keeps it: the surroundings', a statement that
    returns, one that throws, and the turn of a thread that is over. -/
theorem thread_inv {program : List α} {s : σ}
    {I : List (Turn κ) → Progress α σ χ → List ω → Prop}
    (h0 : I [] ⟨[], program, none, s⟩ [])
    (hother : ∀ es p os k, I es p os → I (es ++ [.other k])
      { p with world := (T.other k p.world).1 } (os ++ (T.other k p.world).2))
    (hreturn : ∀ es done a rest w os, (T.exec a w).thrown = none →
      I es ⟨done, a :: rest, none, w⟩ os → I (es ++ [.thread])
        ⟨done ++ [a], rest, none, (T.exec a w).self⟩ (os ++ (T.exec a w).sent))
    (hthrow : ∀ es done a rest w os e, (T.exec a w).thrown = some e →
      I es ⟨done, a :: rest, none, w⟩ os → I (es ++ [.thread])
        ⟨done, a :: rest, some e, (T.exec a w).self⟩ (os ++ (T.exec a w).sent))
    (hover : ∀ es p os, p.Over → I es p os → I (es ++ [.thread]) p os) :
    ∀ es, I es ((T.machine program s).after es) ((T.machine program s).emitted es) := by
  refine (T.machine program s).history_inv h0 fun es p os t hI => ?_
  obtain ⟨done, todo, thrown, w⟩ := p
  cases t with
  | other k => exact hother es _ os k hI
  | thread =>
    cases thrown with
    | some e =>
      show I _ _ (os ++ [])
      rw [List.append_nil]
      exact hover es _ os (.inr nofun) hI
    | none =>
      cases todo with
      | nil =>
        show I _ _ (os ++ [])
        rw [List.append_nil]
        exact hover es _ os (.inl rfl) hI
      | cons a rest =>
        show I _ (T.take _ a rest).1 (os ++ (T.take _ a rest).2)
        cases ht : (T.exec a w).thrown with
        | none =>
          rw [take_returned (p := ⟨done, a :: rest, none, w⟩) ht]
          exact hreturn es done a rest w os ht hI
        | some e =>
          rw [take_thrown (p := ⟨done, a :: rest, none, w⟩) ht]
          exact hthrow es done a rest w os e ht hI

variable (T) (program : List α) (s : σ)

/-- **What is done and what is to come is the program.** -/
theorem done_append_todo (es : List (Turn κ)) :
    ((T.machine program s).after es).done ++ ((T.machine program s).after es).todo = program := by
  refine thread_inv (I := fun _ p _ => p.done ++ p.todo = program) rfl (fun _ _ _ _ h => h)
    (fun _ done a rest _ _ _ h => ?_) (fun _ _ _ _ _ _ _ _ h => h) (fun _ _ _ _ h => h) es
  rw [List.append_assoc]
  exact h

/-- How often it was the thread's turn. -/
def turns (es : List (Turn κ)) : Nat := es.countP fun
  | .thread => true
  | .other _ => false

theorem turns_thread (es : List (Turn κ)) : turns (es ++ [.thread]) = turns es + 1 := by
  unfold turns
  rw [List.countP_append]
  rfl

theorem turns_other (es : List (Turn κ)) (k : κ) : turns (es ++ [.other k]) = turns es := by
  unfold turns
  rw [List.countP_append]
  rfl

/-- **A thread with as many turns as it has statements is over**, whatever the surroundings do. -/
theorem over_of_turns {es : List (Turn κ)} (h : program.length ≤ turns es) :
    ((T.machine program s).after es).Over := by
  have hinv : ((T.machine program s).after es).Over ∨
      turns es = ((T.machine program s).after es).done.length := by
    refine thread_inv (I := fun es p _ => p.Over ∨ turns es = p.done.length) (.inr rfl)
      (fun es p _ k h => ?_) (fun es done a rest _ _ _ h => ?_)
      (fun _ _ _ _ _ _ _ _ _ => .inl (.inr nofun)) (fun _ _ _ ho _ => .inl ho) es
    · rw [turns_other]
      exact h
    · rcases h with (h | h) | h
      · cases h
      · exact absurd rfl h
      · rw [turns_thread, h, List.length_append, List.length_singleton]
        exact .inr rfl
  rcases hinv with ho | hd
  · exact ho
  · have hsplit := congrArg List.length (T.done_append_todo program s es)
    rw [List.length_append] at hsplit
    exact .inl (List.eq_nil_of_length_eq_zero (by omega))

/-- A thread whose next statement never throws does not throw. -/
theorem never_throws (h : ∀ es a rest, ((T.machine program s).after es).todo = a :: rest →
      (T.exec a ((T.machine program s).after es).world).thrown = none) (es : List (Turn κ)) :
    ((T.machine program s).after es).thrown = none := by
  induction es using List.reverseRecOn with
  | nil => rfl
  | append_singleton es t ih =>
    rw [Machine.after_concat]
    cases t with
    | other k => exact ih
    | thread =>
      cases htodo : ((T.machine program s).after es).todo with
      | nil =>
        unfold machine at ih htodo ⊢
        simp only [ih, htodo]
      | cons a rest =>
        have hreturned := take_returned (h es a rest htodo) rest
        unfold machine at ih htodo hreturned ⊢
        simp only [ih, htodo, hreturned]

/-- **What an observer sees of the statements**: who sees nothing of the surroundings and of a
    statement that throws, sees what the statements show that have returned, in their order. -/
theorem filterMap_emitted {β : Type} {g : ω → Option β} {f : α → List β}
    (hother : ∀ k w, (T.other k w).2.filterMap g = [])
    (hreturn : ∀ a w, (T.exec a w).thrown = none → (T.exec a w).sent.filterMap g = f a)
    (hthrow : ∀ a w, (T.exec a w).thrown ≠ none → (T.exec a w).sent.filterMap g = [])
    (es : List (Turn κ)) :
    ((T.machine program s).emitted es).filterMap g =
      ((T.machine program s).after es).done.flatMap f := by
  refine thread_inv (I := fun _ p os => os.filterMap g = p.done.flatMap f) rfl
    (fun _ _ _ k h => ?_) (fun _ done a _ w _ ht h => ?_) (fun _ _ a _ w _ e ht h => ?_)
    (fun _ _ _ _ h => h) es
  · rw [List.filterMap_append, hother, List.append_nil]
    exact h
  · rw [List.filterMap_append, hreturn a w ht, List.flatMap_append, List.flatMap_singleton, h]
  · rw [List.filterMap_append, hthrow a w (by rw [ht]; nofun), List.append_nil]
    exact h

end Thread

/-! ## 3. Programs made of blocks -/

/-- **Where a program made of blocks stands**: at its end, or somewhere in a block, with the blocks
    before it done and those after it to come. -/
theorem append_eq_flatMap {α β : Type} {f : β → List α} {done todo : List α} {bs : List β}
    (h : done ++ todo = bs.flatMap f) :
    (done = bs.flatMap f ∧ todo = []) ∨
    ∃ pre b more n, bs = pre ++ b :: more ∧ n < (f b).length ∧
      done = pre.flatMap f ++ (f b).take n ∧ todo = (f b).drop n ++ more.flatMap f := by
  induction bs generalizing done with
  | nil => exact .inl (List.append_eq_nil_iff.mp h)
  | cons b bs ih =>
    rw [List.flatMap_cons] at h
    rcases List.append_eq_append_iff.mp h with ⟨rest, hb, htodo⟩ | ⟨after, rfl, hafter⟩
    · cases rest with
      | nil =>
        rw [List.append_nil] at hb
        rcases @ih [] htodo with ⟨hd, ht⟩ | ⟨pre, b', more, n, rfl, hn, hd, ht⟩
        · exact .inl ⟨by rw [List.flatMap_cons, ← hd, hb, List.append_nil], ht⟩
        · refine .inr ⟨b :: pre, b', more, n, rfl, hn, ?_, ht⟩
          rw [List.flatMap_cons, List.append_assoc, ← hd, hb, List.append_nil]
      | cons a rest =>
        refine .inr ⟨[], b, bs, done.length, rfl, ?_, ?_, ?_⟩
        · rw [hb, List.length_append, List.length_cons]
          omega
        · rw [hb, List.take_left, List.flatMap_nil, List.nil_append]
        · rw [hb, List.drop_left, htodo]
    · rcases ih hafter.symm with ⟨hd, ht⟩ | ⟨pre, b', more, n, rfl, hn, hd, ht⟩
      · exact .inl ⟨by rw [List.flatMap_cons, hd], ht⟩
      · refine .inr ⟨b :: pre, b', more, n, rfl, hn, ?_, ht⟩
        rw [List.flatMap_cons, List.append_assoc, hd]

end Lib
