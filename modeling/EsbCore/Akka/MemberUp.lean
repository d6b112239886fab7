/-
  File:      EsbCore/Akka/MemberUp.lean
  Subject:   WAITING TO BE A MEMBER (`org.esb.akka.AkkaEsbSystem.start`, its callback and its
             thread).

  `start` waits on a `Thread` object that it has started itself, and the member-up callback
  notifies that object. No flag says that the callback has run; and the thread, whose `run` is
  empty, notifies everybody who waits on it when it ends.

  * `Startup`, `next` -- the three threads and the monitor, one atomic step at a time;
  * `Holds` -- nobody waits for a callback that is over, and nobody returns before it;
  * `Orderly` -- the steps that keep it so: the thread does not end while `start` waits for a
    callback still to come, and `start` does not begin to wait after both are over;
  * `holds_of_orderly` -- in a run of such steps it holds in every state;
  * `wakeups` -- and after a step that is not such it is lost, at once or by what `start` does
    next.
-/
import EsbCore.Lib.Machine
import EsbCore.Lib.Monitor

namespace EsbCore

open Lib

/-! ## 1. The three threads -/

/-- The threads that use the monitor: the one that calls `start`, the one that runs the callback,
    and `thread` itself. -/
inductive Party where
  | start | run | thread
  deriving DecidableEq, Repr

/-- How far `start` is; `waiting` lasts until it has the monitor again. -/
inductive StartPhase where
  | ready | started | registered | entered | waiting | woken | returned
  deriving DecidableEq, Repr

/-- How far the callback is. -/
inductive RunPhase where
  | unregistered | registered | entered | notified | completed
  deriving DecidableEq, Repr

/-- The callback has called `notify()`. -/
def RunPhase.hasNotified (r : RunPhase) : Prop := r = .notified ∨ r = .completed

inductive ThreadPhase where
  | new | running | terminated
  deriving DecidableEq, Repr

/-- The monitor of `thread`, and the three. -/
structure Startup where
  monitor : Monitor Party
  start : StartPhase
  run : RunPhase
  thread : ThreadPhase

/-- The atomic steps. Of a `notify()` the number says which waiting thread is woken. -/
inductive StartEvent where
  | threadStart | registerOnMemberUp | enter | wait | wake | leave
  | runEnter | runNotify (k : Nat) | runExit
  | threadExit
  deriving DecidableEq, Repr

namespace Startup

/-- A thread in the right phase does something with the monitor. -/
def advance (c : Prop) [Decidable c] (m : Option (Monitor Party)) (f : Monitor Party → Startup) :
    Option Startup := if c then m.map f else none

/-- One step, if it can be taken. -/
def next (s : Startup) : StartEvent → Option Startup
  | .threadStart =>
    if s.start = .ready then some { s with start := .started, thread := .running } else none
  | .registerOnMemberUp =>
    if s.start = .started then some { s with start := .registered, run := .registered } else none
  | .enter => advance (s.start = .registered) (s.monitor.enter .start) fun m =>
    { s with start := .entered, monitor := m }
  | .wait => advance (s.start = .entered) (s.monitor.wait .start) fun m =>
    { s with start := .waiting, monitor := m }
  | .wake => advance (s.start = .waiting) (s.monitor.enter .start) fun m =>
    { s with start := .woken, monitor := m }
  | .leave => advance (s.start = .woken) (s.monitor.exit .start) fun m =>
    { s with start := .returned, monitor := m }
  | .runEnter => advance (s.run = .registered) (s.monitor.enter .run) fun m =>
    { s with run := .entered, monitor := m }
  | .runNotify k => advance (s.run = .entered) (s.monitor.notify .run k) fun m =>
    { s with run := .notified, monitor := m }
  | .runExit => advance (s.run = .notified) (s.monitor.exit .run) fun m =>
    { s with run := .completed, monitor := m }
  | .threadExit => advance (s.thread = .running) (s.monitor.terminate .thread) fun m =>
    { s with thread := .terminated, monitor := m }

/-- An interleaving: a step that cannot be taken is nobody's turn. -/
def machine : Machine Startup StartEvent Unit where
  start := (⟨.free, .ready, .unregistered, .new⟩, [])
  step s e := ((s.next e).getD s, [])

/-! ## 2. What a step is -/

/-- The steps, with what has to be so before. -/
inductive Step (s : Startup) : StartEvent → Startup → Prop where
  | threadStart (h : s.start = .ready) :
      Step s .threadStart { s with start := .started, thread := .running }
  | registerOnMemberUp (h : s.start = .started) :
      Step s .registerOnMemberUp { s with start := .registered, run := .registered }
  | enter {m : Monitor Party} (h : s.start = .registered) (hm : s.monitor.enter .start = some m) :
      Step s .enter { s with start := .entered, monitor := m }
  | wait {m : Monitor Party} (h : s.start = .entered) (hm : s.monitor.wait .start = some m) :
      Step s .wait { s with start := .waiting, monitor := m }
  | wake {m : Monitor Party} (h : s.start = .waiting) (hm : s.monitor.enter .start = some m) :
      Step s .wake { s with start := .woken, monitor := m }
  | leave {m : Monitor Party} (h : s.start = .woken) (hm : s.monitor.exit .start = some m) :
      Step s .leave { s with start := .returned, monitor := m }
  | runEnter {m : Monitor Party} (h : s.run = .registered) (hm : s.monitor.enter .run = some m) :
      Step s .runEnter { s with run := .entered, monitor := m }
  | runNotify {m : Monitor Party} (k : Nat) (h : s.run = .entered)
      (hm : s.monitor.notify .run k = some m) :
      Step s (.runNotify k) { s with run := .notified, monitor := m }
  | runExit {m : Monitor Party} (h : s.run = .notified) (hm : s.monitor.exit .run = some m) :
      Step s .runExit { s with run := .completed, monitor := m }
  | threadExit {m : Monitor Party} (h : s.thread = .running)
      (hm : s.monitor.terminate .thread = some m) :
      Step s .threadExit { s with thread := .terminated, monitor := m }

theorem advance_eq_some {c : Prop} [Decidable c] {m : Option (Monitor Party)}
    {f : Monitor Party → Startup} {s' : Startup} (h : advance c m f = some s') :
    c ∧ ∃ n, m = some n ∧ f n = s' := by
  unfold advance at h
  split at h
  · exact ⟨‹c›, Option.map_eq_some_iff.mp h⟩
  · cases h

/-- **What a step that was taken was.** -/
theorem step_of_next {s s' : Startup} {e : StartEvent} (h : s.next e = some s') :
    Step s e s' := by
  cases e with
  | threadStart =>
    simp only [next, Option.ite_none_right_eq_some, Option.some.injEq] at h
    obtain ⟨hp, rfl⟩ := h
    exact .threadStart hp
  | registerOnMemberUp =>
    simp only [next, Option.ite_none_right_eq_some, Option.some.injEq] at h
    obtain ⟨hp, rfl⟩ := h
    exact .registerOnMemberUp hp
  | enter =>
    obtain ⟨hp, m, hm, rfl⟩ := advance_eq_some h
    exact .enter hp hm
  | wait =>
    obtain ⟨hp, m, hm, rfl⟩ := advance_eq_some h
    exact .wait hp hm
  | wake =>
    obtain ⟨hp, m, hm, rfl⟩ := advance_eq_some h
    exact .wake hp hm
  | leave =>
    obtain ⟨hp, m, hm, rfl⟩ := advance_eq_some h
    exact .leave hp hm
  | runEnter =>
    obtain ⟨hp, m, hm, rfl⟩ := advance_eq_some h
    exact .runEnter hp hm
  | runNotify k =>
    obtain ⟨hp, m, hm, rfl⟩ := advance_eq_some h
    exact .runNotify k hp hm
  | runExit =>
    obtain ⟨hp, m, hm, rfl⟩ := advance_eq_some h
    exact .runExit hp hm
  | threadExit =>
    obtain ⟨hp, m, hm, rfl⟩ := advance_eq_some h
    exact .threadExit hp hm

/-- One event of an interleaving: a step, or nothing. -/
theorem machine_step (s : Startup) (e : StartEvent) :
    Step s e (machine.step s e).1 ∨ (s.next e = none ∧ (machine.step s e).1 = s) := by
  show Step s e ((s.next e).getD s) ∨ _ ∧ (s.next e).getD s = s
  cases h : s.next e with
  | none => exact .inr ⟨rfl, rfl⟩
  | some s' => exact .inl (step_of_next h)

/-! ## 3. What every interleaving keeps -/

/-- The phases say who owns the monitor, nobody but `start` waits on it, and there is no callback
    before it is registered. -/
structure Wf (s : Startup) : Prop where
  start : s.monitor.owner = some .start ↔ s.start = .entered ∨ s.start = .woken
  run : s.monitor.owner = some .run ↔ s.run = .entered ∨ s.run = .notified
  waiting : s.monitor.waiting = [] ∨ s.monitor.waiting = [.start] ∧ s.start = .waiting
  unregistered : s.start = .ready ∨ s.start = .started → s.run = .unregistered

theorem Wf.waiting_eq_nil {s : Startup} (h : s.Wf) (hnot : .start ∉ s.monitor.waiting) :
    s.monitor.waiting = [] := by
  rcases h.waiting with hw | ⟨hw, -⟩
  · exact hw
  · rw [hw] at hnot
    exact absurd (List.mem_singleton_self _) hnot

theorem Wf.waiting_of_ne {s : Startup} (h : s.Wf) (hp : s.start ≠ .waiting) :
    s.monitor.waiting = [] :=
  h.waiting.resolve_right fun hw => hp hw.2

/-- A `notify()` leaves nobody in the wait set. -/
theorem Wf.eraseIdx_waiting {s : Startup} (h : s.Wf) (k : Nat) :
    s.monitor.waiting.eraseIdx (k % s.monitor.waiting.length) = [] := by
  rcases h.waiting with hw | ⟨hw, -⟩
  · rw [hw]
    rfl
  · rw [hw, List.length_singleton, Nat.mod_one]
    rfl

/-- While nobody owns the monitor nobody is inside. -/
theorem Wf.outside {s : Startup} (h : s.Wf) (hfree : s.monitor.owner = none) :
    ¬ (s.start = .entered ∨ s.start = .woken) ∧ ¬ (s.run = .entered ∨ s.run = .notified) := by
  rw [← h.start, ← h.run, hfree]
  exact ⟨nofun, nofun⟩

/-- While `start` is inside the callback is not. -/
theorem Wf.run_outside {s : Startup} (h : s.Wf) (hown : s.monitor.owner = some .start) :
    ¬ (s.run = .entered ∨ s.run = .notified) := by
  rw [← h.run, hown]
  nofun

/-- While the callback is inside `start` is not. -/
theorem Wf.start_outside {s : Startup} (h : s.Wf) (hown : s.monitor.owner = some .run) :
    ¬ (s.start = .entered ∨ s.start = .woken) := by
  rw [← h.start, hown]
  nofun

/-- A callback that is there was registered. -/
theorem Wf.begun {s : Startup} (h : s.Wf) (hr : s.run ≠ .unregistered) :
    ¬ (s.start = .ready ∨ s.start = .started) := fun hs => hr (h.unregistered hs)

theorem wf_start : machine.start.1.Wf where
  start := by decide
  run := by decide
  waiting := .inl rfl
  unregistered _ := rfl

open Monitor in
/-- **One step keeps it.** -/
theorem Wf.step {s s' : Startup} {e : StartEvent} (h : s.Wf) (hs : Step s e s') : s'.Wf := by
  cases hs with
  | threadStart hp =>
    have hw := h.waiting_of_ne (by simp [hp])
    exact ⟨by simp [h.start, hp], h.run, .inl hw, fun _ => h.unregistered (.inl hp)⟩
  | registerOnMemberUp hp =>
    have hw := h.waiting_of_ne (by simp [hp])
    have hun := h.unregistered (.inr hp)
    exact ⟨by simp [h.start, hp], by simp [h.run, hun], .inl hw, by simp⟩
  | enter hp hm =>
    obtain ⟨⟨hfree, -⟩, ho, hw⟩ := enter_eq_some_iff.mp hm
    have hnil := h.waiting_of_ne (by simp [hp])
    exact ⟨by simp [ho], by simp [ho, (h.outside hfree).2], .inl (hw.trans hnil), by simp⟩
  | wait hp hm =>
    obtain ⟨hown, ho, hw⟩ := wait_eq_some_iff.mp hm
    rw [h.waiting_of_ne (by simp [hp])] at hw
    exact ⟨by simp [ho], by simp [ho, h.run_outside hown], .inr ⟨hw, rfl⟩, by simp⟩
  | wake hp hm =>
    obtain ⟨⟨hfree, hnot⟩, ho, hw⟩ := enter_eq_some_iff.mp hm
    have hnil := h.waiting_eq_nil hnot
    exact ⟨by simp [ho], by simp [ho, (h.outside hfree).2], .inl (hw.trans hnil), by simp⟩
  | leave hp hm =>
    obtain ⟨hown, ho, hw⟩ := exit_eq_some_iff.mp hm
    have hnil := h.waiting_of_ne (by simp [hp])
    exact ⟨by simp [ho], by simp [ho, h.run_outside hown], .inl (hw.trans hnil), by simp⟩
  | runEnter hp hm =>
    obtain ⟨⟨hfree, -⟩, ho, hw⟩ := enter_eq_some_iff.mp hm
    have hun := h.begun (by simp [hp])
    exact ⟨by simp [ho, (h.outside hfree).1], by simp [ho], hw ▸ h.waiting, (absurd · hun)⟩
  | runNotify k hp hm =>
    obtain ⟨hown, ho, hw⟩ := notify_eq_some_iff.mp hm
    have hun := h.begun (by simp [hp])
    exact ⟨by simp [ho, hown, h.start_outside hown], by simp [ho, hown],
      .inl (hw.trans (h.eraseIdx_waiting k)), (absurd · hun)⟩
  | runExit hp hm =>
    obtain ⟨hown, ho, hw⟩ := exit_eq_some_iff.mp hm
    have hun := h.begun (by simp [hp])
    exact ⟨by simp [ho, h.start_outside hown], by simp [ho], hw ▸ h.waiting, (absurd · hun)⟩
  | threadExit hp hm =>
    obtain ⟨⟨hfree, -⟩, ho, hw⟩ := terminate_eq_some_iff.mp hm
    exact ⟨by simp [ho, (h.outside hfree).1], by simp [ho, (h.outside hfree).2], .inl hw,
      h.unregistered⟩

theorem wf_after (es : List StartEvent) : (machine.after es).Wf := by
  refine machine.state_inv (P := Wf) wf_start (fun s e h => ?_) es
  rcases machine_step s e with hs | ⟨-, he⟩
  · exact h.step hs
  · rwa [he]

/-! ## 4. What should hold -/

/-- Nobody waits for a callback that is over, with nobody left to notify; and `start` does not
    return before the callback has run. -/
structure Holds (s : Startup) : Prop where
  notLost : ¬ (.start ∈ s.monitor.waiting ∧ s.run = .completed ∧ s.thread = .terminated)
  notPremature : s.start = .returned → s.run = .completed

/-- A step that keeps it so, taken in a state: `start` does not begin to wait after the callback
    has notified and the thread has ended, and the thread does not end while `start` waits for a
    callback that has still to notify. -/
def Orderly (s : Startup) : StartEvent → Prop
  | .wait => s.start = .entered → ¬ (s.run.hasNotified ∧ s.thread = .terminated)
  | .threadExit => s.thread = .running → s.monitor.owner = none → .start ∈ s.monitor.waiting →
      s.run.hasNotified
  | _ => True

/-- Every step of the run is such. -/
def AllOrderly (es : List StartEvent) : Prop :=
  ∀ p e, p ++ [e] <+: es → (machine.after p).Orderly e

/-- What orderly steps keep: who has left the wait set was notified by the callback, who has gone
    on comes after it, and who waits after it still has the thread. -/
structure Prompt (s : Startup) : Prop where
  woken : s.start = .waiting → s.monitor.waiting = [] → s.run.hasNotified
  released : s.start = .woken ∨ s.start = .returned → s.run = .completed
  attended : s.monitor.waiting = [.start] → s.run ≠ .notified ∧
    (s.run = .completed → s.thread ≠ .terminated)

theorem prompt_start : machine.start.1.Prompt where
  woken := nofun
  released := by decide
  attended := nofun

/-- **It holds where orderly steps have led.** -/
theorem Prompt.holds {s : Startup} (hwf : s.Wf) (h : s.Prompt) : s.Holds where
  notLost := by
    rintro ⟨hmem, hrun, hthread⟩
    rcases hwf.waiting with hw | ⟨hw, -⟩
    · rw [hw] at hmem
      cases hmem
    · exact (h.attended hw).2 hrun hthread
  notPremature hr := h.released (.inr hr)

/-- Where the wait set is empty, nobody in it is unattended. -/
theorem attended_of_nil {w : List Party} {P : Prop} (h : w = []) : w = [.start] → P := by
  rw [h]
  nofun

open Monitor in
/-- **One orderly step keeps it.** -/
theorem Prompt.step {s s' : Startup} {e : StartEvent} (hwf : s.Wf) (h : s.Prompt)
    (he : s.Orderly e) (hs : Step s e s') : s'.Prompt := by
  cases hs with
  | threadStart hp =>
    exact ⟨nofun, nofun, attended_of_nil (hwf.waiting_of_ne (by simp [hp]))⟩
  | registerOnMemberUp hp =>
    exact ⟨nofun, nofun, attended_of_nil (hwf.waiting_of_ne (by simp [hp]))⟩
  | enter hp hm =>
    obtain ⟨-, -, hw⟩ := enter_eq_some_iff.mp hm
    exact ⟨nofun, nofun, attended_of_nil (hw.trans (hwf.waiting_of_ne (by simp [hp])))⟩
  | wait hp hm =>
    -- the owner is `start`, so the callback is not between its `notify()` and its end
    obtain ⟨hown, -, hw⟩ := wait_eq_some_iff.mp hm
    have hrun : s.run ≠ .notified := fun hr => hwf.run_outside hown (.inr hr)
    exact ⟨fun _ hnil => by simp [hw] at hnil, nofun,
      fun _ => ⟨hrun, fun hr ht => he hp ⟨.inr hr, ht⟩⟩⟩
  | wake hp hm =>
    -- the monitor is free, so a callback that has notified is over
    obtain ⟨⟨hfree, hnot⟩, -, hw⟩ := enter_eq_some_iff.mp hm
    have hnil := hwf.waiting_eq_nil hnot
    have hover : s.run = .completed :=
      (h.woken hp hnil).resolve_left fun hr => (hwf.outside hfree).2 (.inr hr)
    exact ⟨nofun, fun _ => hover, attended_of_nil (hw.trans hnil)⟩
  | leave hp hm =>
    obtain ⟨-, -, hw⟩ := exit_eq_some_iff.mp hm
    exact ⟨nofun, fun _ => h.released (.inl hp),
      attended_of_nil (hw.trans (hwf.waiting_of_ne (by simp [hp])))⟩
  | runEnter hp hm =>
    -- a callback that is only entering has woken nobody yet
    obtain ⟨-, -, hw⟩ := enter_eq_some_iff.mp hm
    have hearly : ¬ s.run.hasNotified := by simp [RunPhase.hasNotified, hp]
    exact ⟨fun hwait hnil => absurd (h.woken hwait (hw.symm.trans hnil)) hearly,
      fun hr => absurd (.inr (h.released hr)) hearly, fun _ => ⟨nofun, nofun⟩⟩
  | runNotify k hp hm =>
    obtain ⟨-, -, hw⟩ := notify_eq_some_iff.mp hm
    have hearly : s.run ≠ .completed := by simp [hp]
    exact ⟨fun _ _ => .inl rfl, fun hr => absurd (h.released hr) hearly,
      attended_of_nil (hw.trans (hwf.eraseIdx_waiting k))⟩
  | runExit hp hm =>
    obtain ⟨-, -, hw⟩ := exit_eq_some_iff.mp hm
    exact ⟨fun _ _ => .inr rfl, fun _ => rfl,
      fun hwait => absurd hp (h.attended (hw.symm.trans hwait)).1⟩
  | threadExit hp hm =>
    -- whoever its end wakes was notified before, or comes after the callback
    obtain ⟨⟨hfree, -⟩, -, hw⟩ := terminate_eq_some_iff.mp hm
    refine ⟨fun hwait _ => ?_, h.released, attended_of_nil hw⟩
    rcases hwf.waiting with hn | ⟨hn, -⟩
    · exact h.woken hwait hn
    · exact he hp hfree (hn ▸ List.mem_singleton_self _)

theorem prompt_after {es : List StartEvent} (h : AllOrderly es) : (machine.after es).Prompt := by
  induction es using List.reverseRecOn with
  | nil => exact prompt_start
  | append_singleton es e ih =>
    obtain ⟨hes, he⟩ := (forall_steps_concat_iff (Q := fun p e => (machine.after p).Orderly e)
      es e).mp h
    rw [Machine.after_concat]
    rcases machine_step (machine.after es) e with hs | ⟨-, hsame⟩
    · exact (ih hes).step (wf_after es) he hs
    · rw [hsame]
      exact ih hes

/-- **In a run of orderly steps it holds in every state.** -/
theorem holds_of_orderly {es : List StartEvent} (h : AllOrderly es) :
    ∀ p, p <+: es → (machine.after p).Holds :=
  fun p hp => (prompt_after fun q e hq => h q e (hq.trans hp)).holds (wf_after p)

/-! ## 5. The steps that break it -/

/-- A thread that begins to wait when callback and thread are over waits for good. -/
theorem not_holds_wait {s : Startup} (hwf : s.Wf) (hp : s.start = .entered)
    (hrun : s.run.hasNotified) (hthread : s.thread = .terminated) :
    ¬ (machine.step s .wait).1.Holds := by
  have hown := hwf.start.mpr (.inl hp)
  have hover : s.run = .completed := by
    refine hrun.resolve_left fun hn => ?_
    have hother := hwf.run.mpr (.inr hn)
    rw [hown] at hother
    cases hother
  have hstep : s.next .wait = some { s with
      start := .waiting, monitor := ⟨none, s.monitor.waiting ++ [.start], nofun⟩ } := by
    unfold next advance Monitor.wait
    rw [if_pos hp, if_pos hown]
    rfl
  show ¬ ((s.next .wait).getD s).Holds
  rw [hstep]
  exact fun h => h.notLost ⟨List.mem_append_right _ (List.mem_singleton_self _), hover, hthread⟩

/-- A thread woken by the end of `thread` can return before the callback. -/
theorem not_holds_threadExit {s : Startup} (hwf : s.Wf) (hthread : s.thread = .running)
    (hfree : s.monitor.owner = none) (hmem : .start ∈ s.monitor.waiting)
    (hrun : ¬ s.run.hasNotified) :
    ¬ (machine.step (machine.step (machine.step s .threadExit).1 .wake).1 .leave).1.Holds := by
  obtain ⟨hw, hp⟩ : s.monitor.waiting = [.start] ∧ s.start = .waiting := by
    rcases hwf.waiting with hw | hw
    · rw [hw] at hmem
      cases hmem
    · exact hw
  obtain ⟨⟨owner, waiting, apart⟩, start, run, thread⟩ := s
  subst hw hp hthread hfree
  exact fun h => hrun (.inr (h.notPremature rfl))

/-- **Orderly steps are what start-up rests on**: in a run of such steps nobody waits in vain and
    nobody returns early; and after a step that is not such, somebody does as soon as `start` has
    gone on as far as it can. -/
theorem wakeups (es : List StartEvent) :
    (AllOrderly es → ∀ p, p <+: es → (machine.after p).Holds) ∧
      ∀ p e, p ++ [e] <+: es → ¬ (machine.after p).Orderly e →
        ∃ q, q <+: [.wake, .leave] ∧ ¬ (machine.after (p ++ [e] ++ q)).Holds := by
  refine ⟨holds_of_orderly, fun p e _ he => ?_⟩
  have hwf := wf_after p
  cases e with
  | wait =>
    simp only [Orderly, not_forall, not_not] at he
    obtain ⟨hp, hrun, hthread⟩ := he
    refine ⟨[], List.nil_prefix, ?_⟩
    rw [List.append_nil, Machine.after_concat]
    exact not_holds_wait hwf hp hrun hthread
  | threadExit =>
    simp only [Orderly, not_forall] at he
    obtain ⟨hthread, hfree, hmem, hrun⟩ := he
    refine ⟨[.wake, .leave], List.prefix_refl _, ?_⟩
    have hruns : p ++ [.threadExit] ++ [.wake, .leave] =
        p ++ [.threadExit] ++ [.wake] ++ [.leave] := by
      rw [List.append_assoc, List.append_assoc, List.append_assoc]
      rfl
    rw [hruns, Machine.after_concat, Machine.after_concat, Machine.after_concat]
    exact not_holds_threadExit hwf hthread hfree hmem hrun
  | threadStart => exact absurd trivial he
  | registerOnMemberUp => exact absurd trivial he
  | enter => exact absurd trivial he
  | wake => exact absurd trivial he
  | leave => exact absurd trivial he
  | runEnter => exact absurd trivial he
  | runNotify k => exact absurd trivial he
  | runExit => exact absurd trivial he

/-- The callback runs before `start` waits, and the thread is over: start-up hangs. And the thread
    ends while `start` waits: start-up goes on without the cluster. -/
theorem not_holds_races :
    ¬ (machine.after [.threadStart, .registerOnMemberUp, .threadExit, .runEnter, .runNotify 0,
        .runExit, .enter, .wait]).Holds ∧
      ¬ (machine.after [.threadStart, .registerOnMemberUp, .enter, .wait, .threadExit, .wake,
        .leave]).Holds := by
  refine ⟨fun h => h.notLost ?_, fun h => ?_⟩
  · decide
  · have hearly := h.notPremature (by decide)
    revert hearly
    decide

end Startup

end EsbCore
