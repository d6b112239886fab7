/-
  File:      EsbCore/Lib/Monitor.lean
  Subject:   MONITORS: one lock with a set of threads that wait on it, as every Java object has.

  A library on its own: arbitrary threads, no program.

  * `Monitor` -- the owner of the lock and the threads in the wait set; that the owner does not
    wait is a field;
  * `enter`, `exit`, `wait`, `notify` -- what a thread can do with it: `none` where it is blocked,
    or not the owner;
  * `terminate` -- a thread that ends while the monitor is its own object: it wakes all;
  * `enter_eq_some_iff` and its like -- each as a guard, the owner and the wait set after it. A
    woken thread only leaves the wait set: it goes on by entering again.
-/
import Mathlib.Logic.Basic

namespace Lib

/-- A monitor; the wait set is in the order in which the threads began to wait. -/
@[ext] structure Monitor (ι : Type) where
  owner : Option ι
  waiting : List ι
  apart : ∀ i, owner = some i → i ∉ waiting

namespace Monitor

variable {ι : Type}

/-! ## 1. The operations -/

/-- Nobody owns it and nobody waits. -/
def free : Monitor ι := ⟨none, [], nofun⟩

@[simp] theorem owner_free : (free : Monitor ι).owner = none := rfl

@[simp] theorem waiting_free : (free : Monitor ι).waiting = [] := rfl

/-- `notifyAll()`, whoever owns it. -/
def wakeAll (m : Monitor ι) : Monitor ι := ⟨m.owner, [], fun _ _ => List.not_mem_nil⟩

/-- What is done under a guard. -/
theorem ite_eq_some_iff {c : Prop} [Decidable c] {n m' : Monitor ι} :
    (if c then some n else none) = some m' ↔
      c ∧ m'.owner = n.owner ∧ m'.waiting = n.waiting := by
  split
  · rename_i h
    rw [Option.some_inj, eq_comm, Monitor.ext_iff]
    exact ⟨fun e => ⟨h, e⟩, And.right⟩
  · rename_i h
    exact iff_of_false nofun fun e => h e.1

variable [DecidableEq ι]

/-- The beginning of a `synchronized` block, or the end of a wait. -/
def enter (m : Monitor ι) (i : ι) : Option (Monitor ι) :=
  if h : m.owner = none ∧ i ∉ m.waiting then
    some ⟨some i, m.waiting, fun _ hj => Option.some.inj hj ▸ h.2⟩
  else none

/-- The end of a `synchronized` block. -/
def exit (m : Monitor ι) (i : ι) : Option (Monitor ι) :=
  if m.owner = some i then some ⟨none, m.waiting, nofun⟩ else none

/-- `wait()`: the owner gives the lock away and waits. -/
def wait (m : Monitor ι) (i : ι) : Option (Monitor ι) :=
  if m.owner = some i then some ⟨none, m.waiting ++ [i], nofun⟩ else none

/-- `notify()`: one waiting thread is woken, if there is any; `k` says which. -/
def notify (m : Monitor ι) (i : ι) (k : Nat) : Option (Monitor ι) :=
  if m.owner = some i then
    some ⟨m.owner, m.waiting.eraseIdx (k % m.waiting.length),
      fun j hj hmem => m.apart j hj (List.mem_of_mem_eraseIdx hmem)⟩
  else none

/-- The end of the thread `i` whose object this is: it enters, notifies all and exits. -/
def terminate (m : Monitor ι) (i : ι) : Option (Monitor ι) :=
  (m.enter i).bind fun m => m.wakeAll.exit i

/-! ## 2. What they do -/

variable {m m' : Monitor ι} {i : ι}

theorem enter_eq_some_iff : m.enter i = some m' ↔
    (m.owner = none ∧ i ∉ m.waiting) ∧ m'.owner = some i ∧ m'.waiting = m.waiting := by
  unfold enter
  split
  · rename_i h
    rw [Option.some_inj, eq_comm, Monitor.ext_iff]
    exact ⟨fun e => ⟨h, e⟩, And.right⟩
  · rename_i h
    exact iff_of_false nofun fun e => h e.1

theorem exit_eq_some_iff : m.exit i = some m' ↔
    m.owner = some i ∧ m'.owner = none ∧ m'.waiting = m.waiting := ite_eq_some_iff

theorem wait_eq_some_iff : m.wait i = some m' ↔
    m.owner = some i ∧ m'.owner = none ∧ m'.waiting = m.waiting ++ [i] := ite_eq_some_iff

theorem notify_eq_some_iff {k : Nat} : m.notify i k = some m' ↔
    m.owner = some i ∧ m'.owner = m.owner ∧
      m'.waiting = m.waiting.eraseIdx (k % m.waiting.length) := ite_eq_some_iff

theorem terminate_eq_some_iff : m.terminate i = some m' ↔
    (m.owner = none ∧ i ∉ m.waiting) ∧ m'.owner = none ∧ m'.waiting = [] := by
  unfold terminate
  rw [Option.bind_eq_some_iff]
  constructor
  · rintro ⟨n, hn, hm⟩
    exact ⟨(enter_eq_some_iff.mp hn).1, (exit_eq_some_iff.mp hm).2⟩
  · rintro ⟨hg, hm⟩
    exact ⟨⟨some i, m.waiting, fun _ hj => Option.some.inj hj ▸ hg.2⟩,
      enter_eq_some_iff.mpr ⟨hg, rfl, rfl⟩, exit_eq_some_iff.mpr ⟨rfl, hm⟩⟩

end Monitor

end Lib
