/-
  File:      EsbCore/Lib/Collect.lean
  Subject:   LOOPS THAT COLLECT UNTIL AN EXCEPTION ENDS THEM.

  A library on its own: arbitrary elements, results and exceptions, no program.

  * `collect` -- the loop: what it has collected when it ends, and the exception that ended it;
  * `StandsAt` -- an element with a result, and no exception at the elements in front of it;
  * `mem_collect_iff`, `nodup_collect_iff` -- what is collected stands somewhere, and is collected
    once if it stands at one position only.
-/
import Mathlib.Data.List.Nodup

namespace Lib

variable {α β χ : Type}

/-- The loop: an element may have a result, or none, or throw. -/
def collect (f : α → Except χ (Option β)) : List α → List β × Option χ
  | [] => ([], none)
  | a :: as =>
    match f a with
    | .error e => ([], some e)
    | .ok none => collect f as
    | .ok (some b) => (b :: (collect f as).1, (collect f as).2)

/-- The element at a position has the result, and no element before it throws. -/
def StandsAt (f : α → Except χ (Option β)) (as : List α) (j : Nat) (b : β) : Prop :=
  (∃ a, as[j]? = some a ∧ f a = .ok (some b)) ∧
    ∀ i a e, i < j → as[i]? = some a → f a ≠ .error e

section Collect

variable {f : α → Except χ (Option β)}

theorem collect_error {a : α} {e : χ} (h : f a = .error e) (as : List α) :
    collect f (a :: as) = ([], some e) := by
  rw [collect, h]

theorem collect_none {a : α} (h : f a = .ok none) (as : List α) :
    collect f (a :: as) = collect f as := by
  rw [collect, h]

theorem collect_some {a : α} {b : β} (h : f a = .ok (some b)) (as : List α) :
    collect f (a :: as) = (b :: (collect f as).1, (collect f as).2) := by
  rw [collect, h]

theorem not_standsAt_nil (j : Nat) (b : β) : ¬ StandsAt f [] j b := by
  rintro ⟨⟨a, ha, -⟩, -⟩
  rw [List.getElem?_nil] at ha
  cases ha

theorem standsAt_zero {a : α} {as : List α} {b : β} :
    StandsAt f (a :: as) 0 b ↔ f a = .ok (some b) := by
  constructor
  · rintro ⟨⟨a', ha, hb⟩, -⟩
    cases ha
    exact hb
  · exact fun h => ⟨⟨a, rfl, h⟩, fun i a' e hi => absurd hi (Nat.not_lt_zero i)⟩

theorem standsAt_succ {a : α} {as : List α} {j : Nat} {b : β} :
    StandsAt f (a :: as) (j + 1) b ↔ (∀ e, f a ≠ .error e) ∧ StandsAt f as j b := by
  constructor
  · rintro ⟨hj, hi⟩
    refine ⟨fun e => hi 0 a e (Nat.succ_pos j) rfl, hj, fun i a' e hlt ha => ?_⟩
    exact hi (i + 1) a' e (Nat.succ_lt_succ hlt) ha
  · rintro ⟨ha, hj, hi⟩
    refine ⟨hj, fun i a' e hlt ha' => ?_⟩
    cases i with
    | zero =>
      cases ha'
      exact ha e
    | succ i => exact hi i a' e (Nat.lt_of_succ_lt_succ hlt) ha'

/-- A result stands at the first element, or in the rest. -/
theorem exists_standsAt_cons_iff {a : α} {as : List α} {b : β} :
    (∃ j, StandsAt f (a :: as) j b) ↔
      f a = .ok (some b) ∨ (∀ e, f a ≠ .error e) ∧ ∃ j, StandsAt f as j b := by
  constructor
  · rintro ⟨j, hj⟩
    cases j with
    | zero => exact .inl (standsAt_zero.mp hj)
    | succ j => exact .inr ⟨(standsAt_succ.mp hj).1, j, (standsAt_succ.mp hj).2⟩
  · rintro (h | ⟨ha, j, hj⟩)
    · exact ⟨0, standsAt_zero.mpr h⟩
    · exact ⟨j + 1, standsAt_succ.mpr ⟨ha, hj⟩⟩

/-- Every result stands at one position only, where that of the first element does not stand in the
    rest, and no result does so twice. -/
theorem standsAt_once_cons_iff {a : α} {as : List α} :
    (∀ i j b, StandsAt f (a :: as) i b → StandsAt f (a :: as) j b → i = j) ↔
      (∀ b, f a = .ok (some b) → ∀ j, ¬ StandsAt f as j b) ∧
        ((∀ e, f a ≠ .error e) → ∀ i j b, StandsAt f as i b → StandsAt f as j b → i = j) := by
  constructor
  · intro h
    refine ⟨fun b hb j hj => ?_, fun ha i j b hi hj => ?_⟩
    · have ha : ∀ e, f a ≠ .error e := fun e he => by rw [hb] at he; cases he
      exact Nat.succ_ne_zero j
        (h (j + 1) 0 b (standsAt_succ.mpr ⟨ha, hj⟩) (standsAt_zero.mpr hb))
    · exact Nat.succ.inj
        (h (i + 1) (j + 1) b (standsAt_succ.mpr ⟨ha, hi⟩) (standsAt_succ.mpr ⟨ha, hj⟩))
  · rintro ⟨hfirst, hothers⟩ i j b hi hj
    cases i with
    | zero =>
      cases j with
      | zero => rfl
      | succ j => exact absurd (standsAt_succ.mp hj).2 (hfirst b (standsAt_zero.mp hi) j)
    | succ i =>
      cases j with
      | zero => exact absurd (standsAt_succ.mp hi).2 (hfirst b (standsAt_zero.mp hj) i)
      | succ j =>
        obtain ⟨ha, hi⟩ := standsAt_succ.mp hi
        exact congrArg Nat.succ (hothers ha i j b hi (standsAt_succ.mp hj).2)

/-- **What is collected** stands somewhere. -/
theorem mem_collect_iff {as : List α} {b : β} :
    b ∈ (collect f as).1 ↔ ∃ j, StandsAt f as j b := by
  induction as with
  | nil => exact iff_of_false List.not_mem_nil fun ⟨j, h⟩ => not_standsAt_nil j b h
  | cons a as ih =>
    rw [exists_standsAt_cons_iff, ← ih]
    cases hf : f a with
    | error e => simp [collect_error hf]
    | ok o =>
      cases o with
      | none => simp [collect_none hf]
      | some c => simp [collect_some hf, eq_comm]

/-- **It is collected once** if it stands at one position only. -/
theorem nodup_collect_iff {as : List α} :
    (collect f as).1.Nodup ↔
      ∀ i j b, StandsAt f as i b → StandsAt f as j b → i = j := by
  induction as with
  | nil => exact iff_of_true List.nodup_nil fun i j b h => absurd h (not_standsAt_nil i b)
  | cons a as ih =>
    rw [standsAt_once_cons_iff, ← ih]
    cases hf : f a with
    | error e => simp [collect_error hf]
    | ok o =>
      cases o with
      | none => simp [collect_none hf]
      | some c =>
        have hc : (∀ b, (Except.ok (some c) : Except χ (Option β)) = .ok (some b) →
            ∀ j, ¬ StandsAt f as j b) ↔ c ∉ (collect f as).1 := by
          rw [mem_collect_iff]
          exact ⟨fun h ⟨j, hj⟩ => h c rfl j hj, fun h b hb j hj => by cases hb; exact h ⟨j, hj⟩⟩
        rw [hc]
        simp [collect_some hf]

/-- The exception that ends the loop is one an element throws. -/
theorem exists_of_collect_thrown {as : List α} {e : χ} (h : (collect f as).2 = some e) :
    ∃ a ∈ as, f a = .error e := by
  induction as with
  | nil => cases h
  | cons a as ih =>
    cases hf : f a with
    | error e' =>
      rw [collect_error hf] at h
      cases h
      exact ⟨a, List.mem_cons_self, hf⟩
    | ok o =>
      have hrest : (collect f as).2 = some e := by
        cases o with
        | none => rwa [collect_none hf] at h
        | some b => rwa [collect_some hf] at h
      obtain ⟨a', ha', he⟩ := ih hrest
      exact ⟨a', List.mem_cons_of_mem a ha', he⟩

end Collect

end Lib
