/-
  File:      EsbCore/Lib/LastWith.lean
  Subject:   THE LATEST ENTRY OF A HISTORY that has a property.

  A library on its own: arbitrary entries, no program.

  * `lastWith` -- the last entry of a list that has a property;
  * `lastWith_concat` -- a new entry is the latest, or does not count;
  * `lastWith_and` -- where the latest entry with a property has another one as well, it is the
    latest with both.
-/
import Mathlib.Data.List.Induction

namespace Lib

variable {α β : Type}

/-- The last entry that has the property. -/
def lastWith (q : α → Bool) (l : List α) : Option α := l.reverse.find? q

@[simp] theorem lastWith_nil (q : α → Bool) : lastWith q [] = none := rfl

theorem lastWith_concat (q : α → Bool) (l : List α) (a : α) :
    lastWith q (l ++ [a]) = if q a = true then some a else lastWith q l := by
  unfold lastWith
  rw [List.reverse_append, List.reverse_singleton, List.singleton_append, List.find?_cons]
  cases q a <;> rfl

theorem lastWith_eq_none_iff {q : α → Bool} {l : List α} :
    lastWith q l = none ↔ ∀ a ∈ l, q a = false := by
  unfold lastWith
  simp

/-- Where the latest entry with `q` has `r`, it is the latest with both. -/
theorem lastWith_and {q : α → Bool} {l : List α} {a : α} (h : lastWith q l = some a)
    {r : α → Bool} (hr : r a = true) : lastWith (fun x => q x && r x) l = some a := by
  induction l using List.reverseRecOn with
  | nil => cases h
  | append_singleton l b ih =>
    rw [lastWith_concat] at h ⊢
    by_cases hb : q b = true
    · rw [if_pos hb] at h
      cases h
      rw [hb, hr]
      rfl
    · rw [if_neg hb] at h
      rw [ih h]
      simp [hb]

/-- Where no entry has `q`, none has both. -/
theorem lastWith_and_eq_none {q : α → Bool} {l : List α} (h : lastWith q l = none) (r : α → Bool) :
    lastWith (fun x => q x && r x) l = none := by
  rw [lastWith_eq_none_iff] at h ⊢
  intro a ha
  rw [h a ha]
  rfl

/-- A property of what entries show is looked for in what they show. -/
theorem map_lastWith (g : α → β) (q : β → Bool) (l : List α) :
    (lastWith (fun x => q (g x)) l).map g = lastWith q (l.map g) := by
  unfold lastWith
  rw [← List.map_reverse, List.find?_map]
  rfl

/-- An entry that changes and shows the same leaves what the list shows. -/
theorem map_modify_of_eq {f : α → α} {g : α → β} (h : ∀ a, g (f a) = g a) (l : List α) (i : Nat) :
    (l.modify i f).map g = l.map g := by
  induction l generalizing i with
  | nil => rw [List.modify_nil]
  | cons a l ih =>
    cases i with
    | zero => rw [List.modify_zero_cons, List.map_cons, List.map_cons, h]
    | succ i => rw [List.modify_succ_cons, List.map_cons, List.map_cons, ih]

end Lib
