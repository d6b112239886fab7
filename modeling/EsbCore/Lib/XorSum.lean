/-
  File:      EsbCore/Lib/XorSum.lean
  Subject:   EXCLUSIVE-OR SUMS: a sum over words that tells every change of a single word.

  A library on its own: words of any width, no program.

  * `xorSum` -- the sum of a list of words, zero for none;
  * `xorSum_concat_self` -- a list with its own sum behind it sums to zero;
  * `DiffersOnce` -- two lists of one length that differ at one place;
  * `xorSum_ne_of_differsOnce` -- their sums differ.
-/
import Mathlib.Data.List.Basic

namespace Lib

variable {w : Nat}

/-! ## 1. The sum -/

/-- The exclusive or of all words. -/
def xorSum : List (BitVec w) → BitVec w
  | [] => 0#w
  | b :: bs => b ^^^ xorSum bs

@[simp] theorem xorSum_nil : xorSum ([] : List (BitVec w)) = 0#w := rfl

@[simp] theorem xorSum_cons (b : BitVec w) (bs : List (BitVec w)) :
    xorSum (b :: bs) = b ^^^ xorSum bs := rfl

theorem xorSum_append (bs cs : List (BitVec w)) :
    xorSum (bs ++ cs) = xorSum bs ^^^ xorSum cs := by
  induction bs with
  | nil => exact BitVec.zero_xor.symm
  | cons b bs ih => rw [List.cons_append, xorSum_cons, ih, xorSum_cons, BitVec.xor_assoc]

/-- A list with its own sum behind it sums to zero. -/
theorem xorSum_concat_self (bs : List (BitVec w)) : xorSum (bs ++ [xorSum bs]) = 0#w := by
  rw [xorSum_append, xorSum_cons, xorSum_nil, BitVec.xor_zero, BitVec.xor_self]

/-! ## 2. One word changed -/

/-- Two lists of one length that differ at exactly one place. -/
def DiffersOnce (bs cs : List (BitVec w)) : Prop :=
  cs.length = bs.length ∧ ∃ i : Nat, cs[i]? ≠ bs[i]? ∧ ∀ j, j ≠ i → cs[j]? = bs[j]?

/-- Such lists are equal before the place and behind it. -/
theorem DiffersOnce.split {bs cs : List (BitVec w)} (h : DiffersOnce bs cs) :
    ∃ xs b c ys, bs = xs ++ b :: ys ∧ cs = xs ++ c :: ys ∧ c ≠ b := by
  obtain ⟨hlen, i, hi, hsame⟩ := h
  have hbs : i < bs.length := by
    by_contra hge
    rw [List.getElem?_eq_none (by omega), List.getElem?_eq_none (by omega)] at hi
    exact hi rfl
  have hcs : i < cs.length := hlen ▸ hbs
  have htake : cs.take i = bs.take i := by
    refine List.ext_getElem? fun j => ?_
    rw [List.getElem?_take, List.getElem?_take]
    split
    · exact hsame j (by omega)
    · rfl
  have hdrop : cs.drop (i + 1) = bs.drop (i + 1) := by
    refine List.ext_getElem? fun j => ?_
    rw [List.getElem?_drop, List.getElem?_drop]
    exact hsame _ (by omega)
  refine ⟨bs.take i, bs[i], cs[i], bs.drop (i + 1), ?_, ?_, ?_⟩
  · rw [List.getElem_cons_drop, List.take_append_drop]
  · rw [← htake, ← hdrop, List.getElem_cons_drop, List.take_append_drop]
  · intro he
    rw [List.getElem?_eq_getElem hbs, List.getElem?_eq_getElem hcs, he] at hi
    exact hi rfl

/-- **A change of one word changes the sum.** -/
theorem xorSum_ne_of_differsOnce {bs cs : List (BitVec w)} (h : DiffersOnce bs cs) :
    xorSum cs ≠ xorSum bs := by
  obtain ⟨xs, b, c, ys, rfl, rfl, hne⟩ := h.split
  intro he
  rw [xorSum_append, xorSum_append, BitVec.xor_right_inj, xorSum_cons, xorSum_cons,
    BitVec.xor_left_inj] at he
  exact hne he

end Lib
