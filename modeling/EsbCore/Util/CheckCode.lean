/-
  File:      EsbCore/Util/CheckCode.lean
  Subject:   THE CHECK CODE OF A FRAME (`org.esb.util.HexUtil.getCheckCode`).

  The loop takes the first byte for its start and folds the others in, each time through two
  sign-extended `int`s and a narrowing cast.

  * `getCheckCode` -- the loop, with what happens outside the array;
  * `getCheckCode_eq` -- of a prefix that is not empty it is the exclusive-or sum;
  * `getCheckCode_detects` -- so a frame checks to zero, and none with one byte changed does;
  * `readsOnlyPrefix_iff` -- bytes behind the prefix do not matter, unless the prefix is empty: then
    the first byte is read all the same.
-/
import EsbCore.Java.Lang
import EsbCore.Lib.XorSum

namespace EsbCore.HexUtil

open Java Lib

/-! ## 1. The function -/

/-- `temp ^ b` of two bytes: both are widened to `int`s with their signs. -/
def xor (temp b : JByte) : Int := (temp.signExtend 32 ^^^ b.signExtend 32).toInt

/-- The loop, from index `i` on, with so many rounds to go. -/
def checkRounds (ret : List JByte) : Nat → Nat → JByte → Except Throwable JByte
  | _, 0, temp => .ok temp
  | i, rounds + 1, temp =>
    match ret[i]? with
    | none => .error .arrayIndexOutOfBounds
    | some b => checkRounds ret (i + 1) rounds (narrow (xor temp b))

/-- `getCheckCode(ret, length)`. -/
def getCheckCode (ret : List JByte) (length : Int) : Except Throwable JByte :=
  match ret[0]? with
  | none => .error .arrayIndexOutOfBounds
  | some temp => checkRounds ret 1 (length - 1).toNat temp

/-! ## 2. What it computes -/

/-- The casts take nothing from the eight bits. -/
theorem narrow_xor (temp b : JByte) : narrow (xor temp b) = temp ^^^ b := by
  have hwide : (temp.signExtend 32 ^^^ b.signExtend 32).toInt = (temp ^^^ b).toInt := by
    rw [← BitVec.signExtend_xor, BitVec.toInt_signExtend_of_le (by decide)]
  unfold narrow xor
  rw [hwide, BitVec.ofInt_toInt]

/-- **The loop folds in the bytes it passes**: so many from index `i` on. -/
theorem checkRounds_eq {ret : List JByte} {i rounds : Nat} (h : i + rounds ≤ ret.length)
    (temp : JByte) :
    checkRounds ret i rounds temp = .ok (temp ^^^ xorSum ((ret.drop i).take rounds)) := by
  induction rounds generalizing i temp with
  | zero => rw [checkRounds, List.take_zero, xorSum_nil, BitVec.xor_zero]
  | succ rounds ih =>
    have hi : i < ret.length := by omega
    have hnext : i + 1 + rounds ≤ ret.length := by omega
    rw [checkRounds, List.getElem?_eq_getElem hi, List.drop_eq_getElem_cons hi,
      List.take_succ_cons, xorSum_cons, ← BitVec.xor_assoc]
    show checkRounds ret (i + 1) rounds (narrow (xor temp ret[i])) = _
    rw [narrow_xor]
    exact ih hnext _

/-- **The check code of a prefix that is not empty is the exclusive or of its bytes.** -/
theorem getCheckCode_eq {ret : List JByte} {n : Nat} (h0 : 0 < n) (hn : n ≤ ret.length) :
    getCheckCode ret n = .ok (xorSum (ret.take n)) := by
  cases ret with
  | nil => exact absurd hn (Nat.not_le_of_gt h0)
  | cons temp ret =>
    have hrounds : ((n : Int) - 1).toNat = n - 1 := by omega
    have htake : (temp :: ret).take n = temp :: ret.take (n - 1) := by
      obtain ⟨m, rfl⟩ := Nat.exists_eq_add_one.mpr h0
      rfl
    have hlen : 1 + (n - 1) ≤ (temp :: ret).length := by omega
    rw [htake, xorSum_cons]
    show checkRounds (temp :: ret) 1 ((n : Int) - 1).toNat temp = _
    rw [hrounds, checkRounds_eq hlen]
    rfl

/-- Of a whole array that is not empty. -/
theorem getCheckCode_length {ret : List JByte} (h : ret ≠ []) :
    getCheckCode ret ret.length = .ok (xorSum ret) := by
  rw [getCheckCode_eq (List.length_pos_iff.mpr h) (le_refl _), List.take_length]

/-! ## 3. Frames -/

/-- **A frame of bytes and their check code checks to zero, and no frame with one byte changed
    does.** -/
theorem getCheckCode_detects {d : List JByte} (hd : d ≠ []) :
    ∃ c, getCheckCode d d.length = .ok c ∧
      getCheckCode (d ++ [c]) (d ++ [c]).length = .ok 0#8 ∧
      ∀ g, DiffersOnce (d ++ [c]) g → ∃ x, getCheckCode g g.length = .ok x ∧ x ≠ 0#8 := by
  have hsum := xorSum_concat_self d
  refine ⟨xorSum d, getCheckCode_length hd, ?_, fun g hg => ?_⟩
  · rw [getCheckCode_length (List.concat_ne_nil _ _), hsum]
  · have hne : g ≠ [] := by
      rintro rfl
      exact absurd hg.1 (by simp)
    refine ⟨xorSum g, getCheckCode_length hne, ?_⟩
    rw [← hsum]
    exact xorSum_ne_of_differsOnce hg

/-- The bytes 1, -2 and 127 have the check code -128. -/
theorem getCheckCode_detects_three :
    getCheckCode [0x01, 0xFE, 0x7F] 3 = .ok 0x80#8 ∧
      ∃ c, getCheckCode [0x01, 0xFE, 0x7F] 3 = .ok c ∧
        getCheckCode ([0x01, 0xFE, 0x7F] ++ [c]) 4 = .ok 0#8 ∧
        ∀ g, DiffersOnce ([0x01, 0xFE, 0x7F] ++ [c]) g →
          ∃ x, getCheckCode g g.length = .ok x ∧ x ≠ 0#8 :=
  ⟨by decide, getCheckCode_detects (d := [0x01, 0xFE, 0x7F]) (by decide)⟩

/-! ## 4. Prefixes -/

/-- The check codes of the first `n` bytes are there and equal. -/
def SameCheckCode (n : Nat) (a b : List JByte) : Prop :=
  ∃ c, getCheckCode a n = .ok c ∧ getCheckCode b n = .ok c

/-- Of no bytes the check code is the first byte of the array. -/
theorem getCheckCode_zero (ret : List JByte) :
    getCheckCode ret 0 =
      match ret.head? with
      | none => .error .arrayIndexOutOfBounds
      | some b => .ok b := by
  cases ret <;> rfl

/-- **Arrays that agree on a prefix have one check code of it, if and only if the prefix is not
    empty or the arrays begin with the same byte.** -/
theorem readsOnlyPrefix_iff {n : Nat} {a b : List JByte} (ha : n ≤ a.length) (hb : n ≤ b.length)
    (h : a.take n = b.take n) :
    SameCheckCode n a b ↔ n ≠ 0 ∨ ∃ c, a.head? = some c ∧ b.head? = some c := by
  unfold SameCheckCode
  by_cases hn : n = 0
  · subst hn
    show (∃ c, getCheckCode a 0 = .ok c ∧ getCheckCode b 0 = .ok c) ↔ _
    rw [getCheckCode_zero, getCheckCode_zero]
    cases a <;> cases b <;> simp
  · have hpos := Nat.pos_of_ne_zero hn
    refine iff_of_true ⟨xorSum (a.take n), getCheckCode_eq hpos ha, ?_⟩ (.inl hn)
    rw [h]
    exact getCheckCode_eq hpos hb

/-- A buffer used again: two bytes, and what is behind them does not matter. -/
theorem readsOnlyPrefix_two : SameCheckCode 2 [0x01, 0xFE, 0x7F] [0x01, 0xFE] :=
  (readsOnlyPrefix_iff (by decide) (by decide) (by decide)).mpr (.inl (by decide))

/-- The empty prefix: the byte read lies behind it. -/
theorem not_readsOnlyPrefix_empty :
    ([0x01] : List JByte).take 0 = ([0x02] : List JByte).take 0 ∧
      ¬ SameCheckCode 0 [0x01] [0x02] ∧ ¬ SameCheckCode 0 [] [] := by
  refine ⟨rfl, ?_, ?_⟩
  · rintro ⟨c, ha, hb⟩
    cases ha
    exact absurd hb (by decide)
  · rintro ⟨c, ha, -⟩
    cases ha

end EsbCore.HexUtil
