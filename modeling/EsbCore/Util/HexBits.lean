/-
  File:      EsbCore/Util/HexBits.lean
  Subject:   BITS OF BYTES AND BINARY TEXT (`org.esb.util.HexUtil`).

  * `getInt`, `getBit` -- a byte's unsigned value and one of its bits;
  * `hexString2binaryString` -- four binary digits for each hexadecimal one, `null` for no text
    or an odd one;
  * `fourBits_bit`, `byteBits_getBit` -- the digits of a half byte and of a byte are its bits, the
    highest first;
  * `hexString2binaryString_getBit` -- the binary text of an array is its bits, byte by byte.
-/
import EsbCore.Util.HexTable

namespace EsbCore.HexUtil

open Java

/-! ## 1. The functions -/

/-- `getInt(b)`. -/
def getInt (b : JByte) : Nat := and0xFF b

/-- `getBit(b, index)`; of a shift's distance Java takes the low five bits. -/
def getBit (b : JByte) (index : Int) : Nat := (getInt b >>> (index % 32).toNat) % 2

/-- `Integer.toBinaryString(n)`: the numeral of the 32 bits read without a sign. -/
def toBinaryString (n : Int) : JString :=
  let bits := (n % 2 ^ 32).toNat
  if bits = 0 then [Ch.zero] else ((Nat.digits 2 bits).map hexChar).reverse

/-- What one round of the loop of `hexString2binaryString` appends for the value it has read. -/
def fourBits (n : Int) : JString :=
  let tmp := [Ch.zero, Ch.zero, Ch.zero, Ch.zero] ++ toBinaryString n
  tmp.drop (tmp.length - 4)

/-- The loop: one char a round. -/
def binaryDigits : JString → Except Throwable JString
  | [] => .ok []
  | c :: hexString => do
    let n ← parseInt [c] 16
    let bString ← binaryDigits hexString
    return fourBits n ++ bString

/-- `hexString2binaryString(hexString)`. -/
def hexString2binaryString : Option JString → Except Throwable (Option JString)
  | none => .ok none
  | some hexString =>
    if hexString.length % 2 ≠ 0 then .ok none
    else (binaryDigits hexString).map some

/-! ## 2. One byte -/

/-- The eight binary digits of a byte, as the loop writes them for its pair. -/
def byteBits (b : JByte) : JString := fourBits (b.toNat / 16 : Nat) ++ fourBits (b.toNat % 16 : Nat)

theorem length_fourBits {d : Nat} (h : d < 16) : (fourBits d).length = 4 := by
  have hall : ∀ d : Fin 16, (fourBits (d.val : Nat)).length = 4 := by decide
  exact hall ⟨d, h⟩

/-- Of the digits of a half byte that of bit `j` stands `3 - j` places from the left. -/
theorem fourBits_bit {d j : Nat} (h : d < 16) (hj : j < 4) :
    (fourBits d)[3 - j]? = some (hexChar (d / 2 ^ j % 2)) := by
  have hall : ∀ (d : Fin 16) (j : Fin 4),
      (fourBits (d.val : Nat))[3 - j.val]? = some (hexChar (d.val / 2 ^ j.val % 2)) := by decide
  exact hall ⟨d, h⟩ ⟨j, hj⟩

@[simp] theorem length_byteBits (b : JByte) : (byteBits b).length = 8 := by
  have hb := b.isLt
  unfold byteBits
  rw [List.length_append, length_fourBits (by omega), length_fourBits (by omega)]

/-- A bit is a digit of the unsigned value in base two. -/
theorem getBit_eq (b : JByte) {j : Nat} (hj : j < 8) : getBit b j = b.toNat / 2 ^ j % 2 := by
  have hdistance : ((j : Int) % 32).toNat = j := by omega
  unfold getBit getInt
  rw [and0xFF_eq, hdistance, Nat.shiftRight_eq_div_pow]

/-- **The digit of bit `j` stands `7 - j` places from the left.** -/
theorem byteBits_getBit (b : JByte) (j : Fin 8) :
    (byteBits b)[7 - j.val]? = some (hexChar (getBit b j.val)) := by
  have hb := b.isLt
  have hlen : (fourBits (b.toNat / 16 : Nat)).length = 4 := length_fourBits (by omega)
  have hj := j.isLt
  rw [getBit_eq b hj]
  unfold byteBits
  rcases Nat.lt_or_ge j.val 4 with hlow | hhigh
  · -- a bit of the low half
    have hplace : 7 - j.val - 4 = 3 - j.val := by omega
    have hpow : 2 ^ 4 = 2 ^ (4 - j.val - 1) * 2 * 2 ^ j.val := by
      rw [← Nat.pow_succ, ← Nat.pow_add]
      congr 1
      omega
    have hbit : b.toNat % 16 / 2 ^ j.val % 2 = b.toNat / 2 ^ j.val % 2 := by
      show b.toNat % 2 ^ 4 / 2 ^ j.val % 2 = _
      rw [hpow, Nat.mod_mul_left_div_self, Nat.mod_mul_left_mod]
    rw [List.getElem?_append_right (by omega), hlen, hplace, fourBits_bit (by omega) hlow, hbit]
  · have hplace : 7 - j.val = 3 - (j.val - 4) := by omega
    have hbit : b.toNat / 16 / 2 ^ (j.val - 4) % 2 = b.toNat / 2 ^ j.val % 2 := by
      show b.toNat / 2 ^ 4 / 2 ^ (j.val - 4) % 2 = _
      rw [Nat.div_div_eq_div_mul, ← Nat.pow_add, Nat.add_sub_cancel' hhigh]
    rw [List.getElem?_append_left (by omega), hplace, fourBits_bit (by omega) (by omega), hbit]

/-! ## 3. An array -/

/-- One round of the loop: a char that is a digit gives the four binary digits of its value. -/
theorem binaryDigits_cons {c : JChar} {d : Nat} {s t : JString} (hc : digit c 16 = some d)
    (hd : d < 16) (hs : binaryDigits s = .ok t) :
    binaryDigits (c :: s) = .ok (fourBits d ++ t) := by
  have hparse : parseInt [c] 16 = .ok (d : Int) := by
    refine parseInt_of_digits (List.cons_ne_nil _ _) ?_ (by omega)
    rw [parseDigits_cons hc]
    simp [parseDigits]
  simp only [binaryDigits, hparse, hs]
  rfl

/-- The pairs of an array become the binary digits of its bytes. -/
theorem binaryDigits_upperPairs (b : List JByte) :
    binaryDigits (b.flatMap upperPair) = .ok (b.flatMap byteBits) := by
  induction b with
  | nil => rfl
  | cons x b ih =>
    have hx := x.isLt
    have hhigh : x.toNat / 16 < 16 := by omega
    have hlow : x.toNat % 16 < 16 := by omega
    have h := binaryDigits_cons (digit_upperChar_hexChar hhigh) hhigh
      (binaryDigits_cons (digit_upperChar_hexChar hlow) hlow ih)
    rw [List.flatMap_cons, List.flatMap_cons]
    unfold byteBits
    rw [List.append_assoc]
    exact h

theorem length_byteBits_flatMap (b : List JByte) : (b.flatMap byteBits).length = 8 * b.length := by
  induction b with
  | nil => rfl
  | cons x b ih =>
    rw [List.flatMap_cons, List.length_append, ih, length_byteBits, List.length_cons]
    omega

/-- The digits of the byte at `i` stand from `8 * i` on. -/
theorem byteBits_flatMap_getElem? (b : List JByte) (i : Fin b.length) {k : Nat} (hk : k < 8) :
    (b.flatMap byteBits)[8 * i.val + k]? = (byteBits (b.get i))[k]? := by
  induction b with
  | nil => exact i.elim0
  | cons x b ih =>
    rw [List.flatMap_cons]
    refine Fin.cases ?_ (fun i => ?_) i
    · rw [List.getElem?_append_left (by simp only [length_byteBits, Fin.val_zero]; omega)]
      simp
    · have hsub : 8 * (i.val + 1) + k - (byteBits x).length = 8 * i.val + k := by
        rw [length_byteBits]
        omega
      rw [Fin.val_succ, List.getElem?_append_right (by rw [length_byteBits]; omega), hsub]
      exact ih i

/-- **The binary text of an array is its bits**: eight digits for each byte, where the digit of
    bit `j` stands `7 - j` places after the first. -/
theorem hexString2binaryString_getBit (b : List JByte) :
    ∃ t, hexString2binaryString (some (removeSpaces (byte2HexStr b))) = .ok (some t) ∧
      t.length = 8 * b.length ∧
      ∀ (i : Fin b.length) (j : Fin 8),
        t[8 * i.val + 7 - j.val]? = some (hexChar (getBit (b.get i) j.val)) := by
  refine ⟨b.flatMap byteBits, ?_, length_byteBits_flatMap b, fun i j => ?_⟩
  · have heven : ¬ (b.flatMap upperPair).length % 2 ≠ 0 := by
      rw [length_upperPairs]
      omega
    simp only [hexString2binaryString]
    rw [removeSpaces_byte2HexStr, if_neg heven, binaryDigits_upperPairs]
    rfl
  · have hplace : 8 * i.val + 7 - j.val = 8 * i.val + (7 - j.val) := by omega
    rw [hplace, byteBits_flatMap_getElem? b i (by omega), byteBits_getBit]

/-- The byte -91 is `"A5"`. -/
example : hexString2binaryString (some [0x41, 0x35]) =
    .ok (some [0x31, 0x30, 0x31, 0x30, 0x30, 0x31, 0x30, 0x31]) := by decide

end EsbCore.HexUtil
