/-
  File:      EsbCore/Util/HexTable.lean
  Subject:   HEXADECIMAL TEXT WRITTEN BY A TABLE (`org.esb.util.HexUtil.str2HexStr`).

  The second encoder takes the two halves of a byte with masks and a shift and looks their digits
  up in the table that `hexStr2Str` searches.

  * `str2HexStr` -- the bytes of a string in a charset, by the table;
  * `highHalf_eq`, `lowHalf_eq` -- the masked halves of the signed byte are those of its unsigned
    value;
  * `str2HexStr_eq` -- so the table writes what `byte2HexStr` writes;
  * `tableBytes_upperPairs` -- searching the table for the digits of an array gives the array;
  * `hexStr2Str_str2HexStr` -- what a charset keeps survives the way there and back.
-/
import EsbCore.Util.HexStr

namespace EsbCore.HexUtil

open Java

/-! ## 1. The function -/

/-- `(b & 0x0f0) >> 4`: the byte is widened to an `int` with its sign first. -/
def highHalf (b : JByte) : Nat := ((b.signExtend 32 &&& 0x0F0#32).sshiftRight 4).toNat

/-- `b & 0x0f`. -/
def lowHalf (b : JByte) : Nat := (b.signExtend 32 &&& 0x0F#32).toNat

/-- What is checked of every two halves is checked of every byte. -/
theorem forall_byte {P : JByte → Prop} (hall : ∀ h l : Fin 16, P (BitVec.ofNat 8 (16 * h + l)))
    (b : JByte) : P b := by
  have hb := b.isLt
  have h := hall ⟨b.toNat / 16, by omega⟩ ⟨b.toNat % 16, by omega⟩
  have hsplit : 16 * (b.toNat / 16) + b.toNat % 16 = b.toNat := by omega
  simp only [hsplit, BitVec.ofNat_toNat, BitVec.setWidth_eq] at h
  exact h

/-- The mask leaves four bits of the unsigned value, and the shift brings them down. -/
theorem highHalf_eq (b : JByte) : highHalf b = b.toNat / 16 :=
  forall_byte (P := fun b => highHalf b = b.toNat / 16) (by decide) b

theorem lowHalf_eq (b : JByte) : lowHalf b = b.toNat % 16 :=
  forall_byte (P := fun b => lowHalf b = b.toNat % 16) (by decide) b

/-- A half of a byte never leaves the table. -/
theorem highHalf_lt (b : JByte) : highHalf b < hexTable.length := by
  have hb := b.isLt
  have hlen : hexTable.length = 16 := rfl
  rw [highHalf_eq]
  omega

theorem lowHalf_lt (b : JByte) : lowHalf b < hexTable.length := by
  have hlen : hexTable.length = 16 := rfl
  rw [lowHalf_eq]
  omega

/-- What one round of the loop of `str2HexStr` appends. -/
def appendHalves (b : JByte) : JString :=
  [hexTable.get ⟨highHalf b, highHalf_lt b⟩, hexTable.get ⟨lowHalf b, lowHalf_lt b⟩, Ch.space]

/-- `str2HexStr(str)`, in the platform's charset. -/
def str2HexStr (charset : Charset) (str : JString) : JString :=
  trim ((charset.encode str).flatMap appendHalves)

/-! ## 2. The two encoders -/

/-- The table holds the digits of `Integer.toHexString` in upper case. -/
theorem hexTable_get (i : Fin hexTable.length) : hexTable.get i = upperChar (hexChar i) := by
  revert i
  decide

/-- One round by the table appends the pair of the byte and a space. -/
theorem appendHalves_eq (b : JByte) : appendHalves b = upperPair b ++ [Ch.space] := by
  unfold appendHalves upperPair
  rw [hexTable_get, hexTable_get]
  simp only [highHalf_eq, lowHalf_eq, List.cons_append, List.nil_append]

/-- **The two encoders write the same text for every string and every charset.** -/
theorem str2HexStr_eq (charset : Charset) (s : JString) :
    str2HexStr charset s = byte2HexStr (charset.encode s) := by
  have hrounds : (charset.encode s).flatMap appendHalves =
      (charset.encode s).flatMap fun x => upperPair x ++ [Ch.space] :=
    List.flatMap_congr fun x _ => appendHalves_eq x
  unfold str2HexStr byte2HexStr
  rw [hrounds, toUpperCase_flatMap]

/-! ## 3. There and back -/

/-- Searching the table for the digits of a byte gives the byte. -/
theorem tableByte_upperPair (b : JByte) :
    tableByte (upperChar (hexChar (b.toNat / 16))) (upperChar (hexChar (b.toNat % 16))) = b := by
  have hindex : ∀ d : Fin 16, indexOf hexTable (upperChar (hexChar d)) = (d.val : Int) := by decide
  have hb := b.isLt
  have hhigh := hindex ⟨b.toNat / 16, by omega⟩
  have hlow := hindex ⟨b.toNat % 16, by omega⟩
  simp only at hhigh hlow
  have hsum : ((b.toNat / 16 : Nat) : Int) * 16 + ((b.toNat % 16 : Nat) : Int) = b.toNat := by omega
  unfold tableByte
  rw [narrow_intAnd0xFF, hhigh, hlow, hsum, narrow_toNat]

/-- Two chars a round, the table gives the bytes whose pairs it meets. -/
theorem tableBytes_upperPairs (b : List JByte) : tableBytes (b.flatMap upperPair) = b := by
  induction b with
  | nil => rfl
  | cons x b ih =>
    show tableByte _ _ :: tableBytes (b.flatMap upperPair) = x :: b
    rw [tableByte_upperPair, ih]

/-- **A string its charset keeps comes back from its hexadecimal text.** -/
theorem hexStr2Str_str2HexStr {charset : Charset} {s : JString}
    (h : charset.decode (charset.encode s) = s) :
    hexStr2Str charset (removeSpaces (str2HexStr charset s)) = s := by
  unfold hexStr2Str
  rw [str2HexStr_eq, removeSpaces_byte2HexStr, tableBytes_upperPairs, h]

/-- `"aé"`: the second char is the byte -23. -/
theorem hexStr2Str_str2HexStr_accent :
    hexStr2Str Charset.latin1 (removeSpaces (str2HexStr Charset.latin1 [0x61, 0xE9])) =
      [0x61, 0xE9] :=
  hexStr2Str_str2HexStr (by decide)

/-- It goes out as `"61 E9"`. -/
example : str2HexStr Charset.latin1 [0x61, 0xE9] = [0x36, 0x31, 0x20, 0x45, 0x39] := by decide

end EsbCore.HexUtil
