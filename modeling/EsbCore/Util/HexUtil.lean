/-
  File:      EsbCore/Util/HexUtil.lean
  Subject:   HEXADECIMAL TEXT OF BYTES (the byte half of `org.esb.util.HexUtil`).

  * `byte2HexStr`, `hexStr2Bytes` -- bytes as pairs of digits with spaces between them, and back;
  * `removeSpaces_byte2HexStr`, `parsePairs_upperPairs` -- the text without its spaces is the pair
    of every byte, and the pairs read back one by one;
  * `hexStr2Bytes_byte2HexStr` -- so the two functions are a round trip on every array.
-/
import EsbCore.Java.Text

namespace EsbCore.HexUtil

open Java

/-! ## 1. The functions -/

/-- What one round of the loop of `byte2HexStr` appends. -/
def appendByte (b : JByte) : JString :=
  let stmp := toHexString (and0xFF b)
  (if stmp.length = 1 then Ch.zero :: stmp else stmp) ++ [Ch.space]

/-- `byte2HexStr(b)`. -/
def byte2HexStr (b : List JByte) : JString := trim (toUpperCase (b.flatMap appendByte))

/-- The loop of `hexStr2Bytes`: two chars a round. -/
def parsePairs : JString → Except Throwable (List JByte)
  | [] => .ok []
  | [_] => .error .stringIndexOutOfBounds
  | c :: d :: src => do
    let b ← parseInt [c, d] 16
    let ret ← parsePairs src
    return narrow b :: ret

/-- `hexStr2Bytes(src)`. -/
def hexStr2Bytes (src : JString) : Except Throwable (List JByte) :=
  let src := removeSpaces src
  parsePairs (if src.length % 2 = 0 then src else Ch.zero :: src)

/-! ## 2. The text of an array, pair by pair -/

/-- The two digits a byte is written as, high half first. -/
def upperPair (b : JByte) : JString :=
  [upperChar (hexChar (b.toNat / 16)), upperChar (hexChar (b.toNat % 16))]

/-- One digit or two, a byte ends up as its pair and a space. -/
theorem toUpperCase_appendByte (b : JByte) :
    toUpperCase (appendByte b) = upperPair b ++ [Ch.space] := by
  have hb := b.isLt
  have hspace : upperChar Ch.space = Ch.space := by decide
  have hzero : upperChar Ch.zero = upperChar (hexChar 0) := by decide
  unfold appendByte upperPair toUpperCase
  rw [and0xFF_eq]
  by_cases h : b.toNat < 16
  · have h0 : b.toNat / 16 = 0 := by omega
    rw [toHexString_digit h, h0, Nat.mod_eq_of_lt h]
    simp [hspace, hzero]
  · rw [toHexString_step (by omega), toHexString_digit (by omega)]
    simp [hspace]

theorem toUpperCase_flatMap (b : List JByte) :
    toUpperCase (b.flatMap appendByte) = b.flatMap fun x => upperPair x ++ [Ch.space] := by
  unfold toUpperCase
  rw [List.map_flatMap]
  exact List.flatMap_congr fun x _ => toUpperCase_appendByte x

/-- The digits of a byte are no spaces and nothing that trimming drops. -/
theorem space_lt_of_mem_upperPair {b : JByte} {c : JChar} (h : c ∈ upperPair b) :
    Ch.space < c := by
  have hb := b.isLt
  simp only [upperPair, List.mem_cons, List.not_mem_nil, or_false] at h
  rcases h with rfl | rfl
  · exact space_lt_upperChar_hexChar (by omega)
  · exact space_lt_upperChar_hexChar (by omega)

theorem removeSpaces_upperPair (b : JByte) :
    removeSpaces (upperPair b ++ [Ch.space]) = upperPair b := by
  unfold removeSpaces
  rw [List.filter_append, List.filter_eq_self.mpr]
  · simp
  · intro c hc
    simpa using (UInt16.ne_of_lt (space_lt_of_mem_upperPair hc)).symm

/-- **Without its spaces the text of an array is the pairs of its bytes.** -/
theorem removeSpaces_byte2HexStr (b : List JByte) :
    removeSpaces (byte2HexStr b) = b.flatMap upperPair := by
  unfold byte2HexStr
  rw [toUpperCase_flatMap, removeSpaces_trim]
  · unfold removeSpaces
    rw [List.filter_flatMap]
    exact List.flatMap_congr fun x _ => removeSpaces_upperPair x
  · intro c hc hle
    obtain ⟨x, -, hx⟩ := List.mem_flatMap.mp hc
    rcases List.mem_append.mp hx with h | h
    · exact absurd hle (UInt16.not_le.mpr (space_lt_of_mem_upperPair h))
    · exact List.mem_singleton.mp h

/-! ## 3. Reading the pairs -/

/-- A pair reads as the value of its byte. -/
theorem parseInt_upperPair (b : JByte) : parseInt (upperPair b) 16 = .ok (b.toNat : Int) := by
  have hb := b.isLt
  refine parseInt_of_digits (List.cons_ne_nil _ _) ?_ (by omega)
  unfold upperPair
  rw [parseDigits_cons (digit_upperChar_hexChar (by omega)),
    parseDigits_cons (digit_upperChar_hexChar (by omega))]
  simp only [parseDigits, Option.some.injEq]
  omega

/-- One round of the loop: two chars that read as a number give its low byte. -/
theorem parsePairs_cons {c d : JChar} {src : JString} {n : Int} {ret : List JByte}
    (h : parseInt [c, d] 16 = .ok n) (hs : parsePairs src = .ok ret) :
    parsePairs (c :: d :: src) = .ok (narrow n :: ret) := by
  simp only [parsePairs, h, hs]
  rfl

theorem parsePairs_upperPairs (b : List JByte) : parsePairs (b.flatMap upperPair) = .ok b := by
  induction b with
  | nil => rfl
  | cons x b ih =>
    have h := parsePairs_cons (parseInt_upperPair x) ih
    rw [narrow_toNat] at h
    exact h

theorem length_upperPairs (b : List JByte) : (b.flatMap upperPair).length = 2 * b.length := by
  induction b with
  | nil => rfl
  | cons x b ih =>
    rw [List.flatMap_cons, List.length_append, ih, List.length_cons]
    simp only [upperPair, List.length_cons, List.length_nil]
    omega

/-- **Bytes written as hexadecimal text read back as themselves.** -/
theorem hexStr2Bytes_byte2HexStr (b : List JByte) : hexStr2Bytes (byte2HexStr b) = .ok b := by
  unfold hexStr2Bytes
  rw [removeSpaces_byte2HexStr]
  have heven : (b.flatMap upperPair).length % 2 = 0 := by
    rw [length_upperPairs]
    omega
  simp only [if_pos heven]
  exact parsePairs_upperPairs b

/-- -1, 10 and 127 go out as three pairs. -/
example : byte2HexStr [0xFF, 0x0A, 0x7F] =
    [0x46, 0x46, 0x20, 0x30, 0x41, 0x20, 0x37, 0x46] := by decide

end EsbCore.HexUtil
