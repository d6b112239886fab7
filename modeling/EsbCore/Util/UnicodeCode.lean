/-
  File:      EsbCore/Util/UnicodeCode.lean
  Subject:   UNICODE ESCAPES AS A CODE (`org.esb.util.HexUtil.unicodeToString`, `strToUnicode`).

  Standard escapes have four digits each, and these are what the decoder expects. The encoder
  writes between one digit and four; nothing is lost by it all the same, since an escape ends where
  the next backslash stands and zeros in front do not change a value.

  * `Escape` -- the standard escapes of a char, every digit in either case;
  * `unicodeToString_escapes` -- whatever a string's escapes are, the decoder returns the string;
  * `parseDigits_toHexString` -- a numeral read digit by digit is its number;
  * `strToUnicode_injective` -- no two strings have one text.
-/
import EsbCore.Lib.Marked
import EsbCore.Util.HexGrammar
import EsbCore.Util.UnicodeEscape

namespace EsbCore.HexUtil

open Java Lib

/-! ## 1. Standard escapes -/

/-- The hexadecimal digits of a value below sixteen. -/
def DigitOf (d : Nat) (c : JChar) : Prop := c = hexChar d ∨ c = upperChar (hexChar d)

instance (d : Nat) (c : JChar) : Decidable (DigitOf d c) :=
  inferInstanceAs (Decidable (c = hexChar d ∨ c = upperChar (hexChar d)))

/-- A standard escape of a char: a backslash, a `u` and its four digits. -/
inductive Escape (c : JChar) : JString → Prop where
  | mk {d3 d2 d1 d0 : JChar} (h3 : DigitOf (c.toNat / 4096) d3)
      (h2 : DigitOf (c.toNat / 256 % 16) d2) (h1 : DigitOf (c.toNat / 16 % 16) d1)
      (h0 : DigitOf (c.toNat % 16) d0) : Escape c [Ch.backslash, Ch.u, d3, d2, d1, d0]

theorem digit_of_digitOf {d : Nat} {c : JChar} (h : DigitOf d c) (hd : d < 16) :
    digit c 16 = some d := by
  rcases h with rfl | rfl
  · exact digit_hexChar hd
  · exact digit_upperChar_hexChar hd

/-- **A window that is a standard escape reads as its char.** -/
theorem decodeWindow_escape {c : JChar} {w : JString} (h : Escape c w) :
    decodeWindow w = .ok [c] := by
  have hc : c.toNat < 65536 := c.toNat_lt_size
  obtain ⟨h3, h2, h1, h0⟩ := h
  exact decodeWindow_digits (digit_of_digitOf h3 (by omega)) (digit_of_digitOf h2 (by omega))
    (digit_of_digitOf h1 (by omega)) (digit_of_digitOf h0 (by omega))

theorem length_escape {c : JChar} {w : JString} (h : Escape c w) : w.length = 6 := by
  cases h
  rfl

theorem length_escapes {s : JString} {ws : List JString} (h : List.Forall₂ Escape s ws) :
    ws.flatten.length = 6 * s.length := by
  induction h with
  | nil => rfl
  | cons hw _ ih =>
    rw [List.flatten_cons, List.length_append, ih, length_escape hw, List.length_cons]
    omega

/-- Window by window, escapes read as their chars. -/
theorem decodeWindows_escapes {s : JString} {ws : List JString} (h : List.Forall₂ Escape s ws) :
    decodeWindows s.length ws.flatten = .ok s := by
  induction h with
  | nil => rfl
  | cons hw _ ih =>
    have hlen := length_escape hw
    rw [List.flatten_cons, List.length_cons]
    simp only [decodeWindows]
    rw [List.take_left' hlen, List.drop_left' hlen, decodeWindow_escape hw, ih]
    rfl

/-- **A text of standard escapes, with digits in either case, decodes to the string of their
    chars.** -/
theorem unicodeToString_escapes {s : JString} {ws : List JString}
    (h : List.Forall₂ Escape s ws) : unicodeToString ws.flatten = .ok s := by
  unfold unicodeToString
  rw [length_escapes h, Nat.mul_div_cancel_left _ (by decide)]
  exact decodeWindows_escapes h

/-- An `a` and the first half of a surrogate pair, its digits in both cases. -/
theorem unicodeToString_escapes_surrogate :
    unicodeToString [0x5C, 0x75, 0x30, 0x30, 0x36, 0x31, 0x5C, 0x75, 0x44, 0x38, 0x33, 0x64] =
      .ok [0x61, 0xD83D] :=
  unicodeToString_escapes (s := [0x61, 0xD83D])
    (.cons (.mk (by decide) (by decide) (by decide) (by decide))
      (.cons (.mk (by decide) (by decide) (by decide) (by decide)) .nil))

/-! ## 2. The encoder's words -/

/-- A numeral reads as its number. -/
theorem parseDigits_toHexString (n : Nat) : parseDigits 16 0 (toHexString n) = some n := by
  induction n using Nat.strong_induction_on with
  | _ n ih =>
    rcases Nat.lt_or_ge n 16 with h | h
    · rw [toHexString_digit h, parseDigits_cons (digit_hexChar h)]
      simp [parseDigits]
    · rw [toHexString_step h, parseDigits_append, ih _ (by omega), Option.bind_some,
        parseDigits_cons (digit_hexChar (by omega))]
      simp only [parseDigits, Option.some.injEq]
      omega

/-- What `strToUnicode` writes of a char after the backslash and the `u`. -/
def digitsOf (c : JChar) : JString :=
  if 128 < c.toNat then toHexString c.toNat else Ch.zero :: Ch.zero :: toHexString c.toNat

theorem appendChar_eq (c : JChar) : appendChar c = Ch.backslash :: Ch.u :: digitsOf c := by
  unfold appendChar digitsOf
  split <;> rfl

/-- With zeros in front or without, the digits read as the char's value. -/
theorem parseDigits_digitsOf (c : JChar) : parseDigits 16 0 (digitsOf c) = some c.toNat := by
  unfold digitsOf
  split
  · exact parseDigits_toHexString _
  · rw [parseDigits_cons digit_zero, parseDigits_cons digit_zero]
    exact parseDigits_toHexString _

/-- Hence different chars have different words. -/
theorem digitsOf_injective : Function.Injective digitsOf := by
  intro c d h
  have hvalue : some c.toNat = some d.toNat := by
    rw [← parseDigits_digitsOf c, h, parseDigits_digitsOf]
  exact UInt16.toNat_inj.mp (Option.some.inj hvalue)

/-- No backslash stands inside a word. -/
theorem backslash_notMem_word (c : JChar) : Ch.backslash ∉ Ch.u :: digitsOf c := by
  have hu : Ch.backslash ≠ Ch.u := by decide
  have hnone : digit Ch.backslash 16 = none := by decide
  have hdigits := (parseDigits_isSome_iff 0).mp (Option.isSome_of_mem (parseDigits_digitsOf c))
  intro h
  rcases List.mem_cons.mp h with h | h
  · exact hu h
  · have hsome := hdigits _ h
    rw [hnone] at hsome
    cases hsome

/-- **No two strings are written as the same text.** -/
theorem strToUnicode_injective : Function.Injective strToUnicode := by
  have hwords : strToUnicode =
      fun s => s.flatMap fun c => Ch.backslash :: Ch.u :: digitsOf c := by
    funext s
    exact List.flatMap_congr fun c _ => appendChar_eq c
  rw [hwords]
  refine flatMap_marked_injective backslash_notMem_word fun c d h => ?_
  exact digitsOf_injective (List.cons.inj h).2

end EsbCore.HexUtil
