/-
  File:      EsbCore/Util/UnicodeEscape.lean
  Subject:   UNICODE ESCAPES (the escape half of `org.esb.util.HexUtil`).

  `strToUnicode` writes a backslash, a `u` and the numeral of each char, with two zeros in front
  of the numeral for chars up to 128 and none above. So an escape is four, five or six chars
  long. `unicodeToString` cuts windows of six.

  * `Wide` -- the chars whose escape fills a window (`length_appendChar_of_wide`);
  * `decodeWindow_digits` -- a window with four digits reads as the char of that value;
  * `length_of_decodeWindows` -- one window gives one char, whatever is in it;
  * `unicodeToString_strToUnicode_iff` -- hence the pair is a round trip exactly on the strings
    of wide chars: one shorter escape and there are fewer windows than chars.
-/
import EsbCore.Java.Text

namespace EsbCore.HexUtil

open Java

/-! ## 1. The functions -/

/-- What one round of the loop of `strToUnicode` appends. -/
def appendChar (c : JChar) : JString :=
  let strHex := toHexString c.toNat
  if 128 < c.toNat then [Ch.backslash, Ch.u] ++ strHex
  else [Ch.backslash, Ch.u, Ch.zero, Ch.zero] ++ strHex

/-- `strToUnicode(strText)`. -/
def strToUnicode (strText : JString) : JString := strText.flatMap appendChar

/-- What one round of the loop of `unicodeToString` makes of its window `s`. -/
def decodeWindow (s : JString) : Except Throwable JString := do
  let s1 := (s.drop 2).take 2 ++ [Ch.zero, Ch.zero]
  let s2 := s.drop 4
  let n1 ← parseInt s1 16
  let n2 ← parseInt s2 16
  toChars (n1 + n2)

/-- The loop of `unicodeToString`: `t` windows of six chars. -/
def decodeWindows : Nat → JString → Except Throwable JString
  | 0, _ => .ok []
  | t + 1, hex => do
    let chars ← decodeWindow (hex.take 6)
    let str ← decodeWindows t (hex.drop 6)
    return chars ++ str

/-- `unicodeToString(hex)`; what is left over after the last full window is not looked at. -/
def unicodeToString (hex : JString) : Except Throwable JString :=
  decodeWindows (hex.length / 6) hex

/-! ## 2. How long an escape is -/

/-- The chars with a two-digit numeral after the zeros, or a four-digit numeral without them. -/
def Wide (c : JChar) : Prop := 16 ≤ c.toNat ∧ c.toNat ≤ 128 ∨ 4096 ≤ c.toNat

instance (c : JChar) : Decidable (Wide c) :=
  inferInstanceAs (Decidable (16 ≤ c.toNat ∧ c.toNat ≤ 128 ∨ 4096 ≤ c.toNat))

/-- The four digits of a value below 65536. -/
def hex4 (n : Nat) : JString :=
  [hexChar (n / 4096), hexChar (n / 256 % 16), hexChar (n / 16 % 16), hexChar (n % 16)]

/-- A wide char is written with four digits. -/
theorem appendChar_of_wide {c : JChar} (h : Wide c) :
    appendChar c = [Ch.backslash, Ch.u] ++ hex4 c.toNat := by
  have hc : c.toNat < 65536 := c.toNat_lt_size
  unfold appendChar hex4
  rcases h with ⟨hlo, hhi⟩ | hlo
  · have hzero : hexChar 0 = Ch.zero := by decide
    have h3 : c.toNat / 4096 = 0 := by omega
    have h2 : c.toNat / 256 % 16 = 0 := by omega
    have h1 : c.toNat / 16 % 16 = c.toNat / 16 := by omega
    rw [if_neg (by omega), toHexString_step hlo, toHexString_digit (by omega), h3, h2, h1, hzero]
    rfl
  · rw [if_pos (by omega), toHexString_step (by omega), toHexString_step (by omega),
      toHexString_step (by omega), toHexString_digit (by omega)]
    simp only [Nat.div_div_eq_div_mul]
    rfl

/-- Every other char has an escape of four or five chars. -/
theorem length_appendChar_lt {c : JChar} (h : ¬ Wide c) : (appendChar c).length < 6 := by
  have hc : c.toNat < 65536 := c.toNat_lt_size
  unfold Wide at h
  unfold appendChar
  by_cases h128 : 128 < c.toNat
  · rw [if_pos h128, toHexString_step (by omega)]
    by_cases h256 : c.toNat < 256
    · rw [toHexString_digit (by omega)]
      simp
    · rw [toHexString_step (by omega), toHexString_digit (by omega)]
      simp
  · rw [if_neg h128, toHexString_digit (by omega)]
    simp

theorem length_appendChar_of_wide {c : JChar} (h : Wide c) : (appendChar c).length = 6 := by
  rw [appendChar_of_wide h]
  rfl

/-- No char is written with more than its window. -/
theorem length_appendChar_le (c : JChar) : (appendChar c).length ≤ 6 := by
  by_cases h : Wide c
  · exact le_of_eq (length_appendChar_of_wide h)
  · exact le_of_lt (length_appendChar_lt h)

theorem length_strToUnicode_le (s : JString) : (strToUnicode s).length ≤ 6 * s.length := by
  unfold strToUnicode
  induction s with
  | nil => simp
  | cons c s ih =>
    have hc := length_appendChar_le c
    rw [List.flatMap_cons, List.length_append, List.length_cons]
    omega

/-- **Six chars a char, or a char is missing its digits.** -/
theorem wide_of_length_strToUnicode {s : JString} (h : 6 * s.length ≤ (strToUnicode s).length) :
    ∀ c ∈ s, Wide c := by
  induction s with
  | nil => exact fun c hc => absurd hc List.not_mem_nil
  | cons c s ih =>
    have hs := length_strToUnicode_le s
    have hcons : (strToUnicode (c :: s)).length =
        (appendChar c).length + (strToUnicode s).length := by
      unfold strToUnicode
      rw [List.flatMap_cons, List.length_append]
    rw [hcons, List.length_cons] at h
    intro d hd
    rcases List.mem_cons.mp hd with rfl | hd
    · by_contra hw
      have := length_appendChar_lt hw
      omega
    · refine ih ?_ d hd
      have hc := length_appendChar_le c
      omega

/-! ## 3. What a window reads as -/

/-- **A window of the four digits of a char, however they are written, reads as the char.** -/
theorem decodeWindow_digits {c d3 d2 d1 d0 : JChar} (h3 : digit d3 16 = some (c.toNat / 4096))
    (h2 : digit d2 16 = some (c.toNat / 256 % 16)) (h1 : digit d1 16 = some (c.toNat / 16 % 16))
    (h0 : digit d0 16 = some (c.toNat % 16)) :
    decodeWindow [Ch.backslash, Ch.u, d3, d2, d1, d0] = .ok [c] := by
  have hc : c.toNat < 65536 := c.toNat_lt_size
  have hhigh : parseInt [d3, d2, Ch.zero, Ch.zero] 16 = .ok ((c.toNat / 256 * 256 : Nat) : Int) := by
    refine parseInt_of_digits (List.cons_ne_nil _ _) ?_ (by omega)
    rw [parseDigits_cons h3, parseDigits_cons h2, parseDigits_cons digit_zero,
      parseDigits_cons digit_zero]
    simp only [parseDigits, Option.some.injEq]
    omega
  have hlow : parseInt [d1, d0] 16 = .ok ((c.toNat % 256 : Nat) : Int) := by
    refine parseInt_of_digits (List.cons_ne_nil _ _) ?_ (by omega)
    rw [parseDigits_cons h1, parseDigits_cons h0]
    simp only [parseDigits, Option.some.injEq]
    omega
  have hsum : ((c.toNat / 256 * 256 : Nat) : Int) + ((c.toNat % 256 : Nat) : Int) = c.toNat := by
    omega
  calc decodeWindow [Ch.backslash, Ch.u, d3, d2, d1, d0]
      = toChars (((c.toNat / 256 * 256 : Nat) : Int) + ((c.toNat % 256 : Nat) : Int)) := by
        simp only [decodeWindow, List.cons_append, List.nil_append, List.drop_succ_cons,
          List.drop_zero, List.take_succ_cons, List.take_zero, hhigh, hlow]
        rfl
    _ = .ok [c] := by rw [hsum, toChars_toNat]

theorem decodeWindow_hex4 (c : JChar) :
    decodeWindow ([Ch.backslash, Ch.u] ++ hex4 c.toNat) = .ok [c] := by
  have hc : c.toNat < 65536 := c.toNat_lt_size
  exact decodeWindow_digits (digit_hexChar (by omega)) (digit_hexChar (by omega))
    (digit_hexChar (by omega)) (digit_hexChar (by omega))

/-- Two chars with two zeros behind them read as at most 0xFF00. -/
theorem parseInt_zeros_le {xs : JString} {z : Int} (hx : xs.length ≤ 2)
    (h : parseInt (xs ++ [Ch.zero, Ch.zero]) 16 = .ok z) : z ≤ 0xFF00 := by
  have hle : ∀ {ys : JString} {n : Nat}, ys.length ≤ 2 →
      parseDigits 16 0 (ys ++ [Ch.zero, Ch.zero]) = some n → n ≤ 0xFF00 := by
    intro ys n hy hn
    rw [parseDigits_append] at hn
    obtain ⟨v, hv, hn⟩ := Option.bind_eq_some_iff.mp hn
    rw [parseDigits_cons digit_zero, parseDigits_cons digit_zero] at hn
    simp only [parseDigits, Option.some.injEq] at hn
    have hlt := parseDigits_lt hv
    have hpow : 16 ^ ys.length ≤ 16 ^ 2 := Nat.pow_le_pow_right (by decide) hy
    omega
  obtain ⟨t, n, ht, hn, hz⟩ := parseInt_inv h
  rcases ht with rfl | rfl
  · have := hle hx hn
    omega
  · cases xs with
    | nil =>
      have : (0 : Nat) = n := by
        simpa [parseDigits] using hn
      omega
    | cons x xs =>
      have := hle (Nat.le_of_succ_le hx) hn
      omega

/-- Two chars read as at most 0xFF. -/
theorem parseInt_two_le {xs : JString} {z : Int} (hx : xs.length ≤ 2)
    (h : parseInt xs 16 = .ok z) : z ≤ 0xFF := by
  obtain ⟨t, n, ht, hn, hz⟩ := parseInt_inv h
  have hlen : t.length ≤ 2 := by
    rcases ht with rfl | rfl
    · exact hx
    · rw [List.length_tail]
      omega
  have hlt := parseDigits_lt hn
  have hpow : 16 ^ t.length ≤ 16 ^ 2 := Nat.pow_le_pow_right (by decide) hlen
  omega

/-- **A window that is read gives one char.** -/
theorem length_of_decodeWindow {s cs : JString} (hs : s.length ≤ 6)
    (h : decodeWindow s = .ok cs) : cs.length = 1 := by
  unfold decodeWindow at h
  cases h1 : parseInt ((s.drop 2).take 2 ++ [Ch.zero, Ch.zero]) 16 with
  | error e =>
    simp only [h1] at h
    cases h
  | ok n1 =>
    cases h2 : parseInt (s.drop 4) 16 with
    | error e =>
      simp only [h1, h2] at h
      cases h
    | ok n2 =>
      simp only [h1, h2] at h
      have hn1 := parseInt_zeros_le (List.length_take_le 2 _) h1
      have hn2 := parseInt_two_le (by rw [List.length_drop]; omega) h2
      exact length_of_toChars h (by omega)

theorem decodeWindows_succ {t : Nat} {hex str : JString} (h : decodeWindows (t + 1) hex = .ok str) :
    ∃ chars rest, decodeWindow (hex.take 6) = .ok chars ∧
      decodeWindows t (hex.drop 6) = .ok rest ∧ str = chars ++ rest := by
  simp only [decodeWindows] at h
  cases h1 : decodeWindow (hex.take 6) with
  | error e =>
    rw [h1] at h
    cases h
  | ok chars =>
    cases h2 : decodeWindows t (hex.drop 6) with
    | error e =>
      rw [h1, h2] at h
      cases h
    | ok rest =>
      rw [h1, h2] at h
      cases h
      exact ⟨chars, rest, rfl, rfl, rfl⟩

theorem length_of_decodeWindows {t : Nat} {hex str : JString}
    (h : decodeWindows t hex = .ok str) : str.length = t := by
  induction t generalizing hex str with
  | zero =>
    cases h
    rfl
  | succ t ih =>
    obtain ⟨chars, rest, hc, hr, rfl⟩ := decodeWindows_succ h
    rw [List.length_append, length_of_decodeWindow (List.length_take_le 6 hex) hc, ih hr]
    omega

/-! ## 4. The round trip -/

/-- Escapes that fill their windows read back char by char. -/
theorem decodeWindows_strToUnicode {s : JString} (h : ∀ c ∈ s, Wide c) :
    decodeWindows s.length (strToUnicode s) = .ok s := by
  unfold strToUnicode
  induction s with
  | nil => rfl
  | cons c s ih =>
    have hw := h c List.mem_cons_self
    have hlen := length_appendChar_of_wide hw
    have hs := ih fun d hd => h d (List.mem_cons_of_mem c hd)
    rw [List.flatMap_cons, List.length_cons]
    simp only [decodeWindows]
    rw [List.take_left' hlen, List.drop_left' hlen, appendChar_of_wide hw, decodeWindow_hex4, hs]
    rfl

theorem length_strToUnicode_of_wide {s : JString} (h : ∀ c ∈ s, Wide c) :
    (strToUnicode s).length = 6 * s.length := by
  unfold strToUnicode
  induction s with
  | nil => rfl
  | cons c s ih =>
    have hs := ih fun d hd => h d (List.mem_cons_of_mem c hd)
    have hc := length_appendChar_of_wide (h c List.mem_cons_self)
    rw [List.flatMap_cons, List.length_append, hs, hc, List.length_cons]
    omega

/-- **Escapes read back as the string they were written from exactly when every char fills its
    window.** -/
theorem unicodeToString_strToUnicode_iff (s : JString) :
    unicodeToString (strToUnicode s) = .ok s ↔ ∀ c ∈ s, Wide c := by
  unfold unicodeToString
  constructor
  · intro h
    have hlen := length_of_decodeWindows h
    exact wide_of_length_strToUnicode (by omega)
  · intro h
    rw [length_strToUnicode_of_wide h, Nat.mul_div_cancel_left _ (by decide)]
    exact decodeWindows_strToUnicode h

/-- The escape of `é` is four chars long: no window, and an empty string comes back. -/
theorem unicodeToString_strToUnicode_eacute :
    unicodeToString (strToUnicode [0x00E9]) = .ok [] ∧
      ¬ unicodeToString (strToUnicode [0x00E9]) = .ok [0x00E9] := by
  decide

end EsbCore.HexUtil
