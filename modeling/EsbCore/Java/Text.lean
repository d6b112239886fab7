/-
  File:      EsbCore/Java/Text.lean
  Subject:   JAVA'S TEXT: strings of 16-bit chars, hexadecimal numerals, `Integer.parseInt`.

  A Java string is any sequence of 16-bit code units, surrogates included, so it is a list of
  them here. Nothing of the service bus is named.

  * `trim`, `removeSpaces`, `toUpperCase` -- the `String` methods the hexadecimal code uses;
  * `digit`, `parseInt` -- a number read with everything Java lets through: a sign in front,
    decimal digits of any script, full-width letters;
  * `toHexString` -- the numeral of a number that is not negative, and its recursion equations
    (`toHexString_digit`, `toHexString_step`);
  * `parseInt_of_digits`, `parseInt_inv` -- what a text of digits reads as, and what a text that
    reads as a number looks like;
  * `toChars` -- a code point as one or two chars;
  * `Charset` -- how strings are turned into bytes and back.
-/
import EsbCore.Java.Lang
import Mathlib.Data.List.DropRight
import Mathlib.Data.Nat.Digits.Defs

namespace Java

/-- A Java `char`: one 16-bit code unit. -/
abbrev JChar := UInt16

/-- A Java `String`. -/
abbrev JString := List JChar

namespace Ch

def space : JChar := 0x20
def plus : JChar := 0x2B
def minus : JChar := 0x2D
def zero : JChar := 0x30
def backslash : JChar := 0x5C
def u : JChar := 0x75

end Ch

/-! ## 1. Methods of `String` -/

/-- `trim()`: every char up to the space goes, at both ends. -/
def trim (s : JString) : JString := (s.dropWhile (· ≤ Ch.space)).rdropWhile (· ≤ Ch.space)

/-- `replace(" ", "")`. -/
def removeSpaces (s : JString) : JString := s.filter (· ≠ Ch.space)

/-- `toUpperCase` of one char, on ASCII text. -/
def upperChar (c : JChar) : JChar := if 0x61 ≤ c ∧ c ≤ 0x7A then c - 0x20 else c

/-- `toUpperCase()`, on ASCII text. -/
def toUpperCase (s : JString) : JString := s.map upperChar

/-- `indexOf(c)`: where the char first stands, `-1` where it does not. -/
def indexOf (s : JString) (c : JChar) : Int :=
  match s.idxOf? c with
  | some i => i
  | none => -1

theorem filter_dropWhile_of {α : Type} {p q : α → Bool} {l : List α}
    (h : ∀ a ∈ l, p a = true → q a = false) : (l.dropWhile p).filter q = l.filter q := by
  induction l with
  | nil => rfl
  | cons a l ih =>
    have ih := ih fun b hb => h b (List.mem_cons_of_mem a hb)
    by_cases hp : p a = true
    · rw [List.dropWhile_cons_of_pos hp, ih, List.filter_cons_of_neg]
      simp [h a List.mem_cons_self hp]
    · rw [List.dropWhile_cons_of_neg hp]

/-- Where the space is the only char that trimming drops, trimming is nothing to a text whose
    spaces are removed anyway. -/
theorem removeSpaces_trim {s : JString} (h : ∀ c ∈ s, c ≤ Ch.space → c = Ch.space) :
    removeSpaces (trim s) = removeSpaces s := by
  have hdrop : ∀ c ∈ s, decide (c ≤ Ch.space) = true → decide (c ≠ Ch.space) = false :=
    fun c hc hle => by simpa using h c hc (by simpa using hle)
  unfold removeSpaces trim List.rdropWhile
  rw [List.filter_reverse, filter_dropWhile_of, List.filter_reverse, List.reverse_reverse,
    filter_dropWhile_of hdrop]
  intro c hc
  exact hdrop c ((List.dropWhile_suffix _).subset (List.mem_reverse.mp hc))

/-! ## 2. Digits -/

/-- Where the blocks of ten decimal digits begin among the 16-bit chars: category `Nd` of
    Unicode 6.2, which Java 8 follows. -/
def decimalZeros : List Nat :=
  [0x0030, 0x0660, 0x06F0, 0x07C0, 0x0966, 0x09E6, 0x0A66, 0x0AE6, 0x0B66, 0x0BE6, 0x0C66, 0x0CE6,
   0x0D66, 0x0E50, 0x0ED0, 0x0F20, 0x1040, 0x1090, 0x17E0, 0x1810, 0x1946, 0x19D0, 0x1A80, 0x1A90,
   0x1B50, 0x1BB0, 0x1C40, 0x1C50, 0xA620, 0xA8D0, 0xA900, 0xA9D0, 0xAA50, 0xABF0, 0xFF10]

/-- The value a char has as a digit in a large enough radix: decimal digits of any script, Latin
    letters, full-width letters. -/
def digitValue (c : JChar) : Option Nat :=
  let n := c.toNat
  match decimalZeros.find? (fun z => z ≤ n ∧ n < z + 10) with
  | some z => some (n - z)
  | none =>
    if 0x41 ≤ n ∧ n ≤ 0x5A then some (n - 0x41 + 10)
    else if 0x61 ≤ n ∧ n ≤ 0x7A then some (n - 0x61 + 10)
    else if 0xFF21 ≤ n ∧ n ≤ 0xFF3A then some (n - 0xFF21 + 10)
    else if 0xFF41 ≤ n ∧ n ≤ 0xFF5A then some (n - 0xFF41 + 10)
    else none

/-- `Character.digit(c, radix)`; `none` is Java's `-1`. -/
def digit (c : JChar) (radix : Nat) : Option Nat := (digitValue c).filter (· < radix)

theorem digit_lt {c : JChar} {radix d : Nat} (h : digit c radix = some d) : d < radix := by
  unfold digit at h
  simpa using (Option.filter_eq_some_iff.mp h).2

/-- The digit `Integer.toHexString` writes for a value below sixteen. -/
def hexChar (d : Nat) : JChar := UInt16.ofNat (if d < 10 then 0x30 + d else 0x57 + d)

theorem digit_hexChar {d : Nat} (h : d < 16) : digit (hexChar d) 16 = some d := by
  have hall : ∀ d : Fin 16, digit (hexChar d) 16 = some d.val := by decide
  exact hall ⟨d, h⟩

theorem digit_upperChar_hexChar {d : Nat} (h : d < 16) :
    digit (upperChar (hexChar d)) 16 = some d := by
  have hall : ∀ d : Fin 16, digit (upperChar (hexChar d)) 16 = some d.val := by decide
  exact hall ⟨d, h⟩

theorem space_lt_upperChar_hexChar {d : Nat} (h : d < 16) :
    Ch.space < upperChar (hexChar d) := by
  have hall : ∀ d : Fin 16, Ch.space < upperChar (hexChar d) := by decide
  exact hall ⟨d, h⟩

/-- An ASCII hexadecimal digit, of either letter case. -/
def AsciiHex (c : JChar) : Prop :=
  0x30 ≤ c ∧ c ≤ 0x39 ∨ 0x41 ≤ c ∧ c ≤ 0x46 ∨ 0x61 ≤ c ∧ c ≤ 0x66

instance (c : JChar) : Decidable (AsciiHex c) :=
  inferInstanceAs (Decidable
    (0x30 ≤ c ∧ c ≤ 0x39 ∨ 0x41 ≤ c ∧ c ≤ 0x46 ∨ 0x61 ≤ c ∧ c ≤ 0x66))

/-- The ASCII digits are those `Integer.toHexString` writes, and their upper case. -/
theorem exists_of_asciiHex {c : JChar} (h : AsciiHex c) :
    ∃ d < 16, c = hexChar d ∨ c = upperChar (hexChar d) := by
  have hall : ∀ n : Fin 128, AsciiHex (UInt16.ofNat n) →
      ∃ d : Fin 16, UInt16.ofNat n = hexChar d ∨ UInt16.ofNat n = upperChar (hexChar d) := by
    decide
  have hlt : c.toNat < 128 := by
    rcases h with h | h | h <;> exact Nat.lt_of_le_of_lt (UInt16.le_iff_toNat_le.mp h.2) (by decide)
  obtain ⟨d, hd⟩ := hall ⟨c.toNat, hlt⟩ (by rwa [UInt16.ofNat_toNat])
  rw [UInt16.ofNat_toNat] at hd
  exact ⟨d, d.isLt, hd⟩

@[simp] theorem digit_zero : digit Ch.zero 16 = some 0 := by decide

@[simp] theorem digit_plus : digit Ch.plus 16 = none := by decide

@[simp] theorem digit_minus : digit Ch.minus 16 = none := by decide

/-! ## 3. `Integer.parseInt` -/

/-- The value of the digits read from the left, after a part worth `acc`; nothing at the first
    char that is no digit. -/
def parseDigits (radix : Nat) : Nat → JString → Option Nat
  | acc, [] => some acc
  | acc, c :: rest =>
    match digit c radix with
    | some d => parseDigits radix (acc * radix + d) rest
    | none => none

/-- The digits of a number and the largest value the sign in front of them admits. -/
def parseMagnitude (radix limit : Nat) (ds : JString) : Except Throwable Nat :=
  match ds, parseDigits radix 0 ds with
  | [], _ => .error .numberFormat
  | _ :: _, none => .error .numberFormat
  | _ :: _, some n => if n ≤ limit then .ok n else .error .numberFormat

/-- `Integer.parseInt(s, radix)`, which is `Integer.valueOf(s, radix)` too. -/
def parseInt (s : JString) (radix : Nat) : Except Throwable Int :=
  match s with
  | [] => .error .numberFormat
  | c :: rest =>
    if c = Ch.minus then (parseMagnitude radix (2 ^ 31) rest).map fun n : Nat => -(n : Int)
    else if c = Ch.plus then (parseMagnitude radix (2 ^ 31 - 1) rest).map fun n : Nat => (n : Int)
    else (parseMagnitude radix (2 ^ 31 - 1) (c :: rest)).map fun n : Nat => (n : Int)

theorem parseDigits_append (radix acc : Nat) (s t : JString) :
    parseDigits radix acc (s ++ t) = (parseDigits radix acc s).bind (parseDigits radix · t) := by
  induction s generalizing acc with
  | nil => rfl
  | cons c s ih =>
    simp only [List.cons_append, parseDigits]
    cases digit c radix with
    | none => rfl
    | some d => exact ih _

/-- Digits read one after the other. -/
theorem parseDigits_cons {radix acc d : Nat} {c : JChar} {s : JString}
    (h : digit c radix = some d) :
    parseDigits radix acc (c :: s) = parseDigits radix (acc * radix + d) s := by
  simp only [parseDigits, h]

/-- A text of `k` digits after a part worth `acc` is worth less than `(acc + 1) * radix ^ k`. -/
theorem parseDigits_lt {radix acc n : Nat} {s : JString} (h : parseDigits radix acc s = some n) :
    n < (acc + 1) * radix ^ s.length := by
  induction s generalizing acc with
  | nil =>
    simp only [parseDigits, Option.some.injEq] at h
    simp [h]
  | cons c s ih =>
    simp only [parseDigits] at h
    split at h
    · rename_i d hd
      have hlt := digit_lt hd
      calc n < (acc * radix + d + 1) * radix ^ s.length := ih h
        _ ≤ ((acc + 1) * radix) * radix ^ s.length := by
            refine Nat.mul_le_mul_right _ ?_
            rw [Nat.add_mul]
            omega
        _ = (acc + 1) * radix ^ (c :: s).length := by
            rw [List.length_cons, Nat.pow_succ, Nat.mul_assoc, Nat.mul_comm radix]
    · cases h

theorem parseMagnitude_eq_ok_iff {radix limit n : Nat} {ds : JString} :
    parseMagnitude radix limit ds = .ok n ↔
      ds ≠ [] ∧ parseDigits radix 0 ds = some n ∧ n ≤ limit := by
  unfold parseMagnitude
  cases ds with
  | nil => simp
  | cons c ds =>
    cases h : parseDigits radix 0 (c :: ds) with
    | none => simp
    | some m =>
      by_cases hm : m ≤ limit
      · simp only [if_pos hm, Except.ok.injEq, ne_eq, reduceCtorEq, not_false_eq_true,
          Option.some.injEq, true_and]
        exact ⟨fun e => ⟨e, e ▸ hm⟩, And.left⟩
      · simp only [if_neg hm, reduceCtorEq, Option.some.injEq, false_iff]
        rintro ⟨-, e, hn⟩
        exact hm (e ▸ hn)

/-- **A text of hexadecimal digits reads as its value.** -/
theorem parseInt_of_digits {s : JString} {n : Nat} (hs : s ≠ [])
    (hp : parseDigits 16 0 s = some n) (hn : n ≤ 2 ^ 31 - 1) : parseInt s 16 = .ok n := by
  cases s with
  | nil => exact absurd rfl hs
  | cons c s =>
    have hplus : c ≠ Ch.plus := by
      rintro rfl
      simp [parseDigits] at hp
    have hminus : c ≠ Ch.minus := by
      rintro rfl
      simp [parseDigits] at hp
    simp only [parseInt, if_neg hminus, if_neg hplus]
    rw [parseMagnitude_eq_ok_iff.mpr ⟨hs, hp, hn⟩]
    rfl

/-- **What reads as a number**: digits, or a sign and digits. -/
theorem parseInt_inv {s : JString} {radix : Nat} {z : Int} (h : parseInt s radix = .ok z) :
    ∃ t n, (t = s ∨ t = s.tail) ∧ parseDigits radix 0 t = some n ∧ z ≤ n := by
  cases s with
  | nil => cases h
  | cons c rest =>
    have inv : ∀ {limit : Nat} {ds : JString} {f : Nat → Int}, (∀ n, f n ≤ n) →
        (ds = c :: rest ∨ ds = rest) → (parseMagnitude radix limit ds).map f = .ok z →
        ∃ t n, (t = c :: rest ∨ t = rest) ∧ parseDigits radix 0 t = some n ∧ z ≤ n := by
      intro limit ds f hf hds hm
      cases hd : parseMagnitude radix limit ds with
      | error e => rw [hd] at hm; cases hm
      | ok n =>
        rw [hd] at hm
        cases hm
        exact ⟨ds, n, hds, (parseMagnitude_eq_ok_iff.mp hd).2.1, hf n⟩
    unfold parseInt at h
    split at h
    · cases h
    · rename_i c' rest' e
      cases e
      split at h
      · exact inv (f := fun n : Nat => -(n : Int)) (fun n => by omega) (.inr rfl) h
      · split at h
        · exact inv (fun n => le_refl _) (.inr rfl) h
        · exact inv (fun n => le_refl _) (.inl rfl) h

/-! ## 4. Hexadecimal numerals -/

/-- `Integer.toHexString(n)` for an `n` that is not negative. -/
def toHexString (n : Nat) : JString :=
  if n = 0 then [Ch.zero] else ((Nat.digits 16 n).map hexChar).reverse

/-- Below sixteen the numeral is one digit. -/
theorem toHexString_digit {n : Nat} (h : n < 16) : toHexString n = [hexChar n] := by
  unfold toHexString
  by_cases h0 : n = 0
  · subst h0
    decide
  · rw [if_neg h0, Nat.digits_of_lt 16 n h0 h]
    rfl

/-- From sixteen on it is the numeral of the sixteenth part and one more digit. -/
theorem toHexString_step {n : Nat} (h : 16 ≤ n) :
    toHexString n = toHexString (n / 16) ++ [hexChar (n % 16)] := by
  have hdiv : n / 16 ≠ 0 := by omega
  unfold toHexString
  rw [if_neg (by omega), if_neg hdiv, Nat.digits_def' (by decide) (by omega), List.map_cons,
    List.reverse_cons]

/-- A code point as chars, as `Character.toChars` cuts it. -/
def toChars (n : Int) : Except Throwable JString :=
  if n < 0 ∨ 0x10FFFF < n then .error .illegalArgument
  else if n < 0x10000 then .ok [UInt16.ofNat n.toNat]
  else
    let k := n.toNat - 0x10000
    .ok [UInt16.ofNat (0xD800 + k / 0x400), UInt16.ofNat (0xDC00 + k % 0x400)]

/-- A code point of the first plane is one char. -/
theorem length_of_toChars {n : Int} {cs : JString} (h : toChars n = .ok cs) (hn : n < 0x10000) :
    cs.length = 1 := by
  unfold toChars at h
  split at h
  · cases h
  · cases h
    rfl

theorem toChars_toNat (c : JChar) : toChars (c.toNat : Int) = .ok [c] := by
  have hc : c.toNat < 65536 := c.toNat_lt_size
  unfold toChars
  rw [if_neg (by omega), if_pos (by omega), Int.toNat_natCast, UInt16.ofNat_toNat]

/-! ## 5. Charsets -/

/-- A charset: what `getBytes` and `new String(bytes)` do under it. -/
structure Charset where
  encode : JString → List JByte
  decode : List JByte → JString

/-- ISO-8859-1: a byte for each char up to 255, a question mark for any other. -/
def Charset.latin1 : Charset where
  encode s := s.map fun c => if c.toNat < 256 then BitVec.ofNat 8 c.toNat else 0x3F#8
  decode b := b.map fun x => UInt16.ofNat x.toNat

/-- Under ISO-8859-1 different arrays are different strings. -/
theorem Charset.decode_latin1_injective : Function.Injective latin1.decode := by
  refine List.map_injective_iff.mpr fun x y h => ?_
  have hx := x.isLt
  have hy := y.isLt
  have he := congrArg UInt16.toNat h
  simp only [UInt16.toNat_ofNat'] at he
  exact BitVec.eq_of_toNat_eq (by omega)

end Java
