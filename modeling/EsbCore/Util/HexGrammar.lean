/-
  File:      EsbCore/Util/HexGrammar.lean
  Subject:   WHAT `hexStr2Bytes` ACCEPTS (`org.esb.util.HexUtil`).

  The text is checked by nobody but `Integer.parseInt`, two chars at a time, and that reads more
  than two hexadecimal digits: a sign and a digit, decimal digits of other scripts, full-width
  letters.

  * `Numeral`, `Numerals` -- a pair that is read as a number, and a text of such pairs;
  * `parseInt_pair_iff` -- exactly these pairs are read, and no others are but refused;
  * `hexStr2Bytes_cases` -- so exactly the texts of such pairs are accepted;
  * `acceptsExactly_iff` -- acceptance is that of hexadecimal text wherever a text with a foreign
    char has a pair that is no numeral.
-/
import EsbCore.Util.HexNormal

namespace EsbCore.HexUtil

open Java

/-! ## 1. Pairs that are read -/

/-- Two chars the parser takes for a number: two digits, or a sign and a digit. -/
def Numeral (c d : JChar) : Prop :=
  ((digit c 16).isSome ∨ c = Ch.plus ∨ c = Ch.minus) ∧ (digit d 16).isSome

instance (c d : JChar) : Decidable (Numeral c d) :=
  inferInstanceAs (Decidable (((digit c 16).isSome ∨ c = Ch.plus ∨ c = Ch.minus) ∧
    (digit d 16).isSome))

/-- Every pair of the text is such. -/
def Numerals : JString → Prop
  | c :: d :: s => Numeral c d ∧ Numerals s
  | _ => True

instance decidableNumerals : (s : JString) → Decidable (Numerals s)
  | [] => isTrue trivial
  | [_] => isTrue trivial
  | c :: d :: s =>
    have := decidableNumerals s
    inferInstanceAs (Decidable (Numeral c d ∧ Numerals s))

/-- What a reader of hexadecimal text should do with `s`: hexadecimal text is read, all other text
    is refused as a number's format. -/
def AcceptsExactly (s : JString) : Prop :=
  if HexText s then ∃ b, hexStr2Bytes s = .ok b else hexStr2Bytes s = .error .numberFormat

/-- Hidden foreign chars: every pair is read although not every char is a hexadecimal digit. -/
def Misread (s : JString) : Prop := ¬ HexText s ∧ Numerals (pad (removeSpaces s))

instance (s : JString) : Decidable (Misread s) :=
  inferInstanceAs (Decidable (¬ HexText s ∧ Numerals (pad (removeSpaces s))))

/-! ## 2. The parser -/

/-- The parser refuses a text in one way only. -/
theorem parseInt_error {s : JString} {radix : Nat} {e : Throwable}
    (h : parseInt s radix = .error e) : e = .numberFormat := by
  have hmag : ∀ {limit : Nat} {ds : JString} {f : Nat → Int},
      (parseMagnitude radix limit ds).map f = .error e → e = .numberFormat := by
    intro limit ds f hm
    unfold parseMagnitude at hm
    split at hm
    · cases hm
      rfl
    · cases hm
      rfl
    · split at hm
      · cases hm
      · cases hm
        rfl
  unfold parseInt at h
  split at h
  · cases h
    rfl
  · split at h
    · exact hmag h
    · split at h
      · exact hmag h
      · exact hmag h

/-- Digits have a value exactly if each is one. -/
theorem parseDigits_isSome_iff {radix : Nat} (acc : Nat) {s : JString} :
    (parseDigits radix acc s).isSome ↔ ∀ c ∈ s, (digit c radix).isSome := by
  induction s generalizing acc with
  | nil => simp [parseDigits]
  | cons c s ih =>
    cases h : digit c radix with
    | none => simp [parseDigits, h]
    | some d =>
      rw [parseDigits_cons h, ih, List.forall_mem_cons, h]
      simp

/-- A text short enough for its limit is a magnitude exactly if all of it is digits. -/
theorem exists_parseMagnitude_iff {limit : Nat} {ds : JString} (hne : ds ≠ [])
    (hlimit : 16 ^ ds.length ≤ limit) :
    (∃ n, parseMagnitude 16 limit ds = .ok n) ↔ ∀ c ∈ ds, (digit c 16).isSome := by
  rw [← parseDigits_isSome_iff 0, Option.isSome_iff_exists]
  constructor
  · rintro ⟨n, hn⟩
    exact ⟨n, (parseMagnitude_eq_ok_iff.mp hn).2.1⟩
  · rintro ⟨n, hn⟩
    have hlt := parseDigits_lt hn
    exact ⟨n, parseMagnitude_eq_ok_iff.mpr ⟨hne, hn, by omega⟩⟩

/-- A sign put in front of a value does not decide whether there is one. -/
theorem exists_map_iff {ε α β : Type} {x : Except ε α} {f : α → β} :
    (∃ z, x.map f = .ok z) ↔ ∃ n, x = .ok n := by
  cases x with
  | error e => simp [Except.map]
  | ok n => simp [Except.map]

/-- **Two chars read as a number exactly if they are a numeral.** -/
theorem parseInt_pair_iff {c d : JChar} : (∃ z, parseInt [c, d] 16 = .ok z) ↔ Numeral c d := by
  have hplus : Ch.plus ≠ Ch.minus := by decide
  unfold Numeral
  by_cases hminus : c = Ch.minus
  · subst hminus
    simp only [parseInt, if_true]
    rw [exists_map_iff, exists_parseMagnitude_iff (List.cons_ne_nil _ _) (by simp)]
    simp
  · by_cases hp : c = Ch.plus
    · subst hp
      simp only [parseInt, if_neg hplus, if_true]
      rw [exists_map_iff, exists_parseMagnitude_iff (List.cons_ne_nil _ _) (by simp)]
      simp
    · simp only [parseInt, if_neg hminus, if_neg hp]
      rw [exists_map_iff, exists_parseMagnitude_iff (List.cons_ne_nil _ _) (by simp)]
      simp [hminus, hp]

/-! ## 3. The text -/

/-- **An even number of chars is read exactly if all its pairs are numerals, and refused as a
    number's format if one is not.** -/
theorem parsePairs_cases : ∀ {s : JString}, s.length % 2 = 0 →
    Numerals s ∧ (∃ b, parsePairs s = .ok b) ∨
      ¬ Numerals s ∧ parsePairs s = .error .numberFormat
  | [], _ => .inl ⟨trivial, [], rfl⟩
  | [_], h => by cases h
  | c :: d :: s, hlen => by
    cases hp : parseInt [c, d] 16 with
    | error e =>
      have hnot : ¬ Numeral c d := fun hn => by
        obtain ⟨z, hz⟩ := parseInt_pair_iff.mpr hn
        rw [hp] at hz
        cases hz
      have he := parseInt_error hp
      subst he
      refine .inr ⟨fun hn => hnot hn.1, ?_⟩
      simp only [parsePairs, hp]
      rfl
    | ok z =>
      have hn : Numeral c d := parseInt_pair_iff.mp ⟨z, hp⟩
      rcases parsePairs_cases (s := s) (by simp only [List.length_cons] at hlen; omega) with
        ⟨hs, b, hb⟩ | ⟨hs, he⟩
      · exact .inl ⟨⟨hn, hs⟩, narrow z :: b, parsePairs_cons hp hb⟩
      · refine .inr ⟨fun h => hs h.2, ?_⟩
        simp only [parsePairs, hp, he]
        rfl

theorem hexStr2Bytes_cases (s : JString) :
    Numerals (pad (removeSpaces s)) ∧ (∃ b, hexStr2Bytes s = .ok b) ∨
      ¬ Numerals (pad (removeSpaces s)) ∧ hexStr2Bytes s = .error .numberFormat :=
  parsePairs_cases (length_pad _)

/-- Hexadecimal text is always read. -/
theorem exists_of_hexText {s : JString} (h : HexText s) : ∃ b, hexStr2Bytes s = .ok b := by
  obtain ⟨b, hb, -⟩ := parsePairs_of_asciiHex (asciiHex_pad (asciiHex_removeSpaces h))
    (length_pad _)
  exact ⟨b, hb⟩

/-- **Exactly hexadecimal text is accepted, unless every pair reads as a number although a char is
    no hexadecimal digit.** -/
theorem acceptsExactly_iff (s : JString) : AcceptsExactly s ↔ ¬ Misread s := by
  unfold AcceptsExactly Misread
  by_cases ht : HexText s
  · rw [if_pos ht]
    exact iff_of_true (exists_of_hexText ht) fun h => h.1 ht
  · rw [if_neg ht]
    rcases hexStr2Bytes_cases s with ⟨hn, b, hb⟩ | ⟨hn, he⟩
    · rw [hb]
      simp [ht, hn]
    · rw [he]
      simp [hn]

/-- `"+5"` is read as the byte 5. -/
theorem not_acceptsExactly_sign :
    hexStr2Bytes [0x2B, 0x35] = .ok [5#8] ∧ ¬ AcceptsExactly [0x2B, 0x35] := by
  have hread : hexStr2Bytes [0x2B, 0x35] = .ok [5#8] := by decide
  have hnot : ¬ HexText [0x2B, 0x35] := by decide
  refine ⟨hread, ?_⟩
  unfold AcceptsExactly
  rw [if_neg hnot, hread]
  exact fun h => by cases h

end EsbCore.HexUtil
