/-
  File:      EsbCore/Util/HexStr.lean
  Subject:   HEXADECIMAL TEXT READ BY A TABLE (`org.esb.util.HexUtil.hexStr2Str`).

  The table holds the digits in UPPER CASE. A lower-case letter is not found: it counts as `-1`,
  where the parser of `hexStr2Bytes` takes it for what it is.

  * `hexStr2Str` -- the bytes by the table, decoded in a charset;
  * `tableByte_eq_iff` -- for which two digits the table and the parser come to one byte;
  * `hexStr2Str_agrees_iff` -- the two readings of a text are equal exactly where all its pairs
    are such.
-/
import EsbCore.Util.HexNormal

namespace EsbCore.HexUtil

open Java

/-! ## 1. The function -/

/-- `"0123456789ABCDEF"`. -/
def hexTable : JString :=
  [0x30, 0x31, 0x32, 0x33, 0x34, 0x35, 0x36, 0x37, 0x38, 0x39, 0x41, 0x42, 0x43, 0x44, 0x45, 0x46]

/-- One round of the loop of `hexStr2Str`. -/
def tableByte (c d : JChar) : JByte :=
  narrow (intAnd0xFF (indexOf hexTable c * 16 + indexOf hexTable d))

/-- The loop: two chars a round, an odd one at the end left out. -/
def tableBytes : JString → List JByte
  | c :: d :: s => tableByte c d :: tableBytes s
  | _ => []

/-- `hexStr2Str(hexStr)`, in the platform's charset. -/
def hexStr2Str (charset : Charset) (hexStr : JString) : JString :=
  charset.decode (tableBytes hexStr)

/-- The array `hexStr2Bytes` reads is decoded to what `hexStr2Str` returns. -/
def Agrees (charset : Charset) (h : JString) : Prop :=
  (hexStr2Bytes h).map charset.decode = .ok (hexStr2Str charset h)

/-! ## 2. Two digits -/

/-- A lower-case letter, among the digits. -/
def Lower (c : JChar) : Prop := 0x61 ≤ c

instance (c : JChar) : Decidable (Lower c) := inferInstanceAs (Decidable (0x61 ≤ c))

/-- The pairs the table reads as the parser does: digits and upper-case letters, but also a
    lower-case `f` in front of such a one, and `ef`. -/
def SamePair (c d : JChar) : Prop :=
  if Lower d then c = 0x65 ∧ d = 0x66 else Lower c → c = 0x66

instance (c d : JChar) : Decidable (SamePair c d) :=
  inferInstanceAs (Decidable (if Lower d then c = 0x65 ∧ d = 0x66 else Lower c → c = 0x66))

/-- Every pair of the text is such. -/
def SamePairs : JString → Prop
  | c :: d :: s => SamePair c d ∧ SamePairs s
  | _ => True

/-- What a digit is worth to the parser and to the table. -/
theorem digit_cases {c : JChar} (h : AsciiHex c) : ∃ m < 16, digit c 16 = some m ∧
    (¬ Lower c ∧ indexOf hexTable c = m ∨
      Lower c ∧ indexOf hexTable c = -1 ∧ 10 ≤ m ∧ (c = 0x65 ↔ m = 14) ∧ (c = 0x66 ↔ m = 15)) := by
  have hlower : ∀ m : Fin 16, 10 ≤ m.val → Lower (hexChar m) ∧ indexOf hexTable (hexChar m) = -1 ∧
      (hexChar m = 0x65 ↔ m.val = 14) ∧ (hexChar m = 0x66 ↔ m.val = 15) := by decide
  have hupper : ∀ m : Fin 16, ¬ Lower (upperChar (hexChar m)) ∧
      indexOf hexTable (upperChar (hexChar m)) = (m.val : Int) := by decide
  have hdecimal : ∀ m : Fin 16, m.val < 10 → hexChar m = upperChar (hexChar m) := by decide
  obtain ⟨m, hm, hc⟩ := exists_of_asciiHex h
  rcases hc with rfl | rfl
  · refine ⟨m, hm, digit_hexChar hm, ?_⟩
    rcases Nat.lt_or_ge m 10 with h10 | h10
    · left
      rw [hdecimal ⟨m, hm⟩ h10]
      exact hupper ⟨m, hm⟩
    · obtain ⟨hl, hi, he, hf⟩ := hlower ⟨m, hm⟩ h10
      exact .inr ⟨hl, hi, h10, he, hf⟩
  · exact ⟨m, hm, digit_upperChar_hexChar hm, .inl (hupper ⟨m, hm⟩)⟩

/-- **The table and the parser come to one byte exactly at these pairs.** -/
theorem tableByte_eq_iff {c d : JChar} (hc : AsciiHex c) (hd : AsciiHex d) :
    ∃ b, parseInt [c, d] 16 = .ok b ∧ (tableByte c d = narrow b ↔ SamePair c d) := by
  obtain ⟨m, hm, hdm, hcm⟩ := digit_cases hc
  obtain ⟨n, hn, hdn, hcn⟩ := digit_cases hd
  have hparse : parseDigits 16 0 [c, d] = some (m * 16 + n) := by
    rw [parseDigits_cons hdm, parseDigits_cons hdn]
    simp [parseDigits]
  refine ⟨(m * 16 + n : Nat), parseInt_of_digits (List.cons_ne_nil _ _) hparse (by omega), ?_⟩
  unfold tableByte SamePair
  rw [narrow_intAnd0xFF, narrow_eq_narrow_iff]
  -- by the values of the two digits: a letter that is not found counts as -1
  rcases hcm with ⟨hlc, hic⟩ | ⟨hlc, hic, hmc, hec, hfc⟩ <;>
    rcases hcn with ⟨hld, hid⟩ | ⟨hld, hid, hnd, hed, hfd⟩
  · simp only [hlc, hld, hic, hid, if_false, false_implies, iff_true]
    omega
  · have hce : c ≠ 0x65 := fun e => hlc (by rw [e]; decide)
    simp only [hld, hce, hic, hid, if_true, false_and, iff_false]
    omega
  · simp only [hlc, hld, hic, hid, if_false, true_implies, hfc]
    omega
  · simp only [hld, hic, hid, if_true, hec, hfd]
    omega

/-! ## 3. A text -/

theorem tableBytes_eq_iff : ∀ {s : JString}, (∀ c ∈ s, AsciiHex c) → s.length % 2 = 0 →
    ∃ b, parsePairs s = .ok b ∧ (tableBytes s = b ↔ SamePairs s)
  | [], _, _ => ⟨[], rfl, by simp [tableBytes, SamePairs]⟩
  | [_], _, h => by cases h
  | c :: d :: s, hs, hlen => by
    obtain ⟨b, hb, hpair⟩ := tableByte_eq_iff (hs c (by simp)) (hs d (by simp))
    obtain ⟨bs, hbs, hpairs⟩ := tableBytes_eq_iff (s := s)
      (fun x hx => hs x (by simp [hx])) (by simp only [List.length_cons] at hlen; omega)
    refine ⟨narrow b :: bs, parsePairs_cons hb hbs, ?_⟩
    simp only [tableBytes, SamePairs, List.cons.injEq, hpair, hpairs]

/-- Without spaces, an even number of digits goes to the parser as it is. -/
theorem hexStr2Bytes_of_asciiHex {h : JString} (hd : ∀ c ∈ h, AsciiHex c)
    (he : h.length % 2 = 0) : hexStr2Bytes h = parsePairs h := by
  have hs : removeSpaces h = h :=
    List.filter_eq_self.mpr fun c hc => by simpa using space_ne_of_asciiHex (hd c hc)
  unfold hexStr2Bytes
  simp only [hs, if_pos he]

theorem agrees_iff {h : JString} (hd : ∀ c ∈ h, AsciiHex c) (he : h.length % 2 = 0) :
    ∃ b, (∀ charset, Agrees charset h ↔ charset.decode b = charset.decode (tableBytes h)) ∧
      (tableBytes h = b ↔ SamePairs h) := by
  obtain ⟨b, hb, hpairs⟩ := tableBytes_eq_iff hd he
  refine ⟨b, fun charset => ?_, hpairs⟩
  unfold Agrees hexStr2Str
  rw [hexStr2Bytes_of_asciiHex hd he, hb]
  exact ⟨Except.ok.inj, congrArg Except.ok⟩

/-- In a charset that decodes different arrays differently the two decoders agree exactly on the
    texts of such pairs. -/
theorem agrees_iff_of_injective {charset : Charset} (hinj : Function.Injective charset.decode)
    {h : JString} (hd : ∀ c ∈ h, AsciiHex c) (he : h.length % 2 = 0) :
    Agrees charset h ↔ SamePairs h := by
  obtain ⟨b, hag, hpairs⟩ := agrees_iff hd he
  rw [hag, ← hpairs, hinj.eq_iff, eq_comm]

/-- **The two decoders agree, whatever the charset, if and only if every pair of digits is free of
    lower-case letters, or is an `f` and such a digit, or is `ef`.** -/
theorem hexStr2Str_agrees_iff {h : JString} (hd : ∀ c ∈ h, AsciiHex c)
    (he : h.length % 2 = 0) : (∀ charset, Agrees charset h) ↔ SamePairs h := by
  constructor
  · intro hall
    exact (agrees_iff_of_injective Charset.decode_latin1_injective hd he).mp (hall _)
  · intro hs charset
    obtain ⟨b, hag, hpairs⟩ := agrees_iff hd he
    rw [hag, hpairs.mpr hs]

/-- `"616C6B"`. -/
theorem hexStr2Str_agrees_upper :
    Agrees Charset.latin1 [0x36, 0x31, 0x36, 0x43, 0x36, 0x42] := by
  have hs : SamePairs [0x36, 0x31, 0x36, 0x43, 0x36, 0x42] :=
    ⟨by decide, by decide, by decide, trivial⟩
  have hd : ∀ c ∈ ([0x36, 0x31, 0x36, 0x43, 0x36, 0x42] : JString), AsciiHex c := by
    simp only [List.forall_mem_cons, List.not_mem_nil, false_implies, implies_true, and_true]
    decide
  exact (hexStr2Str_agrees_iff hd (by decide)).mpr hs Charset.latin1

/-- `"6c"`: the letter l to the parser, an underscore to the table. -/
theorem not_hexStr2Str_agrees_lower :
    AsciiHex 0x36 ∧ AsciiHex 0x63 ∧ ¬ Agrees Charset.latin1 [0x36, 0x63] := by
  refine ⟨by decide, by decide, ?_⟩
  unfold Agrees
  decide

end EsbCore.HexUtil
