/-
  File:      EsbCore/Java/Utf8.lean
  Subject:   UTF-8, with what decoding makes of malformed bytes.

  A text is a list of code points here. Nothing of the service bus is named.

  * `encodeChar` -- the bytes of a code point;
  * `decodeFrom`, `decode` -- the text of any bytes: a code point that breaks off, and a byte that
    begins none, each become U+FFFD;
  * `decodeFrom_encodeChar` -- a code point encoded is read back, whatever follows;
  * `length_decode` -- no text is longer than its bytes.
-/
import EsbCore.Java.Lang

namespace Java.Utf8

/-! ## 1. Encoding -/

/-- A byte by its value. -/
def byte (n : Nat) : JByte := BitVec.ofNat 8 n

/-- The bytes of a code point. -/
def encodeChar (c : Char) : List JByte :=
  let v := c.toNat
  if v < 0x80 then [byte v]
  else if v < 0x800 then [byte (0xC0 + v / 64), byte (0x80 + v % 64)]
  else if v < 0x10000 then
    [byte (0xE0 + v / 4096), byte (0x80 + v / 64 % 64), byte (0x80 + v % 64)]
  else
    [byte (0xF0 + v / 262144), byte (0x80 + v / 4096 % 64), byte (0x80 + v / 64 % 64),
      byte (0x80 + v % 64)]

def encode (s : List Char) : List JByte := s.flatMap encodeChar

/-! ## 2. Decoding -/

/-- U+FFFD, in the place of what is malformed. -/
def replacement : Char := Char.ofNat 0xFFFD

/-- A code point that has begun: how many bytes are missing after the next, what the next may be,
    and the bits read so far. -/
structure Pending where
  missing : Nat
  lo : Nat
  hi : Nat
  value : Nat
  deriving DecidableEq, Repr

/-- The code point of a value; the values of surrogates are none. -/
def ofValue (v : Nat) : Char := if v.isValidChar then Char.ofNat v else replacement

/-- A byte where none is expected: a code point of its own, the beginning of one, or malformed. -/
def lead (b : Nat) : List Char × Option Pending :=
  if b < 0x80 then ([ofValue b], none)
  else if b < 0xC2 then ([replacement], none)
  else if b < 0xE0 then ([], some ⟨0, 0x80, 0xBF, b - 0xC0⟩)
  else if b = 0xE0 then ([], some ⟨1, 0xA0, 0xBF, 0⟩)
  else if b < 0xF0 then ([], some ⟨1, 0x80, 0xBF, b - 0xE0⟩)
  else if b = 0xF0 then ([], some ⟨2, 0x90, 0xBF, 0⟩)
  else if b < 0xF4 then ([], some ⟨2, 0x80, 0xBF, b - 0xF0⟩)
  else if b = 0xF4 then ([], some ⟨2, 0x80, 0x8F, 4⟩)
  else ([replacement], none)

/-- One byte more. -/
def next (p : Option Pending) (b : Nat) : List Char × Option Pending :=
  match p with
  | none => lead b
  | some p =>
    if p.lo ≤ b ∧ b ≤ p.hi then
      match p.missing with
      | 0 => ([ofValue (p.value * 64 + (b - 0x80))], none)
      | n + 1 => ([], some ⟨n, 0x80, 0xBF, p.value * 64 + (b - 0x80)⟩)
    else (replacement :: (lead b).1, (lead b).2)

/-- The text of the bytes after a code point has begun, or not. -/
def decodeFrom : Option Pending → List JByte → List Char
  | none, [] => []
  | some _, [] => [replacement]
  | p, b :: bs => (next p b.toNat).1 ++ decodeFrom (next p b.toNat).2 bs

/-- `new String(bytes, "UTF-8")`. -/
def decode (bs : List JByte) : List Char := decodeFrom none bs

/-! ## 3. Reading back -/

theorem toNat_byte {n : Nat} (h : n < 256) : (byte n).toNat = n := by
  unfold byte
  rw [BitVec.toNat_ofNat]
  exact Nat.mod_eq_of_lt h

theorem decodeFrom_cons (p : Option Pending) (b : JByte) (bs : List JByte) :
    decodeFrom p (b :: bs) = (next p b.toNat).1 ++ decodeFrom (next p b.toNat).2 bs := by
  cases p <;> rfl

/-- A byte that is as it should be, and not the last. -/
theorem decodeFrom_more {lo hi value n b : Nat} (hb : b < 256) (hlo : lo ≤ b) (hhi : b ≤ hi)
    (bs : List JByte) :
    decodeFrom (some ⟨n + 1, lo, hi, value⟩) (byte b :: bs) =
      decodeFrom (some ⟨n, 0x80, 0xBF, value * 64 + (b - 0x80)⟩) bs := by
  rw [decodeFrom_cons, toNat_byte hb, next, if_pos ⟨hlo, hhi⟩]
  rfl

/-- The last byte of a code point. -/
theorem decodeFrom_last {lo hi value b : Nat} (hb : b < 256) (hlo : lo ≤ b) (hhi : b ≤ hi)
    (bs : List JByte) :
    decodeFrom (some ⟨0, lo, hi, value⟩) (byte b :: bs) =
      ofValue (value * 64 + (b - 0x80)) :: decodeFrom none bs := by
  rw [decodeFrom_cons, toNat_byte hb, next, if_pos ⟨hlo, hhi⟩]
  rfl

theorem ofValue_toNat (c : Char) : ofValue c.toNat = c := by
  have hvalid : c.toNat.isValidChar := c.valid
  unfold ofValue
  rw [if_pos hvalid, Char.ofNat_toNat]

/-- The first of two bytes. -/
theorem lead_two {v : Nat} (hlo : ¬ v < 0x80) (hhi : v < 0x800) :
    lead (0xC0 + v / 64) = ([], some ⟨0, 0x80, 0xBF, v / 64⟩) := by
  unfold lead
  rw [if_neg (by omega), if_neg (by omega), if_pos (by omega), Nat.add_sub_cancel_left]

/-- The first of three bytes; behind the lowest of them the second is bounded below. -/
theorem lead_three {v : Nat} (hlo : ¬ v < 0x800) (hhi : v < 0x10000) :
    ∃ lo, lead (0xE0 + v / 4096) = ([], some ⟨1, lo, 0xBF, v / 4096⟩) ∧
      lo ≤ 0x80 + v / 64 % 64 := by
  unfold lead
  by_cases h0 : v / 4096 = 0
  · exact ⟨0xA0, by simp [h0], by omega⟩
  · refine ⟨0x80, ?_, by omega⟩
    rw [if_neg (by omega), if_neg (by omega), if_neg (by omega), if_neg (by omega),
      if_pos (by omega), Nat.add_sub_cancel_left]

/-- The first of four bytes; behind the lowest and the highest the second is bounded. -/
theorem lead_four {v : Nat} (hlo : ¬ v < 0x10000) (hhi : v < 0x110000) :
    ∃ lo hi, lead (0xF0 + v / 262144) = ([], some ⟨2, lo, hi, v / 262144⟩) ∧
      lo ≤ 0x80 + v / 4096 % 64 ∧ 0x80 + v / 4096 % 64 ≤ hi := by
  unfold lead
  by_cases h0 : v / 262144 = 0
  · exact ⟨0x90, 0xBF, by simp [h0], by omega, by omega⟩
  · by_cases h4 : v / 262144 = 4
    · exact ⟨0x80, 0x8F, by simp [h4], by omega, by omega⟩
    · refine ⟨0x80, 0xBF, ?_, by omega, by omega⟩
      rw [if_neg (by omega), if_neg (by omega), if_neg (by omega), if_neg (by omega),
        if_neg (by omega), if_neg (by omega), if_pos (by omega), Nat.add_sub_cancel_left]

/-- **A code point encoded is read back**, whatever follows. -/
theorem decodeFrom_encodeChar (c : Char) (bs : List JByte) :
    decodeFrom none (encodeChar c ++ bs) = c :: decodeFrom none bs := by
  have hvalid : c.toNat < 0xD800 ∨ 0xDFFF < c.toNat ∧ c.toNat < 0x110000 := c.valid
  have hvalue := ofValue_toNat c
  unfold encodeChar
  generalize hv : c.toNat = v at hvalid hvalue
  by_cases h1 : v < 0x80
  · rw [if_pos h1, List.singleton_append, decodeFrom_cons, toNat_byte (by omega), next, lead,
      if_pos h1, hvalue]
    rfl
  by_cases h2 : v < 0x800
  · rw [if_neg h1, if_pos h2, List.cons_append, List.singleton_append, decodeFrom_cons,
      toNat_byte (by omega), next, lead_two h1 h2]
    show decodeFrom _ _ = _
    rw [decodeFrom_last (by omega) (by omega) (by omega),
      show v / 64 * 64 + (0x80 + v % 64 - 0x80) = v by omega, hvalue]
  by_cases h3 : v < 0x10000
  · obtain ⟨lo, hlead, hlo⟩ := lead_three h2 h3
    rw [if_neg h1, if_neg h2, if_pos h3, List.cons_append, List.cons_append, List.singleton_append,
      decodeFrom_cons, toNat_byte (by omega), next, hlead]
    show decodeFrom _ _ = _
    rw [decodeFrom_more (by omega) hlo (by omega),
      decodeFrom_last (by omega) (by omega) (by omega),
      show (v / 4096 * 64 + (0x80 + v / 64 % 64 - 0x80)) * 64 + (0x80 + v % 64 - 0x80) = v by omega,
      hvalue]
  · obtain ⟨lo, hi, hlead, hlo, hhi⟩ := lead_four h3 (by omega)
    rw [if_neg h1, if_neg h2, if_neg h3, List.cons_append, List.cons_append, List.cons_append,
      List.singleton_append, decodeFrom_cons, toNat_byte (by omega), next, hlead]
    show decodeFrom _ _ = _
    rw [decodeFrom_more (by omega) hlo hhi, decodeFrom_more (by omega) (by omega) (by omega),
      decodeFrom_last (by omega) (by omega) (by omega),
      show ((v / 262144 * 64 + (0x80 + v / 4096 % 64 - 0x80)) * 64 +
        (0x80 + v / 64 % 64 - 0x80)) * 64 + (0x80 + v % 64 - 0x80) = v by omega, hvalue]

/-- **A text encoded is read back.** -/
theorem decode_encode (s : List Char) : decode (encode s) = s := by
  unfold decode encode
  induction s with
  | nil => rfl
  | cons c s ih => rw [List.flatMap_cons, decodeFrom_encodeChar, ih]

/-! ## 4. Lengths -/

/-- A code point that has begun counts for one. -/
def started (p : Option Pending) : Nat := if p.isSome then 1 else 0

theorem length_lead (b : Nat) : (lead b).1.length + started (lead b).2 ≤ 1 := by
  unfold lead started
  repeat' split
  all_goals simp_all

theorem length_next (p : Option Pending) (b : Nat) :
    (next p b).1.length + started (next p b).2 ≤ 1 + started p := by
  have hlead := length_lead b
  cases p with
  | none => exact hlead
  | some p =>
    by_cases hb : p.lo ≤ b ∧ b ≤ p.hi
    · rw [next, if_pos hb]
      cases p.missing <;> exact Nat.le_add_right 1 _
    · rw [next, if_neg hb]
      show (lead b).1.length + 1 + started (lead b).2 ≤ 1 + 1
      omega

/-- **No text is longer than its bytes.** -/
theorem length_decodeFrom (p : Option Pending) (bs : List JByte) :
    (decodeFrom p bs).length ≤ bs.length + started p := by
  induction bs generalizing p with
  | nil => cases p <;> exact Nat.le_refl _
  | cons b bs ih =>
    have hnext := length_next p b.toNat
    have hrest := ih (next p b.toNat).2
    rw [decodeFrom_cons, List.length_append, List.length_cons]
    omega

theorem length_decode (bs : List JByte) : (decode bs).length ≤ bs.length := by
  have h := length_decodeFrom none bs
  exact h

end Java.Utf8
