/-
  File:      EsbCore/Util/HexNormal.lean
  Subject:   HEXADECIMAL TEXT IN ITS CANONICAL FORM (`org.esb.util.HexUtil`).

  `hexStr2Bytes` reads digits of either case with spaces anywhere and a missing first zero;
  `byte2HexStr` writes one spelling only. Reading and writing again brings a text into that
  spelling.

  * `canonical` -- the spelling, said of the text without any bytes;
  * `byte2HexStr_eq_join` -- what is written is the pairs of the bytes with a space in between;
  * `parsePairs_of_asciiHex` -- what is read are the bytes whose pairs the digits are;
  * `normalize_canonical` -- so reading and writing gives the canonical form, and keeps it.
-/
import EsbCore.Util.HexUtil

namespace EsbCore.HexUtil

open Java

/-! ## 1. The canonical form -/

/-- Decoding and encoding again. -/
def normalize (s : JString) : Except Throwable JString := (hexStr2Bytes s).map byte2HexStr

/-- Digits of either case and spaces, anywhere. -/
def HexText (s : JString) : Prop := ∀ c ∈ s, AsciiHex c ∨ c = Ch.space

instance (s : JString) : Decidable (HexText s) :=
  List.decidableBAll (fun c => AsciiHex c ∨ c = Ch.space) s

/-- One zero in front of an odd number of digits. -/
def pad (s : JString) : JString := if s.length % 2 = 0 then s else Ch.zero :: s

/-- The groups of two of a text. -/
def pairs : JString → List JString
  | c :: d :: s => [c, d] :: pairs s
  | _ => []

/-- Groups separated by single spaces. -/
def join (gs : List JString) : JString := [Ch.space].intercalate gs

/-- The digits in upper case, in groups of two, with single spaces in between. -/
def canonical (s : JString) : JString := join (pairs (toUpperCase (pad (removeSpaces s))))

/-- A digit in its canonical spelling. -/
def UpperHex (c : JChar) : Prop := AsciiHex c ∧ upperChar c = c

instance (c : JChar) : Decidable (UpperHex c) :=
  inferInstanceAs (Decidable (AsciiHex c ∧ upperChar c = c))

/-- A text in canonical form, as its groups show it. -/
def Canonical (t : JString) : Prop :=
  ∃ gs : List (JChar × JChar), (∀ g ∈ gs, UpperHex g.1 ∧ UpperHex g.2) ∧
    t = join (gs.map fun g => [g.1, g.2])

/-! ## 2. What is written -/

theorem join_cons_cons (g h : JString) (gs : List JString) :
    join (g :: h :: gs) = g ++ Ch.space :: join (h :: gs) := by
  simp [join, List.intercalate]

@[simp] theorem join_singleton (g : JString) : join [g] = g := by
  simp [join, List.intercalate]

/-- With a space after every group there is one space too many. -/
theorem flatMap_eq_join (g : JString) (gs : List JString) :
    ((g :: gs).flatMap fun x => x ++ [Ch.space]) = join (g :: gs) ++ [Ch.space] := by
  induction gs generalizing g with
  | nil => simp
  | cons h gs ih =>
    rw [List.flatMap_cons, ih h, join_cons_cons]
    simp

/-- Trimming takes the last space off a text that neither begins nor ends with one. -/
theorem trim_concat_space {c d : JChar} {s t : JString} (hs : s = c :: t) (hc : Ch.space < c)
    (hd : s.getLast? = some d) (hd' : Ch.space < d) : trim (s ++ [Ch.space]) = s := by
  have hfirst : (s ++ [Ch.space]).dropWhile (· ≤ Ch.space) = s ++ [Ch.space] := by
    rw [hs, List.cons_append, List.dropWhile_cons_of_neg]
    simpa using hc
  obtain ⟨t', ht'⟩ := List.getLast?_eq_some_iff.mp hd
  unfold trim
  rw [hfirst, List.rdropWhile_concat_pos _ _ _ (by simp), ht', List.rdropWhile_concat_neg]
  simpa using hd'

/-- The text of the groups ends as the last group does. -/
theorem getLast?_join {P : JChar → Prop} (gs : List JString) (hne : gs ≠ [])
    (h : ∀ g ∈ gs, ∃ d, g.getLast? = some d ∧ P d) : ∃ d, (join gs).getLast? = some d ∧ P d := by
  induction gs with
  | nil => exact absurd rfl hne
  | cons g gs ih =>
    cases gs with
    | nil =>
      rw [join_singleton]
      exact h g List.mem_cons_self
    | cons g' gs =>
      obtain ⟨d, hd, hP⟩ := ih (List.cons_ne_nil _ _) fun x hx => h x (List.mem_cons_of_mem _ hx)
      refine ⟨d, ?_, hP⟩
      rw [join_cons_cons, List.getLast?_append, List.getLast?_cons, hd]
      rfl

/-- **An array is written as the pairs of its bytes with a space in between.** -/
theorem byte2HexStr_eq_join (b : List JByte) : byte2HexStr b = join (b.map upperPair) := by
  unfold byte2HexStr
  rw [toUpperCase_flatMap]
  cases b with
  | nil => rfl
  | cons x b =>
    have hmap : ((x :: b).flatMap fun y => upperPair y ++ [Ch.space]) =
        join ((x :: b).map upperPair) ++ [Ch.space] := by
      rw [List.map_cons, ← flatMap_eq_join, ← List.map_cons, List.flatMap_map]
    obtain ⟨d, hd, hlt⟩ := getLast?_join (P := (Ch.space < ·)) ((x :: b).map upperPair)
      (List.cons_ne_nil _ _) fun g hg => by
        obtain ⟨y, -, hy⟩ := List.mem_map.mp hg
        refine ⟨upperChar (hexChar (y.toNat % 16)), ?_, space_lt_of_mem_upperPair (b := y) ?_⟩
        · rw [← hy]
          rfl
        · simp [upperPair]
    have hhead : ∃ t, join ((x :: b).map upperPair) = upperChar (hexChar (x.toNat / 16)) :: t := by
      cases b with
      | nil => exact ⟨_, join_singleton _⟩
      | cons y b => exact ⟨_, join_cons_cons _ _ _⟩
    obtain ⟨t, ht⟩ := hhead
    rw [hmap]
    exact trim_concat_space ht (space_lt_of_mem_upperPair (b := x) (by simp [upperPair])) hd hlt

/-! ## 3. What is read -/

theorem upperChar_upperChar_hexChar {d : Nat} (h : d < 16) :
    upperChar (upperChar (hexChar d)) = upperChar (hexChar d) := by
  have hall : ∀ d : Fin 16,
      upperChar (upperChar (hexChar d)) = upperChar (hexChar d) := by decide
  exact hall ⟨d, h⟩

/-- A digit is worth a number below sixteen, whose upper-case digit is its own. -/
theorem digit_of_asciiHex {c : JChar} (h : AsciiHex c) :
    ∃ d < 16, digit c 16 = some d ∧ upperChar c = upperChar (hexChar d) := by
  obtain ⟨d, hd, hc⟩ := exists_of_asciiHex h
  rcases hc with rfl | rfl
  · exact ⟨d, hd, digit_hexChar hd, rfl⟩
  · exact ⟨d, hd, digit_upperChar_hexChar hd, upperChar_upperChar_hexChar hd⟩

/-- Two digits read as a byte whose pair they are. -/
theorem parseInt_pair {c d : JChar} (hc : AsciiHex c) (hd : AsciiHex d) :
    ∃ b : JByte, parseInt [c, d] 16 = .ok (b.toNat : Int) ∧
      upperPair b = [upperChar c, upperChar d] := by
  obtain ⟨m, hm, hdm, hcm⟩ := digit_of_asciiHex hc
  obtain ⟨n, hn, hdn, hcn⟩ := digit_of_asciiHex hd
  have hb : (BitVec.ofNat 8 (m * 16 + n)).toNat = m * 16 + n := by
    rw [BitVec.toNat_ofNat]
    omega
  refine ⟨BitVec.ofNat 8 (m * 16 + n), ?_, ?_⟩
  · refine parseInt_of_digits (List.cons_ne_nil _ _) ?_ (by omega)
    rw [parseDigits_cons hdm, parseDigits_cons hdn, hb]
    simp [parseDigits]
  · have hdiv : (m * 16 + n) / 16 = m := by omega
    have hmod : (m * 16 + n) % 16 = n := by omega
    unfold upperPair
    rw [hb, hdiv, hmod, hcm, hcn]

/-- **An even number of digits reads as the bytes whose pairs they are.** -/
theorem parsePairs_of_asciiHex : ∀ {s : JString}, (∀ c ∈ s, AsciiHex c) → s.length % 2 = 0 →
    ∃ b, parsePairs s = .ok b ∧ b.map upperPair = pairs (toUpperCase s)
  | [], _, _ => ⟨[], rfl, rfl⟩
  | [_], _, h => by cases h
  | c :: d :: s, hs, hlen => by
    obtain ⟨b, hb, hpair⟩ := parseInt_pair (hs c (by simp)) (hs d (by simp))
    obtain ⟨bs, hbs, hpairs⟩ := parsePairs_of_asciiHex (s := s)
      (fun x hx => hs x (by simp [hx])) (by simp only [List.length_cons] at hlen; omega)
    refine ⟨b :: bs, ?_, ?_⟩
    · rw [parsePairs_cons hb hbs, narrow_toNat]
    · rw [List.map_cons, hpair, hpairs]
      rfl

theorem asciiHex_pad {s : JString} (h : ∀ c ∈ s, AsciiHex c) : ∀ c ∈ pad s, AsciiHex c := by
  unfold pad
  split
  · exact h
  · intro c hc
    rcases List.mem_cons.mp hc with rfl | hc
    · decide
    · exact h c hc

theorem length_pad (s : JString) : (pad s).length % 2 = 0 := by
  unfold pad
  split
  · assumption
  · rw [List.length_cons]
    omega

theorem asciiHex_removeSpaces {s : JString} (h : HexText s) :
    ∀ c ∈ removeSpaces s, AsciiHex c := by
  intro c hc
  obtain ⟨hc, hne⟩ := List.mem_filter.mp hc
  exact (h c hc).resolve_right (by simpa using hne)

/-- Reading and writing gives the canonical form. -/
theorem normalize_eq_canonical {s : JString} (h : HexText s) : normalize s = .ok (canonical s) := by
  obtain ⟨b, hb, hpairs⟩ := parsePairs_of_asciiHex (asciiHex_pad (asciiHex_removeSpaces h))
    (length_pad _)
  have hdec : hexStr2Bytes s = .ok b := hb
  unfold normalize canonical
  rw [hdec, ← hpairs, ← byte2HexStr_eq_join]
  rfl

/-! ## 4. What is canonical already -/

theorem hexText_join : ∀ {gs : List JString}, (∀ g ∈ gs, HexText g) → HexText (join gs)
  | [], _ => by decide
  | [g], h => by
    rw [join_singleton]
    exact h g List.mem_cons_self
  | g :: g' :: gs, h => by
    rw [join_cons_cons]
    intro c hc
    rcases List.mem_append.mp hc with hc | hc
    · exact h g List.mem_cons_self c hc
    · rcases List.mem_cons.mp hc with hc | hc
      · exact .inr hc
      · exact hexText_join (fun x hx => h x (List.mem_cons_of_mem _ hx)) c hc

theorem removeSpaces_join : ∀ gs : List JString,
    removeSpaces (join gs) = gs.flatMap removeSpaces
  | [] => rfl
  | [g] => by simp
  | g :: g' :: gs => by
    rw [join_cons_cons, List.flatMap_cons, ← removeSpaces_join (g' :: gs)]
    simp [removeSpaces]

theorem space_ne_of_asciiHex {c : JChar} (h : AsciiHex c) : c ≠ Ch.space := by
  intro e
  subst e
  revert h
  decide

/-- The digits of canonical groups, in groups, are the groups. -/
theorem pairs_flatMap {gs : List (JChar × JChar)} (h : ∀ g ∈ gs, UpperHex g.1 ∧ UpperHex g.2) :
    pairs (toUpperCase (gs.flatMap fun g => [g.1, g.2])) = gs.map fun g => [g.1, g.2] := by
  induction gs with
  | nil => rfl
  | cons g gs ih =>
    obtain ⟨h1, h2⟩ := h g List.mem_cons_self
    have ih := ih fun x hx => h x (List.mem_cons_of_mem _ hx)
    have hcons : pairs (toUpperCase ((g :: gs).flatMap fun g => [g.1, g.2])) =
        [upperChar g.1, upperChar g.2] ::
          pairs (toUpperCase (gs.flatMap fun g => [g.1, g.2])) := rfl
    rw [hcons, ih, h1.2, h2.2]
    rfl

/-- **A canonical text is its own canonical form.** -/
theorem canonical_of_canonical {t : JString} (h : Canonical t) : HexText t ∧ canonical t = t := by
  obtain ⟨gs, hgs, rfl⟩ := h
  have hdigits : removeSpaces (join (gs.map fun g => [g.1, g.2])) =
      gs.flatMap fun g => [g.1, g.2] := by
    rw [removeSpaces_join, List.flatMap_map]
    refine List.flatMap_congr fun g hg => ?_
    have h1 := space_ne_of_asciiHex (hgs g hg).1.1
    have h2 := space_ne_of_asciiHex (hgs g hg).2.1
    simp [removeSpaces, h1, h2]
  have heven : (gs.flatMap fun g => [g.1, g.2]).length % 2 = 0 := by
    rw [List.length_flatMap]
    simp
  refine ⟨hexText_join fun g hg => ?_, ?_⟩
  · obtain ⟨p, hp, rfl⟩ := List.mem_map.mp hg
    intro c hc
    rcases List.mem_cons.mp hc with rfl | hc
    · exact .inl (hgs p hp).1.1
    · rw [List.mem_singleton.mp hc]
      exact .inl (hgs p hp).2.1
  · unfold canonical pad
    rw [hdigits, if_pos heven, pairs_flatMap hgs]

theorem upperHex_upperChar {c : JChar} (h : AsciiHex c) : UpperHex (upperChar c) := by
  obtain ⟨d, hd, -, hc⟩ := digit_of_asciiHex h
  have hall : ∀ d : Fin 16, AsciiHex (upperChar (hexChar d)) := by decide
  rw [hc]
  exact ⟨hall ⟨d, hd⟩, upperChar_upperChar_hexChar hd⟩

/-- The groups of an even number of digits in upper case. -/
theorem exists_pairs : ∀ {s : JString}, (∀ c ∈ s, AsciiHex c) → ∃ gs : List (JChar × JChar),
    (∀ g ∈ gs, UpperHex g.1 ∧ UpperHex g.2) ∧
      pairs (toUpperCase s) = gs.map fun g => [g.1, g.2]
  | [], _ => ⟨[], by simp, rfl⟩
  | [_], _ => ⟨[], by simp, rfl⟩
  | c :: d :: s, hs => by
    obtain ⟨gs, hgs, he⟩ := exists_pairs (s := s) fun x hx => hs x (by simp [hx])
    refine ⟨(upperChar c, upperChar d) :: gs, fun g hg => ?_, ?_⟩
    · rcases List.mem_cons.mp hg with rfl | hg
      · exact ⟨upperHex_upperChar (hs c (by simp)), upperHex_upperChar (hs d (by simp))⟩
      · exact hgs g hg
    · show [upperChar c, upperChar d] :: pairs (toUpperCase s) = _
      rw [he]
      rfl

/-- The canonical form is canonical. -/
theorem canonical_canonical {s : JString} (h : HexText s) : Canonical (canonical s) := by
  obtain ⟨gs, hgs, he⟩ := exists_pairs (asciiHex_pad (asciiHex_removeSpaces h))
  exact ⟨gs, hgs, congrArg join he⟩

/-- **Reading and writing brings hexadecimal text into its canonical form, once and for all**: a
    second time changes nothing, and canonical texts stay as they are. -/
theorem normalize_canonical :
    (∀ s, HexText s → normalize s = .ok (canonical s) ∧
      (normalize s).bind normalize = normalize s) ∧
    ∀ t, Canonical t → normalize t = .ok t := by
  have hid : ∀ t, Canonical t → normalize t = .ok t := by
    intro t ht
    obtain ⟨htext, he⟩ := canonical_of_canonical ht
    rw [normalize_eq_canonical htext, he]
  refine ⟨fun s hs => ⟨normalize_eq_canonical hs, ?_⟩, hid⟩
  rw [normalize_eq_canonical hs]
  exact hid _ (canonical_canonical hs)

/-- `" aB c"` is read and written as `"0A BC"`, which stays as it is. -/
theorem normalize_canonical_padded :
    normalize [0x20, 0x61, 0x42, 0x20, 0x63] = .ok [0x30, 0x41, 0x20, 0x42, 0x43] ∧
      normalize [0x30, 0x41, 0x20, 0x42, 0x43] = .ok [0x30, 0x41, 0x20, 0x42, 0x43] := by
  have hupper : ∀ g ∈ [((0x30 : JChar), (0x41 : JChar)), (0x42, 0x43)],
      UpperHex g.1 ∧ UpperHex g.2 :=
    List.forall_mem_cons.mpr ⟨by decide, List.forall_mem_singleton.mpr (by decide)⟩
  exact ⟨(normalize_canonical.1 [0x20, 0x61, 0x42, 0x20, 0x63] (by decide)).1,
    normalize_canonical.2 _ ⟨_, hupper, by decide⟩⟩

end EsbCore.HexUtil
