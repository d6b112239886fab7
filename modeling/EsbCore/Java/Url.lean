/-
  File:      EsbCore/Java/Url.lean
  Subject:   PATHS IN URLS AND OF FILES: `URLDecoder.decode`, `File.getParent`.

  A text is a list of code points here. Nothing of the service bus is named.

  * `URLDecoder.decode` -- escapes in a row are the bytes of one text, a plus is a space;
  * `PathEncoding` -- how a path is written in a URL, with `%` and space escaped and `+` and `!`
    left; `decode_encode`: it is read back but for its pluses;
  * `length_decode` -- decoding makes no text longer, and one with an escape shorter;
  * `getParent` -- the parent of a path, `getParent_absPath`: that of an absolute one.
-/
import EsbCore.Java.Text
import EsbCore.Java.Utf8

namespace Java

/-! ## 1. `URLDecoder` -/

namespace URLDecoder

/-- The first of the 16-bit chars a code point is. -/
def firstChar (c : Char) : JChar :=
  if c.toNat < 0x10000 then UInt16.ofNat c.toNat
  else UInt16.ofNat (0xD800 + (c.toNat - 0x10000) / 0x400)

/-- The byte of an escape, by what follows the percent sign. -/
def escaped (a b : Char) : Except Throwable JByte :=
  match parseInt [firstChar a, firstChar b] 16 with
  | .error _ => .error .illegalArgument
  | .ok v => if v < 0 then .error .illegalArgument else .ok (narrow v)

def plusToSpace (c : Char) : Char := if c = '+' then ' ' else c

/-- The loop, with the bytes of the escapes in a row that it is in. -/
def decodeFrom : List JByte → List Char → Except Throwable (List Char)
  | bytes, [] => .ok (Utf8.decode bytes)
  | bytes, c :: rest =>
    if c = '%' then
      match rest with
      | a :: b :: rest =>
        match escaped a b with
        | .error e => .error e
        | .ok x => decodeFrom (bytes ++ [x]) rest
      | _ => .error .illegalArgument
    else (decodeFrom [] rest).map fun s => Utf8.decode bytes ++ plusToSpace c :: s

/-- `URLDecoder.decode(s, "UTF-8")`. -/
def decode (s : List Char) : Except Throwable (List Char) := decodeFrom [] s

end URLDecoder

/-! ## 2. Paths in URLs -/

/-- A hexadecimal digit, of either letter case. -/
def hexDigit (upper : Bool) (d : Nat) : Char :=
  Char.ofNat (if d < 10 then 0x30 + d else if upper then 0x37 + d else 0x57 + d)

/-- How a path is written in a URL: the code points left as they are, and the case of the digits of
    all others. -/
structure PathEncoding where
  keep : Char → Bool
  upper : Bool
  space : keep ' ' = false
  percent : keep '%' = false
  plus : keep '+' = true
  exclamation : keep '!' = true

namespace PathEncoding

def escape (E : PathEncoding) (b : JByte) : List Char :=
  ['%', hexDigit E.upper (b.toNat / 16), hexDigit E.upper (b.toNat % 16)]

def encodeChar (E : PathEncoding) (c : Char) : List Char :=
  if E.keep c = true then [c] else (Utf8.encodeChar c).flatMap E.escape

def encode (E : PathEncoding) (s : List Char) : List Char := s.flatMap E.encodeChar

end PathEncoding

/-! ## 3. What decoding reads -/

namespace URLDecoder

theorem decodeFrom_plain {c : Char} (h : c ≠ '%') (bytes : List JByte) (rest : List Char) :
    decodeFrom bytes (c :: rest) =
      (decodeFrom [] rest).map fun s => Utf8.decode bytes ++ plusToSpace c :: s := by
  rw [decodeFrom.eq_def]
  exact if_neg h

theorem decodeFrom_escaped {a b : Char} {x : JByte} (h : escaped a b = .ok x)
    (bytes : List JByte) (rest : List Char) :
    decodeFrom bytes ('%' :: a :: b :: rest) = decodeFrom (bytes ++ [x]) rest := by
  rw [decodeFrom.eq_def]
  simp only [if_pos, h]

theorem digit_hexDigit (upper : Bool) {d : Nat} (h : d < 16) :
    digit (firstChar (hexDigit upper d)) 16 = some d := by
  have hall : ∀ (upper : Bool) (d : Fin 16),
      digit (firstChar (hexDigit upper d)) 16 = some d.val := by decide
  exact hall upper ⟨d, h⟩

/-- **An escape is read as its byte.** -/
theorem escaped_hexDigit (upper : Bool) (b : JByte) :
    escaped (hexDigit upper (b.toNat / 16)) (hexDigit upper (b.toNat % 16)) = .ok b := by
  have hb : b.toNat < 256 := b.isLt
  have hhigh := digit_hexDigit upper (show b.toNat / 16 < 16 by omega)
  have hlow := digit_hexDigit upper (show b.toNat % 16 < 16 by omega)
  have hparse : parseInt [firstChar (hexDigit upper (b.toNat / 16)),
      firstChar (hexDigit upper (b.toNat % 16))] 16 = .ok (b.toNat : Int) := by
    refine parseInt_of_digits (List.cons_ne_nil _ _) ?_ (by omega)
    rw [parseDigits_cons hhigh, parseDigits_cons hlow, parseDigits]
    exact congrArg some (by omega)
  unfold escaped
  rw [hparse]
  show (if (b.toNat : Int) < 0 then _ else _) = _
  rw [if_neg (by omega), narrow_toNat]

theorem decodeFrom_escapes (E : PathEncoding) (bytes xs : List JByte) (rest : List Char) :
    decodeFrom bytes (xs.flatMap E.escape ++ rest) = decodeFrom (bytes ++ xs) rest := by
  induction xs generalizing bytes with
  | nil => rw [List.flatMap_nil, List.nil_append, List.append_nil]
  | cons x xs ih =>
    rw [List.flatMap_cons, List.append_assoc]
    show decodeFrom bytes ('%' :: _ :: _ :: (xs.flatMap E.escape ++ rest)) = _
    rw [decodeFrom_escaped (escaped_hexDigit E.upper x), ih, List.append_assoc,
      List.singleton_append]

/-- The bytes of a text are read back in front of anything that is no escape. -/
theorem decodeFrom_bytes (p : List Char) {rest : List Char} (hrest : rest.head? ≠ some '%') :
    decodeFrom (Utf8.encode p) rest = (decode rest).map fun r => p ++ r := by
  unfold decode
  cases rest with
  | nil =>
    show Except.ok (Utf8.decode (Utf8.encode p)) = Except.ok (p ++ [])
    rw [Utf8.decode_encode, List.append_nil]
  | cons c rest =>
    have hc : c ≠ '%' := fun h => hrest (congrArg some h)
    rw [decodeFrom_plain hc, decodeFrom_plain hc, Utf8.decode_encode]
    cases decodeFrom [] rest with
    | error e => rfl
    | ok r => rfl

/-- **An encoded path is read back but for its pluses**, after the bytes of a text and in front of
    anything that is no escape. -/
theorem decodeFrom_encode (E : PathEncoding) (p s : List Char) {rest : List Char}
    (hrest : rest.head? ≠ some '%') :
    decodeFrom (Utf8.encode p) (E.encode s ++ rest) =
      (decode rest).map fun r => p ++ s.map plusToSpace ++ r := by
  induction s generalizing p with
  | nil =>
    rw [List.map_nil, List.append_nil]
    exact decodeFrom_bytes p hrest
  | cons c s ih =>
    have hcons : E.encode (c :: s) ++ rest = E.encodeChar c ++ (E.encode s ++ rest) := by
      unfold PathEncoding.encode
      rw [List.flatMap_cons, List.append_assoc]
    rw [hcons]
    unfold PathEncoding.encodeChar
    by_cases hk : E.keep c = true
    · have hc : c ≠ '%' := by
        rintro rfl
        rw [E.percent] at hk
        cases hk
      have hnil := ih []
      rw [if_pos hk, List.singleton_append, decodeFrom_plain hc, Utf8.decode_encode]
      show (decodeFrom (Utf8.encode []) (E.encode s ++ rest)).map _ = _
      rw [hnil]
      cases decode rest with
      | error e => rfl
      | ok r => simp [Except.map]
    · have hc : plusToSpace c = c := by
        refine if_neg ?_
        rintro rfl
        exact hk E.plus
      have hbytes : Utf8.encode p ++ Utf8.encodeChar c = Utf8.encode (p ++ [c]) := by
        unfold Utf8.encode
        rw [List.flatMap_append, List.flatMap_singleton]
      rw [if_neg hk, decodeFrom_escapes, hbytes, ih, List.map_cons, hc]
      simp

/-- Text without escapes is read back but for its pluses, in front of anything. -/
theorem decode_append {s : List Char} (h : '%' ∉ s) (t : List Char) :
    decode (s ++ t) = (decode t).map fun r => s.map plusToSpace ++ r := by
  induction s with
  | nil =>
    rw [List.nil_append]
    cases decode t <;> rfl
  | cons c s ih =>
    have hc : c ≠ '%' := fun he => h (he ▸ List.mem_cons_self)
    have ih := ih fun hm => h (List.mem_cons_of_mem c hm)
    unfold decode at ih ⊢
    rw [List.cons_append, decodeFrom_plain hc, ih]
    cases decodeFrom [] t <;> rfl

theorem decode_of_not_mem {s : List Char} (h : '%' ∉ s) : decode s = .ok (s.map plusToSpace) := by
  have happend := decode_append h []
  rw [List.append_nil] at happend
  rw [happend]
  exact congrArg Except.ok (List.append_nil _)

/-- **Decoding makes no text longer**, and one with a percent sign in it shorter. -/
theorem length_decodeFrom {bytes : List JByte} {s r : List Char}
    (h : decodeFrom bytes s = .ok r) :
    r.length ≤ bytes.length + s.length ∧ ('%' ∈ s → r.length < bytes.length + s.length) := by
  fun_induction decodeFrom bytes s generalizing r with
  | case1 bytes =>
    cases h
    exact ⟨Utf8.length_decode bytes, nofun⟩
  | case2 bytes rest a b e he => cases h
  | case3 bytes rest a b x hx ih =>
    -- three code points are one byte
    have hle := (ih h).1
    simp only [List.length_append, List.length_cons, List.length_nil] at hle ⊢
    exact ⟨by omega, fun _ => by omega⟩
  | case4 bytes rest hrest => cases h
  | case5 bytes c rest hc ih =>
    cases hd : decodeFrom [] rest with
    | error e =>
      rw [hd] at h
      cases h
    | ok r' =>
      rw [hd] at h
      cases h
      obtain ⟨hle, hlt⟩ := ih hd
      have hbytes := Utf8.length_decode bytes
      simp only [List.length_append, List.length_cons, List.length_nil] at hle hlt ⊢
      refine ⟨by omega, fun hm => ?_⟩
      have hrest := hlt ((List.mem_cons.mp hm).resolve_left (Ne.symm hc))
      omega

theorem length_decode {s r : List Char} (h : decode s = .ok r) :
    r.length ≤ s.length ∧ ('%' ∈ s → r.length < s.length) := by
  have hlength := length_decodeFrom h
  simpa using hlength

end URLDecoder

/-! ## 4. Files -/

/-- The names in the text of a path; slashes in a row are one, and one at the end is none. -/
def pathNames (s : List Char) : List (List Char) :=
  (s.splitOnP fun c => decide (c = '/')).filter fun n => decide (n ≠ [])

/-- An absolute path with these names. -/
def absPath (names : List (List Char)) : List Char :=
  if names = [] then ['/'] else names.flatMap ('/' :: ·)

/-- `new File(path).getParent()`, on a system with `/` between names; `none` is null. -/
def getParent (path : List Char) : Option (List Char) :=
  match pathNames path with
  | [] => none
  | n :: ns =>
    if path.head? = some '/' then some (absPath (n :: ns).dropLast)
    else if ns = [] then none
    else some (absPath (n :: ns).dropLast).tail

/-- The names in a text and, behind a slash, in another. -/
theorem pathNames_append (s t : List Char) :
    pathNames (s ++ '/' :: t) = pathNames s ++ pathNames t := by
  unfold pathNames
  rw [List.splitOnP_append_cons s t (decide_eq_true rfl), List.filter_append]

theorem pathNames_of_not_mem {n : List Char} (h : '/' ∉ n) :
    pathNames n = if n = [] then [] else [n] := by
  have hslash : ∀ c ∈ n, decide (c = '/') = false := fun c hc => decide_eq_false fun he => h (he ▸ hc)
  unfold pathNames
  rw [List.splitOnP_eq_singleton hslash, List.filter_singleton]
  by_cases hn : n = [] <;> simp [hn]

/-- Names that can be read back from a path. -/
def Names (ns : List (List Char)) : Prop := ∀ n ∈ ns, n ≠ [] ∧ '/' ∉ n

theorem pathNames_flatMap {ns : List (List Char)} (h : Names ns) {w : List Char} (hw : '/' ∉ w) :
    pathNames (ns.flatMap ('/' :: ·) ++ '/' :: w) = ns ++ if w = [] then [] else [w] := by
  rw [pathNames_append, pathNames_of_not_mem hw]
  refine congrArg (· ++ _) ?_
  induction ns using List.reverseRecOn with
  | nil => rfl
  | append_singleton ns n ih =>
    obtain ⟨hns, hn⟩ := List.forall_mem_append.mp h
    obtain ⟨hne, hslash⟩ := hn n (List.mem_singleton_self n)
    rw [List.flatMap_append, List.flatMap_singleton, pathNames_append, ih hns,
      pathNames_of_not_mem hslash, if_neg hne]

/-- **The parent of an absolute path**: without its last name, which may be empty behind a
    slash. -/
theorem getParent_flatMap {ns : List (List Char)} (h : Names ns) {w : List Char} (hw : '/' ∉ w) :
    getParent (ns.flatMap ('/' :: ·) ++ '/' :: w) =
      if w ≠ [] then some (absPath ns)
      else if ns = [] then none else some (absPath ns.dropLast) := by
  have hhead : (ns.flatMap ('/' :: ·) ++ '/' :: w).head? = some '/' := by
    cases ns <;> rfl
  have hnames := pathNames_flatMap h hw
  unfold getParent
  by_cases hne : w = []
  · rw [if_pos hne, List.append_nil] at hnames
    rw [hnames, if_neg (not_not.mpr hne)]
    cases ns with
    | nil => rfl
    | cons n ns =>
      show (if _ = some '/' then some (absPath (n :: ns).dropLast) else _) = _
      rw [if_pos hhead, if_neg (List.cons_ne_nil n ns)]
  · rw [if_neg hne] at hnames
    rw [hnames, if_pos hne]
    cases ns with
    | nil => rfl
    | cons n ns =>
      show (if _ = some '/' then some (absPath (n :: (ns ++ [w])).dropLast) else _) = _
      rw [if_pos hhead, ← List.cons_append, List.dropLast_concat]

/-- A path with fewer names is shorter. -/
theorem length_absPath_lt {q ns : List (List Char)} (h : Names ns) (hq : q <+: ns) (hne : q ≠ ns) :
    (absPath q).length < (absPath ns).length := by
  obtain ⟨t, rfl⟩ := hq
  have ht : t ≠ [] := fun ht => hne (by rw [ht, List.append_nil])
  obtain ⟨n, t, rfl⟩ := List.exists_cons_of_ne_nil ht
  have hn : 0 < n.length := List.length_pos_iff.mpr (h n (by simp)).1
  have hlong : absPath (q ++ n :: t) = q.flatMap ('/' :: ·) ++ '/' :: (n ++ t.flatMap ('/' :: ·)) := by
    unfold absPath
    rw [if_neg (by simp), List.flatMap_append, List.flatMap_cons, List.cons_append]
  rw [hlong]
  unfold absPath
  split <;> simp only [List.length_append, List.length_cons, List.length_nil] <;> omega

end Java
