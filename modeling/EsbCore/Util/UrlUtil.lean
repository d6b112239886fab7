/-
  File:      EsbCore/Util/UrlUtil.lean
  Subject:   THE INSTALL DIRECTORY (`org.esb.util.UrlUtil`).

  The launcher asks for the directory of the jar file its class is loaded from, and DECODES the
  answer, which was decoded before. On the way the text is cut at the first exclamation mark, and
  any exception is null.

  * `getDirFromClassLoader`, `url2Utf8` -- the two calls, exceptions included;
  * `LoadedFromJar` -- a class loaded from a jar file of a directory, as its resource's URL tells;
  * `parent_cut` -- what the cut leaves: the directory, or one above it;
  * `findsDir_iff` -- so the directory is found exactly if no name on its path has a plus, a percent
    sign or an exclamation mark in it, and the jar file's does not begin with one.
-/
import EsbCore.Java.Url

namespace EsbCore.UrlUtil

open Java

/-! ## 1. The calls -/

/-- The URL of a resource: its path, and all of it as text. -/
structure ResourceUrl where
  path : List Char
  text : List Char
  deriving DecidableEq, Repr

/-- A class: its name, and `getResource`, `none` where it finds nothing. -/
structure ResourceClass where
  name : List Char
  getResource : List Char → Option ResourceUrl

/-- `cls.getName().replace(".", "/") + ".class"`. -/
def classFile (name : List Char) : List Char :=
  (name.map fun c => if c = '.' then '/' else c) ++ ".class".toList

/-- A text up to the first exclamation mark. -/
def cut (s : List Char) : List Char := s.takeWhile fun c => decide (c ≠ '!')

/-- `s.split("!")[0]`; the array of a text of nothing but exclamation marks is empty. -/
def splitFirst (s : List Char) : Except Throwable (List Char) :=
  if s ≠ [] ∧ s.all (· = '!') = true then .error .arrayIndexOutOfBounds else .ok (cut s)

/-- The body of the `try`. -/
def findDir (cls : ResourceClass) : Except Throwable (Option (List Char)) :=
  match cls.getResource ('/' :: classFile cls.name) with
  | none => .error .nullPointer
  | some url =>
    match URLDecoder.decode url.path with
    | .error e => .error e
    | .ok jarUrl =>
      if "file:".toList <+: jarUrl then
        match splitFirst (if 5 < jarUrl.length then jarUrl.drop 5 else jarUrl) with
        | .error e => .error e
        | .ok jarUrl => .ok (getParent jarUrl)
      else
        match cls.getResource ['/'] with
        | none => .error .nullPointer
        | some root =>
          if root.text.length < 5 then .error .stringIndexOutOfBounds
          else .ok (getParent (root.text.drop 5))

/-- `getDirFromClassLoader(cls)`; any exception is null. -/
def getDirFromClassLoader (cls : ResourceClass) : Option (List Char) :=
  match findDir cls with
  | .ok dir => dir
  | .error _ => none

/-- `url2Utf8(url)`. -/
def url2Utf8 (url : Option (List Char)) : Except Throwable (List Char) :=
  match url with
  | none => .error .nullPointer
  | some url => URLDecoder.decode url

/-! ## 2. Directories -/

/-- A name of a directory or file. -/
structure PathName where
  text : List Char
  nonempty : text ≠ []
  no_slash : '/' ∉ text

/-- The path of a directory, or of the file behind it. -/
def path (names : List PathName) : List Char := absPath (names.map PathName.text)

/-- A class is loaded from a jar file of the directory: where its resource is. -/
structure LoadedFromJar (E : PathEncoding) (cls : ResourceClass) (d : List PathName)
    (jar : PathName) : Prop where
  located : ∃ url, cls.getResource ('/' :: classFile cls.name) = some url ∧
    url.path = "file:".toList ++ (E.encode (path (d ++ [jar])) ++ ('!' :: '/' :: classFile cls.name))
  no_percent : '%' ∉ cls.name

/-! ## 3. The cut -/

theorem cut_cons_of_ne {c : Char} (h : c ≠ '!') (s : List Char) : cut (c :: s) = c :: cut s :=
  List.takeWhile_cons_of_pos (decide_eq_true h)

theorem cut_excl (s : List Char) : cut ('!' :: s) = [] :=
  List.takeWhile_cons_of_neg (by simp)

theorem cut_append_of_not_mem {s : List Char} (h : '!' ∉ s) (t : List Char) :
    cut (s ++ t) = s ++ cut t :=
  List.takeWhile_append_of_pos fun _ hc => decide_eq_true fun he => h (he ▸ hc)

theorem cut_append_of_mem {s : List Char} (h : '!' ∈ s) (t : List Char) : cut (s ++ t) = cut s := by
  induction s with
  | nil => cases h
  | cons c s ih =>
    by_cases hc : c = '!'
    · rw [hc, List.cons_append, cut_excl, cut_excl]
    · rw [List.cons_append, cut_cons_of_ne hc, cut_cons_of_ne hc,
        ih ((List.mem_cons.mp h).resolve_left (Ne.symm hc))]

/-- An exclamation mark behind a text does not matter. -/
theorem cut_append_excl (s t : List Char) : cut (s ++ '!' :: t) = cut s := by
  by_cases h : '!' ∈ s
  · exact cut_append_of_mem h _
  · have hself := cut_append_of_not_mem h []
    rw [List.append_nil] at hself
    rw [cut_append_of_not_mem h, cut_excl, hself]
    rfl

theorem cut_ne_nil_iff {s : List Char} (h : s ≠ []) : cut s ≠ [] ↔ s.head? ≠ some '!' := by
  cases s with
  | nil => exact absurd rfl h
  | cons c s =>
    by_cases hc : c = '!'
    · subst hc
      simp [cut_excl]
    · simp [cut_cons_of_ne hc, hc]

/-- **Where a path is cut**: behind some names of the directory, within the next name. It is the
    jar file's name, and not cut at its first letter, exactly if no exclamation mark comes
    before. -/
theorem cut_path (ns : List (List Char)) {jar : List Char} (hne : jar ≠ []) (hjar : '/' ∉ jar)
    (hns : Names ns) (rest : List Char) :
    ∃ q w, cut (ns.flatMap ('/' :: ·) ++ '/' :: (jar ++ '!' :: rest)) =
          q.flatMap ('/' :: ·) ++ '/' :: w ∧
        '/' ∉ w ∧ q <+: ns ∧
        ((q = ns ∧ w ≠ []) ↔ (∀ n ∈ ns, '!' ∉ n) ∧ jar.head? ≠ some '!') := by
  have hsub : ∀ s : List Char, '/' ∉ s → '/' ∉ cut s :=
    fun s hs h => hs ((List.takeWhile_prefix _).subset h)
  induction ns with
  | nil =>
    refine ⟨[], cut jar, ?_, hsub jar hjar, List.prefix_rfl, ?_⟩
    · rw [List.flatMap_nil, List.nil_append, cut_cons_of_ne (by decide), cut_append_excl]
      rfl
    · simp [cut_ne_nil_iff hne]
  | cons n ns ih =>
    obtain ⟨⟨hn, hslash⟩, hrest⟩ := List.forall_mem_cons.mp hns
    rw [List.flatMap_cons, List.cons_append, List.cons_append, List.append_assoc,
      cut_cons_of_ne (by decide)]
    by_cases hexcl : '!' ∈ n
    · refine ⟨[], cut n, ?_, hsub n hslash, List.nil_prefix, ?_⟩
      · rw [cut_append_of_mem hexcl]
        rfl
      · simp [hexcl]
    · obtain ⟨q, w, hcut, hw, hq, hiff⟩ := ih hrest
      refine ⟨n :: q, w, ?_, hw, List.cons_prefix_cons.mpr ⟨rfl, hq⟩, ?_⟩
      · rw [cut_append_of_not_mem hexcl, hcut]
        simp
      · simpa [hexcl] using hiff

/-- **What the cut leaves of a path has the directory for its parent**, or one above it, or none;
    the directory exactly if there is no exclamation mark on the way. -/
theorem parent_cut (ns : List (List Char)) {jar : List Char} (hne : jar ≠ []) (hjar : '/' ∉ jar)
    (hns : Names ns) (rest : List Char) :
    (getParent (cut (ns.flatMap ('/' :: ·) ++ '/' :: (jar ++ '!' :: rest))) = none ∧
        ¬ ((∀ n ∈ ns, '!' ∉ n) ∧ jar.head? ≠ some '!')) ∨
      ∃ q, getParent (cut (ns.flatMap ('/' :: ·) ++ '/' :: (jar ++ '!' :: rest))) =
          some (absPath q) ∧ q <+: ns ∧
        (q = ns ↔ (∀ n ∈ ns, '!' ∉ n) ∧ jar.head? ≠ some '!') := by
  obtain ⟨q, w, hcut, hw, hq, hiff⟩ := cut_path ns hne hjar hns rest
  have hnames : Names q := fun n hn => hns n (hq.subset hn)
  rw [hcut, getParent_flatMap hnames hw]
  by_cases hempty : w = []
  · have hnot : ¬ ((∀ n ∈ ns, '!' ∉ n) ∧ jar.head? ≠ some '!') :=
      fun h => (hiff.mpr h).2 hempty
    rw [if_neg (not_not.mpr hempty)]
    by_cases hnil : q = []
    · rw [if_pos hnil]
      exact .inl ⟨rfl, hnot⟩
    · rw [if_neg hnil]
      refine .inr ⟨q.dropLast, rfl, (List.dropLast_prefix q).trans hq, iff_of_false ?_ hnot⟩
      intro he
      have hl := hq.length_le
      have hpos := List.length_pos_iff.mpr hnil
      rw [← he, List.length_dropLast] at hl
      omega
  · rw [if_pos hempty]
    exact .inr ⟨q, rfl, hq, by rw [← hiff]; simp [hempty]⟩

/-! ## 4. The directory -/

/-- A name after the first decoding. -/
def decoded (n : List Char) : List Char := n.map URLDecoder.plusToSpace

theorem mem_decoded_iff {c : Char} (hp : c ≠ '+') (hs : c ≠ ' ') (n : List Char) :
    c ∈ decoded n ↔ c ∈ n := by
  have hback : ∀ x, URLDecoder.plusToSpace x = c → x = c := by
    intro x hx
    unfold URLDecoder.plusToSpace at hx
    split at hx
    · exact absurd hx.symm hs
    · exact hx
  have hself : URLDecoder.plusToSpace c = c := if_neg hp
  unfold decoded
  rw [List.mem_map]
  exact ⟨fun ⟨x, hx, he⟩ => hback x he ▸ hx, fun h => ⟨c, h, hself⟩⟩

/-- Decoding pluses is nothing to a text exactly if it has none. -/
theorem decoded_eq_self_iff (s : List Char) : decoded s = s ↔ '+' ∉ s := by
  unfold decoded
  constructor
  · intro h hplus
    have hfix : ∀ c ∈ s, URLDecoder.plusToSpace c = c := List.map_inj_left.mp (by rwa [List.map_id'])
    exact absurd (hfix '+' hplus) (by decide)
  · intro h
    have hfix : ∀ c ∈ s, URLDecoder.plusToSpace c = c :=
      fun c hc => if_neg fun (he : c = '+') => h (he ▸ hc)
    rw [List.map_congr_left hfix, List.map_id']

theorem decoded_decoded (s : List Char) : decoded (decoded s) = decoded s := by
  refine (decoded_eq_self_iff _).mpr fun h => ?_
  obtain ⟨c, -, hc⟩ := List.mem_map.mp h
  unfold URLDecoder.plusToSpace at hc
  split at hc
  · exact absurd hc (by decide)
  · rename_i hne
    exact hne hc

theorem decoded_absPath (ns : List (List Char)) :
    decoded (absPath ns) = absPath (ns.map decoded) := by
  have hslash : ∀ n, decoded ('/' :: n) = '/' :: decoded n := fun _ => rfl
  unfold absPath
  by_cases h : ns = []
  · rw [h]
    rfl
  · rw [if_neg h, if_neg (mt List.map_eq_nil_iff.mp h), List.flatMap_map]
    unfold decoded at hslash ⊢
    rw [List.map_flatMap]
    rfl

theorem names_text (d : List PathName) : Names (d.map PathName.text) := by
  intro n hn
  obtain ⟨m, -, rfl⟩ := List.mem_map.mp hn
  exact ⟨m.nonempty, m.no_slash⟩

theorem names_decoded {ns : List (List Char)} (h : Names ns) : Names (ns.map decoded) := by
  intro n hn
  obtain ⟨m, hm, rfl⟩ := List.mem_map.mp hn
  exact ⟨by simpa [decoded] using (h m hm).1,
    (mem_decoded_iff (by decide) (by decide) m).not.mpr (h m hm).2⟩

theorem mem_absPath_iff {c : Char} (hc : c ≠ '/') (ns : List (List Char)) :
    c ∈ absPath ns ↔ ∃ n ∈ ns, c ∈ n := by
  unfold absPath
  cases ns with
  | nil => simp [hc]
  | cons n ns => simp [hc]

theorem length_decoded_absPath (ns : List (List Char)) :
    (absPath (ns.map decoded)).length = (absPath ns).length := by
  rw [← decoded_absPath]
  exact List.length_map _

/-- The path of the jar file, by its directory's names. -/
theorem decoded_path (d : List PathName) (jar : PathName) :
    decoded (path (d ++ [jar])) =
      ((d.map PathName.text).map decoded).flatMap ('/' :: ·) ++ '/' :: decoded jar.text := by
  unfold path
  rw [decoded_absPath, List.map_append, List.map_append]
  show absPath (_ ++ [decoded jar.text]) = _
  unfold absPath
  rw [if_neg (List.concat_ne_nil _ _), List.flatMap_append, List.flatMap_singleton]

/-- The pluses do not matter to where a text is cut. -/
theorem cut_decoded (s : List Char) : cut (decoded s) = decoded (cut s) := by
  induction s with
  | nil => rfl
  | cons c s ih =>
    by_cases hc : c = '!'
    · subst hc
      rw [cut_excl]
      exact cut_excl _
    · have hplus : URLDecoder.plusToSpace c ≠ '!' := by
        unfold URLDecoder.plusToSpace
        split
        · decide
        · exact hc
      rw [cut_cons_of_ne hc]
      show cut (URLDecoder.plusToSpace c :: decoded s) = _
      rw [cut_cons_of_ne hplus, ih]
      rfl

theorem percent_not_mem_classFile {name : List Char} (h : '%' ∉ name) :
    '%' ∉ '!' :: '/' :: classFile name := by
  unfold classFile
  simp only [List.mem_cons, List.mem_append, List.mem_map, not_or, not_exists, not_and]
  refine ⟨by decide, by decide, fun c hc he => ?_, by decide⟩
  split at he
  · exact absurd he (by decide)
  · exact h (he ▸ hc)

/-- The resource's path decoded: its start, the jar file's path, and the rest behind the mark. -/
theorem decode_located {E : PathEncoding} {cls : ResourceClass} {d : List PathName}
    {jar : PathName} (h : LoadedFromJar E cls d jar) :
    ∃ url, cls.getResource ('/' :: classFile cls.name) = some url ∧
      URLDecoder.decode url.path = .ok ("file:".toList ++ (decoded (path (d ++ [jar])) ++
        '!' :: ('/' :: classFile cls.name).map URLDecoder.plusToSpace)) := by
  obtain ⟨url, hurl, hpath⟩ := h.located
  have hmark : ('!' :: '/' :: classFile cls.name).head? ≠ some '%' :=
    fun he => absurd (Option.some.inj he) (by decide)
  have henc := URLDecoder.decodeFrom_encode E [] (path (d ++ [jar])) hmark
  refine ⟨url, hurl, ?_⟩
  rw [hpath, URLDecoder.decode_append (by decide)]
  show (URLDecoder.decodeFrom (Utf8.encode []) _).map _ = _
  rw [henc, URLDecoder.decode_of_not_mem (percent_not_mem_classFile h.no_percent)]
  rfl

/-- A path begins with a slash, so it is no text of exclamation marks. -/
theorem splitFirst_slash (s : List Char) : splitFirst ('/' :: s) = .ok (cut ('/' :: s)) :=
  if_neg fun hall =>
    absurd (of_decide_eq_true (List.all_eq_true.mp hall.2 '/' List.mem_cons_self)) (by decide)

theorem exists_decoded_path (d : List PathName) (jar : PathName) :
    ∃ t, decoded (path (d ++ [jar])) = '/' :: t := by
  rw [decoded_path]
  cases d with
  | nil => exact ⟨_, rfl⟩
  | cons n d => exact ⟨_, rfl⟩

/-- **What the first call returns**: the parent of the jar file's path, without its pluses and
    cut. -/
theorem getDirFromClassLoader_eq {E : PathEncoding} {cls : ResourceClass} {d : List PathName}
    {jar : PathName} (h : LoadedFromJar E cls d jar) :
    ∃ rest, getDirFromClassLoader cls =
      getParent (cut (decoded (path (d ++ [jar])) ++ '!' :: rest)) := by
  obtain ⟨url, hurl, hdecode⟩ := decode_located h
  refine ⟨('/' :: classFile cls.name).map URLDecoder.plusToSpace, ?_⟩
  generalize ('/' :: classFile cls.name).map URLDecoder.plusToSpace = rest at hdecode
  obtain ⟨t, ht⟩ := exists_decoded_path d jar
  rw [ht, List.cons_append] at hdecode ⊢
  have hfind : findDir cls = .ok (getParent (cut ('/' :: (t ++ '!' :: rest)))) := by
    unfold findDir
    simp only [hurl, hdecode]
    rw [if_pos (List.prefix_append _ _), if_pos (by simp), List.drop_left' (by decide),
      splitFirst_slash]
  unfold getDirFromClassLoader
  rw [hfind]

/-- The second call gives the directory back exactly if the first gave it, with no plus and no
    percent sign in it. -/
theorem decode_absPath_iff {ns q : List (List Char)} (hns : Names ns)
    (hq : q <+: ns.map decoded) :
    URLDecoder.decode (absPath q) = .ok (absPath ns) ↔
      q = ns.map decoded ∧ ∀ n ∈ ns, '+' ∉ n ∧ '%' ∉ n := by
  have hlen := length_decoded_absPath ns
  constructor
  · intro h
    obtain ⟨hle, hlt⟩ := URLDecoder.length_decode h
    have hall : q = ns.map decoded := by
      by_contra hne
      have hshort := length_absPath_lt (names_decoded hns) hq hne
      omega
    subst hall
    have hpercent : '%' ∉ absPath (ns.map decoded) := by
      intro hm
      have := hlt hm
      omega
    have hdecode := URLDecoder.decode_of_not_mem hpercent
    have heq : decoded (absPath (ns.map decoded)) = absPath ns :=
      Except.ok.inj (hdecode.symm.trans h)
    rw [← decoded_absPath, decoded_decoded, decoded_eq_self_iff] at heq
    rw [← decoded_absPath, mem_decoded_iff (by decide) (by decide)] at hpercent
    rw [mem_absPath_iff (by decide)] at heq hpercent
    exact ⟨rfl, fun n hn => ⟨fun hp => heq ⟨n, hn, hp⟩, fun hp => hpercent ⟨n, hn, hp⟩⟩⟩
  · rintro ⟨rfl, hall⟩
    have hplus : '+' ∉ absPath ns := by
      rw [mem_absPath_iff (by decide)]
      exact fun ⟨n, hn, hp⟩ => (hall n hn).1 hp
    have hpercent : '%' ∉ absPath ns := by
      rw [mem_absPath_iff (by decide)]
      exact fun ⟨n, hn, hp⟩ => (hall n hn).2 hp
    rw [← decoded_absPath, (decoded_eq_self_iff _).mpr hplus,
      URLDecoder.decode_of_not_mem hpercent]
    exact congrArg Except.ok ((decoded_eq_self_iff _).mpr hplus)

/-- **The directory is found if and only if** no name on its path has a plus, a percent sign or an
    exclamation mark in it, and the jar file's name does not begin with an exclamation mark. -/
theorem findsDir_iff {E : PathEncoding} {cls : ResourceClass} {d : List PathName} {jar : PathName}
    (h : LoadedFromJar E cls d jar) :
    url2Utf8 (getDirFromClassLoader cls) = .ok (path d) ↔
      (∀ n ∈ d, '+' ∉ n.text ∧ '%' ∉ n.text ∧ '!' ∉ n.text) ∧ jar.text.head? ≠ some '!' := by
  obtain ⟨rest, hdir⟩ := getDirFromClassLoader_eq h
  have hns := names_text d
  have hjar := names_decoded (names_text [jar]) (decoded jar.text) List.mem_cons_self
  have hexcl : (∀ n ∈ (d.map PathName.text).map decoded, '!' ∉ n) ↔ ∀ n ∈ d, '!' ∉ n.text := by
    simp [mem_decoded_iff]
  have hhead : (decoded jar.text).head? ≠ some '!' ↔ jar.text.head? ≠ some '!' := by
    rw [← cut_ne_nil_iff hjar.1, ← cut_ne_nil_iff jar.nonempty, cut_decoded]
    exact not_congr List.map_eq_nil_iff
  have hcut := parent_cut ((d.map PathName.text).map decoded) hjar.1 hjar.2 (names_decoded hns) rest
  rw [hexcl, hhead] at hcut
  rw [hdir, decoded_path, List.append_assoc, List.cons_append]
  rcases hcut with ⟨hnone, hnot⟩ | ⟨q, hsome, hq, hiff⟩
  · rw [hnone]
    exact iff_of_false nofun fun hall => hnot ⟨fun n hn => (hall.1 n hn).2.2, hall.2⟩
  · rw [hsome]
    show URLDecoder.decode (absPath q) = .ok (absPath _) ↔ _
    rw [decode_absPath_iff hns hq, hiff, List.forall_mem_map]
    constructor
    · rintro ⟨⟨he, hj⟩, hall⟩
      exact ⟨fun n hn => ⟨(hall n hn).1, (hall n hn).2, he n hn⟩, hj⟩
    · rintro ⟨hall, hj⟩
      exact ⟨⟨fun n hn => (hall n hn).2.2, hj⟩, fun n hn => ⟨(hall n hn).1, (hall n hn).2.1⟩⟩

/-- How a path is quoted in a URI: letters, digits and some marks are left as they are. -/
def uriEncoding : PathEncoding where
  keep c := c.isAlphanum || decide (c ∈ "-_.!~*'()/:@&=+$,".toList)
  upper := true
  space := by decide
  percent := by decide
  plus := by decide
  exclamation := by decide

def launcherName : List Char := "org.esb.test.TestMain".toList

/-- The launcher, its class file found at a path. -/
def launcher (path : List Char) : ResourceClass where
  name := launcherName
  getResource name :=
    if name = '/' :: classFile launcherName then some ⟨path, "jar:".toList ++ path⟩ else none

/-- The jar file of the launcher. -/
def busJar : PathName := ⟨"bus.jar".toList, by decide, by decide⟩

theorem loaded_launcher {url : List Char} {d : List PathName}
    (h : url = "file:".toList ++ (uriEncoding.encode (path (d ++ [busJar])) ++
      ('!' :: '/' :: classFile launcherName))) :
    LoadedFromJar uriEncoding (launcher url) d busJar := by
  have hget : (launcher url).getResource ('/' :: classFile launcherName) =
      some ⟨url, "jar:".toList ++ url⟩ := by
    unfold launcher
    dsimp only
    rw [if_pos rfl]
  have hname : '%' ∉ launcherName := by decide +kernel
  exact ⟨⟨_, hget, h⟩, hname⟩

/-- A directory with a space in a name is found. -/
theorem findsDir_space :
    url2Utf8 (getDirFromClassLoader
      (launcher "file:/opt/my%20bus/bus.jar!/org/esb/test/TestMain.class".toList)) =
        .ok (path [⟨"opt".toList, by decide, by decide⟩, ⟨"my bus".toList, by decide, by decide⟩]) :=
  (findsDir_iff (loaded_launcher (by decide +kernel))).mpr (by decide +kernel)

/-- The launcher is loaded from a directory, and what it takes that for. -/
structure TakenFor (url : List Char) (d : List PathName) (answer : Except Throwable (List Char)) :
    Prop where
  loaded : LoadedFromJar uriEncoding (launcher url) d busJar
  answered : url2Utf8 (getDirFromClassLoader (launcher url)) = answer
  different : answer ≠ .ok (path d)

/-- A directory with a plus is taken for one with a space, one with an escape in its name for what
    the escape means, and one with an exclamation mark for the directory above it; a percent sign
    that begins no escape makes the second call throw. -/
theorem not_findsDir :
    TakenFor "file:/a+b/bus.jar!/org/esb/test/TestMain.class".toList
        [⟨"a+b".toList, by decide, by decide⟩] (.ok "/a b".toList) ∧
      TakenFor "file:/a%2541/bus.jar!/org/esb/test/TestMain.class".toList
        [⟨"a%41".toList, by decide, by decide⟩] (.ok "/aA".toList) ∧
      TakenFor "file:/a!b/bus.jar!/org/esb/test/TestMain.class".toList
        [⟨"a!b".toList, by decide, by decide⟩] (.ok "/".toList) ∧
      TakenFor "file:/100%25/bus.jar!/org/esb/test/TestMain.class".toList
        [⟨"100%".toList, by decide, by decide⟩] (.error .illegalArgument) := by
  refine ⟨⟨loaded_launcher ?_, ?_, ?_⟩, ⟨loaded_launcher ?_, ?_, ?_⟩,
    ⟨loaded_launcher ?_, ?_, ?_⟩, ⟨loaded_launcher ?_, ?_, ?_⟩⟩
  all_goals decide +kernel

end EsbCore.UrlUtil
