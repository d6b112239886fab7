/-
  File:      EsbCore/Java/Lang.lean
  Subject:   JAVA'S OBJECTS: exceptions, bytes, class objects and reflection, hash sets, counters.

  What the modelled code takes from the JDK (and from the counter map of its utility library),
  as far as it uses it. Nothing of the service bus is named here.

  * `Throwable` -- the kinds of exceptions that code can meet;
  * `JByte`, `and0xFF`, `narrow` -- a byte, its unsigned value, the narrowing cast, which takes a
    number modulo 256 (`narrow_eq_narrow_iff`);
  * `JClass`, `Value`, `Method`, `Class.getMethod` -- reflection: a class object is that of a
    primitive type or of a reference type, and `getMethod` matches parameter types EXACTLY;
  * `HashSet` -- a set up to an `equals`; that no two elements are equal is a field;
  * `AtomicLongMap` -- counters of 64 bits under keys.
-/
import Mathlib.Data.List.AList
import Mathlib.Data.List.Forall2

namespace Java

/-- The exceptions the modelled code raises or lets through, by kind; `application` are those of a
    class of its own, with their message. -/
inductive Throwable where
  | nullPointer
  | numberFormat
  | illegalArgument
  | stringIndexOutOfBounds
  | arrayIndexOutOfBounds
  | illegalState
  | io
  | classNotFound
  | noSuchMethod
  | invocationTarget
  | invalidMessage
  | classCast
  | application (cls message : String)
  deriving DecidableEq, Repr

/-! ## 1. Bytes -/

/-- A Java `byte`: eight bits, read in two's complement. -/
abbrev JByte := BitVec 8

/-- `b & 0xFF`: the byte is widened to an `int` with its sign, and the sign bits masked off. -/
def and0xFF (b : JByte) : Nat := (b.signExtend 32 &&& 0xFF#32).toNat

/-- `(byte) n`: the low eight bits. -/
def narrow (n : Int) : JByte := BitVec.ofInt 8 n

@[simp] theorem and0xFF_eq (b : JByte) : and0xFF b = b.toNat := by
  have hb := b.isLt
  have hmask : ∀ n : Nat, n &&& 255 = n % 256 := fun n => Nat.and_two_pow_sub_one_eq_mod n 8
  unfold and0xFF
  rw [BitVec.toNat_and, BitVec.toNat_signExtend, BitVec.toNat_setWidth]
  show (_ + _) &&& 255 = _
  rw [hmask]
  split <;> omega

/-- Narrowing undoes the unsigned reading. -/
@[simp] theorem narrow_toNat (b : JByte) : narrow (b.toNat : Int) = b := by
  unfold narrow
  rw [BitVec.ofInt_natCast, BitVec.ofNat_toNat, BitVec.setWidth_eq]

/-- `n & 0xff` of an `int`. -/
def intAnd0xFF (n : Int) : Int := (BitVec.ofInt 32 n &&& 0xFF#32).toInt

/-- Two numbers are narrowed to one byte exactly when they agree modulo 256. -/
theorem narrow_eq_narrow_iff {m n : Int} : narrow m = narrow n ↔ m % 256 = n % 256 := by
  unfold narrow
  rw [← BitVec.toNat_inj, BitVec.toNat_ofInt, BitVec.toNat_ofInt]
  omega

/-- The mask takes nothing from the low eight bits. -/
@[simp] theorem narrow_intAnd0xFF (n : Int) : narrow (intAnd0xFF n) = narrow n := by
  have hmask : ∀ n : Nat, n &&& 255 = n % 256 := fun n => Nat.and_two_pow_sub_one_eq_mod n 8
  have hn : (BitVec.ofInt 32 n &&& 0xFF#32).toNat = (n % 2 ^ 32).toNat % 256 := by
    rw [BitVec.toNat_and, BitVec.toNat_ofInt]
    exact hmask _
  rw [narrow_eq_narrow_iff]
  unfold intAnd0xFF
  rw [BitVec.toInt_eq_toNat_of_lt (by rw [hn]; omega), hn]
  omega

/-! ## 2. Class objects and reflection -/

/-- The primitive types. -/
inductive Prim where
  | boolean | byte | short | char | int | long | float | double
  deriving DecidableEq, Repr

/-- The wrapper class a value of a primitive type is boxed in. -/
def Prim.wrapper : Prim → String
  | .boolean => "java.lang.Boolean"
  | .byte => "java.lang.Byte"
  | .short => "java.lang.Short"
  | .char => "java.lang.Character"
  | .int => "java.lang.Integer"
  | .long => "java.lang.Long"
  | .float => "java.lang.Float"
  | .double => "java.lang.Double"

/-- A `Class<?>` object: `int.class` and its like, or that of a class, interface or array. -/
inductive JClass where
  | prim (p : Prim)
  | ref (name : String)
  deriving DecidableEq, Repr

/-- A value behind a variable of type `Object`: `null`, or an object of a runtime class. The
    number stands for everything else about the object. -/
inductive Value where
  | null
  | obj (cls : String) (content : Nat)
  deriving DecidableEq, Repr

/-- `o.getClass()`; on `null` there is nothing to ask. -/
def Value.getClass : Value → Except Throwable JClass
  | .null => .error .nullPointer
  | .obj cls _ => .ok (.ref cls)

/-- A method as reflection tells it from others: name and declared parameter types. -/
structure Method where
  name : String
  parameterTypes : List JClass
  deriving DecidableEq, Repr

/-- A loaded class or interface with its public methods, inherited ones included. -/
structure Class where
  name : String
  methods : List Method
  deriving DecidableEq, Repr

/-- `getMethod(name, types)`: a public method of that name with exactly these types. -/
def Class.getMethod (c : Class) (name : String) (types : List JClass) :
    Except Throwable Method :=
  match c.methods.find? (fun m => m = ⟨name, types⟩) with
  | some m => .ok m
  | none => .error .noSuchMethod

/-- The program's reference types under assignment conversion. -/
structure Hierarchy where
  assignable : String → String → Bool
  refl : ∀ c, assignable c c
  trans : ∀ {a b c}, assignable a b → assignable b c → assignable a c

/-- A value that may be passed for a parameter of a declared type: the wrapper for a primitive
    type, `null` or an object of a subtype for a reference type. -/
def Legal (H : Hierarchy) : JClass → Value → Prop
  | .prim p, .obj cls _ => cls = p.wrapper
  | .prim _, .null => False
  | .ref _, .null => True
  | .ref c, .obj cls _ => H.assignable cls c

instance (H : Hierarchy) : (t : JClass) → (v : Value) → Decidable (Legal H t v)
  | .prim p, .obj cls _ => inferInstanceAs (Decidable (cls = p.wrapper))
  | .prim _, .null => isFalse id
  | .ref _, .null => isTrue trivial
  | .ref c, .obj cls _ => inferInstanceAs (Decidable (H.assignable cls c = true))

/-- Every value is an object of exactly the type declared for it. -/
def Exact (types : List JClass) (args : List Value) : Prop :=
  List.Forall₂ (fun t a => Value.getClass a = .ok t) types args

/-- `C` implements `I`: each of its methods is a public method of `C`, under the same parameter
    types. -/
def Implements (C I : Class) : Prop := ∀ m ∈ I.methods, m ∈ C.methods

instance (C I : Class) : Decidable (Implements C I) :=
  inferInstanceAs (Decidable (∀ m ∈ I.methods, m ∈ C.methods))

theorem Class.getMethod_eq_ok_iff {c : Class} {name : String} {types : List JClass} {m : Method} :
    c.getMethod name types = .ok m ↔ m = ⟨name, types⟩ ∧ m ∈ c.methods := by
  unfold Class.getMethod
  constructor
  · intro h
    split at h
    · rename_i m' hm'
      cases h
      exact ⟨by simpa using List.find?_some hm', List.mem_of_find?_eq_some hm'⟩
    · cases h
  · intro h
    obtain ⟨rfl, hm⟩ := h
    split
    · rename_i m' hm'
      have e : m' = ⟨name, types⟩ := by simpa using List.find?_some hm'
      rw [e]
    · rename_i hn
      exact absurd (decide_eq_true rfl) (List.find?_eq_none.mp hn _ hm)

/-- The runtime classes of values, in a loop that a null value ends. -/
theorem mapM_getClass_eq_ok_iff {args : List Value} {types : List JClass} :
    args.mapM Value.getClass = .ok types ↔ Exact types args := by
  unfold Exact
  induction args generalizing types with
  | nil =>
    rw [List.forall₂_nil_right_iff]
    exact ⟨fun h => (Except.ok.inj h).symm, fun h => congrArg Except.ok h.symm⟩
  | cons a args ih =>
    rw [List.forall₂_cons_right_iff, List.mapM_cons]
    cases ha : Value.getClass a with
    | error e =>
      refine ⟨fun h => absurd h (by simp [bind, Except.bind]), fun h => ?_⟩
      obtain ⟨t, ts, h, -⟩ := h
      cases h
    | ok t =>
      cases hargs : args.mapM Value.getClass with
      | error e =>
        refine ⟨fun h => absurd h (by simp [bind, Except.bind]), fun h => ?_⟩
        obtain ⟨t', ts, -, h, -⟩ := h
        rw [← ih, hargs] at h
        cases h
      | ok ts =>
        have hts := ih.mp hargs
        refine ⟨fun h => ⟨t, ts, rfl, hts, (Except.ok.inj h).symm⟩, fun h => ?_⟩
        obtain ⟨t', ts', ht, hts', rfl⟩ := h
        rw [← ih, hargs] at hts'
        rw [Except.ok.inj ht, Except.ok.inj hts']
        rfl

/-- What a method is declared to return. -/
inductive ReturnType where
  | void
  | type (t : JClass)
  deriving DecidableEq, Repr

/-- A value a method of this return type can return; a `void` method is seen to return `null`. -/
def Returnable (H : Hierarchy) : ReturnType → Value → Prop
  | .void, v => v = .null
  | .type t, v => Legal H t v

instance (H : Hierarchy) : (rt : ReturnType) → (v : Value) → Decidable (Returnable H rt v)
  | .void, v => inferInstanceAs (Decidable (v = .null))
  | .type t, v => inferInstanceAs (Decidable (Legal H t v))

/-- What a call through a dynamic proxy returns when its handler returns `v`: nothing for a `void`
    method, else `v` unboxed or cast to the return type. -/
def proxyReturn (H : Hierarchy) : ReturnType → Value → Except Throwable Value
  | .void, _ => .ok .null
  | .type t, v =>
    if Legal H t v then .ok v
    else if v = .null then .error .nullPointer
    else .error .classCast

theorem proxyReturn_eq_ok_iff {H : Hierarchy} {rt : ReturnType} {v : Value} :
    proxyReturn H rt v = .ok v ↔ Returnable H rt v := by
  cases rt with
  | void => exact ⟨fun h => (Except.ok.inj h).symm, fun h => congrArg Except.ok (Eq.symm h)⟩
  | type t =>
    unfold proxyReturn Returnable
    by_cases h : Legal H t v
    · simp [h]
    · by_cases hv : v = .null <;> simp [h, hv]

/-! ## 3. Hash sets -/

/-- A `HashSet` of elements compared by `equals`, in the order they went in. -/
structure HashSet {α : Type} (equals : α → α → Bool) where
  elems : List α
  distinct : elems.Pairwise fun x y => equals y x = false

namespace HashSet

variable {α : Type} {equals : α → α → Bool}

def empty : HashSet equals := ⟨[], .nil⟩

/-- `add(x)`: nothing happens when an equal element is in. -/
def add (s : HashSet equals) (x : α) : HashSet equals :=
  if h : s.elems.any (equals x) then s
  else ⟨s.elems ++ [x], by
    refine List.pairwise_append.mpr ⟨s.distinct, List.pairwise_singleton _ _, fun y hy z hz => ?_⟩
    rw [List.mem_singleton.mp hz]
    simp only [List.any_eq_true, not_exists, not_and, Bool.not_eq_true] at h
    exact h y hy⟩

/-- `remove(x)`: the element equal to `x`, when there is one. -/
def remove (s : HashSet equals) (x : α) : HashSet equals :=
  ⟨s.elems.filter fun y => !equals x y, s.distinct.filter _⟩

@[simp] theorem elems_empty : (empty : HashSet equals).elems = [] := rfl

theorem elems_add_of_new {s : HashSet equals} {x : α} (h : ∀ y ∈ s.elems, equals x y = false) :
    (s.add x).elems = s.elems ++ [x] := by
  unfold add
  rw [dif_neg]
  simpa using h

theorem elems_remove_of_new {s : HashSet equals} {x : α} (h : ∀ y ∈ s.elems, equals x y = false) :
    (s.remove x).elems = s.elems :=
  List.filter_eq_self.mpr fun y hy => by rw [h y hy]; rfl

theorem mem_add {s : HashSet equals} {x y : α} (h : y ∈ (s.add x).elems) :
    y ∈ s.elems ∨ y = x := by
  unfold add at h
  split at h
  · exact .inl h
  · rcases List.mem_append.mp h with h | h
    · exact .inl h
    · exact .inr (List.mem_singleton.mp h)

theorem mem_remove {s : HashSet equals} {x y : α} (h : y ∈ (s.remove x).elems) : y ∈ s.elems :=
  List.mem_of_mem_filter h

end HashSet

/-! ## 4. Counters under keys -/

/-- An `AtomicLongMap`, and the `Map` with `Long` values its `asMap` copies to. -/
abbrev AtomicLongMap (κ : Type) := AList fun _ : κ => Int64

namespace AtomicLongMap

variable {κ : Type} [DecidableEq κ]

/-- `get(k)`: zero for a key that is not in. -/
def get (m : AtomicLongMap κ) (k : κ) : Int64 := (AList.lookup k m).getD 0

/-- `getAndIncrement(k)`, as far as the map goes. -/
def getAndIncrement (m : AtomicLongMap κ) (k : κ) : AtomicLongMap κ :=
  AList.insert k (get m k + 1) m

@[simp] theorem get_empty (k : κ) : get (∅ : AtomicLongMap κ) k = 0 := rfl

theorem get_getAndIncrement (m : AtomicLongMap κ) (k k' : κ) :
    get (getAndIncrement m k) k' = get m k' + (if k' = k then 1 else 0) := by
  unfold getAndIncrement get
  by_cases h : k' = k
  · subst h
    simp
  · rw [AList.lookup_insert_ne h, if_neg h, Int64.add_zero]

end AtomicLongMap

end Java
