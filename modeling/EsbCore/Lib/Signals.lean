/-
  File:      EsbCore/Lib/Signals.lean
  Subject:   SIGNALS UNDER KEYS: what was signalled for a key, the latest of it, and signals that
             come strictly in turn.

  A library on its own: arbitrary keys and signals, no program.

  * `signalsOf`, `latest` -- the signals of one key, and the last of them;
  * `count_true_iff` -- among up and down signals, the ups number one when the last is an up and
    none otherwise, exactly when nothing follows an up;
  * `Alternates`, `turn` -- two kinds of signals strictly in turn, and whose turn it is;
    `alternates_concat` checks one more signal against the last one.
-/
import Mathlib.Data.List.Infix

namespace Lib

/-! ## 1. The signals of a key -/

section Keys

variable {α β : Type} [DecidableEq α]

/-- The signals of the key `a`, in order. -/
def signalsOf (a : α) (xs : List (α × β)) : List β := (xs.filter (·.1 = a)).map (·.2)

/-- The latest of them. -/
def latest (a : α) (xs : List (α × β)) : Option β := (signalsOf a xs).getLast?

@[simp] theorem signalsOf_nil (a : α) : signalsOf a ([] : List (α × β)) = [] := rfl

theorem signalsOf_append (a : α) (xs ys : List (α × β)) :
    signalsOf a (xs ++ ys) = signalsOf a xs ++ signalsOf a ys := by
  unfold signalsOf
  rw [List.filter_append, List.map_append]

theorem signalsOf_singleton (a : α) (x : α × β) :
    signalsOf a [x] = if x.1 = a then [x.2] else [] := by
  unfold signalsOf
  by_cases h : x.1 = a
  · simp [h]
  · simp [h]

/-- One more event of a history, when some of its events are signals. -/
theorem filterMap_concat {γ δ : Type} (f : γ → Option δ) (es : List γ) (e : γ) :
    (es ++ [e]).filterMap f = es.filterMap f ++ (f e).toList := by
  rw [List.filterMap_append]
  cases h : f e <;> simp [h]

/-- An earlier history has fewer signals of a key, the same ones. -/
theorem signalsOf_mono (a : α) {xs ys : List (α × β)} (h : xs <+: ys) :
    signalsOf a xs <+: signalsOf a ys := by
  obtain ⟨zs, rfl⟩ := h
  rw [signalsOf_append]
  exact List.prefix_append _ _

end Keys

/-- What is not the last of a history is not the last of a longer one. -/
theorem mem_dropLast_mono {β : Type} {xs ys : List β} (h : xs <+: ys) {x : β}
    (hx : x ∈ xs.dropLast) : x ∈ ys.dropLast := by
  obtain ⟨zs, rfl⟩ := h
  cases zs with
  | nil => rwa [List.append_nil]
  | cons z zs =>
    rw [List.dropLast_append_of_ne_nil (List.cons_ne_nil z zs)]
    exact List.mem_append_left _ (List.dropLast_subset xs hx)

/-- **Counting ups.** One when the last signal is an up and none otherwise: that is so exactly
    when no signal follows an up. -/
theorem count_true_iff (ds : List Bool) :
    ds.count true = (if ds.getLast? = some true then 1 else 0) ↔ true ∉ ds.dropLast := by
  induction ds using List.reverseRecOn with
  | nil => simp
  | append_singleton ds x _ =>
    rw [List.dropLast_concat, List.getLast?_concat, List.count_append, ← List.count_eq_zero]
    cases x with
    | true => simp
    | false => simp

/-! ## 2. Strictly in turn -/

/-- The signals come strictly in turn, the first of kind `b`. -/
def Alternates : Bool → List Bool → Prop
  | _, [] => True
  | b, x :: xs => x = b ∧ Alternates (!b) xs

instance : (b : Bool) → (xs : List Bool) → Decidable (Alternates b xs)
  | _, [] => isTrue trivial
  | b, x :: xs =>
    have : Decidable (Alternates (!b) xs) := instDecidableAlternates (!b) xs
    inferInstanceAs (Decidable (x = b ∧ Alternates (!b) xs))

/-- The kind whose turn it is after the signals `xs`, when `b` had the first. -/
def turn (b : Bool) (xs : List Bool) : Bool :=
  match xs.getLast? with
  | none => b
  | some x => !x

@[simp] theorem turn_nil (b : Bool) : turn b [] = b := rfl

@[simp] theorem turn_concat (b : Bool) (xs : List Bool) (x : Bool) : turn b (xs ++ [x]) = !x := by
  unfold turn
  rw [List.getLast?_concat]

theorem turn_cons (b : Bool) (x : Bool) (xs : List Bool) : turn b (x :: xs) = turn (!x) xs := by
  induction xs using List.reverseRecOn with
  | nil => rfl
  | append_singleton xs y _ => rw [← List.cons_append, turn_concat, turn_concat]

/-- One more signal keeps the alternation exactly when it is its kind's turn. -/
theorem alternates_concat (b : Bool) (xs : List Bool) (x : Bool) :
    Alternates b (xs ++ [x]) ↔ Alternates b xs ∧ x = turn b xs := by
  induction xs generalizing b with
  | nil => simp [Alternates]
  | cons y xs ih =>
    simp only [List.cons_append, Alternates, turn_cons, ih]
    constructor
    · intro h
      obtain ⟨hy, h, hx⟩ := h
      subst hy
      exact ⟨⟨rfl, h⟩, hx⟩
    · intro h
      obtain ⟨⟨hy, h⟩, hx⟩ := h
      subst hy
      exact ⟨rfl, h, hx⟩

end Lib
