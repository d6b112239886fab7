/-
  File:      EsbCore/Lib/Marked.lean
  Subject:   WORDS BEHIND A MARK: a text of words is read in one way when each begins with a mark
             that none has inside.

  A library on its own: any alphabets, no program.

  * `marked_append_inj` -- the first word of such a text ends where the next mark stands;
  * `flatMap_marked_injective` -- so different strings have different texts, once different letters
    have different words, however long these are.
-/
import Mathlib.Data.List.Basic

namespace Lib

variable {α β : Type} {mark : β}

/-- What follows a word: nothing, or a mark. -/
def Ended (mark : β) (rest : List β) : Prop := ∀ b ∈ rest.head?, b = mark

/-- Two words without the mark, in front of ends, are one word if their texts are one. -/
theorem marked_append_inj {u v xs ys : List β} (hu : mark ∉ u) (hv : mark ∉ v)
    (hx : Ended mark xs) (hy : Ended mark ys) (h : u ++ xs = v ++ ys) : u = v ∧ xs = ys := by
  induction u generalizing v with
  | nil =>
    cases v with
    | nil => exact ⟨rfl, h⟩
    | cons b v =>
      rw [List.nil_append, List.cons_append] at h
      exact absurd (hx b (h ▸ rfl) ▸ List.mem_cons_self) hv
  | cons a u ih =>
    cases v with
    | nil =>
      rw [List.nil_append, List.cons_append] at h
      exact absurd (hy a (h ▸ rfl) ▸ List.mem_cons_self) hu
    | cons b v =>
      obtain ⟨rfl, htail⟩ := List.cons.inj h
      obtain ⟨rfl, hxs⟩ := ih (fun hm => hu (List.mem_cons_of_mem _ hm))
        (fun hm => hv (List.mem_cons_of_mem _ hm)) htail
      exact ⟨rfl, hxs⟩

theorem ended_cons (xs : List β) : Ended mark (mark :: xs) := by
  intro b hb
  cases hb
  rfl

/-- The rest of a text is an end. -/
theorem ended_flatMap (word : α → List β) (s : List α) :
    Ended mark (s.flatMap fun a => mark :: word a) := by
  intro b hb
  cases s with
  | nil => cases hb
  | cons a s =>
    cases hb
    rfl

/-- **A text of marked words determines its letters**, when the words determine theirs. -/
theorem flatMap_marked_injective {word : α → List β} (hmark : ∀ a, mark ∉ word a)
    (hword : Function.Injective word) :
    Function.Injective fun s : List α => s.flatMap fun a => mark :: word a := by
  intro s t h
  induction s generalizing t with
  | nil =>
    cases t with
    | nil => rfl
    | cons b t => cases h
  | cons a s ih =>
    cases t with
    | nil => cases h
    | cons b t =>
      simp only [List.flatMap_cons, List.cons_append] at h
      obtain ⟨hw, hrest⟩ := marked_append_inj (hmark a) (hmark b) (ended_flatMap word s)
        (ended_flatMap word t) (List.cons.inj h).2
      rw [hword hw, ih hrest]

end Lib
