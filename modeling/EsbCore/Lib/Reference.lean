/-
  File:      EsbCore/Lib/Reference.lean
  Subject:   MESSAGES THAT REFER TO THEIR SENDER'S STATE and are read later.

  A library on its own: arbitrary states, events, messages and readings, no program.

  * `Sender` -- a party whose messages denote a part of its state: what they mean depends on the
    state they are read in;
  * `Sender.machine` -- the party under its events, with its messages on their way: each is read
    once, at any later moment (`ReferenceEvent.serialise`);
  * `Sender.Growing` -- the events a message does not notice, and those after which it denotes
    more;
  * `Growing.inv` -- so a message on its way still denotes what it did when it was sent exactly if
    no event of the second kind has come since;
  * `Growing.faithful_iff` -- and a run reads every message as it was sent exactly if it reads each
    before such an event.
-/
import EsbCore.Lib.Machine

namespace Lib

/-! ## 1. The party and its messages -/

/-- A party: how it starts, what an event makes of it, the messages it sends on one, and what a
    message denotes in a state. -/
structure Sender (σ ε τ α : Type) where
  start : σ
  step : σ → ε → σ
  sends : σ → ε → List τ
  denote : σ → τ → α

/-- A message on its way: what it denoted when it was sent, and the events since. -/
structure OnItsWay (ε τ α : Type) where
  message : τ
  held : α
  since : List ε

/-- A message as it was read. -/
structure Reading (τ α : Type) where
  message : τ
  held : α
  received : α

/-- The party takes an event, or the `k`-th message on its way is serialised, and thereby read. -/
inductive ReferenceEvent (ε : Type) where
  | act (e : ε)
  | serialise (k : Nat)

/-- The party and its messages on their way, the oldest first. -/
structure Referred (σ ε τ α : Type) where
  party : σ
  pending : List (OnItsWay ε τ α)

namespace Sender

variable {σ ε τ α : Type} (S : Sender σ ε τ α)

/-- The messages on their way after one event more, the new ones behind. -/
def send (s : Referred σ ε τ α) (e : ε) : List (OnItsWay ε τ α) :=
  (s.pending.map fun x => { x with since := x.since ++ [e] }) ++
    (S.sends s.party e).map fun t => ⟨t, S.denote (S.step s.party e) t, []⟩

/-- The party under its events; every reading is an output. -/
def machine : Machine (Referred σ ε τ α) (ReferenceEvent ε) (Reading τ α) where
  start := (⟨S.start, []⟩, [])
  step s
    | .act e => (⟨S.step s.party e, S.send s e⟩, [])
    | .serialise k =>
      match s.pending[k]? with
      | none => (s, [])
      | some x => ({ s with pending := s.pending.eraseIdx k },
          [⟨x.message, x.held, S.denote s.party x.message⟩])

/-- Every message was read as it was sent. -/
def Faithful (es : List (ReferenceEvent ε)) : Prop :=
  ∀ r ∈ S.machine.emitted es, r.received = r.held

/-- A run reads a message on its way only where `Quiet` is all that came since it was sent. -/
def ReadInTime (Quiet : ε → Prop) (es : List (ReferenceEvent ε)) : Prop :=
  ∀ p a, p ++ [a] <+: es → ∀ k, a = .serialise k →
    ∀ x, (S.machine.after p).pending[k]? = some x → ∀ e ∈ x.since, Quiet e

/-! ## 2. What a message notices -/

/-- A `Valid` message does not notice the `Quiet` events, and denotes more, by `size`, after every
    other. -/
structure Growing (Valid : σ → τ → Prop) (Quiet : ε → Prop) (size : α → Nat) : Prop where
  sent : ∀ s e, ∀ t ∈ S.sends s e, Valid (S.step s e) t
  kept : ∀ s e t, Valid s t → Valid (S.step s e) t
  quiet : ∀ s e t, Valid s t → Quiet e → S.denote (S.step s e) t = S.denote s t
  loud : ∀ s e t, Valid s t → ¬ Quiet e → size (S.denote s t) < size (S.denote (S.step s e) t)

variable {S} {Valid : σ → τ → Prop} {Quiet : ε → Prop} {size : α → Nat}

/-- What holds of a message on its way. -/
structure Aged (S : Sender σ ε τ α) (Valid : σ → τ → Prop) (Quiet : ε → Prop) (size : α → Nat)
    (party : σ) (x : OnItsWay ε τ α) : Prop where
  valid : Valid party x.message
  same : (∀ e ∈ x.since, Quiet e) → S.denote party x.message = x.held
  more : ¬ (∀ e ∈ x.since, Quiet e) → size x.held < size (S.denote party x.message)

/-- A message on its way denotes what it did when it was sent exactly after quiet events. -/
theorem Aged.denote_eq_iff {party : σ} {x : OnItsWay ε τ α}
    (h : Aged S Valid Quiet size party x) :
    S.denote party x.message = x.held ↔ ∀ e ∈ x.since, Quiet e := by
  constructor
  · intro he
    by_contra hloud
    have hlt := h.more hloud
    rw [he] at hlt
    exact lt_irrefl _ hlt
  · exact h.same

/-- One event more. -/
theorem Aged.act (G : S.Growing Valid Quiet size) {party : σ} {x : OnItsWay ε τ α}
    (h : Aged S Valid Quiet size party x) (e : ε) :
    Aged S Valid Quiet size (S.step party e) { x with since := x.since ++ [e] } := by
  have hsize : size (S.denote party x.message) ≤ size (S.denote (S.step party e) x.message) := by
    by_cases he : Quiet e
    · rw [G.quiet party e _ h.valid he]
    · exact le_of_lt (G.loud party e _ h.valid he)
  have hheld : size x.held ≤ size (S.denote party x.message) := by
    by_cases hq : ∀ e ∈ x.since, Quiet e
    · rw [h.same hq]
    · exact le_of_lt (h.more hq)
  refine ⟨G.kept party e _ h.valid, fun hq => ?_, fun hq => ?_⟩
  · rw [List.forall_mem_append, List.forall_mem_singleton] at hq
    rw [G.quiet party e _ h.valid hq.2, h.same hq.1]
  · rw [List.forall_mem_append, List.forall_mem_singleton] at hq
    show size x.held < size (S.denote (S.step party e) x.message)
    by_cases he : Quiet e
    · exact lt_of_lt_of_le (h.more fun ho => hq ⟨ho, he⟩) hsize
    · exact lt_of_le_of_lt hheld (G.loud party e _ h.valid he)

/-- **What every run keeps**: its messages are such. -/
theorem Growing.inv (G : S.Growing Valid Quiet size) (es : List (ReferenceEvent ε)) :
    ∀ x ∈ (S.machine.after es).pending,
      Aged S Valid Quiet size (S.machine.after es).party x := by
  refine S.machine.state_inv (P := fun s => ∀ x ∈ s.pending, Aged S Valid Quiet size s.party x)
    nofun ?_ es
  intro s a h
  cases a with
  | act e =>
    intro x hx
    rcases List.mem_append.mp hx with hx | hx
    · obtain ⟨y, hy, rfl⟩ := List.mem_map.mp hx
      exact (h y hy).act G e
    · obtain ⟨t, ht, rfl⟩ := List.mem_map.mp hx
      exact ⟨G.sent s.party e t ht, fun _ => rfl, fun hq => absurd nofun hq⟩
  | serialise k =>
    show ∀ x ∈ (S.machine.step s (.serialise k)).1.pending,
      Aged S Valid Quiet size (S.machine.step s (.serialise k)).1.party x
    simp only [machine]
    split
    · exact h
    · exact fun x hx => h x (List.mem_of_mem_eraseIdx hx)

/-- What one event reads is as it was sent exactly if it is read in time. -/
theorem Growing.faithful_step_iff (G : S.Growing Valid Quiet size) (p : List (ReferenceEvent ε))
    (a : ReferenceEvent ε) :
    (∀ r ∈ (S.machine.step (S.machine.after p) a).2, r.received = r.held) ↔
      ∀ k, a = .serialise k → ∀ x, (S.machine.after p).pending[k]? = some x →
        ∀ e ∈ x.since, Quiet e := by
  cases a with
  | act e => exact iff_of_true nofun nofun
  | serialise k =>
    have haged := G.inv p
    generalize S.machine.after p = s at haged
    simp only [machine]
    cases hk : s.pending[k]? with
    | none =>
      refine iff_of_true nofun fun k' hk' x hx => ?_
      cases hk'
      rw [hk] at hx
      cases hx
    | some x =>
      have hx := haged x (List.mem_of_getElem? hk)
      constructor
      · intro h k' hk' x' hx'
        cases hk'
        rw [hk] at hx'
        cases hx'
        exact hx.denote_eq_iff.mp (h _ (List.mem_singleton_self _))
      · intro h r hr
        rw [List.mem_singleton.mp hr]
        exact hx.denote_eq_iff.mpr (h k rfl x hk)

/-- **A run reads every message as it was sent exactly if it reads each in time.** -/
theorem Growing.faithful_iff (G : S.Growing Valid Quiet size) (es : List (ReferenceEvent ε)) :
    S.Faithful es ↔ S.ReadInTime Quiet es := by
  unfold Faithful ReadInTime
  induction es using List.reverseRecOn with
  | nil => exact iff_of_true nofun forall_steps_nil
  | append_singleton es a ih =>
    rw [S.machine.emitted_concat, List.forall_mem_append, ih, G.faithful_step_iff es a,
      forall_steps_concat_iff (Q := fun p a => ∀ k, a = .serialise k →
        ∀ x, (S.machine.after p).pending[k]? = some x → ∀ e ∈ x.since, Quiet e)]

end Sender

end Lib
