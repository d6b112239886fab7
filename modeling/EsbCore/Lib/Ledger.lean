/-
  File:      EsbCore/Lib/Ledger.lean
  Subject:   A TALLY THAT IS REPORTED FROM TIME TO TIME, and whose holder may be lost.

  A library on its own: arbitrary keys, no program. Something is counted under keys; from time to
  time the counts held are reported and start again at zero; and the holder of the counts may fail
  right after counting, with everything it holds.

  * `balance` -- what was counted is what was reported, what is held and what was lost;
  * `balance_capped_iff` -- a reader that sees each count through `cap`, never more than the
    count, finds the balance exactly when nothing was lost and no count was capped;
  * `lost_eq_zero_iff` -- nothing is lost exactly when the holder never fails;
  * `windows_lt_iff` -- the counts stay below a bound exactly when no stretch without a report
    counts that often.
-/
import EsbCore.Lib.Machine
import Mathlib.Algebra.BigOperators.Group.List.Basic
import Mathlib.Algebra.Order.BigOperators.Group.List
import Mathlib.Algebra.Order.Ring.Int

namespace Lib

/-- What happens to a tally: a count, a count after which the holder fails, a report, or something
    else. -/
inductive TallyOp (κ : Type) where
  | count (k : κ)
  | fail (k : κ)
  | report
  | skip
  deriving DecidableEq

/-- Operations without a failure, and one more. -/
theorem TallyOp.fail_not_mem_of_concat {κ : Type} {ops : List (TallyOp κ)} {op : TallyOp κ}
    (hf : ∀ k, fail k ∉ ops ++ [op]) : (∀ k, fail k ∉ ops) ∧ ∀ k, op ≠ fail k :=
  ⟨fun k hk => hf k (List.mem_append_left _ hk),
    fun k hk => hf k (List.mem_append_right _ (hk ▸ List.mem_singleton_self _))⟩

/-- The counts held and the counts lost. -/
structure Tally (κ : Type) where
  held : κ → Nat
  lost : κ → Nat

namespace Tally

variable {κ : Type} [DecidableEq κ]

/-- One count more under `k`. -/
def bump (c : κ → Nat) (k : κ) : κ → Nat := fun k' => c k' + if k' = k then 1 else 0

def step (t : Tally κ) : TallyOp κ → Tally κ × List (κ → Nat)
  | .count k => (⟨bump t.held k, t.lost⟩, [])
  | .fail k => (⟨fun _ => 0, fun k' => t.lost k' + bump t.held k k'⟩, [])
  | .report => (⟨fun _ => 0, t.lost⟩, [t.held])
  | .skip => (t, [])

/-- The tally from nothing; its outputs are the reports. -/
def machine : Machine (Tally κ) (TallyOp κ) (κ → Nat) where
  start := (⟨fun _ => 0, fun _ => 0⟩, [])
  step := step

/-- How much one operation counts under `k`. -/
def counts (k : κ) : TallyOp κ → Nat
  | .count k' => if k = k' then 1 else 0
  | .fail k' => if k = k' then 1 else 0
  | .report => 0
  | .skip => 0

/-- How often `k` was counted. -/
def counted (k : κ) (ops : List (TallyOp κ)) : Nat := (ops.map (counts k)).sum

theorem counted_concat (k : κ) (ops : List (TallyOp κ)) (op : TallyOp κ) :
    counted k (ops ++ [op]) = counted k ops + counts k op := by
  unfold counted
  rw [List.map_append, List.sum_append, List.map_singleton, List.sum_singleton]

/-! ## 1. The balance -/

/-- **Counted = reported + held + lost.** -/
theorem balance (k : κ) (ops : List (TallyOp κ)) :
    counted k ops = ((machine.emitted ops).map (· k)).sum + (machine.after ops).held k +
      (machine.after ops).lost k := by
  refine machine.history_inv (I := fun ops t os =>
    counted k ops = (os.map (· k)).sum + t.held k + t.lost k) rfl ?_ ops
  intro ops t os op ih
  rw [counted_concat, ih]
  cases op with
  | count k' =>
    simp only [machine, step, counts, bump, List.append_nil]
    omega
  | fail k' =>
    simp only [machine, step, counts, bump, List.append_nil]
    omega
  | report =>
    simp only [machine, step, counts, List.map_append, List.sum_append, List.map_singleton,
      List.sum_singleton]
    omega
  | skip =>
    simp only [machine, step, counts, List.append_nil]
    omega

theorem sum_capped_le {cap : Nat → Int} (hcap : ∀ n, cap n ≤ n) (ns : List Nat) :
    (ns.map cap).sum ≤ ((ns.sum : Nat) : Int) := by
  induction ns with
  | nil => simp
  | cons n ns ih =>
    have hn := hcap n
    rw [List.map_cons, List.sum_cons, List.sum_cons, Int.natCast_add]
    omega

theorem sum_capped_eq_iff {cap : Nat → Int} (hcap : ∀ n, cap n ≤ n) (ns : List Nat) :
    (ns.map cap).sum = ((ns.sum : Nat) : Int) ↔ ∀ n ∈ ns, cap n = n := by
  induction ns with
  | nil => simp
  | cons n ns ih =>
    have hn := hcap n
    have hns := sum_capped_le hcap ns
    rw [List.map_cons, List.sum_cons, List.sum_cons, List.forall_mem_cons, ← ih, Int.natCast_add]
    omega

/-- **The balance as a reader with capped counts sees it.** -/
theorem balance_capped_iff {cap : Nat → Int} (hcap : ∀ n, cap n ≤ n) (k : κ)
    (ops : List (TallyOp κ)) :
    ((machine.emitted ops).map fun r => cap (r k)).sum + cap ((machine.after ops).held k) =
        (counted k ops : Int) ↔
      (machine.after ops).lost k = 0 ∧
        ∀ r ∈ machine.emitted ops ++ [(machine.after ops).held], cap (r k) = r k := by
  have hb := balance k ops
  have hle := sum_capped_le hcap ((machine.emitted ops).map (· k))
  have heq := sum_capped_eq_iff hcap ((machine.emitted ops).map (· k))
  have hheld := hcap ((machine.after ops).held k)
  rw [List.map_map] at hle heq
  have hmem : (∀ r ∈ machine.emitted ops ++ [(machine.after ops).held], cap (r k) = r k) ↔
      (∀ n ∈ (machine.emitted ops).map (· k), cap n = n) ∧
        cap ((machine.after ops).held k) = (machine.after ops).held k := by
    simp only [List.forall_mem_append, List.forall_mem_singleton, List.forall_mem_map]
  rw [hmem, ← heq, hb, Int.natCast_add, Int.natCast_add]
  change (List.map (cap ∘ (· k)) (machine.emitted ops)).sum + _ = _ ↔ _
  omega

/-! ## 2. Losses -/

/-- **Nothing is lost exactly when the holder never fails.** -/
theorem lost_eq_zero_iff (ops : List (TallyOp κ)) :
    (∀ k, (machine.after ops).lost k = 0) ↔ ∀ k, TallyOp.fail k ∉ ops := by
  refine machine.history_inv (I := fun ops t _ =>
    (∀ k, t.lost k = 0) ↔ ∀ k, TallyOp.fail k ∉ ops) (by simp [machine]) ?_ ops
  intro ops t os op ih
  cases op with
  | fail k =>
    constructor
    · intro h
      have hk := h k
      simp [machine, step, bump] at hk
    · intro h
      exact absurd (List.mem_append_right ops (List.mem_singleton_self _)) (h k)
  | count k => simpa [machine, step] using ih
  | report => simpa [machine, step] using ih
  | skip => simpa [machine, step] using ih

/-! ## 3. Stretches without a report -/

/-- What the counts held and reported are: counts of stretches without a report. -/
theorem window_eq (k : κ) {ops : List (TallyOp κ)} (hf : ∀ k, TallyOp.fail k ∉ ops) :
    (∃ w, w <:+ ops ∧ TallyOp.report ∉ w ∧ (machine.after ops).held k = counted k w) ∧
      ∀ r ∈ machine.emitted ops, ∃ w, w <:+: ops ∧ TallyOp.report ∉ w ∧ r k = counted k w := by
  revert hf
  refine machine.history_inv (I := fun ops t os => (∀ k, TallyOp.fail k ∉ ops) →
    (∃ w, w <:+ ops ∧ TallyOp.report ∉ w ∧ t.held k = counted k w) ∧
      ∀ r ∈ os, ∃ w, w <:+: ops ∧ TallyOp.report ∉ w ∧ r k = counted k w) ?_ ?_ ops
  · exact fun _ => ⟨⟨[], List.suffix_rfl, List.not_mem_nil, rfl⟩, fun r hr =>
      absurd hr List.not_mem_nil⟩
  · intro ops t os op ih hf
    obtain ⟨⟨w, hw, hwr, hheld⟩, hos⟩ := ih fun k hk => hf k (List.mem_append_left _ hk)
    have hos' : ∀ r ∈ os, ∃ w, w <:+: ops ++ [op] ∧ TallyOp.report ∉ w ∧ r k = counted k w := by
      intro r hr
      obtain ⟨v, hv, hvr, e⟩ := hos r hr
      exact ⟨v, hv.trans (List.prefix_append ops [op]).isInfix, hvr, e⟩
    have hw' : w ++ [op] <:+ ops ++ [op] := by
      obtain ⟨u, rfl⟩ := hw
      exact ⟨u, by rw [List.append_assoc]⟩
    cases op with
    | fail k' => exact absurd (List.mem_append_right ops (List.mem_singleton_self _)) (hf k')
    | count k' =>
      refine ⟨⟨w ++ [.count k'], hw', by simpa using hwr, ?_⟩, ?_⟩
      · rw [counted_concat, ← hheld]
        rfl
      · simpa [machine, step] using hos'
    | skip =>
      refine ⟨⟨w ++ [.skip], hw', by simpa using hwr, ?_⟩, ?_⟩
      · rw [counted_concat, ← hheld]
        rfl
      · simpa [machine, step] using hos'
    | report =>
      refine ⟨⟨[], List.nil_suffix, List.not_mem_nil, rfl⟩, fun r hr => ?_⟩
      rcases List.mem_append.mp hr with hr | hr
      · exact hos' r hr
      · rw [List.mem_singleton.mp hr]
        exact ⟨w, hw.isInfix.trans (List.prefix_append ops [_]).isInfix, hwr, hheld⟩

/-- A stretch without a report that ends now counts no more than is held. -/
theorem counted_le_held (k : κ) {ops : List (TallyOp κ)} (hf : ∀ k, TallyOp.fail k ∉ ops)
    {w : List (TallyOp κ)} (hw : w <:+ ops) (hwr : TallyOp.report ∉ w) :
    counted k w ≤ (machine.after ops).held k := by
  induction ops using List.reverseRecOn generalizing w with
  | nil =>
    rw [List.suffix_nil.mp hw]
    exact Nat.zero_le _
  | append_singleton ops op ih =>
    obtain ⟨hops, hop⟩ := TallyOp.fail_not_mem_of_concat hf
    rw [Machine.after_concat]
    rcases List.suffix_concat_iff.mp hw with rfl | ⟨v, rfl, hv⟩
    · exact Nat.zero_le _
    · have hle := ih hops hv fun h => hwr (List.mem_append_left _ h)
      rw [counted_concat]
      cases op with
      | fail k' => exact absurd rfl (hop k')
      | report => exact absurd (List.mem_append_right v (List.mem_singleton_self _)) hwr
      | count k' => exact Nat.add_le_add_right hle _
      | skip => exact hle

/-- What is held before an operation that does not fail is held or reported after it, at least. -/
theorem held_le_step (k : κ) (t : Tally κ) {op : TallyOp κ} (hop : ∀ k, op ≠ .fail k) :
    ∃ r ∈ (step t op).2 ++ [(step t op).1.held], t.held k ≤ r k := by
  cases op with
  | fail k' => exact absurd rfl (hop k')
  | count k' => exact ⟨_, List.mem_singleton_self _, Nat.le_add_right _ _⟩
  | skip => exact ⟨_, List.mem_singleton_self _, le_rfl⟩
  | report => exact ⟨t.held, List.mem_cons_self, le_rfl⟩

/-- A stretch without a report counts no more than one of the counts held and reported. -/
theorem counted_le_window (k : κ) {ops : List (TallyOp κ)} (hf : ∀ k, TallyOp.fail k ∉ ops)
    {w : List (TallyOp κ)} (hw : w <:+: ops) (hwr : TallyOp.report ∉ w) :
    ∃ r ∈ machine.emitted ops ++ [(machine.after ops).held], counted k w ≤ r k := by
  induction ops using List.reverseRecOn with
  | nil => exact ⟨_, List.mem_singleton_self _, counted_le_held k hf (by simpa using hw) hwr⟩
  | append_singleton ops op ih =>
    rcases List.infix_concat_iff.mp hw with hw | hw
    · exact ⟨_, List.mem_append_right _ (List.mem_singleton_self _), counted_le_held k hf hw hwr⟩
    · obtain ⟨hops, hop⟩ := TallyOp.fail_not_mem_of_concat hf
      obtain ⟨r, hr, hle⟩ := ih hops hw
      rw [Machine.emitted_concat, Machine.after_concat, List.append_assoc]
      rcases List.mem_append.mp hr with hr | hr
      · exact ⟨r, List.mem_append_left _ hr, hle⟩
      · rw [List.mem_singleton.mp hr] at hle
        obtain ⟨r', hr', hle'⟩ := held_le_step k (machine.after ops) hop
        exact ⟨r', List.mem_append_right _ hr', hle.trans hle'⟩

/-- **The counts stay below a bound exactly when every stretch without a report counts less.** -/
theorem windows_lt_iff (k : κ) (b : Nat) {ops : List (TallyOp κ)}
    (hf : ∀ k, TallyOp.fail k ∉ ops) :
    (∀ r ∈ machine.emitted ops ++ [(machine.after ops).held], r k < b) ↔
      ∀ w, w <:+: ops → TallyOp.report ∉ w → counted k w < b := by
  constructor
  · intro h w hw hwr
    obtain ⟨r, hr, hle⟩ := counted_le_window k hf hw hwr
    exact lt_of_le_of_lt hle (h r hr)
  · intro h r hr
    obtain ⟨⟨w, hw, hwr, hheld⟩, hos⟩ := window_eq k hf
    rcases List.mem_append.mp hr with hr | hr
    · obtain ⟨v, hv, hvr, e⟩ := hos r hr
      rw [e]
      exact h v hv hvr
    · rw [List.mem_singleton.mp hr, hheld]
      exact h w hw.isInfix hwr

end Tally

end Lib
