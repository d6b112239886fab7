/-
  File:      EsbCore/Server/SerialLoop.lean
  Subject:   WHEN THE READ LOOP ENDS (`org.esb.server.serialport.SerialportListener`).

  The loop of `serialEvent` under a schedule without end. Bytes stop arriving at some round; from
  then on a read into a buffer takes something away, unless the buffer has no room at all: that is
  the buffer of an event at which nothing was available when it was allocated.

  * `Terminates` -- the handling of an event is over after finitely many rounds;
  * `loopEnds_of_pos` -- a loop over a buffer with room ends, the unread bytes being its measure;
  * `readLoop_running` -- a loop over a buffer without room goes on as long as nothing throws;
  * `terminates_iff` -- an event ends exactly where it allocates a buffer with room, or where
    nothing has arrived at the first look either, or where an exception ends it.
-/
import EsbCore.Server.SerialportListener

namespace EsbCore.SerialportListener

open Java

/-! ## 1. Schedules without end -/

/-- The first `n` rounds of a schedule. -/
def schedule (rounds : Nat → Round) (n : Nat) : List Round := (List.range n).map rounds

/-- The schedule from its second round on. -/
def later (rounds : Nat → Round) : Nat → Round := fun i => rounds (i + 1)

theorem schedule_succ (rounds : Nat → Round) (n : Nat) :
    schedule rounds (n + 1) = rounds 0 :: schedule (later rounds) n := by
  unfold schedule later
  rw [List.range_succ_eq_map, List.map_cons, List.map_map]
  rfl

/-- No byte arrives in round `N` or after it. -/
def QuietFrom (rounds : Nat → Round) (N : Nat) : Prop :=
  ∀ i, N ≤ i → (rounds i).beforeCheck = 0 ∧ (rounds i).beforeRead = 0

theorem QuietFrom.later {rounds : Nat → Round} {N : Nat} (h : QuietFrom rounds (N + 1)) :
    QuietFrom (later rounds) N :=
  fun i hi => h (i + 1) (Nat.succ_le_succ hi)

/-- The handling of a `DATA_AVAILABLE` event is over after finitely many rounds. -/
def Terminates (src : Nat → JByte) (port : Port) (before : Nat) (throws : Bool)
    (rounds : Nat → Round) : Prop :=
  ∃ n, (serialEvent src port (.dataAvailable before throws (schedule rounds n))).2 ≠ .running

/-- An `IOException` comes out of a call in some round. -/
def SomeThrows (rounds : Nat → Round) : Prop :=
  ∃ i, (rounds i).checkThrows = true ∨ (rounds i).read = none

/-! ## 2. The loop -/

/-- The loop is over after finitely many rounds. -/
def LoopEnds (src : Nat → JByte) (rounds : Nat → Round) (port : Port) (tt : List JByte) : Prop :=
  ∃ n, (readLoop src (schedule rounds n) port tt).2 ≠ .running

section

variable {src : Nat → JByte} {rounds : Nat → Round} {port : Port} {tt : List JByte}

/-- A round that reads leaves the rest to the later rounds. -/
theorem loopEnds_read {asked : Nat} (h : (rounds 0).checkThrows = false ∧
    (checked port (rounds 0)).available ≠ 0 ∧ (rounds 0).read = some asked) :
    LoopEnds src rounds port tt ↔
      LoopEnds src (later rounds) ((ready port (rounds 0)).read tt.length asked)
        (fill tt (bytes src port.consumed
          ((ready port (rounds 0)).read tt.length asked).consumed)) := by
  constructor
  · rintro ⟨n, hn⟩
    cases n with
    | zero => exact absurd rfl hn
    | succ n =>
      rw [schedule_succ, readLoop_read _ _ _ h] at hn
      exact ⟨n, hn⟩
  · rintro ⟨n, hn⟩
    refine ⟨n + 1, ?_⟩
    rw [schedule_succ, readLoop_read _ _ _ h]
    exact hn

/-- **One round**: it ends the loop, or it reads and the later rounds decide. -/
theorem loopEnds_step (src : Nat → JByte) (port : Port) (rounds : Nat → Round)
    (tt : List JByte) :
    LoopEnds src rounds port tt ∨
      ∃ asked, (rounds 0).checkThrows = false ∧ (checked port (rounds 0)).available ≠ 0 ∧
        (rounds 0).read = some asked := by
  rcases round_cases port (rounds 0) with h | h | h | h
  · refine .inl ⟨1, ?_⟩
    rw [schedule_succ, readLoop_checkThrows _ _ _ h]
    nofun
  · refine .inl ⟨1, ?_⟩
    rw [schedule_succ, readLoop_idle _ _ _ h]
    nofun
  · refine .inl ⟨1, ?_⟩
    rw [schedule_succ, readLoop_readThrows _ _ _ h]
    nofun
  · exact .inr h

/-- An exception ends the loop if nothing has ended it before. -/
theorem loopEnds_of_throws (h : SomeThrows rounds) : LoopEnds src rounds port tt := by
  obtain ⟨i, hi⟩ := h
  induction i generalizing rounds port tt with
  | zero =>
    rcases loopEnds_step src port rounds tt with he | ⟨asked, hc, -, hr⟩
    · exact he
    · rw [hc, hr] at hi
      simp at hi
  | succ i ih =>
    rcases loopEnds_step src port rounds tt with he | ⟨asked, hread⟩
    · exact he
    · exact (loopEnds_read hread).mpr (ih hi)

/-- The buffer keeps its length over a read. -/
theorem length_refill (tt : List JByte) (asked : Nat) :
    (fill tt (bytes src port.consumed
      ((ready port (rounds 0)).read tt.length asked).consumed)).length = tt.length :=
  length_fill (length_chunk_le src (ready port (rounds 0)) tt.length asked)

/-- Nothing arrives any more: every read into a buffer with room takes from the unread bytes. -/
theorem loopEnds_of_quiet (hroom : 0 < tt.length) (hq : QuietFrom rounds 0) :
    LoopEnds src rounds port tt := by
  -- on the number of bytes that are unread
  induction hk : port.available using Nat.strong_induction_on generalizing rounds port tt with
  | _ k ih =>
    rcases loopEnds_step src port rounds tt with he | ⟨asked, hread⟩
    · exact he
    · have h0 := hq 0 (le_refl 0)
      have hready : (ready port (rounds 0)).available = port.available := by
        rw [available_ready, h0.1, h0.2]
        rfl
      have hpos : port.available ≠ 0 := by
        have ha := hread.2.1
        rw [available_checked, h0.1] at ha
        omega
      have hless : ((ready port (rounds 0)).read tt.length asked).available < k := by
        have hcount := Port.readCount_of_pos (ne_of_gt hroom) (hready ▸ hpos) asked
        rw [Port.available_read, hready, hcount]
        omega
      refine (loopEnds_read hread).mpr (ih _ hless ?_ (fun i hi => hq (i + 1) (Nat.zero_le _)) rfl)
      rw [length_refill]
      exact hroom

/-- **A loop over a buffer with room ends.** -/
theorem loopEnds_of_pos {N : Nat} (hroom : 0 < tt.length) (hq : QuietFrom rounds N) :
    LoopEnds src rounds port tt := by
  induction N generalizing rounds port tt with
  | zero => exact loopEnds_of_quiet hroom hq
  | succ N ih =>
    rcases loopEnds_step src port rounds tt with he | ⟨asked, hread⟩
    · exact he
    · refine (loopEnds_read hread).mpr (ih ?_ hq.later)
      rw [length_refill]
      exact hroom

/-- Into a buffer without room nothing is read. -/
theorem available_read_zero (port : Port) (asked : Nat) :
    (port.read 0 asked).available = port.available := by
  have hcount : port.readCount 0 asked = 0 := if_pos (.inl rfl)
  rw [Port.available_read, hcount, Nat.sub_zero]

/-- **A loop over a buffer without room goes on** once there is something to read, as long as
    nothing throws. -/
theorem readLoop_running (hnone : ¬ SomeThrows rounds)
    (hsome : (checked port (rounds 0)).available ≠ 0) (n : Nat) :
    (readLoop src (schedule rounds n) port []).2 = .running := by
  induction n generalizing rounds port with
  | zero => rfl
  | succ n ih =>
    have hread : ∃ asked, (rounds 0).checkThrows = false ∧
        (checked port (rounds 0)).available ≠ 0 ∧ (rounds 0).read = some asked := by
      rcases round_cases port (rounds 0) with h | h | h | h
      · exact absurd ⟨0, .inl h⟩ hnone
      · exact absurd h.2 hsome
      · exact absurd ⟨0, .inr h.2.2⟩ hnone
      · exact h
    obtain ⟨asked, hread⟩ := hread
    have hfill : fill ([] : List JByte) (bytes src port.consumed
        ((ready port (rounds 0)).read 0 asked).consumed) = [] :=
      List.eq_nil_of_length_eq_zero (length_refill [] asked)
    rw [schedule_succ, readLoop_read _ _ _ hread, List.length_nil, hfill]
    refine ih (fun ⟨i, hi⟩ => hnone ⟨i + 1, hi⟩) ?_
    rw [available_checked] at hsome ⊢
    rw [available_read_zero, available_ready]
    omega

end

/-! ## 3. An event -/

section

variable {src : Nat → JByte} {port : Port} {before : Nat} {rounds : Nat → Round}

theorem terminates_of_throws : Terminates src port before true rounds := ⟨0, nofun⟩

/-- An event whose first look throws nothing is its loop over the buffer it allocates. -/
theorem terminates_iff_loopEnds : Terminates src port before false rounds ↔
    LoopEnds src rounds (port.arrive before)
      (List.replicate (port.arrive before).available 0) := Iff.rfl

/-- Nothing was available for the buffer and something is at the first look: without an exception
    the event is never over. -/
theorem not_terminates (h0 : (port.arrive before).available = 0)
    (h : (rounds 0).beforeCheck ≠ 0) (hnone : ¬ SomeThrows rounds) :
    ¬ Terminates src port before false rounds := by
  rw [terminates_iff_loopEnds, h0]
  rintro ⟨n, hn⟩
  refine hn (readLoop_running hnone ?_ n)
  rw [available_checked, h0, Nat.zero_add]
  exact h

/-- **Of schedules in which bytes stop arriving, exactly these let an event end**: its first look
    throws or finds something, or the second look finds nothing either, or some call throws. -/
theorem terminates_iff {throws : Bool} {N : Nat} (hq : QuietFrom rounds N) :
    Terminates src port before throws rounds ↔
      throws = true ∨ (port.arrive before).available ≠ 0 ∨ (rounds 0).beforeCheck = 0 ∨
        SomeThrows rounds := by
  cases throws with
  | true => exact iff_of_true terminates_of_throws (.inl rfl)
  | false =>
    constructor
    · intro ht
      by_contra hnot
      simp only [not_or, not_not] at hnot
      obtain ⟨-, h0, hb, hnone⟩ := hnot
      exact not_terminates h0 hb hnone ht
    · rintro (h | h | h | h)
      · cases h
      · refine terminates_iff_loopEnds.mpr (loopEnds_of_pos ?_ hq)
        rw [List.length_replicate]
        omega
      · by_cases h0 : (port.arrive before).available = 0
        · -- the loop is not entered
          rw [terminates_iff_loopEnds]
          rcases loopEnds_step src (port.arrive before) rounds
            (List.replicate (port.arrive before).available 0) with he | ⟨asked, -, ha, -⟩
          · exact he
          · rw [available_checked, h0, h] at ha
            exact absurd rfl ha
        · refine terminates_iff_loopEnds.mpr (loopEnds_of_pos ?_ hq)
          rw [List.length_replicate]
          omega
      · exact terminates_iff_loopEnds.mpr (loopEnds_of_throws h)

end

/-- Three bytes are there for the buffer; they are read two at a time, and one more arrives in the
    second round. -/
theorem terminates_three_bytes :
    Terminates (fun _ => 0x41) ⟨0, 0, le_refl 0⟩ 3 false
      fun i => ⟨if i = 1 then 1 else 0, false, 0, some 2⟩ := by
  have hq : QuietFrom (fun i => ⟨if i = 1 then 1 else 0, false, 0, some 2⟩) 2 := by
    intro i hi
    exact ⟨if_neg (by omega), rfl⟩
  exact (terminates_iff hq).mpr (.inr (.inl (by decide)))

/-- A single byte arrives between the allocation and the first look. -/
theorem not_terminates_late_byte :
    QuietFrom (fun i => ⟨if i = 0 then 1 else 0, false, 0, some 1⟩) 1 ∧
      ¬ Terminates (fun _ => 0x41) ⟨0, 0, le_refl 0⟩ 0 false
        fun i => ⟨if i = 0 then 1 else 0, false, 0, some 1⟩ := by
  refine ⟨fun i hi => ⟨if_neg (by omega), rfl⟩, not_terminates rfl (by decide) ?_⟩
  rintro ⟨i, h | h⟩ <;> cases h

end EsbCore.SerialportListener
