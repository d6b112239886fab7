/-
  File:      EsbCore/Server/SerialportListener.lean
  Subject:   RECEIVING FROM A SERIAL PORT (`org.esb.server.serialport.SerialportListener`,
             `org.esb.server.serialport.SerialportServer`).

  For a `DATA_AVAILABLE` event the listener allocates a buffer of the size then available, reads
  into it as long as anything is available -- always from its start on -- and hands it over once.
  Bytes arrive at any moment in between, and a read may return fewer than it could.

  * `Port` -- how many bytes have arrived and how many were consumed; never more than arrived;
  * `readLoop`, `serialEvent` -- the handling of an event under a schedule of arrivals and reads;
  * `Timely` -- what keeps an event lossless: one read that fills the buffer, and nothing arrives
    until the loop has looked again;
  * `lossless_iff` -- a run loses, repeats and pads nothing, whatever the bytes, exactly when
    every event in it is timely.
-/
import EsbCore.Java.Lang
import EsbCore.Lib.Machine

namespace EsbCore

open Java Lib

/-! ## 1. The port -/

/-- An input stream, by counts: its bytes are numbered in the order they arrive. -/
structure Port where
  arrived : Nat
  consumed : Nat
  le : consumed ≤ arrived

namespace Port

/-- `available()`. -/
def available (p : Port) : Nat := p.arrived - p.consumed

/-- `n` bytes more arrive. -/
def arrive (p : Port) (n : Nat) : Port := ⟨p.arrived + n, p.consumed, Nat.le_add_right_of_le p.le⟩

@[simp] theorem available_arrive (p : Port) (n : Nat) :
    (p.arrive n).available = p.available + n := Nat.sub_add_comm p.le

/-- How many bytes a read into a buffer of `len` returns: as many as asked for, but at least one
    and no more than the buffer takes and the port has. -/
def readCount (p : Port) (len asked : Nat) : Nat :=
  if len = 0 ∨ p.available = 0 then 0 else max 1 (min asked (min len p.available))

theorem readCount_of_pos {p : Port} {len : Nat} (hl : len ≠ 0) (ha : p.available ≠ 0)
    (asked : Nat) : p.readCount len asked = max 1 (min asked (min len p.available)) :=
  if_neg fun h => h.elim hl ha

theorem readCount_le (p : Port) (len asked : Nat) :
    p.readCount len asked ≤ p.available ∧ p.readCount len asked ≤ len := by
  unfold readCount
  split <;> omega

/-- The port after a read. -/
def read (p : Port) (len asked : Nat) : Port where
  arrived := p.arrived
  consumed := p.consumed + p.readCount len asked
  le := by
    have h := (p.readCount_le len asked).1
    have hle := p.le
    unfold available at h
    omega

@[simp] theorem available_read (p : Port) (len asked : Nat) :
    (p.read len asked).available = p.available - p.readCount len asked :=
  Nat.sub_add_eq _ _ _

end Port

/-- The bytes of the stream from the `a`-th up to the `b`-th. -/
def bytes (src : Nat → JByte) (a b : Nat) : List JByte := (List.range' a (b - a)).map src

/-! ## 2. The listener -/

/-- One round of the loop: what arrives before its `available()` and before its `read`, whether
    `available()` throws an `IOException`, and how many bytes are asked of the `read`, `none` when
    it throws one. -/
structure Round where
  beforeCheck : Nat
  checkThrows : Bool
  beforeRead : Nat
  read : Option Nat
  deriving DecidableEq, Repr

/-- What happens at a port: bytes arrive while no event is handled, a `DATA_AVAILABLE` event is
    handled under a schedule, or an event of another type is. -/
inductive SerialEvent where
  | arrive (n : Nat)
  | dataAvailable (before : Nat) (throws : Bool) (rounds : List Round)
  | other
  deriving DecidableEq, Repr

/-- How far the handling of an event got. -/
inductive Handling where
  | received (data : List JByte)
  | ended
  | running
  deriving DecidableEq, Repr

/-- `inputStream.read(tt)`: the chunk goes to the start of the buffer. -/
def fill (tt chunk : List JByte) : List JByte := chunk ++ tt.drop chunk.length

namespace SerialportListener

section

variable (src : Nat → JByte)

/-- The loop of `serialEvent`, and `receive` after it. -/
def readLoop : List Round → Port → List JByte → Port × Handling
  | [], port, _ => (port, .running)
  | r :: rs, port, tt =>
    let checked := port.arrive r.beforeCheck
    if r.checkThrows then (checked, .ended)
    else if checked.available = 0 then (checked, .received tt)
    else
      let ready := checked.arrive r.beforeRead
      match r.read with
      | none => (ready, .ended)
      | some asked =>
        let next := ready.read tt.length asked
        readLoop rs next (fill tt (bytes src ready.consumed next.consumed))

/-- `serialEvent`. -/
def serialEvent (port : Port) : SerialEvent → Port × Handling
  | .arrive n => (port.arrive n, .ended)
  | .dataAvailable before throws rounds =>
    let first := port.arrive before
    if throws then (first, .ended)
    else readLoop src rounds first (List.replicate first.available 0)
  | .other => (port, .ended)

/-- The arrays handed over: `receive` of the server's listener is the server's `receive`. -/
def receive : Handling → List (List JByte)
  | .received data => [data]
  | .ended => []
  | .running => []

/-- A listener at its port. -/
def machine : Machine Port SerialEvent (List JByte) where
  start := (⟨0, 0, le_refl 0⟩, [])
  step port e := ((serialEvent src port e).1, receive (serialEvent src port e).2)

end

/-! ## 3. Bytes and buffers -/

@[simp] theorem length_bytes (src : Nat → JByte) (a b : Nat) :
    (bytes src a b).length = b - a := by
  unfold bytes
  rw [List.length_map, List.length_range']

@[simp] theorem bytes_self (src : Nat → JByte) (a : Nat) : bytes src a a = [] :=
  List.eq_nil_of_length_eq_zero (by simp)

theorem nil_ne_bytes (src : Nat → JByte) {a b : Nat} (h : a < b) : [] ≠ bytes src a b := by
  intro hnil
  have hlen := congrArg List.length hnil
  rw [length_bytes, List.length_nil] at hlen
  omega

theorem bytes_append (src : Nat → JByte) {a b c : Nat} (hab : a ≤ b) (hbc : b ≤ c) :
    bytes src a b ++ bytes src b c = bytes src a c := by
  obtain ⟨m, rfl⟩ := Nat.exists_eq_add_of_le hab
  obtain ⟨n, rfl⟩ := Nat.exists_eq_add_of_le hbc
  unfold bytes
  rw [← List.map_append, Nat.add_sub_cancel_left, Nat.add_sub_cancel_left, List.range'_append_1,
    Nat.add_assoc, Nat.add_sub_cancel_left]

/-- A read returns no more than the buffer takes. -/
theorem length_chunk_le (src : Nat → JByte) (port : Port) (len asked : Nat) :
    (bytes src port.consumed (port.read len asked).consumed).length ≤ len := by
  rw [length_bytes]
  show port.consumed + port.readCount len asked - port.consumed ≤ len
  have h := (port.readCount_le len asked).2
  omega

theorem length_fill {tt chunk : List JByte} (h : chunk.length ≤ tt.length) :
    (fill tt chunk).length = tt.length := by
  unfold fill
  rw [List.length_append, List.length_drop]
  omega

theorem consumed_le_read (port : Port) (len asked : Nat) :
    port.consumed ≤ (port.read len asked).consumed := Nat.le_add_right _ _

/-- A read of something into something consumes something. -/
theorem consumed_lt_read (port : Port) {len : Nat} (hl : 0 < len) (ha : 0 < port.available)
    (asked : Nat) : port.consumed < (port.read len asked).consumed := by
  show port.consumed < port.consumed + port.readCount len asked
  rw [Port.readCount_of_pos (ne_of_gt hl) (ne_of_gt ha)]
  omega

/-! ## 4. One round -/

/-- The port when a round looks what is available. -/
def checked (port : Port) (r : Round) : Port := port.arrive r.beforeCheck

/-- The port when a round reads. -/
def ready (port : Port) (r : Round) : Port := (checked port r).arrive r.beforeRead

theorem available_checked (port : Port) (r : Round) :
    (checked port r).available = port.available + r.beforeCheck := port.available_arrive _

theorem available_ready (port : Port) (r : Round) :
    (ready port r).available = port.available + r.beforeCheck + r.beforeRead := by
  unfold ready
  rw [Port.available_arrive, available_checked]

/-- What a round comes to: an exception on looking, nothing available, an exception on reading, or
    a read. -/
theorem round_cases (port : Port) (r : Round) :
    r.checkThrows = true ∨ (r.checkThrows = false ∧ (checked port r).available = 0) ∨
      (r.checkThrows = false ∧ (checked port r).available ≠ 0 ∧ r.read = none) ∨
      ∃ asked, r.checkThrows = false ∧ (checked port r).available ≠ 0 ∧ r.read = some asked := by
  cases hc : r.checkThrows with
  | true => exact .inl rfl
  | false =>
    by_cases ha : (checked port r).available = 0
    · exact .inr (.inl ⟨rfl, ha⟩)
    · cases hr : r.read with
      | none => exact .inr (.inr (.inl ⟨rfl, ha, rfl⟩))
      | some asked => exact .inr (.inr (.inr ⟨asked, rfl, ha, rfl⟩))

section

variable (src : Nat → JByte) {port : Port} {r : Round} (rs : List Round) (tt : List JByte)

theorem readLoop_checkThrows (h : r.checkThrows = true) :
    readLoop src (r :: rs) port tt = (checked port r, .ended) := by
  unfold readLoop
  rw [if_pos h]
  rfl

theorem readLoop_idle (h : r.checkThrows = false ∧ (checked port r).available = 0) :
    readLoop src (r :: rs) port tt = (checked port r, .received tt) := by
  unfold readLoop
  rw [if_neg (by rw [h.1]; decide)]
  exact if_pos h.2

theorem readLoop_readThrows
    (h : r.checkThrows = false ∧ (checked port r).available ≠ 0 ∧ r.read = none) :
    readLoop src (r :: rs) port tt = (ready port r, .ended) := by
  unfold readLoop
  rw [if_neg (by rw [h.1]; decide), h.2.2]
  exact if_neg h.2.1

theorem readLoop_read {asked : Nat}
    (h : r.checkThrows = false ∧ (checked port r).available ≠ 0 ∧ r.read = some asked) :
    readLoop src (r :: rs) port tt = readLoop src rs ((ready port r).read tt.length asked)
      (fill tt (bytes src port.consumed ((ready port r).read tt.length asked).consumed)) := by
  conv_lhs => unfold readLoop
  rw [if_neg (by rw [h.1]; decide), h.2.2]
  exact if_neg h.2.1

end

/-! ## 5. Timing -/

/-- The loop takes the port to the same place, and gets as far, whatever the bytes are. -/
theorem readLoop_src (src src' : Nat → JByte) (rs : List Round) (port : Port)
    {tt tt' : List JByte} (h : tt.length = tt'.length) :
    (readLoop src rs port tt).1 = (readLoop src' rs port tt').1 ∧
      ((readLoop src rs port tt).2 = .running ↔ (readLoop src' rs port tt').2 = .running) := by
  induction rs generalizing port tt tt' with
  | nil => exact ⟨rfl, Iff.rfl⟩
  | cons r rs ih =>
    rcases round_cases port r with hr | hr | hr | ⟨asked, hr⟩
    · rw [readLoop_checkThrows _ _ _ hr, readLoop_checkThrows _ _ _ hr]
      exact ⟨rfl, Iff.rfl⟩
    · rw [readLoop_idle _ _ _ hr, readLoop_idle _ _ _ hr]
      exact ⟨rfl, by simp⟩
    · rw [readLoop_readThrows _ _ _ hr, readLoop_readThrows _ _ _ hr]
      exact ⟨rfl, Iff.rfl⟩
    · rw [readLoop_read _ _ _ hr, readLoop_read _ _ _ hr, h]
      refine ih _ ?_
      rw [length_fill, length_fill, h]
      · exact length_chunk_le src' (ready port r) _ _
      · rw [h]
        exact length_chunk_le src (ready port r) _ _

theorem serialEvent_src (src src' : Nat → JByte) (port : Port) (e : SerialEvent) :
    (serialEvent src port e).1 = (serialEvent src' port e).1 ∧
      ((serialEvent src port e).2 = .running ↔ (serialEvent src' port e).2 = .running) := by
  cases e with
  | arrive n => exact ⟨rfl, Iff.rfl⟩
  | other => exact ⟨rfl, Iff.rfl⟩
  | dataAvailable before throws rounds =>
    cases throws with
    | true => exact ⟨rfl, Iff.rfl⟩
    | false => exact readLoop_src src src' rounds _ rfl

/-- Where the port stands after a run. -/
def portAfter (es : List SerialEvent) : Port := (machine fun _ => 0).after es

theorem after_eq (src : Nat → JByte) (es : List SerialEvent) :
    (machine src).after es = portAfter es := by
  unfold portAfter
  induction es using List.reverseRecOn with
  | nil => rfl
  | append_singleton es e ih =>
    rw [Machine.after_concat, Machine.after_concat, ih]
    exact (serialEvent_src src _ _ e).1

/-- The loop gives nothing back. -/
theorem consumed_le_readLoop (src : Nat → JByte) (rs : List Round) (port : Port)
    (tt : List JByte) : port.consumed ≤ (readLoop src rs port tt).1.consumed := by
  induction rs generalizing port tt with
  | nil => exact le_refl _
  | cons r rs ih =>
    rcases round_cases port r with hr | hr | hr | ⟨asked, hr⟩
    · rw [readLoop_checkThrows _ _ _ hr]
      exact le_refl _
    · rw [readLoop_idle _ _ _ hr]
      exact le_refl _
    · rw [readLoop_readThrows _ _ _ hr]
      exact le_refl _
    · rw [readLoop_read _ _ _ hr]
      exact (consumed_le_read (ready port r) _ asked).trans (ih _ _)

theorem consumed_le_serialEvent (src : Nat → JByte) (port : Port) (e : SerialEvent) :
    port.consumed ≤ (serialEvent src port e).1.consumed := by
  cases e with
  | arrive n => exact le_refl _
  | other => exact le_refl _
  | dataAvailable before throws rounds =>
    cases throws with
    | true => exact le_refl _
    | false => exact consumed_le_readLoop src rounds (port.arrive before) _

/-! ## 6. Losing nothing -/

/-- The handling of every event of the run is over. -/
def Completed (es : List SerialEvent) : Prop :=
  ∀ p e, p ++ [e] <+: es → (serialEvent (fun _ => 0) (portAfter p) e).2 ≠ .running

/-- What was handed over by the end of a run is what was consumed, whatever the bytes are. -/
def Lossless (es : List SerialEvent) : Prop :=
  ∀ src, ((machine src).emitted es).flatten = bytes src 0 (portAfter es).consumed

/-- The same of one event. -/
def EventLossless (port : Port) (e : SerialEvent) : Prop :=
  ∀ src, (receive (serialEvent src port e).2).flatten =
    bytes src port.consumed (serialEvent src port e).1.consumed

/-- A run stays lossless over one event exactly when the event is. -/
theorem lossless_concat_iff {es : List SerialEvent} (h : Lossless es) (e : SerialEvent) :
    Lossless (es ++ [e]) ↔ EventLossless (portAfter es) e := by
  refine forall_congr' fun src => ?_
  have hport : (portAfter (es ++ [e])).consumed =
      (serialEvent src (portAfter es) e).1.consumed := by
    rw [← after_eq src, Machine.after_concat, after_eq]
    rfl
  rw [Machine.emitted_concat, after_eq, List.flatten_append, h src, hport,
    ← bytes_append src (Nat.zero_le _) (consumed_le_serialEvent src (portAfter es) e)]
  exact List.append_right_inj _

/-! ## 7. Timely events -/

/-- The rounds of a loop over a buffer of `n` bytes, `n` not zero: an exception comes before
    anything is read, or the first read fills the buffer and nothing arrives from the allocation to
    the next `available()`, which ends the loop. -/
def Prompt (n : Nat) : List Round → Prop
  | [] => False
  | r :: rs => r.checkThrows = true ∨
    match r.read, rs with
    | none, _ => True
    | some _, [] => False
    | some asked, r' :: _ => n ≤ max 1 asked ∧ r.beforeCheck = 0 ∧ r.beforeRead = 0 ∧
        r'.checkThrows = false ∧ r'.beforeCheck = 0

/-- The event loses nothing: it reads nothing at all into a buffer, or its rounds are prompt. -/
def Timely (port : Port) : SerialEvent → Prop
  | .arrive _ => True
  | .other => True
  | .dataAvailable before throws rounds => throws = true ∨ (port.arrive before).available = 0 ∨
      Prompt (port.arrive before).available rounds

/-- Into a buffer of no bytes nothing is read. -/
theorem readLoop_nil (src : Nat → JByte) (rs : List Round) (port : Port) :
    (readLoop src rs port []).1.consumed = port.consumed ∧
      (receive (readLoop src rs port []).2).flatten = [] := by
  induction rs generalizing port with
  | nil => exact ⟨rfl, rfl⟩
  | cons r rs ih =>
    rcases round_cases port r with hr | hr | hr | ⟨asked, hr⟩
    · rw [readLoop_checkThrows _ _ _ hr]
      exact ⟨rfl, rfl⟩
    · rw [readLoop_idle _ _ _ hr]
      exact ⟨rfl, rfl⟩
    · rw [readLoop_readThrows _ _ _ hr]
      exact ⟨rfl, rfl⟩
    · have hread : ((ready port r).read 0 asked).consumed = port.consumed := by
        show port.consumed + Port.readCount _ 0 asked = port.consumed
        unfold Port.readCount
        rw [if_pos (.inl rfl), Nat.add_zero]
      obtain ⟨h1, h2⟩ := ih ((ready port r).read 0 asked)
      rw [readLoop_read _ _ _ hr, List.length_nil, hread, bytes_self]
      exact ⟨h1.trans hread, h2⟩

/-- A chunk as long as the buffer is the buffer. -/
theorem fill_of_length {tt chunk : List JByte} (h : chunk.length = tt.length) :
    fill tt chunk = chunk := by
  unfold fill
  rw [h, List.drop_length, List.append_nil]

/-- A read of all there is, with nothing arriving before it, leaves nothing. -/
theorem read_available {port : Port} {r : Round} {asked : Nat} (hn : port.available ≠ 0)
    (hb : r.beforeCheck = 0) (hbr : r.beforeRead = 0) (hasked : port.available ≤ max 1 asked) :
    ((ready port r).read port.available asked).consumed = port.consumed + port.available ∧
      ((ready port r).read port.available asked).available = 0 := by
  have hready : (ready port r).available = port.available := by
    rw [available_ready, hb, hbr]
    rfl
  have hcount : (ready port r).readCount port.available asked = port.available := by
    rw [Port.readCount_of_pos hn (hready ▸ hn), hready]
    omega
  refine ⟨congrArg (port.consumed + ·) hcount, ?_⟩
  rw [Port.available_read, hcount, hready, Nat.sub_self]

/-- **A prompt loop hands over what it consumed.** -/
theorem readLoop_prompt (src : Nat → JByte) {rs : List Round} {port : Port}
    (h : Prompt port.available rs) (hn : port.available ≠ 0) :
    (receive (readLoop src rs port (List.replicate port.available 0)).2).flatten =
      bytes src port.consumed
        (readLoop src rs port (List.replicate port.available 0)).1.consumed := by
  cases rs with
  | nil => exact h.elim
  | cons r rs =>
    rcases round_cases port r with hr | hr | hr | ⟨asked, hr⟩
    · rw [readLoop_checkThrows _ _ _ hr]
      exact (bytes_self src port.consumed).symm
    · have hidle := hr.2
      rw [available_checked] at hidle
      omega
    · rw [readLoop_readThrows _ _ _ hr]
      exact (bytes_self src port.consumed).symm
    · rcases h with h | h
      · rw [hr.1] at h
        cases h
      · rw [hr.2.2] at h
        cases rs with
        | nil => exact h.elim
        | cons r' rs =>
          obtain ⟨hasked, hb, hbr, hc', hb'⟩ := h
          obtain ⟨hnext, hleft⟩ := read_available hn hb hbr hasked
          have hidle : (checked ((ready port r).read port.available asked) r').available = 0 := by
            rw [available_checked, hleft, hb']
          have hchunk : fill (List.replicate port.available 0)
              (bytes src port.consumed (port.consumed + port.available)) =
              bytes src port.consumed (port.consumed + port.available) := by
            refine fill_of_length ?_
            rw [length_bytes, List.length_replicate, Nat.add_sub_cancel_left]
          rw [readLoop_read _ _ _ hr, List.length_replicate, hnext, hchunk,
            readLoop_idle _ _ _ ⟨hc', hidle⟩]
          show [_].flatten = bytes src port.consumed
            ((ready port r).read port.available asked).consumed
          rw [hnext, List.flatten_singleton]

/-- The bytes that are not zero. -/
def nonzero (tt : List JByte) : Nat := tt.countP (· ≠ 0)

@[simp] theorem nonzero_bytes_one (a b : Nat) : nonzero (bytes (fun _ => 1) a b) = b - a := by
  unfold nonzero
  rw [List.countP_eq_length.mpr, length_bytes]
  intro x hx
  obtain ⟨i, -, rfl⟩ := List.mem_map.mp hx
  decide

theorem nonzero_fill_le (tt chunk : List JByte) :
    nonzero (fill tt chunk) ≤ chunk.length + nonzero tt := by
  unfold nonzero fill
  rw [List.countP_append]
  exact Nat.add_le_add List.countP_le_length (List.drop_sublist _ _).countP_le

/-- A chunk that overwrites a byte that is not zero adds less than its length. -/
theorem nonzero_fill_lt {x : JByte} (hx : x ≠ 0) (tt : List JByte) {chunk : List JByte}
    (hc : 0 < chunk.length) :
    nonzero (fill (x :: tt) chunk) < chunk.length + nonzero (x :: tt) := by
  obtain ⟨k, hk⟩ := Nat.exists_eq_add_one.mpr hc
  have hdrop : nonzero ((x :: tt).drop chunk.length) ≤ nonzero tt := by
    rw [hk, List.drop_succ_cons]
    exact (List.drop_sublist k tt).countP_le
  have hcons : nonzero (x :: tt) = nonzero tt + 1 := by
    unfold nonzero
    rw [List.countP_cons_of_pos (by simpa using hx)]
  have hchunk : nonzero chunk ≤ chunk.length := List.countP_le_length
  have hfill : nonzero (fill (x :: tt) chunk) =
      nonzero chunk + nonzero ((x :: tt).drop chunk.length) := List.countP_append
  omega

/-- **A loop with fewer bytes in its buffer than it consumed never makes up for it.** -/
theorem readLoop_lossy {rs : List Round} {port : Port} {tt : List JByte} {a : Nat}
    (hnz : nonzero tt < port.consumed - a)
    (hrun : (readLoop (fun _ => 1) rs port tt).2 ≠ .running) :
    (receive (readLoop (fun _ => 1) rs port tt).2).flatten ≠
      bytes (fun _ => 1) a (readLoop (fun _ => 1) rs port tt).1.consumed := by
  have hnil : [] ≠ bytes (fun _ => 1) a port.consumed := nil_ne_bytes _ (by omega)
  induction rs generalizing port tt with
  | nil => exact absurd rfl hrun
  | cons r rs ih =>
    rcases round_cases port r with hr | hr | hr | ⟨asked, hr⟩
    · rw [readLoop_checkThrows _ _ _ hr]
      exact hnil
    · rw [readLoop_idle _ _ _ hr]
      intro h
      have h' : nonzero tt = port.consumed - a := by
        rw [← nonzero_bytes_one, ← List.flatten_singleton (l := tt)]
        exact congrArg nonzero h
      omega
    · rw [readLoop_readThrows _ _ _ hr]
      exact hnil
    · rw [readLoop_read _ _ _ hr] at hrun ⊢
      have hle : port.consumed ≤ ((ready port r).read tt.length asked).consumed :=
        consumed_le_read (ready port r) _ asked
      have hfill := nonzero_fill_le tt
        (bytes (fun _ => 1) port.consumed ((ready port r).read tt.length asked).consumed)
      rw [length_bytes] at hfill
      exact ih (by omega) hrun (nil_ne_bytes _ (by omega))

/-- A first chunk of a buffer, of bytes that are not zero. -/
theorem fill_one (n a : Nat) {b : Nat} (h : a < b) :
    ∃ tt, fill (List.replicate n 0) (bytes (fun _ => 1) a b) = 1 :: tt ∧
      nonzero (1 :: tt) = b - a := by
  have hnz : nonzero (fill (List.replicate n 0) (bytes (fun _ => 1) a b)) = b - a := by
    have hz : nonzero ((List.replicate n 0).drop (bytes (fun _ => 1) a b).length) = 0 := by
      unfold nonzero
      rw [List.drop_replicate, List.countP_eq_zero]
      intro x hx
      rw [List.eq_of_mem_replicate hx]
      decide
    show nonzero (_ ++ _) = _
    unfold nonzero at hz ⊢
    rw [List.countP_append, hz]
    exact nonzero_bytes_one a b
  obtain ⟨k, hk⟩ := Nat.exists_eq_add_of_lt h
  have hcons : bytes (fun _ => 1) a b = 1 :: bytes (fun _ => 1) (a + 1) b := by
    unfold bytes
    rw [hk, show a + k + 1 - a = k + 1 by omega, List.range'_succ, List.map_cons,
      show a + k + 1 - (a + 1) = k by omega]
  have heq : fill (List.replicate n 0) (bytes (fun _ => 1) a b) =
      1 :: (bytes (fun _ => 1) (a + 1) b ++ (List.replicate n 0).drop (b - a)) := by
    unfold fill
    rw [length_bytes, hcons]
    rfl
  exact ⟨_, heq, by rw [← heq, hnz]⟩

/-- After a read, a loop that loses nothing looks once more, finds nothing, and has a full
    buffer. -/
theorem idle_of_readLoop {rs : List Round} {port : Port} {tt : List JByte} {a : Nat}
    (ha : a < port.consumed) (hnz : nonzero (1 :: tt) = port.consumed - a)
    (hrun : (readLoop (fun _ => 1) rs port (1 :: tt)).2 ≠ .running)
    (h : (receive (readLoop (fun _ => 1) rs port (1 :: tt)).2).flatten =
      bytes (fun _ => 1) a (readLoop (fun _ => 1) rs port (1 :: tt)).1.consumed) :
    ∃ r rs', rs = r :: rs' ∧ r.checkThrows = false ∧ port.available + r.beforeCheck = 0 ∧
      (1 :: tt).length = port.consumed - a := by
  have hnil : [] ≠ bytes (fun _ => 1) a port.consumed := nil_ne_bytes _ ha
  cases rs with
  | nil => exact absurd rfl hrun
  | cons r rs =>
    rcases round_cases port r with hr | hr | hr | ⟨asked, hr⟩
    · rw [readLoop_checkThrows _ _ _ hr] at h
      exact absurd h hnil
    · rw [readLoop_idle _ _ _ hr] at h
      have hl := congrArg List.length h
      rw [length_bytes] at hl
      change (List.flatten [1 :: tt]).length = port.consumed - a at hl
      rw [List.flatten_singleton] at hl
      have hidle := hr.2
      rw [available_checked] at hidle
      exact ⟨r, rs, rfl, hr.1, hidle, hl⟩
    · rw [readLoop_readThrows _ _ _ hr] at h
      exact absurd h hnil
    · -- the second read overwrites the first byte of the first
      rw [readLoop_read _ _ _ hr] at h hrun
      have hpos : 0 < (ready port r).available := by
        have hc := hr.2.1
        rw [available_checked] at hc
        rw [available_ready]
        omega
      have hlt : port.consumed < ((ready port r).read (1 :: tt).length asked).consumed :=
        consumed_lt_read (ready port r) (Nat.succ_pos _) hpos asked
      have hchunk : 0 < (bytes (fun _ => 1) port.consumed
          ((ready port r).read (1 :: tt).length asked).consumed).length := by
        rw [length_bytes]
        omega
      have hfill := nonzero_fill_lt (x := 1) (by decide) tt hchunk
      rw [length_bytes, hnz] at hfill
      exact absurd h (readLoop_lossy (by omega) hrun)

/-- **A loop that hands over what it consumed, of bytes that are not zero, is prompt.** -/
theorem prompt_of_readLoop {rs : List Round} {port : Port} (hn : port.available ≠ 0)
    (hrun : (readLoop (fun _ => 1) rs port (List.replicate port.available 0)).2 ≠ .running)
    (h : (receive (readLoop (fun _ => 1) rs port (List.replicate port.available 0)).2).flatten =
      bytes (fun _ => 1) port.consumed
        (readLoop (fun _ => 1) rs port (List.replicate port.available 0)).1.consumed) :
    Prompt port.available rs := by
  cases rs with
  | nil => exact absurd rfl hrun
  | cons r rs =>
    rcases round_cases port r with hr | hr | hr | ⟨asked, hr⟩
    · exact .inl hr
    · have hidle := hr.2
      rw [available_checked] at hidle
      omega
    · refine .inr ?_
      rw [hr.2.2]
      trivial
    · refine .inr ?_
      have hready : (ready port r).available = port.available + r.beforeCheck + r.beforeRead :=
        available_ready port r
      have hcount : (ready port r).readCount port.available asked =
          max 1 (min asked (min port.available (ready port r).available)) :=
        Port.readCount_of_pos hn (by omega) asked
      have hconsumed : ((ready port r).read port.available asked).consumed =
          port.consumed + (ready port r).readCount port.available asked := rfl
      have hnext : ((ready port r).read port.available asked).available =
          (ready port r).available - (ready port r).readCount port.available asked :=
        Port.available_read _ _ _
      have hlen : (fill (List.replicate port.available 0) (bytes (fun _ => 1) port.consumed
          ((ready port r).read port.available asked).consumed)).length = port.available := by
        rw [length_fill, List.length_replicate]
        rw [List.length_replicate]
        exact length_chunk_le _ (ready port r) _ _
      have hlt : port.consumed < ((ready port r).read port.available asked).consumed := by omega
      obtain ⟨tt, htt, hnz⟩ := fill_one port.available port.consumed hlt
      rw [readLoop_read _ _ _ hr, List.length_replicate, htt] at h hrun
      rw [htt] at hlen
      obtain ⟨r', rs', rfl, hthrows, hidle, hfull⟩ := idle_of_readLoop hlt hnz hrun h
      rw [hr.2.2]
      exact ⟨by omega, by omega, by omega, hthrows, by omega⟩

/-- **An event loses nothing, whatever the bytes are, exactly when it is timely.** -/
theorem eventLossless_iff {port : Port} {e : SerialEvent}
    (hrun : (serialEvent (fun _ => 0) port e).2 ≠ .running) :
    EventLossless port e ↔ Timely port e := by
  cases e with
  | arrive n => exact ⟨fun _ => trivial, fun _ src => (bytes_self src port.consumed).symm⟩
  | other => exact ⟨fun _ => trivial, fun _ src => (bytes_self src port.consumed).symm⟩
  | dataAvailable before throws rounds =>
    cases throws with
    | true => exact ⟨fun _ => .inl rfl, fun _ src => (bytes_self src port.consumed).symm⟩
    | false =>
      by_cases hn : (port.arrive before).available = 0
      · refine ⟨fun _ => .inr (.inl hn), fun _ src => ?_⟩
        obtain ⟨h1, h2⟩ := readLoop_nil src rounds (port.arrive before)
        show (receive (readLoop src rounds (port.arrive before)
          (List.replicate (port.arrive before).available 0)).2).flatten = bytes src port.consumed
            (readLoop src rounds (port.arrive before)
              (List.replicate (port.arrive before).available 0)).1.consumed
        rw [hn, List.replicate_zero, h1, h2]
        exact (bytes_self src port.consumed).symm
      · constructor
        · intro h
          refine .inr (.inr (prompt_of_readLoop hn ?_ (h fun _ => 1)))
          exact mt (serialEvent_src (fun _ => 1) (fun _ => 0) port
            (.dataAvailable before false rounds)).2.mp hrun
        · intro h src
          rcases h with h | h | h
          · cases h
          · exact absurd h hn
          · exact readLoop_prompt src h hn

/-- **A run hands over exactly the bytes it consumed, at every moment and whatever they are, if and
    only if every event in it is timely.** -/
theorem lossless_iff (es : List SerialEvent) (hc : Completed es) :
    (∀ p, p <+: es → Lossless p) ↔ ∀ p e, p ++ [e] <+: es → Timely (portAfter p) e := by
  have h0 : Lossless [] := fun src => (bytes_self src 0).symm
  rw [forall_prefix_iff_steps h0 (fun p e h => lossless_concat_iff h e) es]
  exact forall₂_congr fun p e => forall_congr' fun hp => eventLossless_iff (hc p e hp)

/-- Two bytes before the event and one in it, read at once. -/
theorem lossless_burst :
    Lossless [.arrive 2,
      .dataAvailable 1 false [⟨0, false, 0, some 3⟩, ⟨0, false, 0, none⟩]] := by
  refine (lossless_iff _ ?_).mpr ?_ _ List.prefix_rfl
  · refine (forall_steps_concat_iff [SerialEvent.arrive 2] _).mpr ⟨?_, by decide⟩
    exact (forall_steps_concat_iff [] _).mpr ⟨forall_steps_nil, by decide⟩
  · refine (forall_steps_concat_iff [SerialEvent.arrive 2] _).mpr ⟨?_,
      Or.inr (.inr (.inr ⟨by decide, rfl, rfl, rfl, rfl⟩))⟩
    exact (forall_steps_concat_iff [] _).mpr ⟨forall_steps_nil, trivial⟩

/-- A second byte that arrives after the first was read overwrites it. -/
theorem not_lossless_straggler :
    Completed [.dataAvailable 1 false
        [⟨0, false, 0, some 1⟩, ⟨1, false, 0, some 1⟩, ⟨0, false, 0, none⟩]] ∧
      ¬ Lossless [.dataAvailable 1 false
        [⟨0, false, 0, some 1⟩, ⟨1, false, 0, some 1⟩, ⟨0, false, 0, none⟩]] := by
  constructor
  · exact (forall_steps_concat_iff [] _).mpr ⟨forall_steps_nil, by decide⟩
  · intro h
    have hbytes := h fun i => BitVec.ofNat 8 i
    revert hbytes
    decide

end SerialportListener

end EsbCore
