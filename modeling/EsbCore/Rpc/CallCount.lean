/-
  File:      EsbCore/Rpc/CallCount.lean
  Subject:   WHAT BECOMES OF THE CALL COUNTS of a provider reference.

  The counter is a field of the instance, and an instance that throws is replaced: the counts it
  holds, the failed call's own among them, go with it unreported.

  * `tallyOp`, `follows` -- the reference is a tally (`Lib.Tally`) seen through 64 bits: a call
    that is answered counts, one that is not counts and fails, `CallCount` reports;
  * `conserved_iff` -- the balance holds exactly when every call is answered and no stretch
    without a report overflows a counter.
-/
import EsbCore.Lib.Ledger
import EsbCore.Rpc.RpcProviderActor

namespace EsbCore

open Java Lib

namespace RpcProviderActor

/-! ## 1. The balance -/

/-- The counts in a report to the monitor. -/
def countData : RpcOutput → Option (AtomicLongMap String)
  | .tellMonitor (.providerBeCalledCount _ data) => some data
  | _ => none

/-- How many calls of `m` there are among the messages. -/
def callsOf (m : String) (ds : List Delivery) : Nat :=
  ds.countP fun d => d.message.call.map CallMethod.methodName = some m

/-- The calls of `m` so far are those reported and those still held. -/
def Conserved (provider : ProviderBean) (ds : List Delivery) (m : String) : Prop :=
  (callsOf m ds : Int) =
    ((((machine provider).emitted ds).filterMap countData).map
        fun data => (AtomicLongMap.get data m).toInt).sum +
      (AtomicLongMap.get ((machine provider).after ds).counter m).toInt

instance (provider : ProviderBean) (ds : List Delivery) (m : String) :
    Decidable (Conserved provider ds m) := inferInstanceAs (Decidable (_ = _))

/-! ## 2. The reference as a tally -/

instance (target : Bean) (invoke : Invoke) (event : CallMethod) :
    Decidable (Answered target invoke event) :=
  decidable_of_iff _ (answer_thrown_iff target invoke event)

/-- What a message does to the counts. -/
def tallyOp (target : Bean) (d : Delivery) : TallyOp String :=
  match d.message with
  | .callMethod event =>
    if Answered target d.invoke event then .count event.methodName else .fail event.methodName
  | .callCount => .report
  | .other => .skip

/-- The counter holds what the tally holds, in 64 bits. -/
structure Follows (provider : ProviderBean) (s : RpcProviderActor) (t : Tally String) : Prop where
  target : s.target = provider.implementor
  counter : ∀ m, AtomicLongMap.get s.counter m = Int64.ofNat (t.held m)

/-- What is seen of an output: the counts it reports. -/
def seen (o : RpcOutput) : Option (String → Int64) :=
  (countData o).map fun data m => AtomicLongMap.get data m

theorem countData_answer (target : Bean) (invoke : Invoke) (event : CallMethod) :
    (answer target invoke event).1.filterMap seen = [] := by
  unfold answer
  cases resolve target event with
  | error e => rfl
  | ok method =>
    cases hi : invoke method (args event) with
    | error e => simp [hi, seen, countData]
    | ok v => cases v <;> simp [hi, seen, countData]

/-- A counter incremented follows a tally that counts. -/
theorem get_getAndIncrement_ofNat {c : AtomicLongMap String} {held : String → Nat}
    (h : ∀ m, AtomicLongMap.get c m = Int64.ofNat (held m)) (k m : String) :
    AtomicLongMap.get (AtomicLongMap.getAndIncrement c k) m =
      Int64.ofNat (Tally.bump held k m) := by
  rw [AtomicLongMap.get_getAndIncrement, h m, Tally.bump, Int64.ofNat_add]
  congr 1
  split <;> rfl

/-- One message is one operation of the tally. -/
theorem follows_step {provider : ProviderBean} {s : RpcProviderActor} {t : Tally String}
    (h : Follows provider s t) (d : Delivery) :
    Follows provider ((machine provider).step s d).1
        (t.step (tallyOp provider.implementor d)).1 ∧
      ((machine provider).step s d).2.filterMap seen =
        (t.step (tallyOp provider.implementor d)).2.map fun r m => Int64.ofNat (r m) := by
  obtain ⟨message, invoke⟩ := d
  cases message with
  | callMethod event =>
    by_cases ha : Answered provider.implementor invoke event
    · have hop : tallyOp provider.implementor ⟨.callMethod event, invoke⟩ =
          .count event.methodName := if_pos ha
      rw [hop, step_answered (h.target ▸ ha), countData_answer]
      exact ⟨⟨h.target, get_getAndIncrement_ofNat h.counter event.methodName⟩, rfl⟩
    · have hop : tallyOp provider.implementor ⟨.callMethod event, invoke⟩ =
          .fail event.methodName := if_neg ha
      rw [hop, step_failed (h.target ▸ ha), List.filterMap_append, countData_answer]
      exact ⟨⟨rfl, fun m => rfl⟩, rfl⟩
  | callCount =>
    rw [step_callCount]
    refine ⟨⟨h.target, fun m => rfl⟩, ?_⟩
    show [fun m => AtomicLongMap.get s.counter m] = [fun m => Int64.ofNat (t.held m)]
    rw [funext h.counter]
  | other =>
    rw [step_other]
    exact ⟨h, rfl⟩

/-- **The reference follows the tally of its run.** -/
theorem follows (provider : ProviderBean) (ds : List Delivery) :
    Follows provider ((machine provider).after ds)
        (Tally.machine.after (ds.map (tallyOp provider.implementor))) ∧
      ((machine provider).emitted ds).filterMap seen =
        (Tally.machine.emitted (ds.map (tallyOp provider.implementor))).map
          fun r m => Int64.ofNat (r m) :=
  Machine.simulation (R := Follows provider) ⟨rfl, fun _ => rfl⟩ rfl
    (fun _ _ d h => follows_step h d) ds

/-! ## 3. When the balance holds -/

/-- A count as 64 bits read it. -/
def long (n : Nat) : Int := (Int64.ofNat n).toInt

theorem long_eq_iff (n : Nat) : long n = n ↔ n < 2 ^ 63 := by
  constructor
  · intro h
    have hlt : long n < 2 ^ 63 := Int64.toInt_lt _
    omega
  · exact fun h => Int64.toInt_ofNat_of_lt h

theorem long_le (n : Nat) : long n ≤ n := by
  by_cases h : n < 2 ^ 63
  · exact le_of_eq ((long_eq_iff n).mpr h)
  · have hlt : long n < 2 ^ 63 := Int64.toInt_lt _
    omega

theorem counted_map_tallyOp (target : Bean) (m : String) (ds : List Delivery) :
    Tally.counted m (ds.map (tallyOp target)) = callsOf m ds := by
  induction ds with
  | nil => rfl
  | cons d ds ih =>
    have hd : Tally.counts m (tallyOp target d) =
        if d.message.call.map CallMethod.methodName = some m then 1 else 0 := by
      obtain ⟨message, invoke⟩ := d
      cases message with
      | callMethod event =>
        simp only [tallyOp, RpcMessage.call, Option.map_some, Option.some.injEq, eq_comm (b := m)]
        split <;> rfl
      | callCount => rfl
      | other => rfl
    unfold callsOf at ih ⊢
    rw [List.countP_cons, ← ih, List.map_cons]
    unfold Tally.counted
    rw [List.map_cons, List.sum_cons, hd, Nat.add_comm]
    simp only [decide_eq_true_eq]

/-- Nobody fails in the tally exactly when every call is answered. -/
theorem fail_notMem_iff (target : Bean) (ds : List Delivery) :
    (∀ m, TallyOp.fail m ∉ ds.map (tallyOp target)) ↔
      ∀ d ∈ ds, ∀ event, d.message = .callMethod event → Answered target d.invoke event := by
  constructor
  · intro h d hd event he
    by_contra hn
    refine h event.methodName (List.mem_map.mpr ⟨d, hd, ?_⟩)
    simp only [tallyOp, he, if_neg hn]
  · intro h m hm
    obtain ⟨d, hd, hop⟩ := List.mem_map.mp hm
    obtain ⟨message, invoke⟩ := d
    cases message with
    | callMethod event =>
      simp only [tallyOp, if_pos (h _ hd event rfl), reduceCtorEq] at hop
    | callCount => simp [tallyOp] at hop
    | other => simp [tallyOp] at hop

/-- A report in the tally is a `CallCount`. -/
theorem report_mem_iff (target : Bean) (ds : List Delivery) :
    TallyOp.report ∈ ds.map (tallyOp target) ↔ ∃ d ∈ ds, d.message = .callCount := by
  rw [List.mem_map]
  refine exists_congr fun d => and_congr_right fun _ => ?_
  obtain ⟨message, invoke⟩ := d
  cases message with
  | callMethod event =>
    simp only [tallyOp, reduceCtorEq, iff_false]
    split <;> simp
  | callCount => simp [tallyOp]
  | other => simp [tallyOp]

/-- Every call of the run is answered, and no counter overflows between two reports. -/
structure Steady (target : Bean) (ds : List Delivery) : Prop where
  answered : ∀ d ∈ ds, ∀ event, d.message = .callMethod event → Answered target d.invoke event
  bounded : ∀ m w, w <:+: ds → (∀ d ∈ w, d.message ≠ .callCount) → callsOf m w < 2 ^ 63

theorem Steady.mono {target : Bean} {p ds : List Delivery} (hp : p <+: ds)
    (h : Steady target ds) : Steady target p where
  answered d hd := h.answered d (hp.subset hd)
  bounded m w hw := h.bounded m w (hw.trans hp.isInfix)

/-- The reports and the rest, read through the tally. -/
theorem conserved_iff_tally (provider : ProviderBean) (ds : List Delivery) (m : String) :
    Conserved provider ds m ↔
      (Tally.machine.after (ds.map (tallyOp provider.implementor))).lost m = 0 ∧
        ∀ r ∈ Tally.machine.emitted (ds.map (tallyOp provider.implementor)) ++
          [(Tally.machine.after (ds.map (tallyOp provider.implementor))).held], r m < 2 ^ 63 := by
  obtain ⟨hf, ho⟩ := follows provider ds
  have hsum : (((machine provider).emitted ds).filterMap countData).map
      (fun data => (AtomicLongMap.get data m).toInt) =
      (Tally.machine.emitted (ds.map (tallyOp provider.implementor))).map
        fun r => long (r m) := by
    have h := congrArg (List.map fun f : String → Int64 => (f m).toInt) ho
    rw [List.map_map, List.map_filterMap] at h
    rw [List.map_filterMap]
    refine Eq.trans (List.filterMap_congr fun o _ => ?_) h
    unfold seen
    rw [Option.map_map]
    rfl
  unfold Conserved
  rw [hsum, hf.counter m, ← counted_map_tallyOp provider.implementor, eq_comm]
  refine (Tally.balance_capped_iff long_le m _).trans ?_
  simp only [long_eq_iff]

/-- **The counts of one moment balance, for every method, exactly in a steady run.** -/
theorem forall_conserved_iff (provider : ProviderBean) (ds : List Delivery) :
    (∀ m, Conserved provider ds m) ↔ Steady provider.implementor ds := by
  have hlost := Tally.lost_eq_zero_iff (ds.map (tallyOp provider.implementor))
  rw [fail_notMem_iff] at hlost
  have hbounded : (∀ m, TallyOp.fail m ∉ ds.map (tallyOp provider.implementor)) → ∀ m,
      (∀ r ∈ Tally.machine.emitted (ds.map (tallyOp provider.implementor)) ++
          [(Tally.machine.after (ds.map (tallyOp provider.implementor))).held], r m < 2 ^ 63) ↔
        ∀ w, w <:+: ds → (∀ d ∈ w, d.message ≠ .callCount) → callsOf m w < 2 ^ 63 := by
    intro hf m
    refine (Tally.windows_lt_iff m (2 ^ 63) hf).trans ?_
    constructor
    · intro h w hw hwr
      rw [← counted_map_tallyOp provider.implementor]
      refine h _ (hw.map _) fun hr => ?_
      obtain ⟨d, hd, hc⟩ := (report_mem_iff _ _).mp hr
      exact hwr d hd hc
    · intro h w hw hwr
      obtain ⟨v, hv, rfl⟩ := List.infix_map_iff.mp hw
      rw [counted_map_tallyOp]
      exact h v hv fun d hd hc => hwr ((report_mem_iff _ _).mpr ⟨d, hd, hc⟩)
  constructor
  · intro h
    have ha := hlost.mp fun m => ((conserved_iff_tally provider ds m).mp (h m)).1
    refine ⟨ha, fun m => (hbounded ((fail_notMem_iff _ _).mpr ha) m).mp ?_⟩
    exact ((conserved_iff_tally provider ds m).mp (h m)).2
  · intro h m
    refine (conserved_iff_tally provider ds m).mpr ⟨hlost.mpr h.answered m, ?_⟩
    exact (hbounded ((fail_notMem_iff _ _).mpr h.answered) m).mpr (h.bounded m)

/-- **The calls of every method are those reported and those held, at every moment of a run, if
    and only if every call of the run is answered and no stretch without a report holds `2 ^ 63`
    calls of one method.** -/
theorem conserved_iff (provider : ProviderBean) (ds : List Delivery) :
    (∀ p, p <+: ds → ∀ m, Conserved provider p m) ↔ Steady provider.implementor ds :=
  forall_prefix_iff (forall_conserved_iff provider) (fun _ _ hp h => h.mono hp) ds

/-- One call of a method that is not there: counted, and lost with the instance. -/
theorem not_conserved_missing :
    ¬ Conserved
      { interfaze := ⟨"org.demo.Greeter", [⟨"hello", []⟩]⟩
        protocols := none
        implementor := ⟨0, ⟨"org.demo.GreeterImpl", [⟨"hello", []⟩]⟩⟩ }
      [⟨.callMethod ⟨"goodbye", none, none⟩, fun _ _ => .ok (.obj "java.lang.String" 0)⟩]
      "goodbye" := by
  decide

end RpcProviderActor

end EsbCore
