/-
  File:      EsbCore/Rpc/PoolCount.lean
  Subject:   WHAT BECOMES OF THE CALL COUNTS OF A POOL: its actors count and report each for itself,
             and the router spreads the calls over them.

  * `callsOf_received` -- the calls a routee counts are the calls of the exchange it handled;
  * `poolBalanced_iff` -- the calls handled by a pool are those its actors reported and those they
    hold, at every moment, exactly when every actor's own messages are steady: whichever way the
    router spread the calls. A failing call restarts the other actors of its pool too; it loses
    a count of its own already, and without one there is no restart at all.
-/
import EsbCore.Rpc.CallCount
import EsbCore.Rpc.RpcExchange
import Mathlib.Algebra.Order.BigOperators.Group.Finset

namespace EsbCore

open Java Lib

/-! ## 1. One routee -/

namespace RpcProviderActor

/-- The counts reported in an output, if it is a report. -/
def reportedCount (m : String) (o : RpcOutput) : Int :=
  ((countData o).map fun data => (AtomicLongMap.get data m).toInt).getD 0

theorem sum_filterMap_countData (m : String) (os : List RpcOutput) :
    ((os.filterMap countData).map fun data => (AtomicLongMap.get data m).toInt).sum =
      (os.map (reportedCount m)).sum := by
  induction os with
  | nil => rfl
  | cons o os ih =>
    rw [List.map_cons, List.sum_cons, ← ih]
    unfold reportedCount
    cases h : countData o with
    | none =>
      rw [List.filterMap_cons_none h]
      exact (Int.zero_add _).symm
    | some data =>
      rw [List.filterMap_cons_some h]
      rfl

/-- The counts reported, read through what is seen of the outputs. -/
theorem map_countData (m : String) (os : List RpcOutput) :
    (os.filterMap countData).map (fun data => (AtomicLongMap.get data m).toInt) =
      (os.filterMap seen).map fun f => (f m).toInt := by
  rw [List.map_filterMap, List.map_filterMap]
  refine List.filterMap_congr fun o _ => ?_
  unfold seen
  rw [Option.map_map]
  rfl

/-- A reference never reports and holds more than it counted. -/
theorem reported_add_held_le (provider : ProviderBean) (ds : List Delivery) (m : String) :
    (((machine provider).emitted ds).map (reportedCount m)).sum +
      (AtomicLongMap.get ((machine provider).after ds).counter m).toInt ≤ (callsOf m ds : Int) := by
  obtain ⟨hf, ho⟩ := follows provider ds
  have hb := Tally.balance m (ds.map (tallyOp provider.implementor))
  have hle := Tally.sum_capped_le long_le
    ((Tally.machine.emitted (ds.map (tallyOp provider.implementor))).map (· m))
  have hheld := long_le ((Tally.machine.after (ds.map (tallyOp provider.implementor))).held m)
  have hsum : (((machine provider).emitted ds).map (reportedCount m)).sum =
      (((Tally.machine.emitted (ds.map (tallyOp provider.implementor))).map (· m)).map long).sum := by
    rw [← sum_filterMap_countData, map_countData, ho, List.map_map, List.map_map]
    rfl
  rw [hsum, hf.counter m, ← counted_map_tallyOp provider.implementor, hb]
  show _ + long _ ≤ _
  simp only [Nat.cast_add]
  omega

end RpcProviderActor

namespace RpcExchange

variable {pools : List RpcPool}

/-- A call of `m`, among requests handled. -/
def isCallOf (m : String) (x : Nat × Routee pools × Delivery) : Bool :=
  x.2.2.message.call.map CallMethod.methodName = some m

theorem callsOf_concat (m : String) (ds : List Delivery) (d : Delivery) :
    RpcProviderActor.callsOf m (ds ++ [d]) = RpcProviderActor.callsOf m ds +
      if d.message.call.map CallMethod.methodName = some m then 1 else 0 := by
  unfold RpcProviderActor.callsOf
  rw [List.countP_append, List.countP_cons, List.countP_nil, Nat.zero_add]
  simp only [decide_eq_true_eq]

/-- **The calls a routee counts are those it handled.** -/
theorem callsOf_received (m : String) (k : Routee pools) (es : List (RpcExchangeEvent pools)) :
    RpcProviderActor.callsOf m ((rpcExchange pools).received k es) =
      ((rpcExchange pools).handled es).countP fun x => x.2.1 = k ∧ isCallOf m x := by
  induction es using List.reverseRecOn with
  | nil => rfl
  | append_singleton es e ih =>
    rw [Exchange.received_concat, Exchange.handled_concat, List.countP_append, ← ih]
    cases (rpcExchange pools).move ((rpcExchange pools).machine.after es) e with
    | made client => simp [Exchange.messageFor, Exchange.handledIn]
    | nothing => simp [Exchange.messageFor, Exchange.handledIn]
    | settled i q x => simp [Exchange.messageFor, Exchange.handledIn]
    | served k' n =>
      have hn : n.1.message.call = none := n.2
      by_cases hk : k' = k
      · simp only [Exchange.messageFor, Exchange.handledIn, if_pos hk, Option.toList_some,
          Option.toList_none, List.countP_nil, Nat.add_zero]
        rw [callsOf_concat]
        show _ + (if n.1.message.call.map CallMethod.methodName = some m then 1 else 0) = _
        rw [hn, if_neg (by simp), Nat.add_zero]
      · simp [Exchange.messageFor, Exchange.handledIn, if_neg hk]
    | handled i q k' invoke =>
      by_cases hk : k' = k
      · simp only [Exchange.messageFor, Exchange.handledIn, if_pos hk, Option.toList_some]
        rw [callsOf_concat, List.countP_singleton]
        simp [hk, isCallOf]
      · simp [Exchange.messageFor, Exchange.handledIn, hk]

/-- What a routee has reported of `m`. -/
def reported (m : String) (k : Routee pools) (es : List (RpcExchangeEvent pools)) : Int :=
  ((((rpcExchange pools).machine.emitted es).filterMap (ExchangeOutput.serverIn k)).map
    (RpcProviderActor.reportedCount m)).sum

/-- What a routee holds of `m`. -/
def held (m : String) (k : Routee pools) (es : List (RpcExchangeEvent pools)) : Int :=
  (AtomicLongMap.get (((rpcExchange pools).machine.after es).servers k).counter m).toInt

/-- A routee's reports and counts are those of its reference. -/
theorem routee_eq (m : String) (k : Routee pools) (es : List (RpcExchangeEvent pools)) :
    reported m k es = (((RpcProviderActor.machine (providerOf k)).emitted
        ((rpcExchange pools).received k es)).map (RpcProviderActor.reportedCount m)).sum ∧
      held m k es = (AtomicLongMap.get ((RpcProviderActor.machine (providerOf k)).after
        ((rpcExchange pools).received k es)).counter m).toInt := by
  obtain ⟨ha, ho⟩ := (rpcExchange pools).server_after k es
  have ha : _ = (RpcProviderActor.machine (providerOf k)).after _ := ha
  have ho : _ = (RpcProviderActor.machine (providerOf k)).emitted _ := ho
  constructor
  · rw [← ho, List.map_append, List.sum_append]
    exact (Int.zero_add _).symm
  · rw [← ha]
    rfl

/-- A routee never reports and holds more than it counted. -/
theorem reported_add_held_le (m : String) (k : Routee pools) (es : List (RpcExchangeEvent pools)) :
    reported m k es + held m k es ≤
      (RpcProviderActor.callsOf m ((rpcExchange pools).received k es) : Int) := by
  rw [(routee_eq m k es).1, (routee_eq m k es).2]
  exact RpcProviderActor.reported_add_held_le (providerOf k) _ m

/-- The balance of a routee is that of its reference. -/
theorem conserved_received_iff (m : String) (k : Routee pools)
    (es : List (RpcExchangeEvent pools)) :
    RpcProviderActor.Conserved (providerOf k) ((rpcExchange pools).received k es) m ↔
      (RpcProviderActor.callsOf m ((rpcExchange pools).received k es) : Int) =
        reported m k es + held m k es := by
  unfold RpcProviderActor.Conserved
  rw [RpcProviderActor.sum_filterMap_countData, (routee_eq m k es).1, (routee_eq m k es).2]

/-! ## 2. The pool -/

/-- The calls of `m` a pool has handled. -/
def poolCalls (m : String) (j : Fin pools.length) (es : List (RpcExchangeEvent pools)) : Nat :=
  ((rpcExchange pools).handled es).countP fun x => x.2.1.1 = j ∧ isCallOf m x

/-- The reports of a pool's actors, in an output. -/
def poolReportIn (j : Fin pools.length) :
    ExchangeOutput (Routee pools) RpcOutput Value → Option (AtomicLongMap String)
  | .server k o => if k.1 = j then RpcProviderActor.countData o else none
  | .decided _ _ => none

/-- The calls of `m` a pool has handled are those its actors have reported and those they hold. -/
def PoolBalanced (m : String) (j : Fin pools.length) (es : List (RpcExchangeEvent pools)) : Prop :=
  (poolCalls m j es : Int) =
    ((((rpcExchange pools).machine.emitted es).filterMap (poolReportIn j)).map
        fun data => (AtomicLongMap.get data m).toInt).sum +
      ∑ r, held m ⟨j, r⟩ es

/-- What one routee gives to its pool. -/
theorem sum_routees (k : Routee pools) (j : Fin pools.length) (a : Int) :
    (∑ r, if k = ⟨j, r⟩ then a else 0) = if k.1 = j then a else 0 := by
  obtain ⟨j', r'⟩ := k
  by_cases h : j' = j
  · subst h
    rw [if_pos rfl, Finset.sum_eq_single r' (fun r _ hr => if_neg fun h => hr ?_)
      fun h => absurd (Finset.mem_univ r') h, if_pos rfl]
    exact (eq_of_heq (Sigma.mk.inj h).2).symm
  · rw [if_neg h]
    refine Finset.sum_eq_zero fun r _ => if_neg fun hr => h ?_
    exact congrArg Sigma.fst hr

theorem poolCalls_eq_sum (m : String) (j : Fin pools.length) (es : List (RpcExchangeEvent pools)) :
    (poolCalls m j es : Int) =
      ∑ r, (RpcProviderActor.callsOf m ((rpcExchange pools).received ⟨j, r⟩ es) : Int) := by
  unfold poolCalls
  simp only [callsOf_received]
  induction (rpcExchange pools).handled es with
  | nil => simp
  | cons x xs ih =>
    simp only [List.countP_cons, Nat.cast_add, Finset.sum_add_distrib, ← ih]
    refine congrArg _ ?_
    cases hm : isCallOf m x with
    | false => simp
    | true => simpa using (sum_routees x.2.1 j 1).symm

theorem sum_poolReport_cons (m : String) (j : Fin pools.length) (k : Routee pools)
    (o : RpcOutput) (os : List (ExchangeOutput (Routee pools) RpcOutput Value)) :
    (((.server k o :: os).filterMap (poolReportIn j)).map
        fun data => (AtomicLongMap.get data m).toInt).sum =
      (if k.1 = j then RpcProviderActor.reportedCount m o else 0) +
        ((os.filterMap (poolReportIn j)).map fun data => (AtomicLongMap.get data m).toInt).sum := by
  by_cases h : k.1 = j
  · have ho : poolReportIn j (.server k o) = RpcProviderActor.countData o := if_pos h
    rw [if_pos h]
    unfold RpcProviderActor.reportedCount
    cases hc : RpcProviderActor.countData o with
    | none =>
      rw [List.filterMap_cons_none (ho.trans hc)]
      exact (Int.zero_add _).symm
    | some data =>
      rw [List.filterMap_cons_some (ho.trans hc)]
      rfl
  · have ho : poolReportIn j (.server k o) = none := if_neg h
    rw [if_neg h, List.filterMap_cons_none ho, Int.zero_add]

theorem sum_serverIn_cons (m : String) (k k' : Routee pools) (o : RpcOutput)
    (os : List (ExchangeOutput (Routee pools) RpcOutput Value)) :
    (((.server k' o :: os).filterMap (ExchangeOutput.serverIn k)).map
        (RpcProviderActor.reportedCount m)).sum =
      (if k' = k then RpcProviderActor.reportedCount m o else 0) +
        ((os.filterMap (ExchangeOutput.serverIn k)).map
          (RpcProviderActor.reportedCount m)).sum := by
  by_cases h : k' = k
  · have ho : ExchangeOutput.serverIn k (.server k' o : ExchangeOutput _ _ Value) = some o :=
      if_pos h
    rw [if_pos h, List.filterMap_cons_some ho]
    rfl
  · have ho : ExchangeOutput.serverIn k (.server k' o : ExchangeOutput _ _ Value) = none :=
      if_neg h
    rw [if_neg h, List.filterMap_cons_none ho, Int.zero_add]

theorem poolReports_eq_sum (m : String) (j : Fin pools.length)
    (es : List (RpcExchangeEvent pools)) :
    ((((rpcExchange pools).machine.emitted es).filterMap (poolReportIn j)).map
        fun data => (AtomicLongMap.get data m).toInt).sum = ∑ r, reported m ⟨j, r⟩ es := by
  unfold reported
  induction (rpcExchange pools).machine.emitted es with
  | nil => simp
  | cons o os ih =>
    cases o with
    | decided i o => exact ih
    | server k o =>
      rw [sum_poolReport_cons, ih, ← sum_routees, ← Finset.sum_add_distrib]
      exact Finset.sum_congr rfl fun r _ => (sum_serverIn_cons m ⟨j, r⟩ k o os).symm

/-- The counts of one moment. -/
theorem forall_poolBalanced_iff (j : Fin pools.length) (es : List (RpcExchangeEvent pools)) :
    (∀ m, PoolBalanced m j es) ↔ ∀ r, RpcProviderActor.Steady
      (@providerOf pools ⟨j, r⟩).implementor ((rpcExchange pools).received ⟨j, r⟩ es) := by
  have hm : ∀ m, PoolBalanced m j es ↔
      ∀ r, RpcProviderActor.Conserved (@providerOf pools ⟨j, r⟩)
        ((rpcExchange pools).received ⟨j, r⟩ es) m := by
    intro m
    unfold PoolBalanced
    rw [poolCalls_eq_sum, poolReports_eq_sum, ← Finset.sum_add_distrib, eq_comm,
      Finset.sum_eq_sum_iff_of_le fun r _ => reported_add_held_le m ⟨j, r⟩ es]
    simp only [Finset.mem_univ, true_imp_iff, conserved_received_iff, eq_comm]
  simp only [hm, ← RpcProviderActor.forall_conserved_iff]
  exact forall_comm

/-- What a routee has received by a moment, it has received later on. -/
theorem received_mono (k : Routee pools) {p es : List (RpcExchangeEvent pools)} (h : p <+: es) :
    (rpcExchange pools).received k p <+: (rpcExchange pools).received k es := by
  obtain ⟨more, rfl⟩ := h
  induction more using List.reverseRecOn with
  | nil => rw [List.append_nil]
  | append_singleton more e ih =>
    rw [← List.append_assoc, Exchange.received_concat]
    exact ih.trans (List.prefix_append _ _)

/-- **The calls of every method handled by a pool are those its actors reported and those they
    hold, at every moment of a run, if and only if every actor of the pool answers every call that
    reaches it and no stretch without a report brings it `2 ^ 63` calls of one method.** -/
theorem poolBalanced_iff (j : Fin pools.length) (es : List (RpcExchangeEvent pools)) :
    (∀ p, p <+: es → ∀ m, PoolBalanced m j p) ↔ ∀ r, RpcProviderActor.Steady
      (@providerOf pools ⟨j, r⟩).implementor ((rpcExchange pools).received ⟨j, r⟩ es) :=
  forall_prefix_iff (forall_poolBalanced_iff j)
    (fun _ _ hp h r => (h r).mono (received_mono ⟨j, r⟩ hp)) es

end RpcExchange

end EsbCore
